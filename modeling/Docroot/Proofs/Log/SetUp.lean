import Docroot.Log.Journal
import Docroot.Proofs.Files.Opening

/-!
# Setting up the log writer

Setting up opens the access log and then the error log, and keeps the sinks it gets. The sink of a
log that has a file is the file that its name leads to, in directories that are made where they were
missing (`OpensSink`). So there are two reasons why setting up fails, and no others: the writer is
set up already, or one of the logs cannot be opened (`setUp_eq_ok_iff`, `setUp_cases`).

Whether it succeeds or not, what was written stays (`keepsWritten_setUp`).
-/

namespace Docroot.Log

open Docroot.Files

/-! ## 1. Sinks -/

/-- The file system with the directories that a file is to be in. -/
def MakesParent (fs : FileSystem) (p : Path) (between : FileSystem) : Prop :=
  match p.parent? with
  | some parent => fs.MakesDirectories parent between
  | none => between = fs

/-- **The sink of a log is opened**: the stream that it has otherwise, or the file that its name leads
    to. -/
inductive OpensSink (fs : FileSystem) (now : Time.Instant) (otherwise : Sink) :
    Option Text → FileSystem → Sink → Prop where
  | stream : OpensSink fs now otherwise none fs otherwise
  | file {name : Text} {between opened : FileSystem} {place : Place} :
    MakesParent fs (Utf8.encode name) between →
    between.OpensFile now (Utf8.encode name) opened place →
    OpensSink fs now otherwise (some name) opened (.file place)

/-- What becomes of the directories that a file is in, when it is to be opened. -/
def directoriesMade (fs : FileSystem) (p : Path) : FileSystem × Except IoError Unit :=
  match p.parent? with
  | some parent => fs.makeDirectories parent
  | none => (fs, .ok ())

theorem directoriesMade_eq_ok_iff {fs between : FileSystem} {p : Path} :
    directoriesMade fs p = (between, .ok ()) ↔ MakesParent fs p between := by
  unfold directoriesMade MakesParent
  cases p.parent? with
  | some parent => exact FileSystem.makeDirectories_eq_ok_iff
  | none => simp [eq_comm]

theorem openLogFile_eq (fs : FileSystem) (now : Time.Instant) (name : Text) :
    openLogFile fs now name = match directoriesMade fs (Utf8.encode name) with
      | (fs, .error e) => (fs, .error e)
      | (fs, .ok ()) => match fs.openForAppend now (Utf8.encode name) with
        | .error e => (fs, .error e)
        | .ok (fs, place) => (fs, .ok (.file place)) := rfl

section

variable {fs opened : FileSystem} {now : Time.Instant} {otherwise sink : Sink}

theorem openLogFile_eq_ok_iff {name : Text} :
    openLogFile fs now name = (opened, .ok sink)
      ↔ ∃ between place, MakesParent fs (Utf8.encode name) between
        ∧ between.OpensFile now (Utf8.encode name) opened place ∧ sink = .file place := by
  rw [openLogFile_eq]
  constructor
  · intro h
    split at h
    · cases h
    · next between hbetween =>
      split at h
      · cases h
      · next place hopen =>
        cases h
        exact ⟨between, place, directoriesMade_eq_ok_iff.1 hbetween,
          FileSystem.openForAppend_eq_ok_iff.1 hopen, rfl⟩
  · rintro ⟨between, place, hbetween, hopen, rfl⟩
    rw [directoriesMade_eq_ok_iff.2 hbetween]
    dsimp only
    rw [FileSystem.openForAppend_eq_ok_iff.2 hopen]

/-- **When the sink of a log is opened**, and which. -/
theorem openSink_eq_ok_iff {name : Option Text} :
    openSink fs now name otherwise = (opened, .ok sink)
      ↔ OpensSink fs now otherwise name opened sink := by
  cases name with
  | none =>
    constructor
    · intro h
      cases h
      exact .stream
    · rintro ⟨⟩
      rfl
  | some name =>
    refine openLogFile_eq_ok_iff.trans ⟨?_, ?_⟩
    · rintro ⟨between, place, hbetween, hopen, rfl⟩
      exact .file hbetween hopen
    · intro h
      cases h with
      | file hbetween hopen => exact ⟨_, _, hbetween, hopen, rfl⟩

end

theorem held_directoriesMade {fs : FileSystem} {p : Path} {made : FileSystem × Except IoError Unit}
    (h : directoriesMade fs p = made) (place : Place) : made.1.top.held place = fs.top.held place := by
  rw [← h]
  unfold directoriesMade
  cases p.parent? with
  | none => rfl
  | some parent => exact FileSystem.held_makeDirectories fs parent place

/-- **Opening a sink keeps the contents of every file**, whether it succeeds or not. -/
theorem held_openSink (fs : FileSystem) (now : Time.Instant) (name : Option Text) (s : Sink)
    (place : Place) : (openSink fs now name s).1.top.held place = fs.top.held place := by
  cases name with
  | none => rfl
  | some n =>
    unfold openSink
    dsimp only
    rw [openLogFile_eq]
    split
    · next fs' e h => exact held_directoriesMade h place
    · next fs' h =>
      split
      · exact held_directoriesMade h place
      · next opened at' hopen =>
        exact (FileSystem.held_openForAppend hopen place).trans (held_directoriesMade h place)

/-! ## 2. The writer -/

namespace Journal

/-- **The log writer is set up** as `w`, with these files then: it was not before, and both logs were
    opened, one after the other. -/
structure SetsUp (j : Journal) (now : Time.Instant) (o : WriterOptions) (files : FileSystem)
    (w : Writer) : Prop where
  unset : j.writer = none
  opened : ∃ between, OpensSink j.files now .standardOutput o.accessLogFile between w.access
    ∧ OpensSink between now .standardError o.errorLogFile files w.error
  debug : w.debug = o.debug

variable {j : Journal} {now : Time.Instant} {o : WriterOptions}

/-- **When setting up succeeds**, and what it changes. -/
theorem setUp_eq_ok_iff {done : Journal} :
    j.setUp now o = (done, .ok ())
      ↔ ∃ files w, j.SetsUp now o files w ∧ done = { j with files, writer := some w } := by
  unfold setUp
  constructor
  · intro h
    split at h
    · cases h
    · next between access haccess =>
      split at h
      · cases h
      · next files error herror =>
        split at h
        · cases h
        · next hunset =>
          cases h
          exact ⟨files, ⟨access, error, o.debug⟩, ⟨hunset, ⟨between, openSink_eq_ok_iff.1 haccess,
            openSink_eq_ok_iff.1 herror⟩, rfl⟩, rfl⟩
  · rintro ⟨files, ⟨access, error, debug⟩, ⟨hunset, ⟨between, haccess, herror⟩, hdebug⟩, rfl⟩
    cases hdebug
    rw [openSink_eq_ok_iff.2 haccess]
    dsimp only
    rw [openSink_eq_ok_iff.2 herror]
    dsimp only
    rw [hunset]

/-- **Setting up is refused**: there is an error, for the reason that the writer is set up already or
    that one of the logs cannot be opened. The writer stays as it is. -/
structure Refuses (j : Journal) (now : Time.Instant) (o : WriterOptions) : Prop where
  error : ∃ e, (j.setUp now o).2 = .error e
  reason : j.writer ≠ none ∨ ¬∃ between access files error,
    OpensSink j.files now .standardOutput o.accessLogFile between access
      ∧ OpensSink between now .standardError o.errorLogFile files error
  writer : (j.setUp now o).1.writer = j.writer

/-- **What was written stays**, and the files keep what they hold. -/
structure KeepsWritten (j k : Journal) : Prop where
  output : k.output = j.output
  errors : k.errors = j.errors
  held : ∀ place, k.files.top.held place = j.files.top.held place

theorem keepsWritten_setUp (j : Journal) (now : Time.Instant) (o : WriterOptions) :
    j.KeepsWritten (j.setUp now o).1 := by
  have haccess := held_openSink j.files now o.accessLogFile .standardOutput
  unfold setUp
  split
  · next files e h =>
    rw [h] at haccess
    exact ⟨rfl, rfl, haccess⟩
  · next files access h =>
    rw [h] at haccess
    have herror := held_openSink files now o.errorLogFile .standardError
    split
    · next files' e h =>
      rw [h] at herror
      exact ⟨rfl, rfl, fun place => (herror place).trans (haccess place)⟩
    · next files' error h =>
      rw [h] at herror
      split <;> exact ⟨rfl, rfl, fun place => (herror place).trans (haccess place)⟩

/-- The writer stays if it cannot be set up. -/
theorem writer_setUp_of_error {e : IoError} (h : (j.setUp now o).2 = .error e) :
    (j.setUp now o).1.writer = j.writer := by
  unfold setUp at h ⊢
  split at h
  · rfl
  · split at h
    · rfl
    · split at h
      · rfl
      · cases h

/-- **Setting up succeeds or is refused.** -/
theorem setUp_cases (j : Journal) (now : Time.Instant) (o : WriterOptions) :
    j.Refuses now o ∨ ∃ files w, j.SetsUp now o files w
      ∧ j.setUp now o = ({ j with files, writer := some w }, .ok ()) := by
  cases hresult : (j.setUp now o).2 with
  | ok =>
    have hdone : j.setUp now o = ((j.setUp now o).1, .ok ()) := Prod.ext rfl hresult
    obtain ⟨files, w, hup, hfirst⟩ := setUp_eq_ok_iff.1 hdone
    exact Or.inr ⟨files, w, hup, hdone.trans (by rw [hfirst])⟩
  | error e =>
    refine Or.inl ⟨⟨e, hresult⟩, ?_, writer_setUp_of_error hresult⟩
    cases hwriter : j.writer with
    | some w => exact Or.inl (by simp)
    | none =>
      refine Or.inr ?_
      rintro ⟨between, access, files, error, haccess, herror⟩
      have hup : j.SetsUp now o files ⟨access, error, o.debug⟩ :=
        ⟨hwriter, ⟨between, haccess, herror⟩, rfl⟩
      rw [setUp_eq_ok_iff.2 ⟨files, _, hup, rfl⟩] at hresult
      cases hresult

/-- A writer that is set up stays, and no attempt to set it up again succeeds. -/
theorem refuses_of_writer {w : Writer} (h : j.writer = some w) (now : Time.Instant)
    (o : WriterOptions) : j.Refuses now o := by
  rcases j.setUp_cases now o with hrefuses | ⟨files, w', hup, -⟩
  · exact hrefuses
  · cases h.symm.trans hup.unset

end Journal

end Docroot.Log

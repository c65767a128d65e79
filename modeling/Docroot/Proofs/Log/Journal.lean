import Docroot.Log.AccessEntry
import Docroot.Proofs.Log.SetUp
import Docroot.Proofs.Text.Utf8

/-!
# Every line reaches its sink

A process sets up its log writer any number of times, and writes lines, all in any order. Where a
line goes is decided by the first time that setting up succeeds (`routes_every_line`), which is the
first time that both logs can be opened: until then access lines go to standard output, error lines
to standard error and debug messages nowhere; from then on the sinks and the debug switch of that
time hold, and no later attempt succeeds or changes them. What a sink holds in the end is what it
held in the beginning and then the lines routed to it, in the order of writing, each ended by a line
feed. This holds sink by sink, so it also holds of a file that is the sink of both logs.

One operation is settled first (`content_perform`), then a run in which the writer stays as it is
(`content_run`); a run as a whole is two of them with the setting up between.
-/

namespace Docroot.Log

open Docroot.Files

/-! ## 1. Operations and their lines -/

/-- What a process does with its logs. -/
inductive Operation where
  | setUp (now : Time.Instant) (o : WriterOptions)
  | access (e : AccessEntry) (format : Text)
  | notice (n : Notice)
  | banner (port : Nat)
  | farewell

/-- Where lines go as long as no log writer is set up. -/
def Writer.initial : Writer := ⟨.standardOutput, .standardError, false⟩

/-- **The lines that an operation is to write**, each with its sink. -/
def Operation.lines (w : Writer) : Operation → List (Sink × Text)
  | .setUp .. => []
  | .access e format => [(w.access, e.line format)]
  | .notice n => if n.severity = .debug ∧ w.debug = false then [] else [(w.error, n.line)]
  | .banner port => (Journal.bannerLines port).map (.standardOutput, ·)
  | .farewell => [(.standardOutput, "\nServer stopped.".toList)]

/-- The text that a sink gets when lines are written, each ended by a line feed. -/
def received (s : Sink) (lines : List (Sink × Text)) : Text :=
  (lines.filter (·.1 = s)).flatMap fun l => l.2 ++ ['\n']

theorem received_append (s : Sink) (l m : List (Sink × Text)) :
    received s (l ++ m) = received s l ++ received s m := by
  unfold received
  rw [List.filter_append, List.flatMap_append]

theorem received_cons (s : Sink) (line : Sink × Text) (l : List (Sink × Text)) :
    received s (line :: l) = (if line.1 = s then line.2 ++ ['\n'] else []) ++ received s l := by
  unfold received
  by_cases h : line.1 = s
  · simp [h]
  · simp [h]

namespace Journal

/-- The journal after an operation. -/
def perform (j : Journal) : Operation → Journal
  | .setUp now o => (j.setUp now o).1
  | .access e format => j.access (e.line format)
  | .notice n => j.notice n
  | .banner port => j.banner port
  | .farewell => j.farewell

/-- The journal after operations, one after the other. -/
def run (j : Journal) (ops : List Operation) : Journal := ops.foldl perform j

/-- The writer that is in force. -/
def inForce (j : Journal) : Writer := j.writer.getD .initial

/-- What a sink holds. -/
def content (j : Journal) : Sink → Bytes
  | .standardOutput => Utf8.encode j.output
  | .standardError => Utf8.encode j.errors
  | .file place => j.files.top.held place

/-- What is written to the sink succeeds. -/
def Takes (j : Journal) : Sink → Prop
  | .file place => j.files.Takes place
  | _ => True

instance (j : Journal) : (s : Sink) → Decidable (j.Takes s)
  | .standardOutput => isTrue trivial
  | .standardError => isTrue trivial
  | .file place => inferInstanceAs (Decidable (j.files.Takes place))

/-- Everything that a run writes is taken by its sink at that time. -/
def WritesSucceed : Journal → List Operation → Prop
  | _, [] => True
  | j, op :: ops => (∀ line ∈ op.lines j.inForce, j.Takes line.1) ∧ WritesSucceed (j.perform op) ops

instance decidableWritesSucceed : (j : Journal) → (ops : List Operation) →
    Decidable (j.WritesSucceed ops)
  | _, [] => isTrue trivial
  | j, op :: ops =>
    have := decidableWritesSucceed (j.perform op) ops
    inferInstanceAs (Decidable ((∀ line ∈ op.lines j.inForce, j.Takes line.1) ∧ _))

/-- Every attempt of a run to set up the log writer is refused. -/
def RefusesSetUp : Journal → List Operation → Prop
  | _, [] => True
  | j, op :: ops => (∀ now o, op = .setUp now o → j.Refuses now o) ∧ RefusesSetUp (j.perform op) ops

/-! ## 2. One operation -/

theorem content_setUp (j : Journal) (now : Time.Instant) (o : WriterOptions) (s : Sink) :
    (j.setUp now o).1.content s = j.content s := by
  have hkeeps := keepsWritten_setUp j now o
  cases s with
  | standardOutput => exact congrArg Utf8.encode hkeeps.output
  | standardError => exact congrArg Utf8.encode hkeeps.errors
  | file place => exact hkeeps.held place

/-- **A line that is taken goes to the end of its sink**, with a line feed behind it, and to no other
    sink. -/
theorem content_putLine {j : Journal} {s : Sink} (h : j.Takes s) (line : Text) (t : Sink) :
    (j.putLine s line).content t
      = j.content t ++ Utf8.encode (received t [(s, line)]) := by
  have hreceived : received t [(s, line)] = if s = t then line ++ ['\n'] else [] := by
    rw [received_cons]
    exact List.append_nil _
  rw [hreceived]
  cases s with
  | standardOutput =>
    cases t with
    | standardOutput => exact Utf8.encode_append _ _
    | _ => exact (List.append_nil _).symm
  | standardError =>
    cases t with
    | standardError => exact Utf8.encode_append _ _
    | _ => exact (List.append_nil _).symm
  | file place =>
    cases t with
    | file place' =>
      have hheld := FileSystem.held_append h (Utf8.encode (line ++ ['\n'])) place'
      by_cases hplace : place = place'
      · subst hplace
        rw [if_pos rfl] at hheld ⊢
        exact hheld
      · have hne : ¬Sink.file place = Sink.file place' := fun e => hplace (Sink.file.inj e)
        rw [if_neg hplace] at hheld
        rw [if_neg hne]
        exact hheld
    | _ => exact (List.append_nil _).symm

/-- Lines for standard output are always taken. -/
theorem content_foldl_output (lines : List Text) (j : Journal) (t : Sink) :
    (lines.foldl (·.putLine .standardOutput ·) j).content t
      = j.content t ++ Utf8.encode (received t (lines.map (.standardOutput, ·))) := by
  induction lines generalizing j with
  | nil => exact (List.append_nil _).symm
  | cons line lines ih =>
    have htakes : j.Takes .standardOutput := trivial
    have hcons := received_append t [(.standardOutput, line)] (lines.map (.standardOutput, ·))
    rw [List.foldl_cons, ih, content_putLine htakes, List.append_assoc, ← Utf8.encode_append,
      ← hcons]
    rfl

theorem accessSink_eq (j : Journal) : j.accessSink = j.inForce.access := by
  unfold accessSink inForce
  cases j.writer <;> rfl

theorem errorSink_eq (j : Journal) : j.errorSink = j.inForce.error := by
  unfold errorSink inForce
  cases j.writer <;> rfl

theorem debugOn_eq (j : Journal) : j.debugOn = j.inForce.debug := by
  unfold debugOn inForce
  cases j.writer <;> rfl

/-- **An operation adds its lines to their sinks**, and nothing else. -/
theorem content_perform {j : Journal} {op : Operation}
    (h : ∀ line ∈ op.lines j.inForce, j.Takes line.1) (s : Sink) :
    (j.perform op).content s
      = j.content s ++ Utf8.encode (received s (op.lines j.inForce)) := by
  cases op with
  | setUp now o => exact (content_setUp j now o s).trans (List.append_nil _).symm
  | access e format =>
    have htakes : j.Takes j.inForce.access := h (j.inForce.access, e.line format)
      (List.mem_singleton_self _)
    have hperform : j.perform (.access e format) = j.putLine j.inForce.access (e.line format) := by
      rw [← accessSink_eq]
      rfl
    rw [hperform]
    exact content_putLine htakes _ s
  | notice n =>
    unfold Operation.lines at h ⊢
    dsimp only at h ⊢
    unfold perform notice
    dsimp only
    rw [debugOn_eq, errorSink_eq]
    split at h
    · next hsilent =>
      rw [if_pos hsilent, if_pos hsilent]
      exact (List.append_nil _).symm
    · next hspoken =>
      rw [if_neg hspoken, if_neg hspoken]
      exact content_putLine (h _ (List.mem_singleton_self _)) _ s
  | banner port => exact content_foldl_output (bannerLines port) j s
  | farewell => exact content_putLine (s := .standardOutput) trivial _ s

theorem writer_put (j : Journal) (s : Sink) (t : Text) : (j.put s t).writer = j.writer := by
  cases s <;> rfl

theorem writer_foldl_output (lines : List Text) (j : Journal) :
    (lines.foldl (·.putLine .standardOutput ·) j).writer = j.writer := by
  induction lines generalizing j with
  | nil => rfl
  | cons line lines ih => exact (ih _).trans (writer_put j _ _)

/-- **Only setting up changes the writer**, and only if it succeeds. -/
theorem writer_perform {j : Journal} {op : Operation}
    (h : ∀ now o, op = .setUp now o → j.Refuses now o) : (j.perform op).writer = j.writer := by
  cases op with
  | setUp now o => exact (h now o rfl).writer
  | access e format => exact writer_put j _ _
  | notice n =>
    unfold perform notice
    dsimp only
    split
    · rfl
    · exact writer_put j _ _
  | banner port => exact writer_foldl_output _ j
  | farewell => exact writer_put j _ _

/-! ## 3. Runs -/

theorem run_append (j : Journal) (before after : List Operation) :
    j.run (before ++ after) = (j.run before).run after :=
  List.foldl_append

theorem writesSucceed_append {j : Journal} {before after : List Operation} :
    j.WritesSucceed (before ++ after)
      ↔ j.WritesSucceed before ∧ (j.run before).WritesSucceed after := by
  induction before generalizing j with
  | nil => exact ⟨fun h => ⟨trivial, h⟩, fun h => h.2⟩
  | cons op before ih =>
    have htail := @ih (j.perform op)
    exact ⟨fun h => ⟨⟨h.1, (htail.1 h.2).1⟩, (htail.1 h.2).2⟩,
      fun h => ⟨h.1.1, htail.2 ⟨h.1.2, h.2⟩⟩⟩

theorem writer_run {j : Journal} {ops : List Operation} (h : j.RefusesSetUp ops) :
    (j.run ops).writer = j.writer := by
  induction ops generalizing j with
  | nil => rfl
  | cons op ops ih => exact (ih h.2).trans (writer_perform h.1)

/-- **A run in which setting up is refused** adds its lines to their sinks, by the writer that was in
    force before it. -/
theorem content_run {j : Journal} {ops : List Operation} (hrefuses : j.RefusesSetUp ops)
    (hwrites : j.WritesSucceed ops) (s : Sink) :
    (j.run ops).content s
      = j.content s ++ Utf8.encode (received s (ops.flatMap (·.lines j.inForce))) := by
  induction ops generalizing j with
  | nil => exact (List.append_nil _).symm
  | cons op ops ih =>
    have hforce : (j.perform op).inForce = j.inForce := by
      unfold inForce
      rw [writer_perform hrefuses.1]
    have htail := ih hrefuses.2 hwrites.2
    rw [hforce, content_perform hwrites.1, List.append_assoc, ← Utf8.encode_append,
      ← received_append] at htail
    exact htail

/-- Where a writer is set up, every further attempt is refused. -/
theorem refusesSetUp_of_writer {j : Journal} {w : Writer} (h : j.writer = some w)
    (ops : List Operation) : j.RefusesSetUp ops := by
  induction ops generalizing j with
  | nil => trivial
  | cons op ops ih =>
    have hhead : ∀ now o, op = .setUp now o → j.Refuses now o :=
      fun now o _ => refuses_of_writer h now o
    exact ⟨hhead, ih ((writer_perform hhead).trans h)⟩

/-- An operation sets the writer up, or it does not. -/
theorem refuses_or_setsUp (j : Journal) (op : Operation) :
    (∀ now o, op = .setUp now o → j.Refuses now o)
      ∨ ∃ now o files w, op = .setUp now o ∧ j.SetsUp now o files w
        ∧ j.setUp now o = ({ j with files, writer := some w }, .ok ()) := by
  cases op with
  | setUp now o =>
    rcases j.setUp_cases now o with hrefuses | ⟨files, w, hup, hresult⟩
    · refine Or.inl fun now' o' e => ?_
      cases e
      exact hrefuses
    · exact Or.inr ⟨now, o, files, w, rfl, hup, hresult⟩
  | _ => exact Or.inl fun _ _ e => by cases e

/-- A run in which some attempt to set up the writer succeeds has a first one. -/
theorem refusesSetUp_or_exists_first (j : Journal) (ops : List Operation) :
    j.RefusesSetUp ops ∨ ∃ before now o after files w, ops = before ++ .setUp now o :: after
      ∧ j.RefusesSetUp before ∧ (j.run before).SetsUp now o files w
      ∧ (j.run before).setUp now o = ({ j.run before with files, writer := some w }, .ok ()) := by
  induction ops generalizing j with
  | nil => exact Or.inl trivial
  | cons op ops ih =>
    rcases j.refuses_or_setsUp op with hhead | ⟨now, o, files, w, rfl, hup, hresult⟩
    · rcases ih (j.perform op) with htail | ⟨before, now, o, after, files, w, rfl, hbefore, hup,
        hresult⟩
      · exact Or.inl ⟨hhead, htail⟩
      · exact Or.inr ⟨op :: before, now, o, after, files, w, rfl, ⟨hhead, hbefore⟩, hup, hresult⟩
    · exact Or.inr ⟨[], now, o, ops, files, w, rfl, trivial, hup, hresult⟩

/-- **How the lines of a run are routed.** A run in which every attempt to set up the log writer is
    refused leaves it so, and its lines go where lines go without one. Otherwise there is a first
    attempt that succeeds: the sinks that it opens stay for good, every other attempt is refused,
    and it alone decides where the lines after it go. What a sink holds in the end is what it held
    in the beginning, and then its lines in order. -/
inductive RoutesLines (j : Journal) (ops : List Operation) : Prop where
  | unset (refuses : j.RefusesSetUp ops) (writer : (j.run ops).writer = none)
    (content : ∀ s, (j.run ops).content s
      = j.content s ++ Utf8.encode (received s (ops.flatMap (·.lines .initial))))
  | set (before : List Operation) (now : Time.Instant) (o : WriterOptions) (after : List Operation)
    (files : FileSystem) (w : Writer) (split : ops = before ++ .setUp now o :: after)
    (refusesBefore : j.RefusesSetUp before) (setsUp : (j.run before).SetsUp now o files w)
    (result : (j.run before).setUp now o = ({ j.run before with files, writer := some w }, .ok ()))
    (refusesAfter : ((j.run before).setUp now o).1.RefusesSetUp after)
    (writer : (j.run ops).writer = some w)
    (content : ∀ s, (j.run ops).content s = j.content s ++ Utf8.encode (received s
      (before.flatMap (·.lines .initial) ++ after.flatMap (·.lines w))))

/-- **Every line reaches its sink**, once and in order, in a process whose log writer is not set up
    at the start and whose writes succeed. -/
theorem routes_every_line (j : Journal) (hnew : j.writer = none) (ops : List Operation)
    (hwrites : j.WritesSucceed ops) : RoutesLines j ops := by
  have hinitial : j.inForce = .initial := by
    unfold inForce
    rw [hnew]
    rfl
  rcases j.refusesSetUp_or_exists_first ops with hrefuses | ⟨before, now, o, after, files, w, rfl,
    hbefore, hup, hresult⟩
  · refine .unset hrefuses ((writer_run hrefuses).trans hnew) fun s => ?_
    rw [content_run hrefuses hwrites, hinitial]
  · obtain ⟨hwritesBefore, hwritesAfter⟩ := writesSucceed_append.1 hwrites
    have hw : ((j.run before).setUp now o).1.writer = some w := by rw [hresult]
    have hafter := refusesSetUp_of_writer hw after
    have hforce : ((j.run before).setUp now o).1.inForce = w := by
      unfold inForce
      rw [hw]
      rfl
    refine .set before now o after files w rfl hbefore hup hresult hafter ?_ fun s => ?_
    · rw [run_append]
      exact (writer_run hafter).trans hw
    · have hlast := content_run hafter hwritesAfter.2 s
      rw [hforce, content_setUp, content_run hbefore hwritesBefore, hinitial, List.append_assoc,
        ← Utf8.encode_append, ← received_append] at hlast
      rw [run_append]
      exact hlast

/-! ## 4. Items -/

section

variable (j : Journal)

theorem items_append (is ks : List Item) : j.items (is ++ ks) = (j.items is).items ks :=
  List.foldl_append

theorem notices_eq_items (ns : List Notice) : j.notices ns = j.items (ns.map .notice) := by
  unfold notices items
  rw [List.foldl_map]
  rfl

theorem writer_item (i : Item) : (j.item i).writer = j.writer := by
  cases i with
  | access line => exact writer_put j _ _
  | notice n => exact @writer_perform j (.notice n) fun _ _ e => by cases e

/-- Neither log is written to a file. -/
def WritesNoFile : Prop := ∀ place, j.accessSink ≠ .file place ∧ j.errorSink ≠ .file place

variable {j}

theorem files_put {s : Sink} (h : ∀ place, s ≠ .file place) (t : Text) :
    (j.put s t).files = j.files := by
  cases s with
  | file place => exact absurd rfl (h place)
  | _ => rfl

theorem WritesNoFile.files_item (h : j.WritesNoFile) (i : Item) : (j.item i).files = j.files := by
  cases i with
  | access line => exact files_put (fun place => (h place).1) _
  | notice n =>
    unfold item notice
    dsimp only
    split
    · rfl
    · exact files_put (fun place => (h place).2) _

theorem WritesNoFile.item (h : j.WritesNoFile) (i : Item) : (j.item i).WritesNoFile := by
  unfold WritesNoFile accessSink errorSink
  rw [writer_item]
  exact h

/-- **Where neither log is written to a file, writing leaves the files as they are.** -/
theorem WritesNoFile.items (h : j.WritesNoFile) (is : List Item) :
    (j.items is).WritesNoFile ∧ (j.items is).files = j.files := by
  induction is generalizing j with
  | nil => exact ⟨h, rfl⟩
  | cons i is ih =>
    obtain ⟨hwrites, hfiles⟩ := ih (h.item i)
    exact ⟨hwrites, hfiles.trans (h.files_item i)⟩

end

/-! ## 5. Both logs in one file -/

/-- A directory with the file `f`. -/
def oneFile : FileSystem := ⟨.directory [([0x66], .file (.bytes [0x2B]) ⟨0, 0⟩)], []⟩

/-- The same with the directory `d`, and in it the file `a`, which is empty. -/
def withLogFile : FileSystem := ⟨.directory [([0x66], .file (.bytes [0x2B]) ⟨0, 0⟩),
  ([0x64], .directory [([0x61], .file (.bytes []) ⟨0, 0⟩)])], []⟩

/-- The place of the file `a`. -/
def logPlace : Place := [[0x64], [0x61]]

/-- A process beside the file `f`. -/
def besideOneFile : Journal := { files := oneFile }

/-- `GET /` -/
def rootEntry : AccessEntry where
  remoteAddr := "127.0.0.1".toList
  time := ⟨⟨0, 0⟩, 0⟩
  method := "GET".toList
  uri := ['/']
  httpVersion := "1.1".toList
  status := 404
  bodyBytes := 9
  referer := none
  userAgent := none
  micros := 0

/-- An access line, an attempt whose error log cannot be opened, both logs set up on the file `a` that
    the first attempt made, a debug message and an access line, and an attempt that comes too late. -/
def bothLogsOnOneFile : List Operation := [
  .access rootEntry "early".toList,
  .setUp ⟨0, 0⟩ ⟨some "d/a".toList, some "f/g".toList, false⟩,
  .setUp ⟨0, 0⟩ ⟨some "d/a".toList, some "d/a".toList, true⟩,
  .notice (.debug "d".toList),
  .access rootEntry "late".toList,
  .setUp ⟨0, 0⟩ ⟨none, none, false⟩]

theorem isPlain_withLogFile : withLogFile.top.IsPlain := by
  have hd : (Node.directory [([0x61], .file (.bytes []) ⟨0, 0⟩)]).IsPlain :=
    Node.isPlain_directory (List.forall_mem_singleton.2
      ⟨(by decide : Path.IsName [0x61]), Node.isPlain_file _ _ _⟩)
  exact Node.isPlain_directory (List.forall_mem_cons.2
    ⟨⟨(by decide : Path.IsName [0x66]), Node.isPlain_file _ _ _⟩,
      List.forall_mem_singleton.2 ⟨(by decide : Path.IsName [0x64]), hd⟩⟩)

theorem node_d_withLogFile : withLogFile.node true [0x64]
    = .ok (.directory [([0x61], .file (.bytes []) ⟨0, 0⟩)]) :=
  FileSystem.node_of_names rfl isPlain_withLogFile [[0x64]] (by decide) (by simp) (by decide) rfl
    true

theorem node_f_withLogFile : withLogFile.node true [0x66]
    = .ok (.file (.bytes [0x2B]) ⟨0, 0⟩) :=
  FileSystem.node_of_names rfl isPlain_withLogFile [[0x66]] (by decide) (by simp) (by decide) rfl
    true

theorem resolve_withLogFile :
    withLogFile.resolve true (Utf8.encode "d/a".toList) = .ok logPlace := by
  have htop : withLogFile.top.at? [] = some withLogFile.top := rfl
  have hwalk := walk_below true maxLinks [[0x64], [0x61]] htop isPlain_withLogFile (by decide)
  exact FileSystem.resolve_eq_ok_iff.2
    ⟨by decide, maxLinks, toOption_eq_some_iff.1 (hwalk.trans rfl)⟩

theorem opensSink_new (s : Sink) :
    OpensSink oneFile ⟨0, 0⟩ s (some "d/a".toList) withLogFile (.file logPlace) := by
  have hparent : Path.parent? (Utf8.encode "d/a".toList) = some [0x64] := by decide
  have hentry : oneFile.entryOf maxLinks [] [0x64] = .ok ⟨[], some [0x64], maxLinks⟩ :=
    FileSystem.entryOf_eq_ok_iff.2 ⟨by decide, walk_nil _ _ _ _, _, _, rfl, rfl⟩
  have hadds : oneFile.AddsDirectory [0x64] [] [0x64] :=
    ⟨by decide, ⟨_, hentry⟩, ⟨by decide, by decide, by decide, by decide⟩, rfl, rfl⟩
  have hmade : MakesParent oneFile (Utf8.encode "d/a".toList)
      (oneFile.putAt [[0x64]] (.directory [])) := by
    unfold MakesParent
    rw [hparent]
    exact .last (.new hadds)
  exact .file hmade ⟨by decide, rfl, resolve_withLogFile⟩

theorem opensSink_again (s : Sink) :
    OpensSink withLogFile ⟨0, 0⟩ s (some "d/a".toList) withLogFile (.file logPlace) := by
  have hparent : Path.parent? (Utf8.encode "d/a".toList) = some [0x64] := by decide
  have hthere : withLogFile.isDirectory [0x64] = true := by
    unfold FileSystem.isDirectory FileSystem.stat
    rw [node_d_withLogFile]
    rfl
  have hmade : MakesParent withLogFile (Utf8.encode "d/a".toList) withLogFile := by
    unfold MakesParent
    rw [hparent]
    exact .last (.there hthere)
  exact .file hmade ⟨by decide, rfl, resolve_withLogFile⟩

theorem openSink_belowFile (s : Sink) :
    openSink withLogFile ⟨0, 0⟩ (some "f/g".toList) s = (withLogFile, .error .exists_) := by
  have hparent : Path.parent? (Utf8.encode "f/g".toList) = some [0x66] := by decide
  have hentry : withLogFile.entryOf maxLinks (withLogFile.start [0x66]) [0x66]
      = .ok ⟨[], some [0x66], maxLinks⟩ :=
    FileSystem.entryOf_eq_ok_iff.2 ⟨by decide, walk_nil _ _ _ _, _, _, rfl, rfl⟩
  have hmake : withLogFile.makeDirectory [0x66] = .error .exists_ := by
    unfold FileSystem.makeDirectory
    rw [show pathFault [0x66] = none by decide, hentry]
    rfl
  have hmade : withLogFile.makeDirectories [0x66] = (withLogFile, .error .exists_) := by
    have hthere : withLogFile.orThere [0x66] (.error .exists_) = (withLogFile, .error .exists_) := by
      unfold FileSystem.orThere FileSystem.isDirectory FileSystem.stat
      rw [node_f_withLogFile]
      rfl
    unfold FileSystem.makeDirectories FileSystem.makeDirectoriesTo
    rw [if_neg (List.cons_ne_nil _ _), hmake]
    exact hthere
  have hdirectories : directoriesMade withLogFile (Utf8.encode "f/g".toList)
      = (withLogFile, .error .exists_) := by
    unfold directoriesMade
    rw [hparent]
    exact hmade
  unfold openSink
  dsimp only
  rw [openLogFile_eq, hdirectories]

/-- The process after its first line. -/
def earlyWritten : Journal := { besideOneFile with output := "early\n".toList }

/-- The process after the attempt that failed. -/
def attempted : Journal := { earlyWritten with files := withLogFile }

/-- The process with both logs on the file `a`. -/
def bothOpened : Journal :=
  { attempted with writer := some ⟨.file logPlace, .file logPlace, true⟩ }

theorem perform_early : besideOneFile.perform (.access rootEntry "early".toList) = earlyWritten := by
  have hline : rootEntry.line "early".toList = "early".toList := by decide +kernel
  unfold perform
  dsimp only
  rw [hline]
  rfl

theorem perform_denied : earlyWritten.perform
    (.setUp ⟨0, 0⟩ ⟨some "d/a".toList, some "f/g".toList, false⟩) = attempted := by
  have haccess : openSink earlyWritten.files ⟨0, 0⟩ (some "d/a".toList) .standardOutput
      = (withLogFile, .ok (.file logPlace)) := openSink_eq_ok_iff.2 (opensSink_new _)
  unfold perform setUp
  dsimp only
  rw [haccess]
  dsimp only
  rw [openSink_belowFile]
  rfl

theorem perform_opened : attempted.perform
    (.setUp ⟨0, 0⟩ ⟨some "d/a".toList, some "d/a".toList, true⟩) = bothOpened := by
  have hup : attempted.SetsUp ⟨0, 0⟩ ⟨some "d/a".toList, some "d/a".toList, true⟩ withLogFile
      ⟨.file logPlace, .file logPlace, true⟩ :=
    ⟨rfl, ⟨withLogFile, opensSink_again _, opensSink_again _⟩, rfl⟩
  exact congrArg Prod.fst (setUp_eq_ok_iff.2 ⟨_, _, hup, rfl⟩)

/-- Both logs grow in the one file, line by line; the line before them is on standard output, and the
    file beside them stays as it is. -/
theorem routes_bothLogsOnOneFile :
    besideOneFile.writer = none ∧ besideOneFile.WritesSucceed bothLogsOnOneFile
      ∧ RoutesLines besideOneFile bothLogsOnOneFile
      ∧ (besideOneFile.run bothLogsOnOneFile).content (.file logPlace)
        = Utf8.encode "[DEBUG] d\nlate\n".toList
      ∧ (besideOneFile.run bothLogsOnOneFile).output = "early\n".toList
      ∧ (besideOneFile.run bothLogsOnOneFile).errors = []
      ∧ (besideOneFile.run bothLogsOnOneFile).content (.file [[0x66]]) = [0x2B] := by
  have hwrites : besideOneFile.WritesSucceed bothLogsOnOneFile := by
    unfold bothLogsOnOneFile
    simp only [WritesSucceed, perform_early, perform_denied, perform_opened]
    decide +kernel
  have hrun : besideOneFile.run bothLogsOnOneFile = bothOpened.run (bothLogsOnOneFile.drop 3) := by
    simp only [run, bothLogsOnOneFile, List.foldl_cons, perform_early, perform_denied,
      perform_opened, List.drop_succ_cons, List.drop_zero]
  refine ⟨rfl, hwrites, routes_every_line besideOneFile rfl bothLogsOnOneFile hwrites, ?_⟩
  rw [hrun]
  decide +kernel

end Journal

end Docroot.Log

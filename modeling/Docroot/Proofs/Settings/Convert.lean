import Docroot.Proofs.Settings.Layer
import Docroot.Settings.Load

/-!
# Settings are read one by one

There are seven settings, each with its section, its name, its kind and its conversion (`Setting`).
Where the sections are tables, the settings as a whole can be read exactly if each value that is
there can be converted, and each field is then the converted value of its own setting
(`ofValue_eq_ok_iff`).
-/

namespace Docroot.Settings

/-! ## 1. The seven settings -/

/-- A setting. -/
inductive Setting where
  | level
  | accessLog
  | accessLogFormat
  | accessLogFile
  | errorLogFile
  | connectionTimeout
  | serverName
  deriving DecidableEq, Repr

namespace Setting

/-- The section of a setting. -/
def group : Setting → Text
  | .level | .accessLog | .accessLogFormat | .accessLogFile | .errorLogFile => "logging".toList
  | .connectionTimeout => "performance".toList
  | .serverName => "http".toList

/-- The name of a setting in its section. -/
def name : Setting → Text
  | .level => "level".toList
  | .accessLog => "access_log".toList
  | .accessLogFormat => "access_log_format".toList
  | .accessLogFile => "access_log_file".toList
  | .errorLogFile => "error_log_file".toList
  | .connectionTimeout => "connection_timeout".toList
  | .serverName => "server_name".toList

/-- What the values of a setting are. -/
def Kind : Setting → Type
  | .level | .accessLogFormat | .serverName => Text
  | .accessLog => Bool
  | .accessLogFile | .errorLogFile => Option Text
  | .connectionTimeout => Nat

/-- The value that settings have for a setting. -/
def field : (s : Setting) → Settings → s.Kind
  | .level, st => st.logging.level
  | .accessLog, st => st.logging.accessLog
  | .accessLogFormat, st => st.logging.accessLogFormat
  | .accessLogFile, st => st.logging.accessLogFile
  | .errorLogFile, st => st.logging.errorLogFile
  | .connectionTimeout, st => st.connectionTimeout
  | .serverName, st => st.serverName

/-- A value converted to the kind of the setting. -/
def convert : (s : Setting) → Value → Converted s.Kind
  | .level, v | .accessLogFormat, v | .serverName, v => toText v
  | .accessLog, v => toBool v
  | .accessLogFile, v | .errorLogFile, v => optional toText v
  | .connectionTimeout, v => toCount v

/-- The value of a setting in the table of sections. -/
def look (s : Setting) (root : Value) : Option Value := (root.get? s.group).bind (·.get? s.name)

/-- **The settings have what a value says**, or the default where there is no value. -/
def Holds (s : Setting) (v : Option Value) (st : Settings) : Prop :=
  match v with
  | some v => s.convert v = .ok (s.field st)
  | none => s.field st = s.field .default

/-- The value can be converted. -/
def Converts (s : Setting) (v : Value) : Prop := ∃ a, s.convert v = .ok a

/-- All settings of given values. -/
def settingsOf (a : (s : Setting) → s.Kind) : Settings where
  logging :=
    { level := a .level, accessLog := a .accessLog, accessLogFormat := a .accessLogFormat,
      accessLogFile := a .accessLogFile, errorLogFile := a .errorLogFile }
  connectionTimeout := a .connectionTimeout
  serverName := a .serverName

theorem field_settingsOf (a : (s : Setting) → s.Kind) (s : Setting) :
    s.field (settingsOf a) = a s := by
  cases s <;> rfl

/-- **Each setting can be taken for itself**: settings with given values exist exactly if each of the
    values can be converted. -/
theorem exists_holds_iff (given : Setting → Option Value) :
    (∃ st, ∀ s : Setting, s.Holds (given s) st) ↔
      ∀ (s : Setting) v, given s = some v → s.Converts v := by
  constructor
  · rintro ⟨st, hst⟩ s v hv
    have hs := hst s
    rw [hv] at hs
    exact ⟨_, hs⟩
  · intro hconverts
    have hone : ∀ s : Setting, ∃ a : s.Kind, ∀ st, s.field st = a → s.Holds (given s) st := by
      intro s
      cases hgiven : given s with
      | none => exact ⟨s.field .default, fun st hst => hst⟩
      | some v =>
        obtain ⟨a, ha⟩ := hconverts s v hgiven
        exact ⟨a, fun st hst => by rw [← hst] at ha; exact ha⟩
    refine ⟨settingsOf fun s => (hone s).choose, fun s => ?_⟩
    exact (hone s).choose_spec _ (field_settingsOf _ s)

end Setting

/-! ## 2. Reading them -/

theorem bind_eq_ok_iff {ε α β : Type} {x : Except ε α} {f : α → Except ε β} {b : β} :
    (x >>= f) = .ok b ↔ ∃ a, x = .ok a ∧ f a = .ok b := by
  cases x with
  | error e =>
    refine iff_of_false (fun h => by cases h) ?_
    rintro ⟨a, ha, -⟩
    cases ha
  | ok a =>
    constructor
    · exact fun h => ⟨a, rfl, h⟩
    · rintro ⟨a', ha, hf⟩
      cases ha
      exact hf

theorem read_eq_ok_iff {α : Type} {slot : Slot} {es : List (Text × Value)}
    {convert : Value → Converted α} {missing : Except Fault α} {a : α} :
    slot.read (.table es) convert missing = .ok a ↔
      (match es.lookup slot.name with
        | some v => convert v = .ok a
        | none => missing.toOption = some a) := by
  unfold Slot.read Slot.find
  dsimp only
  cases es.lookup slot.name with
  | none =>
    cases missing with
    | ok b => exact ⟨fun h => by cases h; rfl, fun h => by cases h; rfl⟩
    | error e => exact iff_of_false (fun h => by cases h) (fun h => by cases h)
  | some v =>
    dsimp only [Option.map]
    cases convert v with
    | ok b => rw [Except.ok.injEq, Except.ok.injEq]
    | error e => exact iff_of_false (fun h => by cases h) (fun h => by cases h)

theorem sectionOf_of_table {root : Value} {name kind : Text} {o : Option Text}
    {es : List (Text × Value)} (h : root.get? name = some (.table o es)) :
    sectionOf root name kind = .ok (.table es) := by
  unfold sectionOf
  rw [h]

/-- **The sections are tables**, with the settings in them that must be there. -/
structure HasSections (root : Value) : Prop where
  tables : ∀ s : Setting, ∃ o es, root.get? s.group = some (.table o es)
  required : ∀ s : Setting, s.look root = none → s = .accessLogFile ∨ s = .errorLogFile

/-- What reading a setting comes to: its value converted, or what stands for a missing one. -/
def Setting.ReadsAs (s : Setting) (root : Value) (missing : Option s.Kind) (a : s.Kind) : Prop :=
  match s.look root with
  | some v => s.convert v = .ok a
  | none => missing = some a

section

variable {root : Value} {st : Settings}

theorem look_of_table {s : Setting} {o : Option Text} {es : List (Text × Value)}
    (h : root.get? s.group = some (.table o es)) : s.look root = es.lookup s.name := by
  unfold Setting.look
  rw [h]
  rfl

/-- The settings of the logs are read one by one. -/
theorem loggingOf_eq_ok_iff {o : Option Text} {es : List (Text × Value)}
    (h : root.get? "logging".toList = some (.table o es)) {l : LoggingSettings} :
    loggingOf root = .ok l ↔ Setting.level.ReadsAs root none l.level
      ∧ Setting.accessLog.ReadsAs root none l.accessLog
      ∧ Setting.accessLogFormat.ReadsAs root (some Settings.default.logging.accessLogFormat)
        l.accessLogFormat
      ∧ Setting.accessLogFile.ReadsAs root (some none) l.accessLogFile
      ∧ Setting.errorLogFile.ReadsAs root (some none) l.errorLogFile := by
  have hlook : ∀ s : Setting, s.group = "logging".toList → s.look root = es.lookup s.name :=
    fun s hs => look_of_table (hs ▸ h)
  unfold loggingOf Setting.ReadsAs
  dsimp only
  rw [sectionOf_of_table h, hlook .level rfl, hlook .accessLog rfl, hlook .accessLogFormat rfl,
    hlook .accessLogFile rfl, hlook .errorLogFile rfl]
  simp only [bind_eq_ok_iff, Except.ok.injEq, exists_eq_left', read_eq_ok_iff]
  constructor
  · rintro ⟨level, hlevel, accessLog, haccess, format, hformat, file, hfile, file', hfile', hl⟩
    cases hl
    exact ⟨hlevel, haccess, hformat, hfile, hfile'⟩
  · rintro ⟨hlevel, haccess, hformat, hfile, hfile'⟩
    exact ⟨_, hlevel, _, haccess, _, hformat, _, hfile, _, hfile', rfl⟩

/-- The one setting of its section is read. -/
theorem onlyOf_eq_ok_iff {s : Setting} {o : Option Text} {es : List (Text × Value)}
    (h : root.get? s.group = some (.table o es)) {kind : Text} {a : s.Kind} :
    onlyOf root s.group s.name kind s.convert = .ok a ↔ s.ReadsAs root none a := by
  unfold onlyOf Setting.ReadsAs
  rw [sectionOf_of_table h, look_of_table h]
  simp only [bind_eq_ok_iff, Except.ok.injEq, exists_eq_left', read_eq_ok_iff]
  rfl

/-- Where a value is there, or its default stands for it, reading a setting comes to what the value
    says. -/
theorem readsAs_iff {s : Setting} {missing : Option s.Kind}
    (h : s.look root = none → missing = some (s.field .default)) :
    s.ReadsAs root missing (s.field st) ↔ s.Holds (s.look root) st := by
  unfold Setting.ReadsAs Setting.Holds
  cases hlook : s.look root with
  | some v => exact Iff.rfl
  | none =>
    rw [h hlook, Option.some.injEq]
    exact eq_comm

/-- The settings are read section by section. -/
theorem ofValue_eq_ok_iff_sections {o o' : Option Text} {es es' : List (Text × Value)}
    (htimeout : root.get? Setting.connectionTimeout.group = some (.table o es))
    (hname : root.get? Setting.serverName.group = some (.table o' es')) :
    ofValue root = .ok st ↔ loggingOf root = .ok st.logging
      ∧ Setting.connectionTimeout.ReadsAs root none st.connectionTimeout
      ∧ Setting.serverName.ReadsAs root none st.serverName := by
  unfold ofValue
  simp only [bind_eq_ok_iff]
  constructor
  · rintro ⟨logging, hlogging, timeout, ht, name, hn, hst⟩
    cases hst
    exact ⟨hlogging, (onlyOf_eq_ok_iff htimeout).1 ht, (onlyOf_eq_ok_iff hname).1 hn⟩
  · rintro ⟨hlogging, ht, hn⟩
    exact ⟨_, hlogging, _, (onlyOf_eq_ok_iff htimeout).2 ht, _, (onlyOf_eq_ok_iff hname).2 hn, rfl⟩

/-- **Settings are read one by one.** -/
theorem ofValue_eq_ok_iff (h : HasSections root) :
    ofValue root = .ok st ↔ ∀ s : Setting, s.Holds (s.look root) st := by
  obtain ⟨o, es, hes⟩ := h.tables .level
  obtain ⟨o', es', hes'⟩ := h.tables .connectionTimeout
  obtain ⟨o'', es'', hes''⟩ := h.tables .serverName
  have hthere : ∀ s : Setting, s ≠ .accessLogFile → s ≠ .errorLogFile → ∀ missing,
      (s.ReadsAs root missing (s.field st) ↔ s.Holds (s.look root) st) := by
    intro s hne hne' missing
    refine readsAs_iff fun hnone => ?_
    rcases h.required s hnone with heq | heq
    · exact absurd heq hne
    · exact absurd heq hne'
  have hlevel := hthere .level (by decide) (by decide) none
  have haccess := hthere .accessLog (by decide) (by decide) none
  have hformat := hthere .accessLogFormat (by decide) (by decide)
    (some Settings.default.logging.accessLogFormat)
  have hfile := @readsAs_iff root st .accessLogFile (some none) fun _ => rfl
  have hfile' := @readsAs_iff root st .errorLogFile (some none) fun _ => rfl
  have htimeout := hthere .connectionTimeout (by decide) (by decide) none
  have hname := hthere .serverName (by decide) (by decide) none
  rw [ofValue_eq_ok_iff_sections hes' hes'', loggingOf_eq_ok_iff hes]
  constructor
  · rintro ⟨⟨h1, h2, h3, h4, h5⟩, h6, h7⟩ s
    cases s with
    | level => exact hlevel.1 h1
    | accessLog => exact haccess.1 h2
    | accessLogFormat => exact hformat.1 h3
    | accessLogFile => exact hfile.1 h4
    | errorLogFile => exact hfile'.1 h5
    | connectionTimeout => exact htimeout.1 h6
    | serverName => exact hname.1 h7
  · intro hholds
    exact ⟨⟨hlevel.2 (hholds .level), haccess.2 (hholds .accessLog),
      hformat.2 (hholds .accessLogFormat), hfile.2 (hholds .accessLogFile),
      hfile'.2 (hholds .errorLogFile)⟩, htimeout.2 (hholds .connectionTimeout),
      hname.2 (hholds .serverName)⟩

end

end Docroot.Settings

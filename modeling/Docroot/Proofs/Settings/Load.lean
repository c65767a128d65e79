import Docroot.Proofs.Files.Tree
import Docroot.Proofs.Settings.Merge
import Docroot.Proofs.Text.Utf8

/-!
# Settings do not depend on each other

The settings come out of the environment, the file and the defaults, each for itself: it has the
value of the highest layer that gives it, whatever stands in the layers below
(`layers_are_independent`). What the layers hold besides does not matter, as long as it leads neither
to a section nor to a setting nor below one.

Whether it does is not seen from the names alone, since the keys of a layer are read as paths:
`ASSET_SERVER_LOGGING[0]` puts a list in the place of a section (`strangeKeys_matter`).
-/

namespace Docroot.Settings

open Docroot.Files

/-! ## 1. Loading -/

/-- The environment variable of a setting. -/
def Setting.variableName (s : Setting) : Text :=
  environmentStem ++ '_' :: s.group.map Char.toUpper ++ "__".toList ++ s.name.map Char.toUpper

/-- **The value that counts for a setting**: that of the environment, or else that of the file. -/
def Setting.highest (s : Setting) (file : List (Text × Value))
    (environment : List (Text × Text)) : Option Value :=
  (s.given (environmentLayer environment)).or (s.given file)

/-- A variable whose name has a key behind the stem gives that key its text. -/
theorem variableEntry?_of_key {name key : Text}
    (h : ((Text.lower environmentStem ++ ['_']).isPrefixOf? (Text.lower name)).map
      (Text.replaceAll ['_', '_'] ['.']) = some key) (text : Text) :
    variableEntry? (name, text) = some (key, .scalar (some environmentName) (.string text)) := by
  have hmap := congrArg (Option.map fun key =>
    (key, Value.scalar (some environmentName) (.string text))) h
  rw [Option.map_map] at hmap
  exact hmap

/-- The variable of a setting gives it its text. -/
theorem given_variable (s : Setting) (text : Text) :
    s.given (environmentLayer [(s.variableName, text)])
      = some (.scalar (some environmentName) (.string text)) := by
  have hroute : Route.ofKey (s.group ++ '.' :: s.name) = .child (.name s.group) s.name := by
    cases s <;> decide +kernel
  have hentry : variableEntry? (s.variableName, text)
      = some (s.group ++ '.' :: s.name, .scalar (some environmentName) (.string text)) := by
    refine variableEntry?_of_key ?_ text
    cases s <;> decide +kernel
  unfold environmentLayer
  rw [List.filterMap_cons, hentry, given_cons, valuesIn_setting hroute s.lower_name,
    if_pos ⟨rfl, rfl⟩]
  rfl

/-- The defaults are those that hold where nothing is set. -/
theorem look_defaultValues (s : Setting) :
    (∃ v, s.look defaultValues = some v ∧ s.convert v = .ok (s.field .default))
      ∨ (s.look defaultValues = none ∧ (s = .accessLogFile ∨ s = .errorLogFile)) := by
  cases s with
  | accessLogFile => exact Or.inr ⟨rfl, Or.inl rfl⟩
  | errorLogFile => exact Or.inr ⟨rfl, Or.inr rfl⟩
  | _ => exact Or.inl ⟨_, rfl, rfl⟩

theorem holds_or_default (s : Setting) (v : Option Value) (st : Settings) :
    s.Holds (v.or (s.look defaultValues)) st ↔ s.Holds v st := by
  cases v with
  | some v => exact Iff.rfl
  | none =>
    rw [Option.none_or]
    rcases look_defaultValues s with ⟨v, hv, hconvert⟩ | ⟨hnone, -⟩
    · rw [hv]
      unfold Setting.Holds
      dsimp only
      rw [hconvert, Except.ok.injEq]
      exact eq_comm
    · rw [hnone]

theorem hasSections_of_look {root : Value} (hsound : Sound root) {high : Setting → Option Value}
    (hlook : ∀ s : Setting, s.look root = (high s).or (s.look defaultValues)) :
    HasSections root where
  tables := by
    intro s
    -- each section has a setting with a default
    have hthere : ∃ t : Setting, t.group = s.group ∧ ∃ v, t.look defaultValues = some v := by
      cases s with
      | connectionTimeout => exact ⟨.connectionTimeout, rfl, _, rfl⟩
      | serverName => exact ⟨.serverName, rfl, _, rfl⟩
      | _ => exact ⟨.level, rfl, _, rfl⟩
    obtain ⟨t, hgroup, v, hv⟩ := hthere
    have hsome : t.look root ≠ none := by
      rw [hlook, hv]
      cases high t <;> exact Option.some_ne_none _
    cases hget : root.get? t.group with
    | none =>
      unfold Setting.look at hsome
      rw [hget] at hsome
      exact absurd rfl hsome
    | some w =>
      obtain ⟨o, es, rfl⟩ := hsound.sections t w hget
      exact ⟨o, es, hgroup ▸ hget⟩
  required := by
    intro s hnone
    rw [hlook, Option.or_eq_none_iff] at hnone
    rcases look_defaultValues s with ⟨v, hv, -⟩ | ⟨-, hfile⟩
    · rw [hv] at hnone
      cases hnone.2
    · exact hfile

section

variable {fs : FileSystem} {file : Path} {environment : List (Text × Text)}
  {layer : List (Text × Value)}

/-- What is loaded is read from the layers put together. -/
theorem loadFrom_of_merged (hfile : fileLayer fs file = .ok layer) {root : Value}
    (hroot : mergeLayers defaultValues [layer, environmentLayer environment] = .ok root) :
    loadFrom fs file environment = ofValue root := by
  unfold loadFrom
  rw [hfile]
  dsimp only [bind, Except.bind]
  rw [hroot]

/-- Nothing is loaded where they cannot be put together. -/
theorem loadFrom_of_badIndex (hfile : fileLayer fs file = .ok layer) {e : BadIndex}
    (hfails : mergeLayers defaultValues [layer, environmentLayer environment] = .error e) :
    loadFrom fs file environment = .error .badIndex := by
  unfold loadFrom
  rw [hfile]
  dsimp only [bind, Except.bind]
  rw [hfails]

end

/-- **Each setting is loaded for itself**: by its own value, or its default. -/
structure LoadsEach (fs : FileSystem) (file : Path) (environment : List (Text × Text))
    (high : Setting → Option Value) : Prop where
  loads : (∃ st, loadFrom fs file environment = .ok st) ↔
    ∀ (s : Setting) v, high s = some v → s.Converts v
  fields : ∀ st, loadFrom fs file environment = .ok st ↔ ∀ s : Setting, s.Holds (high s) st

/-- **Settings do not depend on each other.** Where the layers fit, loading comes to settings exactly
    if the value that counts can be converted for each setting that has one, and each setting is then
    its own value converted, or its default. The one thing that can be in the way is that some key
    asks for an element of an array. The variable of a setting gives it its text. -/
theorem layers_are_independent {fs : FileSystem} {file : Path}
    {environment : List (Text × Text)} {layer : List (Text × Value)}
    (hfile : fileLayer fs file = .ok layer)
    (hfits : ∀ e ∈ layer ++ environmentLayer environment, Fits e) :
    (LoadsEach fs file environment (·.highest layer environment)
        ∨ loadFrom fs file environment = .error .badIndex
          ∧ ∃ e ∈ layer ++ environmentLayer environment, AsksForElement e.1)
      ∧ ∀ (s : Setting) text, s.given (environmentLayer [(s.variableName, text)])
        = some (.scalar (some environmentName) (.string text)) := by
  refine ⟨?_, given_variable⟩
  rcases look_mergeLayers hfits with ⟨root, hroot, hsound, hlook⟩ | ⟨hfails, hasked⟩
  · have hload := loadFrom_of_merged hfile hroot
    have hholds : ∀ st, loadFrom fs file environment = .ok st ↔
        ∀ s : Setting, s.Holds (s.highest layer environment) st := by
      intro st
      rw [hload, ofValue_eq_ok_iff (hasSections_of_look hsound hlook)]
      refine forall_congr' fun s => ?_
      rw [hlook]
      exact holds_or_default s _ st
    exact Or.inl ⟨(exists_congr hholds).trans (Setting.exists_holds_iff _), hholds⟩
  · exact Or.inr ⟨loadFrom_of_badIndex hfile hfails, hasked⟩

/-! ## 2. A shadowed value, and keys that are paths -/

/-- A settings file with a log level, and a timeout that is no number. -/
def writtenSettings : Text :=
  "[logging]\nlevel = \"debug\"\n[performance]\nconnection_timeout = \"x\"\n".toList

/-- A directory with that file, as `s`. -/
def besideSettings : FileSystem :=
  ⟨.directory [([0x73], .file (.bytes (Utf8.encode writtenSettings)) ⟨0, 0⟩)], []⟩

/-- The layer of that file. -/
def writtenLayer : List (Text × Value) := [
  ("logging".toList, .table (some ['s'])
    [("level".toList, .scalar (some ['s']) (.string "debug".toList))]),
  ("performance".toList, .table (some ['s'])
    [("connection_timeout".toList, .scalar (some ['s']) (.string ['x']))])]

/-- The names and texts of a document with two sections that have one text each. -/
def textsOfTwo? : Option Toml.Value → Option (List Text)
  | some (.table [(a, .table [(b, .string c)]), (d, .table [(e, .string f)])]) =>
    some [a, b, c, d, e, f]
  | _ => none

/-- A timeout in the environment, and a name that is no setting. -/
def shadowing : List (Text × Text) := [
  ("ASSET_SERVER_PERFORMANCE__CONNECTION_TIMEOUT".toList, ['5']),
  ("ASSET_SERVER_LOGGING__COLOR".toList, ['y'])]

/-- A path whose node is a file with contents is a file, and can be read. -/
theorem isFile_and_read_of_node {fs : FileSystem} {p : Path} {content : Content}
    {modified : Time.Instant} {rights : Rights}
    (h : (fs.node true p).toOption = some (.file content modified rights)) :
    fs.isFile p = true ∧ fs.read p = content.read rights := by
  unfold FileSystem.isFile FileSystem.stat FileSystem.read
  cases hnode : fs.node true p with
  | error e =>
    rw [hnode] at h
    cases h
  | ok n =>
    rw [hnode] at h
    cases h
    exact ⟨rfl, rfl⟩

theorem isFile_of_no_node {fs : FileSystem} {p : Path} (h : (fs.node true p).toOption = none) :
    fs.isFile p = false := by
  unfold FileSystem.isFile FileSystem.stat
  cases hnode : fs.node true p with
  | error e => rfl
  | ok n =>
    rw [hnode] at h
    cases h

theorem fileText_besideSettings :
    fileText besideSettings [0x73] = some (writtenSettings, ['s']) := by
  have hplain : besideSettings.top.IsPlain :=
    Node.isPlain_directory (List.forall_mem_singleton.2 ⟨by decide, Node.isPlain_file _ _ _⟩)
  have hnode : (besideSettings.node true [0x2F, 0x73]).toOption
      = some (.file (.bytes (Utf8.encode writtenSettings)) ⟨0, 0⟩) :=
    @FileSystem.node_of_rootNames besideSettings _ _ rfl hplain [[0x73]] (by decide) (by decide)
      (by decide) true
  obtain ⟨hfile, hread⟩ : besideSettings.isFile [0x2F, 0x73] = true
      ∧ besideSettings.read [0x2F, 0x73] = .ok (Utf8.encode writtenSettings) :=
    isFile_and_read_of_node hnode
  have hfull : absolutePath besideSettings [0x73] = [0x2F, 0x73] := by decide
  have hfind : findFile besideSettings [0x73] = some [0x2F, 0x73] := by
    unfold findFile
    rw [hfull]
    exact if_pos hfile
  have hname : Path.display (Path.ofNames (Path.relativeTo besideSettings.here
      (Path.steps [0x2F, 0x73]))) = ['s'] := by
    decide
  unfold fileText
  rw [hfind]
  dsimp only [bind, Option.bind]
  rw [hread, hname]
  dsimp only [Except.toOption]
  rw [Utf8.decode?_encode]

theorem fileLayer_besideSettings : fileLayer besideSettings [0x73] = .ok writtenLayer := by
  have hread : textsOfTwo? (Toml.readDocument? writtenSettings) = some ["logging".toList,
      "level".toList, "debug".toList, "performance".toList, "connection_timeout".toList, ['x']] := by
    decide +kernel
  unfold fileLayer
  rw [fileText_besideSettings]
  dsimp only
  unfold textsOfTwo? at hread
  split at hread
  · next hdocument =>
    simp only [Option.some.injEq, List.cons.injEq, and_true] at hread
    obtain ⟨rfl, rfl, rfl, rfl, rfl, rfl⟩ := hread
    rw [hdocument]
    rfl
  · cases hread

theorem environmentLayer_shadowing : environmentLayer shadowing = [
    ("performance.connection_timeout".toList, .scalar (some environmentName) (.string ['5'])),
    ("logging.color".toList, .scalar (some environmentName) (.string ['y']))] := by
  have htimeout := @variableEntry?_of_key "ASSET_SERVER_PERFORMANCE__CONNECTION_TIMEOUT".toList
    "performance.connection_timeout".toList (by decide +kernel) ['5']
  have hcolor := @variableEntry?_of_key "ASSET_SERVER_LOGGING__COLOR".toList
    "logging.color".toList (by decide +kernel) ['y']
  unfold environmentLayer shadowing
  rw [List.filterMap_cons, htimeout, List.filterMap_cons, hcolor, List.filterMap_nil]

theorem fits_of_lower {e : Text × Value} (h : FitsAsRead e) (hkey : Text.lower e.1 = e.1) :
    Fits e where
  once := h
  again := fun hapart => by
    rw [hkey]
    exact hapart

/-- A section without tables fits. -/
theorem fits_section (s : Setting) {o : Option Text} {es : List (Text × Value)}
    (h : ∀ e ∈ es, ¬e.2.IsTable) : Fits (s.group, .table o es) := by
  refine fits_of_lower (.group s s.isWord_group.ofKey s.isWord_group.small fun t _ v hv => ?_)
    s.isWord_group.small
  obtain ⟨e, he, rfl⟩ := List.mem_map.1 hv
  exact h e (List.mem_filter.1 he).1

theorem not_isTable_scalar (o : Option Text) (s : Scalar) : ¬(Value.scalar o s).IsTable := by
  rintro ⟨o', es, h⟩
  cases h

theorem fits_shadowing : ∀ e ∈ writtenLayer ++ environmentLayer shadowing, Fits e := by
  rw [environmentLayer_shadowing]
  refine List.forall_mem_append.2 ⟨List.forall_mem_cons.2 ⟨?_, List.forall_mem_singleton.2 ?_⟩,
    List.forall_mem_cons.2 ⟨?_, List.forall_mem_singleton.2 ?_⟩⟩
  · exact fits_section .level (List.forall_mem_singleton.2 (not_isTable_scalar _ _))
  · exact fits_section .connectionTimeout (List.forall_mem_singleton.2 (not_isTable_scalar _ _))
  · exact fits_of_lower (.setting .connectionTimeout (n := "connection_timeout".toList)
      (by decide +kernel) (by decide) (not_isTable_scalar _ _)) (by decide)
  · refine fits_of_lower (.apart ?_) (by decide)
    have hread : Route.ofKey "logging.color".toList
        = .child (.name "logging".toList) "color".toList := by
      decide +kernel
    rw [hread]
    exact .beside fun s _ => by cases s <;> decide

theorem not_asksForElement_shadowing :
    ∀ e ∈ writtenLayer ++ environmentLayer shadowing, ¬AsksForElement e.1 := by
  have hkeys : ((writtenLayer ++ environmentLayer shadowing).map Prod.fst).all
      (fun key => decide (¬AsksForElement key)) = true := by
    decide +kernel
  exact fun e he => of_decide_eq_true (List.all_eq_true.1 hkeys e.1 (List.mem_map_of_mem he))

/-- A value in the environment hides one in the file, which then need not be a number. -/
theorem layers_of_shadowing :
    fileLayer besideSettings [0x73] = .ok writtenLayer
      ∧ (∀ e ∈ writtenLayer ++ environmentLayer shadowing, Fits e)
      ∧ LoadsEach besideSettings [0x73] shadowing (·.highest writtenLayer shadowing) := by
  refine ⟨fileLayer_besideSettings, fits_shadowing, ?_⟩
  rcases (layers_are_independent fileLayer_besideSettings fits_shadowing).1 with hloads | ⟨-, e, he, h⟩
  · exact hloads
  · exact absurd h (not_asksForElement_shadowing e he)

/-- A directory without a settings file. -/
def besideNothing : FileSystem := ⟨.directory [], []⟩

/-- The first element of what is a section. -/
def listedSection : List (Text × Text) := [("ASSET_SERVER_LOGGING[0]".toList, ['x'])]

/-- The element before the first of a list that is not there. -/
def impossibleElement : List (Text × Text) := [("ASSET_SERVER_A[-1]".toList, ['x'])]

theorem isFile_besideNothing {name : Bytes} (hname : Path.IsName name)
    (hfault : pathFault (Path.push [Path.slash] name) = none) :
    besideNothing.isFile (Path.push [Path.slash] name) = false := by
  have hplain : besideNothing.top.IsPlain := Node.isPlain_directory (List.forall_mem_nil _)
  have hnode := @FileSystem.node_of_rootNames besideNothing _ _ rfl hplain [name]
    (List.forall_mem_singleton.2 hname) (List.cons_ne_nil _ _) hfault true
  refine isFile_of_no_node (hnode.trans ?_)
  unfold besideNothing
  rw [Node.descend?_cons]
  split <;> rfl

theorem fileText_besideNothing : fileText besideNothing [0x73] = none := by
  have hfull : absolutePath besideNothing [0x73] = Path.push [Path.slash] [0x73] := by decide
  have hother : Path.appendToName? (Path.push [Path.slash] [0x73]) (Utf8.encode ".toml".toList)
      = some (Path.push [Path.slash] (Utf8.encode "s.toml".toList)) := by
    decide
  have hfind : findFile besideNothing [0x73] = none := by
    unfold findFile
    dsimp only
    rw [hfull, isFile_besideNothing (by decide) (by decide), hother]
    dsimp only
    rw [isFile_besideNothing (by decide) (by decide)]
    rfl
  unfold fileText
  rw [hfind]
  rfl

theorem fileLayer_besideNothing : fileLayer besideNothing [0x73] = .ok [] := by
  unfold fileLayer
  rw [fileText_besideNothing]

theorem toOption_loadFrom_of_layer {fs : FileSystem} {file : Path}
    {environment : List (Text × Text)} {layer : List (Text × Value)}
    (h : fileLayer fs file = .ok layer) : (loadFrom fs file environment).toOption
      = (mergeLayers defaultValues [layer, environmentLayer environment]).toOption.bind fun root =>
        (ofValue root).toOption := by
  unfold loadFrom
  rw [h]
  dsimp only [bind, Except.bind]
  cases mergeLayers defaultValues [layer, environmentLayer environment] <;> rfl

/-- **Keys that name no setting may be in the way**: neither environment gives a setting a value, but
    nothing can be loaded, in the one because the list replaces its section, in the other because
    the element cannot be made. -/
theorem strangeKeys_matter :
    (∀ s : Setting, s.highest [] listedSection = none ∧ s.highest [] impossibleElement = none)
      ∧ ¬LoadsEach besideNothing [0x73] listedSection (·.highest [] listedSection)
      ∧ ¬LoadsEach besideNothing [0x73] impossibleElement (·.highest [] impossibleElement) := by
  have hnone : ∀ s : Setting,
      s.highest [] listedSection = none ∧ s.highest [] impossibleElement = none := by
    intro s
    cases s <;> exact ⟨rfl, rfl⟩
  have hlisted : (loadFrom besideNothing [0x73] listedSection).toOption = none := by
    rw [toOption_loadFrom_of_layer fileLayer_besideNothing]
    decide +kernel
  have himpossible : (loadFrom besideNothing [0x73] impossibleElement).toOption = none := by
    rw [toOption_loadFrom_of_layer fileLayer_besideNothing]
    decide +kernel
  refine ⟨hnone, fun h => ?_, fun h => ?_⟩
  · obtain ⟨st, hst⟩ := h.loads.2 fun s v hv => by
      rw [(hnone s).1] at hv
      cases hv
    rw [hst] at hlisted
    cases hlisted
  · obtain ⟨st, hst⟩ := h.loads.2 fun s v hv => by
      rw [(hnone s).2] at hv
      cases hv
    rw [hst] at himpossible
    cases himpossible

end Docroot.Settings

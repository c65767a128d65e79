import Docroot.Files.Tree
import Docroot.Settings.Convert
import Docroot.Settings.Toml.Document

/-!
# Loading the settings

The settings file and the environment are layers over the defaults, the environment on top. A file
that is missing or cannot be read is no layer; a file that is no document is an error.

The file is looked for at its path, and then at the same path with `.toml` put to its name. A
variable is a setting if its name begins with `ASSET_SERVER_`; in the rest of the name two
underscores separate the section from the setting.
-/

namespace Docroot.Settings

open Docroot.Files

/-! ## 1. The layers -/

/-- The defaults as a layer. -/
def defaultValues : Value :=
  let text (s : Text) : Value := .scalar none (.string s)
  let d := Settings.default
  .table none [
    ("logging".toList, .table none [
      ("level".toList, text d.logging.level),
      ("access_log".toList, .scalar none (.boolean d.logging.accessLog)),
      ("access_log_format".toList, text d.logging.accessLogFormat)]),
    ("performance".toList, .table none [
      ("connection_timeout".toList, .scalar none (.integer d.connectionTimeout))]),
    ("http".toList, .table none [("server_name".toList, text d.serverName)])]

mutual
/-- A value of a document, as a value that comes from there. -/
def ofToml (origin : Text) : Toml.Value → Value
  | .string s => .scalar (some origin) (.string s)
  | .integer i => .scalar (some origin) (.integer i)
  | .float x => .scalar (some origin) (.float x)
  | .boolean b => .scalar (some origin) (.boolean b)
  | .moment t => .scalar (some origin) (.string t)
  | .array items => .array (some origin) (itemsOfToml origin items)
  | .table entries => .table (some origin) (entriesOfToml origin entries)

/-- The items of an array of a document. -/
def itemsOfToml (origin : Text) : List Toml.Value → List Value
  | [] => []
  | v :: rest => ofToml origin v :: itemsOfToml origin rest

/-- The entries of a table of a document. -/
def entriesOfToml (origin : Text) : List (Text × Toml.Value) → List (Text × Value)
  | [] => []
  | (name, v) :: rest => (name, ofToml origin v) :: entriesOfToml origin rest
end

/-- The path counted from the root. -/
def absolutePath (fs : FileSystem) (p : Path) : Path :=
  Path.push (Path.slash :: Path.ofNames fs.here) p

/-- **The settings file that a path names**, as a path from the root. -/
def findFile (fs : FileSystem) (p : Path) : Option Path :=
  let full := absolutePath fs p
  if fs.isFile full then some full
  else match full.appendToName? (Utf8.encode ".toml".toList) with
    | some other => if fs.isFile other then some other else none
    | none => none

/-- The text of the settings file, and how errors name the file: by its path from the working
    directory. -/
def fileText (fs : FileSystem) (p : Path) : Option (Text × Text) := do
  let file ← findFile fs p
  let text ← (fs.read file).toOption.bind Utf8.decode?
  some (text, Path.display (Path.ofNames (Path.relativeTo fs.here (Path.steps file))))

/-- The layer of the settings file. -/
def fileLayer (fs : FileSystem) (p : Path) : Except Fault (List (Text × Value)) :=
  match fileText fs p with
  | none => .ok []
  | some (text, name) =>
    match Toml.readDocument? text with
    | some (.table entries) => .ok (entriesOfToml name entries)
    | some (.moment t) => .error (.badRoot t name)
    | _ => .error (.badDocument name)

/-- How errors name the environment. -/
def environmentName : Text := "the environment".toList

/-- The key and the value of a variable that is a setting. -/
def variableEntry? (var : Text × Text) : Option (Text × Value) :=
  let stem := Text.lower environmentStem ++ ['_']
  (stem.isPrefixOf? (Text.lower var.1)).map fun key =>
    (Text.replaceAll ['_', '_'] ['.'] key,
      .scalar (some environmentName) (.string var.2))

/-- The layer of the environment. -/
def environmentLayer (environment : List (Text × Text)) : List (Text × Value) :=
  environment.filterMap variableEntry?

/-! ## 2. Loading -/

/-- **The settings of a file and an environment**, over the defaults. -/
def loadFrom (fs : FileSystem) (file : Path) (environment : List (Text × Text)) :
    Except Fault Settings := do
  let layer ← fileLayer fs file
  match mergeLayers defaultValues [layer, environmentLayer environment] with
  | .error _ => .error .badIndex
  | .ok root => ofValue root

/-- The settings of the usual file in the working directory. -/
def load (fs : FileSystem) (environment : List (Text × Text)) : Except Fault Settings :=
  loadFrom fs (Utf8.encode settingsFile) environment

end Docroot.Settings

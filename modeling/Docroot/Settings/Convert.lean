import Docroot.Settings
import Docroot.Settings.Layer
import Docroot.Text.Quoted

/-!
# From values to settings

Each setting has a type, and values are converted to it where that makes sense: `"on"` is true, a
number is its text, a boolean is 0 or 1. What cannot be converted is an error that names the
setting, what was found, what was expected, and where it came from.

A section is a table of its settings, or an array of them in order.
-/

namespace Docroot.Settings

/-! ## 1. What can go wrong -/

/-- What was found instead of a fitting value. -/
inductive Found where
  | integer (i : Int)
  | string (s : Text)
  | list
  | table
  | nothing
  deriving DecidableEq, Repr

/-- What was found, in words. -/
def Found.describe : Found → Text
  | .integer i => "64-bit integer ".toList ++ [Char.ofNat 0x60] ++ Digits.signed i
      ++ [Char.ofNat 0x60]
  | .string s => "string ".toList ++ Text.quoted s
  | .list => "sequence".toList
  | .table => "map".toList
  | .nothing => "unit value".toList

/-- Why there are no settings. -/
inductive Fault where
  /-- The settings file is no TOML document. -/
  | badDocument (file : Text)
  /-- The settings file as a whole stands for a date or time. -/
  | badRoot (moment : Text) (file : Text)
  /-- A value cannot be converted to the type of its setting. -/
  | badValue (found : Found) (expected : Text) (key : Text) (origin : Option Text)
  /-- A section is neither table nor array, or an array too short. -/
  | badSection (message : Text)
  /-- A key names an element that cannot be. -/
  | badIndex
  deriving DecidableEq, Repr

/-- **A fault in words.** -/
def Fault.message : Fault → Text
  | .badDocument file => "TOML parse error in ".toList ++ file
  | .badRoot moment file =>
    "invalid type: ".toList ++ (Found.string moment).describe ++ ", expected a map in ".toList
      ++ file ++ " in ".toList ++ file
  | .badValue found expected key origin =>
    "invalid type: ".toList ++ found.describe ++ ", expected ".toList ++ expected
      ++ " for key ".toList ++ [Char.ofNat 0x60] ++ key ++ [Char.ofNat 0x60]
      ++ (match origin with
        | some o => " in ".toList ++ o
        | none => [])
  | .badSection m => m
  | .badIndex => "element out of range".toList

/-! ## 2. Single values -/

/-- A value converted, or what was found and what was expected. -/
abbrev Converted (α : Type) := Except (Found × Text) α

/-- What a value that no conversion takes is. -/
def Value.found : Value → Found
  | .scalar _ (.integer i) => .integer i
  | .scalar _ (.string s) => .string s
  | .scalar _ _ => .nothing
  | .array .. => .list
  | .table .. => .table

/-- The words for true. -/
def trueWords : List Text := ["true".toList, "on".toList, "yes".toList]
/-- The words for false. -/
def falseWords : List Text := ["false".toList, "off".toList, "no".toList]

/-- A value as text. -/
def toText (v : Value) : Converted Text :=
  match v with
  | .scalar _ (.string s) => .ok s
  | .scalar _ (.boolean b) => .ok (if b then "true".toList else "false".toList)
  | .scalar _ (.integer i) => .ok (Digits.signed i)
  | .scalar _ (.float x) => .ok x.toText
  | v => .error (v.found, "a string".toList)

/-- A value as a truth value: a number is true unless it is zero. -/
def toBool (v : Value) : Converted Bool :=
  match v with
  | .scalar _ (.boolean b) => .ok b
  | .scalar _ (.integer i) => .ok (i ≠ 0)
  | .scalar _ (.float x) => .ok (!x.isZero)
  | .scalar _ (.string s) =>
    let s := Text.lower s
    if s = ['1'] ∨ s ∈ trueWords then .ok true
    else if s = ['0'] ∨ s ∈ falseWords then .ok false
    else .error (.string s, "a boolean".toList)
  | v => .error (v.found, "a boolean".toList)

/-- One more than the greatest count. -/
def countLimit : Nat := 0x10000000000000000

/-- A text as a count: decimal digits, a plus in front if one likes. -/
def countOfText? (s : Text) : Option Nat :=
  let ds := match s with
    | '+' :: rest => rest
    | _ => s
  (Digits.read? ds).bind fun n => if n < countLimit then some n else none

/-- A value as a count. -/
def toCount (v : Value) : Converted Nat :=
  match v with
  | .scalar _ (.integer i) =>
    if 0 ≤ i then .ok i.toNat
    else .error (.integer i, "an unsigned 64 bit or less integer".toList)
  | .scalar _ (.boolean b) => .ok (if b then 1 else 0)
  | .scalar _ (.float x) => .ok (x.toNatClamped (countLimit - 1))
  | .scalar _ (.string s) =>
    let small := Text.lower s
    if small ∈ trueWords then .ok 1
    else if small ∈ falseWords then .ok 0
    else match countOfText? s with
      | some n => .ok n
      | none => .error (.string s, "an integer".toList)
  | v => .error (v.found, "an integer".toList)

/-! ## 3. Sections -/

/-- A section: the names of its settings and their values, or an array of values. -/
inductive Section where
  | table (entries : List (Text × Value))
  | array (items : List Value)

/-- What a value is, where a section was expected. -/
def Scalar.describe : Scalar → Text
  | .nothing => "unit value".toList
  | .boolean b => "boolean ".toList ++ [Char.ofNat 0x60]
      ++ (if b then "true".toList else "false".toList) ++ [Char.ofNat 0x60]
  | .integer i => "integer ".toList ++ [Char.ofNat 0x60] ++ Digits.signed i ++ [Char.ofNat 0x60]
  | .float x =>
    "floating point ".toList ++ [Char.ofNat 0x60] ++ x.toPointedText ++ [Char.ofNat 0x60]
  | .string s => "string ".toList ++ Text.quoted s

/-- The section of a name. `kind` is what sections of that name are called in errors. -/
def sectionOf (root : Value) (name kind : Text) : Except Fault Section :=
  match root.get? name with
  | none => .error (.badSection ("missing field ".toList ++ [Char.ofNat 0x60] ++ name
      ++ [Char.ofNat 0x60]))
  | some (.table _ es) => .ok (.table es)
  | some (.array _ items) => .ok (.array items)
  | some (.scalar _ s) =>
    .error (.badSection ("invalid type: ".toList ++ s.describe ++ ", expected ".toList ++ kind))

/-- Where a setting is: its section's name, its own name, and its place in the section. -/
structure Slot where
  group : Text
  name : Text
  place : Nat

/-- The value of a setting and the key that names it in errors. -/
def Slot.find (slot : Slot) : Section → Option (Value × Text)
  | .table es => (es.lookup slot.name).map fun v => (v, slot.group ++ '.' :: slot.name)
  | .array items => items[slot.place]?.map fun v =>
      (v, slot.group ++ '[' :: Digits.decimal slot.place ++ [']'])

/-- The converted value of a setting; what holds where there is no value is up to the caller. -/
def Slot.read {α : Type} (slot : Slot) (s : Section) (convert : Value → Converted α)
    (missing : Except Fault α) : Except Fault α :=
  match slot.find s with
  | none => missing
  | some (v, key) =>
    match convert v with
    | .ok a => .ok a
    | .error (found, expected) => .error (.badValue found expected key v.origin)

/-- A value that may be left out: no value at all counts as left out. -/
def optional {α : Type} (convert : Value → Converted α) (v : Value) : Converted (Option α) :=
  match v with
  | .scalar _ .nothing => .ok none
  | v => (convert v).map some

/-- The fault of a section without a setting it must have. -/
def lacking (s : Section) (slot : Slot) (kind count : Text) : Fault :=
  .badSection <| match s with
    | .table _ => "missing field ".toList ++ [Char.ofNat 0x60] ++ slot.name ++ [Char.ofNat 0x60]
    | .array _ => "invalid length ".toList ++ Digits.decimal slot.place ++ ", expected ".toList
        ++ kind ++ " with ".toList ++ count

/-! ## 4. All settings -/

/-- The settings of the logs. -/
def loggingOf (root : Value) : Except Fault LoggingSettings := do
  let kind := "struct LoggingConfig".toList
  let group := "logging".toList
  let s ← sectionOf root group kind
  let required (slot : Slot) : Fault := lacking s slot kind "5 elements".toList
  let level : Slot := ⟨group, "level".toList, 0⟩
  let accessLog : Slot := ⟨group, "access_log".toList, 1⟩
  let format : Slot := ⟨group, "access_log_format".toList, 2⟩
  let accessFile : Slot := ⟨group, "access_log_file".toList, 3⟩
  let errorFile : Slot := ⟨group, "error_log_file".toList, 4⟩
  return {
    level := ← level.read s toText (.error (required level))
    accessLog := ← accessLog.read s toBool (.error (required accessLog))
    accessLogFormat := ← format.read s toText (.ok Settings.default.logging.accessLogFormat)
    accessLogFile := ← accessFile.read s (optional toText) (.ok none)
    errorLogFile := ← errorFile.read s (optional toText) (.ok none) }

/-- The one setting of a section that has one. -/
def onlyOf {α : Type} (root : Value) (group name kind : Text) (convert : Value → Converted α) :
    Except Fault α := do
  let s ← sectionOf root group kind
  let slot : Slot := ⟨group, name, 0⟩
  slot.read s convert (.error (lacking s slot kind "1 element".toList))

/-- **The settings that a table of sections writes.** -/
def ofValue (root : Value) : Except Fault Settings := do
  return {
    logging := ← loggingOf root
    connectionTimeout := ← onlyOf root "performance".toList "connection_timeout".toList
      "struct PerformanceConfig".toList toCount
    serverName := ← onlyOf root "http".toList "server_name".toList "struct HttpConfig".toList
      toText }

end Docroot.Settings

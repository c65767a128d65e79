import Docroot.Settings.Toml.Marked
import Docroot.Settings.Toml.Quotation
import Docroot.Settings.Toml.Tree

/-!
# Settings files

A settings file is a TOML document: lines that are blank, a header in square brackets, or a name and
its value. This file reads values of every kind, then lines, then the whole document. A document
that breaks a rule anywhere is refused as a whole.

Arrays and tables within values nest less than eighty deep, and so do dotted names.

Readers that go on for as long as there is something to read take a bound on their steps, `fuel`;
one more than the length of the text is always enough, so a document is read with that.
-/

namespace Docroot.Settings.Toml

open Docroot.Text (Reader)
open Docroot.Text.Reader

/-- Values and dotted names nest less deep than this. -/
def depthLimit : Nat := 80

/-! ## 1. Blanks and comments -/

/-- The text without the spaces and tabs in front. -/
def skipBlanks (s : Text) : Text := s.dropWhile fun c => c = ' ' || c = '\t'

/-- Spaces and tabs, also none. -/
def spaces : Reader Unit := fun s => some ((), skipBlanks s)

/-- A character that may stand in a comment. -/
def isCommentChar (c : Char) : Bool := isPrintable c

/-- The text without a comment in front, if there is one. -/
def skipComment : Text → Text
  | '#' :: rest => rest.dropWhile isCommentChar
  | s => s

/-- The end of a line: blanks, a comment, and a line break or the end of the document. -/
def lineEnd : Reader Unit := fun s =>
  match skipComment (skipBlanks s) with
  | [] => some ((), [])
  | rest => (lineBreak? rest).map ((), ·)

/-- The text without the blanks, comments and line breaks in front; `comment` says whether it begins
    within a comment. -/
def skipLines (comment : Bool) : Text → Text
  | [] => []
  | '\n' :: rest => skipLines false rest
  | '\r' :: '\n' :: rest => skipLines false rest
  | c :: rest =>
    if comment then if isCommentChar c then skipLines true rest else c :: rest
    else if c = ' ' ∨ c = '\t' then skipLines false rest
    else if c = '#' then skipLines true rest
    else c :: rest

/-- Blanks, comments and line breaks, also none. -/
def anySpace : Reader Unit := fun s => some ((), skipLines false s)

/-! ## 2. Names -/

/-- A character of a name that needs no quotes. -/
def isBareChar (c : Char) : Bool := c.isAlphanum || c = '_' || c = '-'

/-- One name. -/
def simpleName (fuel : Nat) : Reader Text := fun s =>
  match s.takeWhile isBareChar with
  | [] => quotedName fuel s
  | name => some (name, s.drop name.length)

/-- Names with dots between, at most so many. -/
def dottedNames (fuel : Nat) : Nat → Reader (List Text)
  | 0 => refuse
  | count + 1 => do
    spaces
    let name ← simpleName fuel
    spaces
    let dot ← optionally (char '.')
    if dot.isSome then return name :: (← dottedNames fuel count) else return [name]

/-- A dotted name: the names it leads through, and the last one. -/
def fullName (fuel : Nat) : Reader (List Text × Text) := do
  let names ← dottedNames fuel (depthLimit - 1)
  match names.getLast? with
  | some last => pure (names.dropLast, last)
  | none => refuse

/-! ## 3. Values -/

/-- The values of an array up to its closing bracket. -/
def elements (value : Reader Value) : Nat → Reader (List Value)
  | 0 => refuse
  | fuel + 1 => do
    anySpace
    let stop ← optionally (char ']')
    if stop.isSome then return []
    let v ← value
    anySpace
    let comma ← optionally (char ',')
    if comma.isSome then return v :: (← elements value fuel)
    char ']'
    return [v]

/-- The entries of a table on one line, after the brace or a comma, added to those before. -/
def members (value : Reader Value) : Nat → Entries → Reader Entries
  | 0, _ => refuse
  | fuel + 1, entries => do
    let (path, name) ← fullName (fuel + 1)
    char '='
    spaces
    let v ← value
    spaces
    match entries.addValue path name v with
    | none => refuse
    | some entries =>
      let comma ← optionally (char ',')
      if comma.isSome then members value fuel entries
      else
        char '\x7d'
        return entries

/-- A table on one line, after its brace. -/
def inlineTable (value : Reader Value) (fuel : Nat) : Reader Value := do
  spaces
  let stop ← optionally (char '\x7d')
  if stop.isSome then return .table []
  let entries ← members value fuel []
  return .table (entryValues entries)

/-- The first of the readers that takes something. -/
def firstOf (readers : List (Reader Value)) : Reader Value := fun s =>
  readers.findSome? (· s)

/-- A value that holds no others. -/
def scalar (fuel : Nat) : Reader Value := fun s =>
  match s with
  | [] => none
  | c :: _ =>
    if c = '"' ∨ c = '\'' then (quotedText fuel s).map fun (t, rest) => (.string t, rest)
    else if c = 't' then (literal "true".toList s).map fun (_, rest) => (.boolean true, rest)
    else if c = 'f' then (literal "false".toList s).map fun (_, rest) => (.boolean false, rest)
    else firstOf [moment, decimalFloat, specialFloat, integer] s

/-- A value; `depth` bounds how deep arrays and tables nest in it. -/
def value (fuel : Nat) : Nat → Reader Value
  | 0 => scalar fuel
  | depth + 1 => fun s =>
    match s with
    | '[' :: rest =>
      (elements (value fuel depth) fuel rest).map fun (vs, rest) => (.array vs, rest)
    | '\x7b' :: rest => inlineTable (value fuel depth) fuel rest
    | _ => scalar fuel s

/-! ## 4. Lines -/

/-- A line of a document. -/
inductive Line where
  /-- States a table. -/
  | header (path : List Text) (name : Text)
  /-- Adds a table to a list. -/
  | listHeader (path : List Text) (name : Text)
  /-- Gives a name its value. -/
  | entry (path : List Text) (name : Text) (v : Value)

/-- A line with something on it. -/
def line (fuel : Nat) : Reader Line := fun s =>
  match s with
  | '[' :: '[' :: rest =>
    (do
      let (path, name) ← fullName fuel
      literal "]]".toList
      lineEnd
      pure (.listHeader path name) : Reader Line) rest
  | '[' :: rest =>
    (do
      let (path, name) ← fullName fuel
      char ']'
      lineEnd
      pure (.header path name) : Reader Line) rest
  | _ =>
    (do
      let (path, name) ← fullName fuel
      char '='
      spaces
      let v ← value fuel (depthLimit - 1)
      lineEnd
      pure (.entry path name v) : Reader Line) s

/-- A document so far: its entries, and the names that lead to the table now being filled. -/
structure Draft where
  entries : Entries
  current : List Text

/-- The document with one line more. -/
def Draft.add (d : Draft) : Line → Option Draft
  | .header path name =>
    (d.entries.changeAt (·.stateTable name) path).map (⟨·, path ++ [name]⟩)
  | .listHeader path name =>
    (d.entries.changeAt (·.addElement name) path).map (⟨·, path ++ [name]⟩)
  | .entry path name v =>
    (d.entries.changeAt (·.addValue path name v) d.current).map ({ d with entries := · })

/-- The document with the rest of its lines. -/
def lines : Nat → Draft → Text → Option Draft
  | 0, _, _ => none
  | fuel + 1, d, s =>
    let s := skipLines false s
    if s.isEmpty then some d
    else match line (fuel + 1) s with
      | none => none
      | some (l, rest) =>
        match d.add l with
        | none => none
        | some d => lines fuel d rest

/-! ## 5. Documents -/

/-- The text without a byte order mark in front. -/
def dropMark (s : Text) : Text :=
  match s with
  | c :: rest => if c.toNat = 0xFEFF then rest else s
  | [] => []

/-- **The value that a document writes**; none where it breaks a rule. It is the table of its
    entries, unless that table is marked. -/
def readDocument? (s : Text) : Option Value :=
  let s := dropMark s
  (lines (s.length + 1) ⟨[], []⟩ s).bind fun d => settleTable (entryValues d.entries)

end Docroot.Settings.Toml

import Docroot.Text.Utf8

/-!
# File paths

A path is octets, with the slash between the names. Nothing here looks at a file system: joining,
the last name of a path and its extension, the parent, and how a path is shown.

Empty names and `.` say nothing about where a path leads, except at the front; the functions that
look at the last name pass them over.
-/

namespace Docroot

/-- A path of a file system, as octets. -/
abbrev Path := Bytes

namespace Path

/-- The octet `/`. -/
def slash : UInt8 := 0x2F
/-- The octet `.`. -/
def dot : UInt8 := 0x2E

/-! ## 1. Joining -/

/-- The path that begins with the root. -/
def isAbsolute (p : Path) : Bool := p.head? == some slash

/-- **The path of `name` below `p`.** A slash goes between where there is none and there is
    something to separate; an absolute `name` takes the place of `p`. -/
def push (p : Path) (name : Bytes) : Path :=
  if isAbsolute name then name
  else if p = [] ∨ p.getLast? = some slash then p ++ name
  else p ++ slash :: name

/-- The path of a list of names, slashes between. -/
def ofNames (names : List Bytes) : Path := [slash].intercalate names

/-- The path of several names below `p`, one below the other. -/
def pushNames (p : Path) (names : List Bytes) : Path :=
  if names = [] then p else p.push (ofNames names)

/-- The names of a path: what stands between slashes and is not empty. -/
def names (p : Path) : List Bytes := (cutAt slash p).filter (· ≠ [])

/-! ## 2. The last name -/

/-- Says nothing about where a path leads. -/
def isIdle (name : Bytes) : Bool := name == [] || name == [dot]

/-- The names of a path that lead somewhere. -/
def steps (p : Path) : List Bytes := (cutAt slash p).filter (!isIdle ·)

/-- The name of what the path leads to, if it ends in a name. -/
def fileName? (p : Path) : Option Bytes :=
  match (steps p).getLast? with
  | some name => if name = [dot, dot] then none else some name
  | none => none

/-- What a file name has after its last dot; none where there is no dot but a leading one. -/
def extensionOf? (name : Bytes) : Option Bytes :=
  if dot ∈ name.drop 1 then some (name.reverse.takeWhile (· ≠ dot)).reverse else none

/-- The extension of the file that the path leads to. -/
def extension? (p : Path) : Option Bytes := (fileName? p).bind extensionOf?

/-! ## 3. The parent -/

/-- The pieces of a path with the idle ones at its end left out; the first piece always stays. -/
def dropIdleEnd (pieces : List Bytes) : List Bytes :=
  match pieces with
  | [] => []
  | first :: rest => first :: (rest.reverse.dropWhile isIdle).reverse

/-- The path of pieces between slashes; the root's only piece is empty. -/
def ofPieces (pieces : List Bytes) : Path := if pieces = [[]] then [slash] else ofNames pieces

/-- The path without the slashes and dots that end it. -/
def trimmed (p : Path) : Path := ofNames (dropIdleEnd (cutAt slash p))

/-- The path without its last name; none for the root and the empty path. -/
def parent? (p : Path) : Option Path :=
  match dropIdleEnd (cutAt slash p) with
  | [] => none
  | [first] => if first = [] then none else some []
  | pieces => some (ofPieces (dropIdleEnd pieces.dropLast))

/-- The path with `suffix` put to its last name; none where it does not end in a name. -/
def appendToName? (p : Path) (suffix : Bytes) : Option Path :=
  (fileName? p).map fun _ => trimmed p ++ suffix

/-! ## 4. Shown to people -/

/-- The path as a text, with U+FFFD for what is not UTF-8. -/
def display (p : Path) : Text := Utf8.decodeLossy p

/-- Steps that lead from the directory at `base` to what is at `steps`, both counted from the
    root. -/
def relativeTo : List Bytes → List Bytes → List Bytes
  | b :: base, s :: steps =>
    if b = s then relativeTo base steps
    else List.replicate (base.length + 1) [dot, dot] ++ s :: steps
  | base, steps => List.replicate base.length [dot, dot] ++ steps

end Path

end Docroot

import Docroot.Settings.Toml.Value
import Docroot.Text.Lowercase

/-!
# Layers of settings

Settings come from layers: built-in defaults, the settings file, the environment. A later layer
replaces what an earlier one says, name by name: tables are merged, everything else is replaced.
Names do not depend on case; they are kept in small letters.

The outermost names of a layer may be paths: `http.server_name` is a name in a table, `list[0]` an
element of an array. What such a path leads through is made where it is missing, and replaced by a
table or an array where it is neither.
-/

namespace Docroot.Settings

/-! ## 1. Values with their origin -/

/-- A value that holds no others. -/
inductive Scalar where
  | nothing
  | boolean (b : Bool)
  | integer (i : Int)
  | float (x : Float64)
  | string (s : Text)

/-- A value, and where it comes from if that is known. What a merge made has no origin. -/
inductive Value where
  | scalar (origin : Option Text) (s : Scalar)
  | array (origin : Option Text) (items : List Value)
  | table (origin : Option Text) (entries : List (Text × Value))

namespace Value

/-- Where the value comes from. -/
def origin : Value → Option Text
  | .scalar o _ => o
  | .array o _ => o
  | .table o _ => o

/-- A table without entries. -/
def emptyTable : Value := .table none []

/-- No value. -/
def nothing : Value := .scalar none .nothing

/-- The entries of a table; anything else has none. -/
def entries : Value → List (Text × Value)
  | .table _ es => es
  | _ => []

/-- The items of an array; anything else has none. -/
def items : Value → List Value
  | .array _ vs => vs
  | _ => []

/-- The entry of a name. -/
def get? (v : Value) (name : Text) : Option Value := v.entries.lookup name

end Value

/-- Entries with a value under a name, in its old place or at the end. -/
def putEntry (name : Text) (v : Value) : List (Text × Value) → List (Text × Value)
  | [] => [(name, v)]
  | (n, w) :: rest => if n = name then (name, v) :: rest else (n, w) :: putEntry name v rest

/-- The value as a table with one entry put; a table keeps its origin, anything else gives way to a
    table. -/
def Value.put (root : Value) (name : Text) (v : Value) : Value :=
  match root with
  | .table o es => .table o (putEntry name v es)
  | _ => .table none (putEntry name v [])

mutual
/-- **Sets a name in a table.** A table is merged into what the name has, anything else replaces
    it. -/
def setName (root : Value) (name : Text) : Value → Value
  | .table _ incoming =>
    let old := (root.get? (Text.lower name)).getD .emptyTable
    root.put (Text.lower name) (setAll old incoming)
  | .array o items => root.put (Text.lower name) (.array o items)
  | .scalar o s => root.put (Text.lower name) (.scalar o s)

/-- Sets all names of a table in another. -/
def setAll (root : Value) : List (Text × Value) → Value
  | [] => root
  | (name, v) :: rest => setAll (setName root name v) rest
end

/-! ## 2. Paths -/

/-- A path to a value: a name, a name in what a path leads to, or an element of it. Elements are
    counted from 0, or from the end where the number is negative. -/
inductive Route where
  | name (n : Text)
  | child (parent : Route) (n : Text)
  | element (parent : Route) (index : Int)
  deriving DecidableEq, Repr

/-- An element was asked for that lies before the first, or too far beyond the last to be made. -/
inductive BadIndex where
  | badIndex
  deriving DecidableEq, Repr

/-- The most elements an array is filled up to. -/
def maxElements : Nat := 100000000

/-- The place of an element in an array of a length. -/
def elementPlace (index : Int) (length : Nat) : Except BadIndex Nat :=
  let i := if 0 ≤ index then index else length + index
  if 0 ≤ i ∧ i < maxElements then .ok i.toNat else .error .badIndex

/-- The items, filled up so that there is one at `place`. -/
def fillUp (place : Nat) (items : List Value) : List Value :=
  items ++ List.replicate (place + 1 - items.length) .nothing

/-- Changes what a path leads to; it is made where it is missing. -/
def Route.change (f : Value → Except BadIndex Value) : Route → Value → Except BadIndex Value
  | .name n, root =>
    match root with
    | .table .. => do return root.put n (← f ((root.get? n).getD .nothing))
    | _ => .ok root
  | .child parent n, root =>
    parent.change (fun v => do return v.put n (← f ((v.get? n).getD .nothing))) root
  | .element parent index, root =>
    parent.change (fun v => do
      let place ← elementPlace index v.items.length
      let items := fillUp place v.items
      let item ← f (items.getD place .nothing)
      let o := match v with
        | .array o _ => o
        | _ => none
      return .array o (items.set place item)) root

/-- **Sets what a path leads to.** -/
def Route.set (r : Route) (v : Value) (root : Value) : Except BadIndex Value :=
  match r with
  | .name n => .ok (setName root n v)
  | .child parent n => parent.change (fun old => .ok (setName old n v)) root
  | .element .. => r.change (fun _ => .ok v) root

/-! ## 3. Reading paths -/

/-- A character of a name in a path. -/
def isRouteChar (c : Char) : Bool := c.isAlphanum || c == ' ' || c == '_' || c == '-'

/-- The least and the greatest number of an element. -/
def leastIndex : Int := -0x8000000000000000
/-- See `leastIndex`. -/
def greatestIndex : Int := 0x7FFFFFFFFFFFFFFF

/-- Whether a character may stand around the number of an element. -/
def isRouteBlank (c : Char) : Bool := c == ' ' || c == '\t'

/-- The number of an element, up to the closing bracket, and what follows it. Blanks may stand on
    both sides of the number, but none between its sign and its digits. -/
def readIndex? (s : Text) : Option (Int × Text) :=
  let (negative, s) := match s.dropWhile isRouteBlank with
    | '-' :: rest => (true, rest)
    | s => (false, s)
  let ds := s.takeWhile Char.isDigit
  let n : Int := Digits.value ds
  let i := if negative then -n else n
  match ds, (s.drop ds.length).dropWhile isRouteBlank with
  | _ :: _, ']' :: rest =>
    if leastIndex ≤ i ∧ i ≤ greatestIndex then some (i, rest) else none
  | _, _ => none

/-- The rest of a path, after a beginning, with its names in small letters. The fuel bounds its
    steps. -/
def readSteps? (r : Route) : Nat → Text → Option Route
  | _, [] => some r
  | 0, _ => none
  | fuel + 1, '.' :: rest =>
    match rest.takeWhile isRouteChar with
    | [] => none
    | n => readSteps? (.child r (Text.lower n)) fuel (rest.drop n.length)
  | fuel + 1, '[' :: rest =>
    match readIndex? rest with
    | some (i, rest) => readSteps? (.element r i) fuel rest
    | none => none
  | _, _ => none

/-- The path that a key writes, with its names in small letters; a key that writes none is a name
    as it stands. -/
def Route.ofKey (key : Text) : Route :=
  match key.takeWhile isRouteChar with
  | [] => .name key
  | n => (readSteps? (.name (Text.lower n)) key.length (key.drop n.length)).getD (.name key)

/-! ## 4. Merging -/

/-- Puts a layer over what is there: each of its keys is a path, and is set. -/
def applyLayer (layer : List (Text × Value)) (root : Value) : Except BadIndex Value :=
  layer.foldlM (fun root (key, v) => (Route.ofKey key).set v root) root

/-- **The settings of several layers, lowest first, over the defaults.** The layers are put together
    first, and the result is put over the defaults. -/
def mergeLayers (defaults : Value) (layers : List (List (Text × Value))) :
    Except BadIndex Value := do
  let all ← layers.foldlM (fun root layer => applyLayer layer root) Value.emptyTable
  applyLayer all.entries defaults

end Docroot.Settings

import Docroot.Settings.Toml.Value

/-!
# Tables while a document is read

While a document is read, its tables know how they came about, since that decides who may still add
to them: a table *stated* by its header is closed to headers and to dotted names; one *implied* by a
longer header may still be stated; one made by a dotted name (`a.b = 1`) takes more dotted names but
no header. A list of tables takes more tables, and stands for its last one in longer names.

Nothing is ever defined twice: every addition to a name that is taken is refused.
-/

namespace Docroot.Settings.Toml

/-- How a table came about. -/
inductive Origin where
  | stated
  | implied
  | dotted
  deriving DecidableEq, Repr

/-- What a name stands for. A list of tables has its last table in front. -/
inductive Item where
  | value (v : Value)
  | table (origin : Origin) (entries : List (Text × Item))
  | tables (newestFirst : List (List (Text × Item)))

/-- The entries of a table. -/
abbrev Entries := List (Text × Item)

namespace Entries

/-- The entries with `item` under a name, in its old place or at the end. -/
def put (name : Text) (item : Item) : Entries → Entries
  | [] => [(name, item)]
  | (n, i) :: rest => if n = name then (name, item) :: rest else (n, i) :: put name item rest

/-- The entries with a new name, which must not be taken. -/
def add? (entries : Entries) (name : Text) (item : Item) : Option Entries :=
  match entries.lookup name with
  | some _ => none
  | none => some (entries ++ [(name, item)])

/-! ## 1. Dotted names -/

/-- Adds a value below names that a dotted name leads through. `dotted` says whether the table at
    hand was itself made by dotted names; only such a table takes the value. -/
def addBelow (name : Text) (v : Value) : List Text → Bool → Entries → Option Entries
  | [], dotted, entries => if dotted then entries.add? name (.value v) else none
  | first :: path, _, entries =>
    match entries.lookup first with
    | none => (addBelow name v path true []).map fun sub =>
        entries.put first (.table .dotted sub)
    | some (.table .stated _) => none
    | some (.table origin sub) => (addBelow name v path (origin = .dotted) sub).map fun sub =>
        entries.put first (.table origin sub)
    | some (.tables (last :: others)) => (addBelow name v path false last).map fun last =>
        entries.put first (.tables (last :: others))
    | some _ => none

/-- **Adds a value under a name**, which `path` leads to. -/
def addValue (path : List Text) (name : Text) (v : Value) (entries : Entries) : Option Entries :=
  if path = [] then entries.add? name (.value v) else addBelow name v path false entries

/-! ## 2. Headers -/

/-- Changes the table that names lead to; tables that are missing on the way are implied, and a
    list of tables stands for its last one. -/
def changeAt (f : Entries → Option Entries) : List Text → Entries → Option Entries
  | [], entries => f entries
  | first :: path, entries =>
    match entries.lookup first with
    | none => (changeAt f path []).map fun sub => entries.put first (.table .implied sub)
    | some (.table origin sub) => (changeAt f path sub).map fun sub =>
        entries.put first (.table origin sub)
    | some (.tables (last :: others)) => (changeAt f path last).map fun last =>
        entries.put first (.tables (last :: others))
    | some _ => none

/-- States a table: there must be none of the name, or an implied one. Either way the name comes
    last from now on. -/
def stateTable (name : Text) (entries : Entries) : Option Entries :=
  match entries.lookup name with
  | none => some (entries ++ [(name, .table .stated [])])
  | some (.table .implied sub) =>
    some ((entries.filter fun e => e.1 ≠ name) ++ [(name, .table .stated sub)])
  | some _ => none

/-- Adds an empty table to a list of tables, which may be new. -/
def addElement (name : Text) (entries : Entries) : Option Entries :=
  match entries.lookup name with
  | none => some (entries ++ [(name, .tables [[]])])
  | some (.tables elements) => some (entries.put name (.tables ([] :: elements)))
  | some _ => none

end Entries

/-! ## 3. The finished table -/

mutual
/-- What a name stands for, as a value. -/
def Item.toValue : Item → Value
  | .value v => v
  | .table _ entries => .table (entryValues entries)
  | .tables newestFirst => .array (elementValues newestFirst).reverse

/-- Entries as named values. -/
def entryValues : List (Text × Item) → List (Text × Value)
  | [] => []
  | (name, item) :: rest => (name, item.toValue) :: entryValues rest

/-- The elements of a list of tables as values. -/
def elementValues : List (List (Text × Item)) → List Value
  | [] => []
  | entries :: rest => .table (entryValues entries) :: elementValues rest
end

end Docroot.Settings.Toml

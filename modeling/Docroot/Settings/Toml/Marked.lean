import Docroot.Settings.Toml.Number

/-!
# Tables that stand for dates and times

Besides writing a date or time as it is, a document may write it as a table: its first name is a
mark, and that name's value is the date or time as text. The other entries of such a table count for
nothing, and a marked table that does not write a date or time makes the document break a rule.

The document as a whole is a table too, and may be marked.
-/

namespace Docroot.Settings.Toml

/-- The name that marks a table as a date or time. -/
def momentMark : Text := "$__toml_private_datetime".toList

/-- The date or time that a value writes as text. -/
def momentOf? : Value → Option Value
  | .string s => Text.Reader.readAll? moment s
  | _ => none

mutual
/-- **A value with its marked tables replaced by what they stand for**; none where one of them
    writes no date or time. -/
def settle : Value → Option Value
  | .table entries => settleTable entries
  | .array items => (settleItems items).map .array
  | v => some v

/-- A table of entries, or what it stands for if it is marked. -/
def settleTable : List (Text × Value) → Option Value
  | [] => some (.table [])
  | (name, v) :: rest =>
    if name = momentMark then momentOf? v
    else do return .table ((name, ← settle v) :: (← settleEntries rest))

/-- Entries with their values settled. -/
def settleEntries : List (Text × Value) → Option (List (Text × Value))
  | [] => some []
  | (name, v) :: rest => do return (name, ← settle v) :: (← settleEntries rest)

/-- Items of an array settled. -/
def settleItems : List Value → Option (List Value)
  | [] => some []
  | v :: rest => do return (← settle v) :: (← settleItems rest)
end

end Docroot.Settings.Toml

import Docroot.Number.Digits
import Docroot.Text.Blank

/-!
# Reading text from the left

A `Reader` takes what it wants from the front of a text and leaves the rest, or refuses. The
readers here are the small ones that the date forms are put together from.
-/

namespace Docroot.Text

/-- Takes a value from the front of a text and leaves the rest, or refuses. -/
abbrev Reader := StateT Text Option

namespace Reader

/-- Refuses whatever comes. -/
def refuse {α : Type} : Reader α := fun _ => none

/-- The value of a reader that takes the whole text. -/
def readAll? {α : Type} (r : Reader α) (s : Text) : Option α :=
  match r s with
  | some (a, []) => some a
  | _ => none

/-- One given character. -/
def char (c : Char) : Reader Unit := fun s =>
  match s with
  | d :: rest => if d = c then some ((), rest) else none
  | [] => none

/-- A given text, to the letter. -/
def literal (t : Text) : Reader Unit := fun s => (t.isPrefixOf? s).map ((), ·)

/-- A given text, in capital or small ASCII letters. -/
def word (t : Text) : Reader Unit := fun s =>
  if eqIgnoringCase (s.take t.length) t then some ((), s.drop t.length) else none

/-- The first of the listed words that comes next, and its place in the list, counted from
    `start`. -/
def wordFrom (start : Nat) : List Text → Reader Nat
  | [] => refuse
  | t :: ts => fun s =>
    match word t s with
    | some (_, rest) => some (start, rest)
    | none => wordFrom (start + 1) ts s

/-- Any number of blank characters, also none. -/
def blanks : Reader Unit := fun s => some ((), trimStart s)

/-- At least one blank character. -/
def someBlanks : Reader Unit := fun s =>
  match s with
  | c :: rest => if isBlank c then some ((), trimStart rest) else none
  | [] => none

/-- The longest run of ASCII digits of at most `most` digits, if it has at least `least`. -/
def digits (least : Nat) (most : Option Nat) : Reader Text := fun s =>
  let run := s.takeWhile Char.isDigit
  let run := match most with
    | some n => run.take n
    | none => run
  if run.length < least then none else some (run, s.drop run.length)

/-- A number of `least` to `most` digits that lies between `low` and `high`. -/
def number (least most low high : Nat) : Reader Nat := do
  let n := Digits.value (← digits least (some most))
  if low ≤ n ∧ n ≤ high then pure n else refuse

/-- What the reader takes, or nothing taken where it refuses. -/
def optionally {α : Type} (r : Reader α) : Reader (Option α) := fun s =>
  match r s with
  | some (a, rest) => some (some a, rest)
  | none => some (none, s)

end Reader

end Docroot.Text

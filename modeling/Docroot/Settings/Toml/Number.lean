import Docroot.Settings.Toml.Value
import Docroot.Text.Reader

/-!
# Numbers and moments in settings files

Integers of 64 bits in four bases, binary64 numbers, and dates and times. Underscores may stand
between the digits of a number, and only there. A number in decimal has no needless zero in front.

A float too great to be held is minus infinity if it is negative, and an error if it is not.
-/

namespace Docroot.Settings.Toml

open Docroot.Text (Reader)
open Docroot.Text.Reader

/-! ## 1. Digits -/

/-- Digits of a kind with single underscores between them: the digits alone, and the rest. The text
    is read from just after a digit; `seen` are the digits so far, last first. -/
def groupedFrom (isDigit : Char → Bool) (seen : Text) : Text → Option (Text × Text)
  | [] => some (seen.reverse, [])
  | '_' :: c :: rest => if isDigit c then groupedFrom isDigit (c :: seen) rest else none
  | c :: rest =>
    if c = '_' then none
    else if isDigit c then groupedFrom isDigit (c :: seen) rest
    else some (seen.reverse, c :: rest)

/-- One digit or more of a kind, with single underscores between them. -/
def grouped (isDigit : Char → Bool) : Reader Text := fun s =>
  match s with
  | c :: rest => if isDigit c then groupedFrom isDigit [c] rest else none
  | [] => none

/-- A sign, if there is one: is it a minus? -/
def sign : Reader Bool := fun s =>
  match s with
  | '+' :: rest => some (false, rest)
  | '-' :: rest => some (true, rest)
  | _ => some (false, s)

/-- The whole part of a decimal number: `0`, or digits that do not begin with it. -/
def wholePart : Reader Text := fun s =>
  match s with
  | '0' :: rest => some (['0'], rest)
  | _ => grouped Char.isDigit s

/-! ## 2. Integers -/

/-- The least and the greatest integer. -/
def leastInteger : Int := -0x8000000000000000
/-- See `leastInteger`. -/
def greatestInteger : Int := 0x7FFFFFFFFFFFFFFF

/-- The integer, if 64 bits hold it. -/
def inRange (i : Int) : Reader Value :=
  if leastInteger ≤ i ∧ i ≤ greatestInteger then pure (.integer i) else refuse

/-- The number that digits of a base write. -/
def valueIn (base : Nat) (ds : Text) : Nat :=
  ds.foldl (fun n d => n * base + (Digits.hexValue? d).getD 0) 0

/-- An integer in another base, after its `0x`, `0o` or `0b`. -/
def basedInteger (base : Nat) : Reader Value := do
  let ds ← grouped fun c => (Digits.hexValue? c).any (· < base)
  inRange (valueIn base ds)

/-- An integer. -/
def integer : Reader Value := fun s =>
  match s with
  | '0' :: 'x' :: rest => basedInteger 16 rest
  | '0' :: 'o' :: rest => basedInteger 8 rest
  | '0' :: 'b' :: rest => basedInteger 2 rest
  | _ => (do
      let negative ← sign
      let n : Int := Digits.value (← wholePart)
      inRange (if negative then -n else n) : Reader Value) s

/-! ## 3. Floats -/

/-- Beyond this many digits before the point a number is too great, and with this many zeros after
    the point it is zero. -/
def scaleLimit : Int := 400

/-- How many digits of a number are told apart. Numbers midway between two binary64 numbers have
    fewer, so of all further digits it only matters whether there is one that is not zero. -/
def digitLimit : Nat := 800

/-- Digits and an exponent of ten with at most `digitLimit + 1` digits, none of them a zero in
    front: what is cut off is stood for by a single digit. -/
def shorten (digits : Text) (exponent : Int) : Text × Int :=
  let ds := digits.dropWhile (· = '0')
  match ds.drop digitLimit with
  | [] => (ds, exponent)
  | rest =>
    (ds.take digitLimit ++ [if rest.all (· = '0') then '0' else '1'], exponent + rest.length - 1)

/-- The binary64 number nearest to `digits · 10 ^ exponent`; none where it is too great. -/
def nearest (digits : Text) (exponent : Int) : Option Binary64 :=
  let (digits, exponent) := shorten digits exponent
  let n := Digits.value digits
  let scale := digits.length + exponent
  if n = 0 ∨ scale < -scaleLimit then some ⟨0, Binary64.leastExponent⟩
  else if scaleLimit < scale then none
  else Binary64.ofQuotient ⟨n * Nat.pow 10 exponent.toNat, Nat.pow 10 (-exponent).toNat⟩

/-- What follows an `e`: a sign, if there is one, and digits. -/
def exponentPart : Reader Int := do
  let negative ← sign
  let n : Int := Digits.value (← grouped Char.isDigit)
  pure (if negative then -n else n)

/-- An `e` of either case. -/
def exponentMark : Reader Unit := fun s =>
  match s with
  | c :: rest => if c = 'e' ∨ c = 'E' then some ((), rest) else none
  | [] => none

/-- A number with a fraction, an exponent, or both. -/
def decimalFloat : Reader Value := do
  let negative ← sign
  let whole ← wholePart
  let point ← optionally (char '.')
  let fraction ← if point.isSome then grouped Char.isDigit else pure []
  let mark ← optionally exponentMark
  let exponent ← if mark.isSome then exponentPart else pure 0
  if point.isNone ∧ mark.isNone then refuse
  else match nearest (whole ++ fraction) (exponent - fraction.length) with
    | some x => pure (.float (.finite negative x))
    | none => if negative then pure (.float (.infinite true)) else refuse

/-- Infinity or what is no number, with a sign or without. -/
def specialFloat : Reader Value := do
  let negative ← sign
  let infinite ← optionally (literal "inf".toList)
  if infinite.isSome then pure (.float (.infinite negative))
  else
    literal "nan".toList
    pure (.float .nan)

/-! ## 4. Dates and times -/

/-- A number of exactly `count` digits between `low` and `high`. -/
def exactly (count low high : Nat) : Reader Nat := number count count low high

/-- The days of a month of a year. -/
def daysIn (year month : Nat) : Nat :=
  if month = 2 then
    (if year % 4 = 0 ∧ (year % 100 ≠ 0 ∨ year % 400 = 0) then 29 else 28)
  else if month = 4 ∨ month = 6 ∨ month = 9 ∨ month = 11 then 30 else 31

/-- A date, as written: `1979-05-27`. -/
def date : Reader Text := do
  let year ← exactly 4 0 9999
  char '-'
  let month ← exactly 2 1 12
  char '-'
  let day ← exactly 2 1 31
  if day ≤ daysIn year month then
    pure (Digits.padded 4 year ++ '-' :: Digits.padded 2 month ++ '-' :: Digits.padded 2 day)
  else refuse

/-- The fraction of a second, as written: nine digits count, and zeros at its end do not. -/
def fractionPart : Reader Text := fun s =>
  match s with
  | '.' :: rest => (digits 1 none rest).map fun (ds, rest) =>
      let ds := ((ds.take 9).reverse.dropWhile (· = '0')).reverse
      (if ds = [] then [] else '.' :: ds, rest)
  | _ => some ([], s)

/-- A time of day, as written: `07:32:00.5`. -/
def time : Reader Text := do
  let hour ← exactly 2 0 23
  char ':'
  let minute ← exactly 2 0 59
  char ':'
  let second ← exactly 2 0 60
  let fraction ← fractionPart
  pure (Digits.padded 2 hour ++ ':' :: Digits.padded 2 minute ++ ':' :: Digits.padded 2 second
    ++ fraction)

/-- An offset from UTC, as written; none at all is an empty text. -/
def offset : Reader Text := fun s =>
  match s with
  | c :: rest =>
    if c = 'Z' ∨ c = 'z' then some (['Z'], rest)
    else if c = '+' ∨ c = '-' then
      (do
        let hour ← exactly 2 0 23
        char ':'
        let minute ← exactly 2 0 59
        let mark := if c = '-' ∧ 0 < hour + minute then '-' else '+'
        pure (mark :: Digits.padded 2 hour ++ ':' :: Digits.padded 2 minute) : Reader Text) rest
    else some ([], s)
  | [] => some ([], s)

/-- What separates a date from the time after it. -/
def timeMark : Reader Unit := fun s =>
  match s with
  | c :: rest => if c = 'T' ∨ c = 't' ∨ c = ' ' then some ((), rest) else none
  | [] => none

/-- A date, a time, or both with or without an offset. -/
def moment : Reader Value := fun s =>
  match date s with
  | some (d, rest) =>
    match (do timeMark; let t ← time; let o ← offset; pure (t ++ o) : Reader Text) rest with
    | some (t, rest) => some (.moment (d ++ 'T' :: t), rest)
    | none => some (.moment d, rest)
  | none => (time s).map fun (t, rest) => (.moment t, rest)

end Docroot.Settings.Toml

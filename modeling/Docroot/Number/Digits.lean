import Docroot.Text

/-!
# Whole numbers as digits

Decimal and hexadecimal digits of natural numbers and integers, and reading decimal digits back.
Only the ten ASCII digits count as digits.
-/

namespace Docroot.Digits

/-- A natural number in decimal. -/
def decimal (n : Nat) : Text := Nat.toDigits 10 n

/-- A natural number in decimal, with zeros in front up to `width` digits. -/
def padded (width n : Nat) : Text := Text.padLeft width '0' (decimal n)

/-- An integer in decimal, with a minus sign where it is negative. -/
def signed : Int → Text
  | .ofNat n => decimal n
  | .negSucc n => '-' :: decimal (n + 1)

/-- An integer with its sign always written, zeros between the sign and the digits up to `width`
    characters in all. -/
def signedPadded (width : Nat) (i : Int) : Text :=
  (if i < 0 then '-' else '+') :: padded (width - 1) i.natAbs

/-- The sixteen digits, small letters. -/
def hexDigit (n : Nat) : Char := Nat.digitChar n

/-- A natural number in hexadecimal, small letters. -/
def hex (n : Nat) : Text := Nat.toDigits 16 n

/-- The value of a hexadecimal digit of either case. -/
def hexValue? (c : Char) : Option Nat :=
  if '0' ≤ c ∧ c ≤ '9' then some (c.toNat - 48)
  else if 'a' ≤ c ∧ c ≤ 'f' then some (c.toNat - 87)
  else if 'A' ≤ c ∧ c ≤ 'F' then some (c.toNat - 55)
  else none

/-- The number that decimal digits write, most significant first; what is not a digit counts by its
    distance from `0`, so callers check with `Char.isDigit` first. -/
def value (ds : Text) : Nat := ds.foldl (fun n d => n * 10 + (d.toNat - 48)) 0

/-- The number a text writes, if it is one digit or more and nothing else. -/
def read? (s : Text) : Option Nat :=
  if s ≠ [] ∧ s.all Char.isDigit then some (value s) else none

end Docroot.Digits

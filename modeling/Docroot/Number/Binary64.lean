import Docroot.Number.Digits

/-!
# Binary64 numbers, exactly

A finite binary64 number is `mantissa · 2 ^ exponent` with a mantissa below `2 ^ 53`. Everything
here is arithmetic on natural numbers: the nearest binary64 number of a quotient, a number to a set
number of decimal places, and the fewest decimal digits that read back as the same number.

Where a quotient lies midway between two numbers, the one with the even mantissa is taken; the same
rule rounds to decimal places.
-/

namespace Docroot

/-! ## 1. Rounding quotients -/

/-- The whole number nearest to `n / d`; a half goes to the even neighbour. -/
def roundHalfEven (n d : Nat) : Nat :=
  let q := n / d
  let r := n % d
  if 2 * r < d then q else if d < 2 * r then q + 1 else if q % 2 = 0 then q else q + 1

/-- A quotient of natural numbers, `num / den` with `den` not zero. -/
structure Quotient64 where
  num : Nat
  den : Nat

/-- `q · 2 ^ e`. -/
def Quotient64.scale (q : Quotient64) (e : Int) : Quotient64 :=
  ⟨q.num * Nat.pow 2 e.toNat, q.den * Nat.pow 2 (-e).toNat⟩

/-- A finite binary64 number that is not negative: `mantissa · 2 ^ exponent`. -/
structure Binary64 where
  mantissa : Nat
  exponent : Int
  deriving DecidableEq, Repr

namespace Binary64

/-- The least exponent. -/
def leastExponent : Int := -1074
/-- The greatest exponent. -/
def greatestExponent : Int := 971
/-- One more than the greatest mantissa. -/
def mantissaLimit : Nat := 0x20000000000000

/-- The exponent that gives the quotient a mantissa of 53 bits, or the least exponent. -/
def exponentFor (q : Quotient64) : Int :=
  let e : Int := (Nat.log2 q.num : Int) - (Nat.log2 q.den : Int) - 53
  let s := q.scale (-e)
  max (if mantissaLimit * s.den ≤ s.num then e + 1 else e) leastExponent

/-- **The binary64 number nearest to a quotient**; none where it is too great for one. -/
def ofQuotient (q : Quotient64) : Option Binary64 :=
  if q.num = 0 then some ⟨0, leastExponent⟩
  else
    let e := exponentFor q
    let s := q.scale (-e)
    let m := roundHalfEven s.num s.den
    let (m, e) := if m = mantissaLimit then (m / 2, e + 1) else (m, e)
    if greatestExponent < e then none else some ⟨m, e⟩

/-- The number as a quotient. -/
def toQuotient (x : Binary64) : Quotient64 := Quotient64.scale ⟨x.mantissa, 1⟩ x.exponent

/-! ## 2. A set number of decimal places -/

/-- The number with `places` decimal places, at least one. -/
def fixed (places : Nat) (x : Binary64) : Text :=
  let q := x.toQuotient
  let n := roundHalfEven (q.num * Nat.pow 10 places) q.den
  Digits.decimal (n / Nat.pow 10 places) ++ '.' :: Digits.padded places (n % Nat.pow 10 places)

/-! ## 3. The fewest digits -/

/-- A decimal number, `digits · 10 ^ exponent`. -/
structure Decimal where
  digits : Nat
  exponent : Int

/-- A decimal number as a quotient. -/
def Decimal.toQuotient (d : Decimal) : Quotient64 :=
  ⟨d.digits * Nat.pow 10 d.exponent.toNat, Nat.pow 10 (-d.exponent).toNat⟩

/-- Less, for quotients. -/
def Quotient64.lt (p q : Quotient64) : Bool := p.num * q.den < q.num * p.den

/-- The distance to the number below is half the distance to the number above. -/
def narrowBelow (x : Binary64) : Bool :=
  x.mantissa == 0x10000000000000 && leastExponent < x.exponent

/-- **Does a decimal number read as `x`?** It does if it lies between the points midway to the
    neighbours of `x`; these points belong to `x` where its mantissa is even. -/
def readsBack (x : Binary64) (d : Decimal) : Bool :=
  let gap := if x.narrowBelow then 1 else 2
  let low := Quotient64.scale ⟨4 * x.mantissa - gap, 1⟩ (x.exponent - 2)
  let high := Quotient64.scale ⟨4 * x.mantissa + 2, 1⟩ (x.exponent - 2)
  let v := d.toQuotient
  if x.mantissa % 2 = 0 then !Quotient64.lt v low && !Quotient64.lt high v
  else Quotient64.lt low v && Quotient64.lt v high

/-- How many digits the number has before the point; zero or less counts the zeros after it. -/
def decimalScale (x : Binary64) : Int :=
  let q := x.toQuotient
  if q.den ≤ q.num then (Digits.decimal (q.num / q.den)).length
  else
    let zeros := (Digits.decimal (q.den / q.num)).length - 1
    -- `q.den / q.num` has `zeros + 1` digits, so the number is above `10 ^ (-zeros - 1)`
    if q.den ≤ q.num * Nat.pow 10 zeros then 1 - (zeros : Int) else -(zeros : Int)

/-- The nearer of the two decimal numbers of `n` digits next to `x`, if it reads as `x`; the upper
    one where both are as near. -/
def withDigits? (x : Binary64) (n : Nat) : Option Decimal :=
  let g := x.decimalScale - n
  let q := x.toQuotient
  let num := q.num * Nat.pow 10 (-g).toNat
  let den := q.den * Nat.pow 10 g.toNat
  let below : Decimal := ⟨num / den, g⟩
  let above : Decimal := ⟨num / den + 1, g⟩
  let nearer := if 2 * (num % den) < den then [below, above] else [above, below]
  nearer.find? x.readsBack

/-- **The decimal number of fewest digits that reads as `x`**, which is not zero; seventeen digits
    always suffice. -/
def shortest (x : Binary64) : Decimal :=
  ((List.range' 1 17).findSome? x.withDigits?).getD ⟨0, 0⟩

/-- A decimal number without an exponent: zeros fill the places up to the point. -/
def Decimal.positional (d : Decimal) : Text :=
  let ds := Digits.decimal d.digits
  if 0 ≤ d.exponent then ds ++ List.replicate d.exponent.toNat '0'
  else
    let places := (-d.exponent).toNat
    let ds := Text.padLeft (places + 1) '0' ds
    let whole := ds.take (ds.length - places)
    let part := ((ds.drop (ds.length - places)).reverse.dropWhile (· = '0')).reverse
    if part = [] then whole else whole ++ '.' :: part

end Binary64

/-! ## 4. With signs, infinities, and what is no number -/

/-- A binary64 value. -/
inductive Float64 where
  | finite (negative : Bool) (size : Binary64)
  | infinite (negative : Bool)
  | nan
  deriving DecidableEq, Repr

namespace Float64

/-- Zero, of either sign. -/
def isZero : Float64 → Bool
  | .finite _ x => x.mantissa == 0
  | _ => false

/-- The value in the fewest digits, without an exponent. -/
def toText : Float64 → Text
  | .nan => "NaN".toList
  | .infinite negative => (if negative then ['-'] else []) ++ "inf".toList
  | .finite negative x =>
    (if negative then ['-'] else [])
      ++ if x.mantissa = 0 then ['0'] else x.shortest.positional

/-- The value in the fewest digits, without an exponent; a finite one always with a point. -/
def toPointedText (x : Float64) : Text :=
  match x with
  | .finite .. => if '.' ∈ x.toText then x.toText else x.toText ++ ['.', '0']
  | x => x.toText

/-- The nearest whole number from 0 to `limit`; a half goes up, what is no number is 0. -/
def toNatClamped (limit : Nat) : Float64 → Nat
  | .nan => 0
  | .infinite negative => if negative then 0 else limit
  | .finite negative x =>
    if negative then 0
    else
      let q := x.toQuotient
      min limit ((2 * q.num + q.den) / (2 * q.den))

end Float64

end Docroot

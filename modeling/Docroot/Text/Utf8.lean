import Docroot.Text

/-!
# Text as octets: UTF-8

Encoding is per character. Decoding is a machine that takes one octet at a time and holds at most
one unfinished character (`Pending`), so that it can be run over any octets, well formed or not:
`scan` yields one item per character, and one *gap* per longest run of octets that began a
character and could not end it. The strict reading refuses a gap, the lossy one writes U+FFFD for
it.

The machine has no look-back and its only state is the unfinished character. That is why a reading
that meets an ASCII octet falls apart into the reading of what is before and of what is after.
-/

namespace Docroot.Utf8

/-! ## 1. Encoding -/

/-- The octets of one character. -/
def encodeChar (c : Char) : Bytes :=
  let n := c.toNat
  if n < 0x80 then [UInt8.ofNat n]
  else if n < 0x800 then [UInt8.ofNat (0xC0 + n / 64), UInt8.ofNat (0x80 + n % 64)]
  else if n < 0x10000 then
    [UInt8.ofNat (0xE0 + n / 4096), UInt8.ofNat (0x80 + n / 64 % 64), UInt8.ofNat (0x80 + n % 64)]
  else
    [UInt8.ofNat (0xF0 + n / 262144), UInt8.ofNat (0x80 + n / 4096 % 64),
      UInt8.ofNat (0x80 + n / 64 % 64), UInt8.ofNat (0x80 + n % 64)]

/-- The octets of a text. -/
def encode (s : Text) : Bytes := s.flatMap encodeChar

@[simp] theorem encode_nil : encode [] = [] := rfl

@[simp] theorem encode_append (s t : Text) : encode (s ++ t) = encode s ++ encode t := by
  simp [encode]

/-! ## 2. The machine -/

/-- A character that has begun: its bits so far, how many octets it still needs, and the least and
    the greatest value the next of them may have. -/
structure Pending where
  bits : Nat
  owed : Nat
  low : Nat
  high : Nat

/-- What one octet leads to. -/
inductive Step where
  | done (c : Char)
  | more (p : Pending)
  | refused

/-- An octet where a character may begin. The first two octets rule out long forms, surrogates
    and what lies beyond U+10FFFF. -/
def first (b : UInt8) : Step :=
  let n := b.toNat
  if n < 0x80 then .done (Char.ofNat n)
  else if n < 0xC2 then .refused
  else if n < 0xE0 then .more ⟨n - 0xC0, 1, 0x80, 0xBF⟩
  else if n < 0xF0 then
    .more ⟨n - 0xE0, 2, if n = 0xE0 then 0xA0 else 0x80, if n = 0xED then 0x9F else 0xBF⟩
  else if n < 0xF5 then
    .more ⟨n - 0xF0, 3, if n = 0xF0 then 0x90 else 0x80, if n = 0xF4 then 0x8F else 0xBF⟩
  else .refused

/-- The next octet of a character that has begun. -/
def Pending.next (p : Pending) (b : UInt8) : Step :=
  let n := b.toNat
  if p.low ≤ n ∧ n ≤ p.high then
    let bits := p.bits * 64 + (n - 0x80)
    if p.owed ≤ 1 then .done (Char.ofNat bits) else .more ⟨bits, p.owed - 1, 0x80, 0xBF⟩
  else .refused

/-- The characters of a string of octets, in order, with `none` for every gap. An octet that cannot
    go on a character may still begin one. -/
def scan : Option Pending → Bytes → List (Option Char)
  | none, [] => []
  | some _, [] => [none]
  | none, b :: rest =>
    match first b with
    | .done c => some c :: scan none rest
    | .more p => scan (some p) rest
    | .refused => none :: scan none rest
  | some p, b :: rest =>
    match p.next b with
    | .done c => some c :: scan none rest
    | .more q => scan (some q) rest
    | .refused =>
      match first b with
      | .done c => none :: some c :: scan none rest
      | .more q => none :: scan (some q) rest
      | .refused => none :: none :: scan none rest

/-! ## 3. Decoding -/

/-- What stands for a gap: U+FFFD. -/
def replacement : Char := Char.ofNat 0xFFFD

/-- The text of any octets: a gap reads as U+FFFD. -/
def decodeLossy (bs : Bytes) : Text := (scan none bs).map (·.getD replacement)

/-- The text of well-formed octets; none where there is a gap. -/
def decode? (bs : Bytes) : Option Text := (scan none bs).mapM id

end Docroot.Utf8

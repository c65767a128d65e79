import Docroot.Proofs.Html
import Docroot.Proofs.Percent
import Docroot.Text.Blank

/-!
# The form of escaped texts

An escaped text is written with few characters: unreserved ones, slashes, and escapes of a `%` and
two capital digits (`IsEscaped`). None of them means anything in a request target beside the path,
in an attribute or in a line of text, so an escaped text can stand there as it is.

It comes back when it is decoded, once: the text may look like an escape itself and stays as it is.
-/

namespace Docroot.Percent

/-! ## 1. The form -/

/-- Letters and digits of ASCII, and four marks. -/
def isUnreserved (c : Char) : Bool :=
  c.isAlphanum || c == '-' || c == '_' || c == '.' || c == '~'

/-- A hexadecimal digit, its letters in capitals. -/
def isCapitalDigit (c : Char) : Bool := c.isDigit || 'A' ≤ c && c ≤ 'F'

/-- **Texts in escaped form**: one character after another stands for itself, or is the `%` of an
    escape. -/
inductive IsEscaped : Text → Prop where
  | nil : IsEscaped []
  | plain {c : Char} {s : Text} (hc : isUnreserved c = true ∨ c = '/') (h : IsEscaped s) :
    IsEscaped (c :: s)
  | escape {high low : Char} {s : Text} (hhigh : isCapitalDigit high = true)
    (hlow : isCapitalDigit low = true) (h : IsEscaped s) : IsEscaped ('%' :: high :: low :: s)

theorem isCapitalDigit_capitalDigit : ∀ n < 16, isCapitalDigit (capitalDigit n) = true := by
  decide

theorem isUnreserved_or_slash {b : UInt8} (h : isPlain b = true) :
    isUnreserved (Char.ofNat b.toNat) = true ∨ Char.ofNat b.toNat = '/' := by
  unfold isPlain at h
  rwa [Bool.or_eq_true, beq_iff_eq] at h

/-- One more octet in front keeps the form. -/
theorem IsEscaped.encodeByte_append {s : Text} (h : IsEscaped s) (b : UInt8) :
    IsEscaped (encodeByte b ++ s) := by
  unfold encodeByte
  split
  · next hb => exact .plain (isUnreserved_or_slash hb) h
  · obtain ⟨hhigh, hlow⟩ := toNat_div_lt b
    exact .escape (isCapitalDigit_capitalDigit _ hhigh) (isCapitalDigit_capitalDigit _ hlow) h

/-- **What the encoder writes is in escaped form.** -/
theorem isEscaped_encode (s : Text) : IsEscaped (encode s) := by
  unfold encode
  induction Utf8.encode s with
  | nil => exact .nil
  | cons b bs ih => exact ih.encodeByte_append b

/-! ## 2. What it is free of -/

/-- **Characters that mean something elsewhere**: those that end a path in a target, those of HTML, and
    white space. -/
def isDelicate (c : Char) : Bool :=
  c == '#' || c == '?' || c == '&' || Html.isMarkup c || Text.isBlank c

/-- An escaped text holds none of them. -/
theorem isDelicate_of_mem_encode {s : Text} {c : Char} (h : c ∈ encode s) : isDelicate c = false :=
  forall_isCoded (P := fun c => isDelicate c = false) (by decide +kernel) (isCoded_of_mem_encode h)

/-- **Coding is undone by decoding, on all texts and once.** An escaped text is decoded to the text,
    and this is not looked at again, whatever stands behind. The escaped text is in escaped form,
    so nothing in it means anything in a target, in HTML or between words. -/
theorem coding_is_undone_once (s t : Text) :
    decode (encode s) = s
      ∧ decode (encode s ++ t) = s ++ decode t
      ∧ IsEscaped (encode s)
      ∧ ∀ c ∈ encode s, isDelicate c = false :=
  ⟨decode_encode s, decode_encode_append s t, isEscaped_encode s,
    fun _ => isDelicate_of_mem_encode⟩

/-- Escaped dots come back as the text that escapes them, though it would be decoded to dots; and a
    `%` makes no escape with the digits behind it. -/
theorem escaped_dots_come_back :
    decode (encode "%2e%2e".toList) = "%2e%2e".toList
      ∧ decode "%2e%2e".toList = "..".toList
      ∧ decode (encode "%".toList ++ "2e".toList) = "%2e".toList
      ∧ '%' ∈ encode "\"<é".toList ∧ isDelicate '%' = false := by
  have hpercent : '%' ∈ encode "\"<é".toList := by decide
  obtain ⟨hback, -⟩ := coding_is_undone_once "%2e%2e".toList []
  obtain ⟨-, honce, -⟩ := coding_is_undone_once "%".toList "2e".toList
  obtain ⟨-, -, -, hfree⟩ := coding_is_undone_once "\"<é".toList []
  refine ⟨hback, by decide, ?_, hpercent, hfree _ hpercent⟩
  rw [honce]
  decide

end Docroot.Percent

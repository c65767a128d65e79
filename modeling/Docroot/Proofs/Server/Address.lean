import Docroot.Proofs.Number.Digits
import Docroot.Server.Address

/-!
# The characters of addresses

An address of the Internet protocol is written in digits, the first six letters, points and colons,
so it neither ends a line nor holds a space or a quote.
-/

namespace Docroot.Server

/-- A character that addresses are written with. -/
def isAddressChar (c : Char) : Bool :=
  c.isDigit || ('a' ≤ c && c ≤ 'f') || c == '.' || c == ':'

theorem all_isAddressChar_decimal (n : Nat) : (Digits.decimal n).all isAddressChar = true := by
  rw [List.all_eq_true]
  intro c hc
  have hdigit := List.all_eq_true.1 (Digits.all_isDigit_decimal n) c hc
  simp [isAddressChar, hdigit]

theorem isAddressChar_hexDigit : ∀ n < 16, isAddressChar (Digits.hexDigit n) = true := by
  decide

theorem all_isAddressChar_hex (n : Nat) : (Digits.hex n).all isAddressChar = true := by
  unfold Digits.hex
  induction n using Nat.strongRecOn with
  | ind n ih =>
    rw [Nat.toDigits_eq_if (by decide)]
    split
    · next hsmall =>
      rw [List.all_cons, List.all_nil, Bool.and_true]
      exact isAddressChar_hexDigit n hsmall
    · next hlarge =>
      rw [List.all_append, ih (n / 16) (by omega), List.all_cons, List.all_nil, Bool.and_true]
      exact isAddressChar_hexDigit (n % 16) (Nat.mod_lt n (by decide))

theorem all_isAddressChar_intercalate {sep : Char} (hsep : isAddressChar sep = true)
    {pieces : List Text} (h : ∀ piece ∈ pieces, piece.all isAddressChar = true) :
    ([sep].intercalate pieces).all isAddressChar = true := by
  rw [List.all_eq_true]
  intro c hc
  rcases mem_intercalate hc with rfl | ⟨piece, hpiece, hmem⟩
  · exact hsep
  · exact List.all_eq_true.1 (h piece hpiece) c hmem

theorem all_isAddressChar_dotted (a b c d : Nat) :
    (dotted a b c d).all isAddressChar = true := by
  refine all_isAddressChar_intercalate (by decide) fun piece hpiece => ?_
  obtain ⟨n, -, rfl⟩ := List.mem_map.1 hpiece
  exact all_isAddressChar_decimal n

theorem all_isAddressChar_colons (groups : List Nat) :
    (colons groups).all isAddressChar = true := by
  refine all_isAddressChar_intercalate (by decide) fun piece hpiece => ?_
  obtain ⟨n, -, rfl⟩ := List.mem_map.1 hpiece
  exact all_isAddressChar_hex n

/-- **An address is written in the characters of addresses.** -/
theorem IpAddress.all_isAddressChar_toText (ip : IpAddress) :
    ip.toText.all isAddressChar = true := by
  cases ip with
  | v4 a b c d => exact all_isAddressChar_dotted a b c d
  | v6 groups =>
    unfold IpAddress.toText colonForm
    dsimp only
    split
    · rw [List.all_append, all_isAddressChar_dotted]
      decide
    · split
      · rw [List.all_append, List.all_append, all_isAddressChar_colons, all_isAddressChar_colons]
        decide
      · exact all_isAddressChar_colons groups

end Docroot.Server

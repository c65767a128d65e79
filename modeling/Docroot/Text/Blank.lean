import Docroot.Text

/-!
# Blank characters

The 25 characters with the Unicode property *White_Space*, and trimming by them. Note what is not
blank: the information separators U+001C to U+001F, the zero-width space U+200B and the byte order
mark U+FEFF.
-/

namespace Docroot.Text

/-- Has the property *White_Space*. -/
def isBlank (c : Char) : Bool :=
  let n := c.toNat
  (0x9 ≤ n && n ≤ 0xD) || n == 0x20 || n == 0x85 || n == 0xA0 || n == 0x1680
    || (0x2000 ≤ n && n ≤ 0x200A) || n == 0x2028 || n == 0x2029 || n == 0x202F || n == 0x205F
    || n == 0x3000

/-- Without the blank characters in front. -/
def trimStart (s : Text) : Text := s.dropWhile isBlank

/-- Without the blank characters at the end. -/
def trimEnd (s : Text) : Text := (s.reverse.dropWhile isBlank).reverse

/-- Without blank characters at either end. -/
def trim (s : Text) : Text := trimEnd (trimStart s)

/-- A text that ends in a character that is not blank is not trimmed at its end. -/
theorem trimEnd_concat (s : Text) (c : Char) (h : isBlank c = false) :
    trimEnd (s ++ [c]) = s ++ [c] := by
  simp [trimEnd, h]

end Docroot.Text

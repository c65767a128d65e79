import Docroot.Number.Digits
import Docroot.Text.Lowercase
import Docroot.Text.PrintableTable

/-!
# Quoted text

The form in which diagnostics show a text whole: between double quotes, with the quote, the
backslash and four controls written as a backslash and a letter, and every character that has no
printed form of its own written as its code point in braces.
-/

namespace Docroot.Text

/-- Has no printed form of its own, or changes the character before it. -/
def needsCodePoint (c : Char) : Bool :=
  let n := c.toNat
  if n < 0x7F then n < 0x20 else inRanges n unprintableRanges || inRanges n extendingRanges

/-- One character as it stands between the quotes. -/
def quotedChar (c : Char) : Text :=
  if c = '"' ∨ c = '\\' then ['\\', c]
  else if c = '\n' then ['\\', 'n']
  else if c = '\r' then ['\\', 'r']
  else if c = '\t' then ['\\', 't']
  else if c.toNat = 0 then ['\\', '0']
  else if needsCodePoint c then ['\\', 'u', '\x7b'] ++ Digits.hex c.toNat ++ ['\x7d']
  else [c]

/-- The text between double quotes. -/
def quoted (s : Text) : Text := '"' :: s.flatMap quotedChar ++ ['"']

end Docroot.Text

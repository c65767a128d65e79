import Docroot.Text

/-!
# Tokens

The words of the HTTP grammar: method names and header names are tokens, one or more characters
from a fixed set of ASCII letters, digits and fifteen marks.
-/

namespace Docroot.Http

/-- The marks that a token may have besides letters and digits. -/
def tokenMarks : Text :=
  ['!', '#', '$', '%', '&', '\'', '*', '+', '-', '.', '^', '_', Char.ofNat 0x60, '|', '~']

/-- A character that a token may have. -/
def isTokenChar (c : Char) : Bool := c.isAlphanum || tokenMarks.contains c

/-- One token character or more, and nothing else. -/
def isToken (s : Text) : Bool := s ≠ [] && s.all isTokenChar

/-- The text of octets that are a token. -/
def tokenOfBytes? (b : Bytes) : Option Text :=
  let s : Text := b.map fun x => Char.ofNat x.toNat
  if isToken s then some s else none

end Docroot.Http

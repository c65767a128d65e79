import Docroot.Text

/-!
# Text inside HTML

Five characters mean something in HTML text or in a quoted attribute, and each has an entity. The
entities hold none of the five but the ampersand that begins them.
-/

namespace Docroot.Html

/-- One character as HTML text. -/
def escapeChar (c : Char) : Text :=
  if c = '&' then "&amp;".toList
  else if c = '<' then "&lt;".toList
  else if c = '>' then "&gt;".toList
  else if c = '"' then "&quot;".toList
  else if c = '\'' then "&#x27;".toList
  else [c]

/-- **A text as HTML text**, quotes included. -/
def escape (s : Text) : Text := s.flatMap escapeChar

end Docroot.Html

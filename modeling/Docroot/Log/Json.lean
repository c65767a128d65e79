import Docroot.Number.Digits

/-!
# JSON on one line

The little of JSON that a log line needs: one object whose members are texts, numbers or null, on
one line and without blanks. Quotes, backslashes and all controls below the space are escaped, so
no text can end its string or the line.
-/

namespace Docroot.Json

/-- A member's value. -/
inductive Scalar where
  | null
  | number (n : Nat)
  | text (s : Text)

/-- One character inside a string. -/
def escapeChar (c : Char) : Text :=
  if c = '"' then ['\\', '"']
  else if c = '\\' then ['\\', '\\']
  else if c = '\n' then ['\\', 'n']
  else if c = '\r' then ['\\', 'r']
  else if c = '\t' then ['\\', 't']
  else if c.toNat = 8 then ['\\', 'b']
  else if c.toNat = 12 then ['\\', 'f']
  else if c.toNat < 32 then
    ['\\', 'u', '0', '0', Digits.hexDigit (c.toNat / 16), Digits.hexDigit (c.toNat % 16)]
  else [c]

/-- A text as a string. -/
def string (s : Text) : Text := '"' :: s.flatMap escapeChar ++ ['"']

/-- A member's value as text. -/
def Scalar.render : Scalar → Text
  | .null => "null".toList
  | .number n => Digits.decimal n
  | .text s => string s

/-- A text, or null where there is none. -/
def Scalar.ofOption : Option Text → Scalar
  | none => .null
  | some s => .text s

/-- A member: its name and its value. -/
def member (name : Text) (v : Scalar) : Text := string name ++ ':' :: v.render

/-- **An object with the members in the given order.** -/
def object (members : List (Text × Scalar)) : Text :=
  '\x7b' :: [','].intercalate (members.map fun (n, v) => member n v) ++ ['\x7d']

end Docroot.Json

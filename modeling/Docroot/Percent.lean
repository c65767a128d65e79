import Docroot.Number.Digits
import Docroot.Text.Utf8

/-!
# Percent coding

A `%` with two hexadecimal digits stands for an octet. Encoding writes every octet outside the
unreserved set that way and leaves the slash alone; decoding puts the octets back, keeps a `%` that
begins no escape as it is, and reads the result as UTF-8 with U+FFFD for what is not.

Both are functions on octets with the text around them encoded and decoded once, so that a
character beyond ASCII and its escapes are the same thing.
-/

namespace Docroot.Percent

/-! ## 1. Octets -/

/-- The value of an octet that is a hexadecimal digit. -/
def hexValue? (b : UInt8) : Option Nat := Digits.hexValue? (Char.ofNat b.toNat)

/-- Octets with their escapes resolved. An escape is `%` and two hexadecimal digits; any other `%`
    is itself. What an escape yields is not looked at again. -/
def decodeBytes : Bytes → Bytes
  | 0x25 :: high :: low :: rest =>
    match hexValue? high, hexValue? low with
    | some h, some l => UInt8.ofNat (h * 16 + l) :: decodeBytes rest
    | _, _ => 0x25 :: decodeBytes (high :: low :: rest)
  | b :: rest => b :: decodeBytes rest
  | [] => []

/-- Octets that stand for themselves: ASCII letters and digits, `-`, `_`, `.`, `~`, and `/`. -/
def isPlain (b : UInt8) : Bool :=
  let c := Char.ofNat b.toNat
  c.isAlphanum || c == '-' || c == '_' || c == '.' || c == '~' || c == '/'

/-- The capital hexadecimal digit of a number below sixteen. -/
def capitalDigit (n : Nat) : Char := (Nat.digitChar n).toUpper

/-- One octet, escaped unless it stands for itself. -/
def encodeByte (b : UInt8) : Text :=
  if isPlain b then [Char.ofNat b.toNat]
  else ['%', capitalDigit (b.toNat / 16), capitalDigit (b.toNat % 16)]

/-! ## 2. Texts -/

/-- **The text with its escapes resolved.** -/
def decode (s : Text) : Text := Utf8.decodeLossy (decodeBytes (Utf8.encode s))

/-- **The text with everything escaped but the unreserved characters and the slash.** -/
def encode (s : Text) : Text := (Utf8.encode s).flatMap encodeByte

end Docroot.Percent

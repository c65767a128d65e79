import Docroot.Settings.Toml.Value
import Docroot.Text.Reader

/-!
# Quoted text in settings files

Text stands between double quotes, where a backslash begins an escape, or between single quotes,
where nothing does. Three quotes of either kind hold text of several lines: a line break just after
them is dropped, every line break counts as one line feed, and up to two quotes may stand next to
each other inside and before the end.
-/

namespace Docroot.Settings.Toml

open Docroot.Text (Reader)
open Docroot.Text.Reader

/-- A character that may stand in quoted text: no control but the tab. -/
def isPrintable (c : Char) : Bool := c = '\t' || (32 ≤ c.toNat && c.toNat ≠ 127)

/-! ## 1. Escapes -/

/-- The character of exactly `count` hexadecimal digits, if they write one. -/
def codePoint (count : Nat) : Reader Char := fun s =>
  let ds := s.take count
  if ds.length = count ∧ ds.all (fun c => (Digits.hexValue? c).isSome) then
    let n := ds.foldl (fun n d => n * 16 + (Digits.hexValue? d).getD 0) 0
    if n.isValidChar then some (Char.ofNat n, s.drop count) else none
  else none

/-- What follows a backslash: the character it stands for. -/
def escape : Reader Char := fun s =>
  match s with
  | 'b' :: rest => some (Char.ofNat 8, rest)
  | 't' :: rest => some ('\t', rest)
  | 'n' :: rest => some ('\n', rest)
  | 'f' :: rest => some (Char.ofNat 12, rest)
  | 'r' :: rest => some ('\r', rest)
  | '"' :: rest => some ('"', rest)
  | '\\' :: rest => some ('\\', rest)
  | 'u' :: rest => codePoint 4 rest
  | 'U' :: rest => codePoint 8 rest
  | _ => none

/-! ## 2. One line -/

/-- Text up to a double quote. The fuel bounds the characters taken. -/
def basicLine : Nat → Reader Text
  | 0 => refuse
  | fuel + 1 => fun s =>
    match s with
    | '"' :: rest => some ([], rest)
    | '\\' :: rest =>
      match escape rest with
      | some (c, rest) => (basicLine fuel rest).map fun (t, rest) => (c :: t, rest)
      | none => none
    | c :: rest =>
      if isPrintable c then (basicLine fuel rest).map fun (t, rest) => (c :: t, rest) else none
    | [] => none

/-- Text up to a single quote. -/
def literalLine : Reader Text := fun s =>
  let t := s.takeWhile fun c => c ≠ '\'' && isPrintable c
  match s.drop t.length with
  | '\'' :: rest => some (t, rest)
  | _ => none

/-! ## 3. Several lines -/

/-- A line break, if the text begins with one. -/
def lineBreak? : Text → Option Text
  | '\n' :: rest => some rest
  | '\r' :: '\n' :: rest => some rest
  | _ => none

/-- The text without the blanks and line breaks in front. -/
def skipSpace : Text → Text
  | ' ' :: rest => skipSpace rest
  | '\t' :: rest => skipSpace rest
  | '\n' :: rest => skipSpace rest
  | '\r' :: '\n' :: rest => skipSpace rest
  | s => s

/-- A line break with blanks before it, and all blanks and breaks after it. -/
def foldedBreak? (s : Text) : Option Text :=
  (lineBreak? (s.dropWhile fun c => c = ' ' || c = '\t')).map skipSpace

/-- Text up to three quotes of a kind; `escapes` says whether a backslash begins an escape. -/
def severalLines (quote : Char) (escapes : Bool) : Nat → Reader Text
  | 0 => refuse
  | fuel + 1 => fun s =>
    let add (c : Char) (rest : Text) : Option (Text × Text) :=
      (severalLines quote escapes fuel rest).map fun (t, rest) => (c :: t, rest)
    let quotes := (s.takeWhile (· = quote)).length
    if 3 ≤ quotes then
      if quotes ≤ 5 then some (List.replicate (quotes - 3) quote, s.drop quotes) else none
    else match lineBreak? s with
      | some rest => add '\n' rest
      | none =>
        match s with
        | [] => none
        | c :: rest =>
          if escapes = true ∧ c = '\\' then
            match foldedBreak? rest with
            | some rest => severalLines quote escapes fuel rest
            | none =>
              match escape rest with
              | some (c, rest) => add c rest
              | none => none
          else if isPrintable c then add c rest
          else none

/-- The text without a line break in front. -/
def dropBreak (s : Text) : Text := (lineBreak? s).getD s

/-- **A quoted text.** The fuel bounds the characters taken. -/
def quotedText (fuel : Nat) : Reader Text := fun s =>
  match s with
  | '"' :: '"' :: '"' :: rest => severalLines '"' true fuel (dropBreak rest)
  | '\'' :: '\'' :: '\'' :: rest => severalLines '\'' false fuel (dropBreak rest)
  | '"' :: rest => basicLine fuel rest
  | '\'' :: rest => literalLine rest
  | _ => none

/-- A quoted text on one line, as a name may be. -/
def quotedName (fuel : Nat) : Reader Text := fun s =>
  match s with
  | '"' :: rest => basicLine fuel rest
  | '\'' :: rest => literalLine rest
  | _ => none

end Docroot.Settings.Toml

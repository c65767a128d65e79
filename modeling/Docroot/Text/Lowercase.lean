import Docroot.Text.CaseTable
import Docroot.Text

/-!
# Small letters

Lower-casing of a whole text, by the Unicode rules that need no language: each capital gives way to
its small letter, `İ` (U+0130) to an `i` and a dot above, and a capital sigma to the final form
`ς` where it ends a word. "Ends a word" is decided on the text around it: some cased character
stands before it and none after it, case-ignorable characters between being passed over.
-/

namespace Docroot.Text

/-- Is the code point in one of the ranges? -/
def inRanges (n : Nat) (ranges : List (Nat × Nat)) : Bool :=
  ranges.any fun (low, high) => low ≤ n && n ≤ high

/-- Letters that have case, and what derives from them. -/
def isCased (c : Char) : Bool :=
  if c.toNat < 0x80 then c.isAlpha else inRanges c.toNat casedRanges

/-- Characters that do not end a word's letters: marks, modifiers, and punctuation such as the
    apostrophe and the full stop. -/
def isCaseIgnorable (c : Char) : Bool :=
  if c.toNat < 0x80 then ['\'', '.', ':', '^', Char.ofNat 0x60].contains c
  else inRanges c.toNat caseIgnorableRanges

/-- The small letters of one character, wherever it stands. -/
def smallLetters (c : Char) : Text :=
  let n := c.toNat
  if n < 0x80 then [c.toLower]
  else if n = 0x130 then ['i', Char.ofNat 0x307]
  else match smallLetterRuns.find? fun (low, high, step, _) =>
      low ≤ n && n ≤ high && (n - low) % step == 0 with
    | some (_, _, _, shift) => [Char.ofNat ((n : Int) + shift).toNat]
    | none => [c]

/-- Does a cased character come first, the case-ignorable ones passed over? -/
def meetsCased (s : Text) : Bool := ((s.dropWhile isCaseIgnorable).head?.map isCased).getD false

/-- The small letters of `rest`, where `before` is what precedes it, nearest character first. -/
def lowerAfter (before : Text) : Text → Text
  | [] => []
  | c :: rest =>
    let small :=
      if c.toNat = 0x3A3 then
        [Char.ofNat (if meetsCased before && !meetsCased rest then 0x3C2 else 0x3C3)]
      else smallLetters c
    small ++ lowerAfter (c :: before) rest

/-- **The text in small letters.** -/
def lower (s : Text) : Text := lowerAfter [] s

end Docroot.Text

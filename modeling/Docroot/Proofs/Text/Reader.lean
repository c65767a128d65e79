import Docroot.Proofs.Number.Digits
import Docroot.Text.Reader

/-!
# What readers take from the front

Each reader is held to what it is meant to take: that stands in front, anything that cannot go on
with it stands behind, and the reader takes the one and leaves the other. Readers put together are
then followed step by step (`bind_of_eq`).
-/

namespace Docroot.Text

/-! ## 1. Blank characters -/

/-- A text that begins with no blank character. -/
def IsSolid (s : Text) : Prop := s.head?.any isBlank = false

instance (s : Text) : Decidable (IsSolid s) :=
  inferInstanceAs (Decidable (s.head?.any isBlank = false))

theorem trimStart_of_isSolid {s : Text} (h : IsSolid s) : trimStart s = s := by
  cases s with
  | nil => rfl
  | cons c rest =>
    have hfirst : isBlank c = false := h
    unfold trimStart
    rw [List.dropWhile_cons_of_neg (by rw [hfirst]; exact Bool.false_ne_true)]

theorem isSolid_cons {c : Char} (h : isBlank c = false) (rest : Text) : IsSolid (c :: rest) := h

/-- What begins with a solid text is solid. -/
theorem IsSolid.append {s : Text} (h : IsSolid s) (hne : s ≠ []) (rest : Text) :
    IsSolid (s ++ rest) := by
  cases s with
  | nil => exact absurd rfl hne
  | cons c s => exact isSolid_cons h (s ++ rest)

/-- Blank characters in front are trimmed off. -/
theorem trimStart_append_blanks {blanks : Text} (h : ∀ c ∈ blanks, isBlank c = true) (s : Text) :
    trimStart (blanks ++ s) = trimStart s :=
  List.dropWhile_append_of_pos h

theorem trimEnd_append_blanks (s : Text) {blanks : Text} (h : ∀ c ∈ blanks, isBlank c = true) :
    trimEnd (s ++ blanks) = trimEnd s := by
  unfold trimEnd
  rw [List.reverse_append,
    List.dropWhile_append_of_pos fun c hc => h c (List.mem_reverse.1 hc)]

/-- **Blank characters around a text are trimmed off**, and nothing else changes. -/
theorem trim_append_blanks {before after : Text} (hbefore : ∀ c ∈ before, isBlank c = true)
    (hafter : ∀ c ∈ after, isBlank c = true) (s : Text) :
    trim (before ++ s ++ after) = trim s := by
  unfold trim
  rw [List.append_assoc, trimStart_append_blanks hbefore]
  have hstart : trimStart (s ++ after)
      = if (trimStart s).isEmpty then trimStart after else trimStart s ++ after :=
    List.dropWhile_append
  rw [hstart]
  split
  · next hempty =>
    -- all is blank, so that nothing is left of either
    have hnone := trimStart_append_blanks hafter []
    rw [List.append_nil] at hnone
    rw [hnone, List.isEmpty_iff.1 hempty]
    rfl
  · exact trimEnd_append_blanks _ hafter

/-- A text with no blank character at either end is not trimmed. -/
theorem trim_of_isSolid {s : Text} (h : IsSolid s) (hend : IsSolid s.reverse) : trim s = s := by
  unfold trim
  rw [trimStart_of_isSolid h]
  have hreverse : s.reverse.dropWhile isBlank = s.reverse := trimStart_of_isSolid hend
  unfold trimEnd
  rw [hreverse, List.reverse_reverse]

theorem isBlank_of_isDigit {c : Char} (h : c.isDigit = true) : isBlank c = false := by
  have hbounds := Digits.toNat_of_isDigit h
  simp only [isBlank, Bool.or_eq_false_iff, Bool.and_eq_false_iff, decide_eq_false_iff_not,
    beq_eq_false_iff_ne]
  omega

theorem isSolid_of_all_isDigit {ds : Text} (h : ds.all Char.isDigit = true) : IsSolid ds := by
  cases ds with
  | nil => rfl
  | cons c rest =>
    rw [List.all_cons, Bool.and_eq_true] at h
    exact isSolid_cons (isBlank_of_isDigit h.1) rest

theorem isSolid_padded (width n : Nat) : IsSolid (Digits.padded width n) :=
  isSolid_of_all_isDigit (Digits.all_isDigit_padded width n)

theorem padded_ne_nil (width n : Nat) : Digits.padded width n ≠ [] := by
  unfold Digits.padded padLeft
  exact List.append_ne_nil_of_right_ne_nil _ Nat.toDigits_ne_nil

namespace Reader

/-! ## 2. One reader after another -/

theorem bind_of_eq {α β : Type} {r : Reader α} {next : α → Reader β} {s rest : Text} {a : α}
    (h : r s = some (a, rest)) : (r >>= next) s = next a rest := by
  show (r s).bind (fun p => next p.1 p.2) = next a rest
  rw [h]
  rfl

/-- Where one reader refuses, the next is not asked. -/
theorem bind_of_none {α β : Type} {r : Reader α} (next : α → Reader β) {s : Text}
    (h : r s = none) : (r >>= next) s = none := by
  show (r s).bind (fun p => next p.1 p.2) = none
  rw [h]
  rfl

/-! ## 3. Single characters and words -/

theorem blanks_of_isSolid {s : Text} (h : IsSolid s) : blanks s = some ((), s) := by
  unfold blanks
  rw [trimStart_of_isSolid h]

theorem blanks_space {s : Text} (h : IsSolid s) : blanks (' ' :: s) = some ((), s) := by
  have hdrop : trimStart (' ' :: s) = trimStart s := rfl
  unfold blanks
  rw [hdrop, trimStart_of_isSolid h]

theorem someBlanks_space {s : Text} (h : IsSolid s) : someBlanks (' ' :: s) = some ((), s) := by
  have hblank : isBlank ' ' = true := by decide
  unfold someBlanks
  dsimp only
  rw [if_pos hblank, trimStart_of_isSolid h]

theorem char_cons (c : Char) (rest : Text) : char c (c :: rest) = some ((), rest) := by
  unfold char
  dsimp only
  rw [if_pos rfl]

theorem char_of_ne {c d : Char} (h : d ≠ c) (rest : Text) : char c (d :: rest) = none := by
  unfold char
  dsimp only
  rw [if_neg h]

theorem someBlanks_of_isSolid {s : Text} (h : IsSolid s) : someBlanks s = none := by
  unfold someBlanks
  cases s with
  | nil => rfl
  | cons c rest =>
    have hfirst : isBlank c = false := h
    dsimp only
    rw [hfirst]
    rfl

theorem literal_append (t rest : Text) : literal t (t ++ rest) = some ((), rest) := by
  have hbehind : t.isPrefixOf? (t ++ rest) = some rest := by
    induction t with
    | nil => rfl
    | cons c t ih =>
      show (if c == c then t.isPrefixOf? (t ++ rest) else none) = some rest
      rw [beq_self_eq_true, if_pos rfl, ih]
  unfold literal
  rw [hbehind]
  rfl

theorem optionally_of_none {α : Type} {r : Reader α} {s : Text} (h : r s = none) :
    optionally r s = some (none, s) := by
  unfold optionally
  rw [h]

theorem optionally_of_eq {α : Type} {r : Reader α} {s rest : Text} {a : α}
    (h : r s = some (a, rest)) : optionally r s = some (some a, rest) := by
  unfold optionally
  rw [h]

theorem word_append (t rest : Text) : word t (t ++ rest) = some ((), rest) := by
  unfold word
  rw [List.take_left, List.drop_left, eqIgnoringCase, beq_self_eq_true, if_pos rfl]

/-- Another word of the same length is not taken. -/
theorem word_append_of_ne {t u : Text} (hlen : t.length = u.length)
    (h : lowerAscii u ≠ lowerAscii t) (rest : Text) : word t (u ++ rest) = none := by
  unfold word
  rw [hlen, List.take_left, eqIgnoringCase, beq_eq_false_iff_ne.2 h]
  rfl

/-- A word that begins with another letter is not taken. -/
theorem word_cons_of_ne {c : Char} {t : Text}
    (h : t.head?.any (fun d => c.toLower != d.toLower) = true) (rest : Text) :
    word t (c :: rest) = none := by
  cases t with
  | nil => cases h
  | cons d t =>
    have hletter : c.toLower ≠ d.toLower := bne_iff_ne.1 h
    have hne : eqIgnoringCase ((c :: rest).take (d :: t).length) (d :: t) = false := by
      unfold eqIgnoringCase lowerAscii
      rw [beq_eq_false_iff_ne]
      exact fun e => hletter (List.cons.inj e).1
    unfold word
    rw [hne]
    rfl

theorem wordFrom_of_none {words : List Text} {s : Text} (h : ∀ t ∈ words, word t s = none)
    (start : Nat) : wordFrom start words s = none := by
  induction words generalizing start with
  | nil => rfl
  | cons t words ih =>
    unfold wordFrom
    rw [h t (List.mem_cons_self ..)]
    exact ih (fun u hu => h u (List.mem_cons_of_mem _ hu)) (start + 1)

/-- **A word of a list is found by its place**, if the words are of one length and differ in more
    than case. -/
theorem wordFrom_append {len : Nat} {words : List Text} (hlen : ∀ t ∈ words, t.length = len)
    (hnodup : (words.map lowerAscii).Nodup) {i : Nat} {t : Text} (ht : words[i]? = some t)
    (start : Nat) (rest : Text) :
    wordFrom start words (t ++ rest) = some (start + i, rest) := by
  induction words generalizing start i with
  | nil => cases ht
  | cons u words ih =>
    rw [List.map_cons, List.nodup_cons] at hnodup
    unfold wordFrom
    cases i with
    | zero =>
      cases ht
      rw [word_append]
      rfl
    | succ i =>
      rw [List.getElem?_cons_succ] at ht
      have hmem : t ∈ words := List.mem_of_getElem? ht
      have hne : lowerAscii t ≠ lowerAscii u :=
        fun e => hnodup.1 (e ▸ List.mem_map_of_mem hmem)
      have hsame : u.length = t.length := by
        rw [hlen u (List.mem_cons_self ..), hlen t (List.mem_cons_of_mem _ hmem)]
      rw [word_append_of_ne hsame hne]
      dsimp only
      rw [ih (fun v hv => hlen v (List.mem_cons_of_mem _ hv)) hnodup.2 ht, Nat.add_right_comm]
      rfl

/-! ## 4. Numbers -/

/-- Digits run up to something else. -/
theorem takeWhile_isDigit_append {ds rest : Text} (hall : ds.all Char.isDigit = true)
    (hrest : ∀ c, rest.head? = some c → c.isDigit = false) :
    (ds ++ rest).takeWhile Char.isDigit = ds := by
  have hstop : rest.takeWhile Char.isDigit = [] := by
    cases rest with
    | nil => rfl
    | cons c rest =>
      exact List.takeWhile_cons_of_neg (by rw [hrest c rfl]; exact Bool.false_ne_true)
  rw [List.takeWhile_append_of_pos (List.all_eq_true.1 hall), hstop, List.append_nil]

/-- **Digits up to something else** are taken together. -/
theorem digits_append {least : Nat} {ds rest : Text} (hall : ds.all Char.isDigit = true)
    (hleast : least ≤ ds.length) (hrest : ∀ c, rest.head? = some c → c.isDigit = false) :
    digits least none (ds ++ rest) = some (ds, rest) := by
  unfold digits
  dsimp only
  rw [takeWhile_isDigit_append hall hrest, if_neg (by omega), List.drop_left]

/-- **The most digits that a reader takes** are taken, whatever stands behind. -/
theorem digits_append_of_length {least most : Nat} {ds : Text}
    (hall : ds.all Char.isDigit = true) (hlen : ds.length = most) (hleast : least ≤ most)
    (rest : Text) : digits least (some most) (ds ++ rest) = some (ds, rest) := by
  have hrun : ((ds ++ rest).takeWhile Char.isDigit).take most = ds := by
    rw [List.takeWhile_append_of_pos (List.all_eq_true.1 hall), ← hlen, List.take_left]
  unfold digits
  dsimp only
  rw [hrun, if_neg (by omega), List.drop_left]

/-- **A number written in the most digits** is read. -/
theorem number_padded {least most low high n : Nat} (hleast : least ≤ most)
    (hn : (Digits.decimal n).length ≤ most) (hlow : low ≤ n) (hhigh : n ≤ high) (rest : Text) :
    number least most low high (Digits.padded most n ++ rest) = some (n, rest) := by
  have hdigits := digits_append_of_length (Digits.all_isDigit_padded most n)
    (Digits.length_padded hn) hleast rest
  unfold number
  rw [bind_of_eq hdigits, Digits.value_padded, if_pos ⟨hlow, hhigh⟩]
  rfl

/-- **A number up to something else** is read, if it has no more than the most digits. -/
theorem number_decimal {least most low high n : Nat} (hleast : least ≤ (Digits.decimal n).length)
    (hmost : (Digits.decimal n).length ≤ most) (hlow : low ≤ n) (hhigh : n ≤ high) {rest : Text}
    (hrest : ∀ c, rest.head? = some c → c.isDigit = false) :
    number least most low high (Digits.decimal n ++ rest) = some (n, rest) := by
  have hdigits : digits least (some most) (Digits.decimal n ++ rest)
      = some (Digits.decimal n, rest) := by
    unfold digits
    dsimp only
    rw [takeWhile_isDigit_append (Digits.all_isDigit_decimal n) hrest,
      List.take_of_length_le hmost, if_neg (by omega), List.drop_left]
  unfold number
  rw [bind_of_eq hdigits, Digits.value_decimal, if_pos ⟨hlow, hhigh⟩]
  rfl

end Reader

end Docroot.Text

import Docroot.Text.Lowercase

/-!
# Small letters of small letters

Text in ASCII is put in small letters character by character (`lower_of_ascii`). Beyond ASCII this
depends on the characters around, and the small letters of a text may have other small letters. But
no text comes to a plain word in two steps only (`lower_eq_of_lower_lower`): beyond ASCII a small
letter is again beyond ASCII, that of the Kelvin sign apart, and plain words have no `k`.
-/

namespace Docroot.Text

/-! ## 1. Single characters -/

theorem toNat_le_of_isAlphanum {c : Char} (h : c.isAlphanum = true) : c.toNat ≤ 122 := by
  rcases Bool.or_eq_true_iff.1 h with hletter | hdigit
  · rcases Bool.or_eq_true_iff.1 hletter with hupper | hlower
    · exact Nat.le_trans (UInt32.le_iff_toNat_le.1 (of_decide_eq_true hupper).2) (by decide)
    · exact UInt32.le_iff_toNat_le.1 (of_decide_eq_true (Bool.and_eq_true_iff.1 hlower).2)
  · exact Nat.le_trans (UInt32.le_iff_toNat_le.1
      (of_decide_eq_true (Bool.and_eq_true_iff.1 hdigit).2)) (by decide)

/-- ASCII small letters are ASCII, and their own small letters. -/
theorem toLower_ascii {c : Char} (h : c.toNat < 0x80) :
    c.toLower.toNat < 0x80 ∧ c.toLower.toLower = c.toLower := by
  have hall : ∀ n < 0x80, (Char.ofNat n).toLower.toNat < 0x80
      ∧ (Char.ofNat n).toLower.toLower = (Char.ofNat n).toLower := by decide
  have hc := hall c.toNat h
  rwa [Char.ofNat_toNat] at hc

/-- An ASCII character that is not the small letter of one beyond ASCII, nor what stands for a code
    point that is none. -/
def IsPlain (c : Char) : Prop := c.toNat < 0x80 ∧ c ≠ Char.ofNat 0 ∧ c ≠ 'k'

instance (c : Char) : Decidable (IsPlain c) := inferInstanceAs (Decidable (_ ∧ _ ∧ _))

theorem not_isPlain_of_le {c : Char} (h : 0x80 ≤ c.toNat) : ¬IsPlain c :=
  fun hplain => Nat.lt_irrefl _ (Nat.lt_of_lt_of_le hplain.1 h)

theorem not_isPlain_ofNat {n : Nat} (h : 0x80 ≤ n) : ¬IsPlain (Char.ofNat n) := by
  by_cases hvalid : n.isValidChar
  · have hn : (Char.ofNat n).toNat = n := by
      unfold Char.ofNat
      rw [dif_pos hvalid]
      rfl
    exact not_isPlain_of_le (by rw [hn]; exact h)
  · have hzero : Char.ofNat n = Char.ofNat 0 := by
      unfold Char.ofNat
      rw [dif_neg hvalid]
      rfl
    exact fun hplain => hplain.2.1 hzero

/-- Each run of the table leads beyond ASCII, but for the Kelvin sign. -/
theorem smallLetterRuns_beyond : ∀ run ∈ smallLetterRuns,
    0x80 ≤ (run.1 : Int) + run.2.2.2 ∨ run = (0x212A, 0x212A, 1, -8383) := by
  decide +kernel

/-- A character beyond ASCII has one small letter, which is not plain, or it is `İ`. -/
theorem smallLetters_of_le {c : Char} (h : 0x80 ≤ c.toNat) :
    (∃ d, smallLetters c = [d] ∧ ¬IsPlain d) ∨ smallLetters c = ['i', Char.ofNat 0x307] := by
  unfold smallLetters
  dsimp only
  rw [if_neg (Nat.not_lt.2 h)]
  split
  · exact Or.inr rfl
  · refine Or.inl ?_
    split
    · next low high step shift hfind =>
      refine ⟨_, rfl, ?_⟩
      have hrange := List.find?_some hfind
      simp only [Bool.and_eq_true, decide_eq_true_eq] at hrange
      rcases smallLetterRuns_beyond _ (List.mem_of_find?_eq_some hfind) with hbeyond | hkelvin
      · refine not_isPlain_ofNat ?_
        dsimp only at hbeyond
        omega
      · cases hkelvin
        have hc : c.toNat = 0x212A := by omega
        rw [hc]
        decide
    · exact ⟨c, rfl, not_isPlain_of_le h⟩

/-! ## 2. Words -/

/-- The small letters of the first character, by what is around it. -/
def smallAt (before : Text) (c : Char) (rest : Text) : Text :=
  if c.toNat = 0x3A3 then
    [Char.ofNat (if meetsCased before && !meetsCased rest then 0x3C2 else 0x3C3)]
  else smallLetters c

theorem lowerAfter_cons (before : Text) (c : Char) (rest : Text) :
    lowerAfter before (c :: rest) = smallAt before c rest ++ lowerAfter (c :: before) rest :=
  rfl

section

variable {before rest : Text} {c d : Char}

theorem smallAt_of_ascii (h : c.toNat < 0x80) : smallAt before c rest = [c.toLower] := by
  unfold smallAt
  rw [if_neg (by omega)]
  unfold smallLetters
  dsimp only
  rw [if_pos h]

/-- What stands for a character beyond ASCII is not all plain. -/
theorem smallAt_of_le (h : 0x80 ≤ c.toNat) : ∃ d ∈ smallAt before c rest, ¬IsPlain d := by
  unfold smallAt
  split
  · refine ⟨_, List.mem_singleton_self _, ?_⟩
    split <;> decide
  · rcases smallLetters_of_le h with ⟨d, hd, hplain⟩ | hdotted
    · exact ⟨d, by rw [hd]; exact List.mem_singleton_self d, hplain⟩
    · exact ⟨Char.ofNat 0x307, by rw [hdotted]; simp, by decide⟩

/-- No small letter is an ASCII capital. -/
theorem toLower_of_mem_smallAt (h : d ∈ smallAt before c rest) (hd : d.toNat < 0x80) :
    d.toLower = d := by
  by_cases hc : c.toNat < 0x80
  · rw [smallAt_of_ascii hc, List.mem_singleton] at h
    rw [h]
    exact (toLower_ascii hc).2
  · have hunplain : ¬IsPlain d → d.toLower = d := by
      intro hplain
      by_cases hzero : d = Char.ofNat 0
      · rw [hzero]
        decide
      · have hk : d = 'k' := Classical.byContradiction fun hk => hplain ⟨hd, hzero, hk⟩
        rw [hk]
        decide
    unfold smallAt at h
    split at h
    · rw [List.mem_singleton] at h
      refine hunplain ?_
      rw [h]
      split <;> decide
    · rcases smallLetters_of_le (Nat.not_lt.1 hc) with ⟨d', hd', hplain⟩ | hdotted
      · rw [hd', List.mem_singleton] at h
        rw [h] at hunplain ⊢
        exact hunplain hplain
      · rw [hdotted] at h
        rcases List.mem_cons.1 h with rfl | h
        · decide
        · rw [List.mem_singleton.1 h] at hd
          exact absurd hd (by decide)

end

/-- **ASCII is put in small letters character by character.** -/
theorem lower_of_ascii {s : Text} (h : ∀ c ∈ s, c.toNat < 0x80) : lower s = s.map Char.toLower := by
  have hafter : ∀ before, lowerAfter before s = s.map Char.toLower := by
    induction s with
    | nil => exact fun _ => rfl
    | cons c rest ih =>
      intro before
      rw [lowerAfter_cons, smallAt_of_ascii (h c List.mem_cons_self),
        ih fun d hd => h d (List.mem_cons_of_mem c hd)]
      rfl
  exact hafter []

theorem exists_smallAt_of_mem_lower {s : Text} {d : Char} (h : d ∈ lower s) :
    ∃ before c rest, d ∈ smallAt before c rest := by
  have hafter : ∀ before, d ∈ lowerAfter before s → ∃ before c rest, d ∈ smallAt before c rest := by
    clear h
    induction s with
    | nil => exact fun _ h => by cases h
    | cons c rest ih =>
      intro before h
      rw [lowerAfter_cons] at h
      rcases List.mem_append.1 h with hhere | hlater
      · exact ⟨before, c, rest, hhere⟩
      · exact ih _ hlater
  exact hafter [] h

theorem smallAt_subset_lower {s : Text} {c : Char} (h : c ∈ s) :
    ∃ before rest, smallAt before c rest ⊆ lower s := by
  have hafter : ∀ before, ∃ before' rest, smallAt before' c rest ⊆ lowerAfter before s := by
    induction s with
    | nil => cases h
    | cons c' rest ih =>
      intro before
      rw [lowerAfter_cons]
      rcases List.mem_cons.1 h with rfl | hlater
      · exact ⟨before, rest, List.subset_append_left _ _⟩
      · obtain ⟨before', rest', hsub⟩ := ih hlater (c' :: before)
        exact ⟨before', rest', List.subset_append_of_subset_right _ hsub⟩
  exact hafter []

/-- **No text comes to a plain word in two steps only.** -/
theorem lower_eq_of_lower_lower {s word : Text} (hword : ∀ c ∈ word, IsPlain c)
    (h : lower (lower s) = word) : lower s = word := by
  have hascii : ∀ c ∈ lower s, c.toNat < 0x80 := by
    intro c hc
    refine Nat.not_le.1 fun hbeyond => ?_
    obtain ⟨before, rest, hsub⟩ := smallAt_subset_lower hc
    obtain ⟨d, hd, hplain⟩ := @smallAt_of_le before rest c hbeyond
    have hmem := hsub hd
    rw [h] at hmem
    exact hplain (hword d hmem)
  have hsmall : ∀ c ∈ lower s, c.toLower = c := by
    intro c hc
    obtain ⟨before, c', rest, hmem⟩ := exists_smallAt_of_mem_lower hc
    exact toLower_of_mem_smallAt hmem (hascii c hc)
  rw [lower_of_ascii hascii, List.map_congr_left hsmall, List.map_id'] at h
  exact h

end Docroot.Text

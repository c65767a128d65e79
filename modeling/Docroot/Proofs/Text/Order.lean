import Docroot.Text
import Mathlib.Data.Finset.Card

/-!
# The order of texts

The order of texts is a linear order (`le_total`, `le_trans`, `le_antisymm`). In a sorted list equal
texts stand side by side, so dropping repeats from it leaves every text once, and their number is
the number of different texts (`length_eraseReps_mergeSort`).
-/

namespace Docroot.Text

/-! ## 1. A linear order -/

theorem le_cons_iff {c d : Char} {s t : Text} :
    le (c :: s) (d :: t) = true ↔ c.toNat < d.toNat ∨ c = d ∧ le s t = true := by
  simp [le]

theorem le_total : ∀ s t : Text, (le s t || le t s) = true
  | [], _ => rfl
  | _ :: _, [] => rfl
  | c :: s, d :: t => by
    rw [Bool.or_eq_true, le_cons_iff, le_cons_iff]
    rcases Nat.lt_trichotomy c.toNat d.toNat with h | h | h
    · exact Or.inl (Or.inl h)
    · obtain rfl := Char.toNat_inj.1 h
      have hrest := le_total s t
      rw [Bool.or_eq_true] at hrest
      rcases hrest with ih | ih
      · exact Or.inl (Or.inr ⟨rfl, ih⟩)
      · exact Or.inr (Or.inr ⟨rfl, ih⟩)
    · exact Or.inr (Or.inl h)

theorem le_trans : ∀ s t u : Text, le s t = true → le t u = true → le s u = true
  | [], _, _, _, _ => rfl
  | _ :: _, [], _, h, _ => by cases h
  | _ :: _, _ :: _, [], _, h => by cases h
  | c :: s, d :: t, e :: u, hst, htu => by
    rw [le_cons_iff] at hst htu ⊢
    rcases hst with hst | ⟨rfl, hst⟩
    · rcases htu with htu | ⟨rfl, -⟩
      · exact Or.inl (hst.trans htu)
      · exact Or.inl hst
    · rcases htu with htu | ⟨rfl, htu⟩
      · exact Or.inl htu
      · exact Or.inr ⟨rfl, le_trans s t u hst htu⟩

theorem le_antisymm : ∀ {s t : Text}, le s t = true → le t s = true → s = t
  | [], [], _, _ => rfl
  | [], _ :: _, _, h => by cases h
  | _ :: _, [], h, _ => by cases h
  | c :: s, d :: t, hst, hts => by
    rw [le_cons_iff] at hst hts
    rcases hst with hst | ⟨rfl, hst⟩
    · rcases hts with hts | ⟨rfl, -⟩
      · omega
      · omega
    · rcases hts with hts | ⟨-, hts⟩
      · omega
      · rw [le_antisymm hst hts]

/-! ## 2. Sorted lists without repeats -/

theorem loop_eraseRepsBy (r : Text → Text → Bool) (s : Text) (texts acc : List Text) :
    List.eraseRepsBy.loop r s texts acc
      = acc.reverse ++ List.eraseRepsBy.loop r s texts [] := by
  induction texts generalizing s acc with
  | nil => simp [List.eraseRepsBy.loop]
  | cons t texts ih =>
    unfold List.eraseRepsBy.loop
    cases r s t with
    | true => exact ih s acc
    | false =>
      dsimp only
      rw [ih t (s :: acc), ih t [s]]
      simp

/-- Of two texts side by side the first is kept if it is not the second. -/
theorem eraseReps_cons_cons (s t : Text) (texts : List Text) :
    (s :: t :: texts).eraseReps
      = if s = t then (s :: texts).eraseReps else s :: (t :: texts).eraseReps := by
  unfold List.eraseReps List.eraseRepsBy
  dsimp only
  rw [List.eraseRepsBy.loop]
  by_cases h : s = t
  · rw [if_pos h, beq_iff_eq.2 h]
  · rw [if_neg h, beq_eq_false_iff_ne.2 h]
    exact loop_eraseRepsBy _ t texts [s]

theorem mem_eraseReps {u : Text} : ∀ {texts : List Text}, u ∈ texts.eraseReps ↔ u ∈ texts
  | [] => Iff.rfl
  | [s] => Iff.rfl
  | s :: t :: texts => by
    rw [eraseReps_cons_cons]
    split
    · next h =>
      subst h
      rw [mem_eraseReps]
      simp
    · rw [List.mem_cons, mem_eraseReps, ← List.mem_cons]

/-- **A sorted list without its repeats has every text once.** -/
theorem nodup_eraseReps : ∀ {texts : List Text}, texts.Pairwise (le · ·) → texts.eraseReps.Nodup
  | [], _ => List.nodup_nil
  | [s], _ => List.nodup_singleton s
  | s :: t :: texts, h => by
    obtain ⟨hs, htexts⟩ := List.pairwise_cons.1 h
    obtain ⟨ht, hrest⟩ := List.pairwise_cons.1 htexts
    rw [eraseReps_cons_cons]
    split
    · exact nodup_eraseReps (List.pairwise_cons.2
        ⟨fun u hu => hs u (List.mem_cons_of_mem _ hu), hrest⟩)
    · next hne =>
      refine List.nodup_cons.2 ⟨fun hmem => ?_, nodup_eraseReps htexts⟩
      -- a text that came back would be the one between
      rcases List.mem_cons.1 (mem_eraseReps.1 hmem) with rfl | hmem
      · exact hne rfl
      · exact hne (le_antisymm (hs t (List.mem_cons_self ..)) (ht s hmem))

/-- **What is left of a list, sorted and without its repeats, are its different texts.** -/
theorem length_eraseReps_mergeSort (texts : List Text) :
    (texts.mergeSort le).eraseReps.length = texts.toFinset.card := by
  have hnodup := nodup_eraseReps (List.pairwise_mergeSort le_trans le_total texts)
  rw [← List.toFinset_card_of_nodup hnodup]
  congr 1
  ext u
  rw [List.mem_toFinset, List.mem_toFinset, mem_eraseReps, List.mem_mergeSort]

end Docroot.Text

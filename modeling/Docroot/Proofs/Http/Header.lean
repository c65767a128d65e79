import Docroot.Http.Header
import Docroot.Proofs.Text.Order
import Mathlib.Data.Finset.Image

/-!
# Header sections

An insertion gives a name one value and adds at most that name (`values_insert`, `names_insert`);
where the name has that one value already, it changes nothing (`insert_eq_self`).

A section is full exactly if it has `maxNames` different names (`isFull_iff`), however many fields
there are of each.
-/

namespace Docroot.Http.Headers

/-! ## 1. Insertion -/

/-- The names in a section. -/
def names (h : Headers) : Finset HeaderName := (h.map (·.1)).toFinset

theorem mem_names_iff {h : Headers} {n : HeaderName} : n ∈ names h ↔ ∃ v, (n, v) ∈ h := by
  simp [names]

theorem values_eq_nil_iff {h : Headers} {n : HeaderName} : values h n = [] ↔ n ∉ names h := by
  rw [mem_names_iff]
  unfold values
  rw [List.map_eq_nil_iff, List.filter_eq_nil_iff]
  constructor
  · rintro h ⟨v, hv⟩
    exact h _ hv (decide_eq_true rfl)
  · rintro h ⟨m, v⟩ hv hm
    obtain rfl := of_decide_eq_true hm
    exact h ⟨v, hv⟩

theorem getText?_of_values_nil {h : Headers} {n : HeaderName} (hv : values h n = []) :
    getText? h n = none := by
  unfold getText? get?
  rw [hv]
  rfl

/-- **An insertion adds the name.** -/
theorem names_insert (h : Headers) (n : HeaderName) (v : HeaderValue) :
    names (insert h n v) = Insert.insert n (names h) := by
  ext m
  rw [Finset.mem_insert, ← not_iff_not, not_or, ← values_eq_nil_iff, ← values_eq_nil_iff,
    values_insert]
  by_cases hm : m = n
  · simp [hm]
  · simp [hm]

theorem card_names_insert_le (h : Headers) (n : HeaderName) (v : HeaderValue) :
    (names (insert h n v)).card ≤ (names h).card + 1 := by
  rw [names_insert]
  exact Finset.card_insert_le _ _

/-- **An insertion of the value that a name has changes nothing.** -/
theorem insert_eq_self {h : Headers} {n : HeaderName} {v : HeaderValue} (hv : values h n = [v]) :
    insert h n v = h := by
  induction h with
  | nil => cases hv
  | cons f rest ih =>
    obtain ⟨m, w⟩ := f
    unfold insert
    by_cases hm : m = n
    · subst hm
      rw [values_cons, if_pos rfl] at hv
      obtain ⟨rfl, hnone⟩ := List.cons.inj hv
      have hall : ∀ f ∈ rest, decide (f.1 ≠ m) = true := by
        intro f hf
        rw [decide_eq_true_eq]
        rintro rfl
        exact values_eq_nil_iff.1 hnone (mem_names_iff.2 ⟨f.2, hf⟩)
      rw [if_pos rfl, List.filter_eq_self.2 hall]
    · rw [values_cons, if_neg hm] at hv
      rw [if_neg hm, ih hv]

/-! ## 2. Full sections -/

theorem text_injective : Function.Injective HeaderName.text := by
  rintro ⟨s, _⟩ ⟨t, _⟩ rfl
  rfl

theorem card_names_le (h : Headers) : (names h).card ≤ h.length := by
  have hle := List.toFinset_card_le (h.map (·.1))
  rwa [List.length_map] at hle

/-- **A section is full exactly if it has the most names.** -/
theorem isFull_iff {h : Headers} : isFull h = true ↔ maxNames ≤ (names h).card := by
  have htexts : (h.map (·.1.text)).toFinset = (names h).image HeaderName.text := by
    ext s
    simp [names]
  have hle := card_names_le h
  unfold isFull
  rw [Text.length_eraseReps_mergeSort, htexts, Finset.card_image_of_injective _ text_injective,
    Bool.and_eq_true, decide_eq_true_eq, decide_eq_true_eq]
  omega

theorem isFull_eq_false_iff {h : Headers} : isFull h = false ↔ (names h).card < maxNames := by
  rw [← Bool.not_eq_true, isFull_iff, Nat.not_le]

end Docroot.Http.Headers

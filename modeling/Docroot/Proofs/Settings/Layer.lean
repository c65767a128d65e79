import Docroot.Proofs.Text.Lowercase
import Docroot.Settings.Layer

/-!
# What setting a name changes

Putting a value under a name changes that name and no other (`get?_put`), so a table that is set
over another decides name by name: the last value it has for a name counts, and where it has none the
value stays (`get?_setAll`). Names come out in small letters and once each, however they were
written (`Value.IsTidy`), and so do those of paths (`Route.isSmall_ofKey`).
-/

namespace Docroot.Settings

/-! ## 1. Tables -/

/-- The value is a table. -/
def Value.IsTable (v : Value) : Prop := ∃ origin entries, v = .table origin entries

/-- The names of a table; anything else has none. -/
def Value.names (v : Value) : List Text := v.entries.map Prod.fst

theorem lookup_putEntry (name : Text) (v : Value) (es : List (Text × Value)) (other : Text) :
    (putEntry name v es).lookup other = if name = other then some v else es.lookup other := by
  induction es with
  | nil =>
    unfold putEntry
    by_cases h : name = other
    · simp [h]
    · simp [h, List.lookup_cons, beq_false_of_ne (Ne.symm h)]
  | cons e es ih =>
    obtain ⟨n, w⟩ := e
    unfold putEntry
    by_cases hn : n = name
    · subst hn
      by_cases h : n = other
      · simp [h]
      · simp [h, List.lookup_cons, beq_false_of_ne (Ne.symm h)]
    · rw [if_neg hn]
      by_cases hother : other = n
      · subst hother
        simp [Ne.symm hn]
      · simpa [List.lookup_cons, beq_false_of_ne hother] using ih

theorem names_putEntry (name : Text) (v : Value) (es : List (Text × Value)) :
    (putEntry name v es).map Prod.fst
      = if name ∈ es.map Prod.fst then es.map Prod.fst else es.map Prod.fst ++ [name] := by
  induction es with
  | nil => rfl
  | cons e es ih =>
    obtain ⟨n, w⟩ := e
    unfold putEntry
    by_cases hn : n = name
    · simp [hn]
    · rw [if_neg hn, List.map_cons, ih]
      by_cases hmem : name ∈ es.map Prod.fst
      · have hcons : name ∈ ((n, w) :: es).map Prod.fst := List.mem_cons_of_mem _ hmem
        rw [if_pos hmem, if_pos hcons]
        rfl
      · have hnot : name ∉ ((n, w) :: es).map Prod.fst := by
          rw [List.map_cons, List.mem_cons, not_or]
          exact ⟨Ne.symm hn, hmem⟩
        rw [if_neg hmem, if_neg hnot]
        rfl

section

variable (root : Value) (name : Text) (v : Value)

theorem isTable_put : (root.put name v).IsTable := by
  cases root with
  | table o es => exact ⟨o, _, rfl⟩
  | _ => exact ⟨none, _, rfl⟩

theorem entries_put : (root.put name v).entries = putEntry name v root.entries := by
  cases root <;> rfl

/-- **Putting a value under a name changes that name and no other.** -/
theorem get?_put (other : Text) :
    (root.put name v).get? other = if name = other then some v else root.get? other := by
  unfold Value.get?
  rw [entries_put]
  exact lookup_putEntry name v _ other

theorem names_put : (root.put name v).names
    = if name ∈ root.names then root.names else root.names ++ [name] := by
  unfold Value.names
  rw [entries_put]
  exact names_putEntry name v _

/-- What a value makes of what was there: a table is set over it, anything else replaces it. -/
def Value.over (old : Value) : Value → Value
  | .table _ incoming => setAll old incoming
  | v => v

theorem setName_eq_put : setName root name v
    = root.put (Text.lower name) (((root.get? (Text.lower name)).getD .emptyTable).over v) := by
  cases v <;> rfl

variable {root v}

theorem over_of_not_isTable (h : ¬v.IsTable) (old : Value) : old.over v = v := by
  cases v with
  | table o es => exact absurd ⟨o, es, rfl⟩ h
  | _ => rfl

theorem isTable_setAll (h : root.IsTable) (es : List (Text × Value)) :
    (setAll root es).IsTable := by
  induction es generalizing root with
  | nil => exact h
  | cons e es ih =>
    refine ih ?_
    rw [setName_eq_put]
    exact isTable_put _ _ _

end

/-- The values that entries have for a name in small letters, in order. -/
def valuesFor (name : Text) (es : List (Text × Value)) : List Value :=
  (es.filter fun e => Text.lower e.1 = name).map Prod.snd

theorem valuesFor_cons (name : Text) (e : Text × Value) (es : List (Text × Value)) :
    valuesFor name (e :: es)
      = if Text.lower e.1 = name then e.2 :: valuesFor name es else valuesFor name es := by
  unfold valuesFor
  by_cases h : Text.lower e.1 = name
  · simp [h]
  · simp [h]

/-- **A table that is set over another decides name by name**: its last value counts. -/
theorem get?_setAll (name : Text) {es : List (Text × Value)}
    (h : ∀ v ∈ valuesFor name es, ¬v.IsTable) (root : Value) :
    (setAll root es).get? name = (valuesFor name es).getLast?.or (root.get? name) := by
  induction es generalizing root with
  | nil => rfl
  | cons e es ih =>
    have hstep : setAll root (e :: es) = setAll (setName root e.1 e.2) es := rfl
    rw [valuesFor_cons] at h ⊢
    rw [hstep, setName_eq_put]
    by_cases hname : Text.lower e.1 = name
    · rw [if_pos hname] at h ⊢
      obtain ⟨hfirst, hrest⟩ := List.forall_mem_cons.1 h
      rw [ih hrest, get?_put, if_pos hname, over_of_not_isTable hfirst, List.getLast?_cons]
      cases (valuesFor name es).getLast? <;> rfl
    · rw [if_neg hname] at h ⊢
      rw [ih h, get?_put, if_neg hname]

/-! ## 2. Tidy tables -/

/-- **A tidy value**: its names are in small letters, and no name is there twice. -/
structure Value.IsTidy (v : Value) : Prop where
  small : ∀ n ∈ v.names, ∃ written, n = Text.lower written
  nodup : v.names.Nodup

theorem Value.isTidy_nil {v : Value} (h : v.names = []) : v.IsTidy := by
  constructor
  · intro n hn
    rw [h] at hn
    cases hn
  · rw [h]
    exact List.nodup_nil

section

variable {root : Value}

theorem Value.IsTidy.put (h : root.IsTidy) (written : Text) (v : Value) :
    (root.put (Text.lower written) v).IsTidy := by
  by_cases hmem : Text.lower written ∈ root.names
  · constructor <;> rw [names_put, if_pos hmem]
    · exact h.small
    · exact h.nodup
  · constructor <;> rw [names_put, if_neg hmem]
    · intro n hn
      rcases List.mem_append.1 hn with hold | hnew
      · exact h.small n hold
      · exact ⟨written, List.mem_singleton.1 hnew⟩
    · refine List.nodup_append.2 ⟨h.nodup, List.pairwise_singleton _ _, ?_⟩
      intro n hn m hm hnm
      rw [List.mem_singleton.1 hm] at hnm
      exact hmem (hnm ▸ hn)

theorem Value.IsTidy.setAll (h : root.IsTidy) (es : List (Text × Value)) :
    (setAll root es).IsTidy := by
  induction es generalizing root with
  | nil => exact h
  | cons e es ih =>
    have hstep := h.put e.1 (((root.get? (Text.lower e.1)).getD .emptyTable).over e.2)
    rw [← setName_eq_put] at hstep
    exact ih hstep

theorem lookup_eq_none_of_notMem {name : Text} {es : List (Text × Value)}
    (h : name ∉ es.map Prod.fst) : es.lookup name = none := by
  refine List.lookup_eq_none_iff.2 fun e he => ?_
  rw [bne_iff_ne]
  exact fun heq => h (heq ▸ List.mem_map_of_mem he)

/-- Where no name is there twice, what depends on the entry of one name alone comes from the value
    that is found. -/
theorem flatMap_of_nodup {α : Type} {es : List (Text × Value)} (hnodup : (es.map Prod.fst).Nodup)
    {name : Text} {f : Text × Value → List α} (hf : ∀ e ∈ es, e.1 ≠ name → f e = []) :
    es.flatMap f = match es.lookup name with
      | some v => f (name, v)
      | none => [] := by
  induction es with
  | nil => rfl
  | cons e es ih =>
    obtain ⟨n, v⟩ := e
    obtain ⟨hfirst, hrest⟩ := List.nodup_cons.1 hnodup
    have htail := ih hrest fun e he => hf e (List.mem_cons_of_mem _ he)
    rw [List.flatMap_cons, htail]
    by_cases hname : n = name
    · subst hname
      rw [lookup_eq_none_of_notMem hfirst, List.lookup_cons_self]
      exact List.append_nil _
    · rw [hf _ List.mem_cons_self hname, List.lookup_cons, beq_false_of_ne (Ne.symm hname)]
      rfl

/-- **In a tidy table a plain name has the one value that is found**, or none. -/
theorem Value.IsTidy.valuesFor_eq (h : root.IsTidy) {name : Text}
    (hplain : ∀ c ∈ name, Text.IsPlain c) (hself : Text.lower name = name) :
    valuesFor name root.entries = (root.get? name).toList := by
  have hflat : valuesFor name root.entries
      = root.entries.flatMap fun e => if Text.lower e.1 = name then [e.2] else [] := by
    induction root.entries with
    | nil => rfl
    | cons e es ih =>
      rw [valuesFor_cons, List.flatMap_cons, ih]
      split <;> rfl
  have hother : ∀ e ∈ root.entries, e.1 ≠ name →
      (if Text.lower e.1 = name then [e.2] else []) = [] := by
    intro e he hne
    obtain ⟨written, hwritten⟩ := h.small e.1 (List.mem_map_of_mem he)
    refine if_neg fun hlower => hne ?_
    rw [hwritten] at hlower ⊢
    exact Text.lower_eq_of_lower_lower hplain hlower
  rw [hflat, flatMap_of_nodup h.nodup hother]
  unfold Value.get?
  cases root.entries.lookup name with
  | none => rfl
  | some v => exact if_pos hself

end

/-! ## 3. Paths in small letters -/

/-- A name that a path can have: it comes out of reading as it is. -/
structure IsWord (n : Text) : Prop where
  ne_nil : n ≠ []
  chars : n.all isRouteChar = true
  small : Text.lower n = n

/-- All names of the path are such names. -/
def Route.IsSmall : Route → Prop
  | .name n => IsWord n
  | .child parent n => parent.IsSmall ∧ IsWord n
  | .element parent _ => parent.IsSmall

theorem isRouteChar_toLower {c : Char} (h : isRouteChar c = true) :
    c.toNat < 0x80 ∧ isRouteChar c.toLower = true := by
  have hascii : c.toNat < 0x80 := by
    unfold isRouteChar at h
    rcases Bool.or_eq_true_iff.1 h with h | hdash
    · rcases Bool.or_eq_true_iff.1 h with h | hline
      · rcases Bool.or_eq_true_iff.1 h with halnum | hblank
        · exact Nat.lt_of_le_of_lt (Text.toNat_le_of_isAlphanum halnum) (by decide)
        · rw [beq_iff_eq.1 hblank]
          decide
      · rw [beq_iff_eq.1 hline]
        decide
    · rw [beq_iff_eq.1 hdash]
      decide
  have hall : ∀ n < 0x80, isRouteChar (Char.ofNat n) = true →
      isRouteChar (Char.ofNat n).toLower = true := by decide
  have hc := hall c.toNat hascii
  rw [Char.ofNat_toNat] at hc
  exact ⟨hascii, hc h⟩

theorem isWord_lower {written : Text} (hne : written ≠ []) (h : written.all isRouteChar = true) :
    IsWord (Text.lower written) := by
  have hchars := List.all_eq_true.1 h
  have hlower : Text.lower written = written.map Char.toLower :=
    Text.lower_of_ascii fun c hc => (isRouteChar_toLower (hchars c hc)).1
  have hsmall : ∀ c ∈ written.map Char.toLower, c.toNat < 0x80 ∧ c.toLower = c := by
    intro c hc
    obtain ⟨d, hd, rfl⟩ := List.mem_map.1 hc
    exact Text.toLower_ascii (isRouteChar_toLower (hchars d hd)).1
  refine ⟨?_, ?_, ?_⟩
  · rw [hlower]
    exact fun hnil => hne (List.map_eq_nil_iff.1 hnil)
  · rw [hlower, List.all_map]
    exact List.all_eq_true.2 fun c hc => (isRouteChar_toLower (hchars c hc)).2
  · rw [hlower, Text.lower_of_ascii fun c hc => (hsmall c hc).1,
      List.map_congr_left fun c hc => (hsmall c hc).2, List.map_id']

theorem takeWhile_all (p : Char → Bool) (s : Text) : (s.takeWhile p).all p = true :=
  List.all_takeWhile

theorem isSmall_readSteps? {r r' : Route} (h : r.IsSmall) {fuel : Nat} {s : Text}
    (hread : readSteps? r fuel s = some r') : r'.IsSmall := by
  fun_induction readSteps? r fuel s with
  | case1 =>
    cases hread
    exact h
  | case4 r fuel rest hne ih =>
    exact ih ⟨h, isWord_lower hne (takeWhile_all isRouteChar rest)⟩ hread
  | case5 r fuel rest i rest' hindex ih => exact ih h hread
  | case2 | case3 | case6 | case7 => cases hread

/-- **The names of a path are in small letters**; a key that writes no path is a name as it
    stands. -/
theorem Route.isSmall_ofKey (key : Text) :
    Route.ofKey key = .name key ∨ (Route.ofKey key).IsSmall := by
  unfold Route.ofKey
  split
  · exact Or.inl rfl
  · next hne =>
    cases hread : readSteps? (.name (Text.lower (key.takeWhile isRouteChar))) key.length
        (key.drop (key.takeWhile isRouteChar).length) with
    | none => exact Or.inl rfl
    | some r =>
      refine Or.inr (isSmall_readSteps? ?_ hread)
      exact isWord_lower hne (takeWhile_all _ _)

/-- A name that a path can have is read as that name. -/
theorem IsWord.ofKey {n : Text} (h : IsWord n) : Route.ofKey n = .name n := by
  have hwhole : n.takeWhile isRouteChar = n := by
    rw [← List.append_nil n, List.takeWhile_append_of_pos (List.all_eq_true.1 h.chars)]
    rfl
  unfold Route.ofKey
  rw [hwhole]
  split
  · rfl
  · rw [List.drop_length, h.small]
    cases n.length <;> rfl

end Docroot.Settings

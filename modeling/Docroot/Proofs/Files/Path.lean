import Docroot.Files.Path

/-!
# Names below a path

A *name* leads one step down: it is not empty, it neither stays (`.`) nor climbs (`..`), and it
holds no slash. Names put below a path one after the other (`push`) never touch the path itself:
what results begins with it (`prefix_foldl_push`), and its names are those of the path and then the
new ones (`names_foldl_push`). Joining the names first and putting them below the path at once
comes to the same (`pushNames_eq_foldl`), and so does putting them there in two parts
(`pushNames_append`).
-/

namespace Docroot.Path

/-! ## 1. One name -/

/-- A name that leads one step down. -/
structure IsName (name : Bytes) : Prop where
  ne_nil : name ≠ []
  ne_dot : name ≠ [dot]
  ne_dots : name ≠ [dot, dot]
  no_slash : slash ∉ name

instance (name : Bytes) : Decidable (IsName name) :=
  decidable_of_iff (name ≠ [] ∧ name ≠ [dot] ∧ name ≠ [dot, dot] ∧ slash ∉ name)
    ⟨fun ⟨h1, h2, h3, h4⟩ => ⟨h1, h2, h3, h4⟩, fun ⟨h1, h2, h3, h4⟩ => ⟨h1, h2, h3, h4⟩⟩

theorem IsName.isAbsolute {name : Bytes} (h : IsName name) : isAbsolute name = false := by
  cases name with
  | nil => rfl
  | cons b rest =>
    have hb : b ≠ slash := fun e => h.no_slash (by simp [e])
    simp [Path.isAbsolute, hb]

theorem IsName.getLast? {name : Bytes} (h : IsName name) : name.getLast? ≠ some slash :=
  fun e => h.no_slash (List.mem_of_getLast? e)

/-- A name below a path, by what the path ends in. -/
theorem push_of_isName (p : Path) {name : Bytes} (h : IsName name) :
    p.push name = if p = [] ∨ p.getLast? = some slash then p ++ name else p ++ slash :: name := by
  unfold push
  rw [h.isAbsolute]
  rfl

theorem prefix_push (p : Path) {name : Bytes} (h : IsName name) : p <+: p.push name := by
  rw [push_of_isName p h]
  split <;> exact List.prefix_append _ _

/-- The name is what the path ends in then. -/
theorem suffix_push (p : Path) {name : Bytes} (h : IsName name) : name <:+ p.push name := by
  rw [push_of_isName p h]
  split
  · exact List.suffix_append _ _
  · exact ⟨p ++ [slash], by simp⟩

theorem getLast?_push (p : Path) {name : Bytes} (h : IsName name) :
    (p.push name).getLast? ≠ some slash := by
  obtain ⟨front, e⟩ := suffix_push p h
  rw [← e, List.getLast?_append]
  obtain ⟨b, hb⟩ := Option.isSome_iff_exists.1 (List.getLast?_isSome.2 h.ne_nil)
  have := h.getLast?
  rw [hb] at this ⊢
  simpa using this

/-! ## 2. The names of a path -/

theorem names_nil : names [] = [] := rfl

theorem names_append_slash (p q : Path) : names (p ++ slash :: q) = names p ++ names q := by
  unfold names
  rw [cutAt_append_sep, List.filter_append]

theorem names_of_isName {name : Bytes} (h : IsName name) : names name = [name] := by
  unfold names
  rw [cutAt_of_not_mem h.no_slash]
  simp [h.ne_nil]

/-- **A name below a path is one more name at its end.** -/
theorem names_push (p : Path) {name : Bytes} (h : IsName name) :
    names (p.push name) = names p ++ [name] := by
  rw [push_of_isName p h]
  by_cases hp : p = []
  · subst hp
    rw [if_pos (Or.inl rfl), List.nil_append, names_of_isName h, names_nil]
    rfl
  · by_cases hl : p.getLast? = some slash
    · -- the slash at the end of the path is the one that divides
      obtain ⟨q, rfl⟩ := List.getLast?_eq_some_iff.1 hl
      rw [if_pos (Or.inr hl), List.append_assoc, List.singleton_append, names_append_slash,
        names_append_slash, names_nil, List.append_nil, names_of_isName h]
    · rw [if_neg (not_or.2 ⟨hp, hl⟩), names_append_slash, names_of_isName h]

/-! ## 3. Several names -/

theorem prefix_foldl_push (p : Path) : ∀ (names : List Bytes), (∀ n ∈ names, IsName n) →
    p <+: names.foldl push p
  | [], _ => List.prefix_rfl
  | n :: names, h => by
    have hn := h n (by simp)
    exact (prefix_push p hn).trans
      (prefix_foldl_push (p.push n) names fun m hm => h m (List.mem_cons_of_mem _ hm))

/-- **Names below a path follow the names of the path.** -/
theorem names_foldl_push (p : Path) : ∀ (ns : List Bytes), (∀ n ∈ ns, IsName n) →
    names (ns.foldl push p) = names p ++ ns
  | [], _ => (List.append_nil _).symm
  | n :: ns, h => by
    rw [List.foldl_cons,
      names_foldl_push (p.push n) ns fun m hm => h m (List.mem_cons_of_mem _ hm),
      names_push p (h n (by simp)), List.append_assoc]
    rfl

theorem getLast?_foldl_push (p : Path) (ns : List Bytes) (h : ∀ n ∈ ns, IsName n) (hne : ns ≠ []) :
    (ns.foldl push p).getLast? ≠ some slash := by
  obtain ⟨init, last, rfl⟩ := List.eq_nil_or_concat ns |>.resolve_left hne
  rw [List.concat_eq_append, List.foldl_append]
  exact getLast?_push _ (h last (by simp))

/-- A name and a path behind it, put below a path one after the other or together. -/
theorem push_push (p : Path) {name : Bytes} (h : IsName name) {q : Path}
    (hq : isAbsolute q = false) : (p.push name).push q = p.push (name ++ slash :: q) := by
  have hne : p.push name ≠ [] := fun e => by
    have := suffix_push p h
    rw [e] at this
    exact h.ne_nil (List.suffix_nil.1 this)
  have habs : isAbsolute (name ++ slash :: q) = false := by
    have := h.isAbsolute
    cases name with
    | nil => exact absurd rfl h.ne_nil
    | cons b rest => exact this
  have e : (p.push name).push q = p.push name ++ slash :: q := by
    unfold push at hne ⊢
    rw [hq]
    exact if_neg (not_or.2 ⟨hne, getLast?_push p h⟩)
  rw [e, push_of_isName p h]
  unfold push
  rw [habs]
  by_cases hp : p = [] ∨ p.getLast? = some slash
  · simp [hp]
  · simp [hp]

theorem isAbsolute_ofNames {ns : List Bytes} (h : ∀ n ∈ ns, IsName n) :
    isAbsolute (ofNames ns) = false := by
  unfold ofNames
  match ns, h with
  | [], _ => rfl
  | [n], h =>
    rw [List.intercalate_singleton]
    exact (h n (List.mem_singleton_self n)).isAbsolute
  | n :: m :: rest, h =>
    have hn := h n (by simp)
    have := hn.isAbsolute
    rw [intercalate_cons_cons]
    cases n with
    | nil => exact absurd rfl hn.ne_nil
    | cons b tail => exact this

/-- **Names joined and put below a path are put below it one after the other.** -/
theorem pushNames_eq_foldl : ∀ (ns : List Bytes) (p : Path), (∀ n ∈ ns, IsName n) →
    p.pushNames ns = ns.foldl push p
  | [], _, _ => rfl
  | [n], p, _ => by
    unfold pushNames ofNames
    rw [if_neg (List.cons_ne_nil _ _), List.intercalate_singleton, List.foldl_cons, List.foldl_nil]
  | n :: m :: rest, p, h => by
    have hrest : ∀ k ∈ m :: rest, IsName k := fun k hk => h k (List.mem_cons_of_mem _ hk)
    have ih := pushNames_eq_foldl (m :: rest) (p.push n) hrest
    have e : ofNames (n :: m :: rest) = n ++ slash :: ofNames (m :: rest) :=
      intercalate_cons_cons n m rest
    rw [List.foldl_cons, ← ih]
    unfold pushNames
    rw [if_neg (by simp), if_neg (by simp), e,
      push_push p (h n (by simp)) (isAbsolute_ofNames hrest)]

/-- **Names put below a path in two parts** come to the same as all of them at once. -/
theorem pushNames_append (p : Path) {ns ms : List Bytes} (hns : ∀ n ∈ ns, IsName n)
    (hms : ∀ m ∈ ms, IsName m) : p.pushNames (ns ++ ms) = (p.pushNames ns).pushNames ms := by
  have hall : ∀ n ∈ ns ++ ms, IsName n := List.forall_mem_append.2 ⟨hns, hms⟩
  rw [pushNames_eq_foldl _ _ hall, pushNames_eq_foldl _ _ hms, pushNames_eq_foldl _ _ hns,
    List.foldl_append]

/-- What names lead to is no shorter than the names with slashes between. -/
theorem length_ofNames_le (p : Path) {ns : List Bytes} (h : ∀ n ∈ ns, IsName n) :
    (ofNames ns).length ≤ (ns.foldl push p).length := by
  rw [← pushNames_eq_foldl ns p h]
  unfold pushNames
  split
  · next hnil =>
    rw [hnil]
    exact Nat.zero_le _
  · unfold push
    rw [isAbsolute_ofNames h]
    split
    · next habs => cases habs
    · split <;> simp only [List.length_append, List.length_cons] <;> omega

/-- A path without names is made of slashes. -/
theorem getLast?_of_names_eq_nil {p : Path} (h : names p = []) (hne : p ≠ []) :
    p.getLast? = some slash := by
  obtain ⟨front, last, rfl⟩ := List.eq_nil_or_concat p |>.resolve_left hne
  rw [List.concat_eq_append] at h ⊢
  rw [List.getLast?_concat]
  have hlast : last ∈ [slash].intercalate (cutAt slash (front ++ [last])) := by
    rw [intercalate_cutAt]
    simp
  rcases mem_intercalate hlast with rfl | ⟨piece, hpiece, hmem⟩
  · rfl
  · have hname : piece ∈ names (front ++ [last]) :=
      List.mem_filter.2 ⟨hpiece, by simpa using List.ne_nil_of_mem hmem⟩
    rw [h] at hname
    cases hname

/-! ## 4. The parent -/

/-- Names joined in two parts have a slash between these. -/
theorem ofNames_append : ∀ (ns : List Bytes) {ms : List Bytes}, ns ≠ [] → ms ≠ [] →
    ofNames (ns ++ ms) = ofNames ns ++ slash :: ofNames ms
  | [], _, h, _ => absurd rfl h
  | [n], [], _, h => absurd rfl h
  | [n], m :: ms, _, _ => by
    unfold ofNames
    rw [List.singleton_append, intercalate_cons_cons, List.intercalate_singleton]
  | n :: n' :: ns, ms, _, hms => by
    have ih := ofNames_append (n' :: ns) (List.cons_ne_nil _ _) hms
    unfold ofNames at ih ⊢
    rw [List.cons_append, List.cons_append, intercalate_cons_cons, ← List.cons_append, ih,
      intercalate_cons_cons, List.append_assoc]
    rfl

theorem length_ofNames_le_of_prefix {ns ms : List Bytes} (h : ns <+: ms) :
    (ofNames ns).length ≤ (ofNames ms).length := by
  obtain ⟨rest, rfl⟩ := h
  by_cases hns : ns = []
  · subst hns
    exact Nat.zero_le _
  · by_cases hrest : rest = []
    · have hsame : ns ++ rest = ns := by rw [hrest, List.append_nil]
      exact Nat.le_of_eq (congrArg (fun names => (ofNames names).length) hsame.symm)
    · rw [ofNames_append ns hns hrest, List.length_append]
      exact Nat.le_add_right _ _

theorem isPrefix_dropIdleEnd (pieces : List Bytes) : dropIdleEnd pieces <+: pieces := by
  cases pieces with
  | nil => exact List.prefix_rfl
  | cons first rest =>
    have hsuffix := List.dropWhile_suffix isIdle (l := rest.reverse)
    rw [← List.reverse_prefix, List.reverse_reverse] at hsuffix
    exact List.prefix_cons_inj first |>.2 hsuffix

/-- What is left of several pieces ends in one that leads somewhere. -/
theorem getLast?_dropIdleEnd {pieces : List Bytes} {first second : Bytes} {rest : List Bytes}
    (h : dropIdleEnd pieces = first :: second :: rest) :
    ∃ last, (second :: rest).getLast? = some last ∧ last ≠ [] := by
  cases pieces with
  | nil => cases h
  | cons piece pieces =>
    obtain ⟨-, hrest⟩ := List.cons.inj h
    obtain ⟨last, hlast⟩ := Option.isSome_iff_exists.1
      (List.getLast?_isSome.2 (List.cons_ne_nil second rest))
    refine ⟨last, hlast, fun hempty => ?_⟩
    rw [← hrest, List.getLast?_reverse] at hlast
    have hidle := List.head?_dropWhile_not isIdle pieces.reverse
    rw [hlast, hempty] at hidle
    exact absurd hidle (by decide)

/-- Names of which the last is not empty make a path that is not empty. -/
theorem ofNames_ne_nil {ns : List Bytes} {last : Bytes} (h : ns.getLast? = some last)
    (hlast : last ≠ []) : ofNames ns ≠ [] := by
  obtain ⟨front, rfl⟩ := List.getLast?_eq_some_iff.1 h
  by_cases hfront : front = []
  · subst hfront
    unfold ofNames
    rwa [List.nil_append, List.intercalate_singleton]
  · rw [ofNames_append front hfront (List.cons_ne_nil _ _)]
    simp

/-- Without the last of several pieces, and the idle ones before it, a path is shorter. -/
theorem length_ofPieces_lt {first second last : Bytes} {rest : List Bytes}
    (hlast : (second :: rest).getLast? = some last) (hne : last ≠ []) :
    (ofPieces (dropIdleEnd (first :: second :: rest).dropLast)).length
      < (ofNames (first :: second :: rest)).length := by
  have hprefix := isPrefix_dropIdleEnd (first :: second :: rest).dropLast
  have hshort := hprefix.length_le
  have hfront : dropIdleEnd (first :: second :: rest).dropLast ≠ [] := by
    rw [List.dropLast_cons_of_ne_nil (List.cons_ne_nil _ _)]
    exact List.cons_ne_nil _ _
  obtain ⟨behind, hbehind⟩ := hprefix.trans (List.dropLast_prefix _)
  generalize dropIdleEnd (first :: second :: rest).dropLast = front at *
  have hmore : behind ≠ [] := by
    rintro rfl
    rw [List.append_nil] at hbehind
    rw [hbehind, List.length_dropLast, List.length_cons] at hshort
    omega
  rw [← hbehind, ofNames_append front hfront hmore]
  unfold ofPieces
  split
  · next hroot =>
    subst hroot
    obtain ⟨-, rfl⟩ := List.cons.inj hbehind
    have hpos := List.length_pos_iff.2 (ofNames_ne_nil hlast hne)
    rw [List.length_append, List.length_cons, List.length_cons, List.length_nil]
    omega
  · rw [List.length_append, List.length_cons]
    omega

/-- **The parent of a path is shorter.** -/
theorem length_parent?_lt {p parent : Path} (h : p.parent? = some parent) :
    parent.length < p.length := by
  have hle := length_ofNames_le_of_prefix (isPrefix_dropIdleEnd (cutAt slash p))
  rw [show ofNames (cutAt slash p) = p from intercalate_cutAt slash p] at hle
  unfold parent? at h
  match hpieces : dropIdleEnd (cutAt slash p) with
  | [] =>
    rw [hpieces] at h
    cases h
  | [first] =>
    rw [hpieces] at h hle
    rw [show ofNames [first] = first from List.intercalate_singleton] at hle
    dsimp only at h
    split at h
    · cases h
    · next hfirst =>
      cases h
      exact Nat.lt_of_lt_of_le (List.length_pos_iff.2 hfirst) hle
  | first :: second :: rest =>
    rw [hpieces] at h hle
    cases h
    obtain ⟨last, hlast, hne⟩ := getLast?_dropIdleEnd hpieces
    exact Nat.lt_of_lt_of_le (length_ofPieces_lt hlast hne) hle

end Docroot.Path

import Docroot.Text

/-!
# Replacing a name at given places

A *form* is a text with places held open. Filled in with a name, it is a text in which the name
stands at those places, and perhaps at others that come about by chance (`HasStray`). Replacing the
name by a value is then filling in the value at the places, exactly if there are no others, or if the
value is the name itself (`replaceAll_fill_iff`).

That nothing else can make the two equal rests on the mark that a name begins with and does not hold
again: two places of a name never overlap, so every place that is seen is replaced, and one more of
them makes the text longer or shorter, or puts the value where the name was.
-/

namespace Docroot.Text

/-! ## 1. Replacing from the left -/

section

variable {name value : Text}

theorem replaceAfter_length (t s : Text) :
    replaceAfter name value t.length (t ++ s) = replaceAfter name value 0 s := by
  induction t with
  | nil => rfl
  | cons c t ih =>
    rw [List.length_cons, List.cons_append, replaceAfter]
    exact ih

/-- **A name in front is replaced.** -/
theorem replaceAll_append_self (hname : name ≠ []) (s : Text) :
    replaceAll name value (name ++ s) = value ++ replaceAll name value s := by
  obtain ⟨mark, rest, rfl⟩ := List.exists_cons_of_ne_nil hname
  have hprefix : (mark :: rest).isPrefixOf (mark :: (rest ++ s)) = true :=
    List.isPrefixOf_iff_prefix.2 ⟨s, rfl⟩
  unfold replaceAll
  rw [List.cons_append, replaceAfter, if_pos ⟨hname, hprefix⟩, List.length_cons,
    Nat.add_sub_cancel, replaceAfter_length]

/-- **A character that begins no name stays.** -/
theorem replaceAll_cons_of_not {c : Char} {s : Text} (h : ¬name <+: c :: s) :
    replaceAll name value (c :: s) = c :: replaceAll name value s := by
  unfold replaceAll
  rw [replaceAfter, if_neg fun hprefix => h (List.isPrefixOf_iff_prefix.1 hprefix.2)]

end

/-! ## 2. Forms -/

/-- A text with places held open. -/
abbrev Form := List (Option Char)

/-- The form with a text at each of its places. -/
def fill (t : Text) (form : Form) : Text := form.flatMap fun c => c.elim t ([·])

theorem fill_place (t : Text) (form : Form) : fill t (none :: form) = t ++ fill t form := rfl

theorem fill_char (t : Text) (c : Char) (form : Form) :
    fill t (some c :: form) = c :: fill t form := rfl

theorem fill_append (t : Text) (form form' : Form) :
    fill t (form ++ form') = fill t form ++ fill t form' :=
  List.flatMap_append

/-- A text without places stays as it is. -/
theorem fill_map_some (t s : Text) : fill t (s.map some) = s := by
  induction s with
  | nil => rfl
  | cons c s ih => rw [List.map_cons, fill_char, ih]

/-- **The name stands somewhere else too**: in the form filled in with it, at a place that is not held
    open. -/
def HasStray (name : Text) (form : Form) : Prop :=
  ∃ before after, fill name form = before ++ name ++ after
    ∧ ¬∃ front back, form = front ++ none :: back ∧ fill name front = before

/-- **A name begins with a mark** that it does not hold again. -/
def IsMarked (name : Text) : Prop := ∃ mark rest, name = mark :: rest ∧ mark ∉ rest

section

variable {name value : Text} {form : Form}

theorem IsMarked.ne_nil (h : IsMarked name) : name ≠ [] := by
  obtain ⟨mark, rest, rfl, -⟩ := h
  exact List.cons_ne_nil mark rest

theorem not_hasStray_nil (hname : name ≠ []) : ¬HasStray name [] := by
  rintro ⟨before, after, h, -⟩
  have hparts := List.append_eq_nil_iff.1 (List.append_eq_nil_iff.1 h.symm).1
  exact hname hparts.2

/-- Behind a character, the name stands at a wrong place if it does so in the rest, or if the
    character begins one. -/
theorem hasStray_char_iff {c : Char} :
    HasStray name (some c :: form) ↔ name <+: c :: fill name form ∨ HasStray name form := by
  constructor
  · rintro ⟨before, after, h, hno⟩
    rw [fill_char] at h
    cases before with
    | nil => exact Or.inl ⟨after, h.symm⟩
    | cons d before =>
      obtain ⟨rfl, htail⟩ := List.cons.inj h
      refine Or.inr ⟨before, after, htail, ?_⟩
      rintro ⟨front, back, rfl, rfl⟩
      exact hno ⟨some c :: front, back, rfl, rfl⟩
  · rintro (⟨after, h⟩ | ⟨before, after, h, hno⟩)
    · refine ⟨[], after, h.symm, ?_⟩
      rintro ⟨front, back, hform, hfront⟩
      -- what is in front of the first place begins with the character
      cases front with
      | nil => cases hform
      | cons x front =>
        obtain ⟨rfl, -⟩ := List.cons.inj hform
        cases hfront
    · refine ⟨c :: before, after, by rw [fill_char, h]; rfl, ?_⟩
      rintro ⟨front, back, hform, hfront⟩
      cases front with
      | nil => cases hform
      | cons x front =>
        obtain ⟨rfl, htail⟩ := List.cons.inj hform
        exact hno ⟨front, back, htail, (List.cons.inj hfront).2⟩

/-- **Behind a text without the mark** that a name begins with, the name stands at a wrong place
    exactly if it does so in the rest. -/
theorem hasStray_text_iff {mark : Char} {tail t : Text} (hname : name = mark :: tail)
    (ht : mark ∉ t) : HasStray name (t.map some ++ form) ↔ HasStray name form := by
  induction t with
  | nil => rfl
  | cons c t ih =>
    obtain ⟨hc, ht⟩ := not_or.1 (fun h => ht (List.mem_cons.2 h))
    rw [List.map_cons, List.cons_append, hasStray_char_iff, ih ht, hname]
    exact or_iff_right fun hprefix => hc (List.cons_prefix_cons.1 hprefix).1

/-- **Behind a place**, the name stands at a wrong place exactly if it does so in the rest: no name
    begins within another. -/
theorem hasStray_place_iff (hname : IsMarked name) :
    HasStray name (none :: form) ↔ HasStray name form := by
  constructor
  · rintro ⟨before, after, h, hno⟩
    have hfirst : before ≠ [] := fun e => hno ⟨[], form, rfl, e.symm⟩
    rw [fill_place, List.append_assoc] at h
    have hbehind : ∃ rest, before = name ++ rest ∧ fill name form = rest ++ (name ++ after) := by
      rcases List.append_eq_append_iff.1 h with hbehind | ⟨end_, hwithin, hend⟩
      · exact hbehind
      · cases end_ with
        | nil =>
          rw [List.append_nil] at hwithin
          exact ⟨[], by rw [hwithin, List.append_nil], hend.symm⟩
        | cons m end_ =>
          -- the second name would begin with the mark inside the first
          obtain ⟨mark, rest, rfl, hmark⟩ := hname
          obtain ⟨rfl, -⟩ := List.cons.inj hend
          obtain ⟨x, before, rfl⟩ := List.exists_cons_of_ne_nil hfirst
          obtain ⟨-, rfl⟩ := List.cons.inj hwithin
          exact absurd (List.mem_append_right _ (List.mem_cons_self ..)) hmark
    obtain ⟨rest, rfl, htail⟩ := hbehind
    refine ⟨rest, after, by rw [htail, List.append_assoc], ?_⟩
    rintro ⟨front, back, rfl, rfl⟩
    exact hno ⟨none :: front, back, rfl, rfl⟩
  · rintro ⟨before, after, h, hno⟩
    refine ⟨name ++ before, after, by rw [fill_place, h]; simp only [List.append_assoc], ?_⟩
    rintro ⟨front, back, hform, hfront⟩
    cases front with
    | nil => exact hname.ne_nil (List.append_eq_nil_iff.1 hfront.symm).1
    | cons x front =>
      obtain ⟨rfl, htail⟩ := List.cons.inj hform
      exact hno ⟨front, back, htail, List.append_cancel_left hfront⟩

/-! ## 3. Filling in -/

/-- What holds no mark and stands in front of a filled form stands there without a place in it. -/
theorem exists_of_prefix {mark : Char} {tail rest : Text} (hrest : mark ∉ rest) :
    ∀ {form : Form}, rest <+: fill (mark :: tail) form → ∃ form', form = rest.map some ++ form' := by
  induction rest with
  | nil => exact fun _ => ⟨_, rfl⟩
  | cons r rest ih =>
    obtain ⟨hr, hrest⟩ := not_or.1 (fun h => hrest (List.mem_cons.2 h))
    rintro (_ | ⟨_ | c, form⟩) ⟨after, h⟩
    · cases h
    · rw [fill_place] at h
      exact absurd (List.cons.inj h).1.symm hr
    · rw [fill_char] at h
      obtain ⟨rfl, htail⟩ := List.cons.inj h
      obtain ⟨form', rfl⟩ := ih hrest ⟨after, htail⟩
      exact ⟨form', rfl⟩

/-- A character that begins a name in the filled form begins one in the form. -/
theorem exists_name_of_prefix (hname : IsMarked name) {c : Char} (h : name <+: c :: fill name form) :
    ∃ form', some c :: form = name.map some ++ form' := by
  obtain ⟨mark, rest, rfl, hmark⟩ := hname
  obtain ⟨rfl, hrest⟩ := List.cons_prefix_cons.1 h
  obtain ⟨form', rfl⟩ := exists_of_prefix hmark hrest
  exact ⟨form', rfl⟩

/-- **Forms as they are replaced in**: a place, a character that begins no name, or a name that stands
    there without a place. -/
theorem form_induction (hname : IsMarked name) {motive : Form → Prop} (nil : motive [])
    (place : ∀ form, motive form → motive (none :: form))
    (char : ∀ c form, ¬name <+: c :: fill name form → motive form → motive (some c :: form))
    (stray : ∀ form, motive form → motive (name.map some ++ form)) (form : Form) :
    motive form := by
  match form with
  | [] => exact nil
  | none :: form => exact place form (form_induction hname nil place char stray form)
  | some c :: form =>
    by_cases h : name <+: c :: fill name form
    · obtain ⟨form', hform'⟩ := exists_name_of_prefix hname h
      have hshorter : form'.length < (some c :: form).length := by
        rw [hform', List.length_append, List.length_map]
        exact Nat.lt_add_of_pos_left (List.length_pos_iff.2 hname.ne_nil)
      rw [hform']
      exact stray form' (form_induction hname nil place char stray form')
    · exact char c form h (form_induction hname nil place char stray form)
termination_by form.length
decreasing_by
  · exact Nat.lt_succ_self _
  · exact hshorter
  · exact Nat.lt_succ_self _

theorem replaceAll_fill_place (hname : name ≠ []) (form : Form) :
    replaceAll name value (fill name (none :: form))
      = value ++ replaceAll name value (fill name form) := by
  rw [fill_place, replaceAll_append_self hname]

theorem replaceAll_fill_char {c : Char} (h : ¬name <+: c :: fill name form) :
    replaceAll name value (fill name (some c :: form))
      = c :: replaceAll name value (fill name form) := by
  rw [fill_char, replaceAll_cons_of_not h]

theorem replaceAll_fill_stray (hname : name ≠ []) (form : Form) :
    replaceAll name value (fill name (name.map some ++ form))
      = value ++ replaceAll name value (fill name form) := by
  rw [fill_append, fill_map_some, replaceAll_append_self hname]

theorem fill_stray (t : Text) (form : Form) :
    fill t (name.map some ++ form) = name ++ fill t form := by
  rw [fill_append, fill_map_some]

/-- **Where the name stands at its places alone**, replacing it is filling in the value. -/
theorem replaceAll_fill (hname : IsMarked name) (h : ¬HasStray name form) :
    replaceAll name value (fill name form) = fill value form := by
  induction form with
  | nil => rfl
  | cons x form ih =>
    cases x with
    | none =>
      rw [hasStray_place_iff hname] at h
      rw [replaceAll_fill_place hname.ne_nil, ih h, fill_place]
    | some c =>
      rw [hasStray_char_iff, not_or] at h
      rw [replaceAll_fill_char h.1, ih h.2, fill_char]

/-- A name that is replaced by itself stays. -/
theorem replaceAll_fill_self (hname : IsMarked name) (form : Form) :
    replaceAll name name (fill name form) = fill name form := by
  induction form using form_induction hname with
  | nil => rfl
  | place form ih => rw [replaceAll_fill_place hname.ne_nil, ih, fill_place]
  | char c form hc ih => rw [replaceAll_fill_char hc, ih, fill_char]
  | stray form ih => rw [replaceAll_fill_stray hname.ne_nil, ih, fill_stray]

/-- **Names at wrong places show in the length**: a longer value makes the text longer than it should
    be by each of them, and a shorter one makes it shorter. -/
theorem length_replaceAll_fill (hname : IsMarked name) (form : Form) :
    (name.length ≤ value.length →
        (fill value form).length ≤ (replaceAll name value (fill name form)).length)
      ∧ (value.length ≤ name.length →
        (replaceAll name value (fill name form)).length ≤ (fill value form).length) := by
  induction form using form_induction hname with
  | nil => exact ⟨fun _ => Nat.le_refl _, fun _ => Nat.le_refl _⟩
  | place form ih =>
    rw [replaceAll_fill_place hname.ne_nil, fill_place, List.length_append, List.length_append]
    omega
  | char c form hc ih =>
    rw [replaceAll_fill_char hc, fill_char, List.length_cons, List.length_cons]
    omega
  | stray form ih =>
    rw [replaceAll_fill_stray hname.ne_nil, fill_stray, List.length_append, List.length_append]
    omega

/-- A name at a wrong place is replaced by another value: it shows in the length, or else at once. -/
theorem value_eq_of_stray (hname : IsMarked name)
    (h : replaceAll name value (fill name (name.map some ++ form))
      = fill value (name.map some ++ form)) : value = name := by
  rw [replaceAll_fill_stray hname.ne_nil, fill_stray] at h
  have hlengths := congrArg List.length h
  rw [List.length_append, List.length_append] at hlengths
  have hlength : value.length = name.length := by
    obtain ⟨hlonger, hshorter⟩ := @length_replaceAll_fill name value hname form
    omega
  exact (List.append_inj h hlength).1

/-- **Replacing a name is filling in the value at the places of a form**, exactly if the value is the
    name or the name stands nowhere else. -/
theorem replaceAll_fill_iff (hname : IsMarked name) :
    replaceAll name value (fill name form) = fill value form
      ↔ value = name ∨ ¬HasStray name form := by
  constructor
  · intro h
    refine Decidable.or_iff_not_imp_left.2 fun hvalue => ?_
    induction form using form_induction hname with
    | nil => exact not_hasStray_nil hname.ne_nil
    | place form ih =>
      rw [replaceAll_fill_place hname.ne_nil, fill_place] at h
      rw [hasStray_place_iff hname]
      exact ih (List.append_cancel_left h)
    | char c form hc ih =>
      rw [replaceAll_fill_char hc, fill_char] at h
      rw [hasStray_char_iff, not_or]
      exact ⟨hc, ih (List.cons.inj h).2⟩
    | stray form => exact absurd (value_eq_of_stray hname h) hvalue
  · rintro (rfl | h)
    · exact replaceAll_fill_self hname form
    · exact replaceAll_fill hname h

end

end Docroot.Text

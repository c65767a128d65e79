/-!
# Text and octets

What the server reads and writes is one of two things: a *text*, a list of characters, or a string
of *octets*. Both are plain lists here, so that every function on them is a recursion on the data.
This file holds the few list operations that the rest is built from: cutting at a separator,
replacing a pattern, padding, and looking up under a key.
-/

namespace Docroot

/-- A text: its characters, in order. -/
abbrev Text := List Char

/-- A string of octets. -/
abbrev Bytes := List UInt8

/-! ## 1. Cutting -/

/-- The pieces of a list between the occurrences of `sep`: one more than there are separators, so
    never none. -/
def cutAt {α : Type} [DecidableEq α] (sep : α) : List α → List (List α)
  | [] => [[]]
  | x :: rest =>
    if x = sep then [] :: cutAt sep rest
    else match cutAt sep rest with
      | [] => [[x]]
      | piece :: pieces => (x :: piece) :: pieces

theorem cutAt_ne_nil {α : Type} [DecidableEq α] (sep : α) (s : List α) : cutAt sep s ≠ [] := by
  cases s with
  | nil => simp [cutAt]
  | cons x rest =>
    unfold cutAt
    split
    · simp
    · split <;> simp

/-- **No piece holds the separator.** -/
theorem not_mem_of_mem_cutAt {α : Type} [DecidableEq α] (sep : α) (s : List α) :
    ∀ piece ∈ cutAt sep s, sep ∉ piece := by
  induction s with
  | nil => simp [cutAt]
  | cons x rest ih =>
    unfold cutAt
    split
    · rename_i h
      intro piece hp
      rcases List.mem_cons.1 hp with rfl | hp
      · simp
      · exact ih piece hp
    · rename_i h
      split
      · rename_i hnil
        exact absurd hnil (cutAt_ne_nil sep rest)
      · rename_i first others heq
        intro piece hp
        rcases List.mem_cons.1 hp with rfl | hp
        · have := ih first (by simp [heq])
          simp only [List.mem_cons, not_or]
          exact ⟨fun h' => h h'.symm, this⟩
        · exact ih piece (by simp [heq, hp])

/-- Cutting at a separator that stands between two lists cuts each of them. -/
theorem cutAt_append_sep {α : Type} [DecidableEq α] (sep : α) (s t : List α) :
    cutAt sep (s ++ sep :: t) = cutAt sep s ++ cutAt sep t := by
  induction s with
  | nil => simp [cutAt]
  | cons x rest ih =>
    rw [List.cons_append, cutAt, cutAt]
    split
    · rw [ih]
      rfl
    · rw [ih]
      cases hc : cutAt sep rest with
      | nil => exact absurd hc (cutAt_ne_nil sep rest)
      | cons piece pieces => rfl

/-- A list without the separator is one piece. -/
theorem cutAt_of_not_mem {α : Type} [DecidableEq α] {sep : α} {s : List α} (h : sep ∉ s) :
    cutAt sep s = [s] := by
  induction s with
  | nil => rfl
  | cons x rest ih =>
    rw [List.mem_cons, not_or] at h
    rw [cutAt, if_neg (Ne.symm h.1), ih h.2]

/-- What stands in front without the separator belongs to the first piece. -/
theorem cutAt_append_of_not_mem {α : Type} [DecidableEq α] {sep : α} {s : List α} (h : sep ∉ s)
    {t first : List α} {pieces : List (List α)} (ht : cutAt sep t = first :: pieces) :
    cutAt sep (s ++ t) = (s ++ first) :: pieces := by
  induction s with
  | nil => exact ht
  | cons x rest ih =>
    rw [List.mem_cons, not_or] at h
    rw [List.cons_append, cutAt, if_neg (Ne.symm h.1), ih h.2]
    rfl

/-- What is put together begins with the first piece and, where more follow, the separator. -/
theorem intercalate_cons_cons {α : Type} {sep : α} (first second : List α) (pieces : List (List α)) :
    [sep].intercalate (first :: second :: pieces)
      = first ++ sep :: [sep].intercalate (second :: pieces) := by
  rw [List.intercalate_cons_cons, List.append_assoc, List.singleton_append]

/-- **Pieces without the separator, put together with it between them, are cut apart again.** -/
theorem cutAt_intercalate {α : Type} [DecidableEq α] {sep : α} :
    ∀ (pieces : List (List α)), pieces ≠ [] → (∀ piece ∈ pieces, sep ∉ piece) →
      cutAt sep ([sep].intercalate pieces) = pieces
  | [], h, _ => absurd rfl h
  | [piece], _, h => by
    rw [List.intercalate_singleton]
    exact cutAt_of_not_mem (h piece (List.mem_singleton_self piece))
  | first :: second :: pieces, _, h => by
    have ih := cutAt_intercalate (second :: pieces) (by simp)
      (fun piece hp => h piece (List.mem_cons_of_mem _ hp))
    rw [intercalate_cons_cons, cutAt_append_sep, cutAt_of_not_mem (h first (by simp)), ih]
    rfl

/-- **The pieces of a list, put together again, are the list.** -/
theorem intercalate_cutAt {α : Type} [DecidableEq α] (sep : α) (s : List α) :
    [sep].intercalate (cutAt sep s) = s := by
  induction s with
  | nil => rfl
  | cons x rest ih =>
    obtain ⟨first, pieces, hcut⟩ := List.exists_cons_of_ne_nil (cutAt_ne_nil sep rest)
    rw [hcut] at ih
    unfold cutAt
    rw [hcut]
    by_cases hx : x = sep
    · rw [if_pos hx, intercalate_cons_cons, ih, hx, List.nil_append]
    · rw [if_neg hx]
      cases pieces with
      | nil =>
        rw [List.intercalate_singleton] at ih
        rw [List.intercalate_singleton, ih]
      | cons second pieces =>
        rw [intercalate_cons_cons] at ih
        rw [intercalate_cons_cons, List.cons_append, ih]

/-- What is put together holds the separator, and what the pieces hold. -/
theorem mem_intercalate {α : Type} {sep x : α} {pieces : List (List α)}
    (h : x ∈ [sep].intercalate pieces) : x = sep ∨ ∃ piece ∈ pieces, x ∈ piece := by
  induction pieces with
  | nil => cases h
  | cons first pieces ih =>
    cases pieces with
    | nil =>
      rw [List.intercalate_singleton] at h
      exact Or.inr ⟨first, List.mem_cons_self, h⟩
    | cons second pieces =>
      rw [intercalate_cons_cons, List.mem_append, List.mem_cons] at h
      rcases h with hfirst | hsep | hrest
      · exact Or.inr ⟨first, List.mem_cons_self, hfirst⟩
      · exact Or.inl hsep
      · rcases ih hrest with hsep | ⟨piece, hpiece, hx⟩
        · exact Or.inl hsep
        · exact Or.inr ⟨piece, List.mem_cons_of_mem _ hpiece, hx⟩

/-- What stands before the first `sep`, and what stands after it; the second is none where `sep`
    does not occur. -/
def cutFirst {α : Type} [DecidableEq α] (sep : α) (s : List α) : List α × Option (List α) :=
  match s.dropWhile (· ≠ sep) with
  | [] => (s, none)
  | _ :: after => (s.takeWhile (· ≠ sep), some after)

theorem takeWhile_ne_append {α : Type} [DecidableEq α] {sep : α} {s : List α} (h : sep ∉ s)
    (t : List α) : (s ++ t).takeWhile (· ≠ sep) = s ++ t.takeWhile (· ≠ sep) := by
  apply List.takeWhile_append_of_pos
  intro x hx
  have : x ≠ sep := fun e => h (e ▸ hx)
  simpa using this

theorem dropWhile_ne_append {α : Type} [DecidableEq α] {sep : α} {s : List α} (h : sep ∉ s)
    (t : List α) : (s ++ t).dropWhile (· ≠ sep) = t.dropWhile (· ≠ sep) := by
  apply List.dropWhile_append_of_pos
  intro x hx
  have : x ≠ sep := fun e => h (e ▸ hx)
  simpa using this

theorem cutFirst_of_not_mem {α : Type} [DecidableEq α] {sep : α} {s : List α} (h : sep ∉ s) :
    cutFirst sep s = (s, none) := by
  have hdrop := dropWhile_ne_append h []
  rw [List.append_nil, List.dropWhile_nil] at hdrop
  unfold cutFirst
  rw [hdrop]

/-- A separator ends the first piece. -/
theorem cutFirst_append_sep {α : Type} [DecidableEq α] {sep : α} {s : List α} (h : sep ∉ s)
    (t : List α) : cutFirst sep (s ++ sep :: t) = (s, some t) := by
  unfold cutFirst
  rw [dropWhile_ne_append h, takeWhile_ne_append h]
  simp

/-- Lists without a separator, each with it and something behind it: if these are equal, so are the
    lists, and so is what is behind them. -/
theorem append_mark_inj {α : Type} [DecidableEq α] {mark : α} {s₁ s₂ t₁ t₂ : List α}
    (h₁ : mark ∉ s₁) (h₂ : mark ∉ s₂) (h : s₁ ++ mark :: t₁ = s₂ ++ mark :: t₂) :
    s₁ = s₂ ∧ t₁ = t₂ := by
  have hcut := congrArg (cutFirst mark) h
  rw [cutFirst_append_sep h₁, cutFirst_append_sep h₂, Prod.mk.injEq, Option.some_inj] at hcut
  exact hcut

/-! ## 2. Replacing -/

namespace Text

/-- The replacement, where the next `skip` characters belong to an occurrence already replaced. -/
def replaceAfter (pattern value : Text) : Nat → Text → Text
  | _, [] => []
  | skip + 1, _ :: rest => replaceAfter pattern value skip rest
  | 0, c :: rest =>
    if pattern ≠ [] ∧ pattern.isPrefixOf (c :: rest) then
      value ++ replaceAfter pattern value (pattern.length - 1) rest
    else c :: replaceAfter pattern value 0 rest

/-- Every occurrence of `pattern`, from the left and without overlap, gives way to `value`. The
    value is not searched. An empty pattern occurs nowhere. -/
def replaceAll (pattern value : Text) (s : Text) : Text := replaceAfter pattern value 0 s

/-! ## 3. Padding, letters and order -/

/-- At least `width` characters: `fill` is put in front as often as needed. -/
def padLeft (width : Nat) (fill : Char) (s : Text) : Text :=
  List.replicate (width - s.length) fill ++ s

/-- ASCII capitals give way to their small letters; everything else stays. -/
def lowerAscii (s : Text) : Text := s.map Char.toLower

/-- Not after, character by character in the order of code points; what begins another text comes
    before it. -/
def le : Text → Text → Bool
  | [], _ => true
  | _ :: _, [] => false
  | c :: s, d :: t => c.toNat < d.toNat || (c == d && le s t)

/-- Equal up to ASCII case. -/
def eqIgnoringCase (s t : Text) : Bool := lowerAscii s == lowerAscii t

end Text

/-! ## 4. Looking up -/

/-- Where no two keys are the same, an entry is what is found under its key. -/
theorem lookup_of_mem {α β : Type} [BEq α] [LawfulBEq α] {entries : List (α × β)}
    (hnodup : (entries.map (·.1)).Nodup) {e : α × β} (h : e ∈ entries) :
    entries.lookup e.1 = some e.2 := by
  induction entries with
  | nil => cases h
  | cons first rest ih =>
    obtain ⟨hfirst, hrest⟩ := List.nodup_cons.1 hnodup
    rcases List.mem_cons.1 h with rfl | hmem
    · exact List.lookup_cons_self
    · have hne : e.1 ≠ first.1 := fun heq => hfirst (List.mem_map.2 ⟨e, hmem, heq⟩)
      rw [List.lookup_cons, beq_false_of_ne hne]
      exact ih hrest hmem

theorem mem_of_lookup {α β : Type} [BEq α] [LawfulBEq α] {entries : List (α × β)} {k : α} {v : β}
    (h : entries.lookup k = some v) : (k, v) ∈ entries := by
  obtain ⟨before, after, rfl, -⟩ := List.lookup_eq_some_iff.1 h
  simp

/-- **Where no two keys are the same, the order of the entries does not matter.** -/
theorem lookup_eq_of_perm {α β : Type} [BEq α] [LawfulBEq α] {entries others : List (α × β)}
    (hperm : others.Perm entries) (hnodup : (entries.map (·.1)).Nodup) (k : α) :
    others.lookup k = entries.lookup k := by
  cases hlook : entries.lookup k with
  | some v =>
    have hnodup' : (others.map (·.1)).Nodup := (hperm.map _).nodup_iff.2 hnodup
    exact lookup_of_mem hnodup' (hperm.mem_iff.2 (mem_of_lookup hlook))
  | none =>
    rw [List.lookup_eq_none_iff] at hlook ⊢
    exact fun e he => hlook e (hperm.mem_iff.1 he)

end Docroot

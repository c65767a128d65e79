import Docroot.Html

/-!
# Text inside HTML is inert, and comes back

An escaped text holds no angle bracket and no quote (`notMem_escape`), so it can neither end the tag
or the attribute that it stands in nor begin another; and each ampersand in it begins an entity
(`entity_of_ampersand`). Reading the entities in one pass gives the text back (`unescape_escape`), also
one that looks like an entity itself.

A page is taken apart at its tags into *pieces*, each a tag and the text behind it. A page that was
put together from pieces without stray angle brackets comes apart into the same pieces
(`pieces_ofPieces`), so two such pages are equal only if their pieces are.
-/

namespace Docroot.Html

/-! ## 1. Escaping -/

/-- The entities, and what they stand for. -/
def entities : List (Text × Char) :=
  [("&amp;".toList, '&'), ("&lt;".toList, '<'), ("&gt;".toList, '>'), ("&quot;".toList, '"'),
   ("&#x27;".toList, '\'')]

/-- A character is written as its entity, or it is written as itself and is not one of the five. -/
theorem escapeChar_cases (c : Char) :
    (escapeChar c, c) ∈ entities ∨ escapeChar c = [c] ∧ ∀ entry ∈ entities, c ≠ entry.2 := by
  unfold escapeChar
  split
  · next h => subst h; exact Or.inl (by decide)
  · split
    · next h => subst h; exact Or.inl (by decide)
    · split
      · next h => subst h; exact Or.inl (by decide)
      · split
        · next h => subst h; exact Or.inl (by decide)
        · split
          · next h => subst h; exact Or.inl (by decide)
          · refine Or.inr ⟨rfl, ?_⟩
            simp [entities, *]

/-- An angle bracket or a quote. -/
def isMarkup (c : Char) : Bool := c == '<' || c == '>' || c == '"' || c == '\''

/-- **An escaped text holds no angle bracket and no quote.** -/
theorem notMem_escape {c : Char} (hc : isMarkup c = true) (s : Text) : c ∉ escape s := by
  have hentity : ∀ entry ∈ entities, entry.1.all (!isMarkup ·) = true := by decide
  intro hmem
  obtain ⟨d, -, hd⟩ := List.mem_flatMap.1 hmem
  rcases escapeChar_cases d with hd' | ⟨hself, hother⟩
  · have hfree := List.all_eq_true.1 (hentity _ hd') c hd
    rw [hc] at hfree
    cases hfree
  · rw [hself, List.mem_singleton] at hd
    subst hd
    simp [entities] at hother
    simp [isMarkup, hother] at hc

/-- **Every ampersand of an escaped text begins an entity.** -/
theorem entity_of_ampersand {s before after : Text} (h : escape s = before ++ '&' :: after) :
    ∃ entry ∈ entities, entry.1 <+: '&' :: after := by
  have htail : ∀ entry ∈ entities, '&' ∉ entry.1.tail := by decide
  induction s generalizing before with
  | nil => exact absurd h.symm (by simp [escape])
  | cons c s ih =>
    have hcons : escape (c :: s) = escapeChar c ++ escape s := List.flatMap_cons
    rw [hcons] at h
    rcases List.append_eq_append_iff.1 h with ⟨rest, -, hrest⟩ | ⟨rest, hchar, hrest⟩
    · exact ih hrest
    · -- the ampersand is in what is written for `c`, or it comes right behind it
      cases rest with
      | nil =>
        have hnone : escape s = [] ++ '&' :: after := hrest.symm
        exact ih hnone
      | cons d rest =>
        rw [List.cons_append, List.cons.injEq] at hrest
        obtain ⟨rfl, hafter⟩ := hrest
        rcases escapeChar_cases c with hentity | ⟨hself, hother⟩
        · cases before with
          | nil => exact ⟨_, hentity, by rw [hchar, hafter]; exact List.prefix_append _ _⟩
          | cons e before =>
            have hinside := htail _ hentity
            rw [hchar, List.cons_append, List.tail_cons] at hinside
            exact absurd (List.mem_append_right _ List.mem_cons_self) hinside
        · have hmem : '&' ∈ escapeChar c := by simp [hchar]
          rw [hself, List.mem_singleton] at hmem
          exact absurd hmem.symm (hother ("&amp;".toList, '&') (by decide))

/-! ## 2. Unescaping -/

/-- The text with its entities read, where the next `skip` characters belong to one already read. -/
def unescapeAfter : Nat → Text → Text
  | _, [] => []
  | skip + 1, _ :: rest => unescapeAfter skip rest
  | 0, c :: rest =>
    match entities.find? (·.1.isPrefixOf (c :: rest)) with
    | some (name, d) => d :: unescapeAfter (name.length - 1) rest
    | none => c :: unescapeAfter 0 rest

/-- **The text with its entities read**, in one pass from the left. -/
def unescape (s : Text) : Text := unescapeAfter 0 s

theorem unescapeAfter_length (s rest : Text) :
    unescapeAfter s.length (s ++ rest) = unescape rest := by
  induction s with
  | nil => rfl
  | cons c s ih => exact ih

/-- No entity begins another. -/
theorem find?_entity {name : Text} {c : Char} (h : (name, c) ∈ entities) (rest : Text) :
    entities.find? (·.1.isPrefixOf (name ++ rest)) = some (name, c) := by
  simp only [entities, String.reduceToList] at h ⊢
  simp only [List.mem_cons, Prod.mk.injEq, List.not_mem_nil, or_false] at h
  rcases h with ⟨rfl, rfl⟩ | ⟨rfl, rfl⟩ | ⟨rfl, rfl⟩ | ⟨rfl, rfl⟩ | ⟨rfl, rfl⟩ <;>
    simp [List.isPrefixOf]

theorem unescape_entity {name : Text} {c : Char} (h : (name, c) ∈ entities) (rest : Text) :
    unescape (name ++ rest) = c :: unescape rest := by
  have hfind := find?_entity h rest
  cases name with
  | nil => exact absurd h (by simp [entities])
  | cons d name =>
    unfold unescape
    rw [List.cons_append] at hfind ⊢
    rw [unescapeAfter, hfind]
    exact congrArg (c :: ·) (unescapeAfter_length name rest)

theorem unescape_cons_of_ne {c : Char} (h : c ≠ '&') (rest : Text) :
    unescape (c :: rest) = c :: unescape rest := by
  have hnone : entities.find? (·.1.isPrefixOf (c :: rest)) = none := by
    simp [entities, List.isPrefixOf, h.symm]
  unfold unescape
  rw [unescapeAfter, hnone]

/-- **A text comes back from its escaped form.** -/
theorem unescape_escape (s : Text) : unescape (escape s) = s := by
  induction s with
  | nil => rfl
  | cons c s ih =>
    unfold escape at ih ⊢
    rw [List.flatMap_cons]
    rcases escapeChar_cases c with hentity | ⟨hself, hother⟩
    · rw [unescape_entity hentity, ih]
    · rw [hself, List.singleton_append,
        unescape_cons_of_ne (hother ("&amp;".toList, '&') (by decide)), ih]

theorem escape_injective : Function.Injective escape :=
  Function.LeftInverse.injective unescape_escape

/-! ## 3. Pages in pieces -/

/-- A tag, without its angle brackets, and the text behind it. -/
abbrev Piece := Text × Text

/-- The page of pieces. -/
def ofPieces (ps : List Piece) : Text := ps.flatMap fun p => '<' :: p.1 ++ '>' :: p.2

/-- What stands behind a `<`, cut at the first `>`. -/
def pieceOf (s : Text) : Piece := (s.takeWhile (· ≠ '>'), (s.dropWhile (· ≠ '>')).tail)

/-- The pieces of a page. -/
def pieces (page : Text) : List Piece := (cutAt '<' page).tail.map pieceOf

/-- The tags of a page. -/
def tags (page : Text) : List Text := (pieces page).map (·.1)

/-- A piece with no angle bracket but those of its tag; in the text `>` is no harm. -/
def IsClean (p : Piece) : Prop := '<' ∉ p.1 ∧ '>' ∉ p.1 ∧ '<' ∉ p.2

instance (p : Piece) : Decidable (IsClean p) := inferInstanceAs (Decidable (_ ∧ _ ∧ _))

theorem ofPieces_cons (p : Piece) (ps : List Piece) :
    ofPieces (p :: ps) = '<' :: (p.1 ++ '>' :: p.2 ++ ofPieces ps) := rfl

theorem ofPieces_append (ps qs : List Piece) : ofPieces (ps ++ qs) = ofPieces ps ++ ofPieces qs :=
  List.flatMap_append

/-- At its `<` a page comes apart into its pieces. -/
theorem cutAt_ofPieces {ps : List Piece} (h : ∀ p ∈ ps, IsClean p) :
    cutAt '<' (ofPieces ps) = [] :: ps.map fun p => p.1 ++ '>' :: p.2 := by
  induction ps with
  | nil => rfl
  | cons p ps ih =>
    obtain ⟨htag, -, htext⟩ := h p (List.mem_cons_self ..)
    have hnone : '<' ∉ p.1 ++ '>' :: p.2 := by
      rw [List.mem_append, List.mem_cons]
      rintro (hmem | hmem | hmem)
      · exact htag hmem
      · cases hmem
      · exact htext hmem
    have ih := ih fun q hq => h q (List.mem_cons_of_mem _ hq)
    rw [ofPieces_cons, cutAt, if_pos rfl, cutAt_append_of_not_mem hnone ih, List.append_nil,
      List.map_cons]

theorem pieceOf_piece {p : Piece} (h : '>' ∉ p.1) : pieceOf (p.1 ++ '>' :: p.2) = p := by
  unfold pieceOf
  rw [takeWhile_ne_append h, dropWhile_ne_append h]
  simp

/-- **A page comes apart into the pieces that it was put together from.** -/
theorem pieces_ofPieces {ps : List Piece} (h : ∀ p ∈ ps, IsClean p) : pieces (ofPieces ps) = ps := by
  unfold pieces
  rw [cutAt_ofPieces h, List.tail_cons, List.map_map]
  calc ps.map (pieceOf ∘ fun p => p.1 ++ '>' :: p.2)
      = ps.map id := List.map_congr_left fun p hp => pieceOf_piece (h p hp).2.1
    _ = ps := List.map_id ps

/-- Its tags are those of the pieces. -/
theorem tags_ofPieces {ps : List Piece} (h : ∀ p ∈ ps, IsClean p) :
    tags (ofPieces ps) = ps.map (·.1) := by
  unfold tags
  rw [pieces_ofPieces h]

/-- **Equal pages have equal pieces.** -/
theorem eq_of_ofPieces {ps qs : List Piece} (hps : ∀ p ∈ ps, IsClean p) (hqs : ∀ q ∈ qs, IsClean q)
    (h : ofPieces ps = ofPieces qs) : ps = qs := by
  rw [← pieces_ofPieces hps, h, pieces_ofPieces hqs]

end Docroot.Html

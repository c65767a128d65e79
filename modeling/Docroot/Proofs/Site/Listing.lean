import Docroot.Proofs.Html
import Docroot.Proofs.Site.Links

/-!
# A listing tells its entries and its target

The page of a directory is taken apart at its tags. Its head and its foot are fixed but for the
title, and each entry has four pieces (`listingPage_eq`); neither a name nor a target brings in an
angle bracket, since both are coded before they are put in. So the page has as many tags as its
entries call for (`tags_listingPage`), and two equal pages have the same title and row by row the same
link and the same name shown.

A link and a name shown tell the entry (`Entry.eq_of_link_of_displayName`). Neither is enough by
itself: `a@` is shown for a link to a file `a` and for a file of that name, and the link is `a` for
a file and for what links to one.
-/

namespace Docroot.Site

open Docroot.Html (Piece IsClean ofPieces tags)

/-! ## 1. What tells an entry -/

/-- What is shown behind a name. -/
def Entry.suffix (isDir : Bool) : Bool → Text
  | true => ['@']
  | false => if isDir then ['/'] else []

theorem Entry.displayName_eq (e : Entry) :
    e.displayName = e.name ++ suffix e.isDir e.isSymlink := by
  unfold displayName suffix
  cases e.isSymlink <;> cases e.isDir <;> simp

theorem Entry.suffix_injective (isDir : Bool) : Function.Injective (suffix isDir) := by
  cases isDir <;> decide

theorem Entry.eq_of_link_of_displayName {d e : Entry} (hd : '/' ∉ d.name) (he : '/' ∉ e.name)
    (hlink : d.link = e.link) (hshown : d.displayName = e.displayName) : d = e := by
  have hdir : d.isDir = e.isDir := by
    rw [← getLast?_link hd, ← getLast?_link he, hlink]
  have hname : d.name = e.name := by
    unfold Entry.link at hlink
    rw [hdir] at hlink
    split at hlink
    · exact List.append_cancel_right hlink
    · exact hlink
  have hsymlink : d.isSymlink = e.isSymlink := by
    rw [displayName_eq, displayName_eq, hname, hdir] at hshown
    exact suffix_injective e.isDir (List.append_cancel_left hshown)
  cases d
  cases e
  cases hname
  cases hdir
  cases hsymlink
  rfl

/-! ## 2. The pieces of a listing -/

/-- The pieces of an entry's row. -/
def Entry.pieces (e : Entry) : List Piece :=
  [("li".toList, []), ("a href=\"".toList ++ Percent.encode e.link ++ ['"'], Html.escape e.displayName),
    ("/a".toList, []), ("/li".toList, ['\n'])]

/-- The pieces before the rows. -/
def headPieces (title : Text) : List Piece :=
  [("!DOCTYPE HTML".toList, ['\n']), ("html lang=\"en\"".toList, ['\n']), ("head".toList, ['\n']),
    ("meta charset=\"utf-8\"".toList, ['\n']), ("title".toList, title), ("/title".toList, ['\n']),
    ("/head".toList, ['\n']), ("body".toList, ['\n']), ("h1".toList, title), ("/h1".toList, ['\n']),
    ("hr".toList, ['\n']), ("ul".toList, ['\n'])]

/-- The pieces behind the rows. -/
def footPieces : List Piece :=
  [("/ul".toList, ['\n']), ("hr".toList, ['\n']), ("/body".toList, ['\n']), ("/html".toList, ['\n'])]

/-- The pieces of a listing. -/
def listingPieces (target : Text) (entries : List Entry) : List Piece :=
  headPieces (listingTitle target) ++ (entries.flatMap Entry.pieces ++ footPieces)

theorem Entry.row_eq (e : Entry) : e.row = ofPieces e.pieces := by
  unfold Entry.row Entry.pieces
  simp only [String.reduceToList]
  simp [ofPieces]

theorem listingHead_eq (target : Text) :
    listingHead target = ofPieces (headPieces (listingTitle target)) := by
  unfold listingHead headPieces
  simp only [String.reduceToList]
  simp [ofPieces]

theorem flatMap_row_eq (entries : List Entry) :
    entries.flatMap Entry.row = ofPieces (entries.flatMap Entry.pieces) := by
  induction entries with
  | nil => rfl
  | cons e entries ih =>
    rw [List.flatMap_cons, List.flatMap_cons, Html.ofPieces_append, Entry.row_eq, ih]

/-- **A listing is made of its pieces.** -/
theorem listingPage_eq (target : Text) (entries : List Entry) :
    listingPage target entries = ofPieces (listingPieces target entries) := by
  have hfoot : listingFoot = ofPieces footPieces := by rfl
  unfold listingPage listingPieces
  rw [Html.ofPieces_append, Html.ofPieces_append, listingHead_eq, flatMap_row_eq, hfoot,
    List.append_assoc]

theorem notMem_listingTitle (target : Text) : '<' ∉ listingTitle target := by
  unfold listingTitle
  rw [List.mem_append]
  rintro (hmem | hmem)
  · exact absurd hmem (by decide)
  · exact Html.notMem_escape (by decide) _ hmem

theorem isClean_of_mem_pieces {e : Entry} : ∀ p ∈ e.pieces, IsClean p := by
  have hopen : '<' ∉ Percent.encode e.link := Percent.notMem_encode (by decide) _
  have hclose : '>' ∉ Percent.encode e.link := Percent.notMem_encode (by decide) _
  have hshown : '<' ∉ Html.escape e.displayName := Html.notMem_escape (by decide) _
  simp [Entry.pieces, IsClean, hopen, hclose, hshown]

/-- **No name and no target brings an angle bracket into a listing.** -/
theorem isClean_of_mem_listingPieces (target : Text) (entries : List Entry) :
    ∀ p ∈ listingPieces target entries, IsClean p := by
  have hhead : ∀ p ∈ headPieces (listingTitle target), IsClean p := by
    simp [headPieces, IsClean, notMem_listingTitle]
  have hfoot : ∀ p ∈ footPieces, IsClean p := by
    simp [footPieces, IsClean]
  intro p hp
  unfold listingPieces at hp
  rw [List.mem_append, List.mem_append, List.mem_flatMap] at hp
  rcases hp with hp | ⟨e, -, hp⟩ | hp
  · exact hhead p hp
  · exact isClean_of_mem_pieces p hp
  · exact hfoot p hp

/-! ## 3. What a listing tells -/

theorem listingTitle_injective {t₁ t₂ : Text} (h : listingTitle t₁ = listingTitle t₂) :
    Percent.decode t₁ = Percent.decode t₂ :=
  Html.escape_injective (List.append_cancel_left h)

theorem headPieces_injective {title₁ title₂ : Text} (h : headPieces title₁ = headPieces title₂) :
    title₁ = title₂ := by
  simp only [headPieces, List.cons.injEq, Prod.mk.injEq] at h
  exact h.2.2.2.2.1.2

/-- The pieces of a row tell its entry. -/
theorem Entry.pieces_injective {d e : Entry} (hd : '/' ∉ d.name) (he : '/' ∉ e.name)
    (h : d.pieces = e.pieces) : d = e := by
  simp only [pieces, List.cons.injEq, Prod.mk.injEq] at h
  obtain ⟨-, ⟨htag, hshown⟩, -⟩ := h
  have hlink : Percent.encode d.link = Percent.encode e.link :=
    List.append_cancel_left (List.append_cancel_right htag)
  refine Entry.eq_of_link_of_displayName hd he ?_ (Html.escape_injective hshown)
  rw [← Percent.decode_encode d.link, hlink, Percent.decode_encode]

/-- The pieces of the rows tell the entries, each row having as many pieces as any other. -/
theorem eq_of_flatMap_pieces {es₁ es₂ : List Entry} (h₁ : ∀ e ∈ es₁, '/' ∉ e.name)
    (h₂ : ∀ e ∈ es₂, '/' ∉ e.name)
    (h : es₁.flatMap Entry.pieces = es₂.flatMap Entry.pieces) : es₁ = es₂ := by
  induction es₁ generalizing es₂ with
  | nil =>
    cases es₂ with
    | nil => rfl
    | cons e es₂ => cases h
  | cons d es₁ ih =>
    cases es₂ with
    | nil => cases h
    | cons e es₂ =>
      rw [List.flatMap_cons, List.flatMap_cons] at h
      obtain ⟨hrow, hrows⟩ := List.append_inj h rfl
      rw [List.forall_mem_cons] at h₁ h₂
      rw [Entry.pieces_injective h₁.1 h₂.1 hrow, ih h₁.2 h₂.2 hrows]

/-- **Equal listings have equal entries and equal targets**, decoded. -/
theorem listingPage_inj {t₁ t₂ : Text} {es₁ es₂ : List Entry} (h₁ : ∀ e ∈ es₁, '/' ∉ e.name)
    (h₂ : ∀ e ∈ es₂, '/' ∉ e.name) (h : listingPage t₁ es₁ = listingPage t₂ es₂) :
    es₁ = es₂ ∧ Percent.decode t₁ = Percent.decode t₂ := by
  rw [listingPage_eq, listingPage_eq] at h
  have hpieces := Html.eq_of_ofPieces (isClean_of_mem_listingPieces t₁ es₁)
    (isClean_of_mem_listingPieces t₂ es₂) h
  unfold listingPieces at hpieces
  obtain ⟨hhead, hrest⟩ := List.append_inj hpieces rfl
  exact ⟨eq_of_flatMap_pieces h₁ h₂ (List.append_cancel_right hrest),
    listingTitle_injective (headPieces_injective hhead)⟩

/-! ## 4. What a listing has besides -/

/-- The tags of an entry's row. -/
def Entry.tags (e : Entry) : List Text :=
  ["li".toList, "a href=\"".toList ++ Percent.encode e.link ++ ['"'], "/a".toList, "/li".toList]

/-- **A listing has the tags of an empty one, and those of its rows.** -/
theorem tags_listingPage (target : Text) (entries : List Entry) :
    tags (listingPage target entries)
      = (headPieces []).map (·.1) ++ entries.flatMap Entry.tags ++ footPieces.map (·.1) := by
  have hrows : (entries.flatMap Entry.pieces).map (·.1) = entries.flatMap Entry.tags :=
    List.map_flatMap
  rw [listingPage_eq, Html.tags_ofPieces (isClean_of_mem_listingPieces target entries)]
  unfold listingPieces
  rw [List.map_append, List.map_append, hrows, List.append_assoc]
  rfl

section

variable {c : Char} (hmarkup : Html.isMarkup c = true)
include hmarkup

theorem count_escape (s : Text) : (Html.escape s).count c = 0 :=
  List.count_eq_zero.2 (Html.notMem_escape hmarkup s)

theorem count_listingHead (target : Text) :
    (listingHead target).count c = (listingHead []).count c := by
  unfold listingHead listingTitle
  simp only [List.count_append, count_escape hmarkup]

variable (hcoded : Percent.isCoded c = false)
include hcoded

/-- Of the characters that make tags and attributes, the rows of all entries have as many. -/
theorem count_row (e : Entry) : e.row.count c = (Entry.mk [] false false).row.count c := by
  have hencode : ∀ s, (Percent.encode s).count c = 0 := fun s =>
    List.count_eq_zero.2 (Percent.notMem_encode hcoded s)
  unfold Entry.row
  simp only [List.count_append, hencode, count_escape hmarkup]

/-- **How many of them a listing has depends on the number of entries alone.** -/
theorem count_listingPage (target : Text) (entries : List Entry) :
    (listingPage target entries).count c
      = (listingPage [] []).count c + (Entry.mk [] false false).row.count c * entries.length := by
  have hrows : (entries.flatMap Entry.row).count c
      = (Entry.mk [] false false).row.count c * entries.length := by
    induction entries with
    | nil => rfl
    | cons e entries ih =>
      rw [List.flatMap_cons, List.count_append, count_row hmarkup hcoded, ih, List.length_cons,
        Nat.mul_succ, Nat.add_comm]
  unfold listingPage
  rw [List.count_append, List.count_append, List.count_append, List.count_append,
    count_listingHead hmarkup, hrows, List.flatMap_nil, List.count_nil]
  omega

end

/-- **A listing tells its entries and its target, and neither adds anything to it.** Where names
    have no slash, two listings are equal exactly if their entries are, flags and order included,
    and their targets decode to the same text. A listing has four tags for each entry besides
    those of an empty one, two quotes for each and no more, which stand around the link. -/
theorem listing_tells_entries :
    (∀ (t₁ t₂ : Text) (es₁ es₂ : List Entry),
      (∀ e ∈ es₁, '/' ∉ e.name) → (∀ e ∈ es₂, '/' ∉ e.name) →
      (listingPage t₁ es₁ = listingPage t₂ es₂
        ↔ es₁ = es₂ ∧ Percent.decode t₁ = Percent.decode t₂))
    ∧ ∀ (target : Text) (entries : List Entry),
      (listingPage target entries).count '<' = 16 + 4 * entries.length
      ∧ (listingPage target entries).count '"' = 4 + 2 * entries.length
      ∧ tags (listingPage target entries)
          = (headPieces []).map (·.1) ++ entries.flatMap Entry.tags ++ footPieces.map (·.1) := by
  have hangles : (listingPage [] []).count '<' = 16 := by decide +kernel
  have hquotes : (listingPage [] []).count '"' = 4 := by decide +kernel
  have hrow : (Entry.mk [] false false).row.count '<' = 4
      ∧ (Entry.mk [] false false).row.count '"' = 2 := by decide +kernel
  refine ⟨fun t₁ t₂ es₁ es₂ h₁ h₂ => ⟨listingPage_inj h₁ h₂, ?_⟩, fun target entries => ⟨?_, ?_, ?_⟩⟩
  · rintro ⟨rfl, htarget⟩
    unfold listingPage listingHead listingTitle
    rw [htarget]
  · rw [count_listingPage (by decide) (by decide), hangles, hrow.1]
  · rw [count_listingPage (by decide) (by decide), hquotes, hrow.2]
  · exact tags_listingPage target entries

/-- A link to a file shows the name that the file `a@` has, and the page tells them apart; how the
    target was coded it does not tell. -/
theorem listing_tells_link_from_marked_name :
    listingPage "/a%20b/".toList [⟨"a".toList, false, true⟩]
        = listingPage "/a b/".toList [⟨"a".toList, false, true⟩]
      ∧ listingPage "/a b/".toList [⟨"a".toList, false, true⟩]
        ≠ listingPage "/a b/".toList [⟨"a@".toList, false, false⟩] := by
  have hlink : ∀ e ∈ [Entry.mk "a".toList false true], '/' ∉ e.name := by decide
  have hfile : ∀ e ∈ [Entry.mk "a@".toList false false], '/' ∉ e.name := by decide
  constructor
  · exact (listing_tells_entries.1 _ _ _ _ hlink hlink).2 ⟨rfl, by decide +kernel⟩
  · intro h
    exact absurd ((listing_tells_entries.1 _ _ _ _ hlink hfile).1 h).1 (by decide)

end Docroot.Site

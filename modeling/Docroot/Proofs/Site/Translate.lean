import Docroot.Proofs.Files.Path
import Docroot.Proofs.Percent
import Docroot.Site.Translate

/-!
# Request paths lead down

Whatever a request path holds, escapes resolved or not, the file it is translated to is the root
with *segments* below it, and every segment is a name that leads one step down
(`translate_eq_foldl_push`, `isName_of_mem_segments`).

In the other direction every list of servable names is the list of segments of some request path:
the names escaped and joined by slashes (`segments_pathOfNames`). More generally, an escaped text
behind a path that ends in a slash adds its own names (`segments_append_encode`).

What stands before a slash and what stands behind it lead down one after the other
(`path_append_slash`), so links, redirects and index files can be followed step by step.
-/

namespace Docroot.Site

open Docroot.Path (IsName push)

/-! ## 1. Segments -/

/-- The names that a request path leads down by. -/
def segments (urlPath : Text) : List Bytes :=
  (plainNames (Percent.decode (beforeFragment urlPath))).map Utf8.encode

/-- A name that can be asked for: one plain name between two slashes. -/
structure IsServable (name : Text) : Prop where
  ne_nil : name ≠ []
  ne_dot : name ≠ ['.']
  ne_dots : name ≠ ['.', '.']
  no_slash : '/' ∉ name
  no_backslash : '\\' ∉ name

instance (name : Text) : Decidable (IsServable name) :=
  decidable_of_iff
    (name ≠ [] ∧ name ≠ ['.'] ∧ name ≠ ['.', '.'] ∧ '/' ∉ name ∧ '\\' ∉ name)
    ⟨fun ⟨h1, h2, h3, h4, h5⟩ => ⟨h1, h2, h3, h4, h5⟩,
      fun ⟨h1, h2, h3, h4, h5⟩ => ⟨h1, h2, h3, h4, h5⟩⟩

theorem IsServable.isPlainName {name : Text} (h : IsServable name) : isPlainName name = true := by
  simp [Site.isPlainName, h.ne_nil, h.ne_dot, h.ne_dots, h.no_backslash]

theorem isServable_of_mem_plainNames {decoded name : Text} (h : name ∈ plainNames decoded) :
    IsServable name := by
  unfold plainNames at h
  obtain ⟨hpiece, hplain⟩ := List.mem_filter.1 h
  simp only [isPlainName, Bool.and_eq_true, decide_eq_true_eq, Bool.not_eq_true',
    List.contains_eq_mem, decide_eq_false_iff_not] at hplain
  obtain ⟨⟨⟨h1, h2⟩, h3⟩, h4⟩ := hplain
  exact ⟨h1, h2, h3, not_mem_of_mem_cutAt '/' decoded name hpiece, h4⟩

/-- A servable name leads one step down. -/
theorem IsServable.isName {name : Text} (h : IsServable name) : IsName (Utf8.encode name) where
  ne_nil e := h.ne_nil (Utf8.encode_eq_nil.1 e)
  ne_dot e := h.ne_dot (Utf8.encode_injective (t := ['.']) e)
  ne_dots e := h.ne_dots (Utf8.encode_injective (t := ['.', '.']) e)
  no_slash hm := h.no_slash ((Utf8.mem_encode (by decide)).1 hm)

theorem IsServable.backslash_notMem {name : Text} (h : IsServable name) :
    0x5C ∉ Utf8.encode name :=
  fun hm => h.no_backslash ((Utf8.mem_encode (by decide)).1 hm)

theorem exists_of_mem_segments {urlPath : Text} {segment : Bytes} (h : segment ∈ segments urlPath) :
    ∃ name, IsServable name ∧ segment = Utf8.encode name := by
  obtain ⟨name, hname, rfl⟩ := List.mem_map.1 h
  exact ⟨name, isServable_of_mem_plainNames hname, rfl⟩

/-- **Every segment leads one step down.** -/
theorem isName_of_mem_segments {urlPath : Text} : ∀ s ∈ segments urlPath, IsName s := by
  intro s hs
  obtain ⟨name, hname, rfl⟩ := exists_of_mem_segments hs
  exact hname.isName

theorem backslash_notMem_of_mem_segments {urlPath : Text} : ∀ s ∈ segments urlPath, 0x5C ∉ s := by
  intro s hs
  obtain ⟨name, hname, rfl⟩ := exists_of_mem_segments hs
  exact hname.backslash_notMem

/-- **A request path leads to the root with its segments pushed below it**, one after the other. -/
theorem translate_eq_foldl_push (root : Path) (urlPath : Text) :
    (translate root urlPath).path = (segments urlPath).foldl push root :=
  Path.pushNames_eq_foldl (segments urlPath) root isName_of_mem_segments

/-! ## 2. A coded text behind a path -/

/-- What an escaped text never holds: the start of a fragment or of a query, and blanks. -/
theorem isCoded_spec {c : Char} (h : Percent.isCoded c = true) :
    c ≠ '#' ∧ c ≠ '?' ∧ Text.isBlank c = false :=
  Percent.forall_isCoded (P := fun c => c ≠ '#' ∧ c ≠ '?' ∧ Text.isBlank c = false)
    (by decide +kernel) h

theorem beforeFragment_of_notMem {p : Text} (h : '#' ∉ p) : beforeFragment p = p := by
  have := takeWhile_ne_append h []
  rwa [List.append_nil, List.takeWhile_nil, List.append_nil] at this

theorem notMem_append_encode {p : Text} (hp : '#' ∉ p) (s : Text) :
    '#' ∉ p ++ Percent.encode s := by
  intro h
  rcases List.mem_append.1 h with h | h
  · exact hp h
  · exact (isCoded_spec (Percent.isCoded_of_mem_encode h)).1 rfl

/-- **It asks for a directory exactly if the text ends in a slash.** -/
theorem trailingSlash_append_encode (root : Path) {p : Text} (hp : '#' ∉ p) {s : Text}
    (hs : s ≠ []) :
    (translate root (p ++ Percent.encode s)).trailingSlash = (s.getLast? == some '/') := by
  obtain ⟨front, last, hlast⟩ :=
    (List.eq_nil_or_concat (Percent.encode s)).resolve_left (Percent.encode_ne_nil hs)
  rw [List.concat_eq_append] at hlast
  have hcoded : Percent.isCoded last = true :=
    Percent.isCoded_of_mem_encode (s := s) (by rw [hlast]; simp)
  have hend : last = '/' ↔ s.getLast? = some '/' := by
    rw [← Percent.getLast?_encode_iff, hlast]
    simp
  unfold translate
  dsimp only
  rw [beforeFragment_of_notMem (notMem_append_encode hp s), hlast, ← List.append_assoc,
    Text.trimEnd_concat _ _ (isCoded_spec hcoded).2.2, List.getLast?_concat]
  rw [Bool.eq_iff_iff, beq_iff_eq, beq_iff_eq, Option.some_inj, hend]

/-- **A slash parts the names**: those before it and those behind it are found apart, also where an
    escape or a character is left unfinished before it. -/
theorem plainNames_decode_append_slash (front rest : Text) :
    plainNames (Percent.decode (front ++ '/' :: rest))
      = plainNames (Percent.decode front) ++ plainNames (Percent.decode rest) := by
  unfold plainNames
  rw [Percent.decode_append_slash, cutAt_append_sep, List.filter_append]

/-- A slash at the end leads to the same names. -/
theorem plainNames_decode_concat_slash (front : Text) :
    plainNames (Percent.decode (front ++ ['/'])) = plainNames (Percent.decode front) := by
  have hnone : plainNames (Percent.decode []) = [] := rfl
  rw [plainNames_decode_append_slash, hnone, List.append_nil]

/-- **Behind a slash, its names follow the segments of the path.** -/
theorem segments_append_encode {p : Text} (hp : '#' ∉ p) (hslash : p.getLast? = some '/')
    (s : Text) :
    segments (p ++ Percent.encode s) = segments p ++ (plainNames s).map Utf8.encode := by
  obtain ⟨front, rfl⟩ := List.getLast?_eq_some_iff.1 hslash
  unfold segments
  rw [beforeFragment_of_notMem (notMem_append_encode hp s), beforeFragment_of_notMem hp,
    List.append_assoc, List.singleton_append, plainNames_decode_append_slash,
    plainNames_decode_concat_slash, Percent.decode_encode, List.map_append]

/-- **A slash put behind a path** leads to the same file, and asks for a directory. -/
theorem translate_concat_slash (root : Path) {p : Text} (hp : '#' ∉ p) :
    translate root (p ++ ['/']) = ⟨(translate root p).path, true⟩ := by
  -- blank characters at the end of the path have the slash behind them and are not trimmed
  have hslash : '#' ∉ p ++ ['/'] := by simp [hp]
  unfold translate
  dsimp only
  rw [beforeFragment_of_notMem hslash, beforeFragment_of_notMem hp,
    plainNames_decode_concat_slash, Text.trimEnd_concat p '/' (by decide), List.getLast?_concat,
    beq_self_eq_true]

/-! ## 3. The path of given names -/

/-- The request path that asks for given names: a slash, then the names joined by slashes and
    escaped. -/
def pathOfNames (names : List Text) : Text := '/' :: Percent.encode (['/'].intercalate names)

theorem isCoded_of_mem_pathOfNames {names : List Text} {c : Char} (h : c ∈ pathOfNames names) :
    Percent.isCoded c = true := by
  rcases List.mem_cons.1 h with rfl | h
  · decide
  · exact Percent.isCoded_of_mem_encode h

theorem beforeFragment_pathOfNames (names : List Text) :
    beforeFragment (pathOfNames names) = pathOfNames names :=
  beforeFragment_of_notMem fun h => (isCoded_spec (isCoded_of_mem_pathOfNames h)).1 rfl

theorem decode_pathOfNames (names : List Text) :
    Percent.decode (pathOfNames names) = '/' :: ['/'].intercalate names := by
  unfold pathOfNames
  rw [← Percent.encode_cons_slash, Percent.decode_encode]

/-- **The segments of that path are the names.** -/
theorem segments_pathOfNames {names : List Text} (hne : names ≠ [])
    (h : ∀ name ∈ names, IsServable name) :
    segments (pathOfNames names) = names.map Utf8.encode := by
  unfold segments plainNames
  rw [beforeFragment_pathOfNames, decode_pathOfNames, ← List.nil_append ('/' :: _),
    cutAt_append_sep, cutAt_intercalate names hne fun name hname => (h name hname).no_slash]
  have hall : names.filter isPlainName = names :=
    List.filter_eq_self.2 fun name hname => (h name hname).isPlainName
  rw [List.filter_append, hall]
  rfl

theorem intercalate_ne_nil {names : List Text} (hne : names ≠ [])
    (h : ∀ name ∈ names, IsServable name) : ['/'].intercalate names ≠ [] := by
  intro e
  have hcut := cutAt_intercalate names hne fun name hname => (h name hname).no_slash
  rw [e] at hcut
  exact (h [] (by rw [← hcut]; exact List.mem_singleton_self _)).ne_nil rfl

/-- What is joined from servable names does not end in a slash. -/
theorem getLast?_intercalate : ∀ {names : List Text}, (∀ name ∈ names, IsServable name) →
    (['/'].intercalate names).getLast? ≠ some '/'
  | [], _ => fun e => by cases e
  | [name], h => fun e => by
    rw [List.intercalate_singleton] at e
    exact (h name (List.mem_singleton_self name)).no_slash (List.mem_of_getLast? e)
  | first :: second :: names, h => by
    have hrest : ∀ name ∈ second :: names, IsServable name :=
      fun name hname => h name (List.mem_cons_of_mem _ hname)
    have ih := getLast?_intercalate hrest
    have hne := intercalate_ne_nil (by simp) hrest
    rw [List.intercalate_cons_cons, List.getLast?_append,
      Option.or_of_isSome (List.getLast?_isSome.2 hne)]
    exact ih

/-- **That path asks for no directory.** -/
theorem trailingSlash_pathOfNames (root : Path) {names : List Text} (hne : names ≠ [])
    (h : ∀ name ∈ names, IsServable name) :
    (translate root (pathOfNames names)).trailingSlash = false := by
  have hslash : '#' ∉ ['/'] := by decide
  have e := trailingSlash_append_encode root hslash (intercalate_ne_nil hne h)
  rw [beq_eq_false_iff_ne.2 (getLast?_intercalate h)] at e
  exact e

/-- The path of names below a root. -/
def namesBelow (root : Path) (names : List Text) : Path := (names.map Utf8.encode).foldl push root

/-- **That path leads to the file at the names below the root.** -/
theorem translate_pathOfNames (root : Path) {names : List Text} (hne : names ≠ [])
    (h : ∀ name ∈ names, IsServable name) :
    translate root (pathOfNames names) = ⟨namesBelow root names, false⟩ := by
  have hpath := translate_eq_foldl_push root (pathOfNames names)
  rw [segments_pathOfNames hne h] at hpath
  have hslash := trailingSlash_pathOfNames root hne h
  cases ht : translate root (pathOfNames names) with
  | mk path slash =>
    rw [ht] at hpath hslash
    rw [namesBelow, ← hpath, ← hslash]

/-- Joining and writing in octets can be exchanged. -/
theorem encode_intercalate : ∀ (names : List Text),
    Utf8.encode (['/'].intercalate names) = Path.ofNames (names.map Utf8.encode)
  | [] => rfl
  | [name] => by
    unfold Path.ofNames
    rw [List.intercalate_singleton, List.map_singleton, List.intercalate_singleton]
  | first :: second :: names => by
    have ih := encode_intercalate (second :: names)
    unfold Path.ofNames at ih ⊢
    rw [List.map_cons] at ih
    rw [intercalate_cons_cons, List.map_cons, List.map_cons, intercalate_cons_cons, ← ih,
      Utf8.encode_append]
    rfl

/-- The path that is asked for bounds the request path. -/
theorem length_pathOfNames_le (root : Path) {names : List Text}
    (h : ∀ name ∈ names, IsServable name) :
    (Utf8.encode (pathOfNames names)).length ≤ 3 * (namesBelow root names).length + 1 := by
  have hascii : ∀ c ∈ pathOfNames names, c.toNat < 0x80 :=
    fun c hc => Percent.toNat_lt_of_isCoded (isCoded_of_mem_pathOfNames hc)
  have hname : ∀ n ∈ names.map Utf8.encode, IsName n := by
    intro n hn
    obtain ⟨name, hmem, rfl⟩ := List.mem_map.1 hn
    exact (h name hmem).isName
  have hjoined := Path.length_ofNames_le root hname
  have hcoded := Percent.length_encode_le (['/'].intercalate names)
  rw [encode_intercalate] at hcoded
  rw [Utf8.length_encode_ascii hascii]
  unfold pathOfNames namesBelow
  rw [List.length_cons]
  omega

/-! ## 4. Paths one behind the other -/

/-- A slash parts the segments, where no fragment begins. -/
theorem segments_append_slash {a b : Text} (ha : '#' ∉ a) (hb : '#' ∉ b) :
    segments (a ++ '/' :: b) = segments a ++ segments b := by
  have hab : '#' ∉ a ++ '/' :: b := by simp [ha, hb]
  unfold segments
  rw [beforeFragment_of_notMem hab, beforeFragment_of_notMem ha, beforeFragment_of_notMem hb,
    plainNames_decode_append_slash, List.map_append]

/-- A path behind another leads on from where the other leads. -/
theorem path_append_slash (root : Path) {a b : Text} (ha : '#' ∉ a) (hb : '#' ∉ b) :
    (translate root (a ++ '/' :: b)).path = (translate (translate root a).path b).path :=
  calc (translate root (a ++ '/' :: b)).path
      = root.pushNames (segments a ++ segments b) := by
        rw [← segments_append_slash ha hb]
        rfl
    _ = (root.pushNames (segments a)).pushNames (segments b) :=
        Path.pushNames_append root isName_of_mem_segments isName_of_mem_segments

/-- Any number of paths with slashes between lead on one after the other. -/
theorem path_intercalate (root : Path) (parts : List Text) (h : ∀ part ∈ parts, '#' ∉ part) :
    (translate root (['/'].intercalate parts)).path
      = parts.foldl (fun p part => (translate p part).path) root := by
  induction parts generalizing root with
  | nil => rfl
  | cons part parts ih =>
    obtain ⟨hpart, hparts⟩ := List.forall_mem_cons.1 h
    cases parts with
    | nil => rw [List.intercalate_singleton, List.foldl_cons, List.foldl_nil]
    | cons next parts =>
      have hrest : '#' ∉ ['/'].intercalate (next :: parts) := by
        intro hmem
        rcases mem_intercalate hmem with hslash | ⟨other, hother, hsharp⟩
        · cases hslash
        · exact hparts other hother hsharp
      rw [intercalate_cons_cons, path_append_slash root hpart hrest, ih _ hparts]
      rfl

/-- **Translation is compositional.** For paths without a fragment, what stands before a slash and
    what stands behind it are decoded apart, also where an escape or a character is left unfinished
    before it; they have their segments one after the other; and what stands behind it leads on from
    where the other leads, whatever the root is. So any number of paths joined by slashes lead from
    the root one after the other. -/
theorem translation_is_compositional (root : Path) :
    (∀ a b : Text, '#' ∉ a → '#' ∉ b →
      (translate root (a ++ '/' :: b)).path = (translate (translate root a).path b).path
        ∧ Percent.decode (a ++ '/' :: b) = Percent.decode a ++ '/' :: Percent.decode b
        ∧ segments (a ++ '/' :: b) = segments a ++ segments b
        ∧ (segments a ++ segments b).foldl push root
          = (segments b).foldl push (translate root a).path)
    ∧ ∀ parts : List Text, (∀ part ∈ parts, '#' ∉ part) →
      (translate root (['/'].intercalate parts)).path
        = parts.foldl (fun p part => (translate p part).path) root := by
  refine ⟨fun a b ha hb => ⟨path_append_slash root ha hb, Percent.decode_append_slash a b,
    segments_append_slash ha hb, ?_⟩, path_intercalate root⟩
  rw [List.foldl_append, translate_eq_foldl_push]

/-- Cut off by the slash are an escape and the character that it belongs to. What is left of them
    stays where it is, below an empty root and below one that ends in a slash. -/
theorem translate_unfinished :
    (translate (translate [] "a%E3%8".toList).path "0/b".toList).path
        = Utf8.encode "a\uFFFD%8/0/b".toList
      ∧ (translate (translate [0x77, 0x2F] "a%E3%8".toList).path "0/b".toList).path
        = 0x77 :: 0x2F :: Utf8.encode "a\uFFFD%8/0/b".toList
      ∧ (translate [] (['/'].intercalate ["a%E3%8".toList, "0".toList, "b".toList])).path
        = Utf8.encode "a\uFFFD%8/0/b".toList := by
  have hfront : '#' ∉ "a%E3%8".toList := by decide
  have hback : '#' ∉ "0/b".toList := by decide
  obtain ⟨hempty, hparts⟩ := translation_is_compositional []
  obtain ⟨hslash, -⟩ := translation_is_compositional [0x77, 0x2F]
  refine ⟨?_, ?_, ?_⟩
  · rw [← (hempty _ _ hfront hback).1]
    decide
  · rw [← (hslash _ _ hfront hback).1]
    decide
  · rw [hparts _ (by decide)]
    decide

end Docroot.Site

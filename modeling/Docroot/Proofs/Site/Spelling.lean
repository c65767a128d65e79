import Docroot.Proofs.Files.Tree
import Docroot.Proofs.Site.Serve
import Docroot.Proofs.Site.Translate
import Docroot.Proofs.Text.Reader

/-!
# Two spellings of a path

A path can be sent as it is or escaped. Both spellings lead to the same file (`path_encode`), since a
text without a `%` is decoded to itself and an escaped one to what was escaped. Whether a directory
is asked for is another matter: it is looked up in the path as sent, blank characters at its end left
out. An escaped path has none, so it asks for a directory exactly if the path ends in a slash; the
path itself does so too with blank characters behind the slash, though the last piece is then a name
(`translate_encode_iff`).
-/

namespace Docroot.Percent

theorem decodeBytes_of_notMem {bs : Bytes} (h : 0x25 ∉ bs) : decodeBytes bs = bs := by
  induction bs with
  | nil => rfl
  | cons b bs ih =>
    rw [List.mem_cons, not_or] at h
    rw [decodeBytes_cons_of_ne (Ne.symm h.1), ih h.2]

/-- **A text without a `%` is decoded to itself.** -/
theorem decode_of_notMem {s : Text} (h : '%' ∉ s) : decode s = s := by
  have hbytes : 0x25 ∉ Utf8.encode s := fun hm => h ((Utf8.mem_encode (by decide)).1 hm)
  unfold decode
  rw [decodeBytes_of_notMem hbytes, Utf8.decodeLossy_encode]

end Docroot.Percent

namespace Docroot.Site

open Docroot.Files
open Docroot.Text (isBlank trimEnd trimEnd_append_blanks)
open Docroot.Time (Instant)

/-- The path ends in a slash with blank characters behind it. -/
def EndsInBlanks (p : Text) : Prop :=
  ∃ front blanks, p = front ++ '/' :: blanks ∧ blanks ≠ [] ∧ ∀ c ∈ blanks, isBlank c = true

/-- What is trimmed off the end is blank. -/
theorem exists_trimEnd_append (p : Text) :
    ∃ blanks, p = trimEnd p ++ blanks ∧ ∀ c ∈ blanks, isBlank c = true := by
  refine ⟨(p.reverse.takeWhile isBlank).reverse, ?_, fun c hc => ?_⟩
  · unfold trimEnd
    rw [← List.reverse_append, List.takeWhile_append_dropWhile, List.reverse_reverse]
  · exact List.all_eq_true.1 List.all_takeWhile c (List.mem_reverse.1 hc)

/-- **What is left when blank characters are trimmed ends in a slash** if the path does, or if it has
    a slash in front of them. -/
theorem getLast?_trimEnd_iff {p : Text} :
    (trimEnd p).getLast? = some '/' ↔ p.getLast? = some '/' ∨ EndsInBlanks p := by
  constructor
  · intro h
    obtain ⟨front, hfront⟩ := List.getLast?_eq_some_iff.1 h
    obtain ⟨blanks, hp, hblanks⟩ := exists_trimEnd_append p
    rw [hfront, List.append_assoc, List.singleton_append] at hp
    by_cases hnone : blanks = []
    · subst hnone
      exact Or.inl (List.getLast?_eq_some_iff.2 ⟨front, hp⟩)
    · exact Or.inr ⟨front, blanks, hp, hnone, hblanks⟩
  · rintro (h | ⟨front, blanks, rfl, -, hblanks⟩)
    · obtain ⟨front, rfl⟩ := List.getLast?_eq_some_iff.1 h
      rw [Text.trimEnd_concat front '/' (by decide), List.getLast?_concat]
    · rw [← List.singleton_append, ← List.append_assoc, trimEnd_append_blanks _ hblanks,
        Text.trimEnd_concat front '/' (by decide), List.getLast?_concat]

theorem not_getLast?_of_endsInBlanks {p : Text} (h : EndsInBlanks p) : p.getLast? ≠ some '/' := by
  obtain ⟨front, blanks, rfl, hne, hblanks⟩ := h
  intro hlast
  rw [← List.singleton_append, ← List.append_assoc, List.getLast?_append,
    Option.or_of_isSome (List.getLast?_isSome.2 hne)] at hlast
  have hslash := hblanks '/' (List.mem_of_getLast? hlast)
  exact absurd hslash (by decide)

section

variable (root : Path) {p : Text}

/-- **Both spellings lead to the same file.** -/
theorem path_encode (hpercent : '%' ∉ p) (hsharp : '#' ∉ p) :
    (translate root (Percent.encode p)).path = (translate root p).path := by
  have hcoded : '#' ∉ Percent.encode p := notMem_append_encode (List.not_mem_nil) p
  unfold translate
  dsimp only
  rw [beforeFragment_of_notMem hcoded, beforeFragment_of_notMem hsharp, Percent.decode_encode,
    Percent.decode_of_notMem hpercent]

/-- An escaped path asks for a directory exactly if the path ends in a slash. -/
theorem trailingSlash_encode_iff :
    (translate root (Percent.encode p)).trailingSlash = true ↔ p.getLast? = some '/' := by
  by_cases hp : p = []
  · subst hp
    exact ⟨nofun, nofun⟩
  · have h := trailingSlash_append_encode root (List.not_mem_nil : '#' ∉ ([] : Text)) hp
    rw [List.nil_append] at h
    rw [h, beq_iff_eq]

/-- The path itself also does so with blank characters behind the slash. -/
theorem trailingSlash_iff (hsharp : '#' ∉ p) :
    (translate root p).trailingSlash = true ↔ p.getLast? = some '/' ∨ EndsInBlanks p := by
  unfold translate
  dsimp only
  rw [beforeFragment_of_notMem hsharp, beq_iff_eq, getLast?_trimEnd_iff]

/-- **With blank characters behind its slash** a path brings no regular file. Escaped it brings the
    one of that name. -/
theorem servedFile?_of_endsInBlanks (hpercent : '%' ∉ p) (hsharp : '#' ∉ p) (h : EndsInBlanks p)
    {fs : FileSystem} {modified : Instant}
    (hstat : fs.stat (translate root p).path = .ok (.regular modified)) (settings : Settings)
    (policy : DirectoryPolicy) (a : Ask) :
    servedFile? fs ⟨settings, root, policy⟩ { a with path := p } = none
      ∧ servedFile? fs ⟨settings, root, policy⟩ { a with path := Percent.encode p }
        = some (translate root p).path := by
  have hsent : (translate root p).trailingSlash = true :=
    (trailingSlash_iff root hsharp).2 (Or.inr h)
  have hcoded : ¬(translate root (Percent.encode p)).trailingSlash = true :=
    fun hslash => not_getLast?_of_endsInBlanks h ((trailingSlash_encode_iff root).1 hslash)
  unfold servedFile?
  dsimp only
  rw [path_encode root hpercent hsharp, hstat]
  exact ⟨if_pos hsent, if_neg hcoded⟩

/-- **When the spelling of a path matters**: the two spellings lead to the same file, and both ask
    for a directory or neither does, unless the path ends in a slash with blank characters behind
    it. Then a regular file of that name is found by the escaped spelling alone. -/
theorem translate_encode_iff (hpercent : '%' ∉ p) (hsharp : '#' ∉ p) :
    (translate root (Percent.encode p)).path = (translate root p).path
      ∧ ((translate root (Percent.encode p)).trailingSlash = true ↔ p.getLast? = some '/')
      ∧ (translate root (Percent.encode p) = translate root p ↔ ¬EndsInBlanks p)
      ∧ (EndsInBlanks p → ∀ fs modified,
          FileSystem.stat fs (translate root p).path = .ok (.regular modified) →
          ∀ settings policy (a : Ask),
            servedFile? fs ⟨settings, root, policy⟩ { a with path := p } = none
              ∧ servedFile? fs ⟨settings, root, policy⟩ { a with path := Percent.encode p }
                = some (translate root p).path) := by
  have hpath := path_encode root hpercent hsharp
  have hcoded := trailingSlash_encode_iff root (p := p)
  have hsent := trailingSlash_iff root hsharp
  refine ⟨hpath, hcoded, ⟨fun h hblanks => ?_, fun hblanks => ?_⟩, fun hblanks fs modified hstat =>
    servedFile?_of_endsInBlanks root hpercent hsharp hblanks hstat⟩
  · rw [h] at hcoded
    exact not_getLast?_of_endsInBlanks hblanks (hcoded.1 (hsent.2 (Or.inr hblanks)))
  · have hslash : (translate root (Percent.encode p)).trailingSlash
        = (translate root p).trailingSlash := by
      rw [Bool.eq_iff_iff, hcoded, hsent, or_iff_left hblanks]
    exact Translated.mk.injEq .. ▸ ⟨hpath, hslash⟩

end

/-- The name of one ideographic space. -/
def ideographicSpace : Bytes := [0xE3, 0x80, 0x80]

/-- A blank character within a name is one of its characters in both spellings. A name that is blank
    is found by its escaped spelling. -/
theorem translate_encode_spaced :
    translate [0x77] "/my%20levels/".toList = translate [0x77] "/my levels/".toList
      ∧ servedFile? (loneFile ideographicSpace ⟨0, 0⟩) ⟨.default, [0x77], .indexOnly⟩
          ⟨"/%E3%80%80".toList, none, false, none, none⟩
        = some (Path.push [0x77] ideographicSpace) := by
  constructor
  · have hblanks : ¬EndsInBlanks "/my levels/".toList :=
      fun h => not_getLast?_of_endsInBlanks h (by decide)
    have hcoded : Percent.encode "/my levels/".toList = "/my%20levels/".toList := by decide
    obtain ⟨-, -, hsame, -⟩ :=
      translate_encode_iff [0x77] (p := "/my levels/".toList) (by decide) (by decide)
    rw [← hcoded]
    exact hsame.2 hblanks
  · have hblanks : EndsInBlanks "/\u3000".toList := ⟨[], ['\u3000'], by decide,
      List.cons_ne_nil _ _, List.forall_mem_singleton.2 (by decide)⟩
    have hfile : (translate [0x77] "/\u3000".toList).path = Path.push [0x77] ideographicSpace := by
      decide
    have hstat : (loneFile ideographicSpace ⟨0, 0⟩).stat (translate [0x77] "/\u3000".toList).path
        = .ok (.regular ⟨0, 0⟩) := by
      rw [hfile]
      exact stat_eq_of_node (node_loneFile _ (by decide) (by decide) (by decide) true)
    obtain ⟨-, -, -, hserved⟩ :=
      translate_encode_iff [0x77] (p := "/\u3000".toList) (by decide) (by decide)
    obtain ⟨-, hescaped⟩ := hserved hblanks _ _ hstat .default .indexOnly
      ⟨[], none, false, none, none⟩
    rw [← hfile, ← hescaped]
    exact congrArg (fun s => servedFile? _ _ (⟨s, none, false, none, none⟩ : Ask)) (by decide)

/-- A name of one ideographic space can be sent in a request as it is; it then asks for a directory,
    and escaped for a file. -/
theorem translate_ideographicSpace :
    "/\u3000".toList.all Http.isPathChar = true
      ∧ Percent.encode "/\u3000".toList = "/%E3%80%80".toList
      ∧ translate [0x77] "/\u3000".toList = ⟨Path.push [0x77] ideographicSpace, true⟩
      ∧ translate [0x77] "/%E3%80%80".toList = ⟨Path.push [0x77] ideographicSpace, false⟩ := by
  decide

end Docroot.Site

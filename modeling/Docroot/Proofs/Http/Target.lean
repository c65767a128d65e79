import Docroot.Http.Header
import Docroot.Http.Target
import Docroot.Proofs.Text.Utf8

/-!
# Targets that begin with a slash

A target is read back from the octets it is written as (`ofPathAndQuery_encode`). Whatever octets
follow a legal path, it is that path which is read, as long as they begin a query
(`sentPath_of_ofPathAndQuery`). Logs show a target that was read as its path and its query, with
nothing put in front (`isRooted_of_ofBytes`, `IsRooted.shown_eq`).
-/

namespace Docroot.Http.Target

/-! ## 1. Targets and their length -/

/-- A target that begins with a slash is a path with a query, if it is not too long. -/
theorem ofBytes_slash {s : Bytes} (h : (0x2F :: s).length ≤ maxLength) :
    ofBytes (0x2F :: s) = ofPathAndQuery (0x2F :: s) := by
  unfold ofBytes
  rw [if_neg (by omega)]
  cases s with
  | nil => rfl
  | cons b rest => rfl

theorem ofPathAndQuery_of_ofBytes {s : Bytes} {t : Target} (h : ofBytes (0x2F :: s) = .ok t) :
    ofPathAndQuery (0x2F :: s) = .ok t := by
  by_cases hlen : (0x2F :: s).length ≤ maxLength
  · rwa [ofBytes_slash hlen] at h
  · unfold ofBytes at h
    rw [if_pos (by omega)] at h
    cases h

/-! ## 2. Paths and queries -/

theorem ne_of_isPathChar {c : Char} (h : isPathChar c = true) : c ≠ '#' ∧ c ≠ '?' := by
  constructor <;> rintro rfl <;> revert h <;> decide

theorem notMem_of_all_isPathChar {p : Text} (h : p.all isPathChar = true) : '#' ∉ p ∧ '?' ∉ p := by
  rw [List.all_eq_true] at h
  exact ⟨fun hm => (ne_of_isPathChar (h _ hm)).1 rfl, fun hm => (ne_of_isPathChar (h _ hm)).2 rfl⟩

theorem notMem_of_all_isQueryChar {q : Text} (h : q.all isQueryChar = true) : '#' ∉ q := by
  rw [List.all_eq_true] at h
  intro hm
  have := h _ hm
  revert this
  decide

/-- No fragment begins in a text without a number sign. -/
theorem takeWhile_encode_append {p : Text} (h : '#' ∉ p) (bs : Bytes) :
    (Utf8.encode p ++ bs).takeWhile (· ≠ 0x23) = Utf8.encode p ++ bs.takeWhile (· ≠ 0x23) :=
  takeWhile_ne_append (fun hm => h ((Utf8.mem_encode (by decide)).1 hm)) bs

/-- A path and a query as one text. -/
def written (p : Text) : Option Text → Text
  | none => p
  | some q => p ++ '?' :: q

/-- **A target is read back from what it is written as.** -/
theorem ofPathAndQuery_encode {p : Text} {q : Option Text} (hp : p.all isPathChar = true)
    (hq : (q.getD []).all isQueryChar = true) :
    ofPathAndQuery (Utf8.encode (written p q))
      = .ok ⟨false, p, q, mayHold_of_all hp, mayHold_of_all hq⟩ := by
  obtain ⟨hsharp, hmark⟩ := notMem_of_all_isPathChar hp
  have hwritten : '#' ∉ written p q := by
    cases q with
    | none => exact hsharp
    | some q => simpa [written, hsharp] using notMem_of_all_isQueryChar hq
  have hcut : cutFirst '?' (written p q) = (p, q) := by
    cases q with
    | none => exact cutFirst_of_not_mem hmark
    | some q => exact cutFirst_append_sep hmark q
  have htake := takeWhile_encode_append hwritten []
  rw [List.append_nil, List.takeWhile_nil, List.append_nil] at htake
  unfold ofPathAndQuery
  dsimp only
  rw [htake, Utf8.decode?_encode]
  dsimp only
  rw [hcut]
  exact dif_pos ⟨hp, hq⟩

/-- **A path that begins with a slash is a target**, with any legal query, if that is not too
    long. -/
theorem ofBytes_written {p : Text} {q : Option Text} (hp : ('/' :: p).all isPathChar = true)
    (hq : (q.getD []).all isQueryChar = true)
    (hlen : (Utf8.encode (written ('/' :: p) q)).length ≤ maxLength) :
    ofBytes (Utf8.encode (written ('/' :: p) q))
      = .ok ⟨false, '/' :: p, q, mayHold_of_all hp, mayHold_of_all hq⟩ := by
  rw [← ofPathAndQuery_encode hp hq]
  cases q with
  | none => exact ofBytes_slash hlen
  | some q => exact ofBytes_slash hlen

/-- Octets that may follow a path: none, or a question mark and any others. -/
def BeginsQuery (bs : Bytes) : Prop := bs = [] ∨ ∃ rest, bs = 0x3F :: rest

theorem BeginsQuery.takeWhile {bs : Bytes} (h : BeginsQuery bs) :
    BeginsQuery (bs.takeWhile (· ≠ 0x23)) := by
  rcases h with rfl | ⟨rest, rfl⟩
  · exact Or.inl rfl
  · exact Or.inr ⟨rest.takeWhile (· ≠ 0x23), rfl⟩

/-- What is read there is nothing, or a question mark and more. -/
theorem BeginsQuery.decode? {bs : Bytes} (h : BeginsQuery bs) {s : Text}
    (hs : Utf8.decode? bs = some s) : s = [] ∨ ∃ q, s = '?' :: q := by
  rcases h with rfl | ⟨rest, rfl⟩
  · exact Or.inl (Option.some.inj hs).symm
  · have e := Utf8.decode?_encode_append ['?'] rest
    rw [show Utf8.encode ['?'] ++ rest = 0x3F :: rest from rfl, hs] at e
    obtain ⟨q, -, hq⟩ := Option.map_eq_some_iff.1 e.symm
    exact Or.inr ⟨q, hq.symm⟩

/-- **What is read of a text and octets behind it**, where no fragment begins in the text: the
    octets are text as well, and the path is what stands before the first question mark. -/
theorem exists_of_ofPathAndQuery {p : Text} (hsharp : '#' ∉ p) {bs : Bytes} {t : Target}
    (h : ofPathAndQuery (Utf8.encode p ++ bs) = .ok t) :
    ∃ s, Utf8.decode? (bs.takeWhile (· ≠ 0x23)) = some s ∧ t.authorityOnly = false
      ∧ t.sentPath = (cutFirst '?' (p ++ s)).1 := by
  unfold ofPathAndQuery at h
  dsimp only at h
  rw [takeWhile_encode_append hsharp, Utf8.decode?_encode_append] at h
  cases hs : Utf8.decode? (bs.takeWhile (· ≠ 0x23)) with
  | none =>
    rw [hs] at h
    cases h
  | some s =>
    rw [hs, Option.map_some] at h
    dsimp only at h
    split at h
    · cases h
      exact ⟨s, rfl, rfl, rfl⟩
    · cases h

/-- **The path that is read** from a legal path with a query behind it is that path. -/
theorem sentPath_of_ofPathAndQuery {p : Text} (hp : p.all isPathChar = true) {bs : Bytes}
    (hbs : BeginsQuery bs) {t : Target}
    (h : ofPathAndQuery (Utf8.encode p ++ bs) = .ok t) :
    t.authorityOnly = false ∧ t.sentPath = p := by
  obtain ⟨hsharp, hmark⟩ := notMem_of_all_isPathChar hp
  obtain ⟨s, hs, hauthority, hpath⟩ := exists_of_ofPathAndQuery hsharp h
  refine ⟨hauthority, ?_⟩
  rcases hbs.takeWhile.decode? hs with rfl | ⟨q, rfl⟩
  · rw [hpath, List.append_nil, cutFirst_of_not_mem hmark]
  · rw [hpath, cutFirst_append_sep hmark]

/-- The same for a path that is not empty, as serving sees it. -/
theorem path_of_ofBytes {p : Text} (hp : ('/' :: p).all isPathChar = true) {bs : Bytes}
    (hbs : BeginsQuery bs) {t : Target}
    (h : ofBytes (Utf8.encode ('/' :: p) ++ bs) = .ok t) : t.path = '/' :: p := by
  have hread : ofPathAndQuery (Utf8.encode ('/' :: p) ++ bs) = .ok t := ofPathAndQuery_of_ofBytes h
  obtain ⟨hauthority, hsent⟩ := sentPath_of_ofPathAndQuery hp hbs hread
  unfold Target.path
  rw [hauthority, hsent]
  rfl

/-! ## 3. Targets as shown -/

/-- Path and query of a target, one after the other; nothing of an authority alone. -/
def pathAndQuery (t : Target) : Text := if t.authorityOnly then [] else written t.path t.query

/-- The path as sent is empty, or begins with a slash or a star. -/
def IsRooted (t : Target) : Prop :=
  t.sentPath = [] ∨ ∃ p, t.sentPath = '/' :: p ∨ t.sentPath = '*' :: p

/-- Such a target is shown as it is. Any other would have a slash put in front. -/
theorem IsRooted.shown_eq {t : Target} (h : t.IsRooted) : t.shown = t.pathAndQuery := by
  unfold shown pathAndQuery path
  by_cases hauthority : t.authorityOnly = true
  · rw [if_pos hauthority, if_pos hauthority]
  · rw [if_neg hauthority, if_neg hauthority, if_neg hauthority]
    rcases h with hsent | ⟨p, hsent | hsent⟩
    · rw [hsent]
      cases t.query <;> rfl
    · rw [hsent]
      cases t.query <;> rfl
    · rw [hsent]
      cases t.query <;> rfl

/-- Any target is shown as it was sent, or with a slash in front. -/
theorem shown_cases (t : Target) : t.shown = [] ∨ t.shown = ['/']
    ∨ t.shown = written t.sentPath t.query ∨ t.shown = '/' :: written t.sentPath t.query := by
  unfold shown
  split
  · exact Or.inl rfl
  · cases t.query
    all_goals
      dsimp only
      split
      · exact Or.inr (Or.inl rfl)
      · split
        · exact Or.inr (Or.inr (Or.inl rfl))
        · exact Or.inr (Or.inr (Or.inr rfl))

/-- A character that a target may hold. -/
def isTargetChar (c : Char) : Bool := isPathChar c || isQueryChar c || c == delete

theorem all_isTargetChar_sentPath (t : Target) : t.sentPath.all isTargetChar = true := by
  rw [List.all_eq_true]
  intro c hc
  have hheld := List.all_eq_true.1 t.path_legal c hc
  rw [Bool.or_eq_true] at hheld
  unfold isTargetChar
  rcases hheld with h | h
  · rw [h, Bool.true_or, Bool.true_or]
  · rw [h, Bool.or_true]

theorem all_isTargetChar_query (t : Target) : (t.query.getD []).all isTargetChar = true := by
  rw [List.all_eq_true]
  intro c hc
  have hheld := List.all_eq_true.1 t.query_legal c hc
  rw [Bool.or_eq_true] at hheld
  unfold isTargetChar
  rcases hheld with h | h
  · rw [h, Bool.or_true, Bool.true_or]
  · rw [h, Bool.or_true]

theorem all_isTargetChar_path (t : Target) : t.path.all isTargetChar = true := by
  unfold path
  split
  · rfl
  · split
    · decide
    · exact t.all_isTargetChar_sentPath

/-- **A target is shown in the characters of paths and queries.** -/
theorem all_isTargetChar_shown (t : Target) : t.shown.all isTargetChar = true := by
  have hpath := t.all_isTargetChar_sentPath
  have hwritten : (written t.sentPath t.query).all isTargetChar = true := by
    have hquery := t.all_isTargetChar_query
    cases hq : t.query with
    | none => exact hpath
    | some q =>
      rw [hq, Option.getD_some] at hquery
      unfold written
      rw [List.all_append, hpath, List.all_cons, hquery]
      decide
  rcases t.shown_cases with h | h | h | h
  · rw [h]
    rfl
  · rw [h]
    decide
  · rw [h, hwritten]
  · rw [h, List.all_cons, hwritten]
    decide

theorem cutFirst_cons_fst {c sep : Char} (h : sep ∉ [c]) (s : Text) :
    (cutFirst sep ([c] ++ s)).1 = c :: (cutFirst sep s).1 := by
  unfold cutFirst
  rw [dropWhile_ne_append h, takeWhile_ne_append h]
  cases s.dropWhile (· ≠ sep) <;> rfl

/-- What begins with a character that does not end a path is read as a path that begins with it. -/
theorem sentPath_of_encode_append {c : Char} (hsharp : '#' ∉ [c]) (hmark : '?' ∉ [c]) {bs : Bytes}
    {t : Target} (h : ofPathAndQuery (Utf8.encode [c] ++ bs) = .ok t) :
    ∃ p, t.sentPath = c :: p := by
  obtain ⟨s, -, -, hpath⟩ := exists_of_ofPathAndQuery hsharp h
  exact ⟨_, hpath.trans (cutFirst_cons_fst hmark s)⟩

theorem isRooted_of_slash {bs : Bytes} {t : Target} (h : ofPathAndQuery (0x2F :: bs) = .ok t) :
    t.IsRooted := by
  obtain ⟨p, hp⟩ := sentPath_of_encode_append (c := '/') (by decide) (by decide) h
  exact Or.inr ⟨p, Or.inl hp⟩

/-- Octets that may follow an authority. -/
def FollowsAuthority (bs : Bytes) : Prop :=
  bs = [] ∨ ∃ b rest, bs = b :: rest ∧ endsAuthority b = true

theorem FollowsAuthority.isRooted {bs : Bytes} (hbs : FollowsAuthority bs) {t : Target}
    (h : ofPathAndQuery bs = .ok t) : t.IsRooted := by
  rcases hbs with rfl | ⟨b, rest, rfl, hb⟩
  · exact Or.inl (sentPath_of_ofPathAndQuery (p := []) rfl (Or.inl rfl) h).2
  · unfold endsAuthority at hb
    simp only [Bool.or_eq_true, beq_iff_eq] at hb
    rcases hb with (rfl | rfl) | rfl
    · exact isRooted_of_slash h
    · exact Or.inl (sentPath_of_ofPathAndQuery (p := []) rfl (Or.inr ⟨rest, rfl⟩) h).2
    · cases h
      exact Or.inl rfl

theorem followsAuthority_of_takeAuthority {s a rest : Bytes}
    (h : takeAuthority s = .ok (a, rest)) : FollowsAuthority rest := by
  unfold takeAuthority at h
  split at h
  · cases h
  · dsimp only at h
    cases hcheck : checkAuthority (s.takeWhile (!endsAuthority ·)) with
    | error e =>
      rw [hcheck] at h
      cases h
    | ok _ =>
      rw [hcheck] at h
      cases h
      have hrest : s.drop (s.takeWhile (!endsAuthority ·)).length
          = s.dropWhile (!endsAuthority ·) := by
        have hparts := List.takeWhile_append_dropWhile (p := (!endsAuthority ·)) (l := s)
        exact (congrArg (List.drop _) hparts.symm).trans List.drop_left
      rw [hrest]
      cases hdrop : s.dropWhile (!endsAuthority ·) with
      | nil => exact Or.inl rfl
      | cons b tail =>
        have hb := List.head?_dropWhile_not (!endsAuthority ·) s
        rw [hdrop] at hb
        exact Or.inr ⟨b, tail, rfl, by simpa using hb⟩

theorem eq_authorityTarget {s : Bytes} {e : Fault} {t : Target}
    (h : (do
      let (_, rest) ← takeAuthority s
      if rest = [] then .ok authorityTarget else .error e) = Except.ok t) : t = authorityTarget := by
  cases htake : takeAuthority s with
  | error fault =>
    rw [htake] at h
    cases h
  | ok taken =>
    rw [htake] at h
    dsimp only [bind, Except.bind] at h
    split at h
    · exact (Except.ok.inj h).symm
    · cases h

/-- **What is read of octets**: an authority alone; or path and query, which are the star or follow an
    authority. -/
theorem ofBytes_cases {s : Bytes} {t : Target} (h : ofBytes s = .ok t) :
    t = authorityTarget
      ∨ ∃ rest, (rest = [0x2A] ∨ FollowsAuthority rest) ∧ ofPathAndQuery rest = .ok t := by
  unfold ofBytes at h
  split at h
  · cases h
  split at h
  · cases h
  · split at h
    · next hb =>
      refine Or.inr ⟨_, ?_, h⟩
      rcases hb with rfl | rfl
      · exact Or.inr (Or.inr ⟨0x2F, [], rfl, rfl⟩)
      · exact Or.inl rfl
    · exact Or.inl (eq_authorityTarget h)
  · exact Or.inr ⟨_, Or.inr (Or.inr ⟨0x2F, _, rfl, rfl⟩), h⟩
  · cases hscheme : afterScheme s with
    | error fault =>
      rw [hscheme] at h
      cases h
    | ok after =>
      rw [hscheme] at h
      cases after with
      | none => exact Or.inl (eq_authorityTarget h)
      | some rest =>
        dsimp only [bind, Except.bind] at h
        cases htake : takeAuthority rest with
        | error fault =>
          rw [htake] at h
          cases h
        | ok taken =>
          rw [htake] at h
          dsimp only at h
          split at h
          · cases h
          · exact Or.inr ⟨taken.2, Or.inr (followsAuthority_of_takeAuthority htake), h⟩

/-- **A target that is read is rooted**: what follows an authority is a path that begins with a slash,
    or none. -/
theorem isRooted_of_ofBytes {s : Bytes} {t : Target} (h : ofBytes s = .ok t) : t.IsRooted := by
  rcases ofBytes_cases h with rfl | ⟨rest, rfl | hfollows, hread⟩
  · exact Or.inl rfl
  · obtain ⟨p, hp⟩ := sentPath_of_encode_append (c := '*') (by decide) (by decide) hread
    exact Or.inr ⟨p, Or.inr hp⟩
  · exact hfollows.isRooted hread

/-! ## 4. Targets that a header can name -/

/-- **A header can name the target**: the delete character is neither in its path nor in its query. It
    is the one character that a target may hold and the value of a header may not. -/
def IsNameable (t : Target) : Prop := delete ∉ t.path ∧ delete ∉ t.query.getD []

instance (t : Target) : Decidable t.IsNameable :=
  inferInstanceAs (Decidable (delete ∉ t.path ∧ delete ∉ t.query.getD []))

/-- **A character of a target can be in a header** exactly if it is not the delete character. -/
theorem isValueChar_iff {c : Char} (h : isTargetChar c = true) :
    isValueChar c = true ↔ c ≠ delete := by
  have hdelete : c = delete ↔ c.toNat = 127 :=
    ⟨fun e => by rw [e]; rfl, fun e => Char.toNat_inj.1 (e.trans rfl)⟩
  unfold isTargetChar isPathChar isQueryChar at h
  simp only [Bool.or_eq_true, Bool.and_eq_true, decide_eq_true_eq, beq_iff_eq, hdelete] at h
  unfold isValueChar
  simp only [Bool.or_eq_true, Bool.and_eq_true, decide_eq_true_eq, beq_iff_eq, ne_eq, hdelete]
  omega

theorem all_isValueChar_iff {s : Text} (h : s.all isTargetChar = true) :
    s.all isValueChar = true ↔ delete ∉ s := by
  rw [List.all_eq_true] at h ⊢
  constructor
  · exact fun hall hmem => (isValueChar_iff (h _ hmem)).1 (hall _ hmem) rfl
  · exact fun hno c hc => (isValueChar_iff (h c hc)).2 fun e => hno (e ▸ hc)

theorem delete_notMem_of_all {ofKind : Char → Bool} (hkind : ofKind delete = false) {s : Text}
    (h : s.all ofKind = true) : delete ∉ s := by
  intro hmem
  rw [List.all_eq_true.1 h delete hmem] at hkind
  cases hkind

theorem isNameable_of_ofPathAndQuery {s : Bytes} {t : Target} (h : ofPathAndQuery s = .ok t) :
    t.IsNameable := by
  unfold ofPathAndQuery at h
  dsimp only at h
  split at h
  · cases h
  · split at h
    · next hall =>
      cases h
      refine ⟨fun hmem => ?_, delete_notMem_of_all (by decide) hall.2⟩
      unfold path at hmem
      dsimp only at hmem
      split at hmem
      · cases hmem
      · split at hmem
        · exact absurd hmem (by decide)
        · exact delete_notMem_of_all (by decide) hall.1 hmem
    · cases h

/-- **A header can name every target that is read.** -/
theorem isNameable_of_ofBytes {s : Bytes} {t : Target} (h : ofBytes s = .ok t) :
    t.IsNameable := by
  rcases ofBytes_cases h with rfl | ⟨rest, -, hread⟩
  · decide
  · exact isNameable_of_ofPathAndQuery hread

/-- What no header can name is refused, in a path and in a query. -/
example : ofBytes [0x2F, 0x7F] = .error .character
    ∧ ofBytes [0x2F, 0x3F, 0x7F] = .error .character := ⟨rfl, rfl⟩

end Docroot.Http.Target

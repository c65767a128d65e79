import Docroot.Proofs.Files.Tree
import Docroot.Proofs.Http.Target
import Docroot.Proofs.Site.Serve
import Docroot.Proofs.Text.Utf8

/-!
# Where redirects lead

A directory that is asked for without the slash at the end is answered with `301`
(`handle_of_lacksSlash`), and nothing else is (`lacksSlash_of_status`). The place named is the
request path as it was sent, with the slash put behind it, while the directory was found by the
segments that are left of the path. So a path that begins with two slashes names a directory here
and another server there: the redirect stays on the server exactly if the second character of the
path is neither slash nor backslash (`leaves_directoryLocation_iff`).

A redirect names no place at all if there is a delete character in the target, which the value of a
header cannot have (`ofText?_directoryLocation`). No target that is read has one.
-/

namespace Docroot.Site

open Docroot.Files
open Docroot.Http
open Docroot.Time (OutOfRange)

/-! ## 1. When there is a redirect -/

/-- The path leads to a directory and does not say so. -/
def LacksSlash (fs : FileSystem) (t : Translated) : Prop :=
  fs.stat t.path = .ok .directory ∧ t.trailingSlash = false

theorem ok_ne_movedPermanently : Status.ok ≠ .movedPermanently := by decide

theorem notModified_ne_movedPermanently : Status.notModified ≠ .movedPermanently := by decide

theorem notFound_ne_movedPermanently : Status.notFound ≠ .movedPermanently := by decide

theorem status_fileResponse {a : Ask} {file : Path} {node : Option Node} {r : Response}
    (h : fileResponse a file node = .ok r) : r.status ≠ .movedPermanently := by
  unfold fileResponse at h
  split at h
  · next content modified rights =>
    split at h
    · split at h
      · cases h
        exact notModified_ne_movedPermanently
      · cases h
        cases content.read rights with
        | ok data => exact ok_ne_movedPermanently
        | error e => exact notFound_ne_movedPermanently
    · cases h
  · cases h
    exact notFound_ne_movedPermanently

theorem status_listDirectory_ne (fs : FileSystem) (a : Ask) (dir : Path) :
    (listDirectory fs a dir).response.status ≠ .movedPermanently := by
  rcases status_listDirectory fs a dir with e | e
  · rw [e]
    exact ok_ne_movedPermanently
  · rw [e]
    exact notFound_ne_movedPermanently

theorem status_serveDirectory {fs : FileSystem} {policy : DirectoryPolicy} {a : Ask} {dir : Path}
    {r : Response} (h : (serveDirectory fs policy a dir).map (·.response) = .ok r) :
    r.status ≠ .movedPermanently := by
  unfold serveDirectory at h
  split at h
  · rw [serveFile_response] at h
    exact status_fileResponse h
  · split at h
    · cases h
      exact status_listDirectory_ne fs a dir
    · cases h
      exact notFound_ne_movedPermanently

/-- A path that lacks its slash is answered with the path that has it. -/
theorem servePath_of_lacksSlash {fs : FileSystem} {site : Site} {a : Ask}
    (h : LacksSlash fs (translate site.root a.path)) :
    servePath fs site a = .ok (redirectReply a.directoryLocation) := by
  obtain ⟨hstat, hslash⟩ := h
  unfold servePath
  dsimp only
  rw [hstat, hslash]
  rfl

/-- Any other path is served in place. -/
theorem status_of_not_lacksSlash {fs : FileSystem} {site : Site} {a : Ask}
    (h : ¬LacksSlash fs (translate site.root a.path)) {r : Response}
    (hr : (servePath fs site a).map (·.response) = .ok r) : r.status ≠ .movedPermanently := by
  cases hserved : servedFile? fs site a with
  | some file =>
    rw [servePath_of_servedFile? hserved, serveFile_response] at hr
    exact status_fileResponse hr
  | none =>
    obtain ⟨reply, hreply, hwithout⟩ := exists_withoutFile hserved
    rw [hreply] at hr
    cases hr
    cases hwithout with
    | missing place => exact notFound_ne_movedPermanently
    | notFound => exact notFound_ne_movedPermanently
    | listing dir => exact status_listDirectory_ne fs a dir
    | redirect hstat hslash => exact absurd ⟨hstat, hslash⟩ h

/-! ## 2. The place that a redirect names -/

/-- **The place can be a header value** exactly if the target can be named in one. -/
theorem all_isValueChar_directoryLocation_iff (r : Request) :
    (askOf r).directoryLocation.all isValueChar = true ↔ r.target.IsNameable := by
  have hpath : (askOf r).path = r.target.path := rfl
  have hpathChars := r.target.all_isTargetChar_path
  have hqueryChars := r.target.all_isTargetChar_query
  have hslash : Target.isTargetChar '/' = true := by decide
  have hmark : Target.isTargetChar '?' = true := by decide
  have hneSlash : Target.delete ≠ '/' := by decide
  have hneMark : Target.delete ≠ '?' := by decide
  unfold Ask.directoryLocation Target.IsNameable
  rw [hpath]
  cases hq : (askOf r).query with
  | none =>
    have hquery : r.target.query = none := hq
    rw [Target.all_isValueChar_iff (by simp [hpathChars, hslash]), hquery]
    simp [hneSlash]
  | some q =>
    have hquery : r.target.query = some q := hq
    rw [hquery] at hqueryChars
    change q.all Target.isTargetChar = true at hqueryChars
    rw [Target.all_isValueChar_iff (by
      simp only [List.all_append, List.all_cons, hpathChars, hslash, hmark, hqueryChars,
        Bool.and_self]), hquery]
    simp [hneSlash, hneMark]

theorem location_redirectReply (location : Text) :
    Headers.values (redirectReply location).response.headers .location
      = (HeaderValue.ofText? location).toList := by
  rw [redirectReply_cases]
  cases HeaderValue.ofText? location <;> rfl

/-- A place is named exactly if the target can be named. -/
theorem ofText?_directoryLocation (r : Request) :
    HeaderValue.ofText? (askOf r).directoryLocation = if h : r.target.IsNameable
      then some (.ofText _ ((all_isValueChar_directoryLocation_iff r).2 h)) else none := by
  rw [HeaderValue.ofText?_eq]
  split
  · next hall => rw [dif_pos ((all_isValueChar_directoryLocation_iff r).1 hall)]
  · next hall => rw [dif_neg fun h => hall ((all_isValueChar_directoryLocation_iff r).2 h)]

/-- The slash asks for a directory, so it is never redirected. -/
theorem not_lacksSlash_slash (fs : FileSystem) (root : Path) :
    ¬LacksSlash fs (translate root ['/']) := by
  intro h
  have : (translate root ['/']).trailingSlash = true := by rfl
  rw [h.2] at this
  cases this

/-- **A place on this server**: one slash, and behind it neither a slash nor a backslash. -/
def StaysHere (place : Bytes) : Prop :=
  ∃ rest, place = 0x2F :: rest ∧ rest.head? ≠ some 0x2F ∧ rest.head? ≠ some 0x5C

theorem staysHere_encode (s : Text) :
    StaysHere (Utf8.encode ('/' :: s)) ↔ s.head? ≠ some '/' ∧ s.head? ≠ some '\\' := by
  have hslash : (Utf8.encode s).head? = some 0x2F ↔ s.head? = some '/' :=
    Utf8.head?_encode (by decide)
  have hback : (Utf8.encode s).head? = some 0x5C ↔ s.head? = some '\\' :=
    Utf8.head?_encode (by decide)
  rw [Ne, Ne, ← hslash, ← hback]
  constructor
  · rintro ⟨rest, e, h⟩
    cases e
    exact h
  · intro h
    exact ⟨Utf8.encode s, rfl, h⟩

/-- **The place leaves the server** exactly if the second character of the path is a slash or a
    backslash: it begins as the path does. -/
theorem leaves_directoryLocation_iff {a : Ask} {c : Char} {rest : Text}
    (h : a.path = '/' :: c :: rest) :
    ¬StaysHere (Utf8.encode a.directoryLocation) ↔ c = '/' ∨ c = '\\' := by
  have hplace : ∃ more, a.directoryLocation = '/' :: c :: more := by
    unfold Ask.directoryLocation
    rw [h]
    cases a.query with
    | none => exact ⟨_, rfl⟩
    | some q => exact ⟨_, rfl⟩
  obtain ⟨more, hplace⟩ := hplace
  rw [hplace, staysHere_encode, Classical.not_and_iff_not_or_not, Classical.not_not,
    Classical.not_not]
  simp

/-! ## 3. Requests -/

section

variable (fs : FileSystem) (site : Site) (peer : Text) (timing : Timing) {r : Request}

/-- **A request for a directory without its slash** gets `301`, and one place if there can be one: the
    path with the slash. -/
theorem handle_of_lacksSlash (hmethod : r.method = .get ∨ r.method = .head)
    (h : LacksSlash fs (translate site.root r.target.path)) :
    ∃ answer, handle fs site peer timing r = .ok answer
      ∧ answer.response.status = .movedPermanently
      ∧ Headers.values answer.response.headers .location
        = (HeaderValue.ofText? (askOf r).directoryLocation).toList := by
  rw [exists_handle_iff (P := fun response => response.status = .movedPermanently
      ∧ Headers.values response.headers .location
        = (HeaderValue.ofText? (askOf r).directoryLocation).toList),
    respond_eq_servePath fs site hmethod, servePath_of_lacksSlash (a := askOf r) h]
  refine ⟨_, rfl, ?_, ?_⟩
  · rw [status_finish, status_redirectReply]
  · rw [values_finish _ _ (by decide), location_redirectReply]

/-- **Nothing else gets `301`.** -/
theorem lacksSlash_of_status (hmethod : r.method = .get ∨ r.method = .head) {answer : Handled}
    (h : handle fs site peer timing r = .ok answer)
    (hstatus : answer.response.status = .movedPermanently) :
    LacksSlash fs (translate site.root r.target.path) := by
  apply Classical.byContradiction
  intro hno
  obtain ⟨response, hresponse, hmoved⟩ :=
    (exists_handle_iff (P := fun response => response.status = .movedPermanently)).1
      ⟨answer, h, hstatus⟩
  rw [respond_eq_servePath fs site hmethod] at hresponse
  rw [status_finish] at hmoved
  exact status_of_not_lacksSlash (a := askOf r) hno hresponse hmoved

end

/-- **When a redirect leaves the server**: exactly if the path leads to a directory, does not end
    in a slash, and has a slash or a backslash behind the slash that it begins with, and the place
    can be named. -/
theorem redirect_leaves_iff (fs : FileSystem) (site : Site) (peer : Text) (timing : Timing)
    (r : Request) (hmethod : r.method = .get ∨ r.method = .head) {rest : Text}
    (hpath : r.target.path = '/' :: rest) :
    (∃ answer, handle fs site peer timing r = .ok answer
        ∧ answer.response.status = .movedPermanently
        ∧ ∃ place ∈ Headers.values answer.response.headers .location, ¬StaysHere place.bytes)
      ↔ LacksSlash fs (translate site.root r.target.path) ∧ r.target.IsNameable
        ∧ (rest.head? = some '/' ∨ rest.head? = some '\\') := by
  by_cases hlacks : LacksSlash fs (translate site.root r.target.path)
  · obtain ⟨answer, hanswer, hstatus, hvalues⟩ :=
      handle_of_lacksSlash fs site peer timing hmethod hlacks
    rw [ofText?_directoryLocation] at hvalues
    cases rest with
    | nil =>
      -- the path is a slash and lacks none
      rw [hpath] at hlacks
      exact absurd hlacks (not_lacksSlash_slash fs site.root)
    | cons c rest =>
      have hleaves := leaves_directoryLocation_iff (a := askOf r) hpath
      constructor
      · rintro ⟨other, hother, -, place, hmem, h⟩
        cases hanswer.symm.trans hother
        rw [hvalues] at hmem
        split at hmem
        · next hnameable =>
          cases List.mem_singleton.1 hmem
          exact ⟨hlacks, hnameable, by simpa using hleaves.1 h⟩
        · cases hmem
      · rintro ⟨-, hnameable, hc⟩
        rw [dif_pos hnameable] at hvalues
        refine ⟨answer, hanswer, hstatus,
          .ofText _ ((all_isValueChar_directoryLocation_iff r).2 hnameable), ?_,
          hleaves.2 (by simpa using hc)⟩
        rw [hvalues]
        exact List.mem_singleton_self _
  · constructor
    · rintro ⟨answer, h, hstatus, -⟩
      exact absurd (lacksSlash_of_status fs site peer timing hmethod h hstatus) hlacks
    · rintro ⟨h, -⟩
      exact absurd h hlacks

/-- A file system with the directory `levels` at the root `w`. -/
def levels : FileSystem where
  top := .directory [([0x77], .directory [(Utf8.encode "levels".toList, .directory [])])]
  here := []

theorem lacksSlash_levels : LacksSlash levels (translate [0x77] "//levels".toList) := by
  have hplain : levels.top.IsPlain := Node.isPlain_directory (List.forall_mem_singleton.2
    ⟨by decide, Node.isPlain_directory (List.forall_mem_singleton.2
      ⟨by decide, Node.isPlain_directory (List.forall_mem_nil _)⟩)⟩)
  exact ⟨stat_eq_of_node (FileSystem.node_of_names rfl hplain
    [[0x77], Utf8.encode "levels".toList] (by decide) (by simp) (by decide) rfl true), by rfl⟩

/-- The redirect of `/levels` stays on the server. -/
theorem redirect_levels_stays :
    ¬∃ answer, handle levels ⟨.default, [0x77], .indexOnly⟩ [] ⟨⟨⟨0, 0⟩, 0⟩, 0⟩
        (getRequest "/levels".toList (by decide) []) = .ok answer
      ∧ answer.response.status = .movedPermanently
      ∧ ∃ place ∈ Headers.values answer.response.headers .location, ¬StaysHere place.bytes := by
  intro h
  obtain ⟨-, -, hc | hc⟩ := (redirect_leaves_iff levels ⟨.default, [0x77], .indexOnly⟩ _ _
    (getRequest "/levels".toList (by decide) []) (Or.inl rfl) rfl).1 h
  · cases hc
  · cases hc

/-- The redirect of `//levels` leads to the host `levels`. -/
theorem redirect_levels_leaves :
    (∃ answer, handle levels ⟨.default, [0x77], .indexOnly⟩ [] ⟨⟨⟨0, 0⟩, 0⟩, 0⟩
        (getRequest "//levels".toList (by decide) []) = .ok answer
      ∧ answer.response.status = .movedPermanently
      ∧ (Headers.values answer.response.headers .location).map (·.bytes)
        = [Utf8.encode "//levels/".toList])
    ∧ ¬StaysHere (Utf8.encode "//levels/".toList) := by
  constructor
  · obtain ⟨answer, hanswer, hstatus, hvalues⟩ := handle_of_lacksSlash levels
      ⟨.default, [0x77], .indexOnly⟩ [] ⟨⟨⟨0, 0⟩, 0⟩, 0⟩
      (r := getRequest "//levels".toList (by decide) []) (Or.inl rfl) lacksSlash_levels
    refine ⟨answer, hanswer, hstatus, ?_⟩
    rw [hvalues, ofText?_directoryLocation, dif_pos (by decide)]
    rfl
  · show ¬StaysHere (Utf8.encode ('/' :: "/levels/".toList))
    rw [staysHere_encode]
    decide

end Docroot.Site

import Docroot.Proofs.Files.Tree
import Docroot.Proofs.Site.Serve

/-!
# When a client's copy is good

The answer `304` says that the client's copy of a file is as good as a new one. It is given exactly
if the request is answered from a regular file, the date that the client names is not before the
file's last change, and no entity tag is seen (`status_notModified_iff`).

An entity tag is seen only if it is text of visible ASCII. A tag with other octets in it is legal
as a header value and is not seen, so it does not keep the date from being looked at.
-/

namespace Docroot.Site

open Docroot.Files
open Docroot.Http
open Docroot.Time (Instant OutOfRange HttpDate.read?)

/-! ## 1. Files -/

/-- **A file gives `304` exactly if the client's copy is good.** -/
theorem fileResponse_notModified_iff {a : Ask} {file : Path} {node : Option Node} :
    (∃ r, fileResponse a file node = .ok r ∧ r.status = .notModified)
      ↔ ∃ content modified rights, node = some (.file content modified rights)
        ∧ modified.hasDate = true ∧ a.isUnchanged modified = true := by
  have hok : Status.ok ≠ .notModified := by decide
  have hmissing : Status.notFound ≠ .notModified := by decide
  constructor
  · rintro ⟨r, hr, hstatus⟩
    unfold fileResponse at hr
    split at hr
    · next content modified rights =>
      split at hr
      · next hdate =>
        by_cases hsame : a.isUnchanged modified = true
        · exact ⟨content, modified, rights, rfl, hdate, hsame⟩
        · rw [if_neg hsame] at hr
          cases hr
          cases hread : content.read rights with
          | ok data =>
            rw [hread] at hstatus
            exact absurd hstatus hok
          | error e =>
            rw [hread] at hstatus
            exact absurd hstatus hmissing
      · cases hr
    · cases hr
      exact absurd hstatus hmissing
  · rintro ⟨content, modified, rights, rfl, hdate, hsame⟩
    refine ⟨unchangedResponse modified, ?_, rfl⟩
    unfold fileResponse
    dsimp only
    rw [if_pos hdate, if_pos hsame]

/-! ## 2. Requests -/

/-- **A request gets `304` exactly if** it is answered from a regular file that has a date and of
    which the client's copy is good. -/
theorem status_notModified_iff {fs : FileSystem} {site : Site} {peer : Text} {timing : Timing}
    {r : Request} (hmethod : r.method = .get ∨ r.method = .head) :
    (∃ answer, handle fs site peer timing r = .ok answer
        ∧ answer.response.status = .notModified)
      ↔ ∃ file modified, servedFile? fs site (askOf r) = some file
        ∧ fs.stat file = .ok (.regular modified) ∧ modified.hasDate = true
        ∧ (askOf r).isUnchanged modified = true := by
  rw [exists_handle_iff (P := fun response => response.status = .notModified),
    respond_eq_servePath fs site hmethod]
  simp only [status_finish]
  cases hserved : servedFile? fs site (askOf r) with
  | none =>
    obtain ⟨reply, hreply, hstatus⟩ := servePath_of_no_file hserved
    rw [hreply]
    constructor
    · rintro ⟨response, hresponse, hmodified⟩
      cases hresponse
      rw [hmodified] at hstatus
      exact absurd hstatus (by decide)
    · rintro ⟨_, _, h, _⟩
      cases h
  | some file =>
    rw [servePath_of_servedFile? hserved, serveFile_response, fileResponse_notModified_iff]
    constructor
    · rintro ⟨content, modified, rights, hnode, hdate, hsame⟩
      exact ⟨file, modified, rfl, stat_regular_iff.2 ⟨content, rights, hnode⟩, hdate, hsame⟩
    · rintro ⟨other, modified, hother, hstat, hdate, hsame⟩
      cases hother
      obtain ⟨content, rights, hnode⟩ := stat_regular_iff.1 hstat
      exact ⟨content, modified, rights, hnode, hdate, hsame⟩

/-- The client's copy is good, by the headers of the request. -/
theorem isUnchanged_askOf_iff {r : Request} {modified : Instant} :
    (askOf r).isUnchanged modified = true
      ↔ Headers.getText? r.headers .ifNoneMatch = none
        ∧ ∃ since, (Headers.getText? r.headers .ifModifiedSince).bind HttpDate.read? = some since
          ∧ modified.floor.le since = true := by
  unfold Ask.isUnchanged askOf
  dsimp only
  rw [Bool.and_eq_true, Option.isNone_iff_eq_none, Option.any_eq_true]

/-- The first value of a name is what is read of it. -/
theorem getText?_of_values {h : Headers} {n : HeaderName} {v : HeaderValue}
    {rest : List HeaderValue} (hv : Headers.values h n = v :: rest) :
    Headers.getText? h n = v.toText? := by
  unfold Headers.getText? Headers.get?
  rw [hv]
  rfl

/-- **When a named entity tag does not keep a request from `304`**: exactly if it is not text of
    visible ASCII, and the date that the request names is good for the file that it is answered
    from. -/
theorem notModified_with_tag_iff (fs : FileSystem) (site : Site) (peer : Text) (timing : Timing)
    (r : Request) (hmethod : r.method = .get ∨ r.method = .head) {tag : HeaderValue}
    {rest : List HeaderValue} (htag : Headers.values r.headers .ifNoneMatch = tag :: rest) :
    (∃ answer, handle fs site peer timing r = .ok answer
        ∧ answer.response.status = .notModified)
      ↔ tag.toText? = none
        ∧ ∃ file modified since, servedFile? fs site (askOf r) = some file
          ∧ fs.stat file = .ok (.regular modified) ∧ modified.hasDate = true
          ∧ (Headers.getText? r.headers .ifModifiedSince).bind HttpDate.read? = some since
          ∧ modified.floor.le since = true := by
  rw [status_notModified_iff hmethod]
  simp only [isUnchanged_askOf_iff, getText?_of_values htag]
  constructor
  · rintro ⟨file, modified, hserved, hstat, hdate, hunseen, since, hsince, hle⟩
    exact ⟨hunseen, file, modified, since, hserved, hstat, hdate, hsince, hle⟩
  · rintro ⟨hunseen, file, modified, since, hserved, hstat, hdate, hsince, hle⟩
    exact ⟨file, modified, hserved, hstat, hdate, hunseen, since, hsince, hle⟩

/-- A file system with the file `a` at the root `w`. -/
def datedFile : FileSystem where
  top := .directory [([0x77], .directory [([0x61], .file (.bytes [0x68]) ⟨784111777, 0⟩)])]
  here := []

theorem stat_datedFile : datedFile.stat [0x77, 0x2F, 0x61] = .ok (.regular ⟨784111777, 0⟩) := by
  have hplain : datedFile.top.IsPlain := Node.isPlain_directory (List.forall_mem_singleton.2
    ⟨by decide, Node.isPlain_directory (List.forall_mem_singleton.2
      ⟨by decide, Node.isPlain_file _ _ _⟩)⟩)
  exact stat_eq_of_node (FileSystem.node_of_names rfl hplain [[0x77], [0x61]] (by decide)
    (by simp) (by decide) rfl true)

/-- `GET /a` with the date of the file and an entity tag. -/
def taggedRequest (tag : HeaderValue) : Request :=
  getRequest "/a".toList (by decide)
    [(.ifModifiedSince, .ofText "Sun, 06 Nov 1994 08:49:37 GMT".toList (by decide)),
      (.ifNoneMatch, tag)]

/-- With the tag `"x"` the request does not get `304`. -/
theorem modified_for_visible_tag :
    ¬∃ answer, handle datedFile ⟨.default, [0x77], .indexOnly⟩ [] ⟨⟨⟨0, 0⟩, 0⟩, 0⟩
        (taggedRequest ⟨[0x22, 0x78, 0x22], by decide⟩) = .ok answer
      ∧ answer.response.status = .notModified := by
  intro h
  have htext := ((notModified_with_tag_iff datedFile ⟨.default, [0x77], .indexOnly⟩ _ _
    (taggedRequest ⟨[0x22, 0x78, 0x22], by decide⟩) (Or.inl rfl) (by rfl)).1 h).1
  cases htext

/-- With the tag `"é"`, written in Latin-1, it does. -/
theorem notModified_for_latin_tag :
    Headers.values (taggedRequest ⟨[0x22, 0xE9, 0x22], by decide⟩).headers .ifNoneMatch
        = [⟨[0x22, 0xE9, 0x22], by decide⟩]
      ∧ ∃ answer, handle datedFile ⟨.default, [0x77], .indexOnly⟩ [] ⟨⟨⟨0, 0⟩, 0⟩, 0⟩
          (taggedRequest ⟨[0x22, 0xE9, 0x22], by decide⟩) = .ok answer
        ∧ answer.response.status = .notModified := by
  refine ⟨by rfl, (status_notModified_iff (Or.inl rfl)).2 ?_⟩
  have hserved : servedFile? datedFile ⟨.default, [0x77], .indexOnly⟩
      (askOf (taggedRequest ⟨[0x22, 0xE9, 0x22], by decide⟩)) = some [0x77, 0x2F, 0x61] := by
    have htranslate : translate [0x77] "/a".toList = ⟨[0x77, 0x2F, 0x61], false⟩ := by decide
    unfold servedFile?
    dsimp only
    rw [show (askOf (taggedRequest ⟨[0x22, 0xE9, 0x22], by decide⟩)).path = "/a".toList from rfl,
      htranslate, stat_datedFile]
    rfl
  exact ⟨[0x77, 0x2F, 0x61], ⟨784111777, 0⟩, hserved, stat_datedFile, by decide,
    by decide +kernel⟩

end Docroot.Site

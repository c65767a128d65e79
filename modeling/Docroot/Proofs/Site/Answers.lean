import Docroot.Proofs.Files.Tree
import Docroot.Proofs.Percent
import Docroot.Proofs.Site.Responses

/-!
# When a request is answered

Every request is answered, unless it is to be answered from a regular file whose time is beyond the
calendar (`answered_iff`): no date can be written for that file, and serving gives up. Nothing else
ever gives up, neither on the way to the file (`Percent.decodeFrom?_eq`) nor when the response gets
its headers (`IsMade.hasRoom`).
-/

namespace Docroot.Site

open Docroot.Files
open Docroot.Http
open Docroot.Path (IsName push)
open Docroot.Time (Instant OutOfRange)

/-! ## 1. Files and paths -/

/-- **A file is answered exactly if its time has a date.** -/
theorem exists_fileResponse_iff {a : Ask} {file : Path} {node : Option Node} :
    (∃ r, fileResponse a file node = .ok r)
      ↔ ∀ content modified rights, node = some (.file content modified rights) →
        modified.hasDate = true := by
  constructor
  · rintro ⟨r, hr⟩ content modified rights rfl
    unfold fileResponse at hr
    dsimp only at hr
    split at hr
    · assumption
    · cases hr
  · intro h
    unfold fileResponse
    split
    · next content modified rights =>
      rw [if_pos (h content modified rights rfl)]
      exact ⟨_, rfl⟩
    · exact ⟨_, rfl⟩

/-- What is asked for is answered from a file that has a date, or from none. -/
def IsDated (fs : FileSystem) (site : Site) (a : Ask) : Prop :=
  ∀ file modified, servedFile? fs site a = some file → fs.stat file = .ok (.regular modified) →
    modified.hasDate = true

theorem exists_servePath_iff {fs : FileSystem} {site : Site} {a : Ask} :
    (∃ response, (servePath fs site a).map (·.response) = .ok response) ↔ IsDated fs site a := by
  unfold IsDated
  cases hserved : servedFile? fs site a with
  | none =>
    obtain ⟨reply, hreply, -⟩ := servePath_of_no_file hserved
    constructor
    · rintro - file modified h
      cases h
    · rintro -
      exact ⟨reply.response, by rw [hreply]; rfl⟩
  | some file =>
    rw [servePath_of_servedFile? hserved, serveFile_response, exists_fileResponse_iff]
    constructor
    · rintro h _ modified ⟨⟩ hstat
      obtain ⟨content, rights, hnode⟩ := stat_regular_iff.1 hstat
      exact h content modified rights hnode
    · intro h content modified rights hnode
      exact h file modified rfl (stat_regular_iff.2 ⟨content, rights, hnode⟩)

/-! ## 2. Requests -/

/-- There is an answer exactly if there is a response of the responder. -/
theorem exists_answer_iff {fs : FileSystem} {site : Site} {peer : Text} {timing : Timing}
    {r : Request} :
    (∃ answer, handle fs site peer timing r = .ok answer)
      ↔ ∃ response, (respond fs site r).map (·.response) = .ok response := by
  have h := @exists_handle_iff fs site peer timing r fun _ => True
  simpa using h

/-- **When a request is answered**: always, unless it is a GET or HEAD request to be answered from a
    regular file whose time has no date. Every response has room for the headers that it gets, and
    resolving escapes takes no octet behind the end. -/
theorem answered_iff (fs : FileSystem) (site : Site) (peer : Text) (timing : Timing) (r : Request) :
    ((∃ answer, handle fs site peer timing r = .ok answer)
        ↔ (r.method = .get ∨ r.method = .head → IsDated fs site (askOf r)))
      ∧ (∀ response, (respond fs site r).map (·.response) = .ok response →
          hasRoomForCors response.headers = true
            ∧ Headers.isFull (insertCors response.headers) = false)
      ∧ ∀ octets, Percent.decodeFrom? octets 0 = some (Percent.decodeBytes octets) := by
  refine ⟨?_, fun response h => (isMade_respond h).hasRoom, fun octets =>
    Percent.decodeFrom?_eq octets 0⟩
  rw [exists_answer_iff]
  by_cases hmethod : r.method = .get ∨ r.method = .head
  · rw [respond_eq_servePath fs site hmethod, exists_servePath_iff, forall_prop_of_true hmethod]
  · refine ⟨fun _ h => absurd h hmethod, fun _ => ?_⟩
    unfold respond
    rw [if_neg hmethod]
    exact ⟨_, rfl⟩

/-! ## 3. One file and its time -/

/-- The directory `w` with the file `f`, last changed at the given time. -/
def timedFile (modified : Instant) : FileSystem := loneFile [0x66] modified

theorem stat_timedFile (modified : Instant) :
    (timedFile modified).stat [0x77, 0x2F, 0x66] = .ok (.regular modified) :=
  stat_eq_of_node (node_loneFile modified (by decide) (by decide) (by decide) true)

/-- `GET /f` -/
def fileRequest : Request := getRequest "/f".toList (by decide) []

theorem servedFile?_timedFile (modified : Instant) :
    servedFile? (timedFile modified) ⟨.default, [0x77], .indexOnly⟩ (askOf fileRequest)
      = some [0x77, 0x2F, 0x66] := by
  have htranslate : translate [0x77] (askOf fileRequest).path = ⟨[0x77, 0x2F, 0x66], false⟩ := by
    decide
  unfold servedFile?
  dsimp only
  rw [htranslate, stat_timedFile]
  rfl

theorem isDated_timedFile {modified : Instant} (h : modified.hasDate = true) :
    IsDated (timedFile modified) ⟨.default, [0x77], .indexOnly⟩ (askOf fileRequest) := by
  intro file time hserved hstat
  rw [servedFile?_timedFile] at hserved
  cases hserved
  rw [stat_timedFile] at hstat
  cases hstat
  exact h

/-- A file of the last second of the calendar is answered. -/
theorem answered_lastSecond :
    ∃ answer, handle (timedFile ⟨8210266876799, 999999999⟩) ⟨.default, [0x77], .indexOnly⟩ []
      ⟨⟨⟨0, 0⟩, 0⟩, 0⟩ fileRequest = .ok answer :=
  (answered_iff _ _ _ _ _).1.2 fun _ => isDated_timedFile (by decide)

/-- A file of the second after that is not. -/
theorem unanswered_afterLastSecond :
    handle (timedFile ⟨8210266876800, 0⟩) ⟨.default, [0x77], .indexOnly⟩ [] ⟨⟨⟨0, 0⟩, 0⟩, 0⟩
      fileRequest = .error .outOfRange := by
  have hserve : serveFile (timedFile ⟨8210266876800, 0⟩) (askOf fileRequest) [0x77, 0x2F, 0x66]
      = .error .outOfRange := by
    unfold serveFile
    rw [stat_timedFile]
    dsimp only
    rw [Time.HttpDate.format_of_not_hasDate (by decide)]
    rfl
  unfold handle
  rw [respond_eq_servePath _ _ (Or.inl rfl), servePath_of_servedFile? (servedFile?_timedFile _),
    hserve]
  rfl

end Docroot.Site

import Docroot.Http.Wire
import Docroot.Proofs.Site.Serve

/-!
# The responses that there are

Whatever a request asks for, its response is made in one of five ways: a page, a redirect (bare if
its place cannot be a header value), the answer that the client's copy is good, or a file
(`isMade_respond`). What all responses have in common is read off these five: which names their
headers have (`IsMade.names_subset`), that a length given is the length of the body
(`IsMade.hasTrueLength`), and that there is room for the headers that every response gets
(`IsMade.hasRoom`).
-/

namespace Docroot.Site

open Docroot.Files
open Docroot.Http
open Docroot.Time (Instant OutOfRange)

/-! ## 1. Five ways to make a response -/

/-- **A response as the site makes it**, for a HEAD request or for another one. -/
inductive IsMade (isHead : Bool) : Response → Prop where
  | page {status : Status} (hbody : status.isBodiless = false) (type : HeaderValue) (page : Text) :
    IsMade isHead (pageResponse status type page isHead)
  | redirect (location : HeaderValue) :
    IsMade isHead
      ⟨.movedPermanently, [(.location, location), (.contentLength, .ofNat 0)], []⟩
  | bareRedirect : IsMade isHead ⟨.movedPermanently, [], []⟩
  | unchanged (modified : Instant) : IsMade isHead (unchangedResponse modified)
  | brought (file : Path) (data : Bytes) (modified : Instant) :
    IsMade isHead (broughtResponse file data modified isHead)

theorem isMade_notFoundResponse (isHead : Bool) : IsMade isHead (notFoundResponse isHead) :=
  .page (by decide) _ _

theorem isMade_redirectReply (isHead : Bool) (location : Text) :
    IsMade isHead (redirectReply location).response := by
  rw [redirectReply_cases]
  split
  · exact .redirect _
  · exact .bareRedirect

theorem isMade_fileResponse {a : Ask} {file : Path} {node : Option Node} {r : Response}
    (h : fileResponse a file node = .ok r) : IsMade a.isHead r := by
  unfold fileResponse at h
  split at h
  · next content modified rights =>
    split at h
    · split at h
      · cases h
        exact .unchanged modified
      · cases h
        cases content.read rights with
        | ok data => exact .brought file data modified
        | error e => exact isMade_notFoundResponse a.isHead
    · cases h
  · cases h
    exact isMade_notFoundResponse a.isHead

theorem isMade_listDirectory (fs : FileSystem) (a : Ask) (dir : Path) :
    IsMade a.isHead (listDirectory fs a dir).response := by
  unfold listDirectory
  split
  · exact .page (by decide) _ _
  · exact .page (by decide) _ _

theorem isMade_serveDirectory {fs : FileSystem} {policy : DirectoryPolicy} {a : Ask} {dir : Path}
    {r : Response} (h : (serveDirectory fs policy a dir).map (·.response) = .ok r) :
    IsMade a.isHead r := by
  unfold serveDirectory at h
  split at h
  · rw [serveFile_response] at h
    exact isMade_fileResponse h
  · split at h
    · cases h
      exact isMade_listDirectory fs a dir
    · cases h
      exact isMade_notFoundResponse a.isHead

theorem isMade_servePath {fs : FileSystem} {site : Site} {a : Ask} {r : Response}
    (h : (servePath fs site a).map (·.response) = .ok r) : IsMade a.isHead r := by
  rw [servePath_response] at h
  split at h
  · cases h
    exact isMade_notFoundResponse a.isHead
  · split at h
    · exact isMade_serveDirectory h
    · cases h
      exact isMade_redirectReply a.isHead _
  · split at h
    · cases h
      exact isMade_notFoundResponse a.isHead
    · exact isMade_fileResponse h

/-- **Every responder makes its response in one of these ways.** -/
theorem isMade_respond {fs : FileSystem} {site : Site} {r : Request} {response : Response}
    (h : (respond fs site r).map (·.response) = .ok response) :
    IsMade (decide (r.method = .head)) response := by
  by_cases hmethod : r.method = .get ∨ r.method = .head
  · rw [respond_eq_servePath fs site hmethod] at h
    exact isMade_servePath h
  · have hhead : decide (r.method = .head) = false := decide_eq_false (not_or.1 hmethod).2
    unfold respond at h
    rw [if_neg hmethod] at h
    cases h
    rw [hhead]
    exact .page (by decide) _ _

/-! ## 2. What they have in common -/

/-- The names of the site's own headers. -/
def ownNames : Finset HeaderName := {.contentType, .contentLength, .lastModified, .location}

section

variable {isHead : Bool} {r : Response}

/-- **No other header is in a response** as it is made. -/
theorem IsMade.names_subset (h : IsMade isHead r) : Headers.names r.headers ⊆ ownNames := by
  cases h with
  | page hbody type page =>
    show ({.contentType, .contentLength} : Finset HeaderName) ⊆ ownNames
    decide
  | redirect location =>
    show ({.location, .contentLength} : Finset HeaderName) ⊆ ownNames
    decide
  | bareRedirect => exact Finset.empty_subset _
  | unchanged modified =>
    show ({.lastModified} : Finset HeaderName) ⊆ ownNames
    decide
  | brought file data modified =>
    show ({.contentType, .contentLength, .lastModified} : Finset HeaderName) ⊆ ownNames
    decide

/-- **Lengths are true**: a length given is that of the body, and a response with status 200 or 404
    gives one. -/
structure HasTrueLength (r : Response) : Prop where
  length : ∀ v ∈ Headers.values r.headers .contentLength, v = .ofNat r.body.length
  given : r.status = .ok ∨ r.status = .notFound →
    Headers.values r.headers .contentLength = [.ofNat r.body.length]

theorem hasTrueLength_of_values
    (h : Headers.values r.headers .contentLength = [.ofNat r.body.length]) : HasTrueLength r where
  length v hv := by rwa [h, List.mem_singleton] at hv
  given _ := h

/-- **The length is true in every response to a request other than HEAD.** -/
theorem IsMade.hasTrueLength (h : IsMade false r) : HasTrueLength r := by
  cases h with
  | page hbody type page => exact hasTrueLength_of_values rfl
  | redirect location => exact hasTrueLength_of_values rfl
  | bareRedirect =>
    exact ⟨fun v hv => (List.not_mem_nil hv).elim, by rintro (e | e) <;> cases e⟩
  | unchanged modified =>
    exact ⟨fun v hv => (List.not_mem_nil hv).elim, by rintro (e | e) <;> cases e⟩
  | brought file data modified => exact hasTrueLength_of_values rfl

/-- **There is room for what every response gets.** -/
theorem IsMade.hasRoom (h : IsMade isHead r) :
    hasRoomForCors r.headers = true ∧ Headers.isFull (insertCors r.headers) = false := by
  have hown : (Headers.names r.headers).card ≤ ownNames.card := Finset.card_le_card h.names_subset
  have hfour : ownNames.card = 4 := by decide
  apply isFull_insertCors_of_card
  unfold Headers.maxNames
  omega

end

end Docroot.Site

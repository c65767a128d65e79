import Docroot.Proofs.Site.Answers

/-!
# HEAD mirrors GET

The answer to a HEAD request is the answer to the GET request with the same target and headers, less
the body (`head_mirrors_get`): status and header section are the same, and where the one has no
answer the other has none. So the length in it is that of the body that GET brings, which is true
(`HasTrueLength`).

Each part of serving is asked twice, by a request and by its twin for HEAD (`Ask.forHead`); the
bodies are left out at the very end of each part, and no part looks at what the request is before.
-/

namespace Docroot.Site

open Docroot.Files
open Docroot.Http
open Docroot.Time (Instant OutOfRange)

/-! ## 1. Asked for HEAD -/

/-- The same, asked by a HEAD request. -/
def Ask.forHead (a : Ask) : Ask := { a with isHead := true }

section

variable {a : Ask}

theorem fileResponse_forHead (h : a.isHead = false) (file : Path) (node : Option Node) :
    fileResponse a.forHead file node = (fileResponse a file node).map Response.withoutBody := by
  have hsame (modified : Instant) : a.forHead.isUnchanged modified = a.isUnchanged modified := rfl
  have hhead : a.forHead.isHead = true := rfl
  unfold fileResponse
  split
  · next content modified rights =>
    rw [hsame, h, hhead]
    split
    · split
      · rfl
      · cases content.read rights <;> rfl
    · rfl
  · rw [h, hhead]
    rfl

theorem listDirectory_forHead (h : a.isHead = false) (fs : FileSystem) (dir : Path) :
    (listDirectory fs a.forHead dir).response
      = (listDirectory fs a dir).response.withoutBody := by
  have htarget : a.forHead.target = a.target := rfl
  have hhead : a.forHead.isHead = true := rfl
  unfold listDirectory
  rw [htarget, h, hhead]
  split <;> rfl

theorem serveDirectory_forHead (h : a.isHead = false) (fs : FileSystem) (policy : DirectoryPolicy)
    (dir : Path) :
    (serveDirectory fs policy a.forHead dir).map (·.response)
      = ((serveDirectory fs policy a dir).map (·.response)).map Response.withoutBody := by
  unfold serveDirectory
  split
  · rw [serveFile_response, serveFile_response, fileResponse_forHead h]
  · split
    · exact congrArg Except.ok (listDirectory_forHead h fs dir)
    · show Except.ok (notFoundResponse true) = .ok (notFoundResponse a.isHead).withoutBody
      rw [h]
      rfl

/-- **A path asked for by HEAD** gets the response that it gets otherwise, less the body. -/
theorem servePath_forHead (h : a.isHead = false) (fs : FileSystem) (site : Site) :
    (servePath fs site a.forHead).map (·.response)
      = ((servePath fs site a).map (·.response)).map Response.withoutBody := by
  have hpath : a.forHead.path = a.path := rfl
  have hlocation : a.forHead.directoryLocation = a.directoryLocation := rfl
  have hmissing : notFoundResponse a.forHead.isHead
      = (notFoundResponse a.isHead).withoutBody := by
    rw [h]
    rfl
  have hbare : (redirectReply a.directoryLocation).response
      = (redirectReply a.directoryLocation).response.withoutBody := by
    rw [redirectReply_cases]
    split <;> rfl
  rw [servePath_response, servePath_response, hpath, hlocation, hmissing]
  split
  · rfl
  · split
    · exact serveDirectory_forHead h fs site.policy _
    · exact congrArg Except.ok hbare
  · split
    · rfl
    · exact fileResponse_forHead h _ _

end

/-! ## 2. Requests -/

theorem finish_withoutBody (serverName : Text) (r : Response) :
    finish serverName r.withoutBody = (finish serverName r).withoutBody := by
  unfold finish
  dsimp only [Response.withoutBody]
  split <;> rfl

theorem HasTrueLength.finish {r : Response} (h : HasTrueLength r) (serverName : Text) :
    HasTrueLength (finish serverName r) where
  length := by
    rw [values_finish serverName r (by decide), body_finish]
    exact h.length
  given := by
    rw [values_finish serverName r (by decide), body_finish, status_finish]
    exact h.given

/-- **HEAD mirrors GET, and lengths are true.** The response to a request by HEAD is the response to
    the same request by GET less its body, and in that the length is the length of the body. -/
theorem head_mirrors_get (fs : FileSystem) (site : Site) (r : Request) (headPeer getPeer : Text)
    (headTiming getTiming : Timing) :
    (handle fs site headPeer headTiming { r with method := .head }).map (·.response)
        = ((handle fs site getPeer getTiming { r with method := .get }).map (·.response)).map
            Response.withoutBody
      ∧ ∀ answer, handle fs site getPeer getTiming { r with method := .get } = .ok answer →
          HasTrueLength answer.response := by
  constructor
  · have hask : askOf { r with method := .head } = (askOf { r with method := .get }).forHead := by
      unfold askOf Ask.forHead
      rfl
    rw [handle_response, handle_response, respond_eq_servePath fs site (Or.inr rfl),
      respond_eq_servePath fs site (Or.inl rfl), hask, servePath_forHead rfl]
    cases (servePath fs site (askOf { r with method := .get })).map (·.response) with
    | error e => rfl
    | ok response => exact congrArg Except.ok (finish_withoutBody _ response)
  · intro answer hanswer
    obtain ⟨response, hresponse, hfinish⟩ :=
      (exists_handle_iff (P := fun response => answer.response = response)).1 ⟨answer, hanswer, rfl⟩
    rw [hfinish]
    exact (isMade_respond hresponse).hasTrueLength.finish _

/-- Both requests for a file are answered, and the length is that of the file. -/
theorem head_mirrors_get_of_file :
    ∃ get head,
      handle (timedFile ⟨0, 0⟩) ⟨.default, [0x77], .indexOnly⟩ [] ⟨⟨⟨0, 0⟩, 0⟩, 0⟩ fileRequest
          = .ok get
        ∧ handle (timedFile ⟨0, 0⟩) ⟨.default, [0x77], .indexOnly⟩ [] ⟨⟨⟨0, 0⟩, 0⟩, 0⟩
            { fileRequest with method := .head } = .ok head
        ∧ head.response = get.response.withoutBody
        ∧ HasTrueLength get.response := by
  obtain ⟨hmirror, hlength⟩ := head_mirrors_get (timedFile ⟨0, 0⟩) ⟨.default, [0x77], .indexOnly⟩
    fileRequest [] [] ⟨⟨⟨0, 0⟩, 0⟩, 0⟩ ⟨⟨⟨0, 0⟩, 0⟩, 0⟩
  have hdated := isDated_timedFile (show (⟨0, 0⟩ : Instant).hasDate = true by decide)
  have hserved := exists_servePath_iff.2 hdated
  rw [← respond_eq_servePath _ _ (Or.inl rfl)] at hserved
  obtain ⟨get, hget⟩ := (@exists_answer_iff _ _ [] ⟨⟨⟨0, 0⟩, 0⟩, 0⟩ fileRequest).2 hserved
  rw [show ({ fileRequest with method := .get } : Request) = fileRequest from rfl, hget] at hmirror
  obtain ⟨head, hhead, hsame⟩ :=
    (exists_map_iff (P := fun response => response = get.response.withoutBody)).1
      ⟨_, hmirror, rfl⟩
  exact ⟨get, head, hget, hhead, hsame, hlength get hget⟩

end Docroot.Site

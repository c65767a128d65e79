import Docroot.Proofs.Site.Answers

/-!
# What every response carries

Every answer is the response of its responder with the three cross-origin headers, once each, and
the server's name, if it can be a header value; nothing else of it is changed
(`finishes_finish`). Inserting the cross-origin headers into any section with room for them does the
same to it (`setsCors_insertCors`).
-/

namespace Docroot.Site

open Docroot.Files
open Docroot.Http
open Docroot.Time (Instant OutOfRange)

/-- **One response is the other with what every response carries**: the three cross-origin headers,
    the server's name if it can be a value, and otherwise what the other has. -/
structure Finishes (serverName : Text) (own final : Response) : Prop where
  status : final.status = own.status
  body : final.body = own.body
  cors : HasCors final.headers
  server : Headers.values final.headers .server = (HeaderValue.ofText? serverName).toList
  others : ∀ n, n ∉ addedNames → Headers.values final.headers n = Headers.values own.headers n

/-- **Every response that does not name the server itself is finished so.** -/
theorem finishes_finish (serverName : Text) {own : Response}
    (h : .server ∉ Headers.names own.headers) :
    Finishes serverName own (finish serverName own) where
  status := status_finish serverName own
  body := body_finish serverName own
  cors := by
    have hcors := (setsCors_insertCors own.headers).cors
    constructor
    · rw [values_finish_of_ne serverName own (by decide), hcors.origin]
    · rw [values_finish_of_ne serverName own (by decide), hcors.methods]
    · rw [values_finish_of_ne serverName own (by decide), hcors.headers]
  server := by
    unfold finish
    dsimp only
    cases HeaderValue.ofText? serverName with
    | some v =>
      dsimp only
      rw [Headers.values_insert, if_pos rfl]
      rfl
    | none =>
      dsimp only
      rw [values_insertCors_of_notMem (by decide)]
      exact Headers.values_eq_nil_iff.2 h
  others n hn := values_finish serverName own hn

/-- The site itself never names the server. -/
theorem IsMade.server_notMem {isHead : Bool} {r : Response} (h : IsMade isHead r) :
    .server ∉ Headers.names r.headers :=
  fun hm => absurd (h.names_subset hm) (by decide)

/-- **Every answer carries the cross-origin headers once, and the server's name.** Each response of
    a responder has room for them, and the answer has them and is that response in everything else;
    and there is no answer but these. Inserted into any section that has room, the three headers
    are set and nothing else is changed, and where they can be inserted once more that changes
    nothing. -/
theorem carries_cors_once :
    (∀ (fs : FileSystem) (site : Site) (peer : Text) (timing : Timing) (r : Request),
      (∀ reply, respond fs site r = .ok reply →
        (insertCors? reply.response.headers).isSome = true
          ∧ ∃ answer, handle fs site peer timing r = .ok answer
            ∧ Finishes site.settings.serverName reply.response answer.response)
      ∧ ∀ e, respond fs site r = .error e → handle fs site peer timing r = .error e)
    ∧ ∀ h : Headers,
        ((insertCors? h).isSome = true
          ↔ (insert .allowMethods (insert .allowOrigin (Headers.names h))).card < Headers.maxNames)
        ∧ ∀ set, insertCors? h = some set →
            SetsCors h set ∧ ∀ again, insertCors? set = some again → again = set := by
  constructor
  · intro fs site peer timing r
    constructor
    · intro reply hreply
      have hmade : IsMade (decide (r.method = .head)) reply.response :=
        @isMade_respond fs site r reply.response (by rw [hreply]; rfl)
      refine ⟨?_, ?_⟩
      · unfold insertCors?
        rw [if_pos hmade.hasRoom.1]
        rfl
      · unfold handle
        rw [hreply]
        exact ⟨_, rfl, finishes_finish _ hmade.server_notMem⟩
    · intro e he
      unfold handle
      rw [he]
      rfl
  · refine fun h => ⟨isSome_insertCors?_iff, fun set hset => ?_⟩
    obtain ⟨-, rfl⟩ := insertCors?_eq_some_iff.1 hset
    refine ⟨setsCors_insertCors h, fun again hagain => ?_⟩
    obtain ⟨-, rfl⟩ := insertCors?_eq_some_iff.1 hagain
    exact insertCors_insertCors h

/-- `POST /` -/
def postRequest : Request :=
  ⟨⟨"POST".toList, by decide⟩, ⟨false, ['/'], none, by decide, noQuery_legal⟩, .http11, []⟩

/-- A section with two earlier origins and another header between them. -/
def earlierOrigins : Headers :=
  [(.allowOrigin, .ofText "http://a".toList (by decide)),
    (.location, .ofText ['/'] (by decide)),
    (.allowOrigin, .ofText "http://b".toList (by decide))]

/-- A method that is refused is answered with the headers, and they replace earlier ones. -/
theorem carries_cors_when_refused :
    (∃ reply answer,
      respond (timedFile ⟨0, 0⟩) ⟨.default, [0x77], .indexOnly⟩ postRequest = .ok reply
        ∧ handle (timedFile ⟨0, 0⟩) ⟨.default, [0x77], .indexOnly⟩ [] ⟨⟨⟨0, 0⟩, 0⟩, 0⟩ postRequest
            = .ok answer
        ∧ Finishes Settings.default.serverName reply.response answer.response)
      ∧ insertCors? earlierOrigins = some (insertCors earlierOrigins)
      ∧ SetsCors earlierOrigins (insertCors earlierOrigins) := by
  obtain ⟨hanswers, hinserts⟩ := carries_cors_once
  have hrefused : respond (timedFile ⟨0, 0⟩) ⟨.default, [0x77], .indexOnly⟩ postRequest
      = .ok {
        response := notImplementedResponse "POST".toList false
        notices := [.unsupportedMethod postRequest.method] } := by
    unfold respond
    rw [if_neg (by decide)]
    rfl
  obtain ⟨-, answer, hanswer, hfinishes⟩ := (hanswers _ _ [] ⟨⟨⟨0, 0⟩, 0⟩, 0⟩ _).1 _ hrefused
  obtain ⟨hroom, hsets⟩ := hinserts earlierOrigins
  obtain ⟨set, hset⟩ := Option.isSome_iff_exists.1 (hroom.2 (by decide))
  obtain ⟨-, rfl⟩ := insertCors?_eq_some_iff.1 hset
  exact ⟨⟨_, answer, hrefused, hanswer, hfinishes⟩, hset, (hsets _ hset).1⟩

end Docroot.Site

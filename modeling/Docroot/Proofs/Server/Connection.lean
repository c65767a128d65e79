import Docroot.Proofs.Http.Head
import Docroot.Proofs.Http.Wire
import Docroot.Proofs.Site.Intended
import Docroot.Proofs.Site.Serving
import Docroot.Server.Connection

/-!
# One message for each connection

Whatever a client sends, it gets nothing or one message, and nothing behind that
(`one_message_or_part`). Where the request was answered, the lines of the message are those of the
answer, with the connection and the date, and its body is that of the answer: no text that came with
the request can put a line or a message of its own there, since no value of a header can hold the
end of a line.

It takes both halves to say so: every response that the site makes gives its length exactly if its
status has a body (`isMeasured_respond`), and what is sent of such a response is read in one piece
(`Http.readMessage?_message`).

A client that does not take all of its message is left with a part from the front when the server
tires of it. That happens (`part_for_stalledClient`), but no such part passes for a message.
-/

namespace Docroot.Site

open Docroot.Files
open Docroot.Http

/-! ## 1. The responses that are sent -/

section

variable {isHead : Bool} {r : Response}

/-- There is no body where none is expected. -/
theorem IsMade.body_eq_nil (h : IsMade isHead r)
    (hnone : isHead = true ∨ r.status.isBodiless = true) : r.body = [] := by
  cases h with
  | page hbody type page =>
    rcases hnone with rfl | hstatus
    · rfl
    · exact absurd (hbody.symm.trans hstatus) Bool.false_ne_true
  | redirect location => rfl
  | bareRedirect => rfl
  | unchanged modified => rfl
  | brought file data modified =>
    rcases hnone with rfl | hstatus
    · rfl
    · cases hstatus

/-- No response names a coding. -/
theorem IsMade.values_transferEncoding (h : IsMade isHead r) :
    Headers.values r.headers .transferEncoding = [] :=
  Headers.values_eq_nil_iff.2 fun hm => absurd (h.names_subset hm) (by decide)

/-- **A response gives its length exactly if its status has a body**, unless it is a redirect to no
    place. -/
theorem IsMade.isMeasured (h : IsMade isHead r)
    (hplace : r.status = .movedPermanently → Headers.values r.headers .location ≠ []) :
    IsMeasured isHead r := by
  cases h with
  | page hbody type page =>
    refine isMeasured_of_values hbody rfl ?_
    rintro rfl
    rfl
  | redirect location => exact isMeasured_of_values rfl rfl fun _ => rfl
  | bareRedirect => exact absurd rfl (hplace rfl)
  | unchanged modified => exact isMeasured_of_isBodiless rfl rfl
  | brought file data modified =>
    refine isMeasured_of_values rfl rfl ?_
    rintro rfl
    rfl

theorem isMeasured_finish (h : IsMeasured isHead r) (serverName : Text) :
    IsMeasured isHead (finish serverName r) := by
  unfold IsMeasured
  rw [status_finish, body_finish, values_finish serverName r (by decide)]
  exact h

end

theorem isMade_of_respond {fs : FileSystem} {site : Site} {r : Request} {reply : Reply}
    (h : respond fs site r = .ok reply) :
    IsMade (decide (r.method = .head)) reply.response :=
  @isMade_respond fs site r reply.response (by rw [h]; rfl)

/-- **Every response to a request gives its length exactly if its status has a body**, if a header can
    name its target. -/
theorem isMeasured_respond {fs : FileSystem} {site : Site} {r : Request} {reply : Reply}
    (h : respond fs site r = .ok reply) (hnameable : r.target.IsNameable) :
    IsMeasured (decide (r.method = .head)) reply.response := by
  refine (isMade_of_respond h).isMeasured fun hstatus hnone => ?_
  have hplace := location_of_status h hstatus
  rw [hnone, if_pos hnameable] at hplace
  cases hplace

end Docroot.Site

namespace Docroot.Server

open Docroot.Files
open Docroot.Http
open Docroot.Log (Item)
open Docroot.Site (Timing Handled handle)
open Docroot.Time (OutOfRange Instant)

/-! ## 2. Messages -/

/-- **A message that carries a response**: it has the status and the body of the response, and its
    lines are those of the response, the connection and the date, and no other. -/
structure Carries (d : Delivery) (r : Response) (m : Message) : Prop where
  status : m.status = r.status
  lines : m.lines.Perm ((r.headers ++ d.connectionFields ++ d.dateFields).map fieldLine)
  body : m.body = r.body

/-- **The message that is sent for an answer** is read in one piece and carries the answer. -/
theorem readMessage?_answer {fs : FileSystem} {site : Site} {peer : Text} {timing : Timing}
    {r : Request} {answer : Handled} (h : handle fs site peer timing r = .ok answer)
    (hnameable : r.target.IsNameable) :
    ∃ m, readMessage? (decide (r.method = .head))
        ((deliveryOf r timing).message answer.response) = some (m, [])
      ∧ Carries (deliveryOf r timing) answer.response m := by
  obtain ⟨reply, hreply, hresponse⟩ := Site.exists_reply_of_handle h
  have hmade := Site.isMade_of_respond hreply
  have hmeasured : IsMeasured (deliveryOf r timing).isHead answer.response := by
    rw [hresponse]
    exact Site.isMeasured_finish (Site.isMeasured_respond hreply hnameable) _
  have hcoding : Headers.values answer.response.headers .transferEncoding = [] := by
    rw [hresponse, Site.values_finish _ _ (by decide), hmade.values_transferEncoding]
  have hbody : (deliveryOf r timing).body answer.response = answer.response.body := by
    unfold Delivery.body
    split
    · next hnone =>
      rw [hresponse, Site.status_finish] at hnone
      rw [hresponse, Site.body_finish, hmade.body_eq_nil hnone]
    · rfl
  have hframed := isFramed_fields hcoding fun hhead => by
    rw [hhead] at hmeasured
    exact hmeasured.hasOwnLength
  exact ⟨_, readMessage?_message hframed, rfl, (perm_fields hmeasured).map _, hbody⟩

/-- **The message that is sent for a faulty head** is read in one piece, also by a client that takes
    its request for one for the head alone. -/
theorem readMessage?_fault (isHead : Bool) (status : Status) (now : Instant) :
    ∃ m, readMessage? isHead (Delivery.message ⟨.http11, false, now⟩ ⟨status, [], []⟩)
      = some (m, []) := by
  have hframed := @isFramed_fields ⟨.http11, false, now⟩ ⟨status, [], []⟩ rfl fun _ => Or.inl rfl
  have hbody : Delivery.body ⟨.http11, false, now⟩ ⟨status, [], []⟩ = [] := ite_self []
  refine ⟨_, readMessage?_message ?_⟩
  unfold IsFramed at hframed ⊢
  split
  · exact hbody
  · next hsome =>
    rwa [if_neg (by simpa using (not_or.1 hsome).2)] at hframed

/-! ## 3. What is taken of a message -/

/-- The octets of a message that are taken. -/
def Disturbance.taking (d : Disturbance) (message : Bytes) : Bytes :=
  match d with
  | .stalls taken | .cut taken _ | .refuses taken _ => message.take taken
  | _ => message

/-- What comes before there is an answer. -/
def Disturbance.isEarly : Disturbance → Bool
  | .lost _ | .delayed => true
  | _ => false

section

variable {d : Disturbance} {message : Bytes}

/-- Sending goes to the end where all is taken. -/
theorem Disturbance.stop?_eq_none_iff : d.stop? message = none ↔ d.taking message = message := by
  unfold Disturbance.stop? Disturbance.taking
  cases d <;> simp [Option.filter_eq_none_iff, List.take_eq_self_iff]

/-- **Where sending stops, and why.** -/
theorem Disturbance.stop?_eq_some_iff {taken : Nat} {f : Option Failure} :
    d.stop? message = some (taken, f)
      ↔ taken < message.length ∧ ((d = .stalls taken ∧ f = none)
        ∨ (∃ loss, d = .cut taken loss ∧ f = some loss.failure)
        ∨ ∃ code, d = .refuses taken code ∧ f = some (.writing code)) := by
  constructor
  · intro h
    unfold Disturbance.stop? at h
    obtain ⟨hstop, hpart⟩ := Option.filter_eq_some_iff.1 h
    refine ⟨of_decide_eq_true hpart, ?_⟩
    cases d with
    | stalls n =>
      cases hstop
      exact Or.inl ⟨rfl, rfl⟩
    | cut n loss =>
      cases hstop
      exact Or.inr (Or.inl ⟨loss, rfl, rfl⟩)
    | refuses n code =>
      cases hstop
      exact Or.inr (Or.inr ⟨code, rfl, rfl⟩)
    | _ => cases hstop
  · rintro ⟨hpart, ⟨rfl, rfl⟩ | ⟨loss, rfl, rfl⟩ | ⟨code, rfl, rfl⟩⟩ <;>
      exact if_pos (decide_eq_true hpart)

/-- Where sending stops, so much is taken. -/
theorem Disturbance.taking_of_stop? {taken : Nat} {f : Option Failure}
    (h : d.stop? message = some (taken, f)) :
    d.taking message = message.take taken ∧ taken < message.length := by
  obtain ⟨hpart, ⟨rfl, -⟩ | ⟨loss, rfl, -⟩ | ⟨code, rfl, -⟩⟩ := stop?_eq_some_iff.1 h <;>
    exact ⟨rfl, hpart⟩

theorem Disturbance.taking_eq_or (d : Disturbance) (message : Bytes) :
    d.taking message = message
      ∨ ∃ taken, d.taking message = message.take taken ∧ taken < message.length := by
  cases hstop : d.stop? message with
  | none => exact Or.inl (stop?_eq_none_iff.1 hstop)
  | some stop => exact Or.inr ⟨stop.1, taking_of_stop? hstop⟩

end

/-! ## 4. Connections -/

/-- The octets that a client gets. -/
def received : Except Unserved Served → Bytes
  | .ok served => served.reply
  | .error (.endless reply) => reply
  | .error (.unanswered _) => []

theorem received_outlasted (limit : Nat) (peer : SocketAddress) (reply : Bytes)
    (items : List Item) : received (outlasted limit peer reply items) = reply := by
  unfold outlasted
  split <;> rfl

/-- **A client gets what is taken of the message that is sent.** -/
theorem received_send (limit : Nat) (client : Client) (message : Bytes) (items : List Item)
    (about : Option Failure) :
    received (send limit client message items about) = client.disturbance.taking message := by
  unfold send
  split
  · next hstop => exact (Disturbance.stop?_eq_none_iff.1 hstop).symm
  · next hstop => exact (Disturbance.taking_of_stop? hstop).1.symm
  · next hstop =>
    rw [received_outlasted]
    exact (Disturbance.taking_of_stop? hstop).1.symm

section

variable {fs : FileSystem} {site : Site} {timing : Timing} {client : Client}

theorem received_of_unfinished (h : readHead client.sent = .error .unfinished) :
    received (serveConnection fs site timing client) = [] := by
  unfold serveConnection
  rw [h]
  dsimp only
  split
  · unfold lostInHead
    split <;> rfl
  · unfold waitedInVain
    split <;> rfl

theorem received_of_refused {fault : HeadFault}
    (h : readHead client.sent = .error (.refused fault)) :
    received (serveConnection fs site timing client)
      = client.disturbance.taking (fault.message timing.now.instant) := by
  unfold serveConnection
  rw [h]
  exact received_send ..

theorem received_of_isEarly {r : Request} (h : readHead client.sent = .ok r)
    (hearly : client.disturbance.isEarly = true) :
    received (serveConnection fs site timing client) = [] := by
  unfold serveConnection
  rw [h]
  dsimp only
  split
  · rfl
  · exact received_outlasted ..
  · next hlost hdelayed =>
    cases hd : client.disturbance with
    | lost loss => exact absurd hd (hlost loss)
    | delayed => exact absurd hd hdelayed
    | _ =>
      rw [hd] at hearly
      cases hearly

/-- A request that was read is answered, unless something comes before that. -/
theorem serveConnection_of_readHead {r : Request} (h : readHead client.sent = .ok r)
    (hearly : client.disturbance.isEarly = false) :
    serveConnection fs site timing client = answer fs site timing client r := by
  unfold serveConnection
  rw [h]
  dsimp only
  split
  · next hd =>
    rw [hd] at hearly
    cases hearly
  · next hd =>
    rw [hd] at hearly
    cases hearly
  · rfl

theorem received_of_handle {r : Request} (h : readHead client.sent = .ok r)
    (hearly : client.disturbance.isEarly = false) {answer : Handled}
    (hanswer : handle fs site client.peer.ip.toText timing r = .ok answer) :
    received (serveConnection fs site timing client)
      = client.disturbance.taking ((deliveryOf r timing).message answer.response) := by
  rw [serveConnection_of_readHead h hearly]
  unfold Server.answer
  rw [hanswer]
  exact received_send ..

theorem received_of_error {r : Request} (h : readHead client.sent = .ok r)
    (hearly : client.disturbance.isEarly = false) {e : OutOfRange}
    (he : handle fs site client.peer.ip.toText timing r = .error e) :
    received (serveConnection fs site timing client) = [] := by
  rw [serveConnection_of_readHead h hearly]
  unfold Server.answer
  rw [he]
  rfl

end

/-- What a client may take its request for: one for the head alone or not, if it was read, and
    anything if it was faulty. -/
def MayExpect (sent : Bytes) (isHead : Bool) : Prop :=
  ∀ r, readHead sent = .ok r → isHead = decide (r.method = .head)

/-- **What a client gets of one message**, which it would read in one piece, with nothing behind it. -/
structure GetsOf (client : Client) (isHead : Bool) (message : Bytes) (m : Message)
    (got : Bytes) : Prop where
  reads : readMessage? isHead message = some (m, [])
  /-- It gets what is taken: all, unless taking it is disturbed. -/
  taken : got = client.disturbance.taking message
  /-- A part of the message does not pass for a message. -/
  part : got ≠ message → readMessage? isHead got = none

theorem getsOf_taking {isHead : Bool} {message : Bytes} {m : Message}
    (h : readMessage? isHead message = some (m, [])) (client : Client) :
    GetsOf client isHead message m (client.disturbance.taking message) where
  reads := h
  taken := rfl
  part hpart := by
    rcases client.disturbance.taking_eq_or message with hall | ⟨taken, htaken, hless⟩
    · exact absurd hall hpart
    · rw [htaken]
      exact readMessage?_take h hless

/-- **At most one message for each connection.** Whatever a client sends, it gets nothing, or what it
    takes of one message and nothing behind it. If its request is answered, the message carries the
    answer. -/
theorem one_message_or_part (fs : FileSystem) (site : Site) (timing : Timing) (client : Client) :
    (∀ isHead, MayExpect client.sent isHead →
      received (serveConnection fs site timing client) = []
        ∨ ∃ message m, GetsOf client isHead message m
            (received (serveConnection fs site timing client)))
      ∧ ∀ r answer, readHead client.sent = .ok r → client.disturbance.isEarly = false →
        handle fs site client.peer.ip.toText timing r = .ok answer →
          ∃ m, GetsOf client (decide (r.method = .head))
              ((deliveryOf r timing).message answer.response) m
              (received (serveConnection fs site timing client))
            ∧ Carries (deliveryOf r timing) answer.response m := by
  constructor
  · intro isHead hexpect
    cases hread : readHead client.sent with
    | error halt =>
      cases halt with
      | unfinished => exact Or.inl (received_of_unfinished hread)
      | refused fault =>
        rw [received_of_refused hread]
        unfold HeadFault.message
        cases fault.status? with
        | none =>
          refine Or.inl ?_
          rcases client.disturbance.taking_eq_or [] with hall | ⟨taken, -, hless⟩
          · exact hall
          · exact absurd hless (Nat.not_lt_zero taken)
        | some status =>
          obtain ⟨m, hm⟩ := readMessage?_fault isHead status timing.now.instant
          exact Or.inr ⟨_, m, getsOf_taking hm client⟩
    | ok r =>
      cases hearly : client.disturbance.isEarly with
      | true => exact Or.inl (received_of_isEarly hread hearly)
      | false =>
        cases hanswer : handle fs site client.peer.ip.toText timing r with
        | error e => exact Or.inl (received_of_error hread hearly hanswer)
        | ok answer =>
          obtain ⟨m, hm, -⟩ := readMessage?_answer hanswer (isNameable_of_readHead hread)
          rw [received_of_handle hread hearly hanswer, hexpect r hread]
          exact Or.inr ⟨_, m, getsOf_taking hm client⟩
  · intro r answer hread hearly hanswer
    obtain ⟨m, hm, hcarries⟩ := readMessage?_answer hanswer (isNameable_of_readHead hread)
    rw [received_of_handle hread hearly hanswer]
    exact ⟨m, getsOf_taking hm client, hcarries⟩

/-! ## 5. Two clients -/

/-- A client that sends `GET /f` and another request right behind it. -/
def twoRequests (d : Disturbance) : Client where
  peer := ⟨.v4 127 0 0 1, 54321, 0⟩
  sent := Utf8.encode "GET /f HTTP/1.1\r\n\r\nGET / HTTP/1.1\r\n\r\n".toList
  disturbance := d

theorem readHead_twoRequests (d : Disturbance) : ∃ r, readHead (twoRequests d).sent = .ok r
    ∧ r.method = .get ∧ r.target.path = "/f".toList ∧ r.headers = [] := by
  have hparts : (readHead (twoRequests d).sent).toOption.map
      (fun r => (r.method, r.target.path, r.headers.length)) = some (.get, "/f".toList, 0) := by
    change (readHead (twoRequests .nothing).sent).toOption.map _ = _
    decide +kernel
  cases hread : readHead (twoRequests d).sent with
  | error halt =>
    rw [hread] at hparts
    cases hparts
  | ok r =>
    rw [hread] at hparts
    obtain ⟨hmethod, hrest⟩ := Prod.mk.inj (Option.some.inj hparts)
    obtain ⟨hpath, hheaders⟩ := Prod.mk.inj hrest
    exact ⟨r, rfl, hmethod, hpath, List.length_eq_zero_iff.1 hheaders⟩

/-- The first of two requests is answered, and nothing else is sent. -/
theorem one_message_for_twoRequests :
    ∃ r answer m, readHead (twoRequests .nothing).sent = .ok r
      ∧ handle (Site.timedFile ⟨0, 0⟩) ⟨.default, [0x77], .indexOnly⟩
          (twoRequests .nothing).peer.ip.toText ⟨⟨⟨0, 0⟩, 0⟩, 0⟩ r = .ok answer
      ∧ readMessage? false (received (serveConnection (Site.timedFile ⟨0, 0⟩)
          ⟨.default, [0x77], .indexOnly⟩ ⟨⟨⟨0, 0⟩, 0⟩, 0⟩ (twoRequests .nothing))) = some (m, [])
      ∧ Carries (deliveryOf r ⟨⟨⟨0, 0⟩, 0⟩, 0⟩) answer.response m := by
  obtain ⟨r, hread, hmethod, hpath, -⟩ := readHead_twoRequests .nothing
  have hdated : Site.IsDated (Site.timedFile ⟨0, 0⟩) ⟨.default, [0x77], .indexOnly⟩
      (Site.askOf r) := by
    intro file modified hserved
    rw [Site.servedFile?_congr (b := Site.askOf Site.fileRequest) _ _ hpath] at hserved
    exact Site.isDated_timedFile (by decide) file modified hserved
  have hserve := Site.exists_servePath_iff.2 hdated
  rw [← Site.respond_eq_servePath _ _ (Or.inl hmethod)] at hserve
  obtain ⟨answer, hanswer⟩ := Site.exists_answer_iff.2 hserve
  obtain ⟨m, hgets, hcarries⟩ := (one_message_or_part (Site.timedFile ⟨0, 0⟩)
    ⟨.default, [0x77], .indexOnly⟩ ⟨⟨⟨0, 0⟩, 0⟩, 0⟩ (twoRequests .nothing)).2 r answer hread rfl
      hanswer
  have hall : received (serveConnection (Site.timedFile ⟨0, 0⟩) ⟨.default, [0x77], .indexOnly⟩
      ⟨⟨⟨0, 0⟩, 0⟩, 0⟩ (twoRequests .nothing))
      = (deliveryOf r ⟨⟨⟨0, 0⟩, 0⟩, 0⟩).message answer.response := hgets.taken
  refine ⟨r, answer, m, hread, hanswer, ?_, hcarries⟩
  have hreads := hgets.reads
  rw [hmethod] at hreads
  rw [hall]
  exact hreads

/-- The directory `w` with a file `f` of so many octets. -/
def sizedFile (size : Nat) : FileSystem where
  top := .directory
    [([0x77], .directory [([0x66], .file (.bytes (List.replicate size 0x61)) ⟨0, 0⟩)])]
  here := []

theorem node_sizedFile (size : Nat) : (sizedFile size).node true [0x77, 0x2F, 0x66]
    = .ok (.file (.bytes (List.replicate size 0x61)) ⟨0, 0⟩) := by
  have hplain : (sizedFile size).top.IsPlain :=
    Node.isPlain_directory (List.forall_mem_singleton.2 ⟨(by decide : Path.IsName [0x77]),
      Node.isPlain_directory (List.forall_mem_singleton.2
        ⟨(by decide : Path.IsName [0x66]), Node.isPlain_file _ _ _⟩)⟩)
  exact FileSystem.node_of_names rfl hplain [[0x77], [0x66]] (by decide) (by simp) (by decide) rfl
    true

theorem exists_answer_sizedFile (size : Nat) {r : Request} (hmethod : r.method = .get)
    (hpath : r.target.path = "/f".toList) (hheaders : r.headers = []) (peer : Text)
    (timing : Timing) :
    ∃ answer, handle (sizedFile size) ⟨.default, [0x77], .indexOnly⟩ peer timing r = .ok answer
      ∧ Site.Brings [0x77, 0x2F, 0x66] ⟨0, 0⟩ (List.replicate size 0x61) answer.response := by
  have hstat := Site.stat_eq_of_node (node_sizedFile size)
  have htranslate : Site.translate [0x77] (Site.askOf r).path = ⟨[0x77, 0x2F, 0x66], false⟩ := by
    change Site.translate [0x77] r.target.path = _
    rw [hpath]
    decide
  have hserved : Site.servedFile? (sizedFile size) ⟨.default, [0x77], .indexOnly⟩ (Site.askOf r)
      = some [0x77, 0x2F, 0x66] := by
    unfold Site.servedFile?
    dsimp only
    rw [htranslate, hstat]
    rfl
  have hsince : Headers.values r.headers .ifModifiedSince = [] := by
    rw [hheaders]
    rfl
  exact Site.brings_of_servedFile? hserved hstat (Site.read_eq_of_node (node_sizedFile size))
    (by decide) hmethod hsince peer timing

/-- A message that brings something is no shorter than what it brings. -/
theorem length_body_le_message {r : Request} (hmethod : r.method = .get) {response : Response}
    (hok : response.status = .ok) (timing : Timing) :
    response.body.length ≤ ((deliveryOf r timing).message response).length := by
  have hbody : (deliveryOf r timing).body response = response.body := by
    unfold Delivery.body deliveryOf
    rw [hmethod, hok]
    rfl
  unfold Delivery.message
  rw [hbody, List.length_append]
  exact Nat.le_add_left _ _

/-- **A client may be left with a part of a message.** It asks for a file of eight million octets, and
    takes three million octets of the answer. -/
theorem part_for_stalledClient :
    (∃ r, readHead (twoRequests (.stalls 3000000)).sent = .ok r ∧ r.method = .get)
      ∧ (received (serveConnection (sizedFile 8388608) ⟨.default, [0x77], .indexOnly⟩
          ⟨⟨⟨0, 0⟩, 0⟩, 0⟩ (twoRequests (.stalls 3000000)))).length = 3000000
      ∧ readMessage? false (received (serveConnection (sizedFile 8388608)
          ⟨.default, [0x77], .indexOnly⟩ ⟨⟨⟨0, 0⟩, 0⟩, 0⟩ (twoRequests (.stalls 3000000))))
        = none := by
  obtain ⟨r, hread, hmethod, hpath, hheaders⟩ := readHead_twoRequests (.stalls 3000000)
  obtain ⟨answer, hanswer, hbrings⟩ := exists_answer_sizedFile 8388608 hmethod hpath hheaders
    (twoRequests (.stalls 3000000)).peer.ip.toText ⟨⟨⟨0, 0⟩, 0⟩, 0⟩
  obtain ⟨m, hm, -⟩ := readMessage?_answer hanswer (isNameable_of_readHead hread)
  rw [hmethod] at hm
  have hless : 3000000 < ((deliveryOf r ⟨⟨⟨0, 0⟩, 0⟩, 0⟩).message answer.response).length := by
    have hlong := length_body_le_message hmethod hbrings.status ⟨⟨⟨0, 0⟩, 0⟩, 0⟩
    rw [hbrings.body, List.length_replicate] at hlong
    omega
  rw [received_of_handle hread rfl hanswer]
  refine ⟨⟨r, hread, hmethod⟩, ?_, readMessage?_take hm hless⟩
  exact (List.length_take ..).trans (Nat.min_eq_left (Nat.le_of_lt hless))

end Docroot.Server

import Docroot.Proofs.Server.Connection

/-!
# How a connection ends

A connection ends in one of three ways, and which one it is follows from what the client sends, what
happens to the connection, and the limits (`EndsAs`):

* the request is answered, and all of the answer is taken;
* the client has nothing to ask, and closes its side;
* it fails, or lasts too long, for one of the reasons that there are (`Fails`).

A failure adds one notice behind what there is to log of the answer, if there was one. Serving a
connection comes to what it ends as and to nothing else (`serveConnection_eq_ok_iff`); the
connections without an end are those whose request has no answer, and those where the server was to
wait without a limit for what does not come (`serveConnection_eq_error_iff`).
-/

namespace Docroot.Server

open Docroot.Files
open Docroot.Http
open Docroot.Log (Notice Item)
open Docroot.Site (Timing Handled handle)
open Docroot.Time (OutOfRange)

/-! ## 1. What is sent -/

/-- **What is sent on a connection**: the message, what there is to log of the answer that it brings,
    and the failure that it is about. -/
inductive Sends (fs : FileSystem) (site : Site) (timing : Timing) (client : Client) :
    Bytes → List Item → Option Failure → Prop where
  /-- A faulty head gets a bare status. -/
  | fault (fault : HeadFault) (read : readHead client.sent = .error (.refused fault)) :
      Sends fs site timing client (fault.message timing.now.instant) [] (some (.head fault))
  | answer (r : Request) (answer : Handled) (read : readHead client.sent = .ok r)
      (inTime : client.disturbance.isEarly = false)
      (handled : handle fs site client.peer.ip.toText timing r = .ok answer) :
      Sends fs site timing client ((deliveryOf r timing).message answer.response) (itemsOf answer)
        none

/-! ## 2. Failures -/

/-- **A connection fails**: the octets that the client has by then, what was logged of an answer, the
    notice of the failure, and how long the server waited. -/
inductive Fails (fs : FileSystem) (site : Site) (timing : Timing) (client : Client) :
    Bytes → List Item → Notice → Nat → Prop where
  /-- The head is faulty. -/
  | faulty {message : Bytes} {items : List Item} {f : Failure}
      (sends : Sends fs site timing client message items (some f))
      (taken : client.disturbance.taking message = message) :
      Fails fs site timing client message items (.connectionFailed f.label) 0
  /-- Nothing more can be read in the middle of the head. -/
  | lostInHead (loss : Loss) (read : readHead client.sent = .error .unfinished)
      (lost : client.disturbance = .lost loss) (begun : withoutLineEnds client.sent ≠ []) :
      Fails fs site timing client [] [] (.connectionFailed loss.failure.label) 0
  /-- The head does not end within the time for a head. -/
  | headTimeout (read : readHead client.sent = .error .unfinished)
      (waits : ∀ loss, client.disturbance ≠ .lost loss)
      (limit : site.settings.connectionTimeout = 0
        ∨ headLimit ≤ site.settings.connectionTimeout) :
      Fails fs site timing client [] [] (.connectionFailed Failure.headTimeout.label) headLimit
  /-- The head does not end within the time for a connection. -/
  | headOutlasted (read : readHead client.sent = .error .unfinished)
      (waits : ∀ loss, client.disturbance ≠ .lost loss)
      (limit : site.settings.connectionTimeout ≠ 0)
      (shorter : site.settings.connectionTimeout < headLimit) :
      Fails fs site timing client [] []
        (.connectionTimedOut client.peer.toText site.settings.connectionTimeout)
        site.settings.connectionTimeout
  /-- Nothing more can be read, before there is an answer. -/
  | lost (r : Request) (loss : Loss) (read : readHead client.sent = .ok r)
      (lost : client.disturbance = .lost loss) :
      Fails fs site timing client [] [] (.connectionFailed loss.failure.label) 0
  /-- There is no answer within the time for a connection. -/
  | delayed (r : Request) (read : readHead client.sent = .ok r)
      (delayed : client.disturbance = .delayed) (limit : site.settings.connectionTimeout ≠ 0) :
      Fails fs site timing client [] []
        (.connectionTimedOut client.peer.toText site.settings.connectionTimeout)
        site.settings.connectionTimeout
  /-- The message is not taken within the time for a connection. -/
  | stalled {message : Bytes} {items : List Item} {about : Option Failure} (taken : Nat)
      (sends : Sends fs site timing client message items about)
      (stalls : client.disturbance = .stalls taken) (part : taken < message.length)
      (limit : site.settings.connectionTimeout ≠ 0) :
      Fails fs site timing client (message.take taken) items
        (.connectionTimedOut client.peer.toText site.settings.connectionTimeout)
        site.settings.connectionTimeout
  /-- Nothing more can be read, in the middle of the message. -/
  | cut {message : Bytes} {items : List Item} {about : Option Failure} (taken : Nat) (loss : Loss)
      (sends : Sends fs site timing client message items about)
      (cut : client.disturbance = .cut taken loss) (part : taken < message.length) :
      Fails fs site timing client (message.take taken) items
        (.connectionFailed loss.failure.label) 0
  /-- Writing fails in the middle of the message. -/
  | refused {message : Bytes} {items : List Item} {about : Option Failure} (taken : Nat)
      (code : Int) (sends : Sends fs site timing client message items about)
      (refuses : client.disturbance = .refuses taken code) (part : taken < message.length) :
      Fails fs site timing client (message.take taken) items
        (.connectionFailed (Failure.writing code).label) 0

/-! ## 3. Ends -/

/-- **How a connection ends.** -/
inductive EndsAs (fs : FileSystem) (site : Site) (timing : Timing) (client : Client) :
    Served → Prop where
  /-- All of the answer is taken. -/
  | answered {message : Bytes} {items : List Item}
      (sends : Sends fs site timing client message items none)
      (taken : client.disturbance.taking message = message) :
      EndsAs fs site timing client ⟨message, items, 0⟩
  /-- The client closes its side with nothing asked. -/
  | asksNothing (loss : Loss) (read : readHead client.sent = .error .unfinished)
      (lost : client.disturbance = .lost loss) (nothing : withoutLineEnds client.sent = []) :
      EndsAs fs site timing client ⟨[], [], 0⟩
  | failed {reply : Bytes} {before : List Item} {n : Notice} {waited : Nat}
      (fails : Fails fs site timing client reply before n waited) :
      EndsAs fs site timing client ⟨reply, before ++ [.notice n], waited⟩

/-- **A connection that has no end.** -/
inductive NeverEnds (fs : FileSystem) (site : Site) (timing : Timing) (client : Client) :
    Unserved → Prop where
  /-- The request has no answer. -/
  | unanswered (r : Request) (e : OutOfRange) (read : readHead client.sent = .ok r)
      (inTime : client.disturbance.isEarly = false)
      (handled : handle fs site client.peer.ip.toText timing r = .error e) :
      NeverEnds fs site timing client (.unanswered e)
  /-- The server waits without a limit for an answer. -/
  | delayed (r : Request) (read : readHead client.sent = .ok r)
      (delayed : client.disturbance = .delayed) (limit : site.settings.connectionTimeout = 0) :
      NeverEnds fs site timing client (.endless [])
  /-- The server waits without a limit for the message to be taken. -/
  | stalled {message : Bytes} {items : List Item} {about : Option Failure} (taken : Nat)
      (sends : Sends fs site timing client message items about)
      (stalls : client.disturbance = .stalls taken) (part : taken < message.length)
      (limit : site.settings.connectionTimeout = 0) :
      NeverEnds fs site timing client (.endless (message.take taken))

/-- What serving a connection comes to, whichever way. -/
def ComesTo (fs : FileSystem) (site : Site) (timing : Timing) (client : Client) :
    Except Unserved Served → Prop
  | .ok s => EndsAs fs site timing client s
  | .error u => NeverEnds fs site timing client u

section

variable {fs : FileSystem} {site : Site} {timing : Timing} {client : Client}

/-- **Sending a message**, to its end or not. -/
theorem comesTo_send {message : Bytes} {items : List Item} {about : Option Failure}
    (h : Sends fs site timing client message items about) :
    ComesTo fs site timing client
      (send site.settings.connectionTimeout client message items about) := by
  unfold send
  split
  · next hstop =>
    have htaken := Disturbance.stop?_eq_none_iff.1 hstop
    cases about with
    | none =>
      show EndsAs fs site timing client ⟨message, items ++ [], 0⟩
      rw [List.append_nil]
      exact .answered h htaken
    | some f => exact .failed (.faulty h htaken)
  · next taken f hstop =>
    obtain ⟨hpart, ⟨-, hf⟩ | ⟨loss, hd, hf⟩ | ⟨code, hd, hf⟩⟩ := Disturbance.stop?_eq_some_iff.1 hstop
    · cases hf
    · cases hf
      exact .failed (.cut taken loss h hd hpart)
    · cases hf
      exact .failed (.refused taken code h hd hpart)
  · next taken hstop =>
    obtain ⟨hpart, ⟨hd, -⟩ | ⟨loss, -, hf⟩ | ⟨code, -, hf⟩⟩ := Disturbance.stop?_eq_some_iff.1 hstop
    · unfold outlasted
      split
      · next hlimit => exact .stalled taken h hd hpart hlimit
      · next hlimit => exact .failed (.stalled taken h hd hpart hlimit)
    · cases hf
    · cases hf

theorem comesTo_answer {r : Request} (hread : readHead client.sent = .ok r)
    (hearly : client.disturbance.isEarly = false) :
    ComesTo fs site timing client (answer fs site timing client r) := by
  unfold answer
  cases hanswer : handle fs site client.peer.ip.toText timing r with
  | error e => exact NeverEnds.unanswered r e hread hearly hanswer
  | ok h => exact comesTo_send (.answer r h hread hearly hanswer)

theorem comesTo_waitedInVain (hread : readHead client.sent = .error .unfinished)
    (hwaits : ∀ loss, client.disturbance ≠ .lost loss) :
    EndsAs fs site timing client
      (waitedInVain site.settings.connectionTimeout client.peer) := by
  unfold waitedInVain
  split
  · next hlimit => exact .failed (.headTimeout hread hwaits hlimit)
  · next hlimit =>
    obtain ⟨hnone, hshorter⟩ := not_or.1 hlimit
    exact .failed (.headOutlasted hread hwaits hnone (Nat.lt_of_not_le hshorter))

/-- **What serving a connection comes to.** -/
theorem comesTo_serveConnection (fs : FileSystem) (site : Site) (timing : Timing)
    (client : Client) :
    ComesTo fs site timing client (serveConnection fs site timing client) := by
  unfold serveConnection
  cases hread : readHead client.sent with
  | error halt =>
    cases halt with
    | refused fault => exact comesTo_send (.fault fault hread)
    | unfinished =>
      dsimp only
      split
      · next loss hlost =>
        unfold lostInHead
        split
        · next hnothing => exact EndsAs.asksNothing loss hread hlost hnothing
        · next hbegun => exact EndsAs.failed (.lostInHead loss hread hlost hbegun)
      · next hwaits => exact comesTo_waitedInVain hread hwaits
  | ok r =>
    dsimp only
    split
    · next loss hlost => exact EndsAs.failed (.lost r loss hread hlost)
    · next hdelayed =>
      unfold outlasted
      split
      · next hlimit => exact NeverEnds.delayed r hread hdelayed hlimit
      · next hlimit => exact EndsAs.failed (.delayed r hread hdelayed hlimit)
    · next hlost hdelayed =>
      refine comesTo_answer hread ?_
      cases hd : client.disturbance with
      | lost loss => exact absurd hd (hlost loss)
      | delayed => exact absurd hd hdelayed
      | _ => rfl

/-! ## 4. Nothing else comes of it -/

/-- What is sent on a connection is what serving it sends. -/
theorem Sends.serveConnection_eq {message : Bytes} {items : List Item} {about : Option Failure}
    (h : Sends fs site timing client message items about) :
    serveConnection fs site timing client
      = send site.settings.connectionTimeout client message items about := by
  cases h with
  | fault fault hread =>
    unfold serveConnection
    rw [hread]
  | answer r answer hread hearly hanswer =>
    rw [serveConnection_of_readHead hread hearly]
    unfold Server.answer
    rw [hanswer]

theorem send_of_taking {message : Bytes} (h : client.disturbance.taking message = message)
    (limit : Nat) (items : List Item) (about : Option Failure) :
    send limit client message items about
      = .ok ⟨message, items ++ (about.map Failure.item).toList, 0⟩ := by
  unfold send
  rw [Disturbance.stop?_eq_none_iff.2 h]

theorem send_of_failure {message : Bytes} {taken : Nat} {f : Failure}
    (h : client.disturbance.stop? message = some (taken, some f)) (limit : Nat)
    (items : List Item) (about : Option Failure) :
    send limit client message items about = .ok ⟨message.take taken, items ++ [f.item], 0⟩ := by
  unfold send
  rw [h]

theorem send_of_stall {message : Bytes} {taken : Nat}
    (h : client.disturbance.stop? message = some (taken, none)) (limit : Nat)
    (items : List Item) (about : Option Failure) :
    send limit client message items about
      = outlasted limit client.peer (message.take taken) items := by
  unfold send
  rw [h]

theorem outlasted_of_limit {limit : Nat} (h : limit ≠ 0) (peer : SocketAddress) (reply : Bytes)
    (items : List Item) : outlasted limit peer reply items
      = .ok ⟨reply, items ++ [.notice (.connectionTimedOut peer.toText limit)], limit⟩ :=
  if_neg h

/-- Who waits with an open head is waited for. -/
theorem serveConnection_of_waits (hread : readHead client.sent = .error .unfinished)
    (hwaits : ∀ loss, client.disturbance ≠ .lost loss) :
    serveConnection fs site timing client
      = .ok (waitedInVain site.settings.connectionTimeout client.peer) := by
  unfold serveConnection
  rw [hread]
  dsimp only
  split
  · next loss hlost => exact absurd hlost (hwaits loss)
  · rfl

theorem Fails.serveConnection_eq {reply : Bytes} {before : List Item} {n : Notice} {waited : Nat}
    (h : Fails fs site timing client reply before n waited) :
    serveConnection fs site timing client = .ok ⟨reply, before ++ [.notice n], waited⟩ := by
  cases h with
  | faulty hsends htaken =>
    rw [hsends.serveConnection_eq, send_of_taking htaken]
    rfl
  | lostInHead loss hread hlost hbegun =>
    unfold serveConnection
    rw [hread, hlost]
    exact congrArg Except.ok (if_neg hbegun)
  | headTimeout hread hwaits hlimit =>
    rw [serveConnection_of_waits hread hwaits]
    exact congrArg Except.ok (if_pos hlimit)
  | headOutlasted hread hwaits hlimit hshorter =>
    rw [serveConnection_of_waits hread hwaits]
    exact congrArg Except.ok (if_neg (not_or.2 ⟨hlimit, Nat.not_le_of_lt hshorter⟩))
  | lost r loss hread hlost =>
    unfold serveConnection
    rw [hread, hlost]
    rfl
  | delayed r hread hdelayed hlimit =>
    unfold serveConnection
    rw [hread, hdelayed]
    exact outlasted_of_limit hlimit ..
  | stalled taken hsends hstalls hpart hlimit =>
    have hstop := Disturbance.stop?_eq_some_iff.2 ⟨hpart, Or.inl ⟨hstalls, rfl⟩⟩
    rw [hsends.serveConnection_eq, send_of_stall hstop]
    exact outlasted_of_limit hlimit ..
  | cut taken loss hsends hcut hpart =>
    have hstop := Disturbance.stop?_eq_some_iff.2 ⟨hpart, Or.inr (Or.inl ⟨loss, hcut, rfl⟩)⟩
    rw [hsends.serveConnection_eq, send_of_failure hstop]
    rfl
  | refused taken code hsends hrefuses hpart =>
    have hstop := Disturbance.stop?_eq_some_iff.2 ⟨hpart, Or.inr (Or.inr ⟨code, hrefuses, rfl⟩)⟩
    rw [hsends.serveConnection_eq, send_of_failure hstop]
    rfl

/-- **Serving a connection comes to what it ends as**, and to nothing else. -/
theorem serveConnection_eq_ok_iff {s : Served} :
    serveConnection fs site timing client = .ok s ↔ EndsAs fs site timing client s := by
  constructor
  · intro h
    have hcomes := comesTo_serveConnection fs site timing client
    rwa [h] at hcomes
  · intro h
    cases h with
    | @answered message items hsends htaken =>
      have hitems : items ++ [] = items := List.append_nil items
      rw [hsends.serveConnection_eq, send_of_taking htaken]
      exact congrArg (fun items => Except.ok (Served.mk message items 0)) hitems
    | asksNothing loss hread hlost hnothing =>
      unfold serveConnection
      rw [hread, hlost]
      exact congrArg Except.ok (if_pos hnothing)
    | failed hfails => exact hfails.serveConnection_eq

/-- **The connections that have no end.** -/
theorem serveConnection_eq_error_iff {u : Unserved} :
    serveConnection fs site timing client = .error u ↔ NeverEnds fs site timing client u := by
  constructor
  · intro h
    have hcomes := comesTo_serveConnection fs site timing client
    rwa [h] at hcomes
  · intro h
    cases h with
    | unanswered r e hread hearly hanswer =>
      rw [serveConnection_of_readHead hread hearly]
      unfold answer
      rw [hanswer]
    | delayed r hread hdelayed hlimit =>
      unfold serveConnection
      rw [hread, hdelayed]
      exact if_pos hlimit
    | stalled taken hsends hstalls hpart hlimit =>
      have hstop := Disturbance.stop?_eq_some_iff.2 ⟨hpart, Or.inl ⟨hstalls, rfl⟩⟩
      rw [hsends.serveConnection_eq, send_of_stall hstop]
      exact if_pos hlimit

end

end Docroot.Server

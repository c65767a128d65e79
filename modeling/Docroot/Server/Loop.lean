import Docroot.Server.Connection

/-!
# Accepting connections

The server takes connections one after the other: the next is accepted when the last has ended. It
stops when it is told to, and it looks for that before each connection only, so a connection under
way is always served to its end. When a connection and the word to stop are there together, the
server stops.

The loop is a function of the rounds it goes through. A round is what is there when the server is
free again: the word to stop, a connection or the failure to accept one, both, or nothing, in which
case it waits for the next round. Each connection sees the files as the logs have left them.
-/

namespace Docroot.Server

open Docroot.Files
open Docroot.Log (Notice Item Journal)
open Docroot.Site (Timing)

/-! ## 1. Rounds -/

/-- The signals that stop the server. -/
inductive Signal where
  | interrupt
  | terminate
  deriving DecidableEq, Repr

/-- The name of a signal. -/
def Signal.name : Signal → Text
  | .interrupt => "SIGINT".toList
  | .terminate => "SIGTERM".toList

/-- The word to stop: by the surrounding program, or by a signal. -/
inductive Stop where
  | quiet
  | signal (s : Signal)
  deriving DecidableEq, Repr

/-- What is noticed of the word to stop. -/
def Stop.notices : Stop → List Notice
  | .quiet => []
  | .signal s => [.signalReceived s.name]

/-- Someone wants to connect. -/
inductive Arrival where
  | client (timing : Timing) (c : Client)
  /-- The connection cannot be accepted. -/
  | failure (e : IoError)

/-- What is there when the server is free. -/
structure Round where
  stop : Option Stop := none
  arrival : Option Arrival := none

/-! ## 2. The loop -/

/-- What the loop has come to: what is written, the replies in order, and whether it has ended. -/
structure Course where
  journal : Journal
  replies : List Bytes
  ended : Bool

/-- The course with a reply in front. -/
def Course.after (reply : Bytes) (c : Course) : Course :=
  { c with replies := reply :: c.replies }

/-- **The loop, over its rounds.** -/
def acceptLoop (site : Site) (j : Journal) : List Round → Except Unserved Course
  | [] => .ok ⟨j, [], false⟩
  | round :: rounds =>
    match round.stop, round.arrival with
    | some stop, _ => .ok ⟨j.notices (stop.notices ++ [.listenerClosed]), [], true⟩
    | none, none => acceptLoop site j rounds
    | none, some (.failure e) => acceptLoop site (j.notice (.acceptFailed e)) rounds
    | none, some (.client timing c) => do
      let j := j.notice (.accepted c.peer.toText)
      let served ← serveConnection j.files site timing c
      let course ← acceptLoop site (j.items served.items) rounds
      .ok (course.after served.reply)

end Docroot.Server

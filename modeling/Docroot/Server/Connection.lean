import Docroot.Http.Wire
import Docroot.Log.Journal
import Docroot.Server.Address
import Docroot.Site.Handle

/-!
# One connection

A connection carries one request. The server reads its head, answers it, and closes the connection;
what the client sends after the head is left unread. A head that is faulty is answered with a bare
status. A head that never ends gets no answer: either the client closes its side, or the server
tires of waiting, by whichever of its two limits comes first. One limit is for the head of any
request, the other, which can be set, is for the connection as a whole.

The limit for the whole holds also when the head has been read: for an answer that is long in coming,
and for a client that does not take what it is sent. What it has taken by then stays with it. Without
that limit the server waits for such a client for ever.

What a connection comes to is one value: the octets that the client gets, what is logged, and how
long the server waited. Nothing else depends on the connection, so the next one is served as if
this one had not been, but for what the logs hold.
-/

namespace Docroot.Server

open Docroot.Files
open Docroot.Http
open Docroot.Log (Notice Item)
open Docroot.Site (Timing)
open Docroot.Time (OutOfRange)

/-! ## 1. The client's side -/

/-- How the server finds that nothing more can be read from a client. -/
inductive Loss where
  /-- The client has closed its side. -/
  | closed
  /-- The connection is broken, with a number of the operating system. -/
  | broken (code : Int)
  deriving DecidableEq, Repr

/-- What keeps a connection from going its way. Octets are counted as taken when the server is rid of
    them: those that are still under way to the client are among them. -/
inductive Disturbance where
  | nothing
  /-- There is nothing more to read, before there is an answer. -/
  | lost (loss : Loss)
  /-- There is no answer for as long as the server waits, since the files are slow. -/
  | delayed
  /-- So many octets are taken, and then no more for as long as the server waits. -/
  | stalls (taken : Nat)
  /-- There is nothing more to read, found when so many octets are taken. -/
  | cut (taken : Nat) (loss : Loss)
  /-- So many octets are taken, and then writing fails, with a number of the operating system. -/
  | refuses (taken : Nat) (code : Int)
  deriving DecidableEq, Repr

/-- A client: from where it connects, what it sends, and what happens to the connection. An
    undisturbed client waits, and takes what it is sent. -/
structure Client where
  peer : SocketAddress
  sent : Bytes
  disturbance : Disturbance := .nothing

/-! ## 2. Failures -/

/-- Why a connection failed. -/
inductive Failure where
  | head (fault : HeadFault)
  /-- The client closed its side before the message was complete, its own or the server's. -/
  | incomplete
  /-- The head took too long. -/
  | headTimeout
  /-- Reading failed. -/
  | reading (code : Int)
  /-- Writing failed. -/
  | writing (code : Int)
  deriving DecidableEq, Repr

/-- A failure as programmers read it. -/
def Failure.label : Failure → Text
  | .head fault => "hyper::Error(Parse(".toList ++ fault.label ++ "))".toList
  | .incomplete => "hyper::Error(IncompleteMessage)".toList
  | .headTimeout => "hyper::Error(HeaderTimeout)".toList
  | .reading code => "hyper::Error(Io, ".toList ++ IoError.diagnostic code ++ [')']
  | .writing code => "hyper::Error(BodyWrite, ".toList ++ IoError.diagnostic code ++ [')']

/-- The failure that a loss is. -/
def Loss.failure : Loss → Failure
  | .closed => .incomplete
  | .broken code => .reading code

/-- What is logged of a failure. -/
def Failure.item (f : Failure) : Item := .notice (.connectionFailed f.label)

/-! ## 3. The server's side -/

/-- What a connection came to. -/
structure Served where
  /-- All octets that the client gets. -/
  reply : Bytes
  /-- What is logged, in order. -/
  items : List Item
  /-- How many seconds the server waited for what did not come. -/
  waited : Nat

/-- Why a connection has no end. -/
inductive Unserved where
  /-- The request has no answer. -/
  | unanswered (e : OutOfRange)
  /-- The server waits for ever, for a client that has these octets. -/
  | endless (reply : Bytes)

/-- The longest that the server waits for the rest of a head, in seconds. -/
def headLimit : Nat := 30

/-- A connection that ends in a failure before an answer. -/
def Served.failed (f : Failure) (waited : Nat) : Served := ⟨[], [f.item], waited⟩

/-- Nothing more could be read before a head was complete. With nothing sent but line ends this is a
    clean end. -/
def lostInHead (sent : Bytes) (loss : Loss) : Served :=
  if withoutLineEnds sent = [] then ⟨[], [], 0⟩ else .failed loss.failure 0

/-- The server tired of waiting for a head; a limit of 0 is none. -/
def waitedInVain (limit : Nat) (peer : SocketAddress) : Served :=
  if limit = 0 ∨ headLimit ≤ limit then .failed .headTimeout headLimit
  else ⟨[], [.notice (.connectionTimedOut peer.toText limit)], limit⟩

/-- The server tired of waiting for an answer, or for a client to take it; a limit of 0 is none. -/
def outlasted (limit : Nat) (peer : SocketAddress) (reply : Bytes) (items : List Item) :
    Except Unserved Served :=
  if limit = 0 then .error (.endless reply)
  else .ok ⟨reply, items ++ [.notice (.connectionTimedOut peer.toText limit)], limit⟩

/-- How many octets of a message are taken, and the failure that is met then, if it is one; none
    where all are taken. -/
def Disturbance.stop? (d : Disturbance) (message : Bytes) : Option (Nat × Option Failure) :=
  let stop := match d with
    | .stalls taken => some (taken, none)
    | .cut taken loss => some (taken, some loss.failure)
    | .refuses taken code => some (taken, some (.writing code))
    | _ => none
  stop.filter (·.1 < message.length)

/-- **Sends a message**, or as much of it as is taken. Where all is taken, the failure that the message
    is about is what is left to log. -/
def send (limit : Nat) (client : Client) (message : Bytes) (items : List Item)
    (about : Option Failure) : Except Unserved Served :=
  match client.disturbance.stop? message with
  | none => .ok ⟨message, items ++ (about.map Failure.item).toList, 0⟩
  | some (taken, some f) => .ok ⟨message.take taken, items ++ [f.item], 0⟩
  | some (taken, none) => outlasted limit client.peer (message.take taken) items

/-- How the response to a request is sent. -/
def deliveryOf (r : Request) (timing : Timing) : Delivery :=
  ⟨r.version, decide (r.method = .head), timing.now.instant⟩

/-- What there is to log of an answer. -/
def itemsOf (h : Site.Handled) : List Item :=
  h.notices.map .notice ++ (h.accessLine.map Item.access).toList

/-- Answers a request. -/
def answer (fs : FileSystem) (site : Site) (timing : Timing) (client : Client) (r : Request) :
    Except Unserved Served :=
  match Site.handle fs site client.peer.ip.toText timing r with
  | .error e => .error (.unanswered e)
  | .ok h => send site.settings.connectionTimeout client
      ((deliveryOf r timing).message h.response) (itemsOf h) none

/-- **Serves one connection** to its end. -/
def serveConnection (fs : FileSystem) (site : Site) (timing : Timing) (client : Client) :
    Except Unserved Served :=
  let limit := site.settings.connectionTimeout
  match readHead client.sent with
  | .ok r =>
    match client.disturbance with
    | .lost loss => .ok (.failed loss.failure 0)
    | .delayed => outlasted limit client.peer [] []
    | _ => answer fs site timing client r
  | .error (.refused fault) =>
    send limit client (fault.message timing.now.instant) [] (some (.head fault))
  | .error .unfinished =>
    match client.disturbance with
    | .lost loss => .ok (lostInHead client.sent loss)
    | _ => .ok (waitedInVain limit client.peer)

end Docroot.Server

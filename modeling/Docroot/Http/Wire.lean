import Docroot.Http.Head
import Docroot.Http.Response
import Docroot.Time.HttpDate

/-!
# A response on the wire

A response goes out as one message: a status line, the header lines, an empty line, and the body.
The server closes the connection after it, and says so where the client's version of the protocol
would otherwise keep the connection. Every message tells its date, and how long its body is unless
its status has no body.

A message holds the fields of the response, each in its place, and at the end those that come with
the way it is sent: the connection, the length, the date. A length of zero is written among the
last, also where the response has a field for it.
-/

namespace Docroot.Http

/-! ## 1. What the wire needs to know -/

/-- How a response is to be sent. -/
structure Delivery where
  /-- The version that the client speaks. -/
  version : Version
  /-- The request was for the head alone. -/
  isHead : Bool
  now : Time.Instant

/-- A status that never has a body. -/
def Status.isBodiless (s : Status) : Bool := s.code < 200 || s.code == 204 || s.code == 304

/-- The body as sent. -/
def Delivery.body (d : Delivery) (r : Response) : Bytes :=
  if d.isHead ∨ r.status.isBodiless then [] else r.body

/-! ## 2. The fields -/

/-- The value `close`. -/
def closing : HeaderValue := .ofText "close".toList (by decide)

/-- That the connection is closed; the oldest version closes it anyway. -/
def Delivery.connectionFields (d : Delivery) : Headers :=
  if d.version = .http11 then [(.connection, closing)] else []

/-- The date, if the clock shows one that can be written. -/
def Delivery.dateFields (d : Delivery) : Headers :=
  match (Time.HttpDate.format d.now).toOption.bind HeaderValue.ofText? with
  | some v => [(.date, v)]
  | none => []

/-- The fields of the response that are sent in their place: all, but no length where there is
    nothing to measure. -/
def Delivery.ownFields (d : Delivery) (r : Response) : Headers :=
  if r.body = [] ∧ d.isHead = false then r.headers.filter (·.1 ≠ .contentLength) else r.headers

/-- The length, where none has been sent and there is one to tell. -/
def Delivery.lengthFields (d : Delivery) (r : Response) : Headers :=
  if d.isHead ∨ r.status.isBodiless ∨ (d.ownFields r).any (·.1 = .contentLength) then []
  else [(.contentLength, .ofNat r.body.length)]

/-- **All fields of the message**, in order. -/
def Delivery.fields (d : Delivery) (r : Response) : Headers :=
  d.ownFields r ++ d.connectionFields ++ d.lengthFields r ++ d.dateFields

/-! ## 3. The message -/

/-- The version as the status line names it. -/
def Delivery.versionText (d : Delivery) : Text :=
  if d.version = .http10 then "HTTP/1.0".toList else "HTTP/1.1".toList

/-- The status line, without its end. -/
def Delivery.statusLine (d : Delivery) (s : Status) : Bytes :=
  Utf8.encode (d.versionText ++ ' ' :: Digits.decimal s.code ++ ' ' :: s.reason)

/-- A header line, without its end. -/
def fieldLine (field : HeaderName × HeaderValue) : Bytes :=
  Utf8.encode (field.1.text ++ [':', ' ']) ++ field.2.bytes

/-- **The message that brings a response.** -/
def Delivery.message (d : Delivery) (r : Response) : Bytes :=
  d.statusLine r.status ++ crlf ++ (d.fields r).flatMap (fieldLine · ++ crlf) ++ crlf ++ d.body r

/-! ## 4. Faulty heads -/

/-- The message for a head that was refused: the status and nothing more. It is in the newest
    version that the server speaks, whatever the client asked for. -/
def HeadFault.message (fault : HeadFault) (now : Time.Instant) : Bytes :=
  match fault.status? with
  | some s => Delivery.message ⟨.http11, false, now⟩ ⟨s, [], []⟩
  | none => []

end Docroot.Http

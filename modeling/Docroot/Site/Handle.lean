import Docroot.Http.Request
import Docroot.Log.AccessEntry
import Docroot.Site.Cors
import Docroot.Site.Serve

/-!
# From request to response

Every request gets a response: GET and HEAD are served, any other method is refused. Every response
gets the cross-origin headers and the server's name, and one line in the access log if there is
one.
-/

namespace Docroot.Site

open Docroot.Files
open Docroot.Http
open Docroot.Log (Notice AccessEntry)
open Docroot.Time (OutOfRange LocalTime)

/-- What a clock tells while a request is answered: the time, and how long the answer took. -/
structure Timing where
  now : LocalTime
  micros : Nat

/-- A request answered: the response, the notices in order, and the access log's line, if any,
    which comes after them. -/
structure Handled where
  response : Response
  notices : List Notice
  accessLine : Option Text

/-- What serving needs of a request. -/
def askOf (r : Request) : Ask where
  path := r.target.path
  query := r.target.query
  isHead := decide (r.method = .head)
  ifModifiedSince := Headers.getText? r.headers .ifModifiedSince
  ifNoneMatch := Headers.getText? r.headers .ifNoneMatch

/-- The reply of the responder that the method calls for. -/
def respond (fs : FileSystem) (site : Site) (r : Request) : Except OutOfRange Reply :=
  if r.method = .get ∨ r.method = .head then servePath fs site (askOf r)
  else .ok {
    response := notImplementedResponse r.method.name false
    notices := [.unsupportedMethod r.method] }

/-- The response with what every response carries: the cross-origin headers, and the server's name
    if it can be a header value. -/
def finish (serverName : Text) (r : Response) : Response :=
  let h := insertCors r.headers
  match HeaderValue.ofText? serverName with
  | some v => { r with headers := Headers.insert h .server v }
  | none => { r with headers := h }

/-- The access log's entry for an answered request. -/
def accessEntry (r : Request) (peer : Text) (timing : Timing) (response : Response) :
    AccessEntry where
  remoteAddr := peer
  time := timing.now
  method := r.method.name
  uri := r.target.shown
  httpVersion := r.version.label
  status := response.status.code
  bodyBytes := response.body.length
  referer := Headers.getText? r.headers .referer
  userAgent := Headers.getText? r.headers .userAgent
  micros := timing.micros

/-- **The answer to a request** of the client at the address `peer`. -/
def handle (fs : FileSystem) (site : Site) (peer : Text) (timing : Timing) (r : Request) :
    Except OutOfRange Handled := do
  let reply ← respond fs site r
  let response := finish site.settings.serverName reply.response
  let logging := site.settings.logging
  .ok {
    response, notices := reply.notices
    accessLine :=
      if logging.accessLog then
        some ((accessEntry r peer timing response).line logging.accessLogFormat)
      else none }

end Docroot.Site

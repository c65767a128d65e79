import Docroot.Http.Header

/-!
# Cross-origin headers

Every response allows every origin, so that a page opened from a file can load what is served
here.
-/

namespace Docroot.Site

open Docroot.Http

/-- The origins that may read a response: all. -/
def allowOrigin : Text := "*".toList
/-- The methods that other origins may use. -/
def allowMethods : Text := "GET, POST, OPTIONS".toList
/-- The headers that other origins may send. -/
def allowHeaders : Text := "Content-Type".toList

/-- The section with the first two of the headers. -/
def insertFirstTwo (h : Headers) : Headers :=
  let h := Headers.insert h .allowOrigin (.ofText allowOrigin (by decide))
  Headers.insert h .allowMethods (.ofText allowMethods (by decide))

/-- **The section with the three cross-origin headers**, each with one value. -/
def insertCors (h : Headers) : Headers :=
  Headers.insert (insertFirstTwo h) .allowHeaders (.ofText allowHeaders (by decide))

/-- The section has room for the three headers; it has if it has room for the last of them. -/
def hasRoomForCors (h : Headers) : Bool := !(insertFirstTwo h).isFull

end Docroot.Site

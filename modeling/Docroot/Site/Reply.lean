import Docroot.Html
import Docroot.Http.Draft
import Docroot.Log.Notice

/-!
# Replies

The responses that the site gives: error pages, redirects, unchanged files, files, and pages made
on the spot. A reply is the response and what there is to notice about it.

A reply is built field by field. It fails as a whole if a text meant for one of its headers cannot be
a header value: then the response is bare (status alone), and one notice says so. Error pages and
listings have no text from outside in their headers, so they are given as responses at once.
-/

namespace Docroot.Site

open Docroot.Http
open Docroot.Log (Notice)

/-- A response and the notices that go with it. -/
structure Reply where
  response : Response
  notices : List Notice := []

/-! ## 1. Pages -/

/-- The body as a HEAD or another request gets it. -/
def bodyFor (isHead : Bool) (body : Bytes) : Bytes := if isHead then [] else body

/-- The page that tells of an error. -/
def errorPage (status : Status) (message : Text) : Text :=
  let code := Digits.decimal status.code
  "<!DOCTYPE HTML>\n<html lang=\"en\">\n    <head>\n        <meta charset=\"utf-8\">\n".toList
    ++ "        <title>Error response</title>\n    </head>\n    <body>\n".toList
    ++ "        <h1>Error response</h1>\n        <p>Error code: ".toList ++ code
    ++ "</p>\n        <p>Message: ".toList ++ Html.escape message
    ++ ".</p>\n        <p>Error code explanation: ".toList ++ code ++ " - ".toList
    ++ status.explanation ++ ".</p>\n    </body>\n</html>\n".toList

/-- The media type of error pages. -/
def errorPageType : HeaderValue := .ofText "text/html;charset=utf-8".toList (by decide)

/-- The media type of listings. -/
def listingType : HeaderValue := .ofText "text/html; charset=utf-8".toList (by decide)

/-- A page with its type and its length; a HEAD request gets no body. -/
def pageResponse (status : Status) (type : HeaderValue) (page : Text) (isHead : Bool) : Response :=
  let body := Utf8.encode page
  ⟨status, [(.contentType, type), (.contentLength, .ofNat body.length)], bodyFor isHead body⟩

/-- **An error page as response.** -/
def errorResponse (status : Status) (message : Text) (isHead : Bool) : Response :=
  pageResponse status errorPageType (errorPage status message) isHead

/-- The answer where there is nothing to serve. -/
def notFoundResponse (isHead : Bool) : Response :=
  errorResponse .notFound "File not found".toList isHead

/-- The answer to a method other than GET and HEAD. -/
def notImplementedResponse (method : Text) (isHead : Bool) : Response :=
  errorResponse .notImplemented ("Unsupported method ('".toList ++ method ++ "')".toList) isHead

/-- **A page made on the spot as response.** -/
def htmlResponse (page : Text) (isHead : Bool) : Response :=
  pageResponse .ok listingType page isHead

/-! ## 2. Replies that are built -/

/-- A response without headers and body, given for want of the intended one. -/
def bareReply (what : Text) (e : BuildError) (fallback : Status) : Reply :=
  ⟨⟨fallback, [], []⟩, [.buildFailed what e]⟩

/-- The reply that a draft comes to, which is bare if the draft has failed. -/
def Reply.ofDraft (what : Text) (fallback : Status) (body : Bytes) : Draft → Reply
  | .ok (status, headers) => { response := ⟨status, headers, body⟩ }
  | .error e => bareReply what e fallback

/-- **The reply that sends the client to another place.** -/
def redirectReply (location : Text) : Reply :=
  .ofDraft "301".toList .movedPermanently [] <| .ofFields .movedPermanently
    [(.location, HeaderValue.ofText? location), (.contentLength, some (.ofNat 0))]

/-- **The reply that the client's copy is still good.** -/
def notModifiedReply (lastModified : Text) : Reply :=
  .ofDraft "304".toList .notModified [] <| .ofFields .notModified
    [(.lastModified, HeaderValue.ofText? lastModified)]

/-- **The reply that brings a file**, with its date if there is one. -/
def fileReply (data : Bytes) (contentType : Text) (lastModified : Option Text) (isHead : Bool) :
    Reply :=
  let dates := lastModified.toList.map fun date => (.lastModified, HeaderValue.ofText? date)
  .ofDraft "200".toList .serverError (bodyFor isHead data) <| .ofFields .ok
    ([(.contentType, HeaderValue.ofText? contentType), (.contentLength, some (.ofNat data.length))]
      ++ dates)

/-- The reply that brings a page, built like the others. -/
def pageReply (what : Text) (status fallback : Status) (type page : Text) (isHead : Bool) : Reply :=
  let body := Utf8.encode page
  .ofDraft what fallback (bodyFor isHead body) <| .ofFields status
    [(.contentType, HeaderValue.ofText? type), (.contentLength, some (.ofNat body.length))]

/-- **The reply that brings an error page.** It is the response above and no more. -/
def errorReply (status : Status) (message : Text) (isHead : Bool) : Reply :=
  pageReply (Digits.decimal status.code) status status "text/html;charset=utf-8".toList
    (errorPage status message) isHead

/-- **The reply that brings a page made on the spot.** It is the response above and no more. -/
def htmlReply (page : Text) (isHead : Bool) : Reply :=
  pageReply "HTML".toList .ok .serverError "text/html; charset=utf-8".toList page isHead

end Docroot.Site

import Docroot.Log.Json
import Docroot.Number.Binary64
import Docroot.Time.Local

/-!
# The access log

One line per answered request. Three formats have names: `common`, `combined` (common, referer and
user agent) and `json`. Any other format is a pattern with variables, which are replaced one after
another in a fixed order, the ones whose names begin alike with the longer name first.
-/

namespace Docroot.Log

/-- What the access log says of one request. -/
structure AccessEntry where
  remoteAddr : Text
  time : Time.LocalTime
  method : Text
  /-- The target as received, query included. -/
  uri : Text
  httpVersion : Text
  status : Nat
  /-- The length of the body that was sent. -/
  bodyBytes : Nat
  referer : Option Text
  userAgent : Option Text
  /-- How long the answer took, in microseconds. -/
  micros : Nat
  deriving DecidableEq, Repr

namespace AccessEntry

/-- The first line of the request. -/
def requestLine (e : AccessEntry) : Text :=
  e.method ++ ' ' :: e.uri ++ " HTTP/".toList ++ e.httpVersion

/-- The length of the body; a dash for none. -/
def bodyBytesOrDash (e : AccessEntry) : Text :=
  if e.bodyBytes = 0 then ['-'] else Digits.decimal e.bodyBytes

/-- A header's text; a dash where the header was missing. -/
def orDash (t : Option Text) : Text := t.getD ['-']

/-- The common format. -/
def common (e : AccessEntry) : Text :=
  e.remoteAddr ++ " - - [".toList ++ e.time.commonLog ++ "] \"".toList ++ e.requestLine
    ++ "\" ".toList ++ Digits.decimal e.status ++ ' ' :: e.bodyBytesOrDash

/-- The combined format: common, then referer and user agent in quotes. -/
def combined (e : AccessEntry) : Text :=
  e.common ++ " \"".toList ++ orDash e.referer ++ "\" \"".toList ++ orDash e.userAgent ++ ['"']

/-- The members of the JSON format, by name. -/
def members (e : AccessEntry) : List (Text × Json.Scalar) := [
  ("body_bytes".toList, .number e.bodyBytes),
  ("http_version".toList, .text e.httpVersion),
  ("method".toList, .text e.method),
  ("referer".toList, .ofOption e.referer),
  ("remote_addr".toList, .text e.remoteAddr),
  ("request_time_us".toList, .number e.micros),
  ("status".toList, .number e.status),
  ("time".toList, .text e.time.iso),
  ("uri".toList, .text e.uri),
  ("user_agent".toList, .ofOption e.userAgent)]

/-- The JSON format. -/
def json (e : AccessEntry) : Text := Json.object e.members

/-- A number of microseconds in seconds, to three places. The microseconds are first taken as a
    binary64 number, and so is their millionth part. -/
def secondsText (micros : Nat) : Text :=
  let seconds := (Binary64.ofQuotient ⟨micros, 1⟩).bind fun x =>
    let q := x.toQuotient
    Binary64.ofQuotient ⟨q.num, q.den * 1000000⟩
  ((seconds.map (Binary64.fixed 3)).getD [])

/-- The variables of a pattern and their values, in the order in which they are replaced. -/
def substitutions (e : AccessEntry) : List (Text × Text) := [
  ("$remote_addr".toList, e.remoteAddr),
  ("$time_local".toList, e.time.commonLog),
  ("$time_iso8601".toList, e.time.iso),
  ("$request_time".toList, secondsText e.micros),
  ("$request_method".toList, e.method),
  ("$request_uri".toList, e.uri),
  ("$request".toList, e.requestLine),
  ("$status".toList, Digits.decimal e.status),
  ("$body_bytes_sent".toList, Digits.decimal e.bodyBytes),
  ("$http_referer".toList, orDash e.referer),
  ("$http_user_agent".toList, orDash e.userAgent)]

/-- A pattern with its variables replaced. Each variable is replaced in the result of those before
    it, so a value that holds the name of a later variable is replaced in turn. -/
def custom (pattern : Text) (e : AccessEntry) : Text :=
  e.substitutions.foldl (fun line (name, value) => Text.replaceAll name value line) pattern

/-- **The line of an entry in a format.** -/
def line (format : Text) (e : AccessEntry) : Text :=
  if format = "common".toList then e.common
  else if format = "combined".toList then e.combined
  else if format = "json".toList then e.json
  else e.custom format

end AccessEntry

end Docroot.Log

import Docroot.Http.Header
import Docroot.Http.Method
import Docroot.Http.Target

/-!
# Requests
-/

namespace Docroot.Http

/-- Versions of the protocol. -/
inductive Version where
  | http09
  | http10
  | http11
  | http2
  | http3
  deriving DecidableEq, Repr

/-- The number of a version. -/
def Version.label : Version → Text
  | .http09 => "0.9".toList
  | .http10 => "1.0".toList
  | .http11 => "1.1".toList
  | .http2 => ['2']
  | .http3 => ['3']

/-- The head of a request. A body is never looked at. -/
structure Request where
  method : Method
  target : Target
  version : Version
  headers : Headers

end Docroot.Http

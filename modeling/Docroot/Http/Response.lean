import Docroot.Http.Header
import Docroot.Http.Status

/-!
# Responses
-/

namespace Docroot.Http

/-- A response: status, header section and body. -/
structure Response where
  status : Status
  headers : Headers
  body : Bytes

/-- The response with its body left out, as a HEAD request gets it. -/
def Response.withoutBody (r : Response) : Response := { r with body := [] }

end Docroot.Http

import Docroot.Http.Response

/-!
# Responses in the making

A response is put together field by field, each from what is meant to be its value. The first that
cannot be a value ends it: what was put in before is lost, and what comes after is not looked at.
Only at the end is it seen whether there is a response.
-/

namespace Docroot.Http

/-- Why a response cannot be built. -/
inductive BuildError where
  /-- What is meant to be a value cannot be one. -/
  | illegalValue
  /-- The header section is full. -/
  | fullSection
  deriving DecidableEq, Repr

/-- The error as people read it. -/
def BuildError.message : BuildError → Text
  | .illegalValue => "failed to parse header value".toList
  | .fullSection => "max size reached".toList

/-- The status and the fields put in so far, or the first error. -/
abbrev Draft := Except BuildError (Status × Headers)

namespace Draft

/-- **The draft with one more field**, where the text or the number meant for it can be a value. -/
def field (d : Draft) (n : HeaderName) (value : Option HeaderValue) : Draft := do
  let (status, headers) ← d
  match value with
  | none => .error .illegalValue
  | some v =>
    if Headers.isFull headers then .error .fullSection else .ok (status, headers ++ [(n, v)])

/-- The draft of fields put in one after another. -/
def ofFields (status : Status) (fields : List (HeaderName × Option HeaderValue)) : Draft :=
  fields.foldl (fun d f => d.field f.1 f.2) (.ok (status, []))

end Draft

end Docroot.Http

import Docroot.Text

/-!
# Status codes

A status is a number of three digits. Some have a short name, which stands after the number on the
wire, and five have a sentence of explanation on error pages.
-/

namespace Docroot.Http

/-- A status code. -/
structure Status where
  code : Nat
  legal : 100 ≤ code ∧ code ≤ 999 := by decide

instance : DecidableEq Status := fun a b =>
  decidable_of_iff (a.code = b.code) (by cases a; cases b; simp)

namespace Status

/-- The status of a number of three digits. -/
def ofNat? (n : Nat) : Option Status :=
  if h : 100 ≤ n ∧ n ≤ 999 then some ⟨n, h⟩ else none

/-- The request was answered. -/
def ok : Status := ⟨200, by decide⟩
/-- The resource is at another place for good. -/
def movedPermanently : Status := ⟨301, by decide⟩
/-- The client's copy is still good. -/
def notModified : Status := ⟨304, by decide⟩
/-- The request cannot be understood. -/
def badRequest : Status := ⟨400, by decide⟩
/-- There is nothing at the path. -/
def notFound : Status := ⟨404, by decide⟩
/-- The target of the request is too long. -/
def uriTooLong : Status := ⟨414, by decide⟩
/-- The head of the request is too long. -/
def headersTooLarge : Status := ⟨431, by decide⟩
/-- The server failed. -/
def serverError : Status := ⟨500, by decide⟩
/-- The method is not supported. -/
def notImplemented : Status := ⟨501, by decide⟩

/-- The name that follows the number on the wire. -/
def reason (s : Status) : Text :=
  match s.code with
  | 200 => "OK".toList
  | 301 => "Moved Permanently".toList
  | 304 => "Not Modified".toList
  | 400 => "Bad Request".toList
  | 404 => "Not Found".toList
  | 414 => "URI Too Long".toList
  | 431 => "Request Header Fields Too Large".toList
  | 500 => "Internal Server Error".toList
  | 501 => "Not Implemented".toList
  | _ => "<none>".toList

/-- The sentence that explains an error, empty for most. -/
def explanation (s : Status) : Text :=
  match s.code with
  | 400 => "Bad request syntax or unsupported method".toList
  | 404 => "Nothing matches the given URI".toList
  | 405 => "Specified method is invalid for this resource".toList
  | 500 => "Server got itself in trouble".toList
  | 501 => "Server does not support this operation".toList
  | _ => []

end Status

end Docroot.Http

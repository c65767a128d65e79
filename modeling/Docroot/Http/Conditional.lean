import Docroot.Time.HttpDate
import Docroot.Time.HttpDate.Read

/-!
# Conditional requests

A client that has a copy names the date of it; a file not changed since needs no second sending.
There are no entity tags here, so a request that names one is never answered from its date: the tag
takes precedence, and no tag can match.
-/

namespace Docroot.Http

open Docroot.Time

/-- **May the answer be that the file is unchanged?** Decided by the date alone, to the second, and
    only where no entity tag is named. A date that cannot be read is no date. -/
def isNotModified (ifModifiedSince ifNoneMatch : Option Text) (modified : Instant) :
    Except OutOfRange Bool :=
  if ifNoneMatch.isSome then .ok false
  else match ifModifiedSince.bind HttpDate.read? with
    | none => .ok false
    | some since => do return (← modified.toSeconds).le since

end Docroot.Http

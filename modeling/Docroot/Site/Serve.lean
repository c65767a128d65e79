import Docroot.Http.Conditional
import Docroot.Http.MediaType
import Docroot.Site.Directory
import Docroot.Site.Reply
import Docroot.Site.Translate

/-!
# Serving

What a request for a path gets: the file it leads to, a redirect to the same path with a slash
where it leads to a directory, what the policy has for a directory, or an error page.

The one failure that is not answered is a file whose time lies beyond the calendar: there is no
date to put into the response, and serving gives up (`OutOfRange`).
-/

namespace Docroot

/-! ## 1. Sites and requests -/

/-- What a directory without an index file gets. -/
inductive Site.DirectoryPolicy where
  /-- A list of its entries. -/
  | indexOrListing
  /-- Nothing. -/
  | indexOnly
  deriving DecidableEq, Repr

/-- A site: the directory that is served, how directories are answered, and the settings. -/
structure Site where
  settings : Settings
  root : Path
  policy : Site.DirectoryPolicy := .indexOrListing

end Docroot

namespace Docroot.Site

open Docroot.Files
open Docroot.Http
open Docroot.Log (Notice)
open Docroot.Time (OutOfRange HttpDate.format)

/-- What serving needs to know of a request. -/
structure Ask where
  /-- The path, still percent-coded. -/
  path : Text
  query : Option Text
  isHead : Bool
  ifModifiedSince : Option Text
  ifNoneMatch : Option Text
  deriving DecidableEq, Repr

/-- The request target that an ask came from. -/
def Ask.target (a : Ask) : Text :=
  match a.query with
  | some q => a.path ++ '?' :: q
  | none => a.path

/-- Where a directory is found whose path lacks its slash. -/
def Ask.directoryLocation (a : Ask) : Text :=
  match a.query with
  | some q => a.path ++ '/' :: '?' :: q
  | none => a.path ++ ['/']

/-- The reply where there is nothing to serve. -/
def Ask.notFound (a : Ask) : Reply := { response := notFoundResponse a.isHead }

/-! ## 2. Files -/

/-- **The reply for one regular file**, which may be that the client's copy is still good. -/
def serveFile (fs : FileSystem) (a : Ask) (file : Path) : Except OutOfRange Reply :=
  match fs.stat file with
  | .ok (.regular modified) => do
    let date ← HttpDate.format modified
    if ← isNotModified a.ifModifiedSince a.ifNoneMatch modified then
      .ok (notModifiedReply date)
    else match fs.read file with
      | .ok data => .ok (fileReply data (MediaType.ofPath file) (some date) a.isHead)
      | .error e => .ok { a.notFound with notices := [.readFailed file e] }
  | _ => .ok a.notFound

/-! ## 3. Directories -/

/-- The reply that lists a directory. -/
def listDirectory (fs : FileSystem) (a : Ask) (dir : Path) : Reply :=
  match readEntries fs dir with
  | .ok entries => { response := htmlResponse (listingPage a.target entries) a.isHead }
  | .error e =>
    { response := errorResponse .notFound "No permission to list directory".toList a.isHead
      notices := [.listFailed dir e] }

/-- **The reply for a directory.** -/
def serveDirectory (fs : FileSystem) (policy : DirectoryPolicy) (a : Ask) (dir : Path) :
    Except OutOfRange Reply :=
  match findIndex fs dir with
  | some index => serveFile fs a index
  | none =>
    match policy with
    | .indexOrListing => .ok (listDirectory fs a dir)
    | .indexOnly => .ok a.notFound

/-! ## 4. Paths -/

/-- **The reply for whatever the path leads to.** -/
def servePath (fs : FileSystem) (site : Site) (a : Ask) : Except OutOfRange Reply :=
  let t := translate site.root a.path
  match fs.stat t.path with
  | .error _ => .ok { a.notFound with notices := [.notFound t.path] }
  | .ok .directory =>
    if t.trailingSlash then serveDirectory fs site.policy a t.path
    else .ok (redirectReply a.directoryLocation)
  | .ok _ => if t.trailingSlash then .ok a.notFound else serveFile fs a t.path

end Docroot.Site

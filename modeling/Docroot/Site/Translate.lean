import Docroot.Files.Path
import Docroot.Percent
import Docroot.Text.Blank

/-!
# From request paths to files

The path of a request names a file below the served root. It is decoded once and cut at its
slashes; the pieces that are plain names lead down from the root, and every other piece (empty, `.`,
`..`, or with a backslash in it) is dropped. A plain name can neither climb nor begin again at the
top, so the result is always the root and names below it.

Whether the path asks for a directory is decided before decoding: it does if it ends in a slash.
-/

namespace Docroot.Site

/-- A piece of a path that is one name: not empty, not `.` or `..`, and without a backslash. -/
def isPlainName (s : Text) : Bool := s ≠ [] && s ≠ ['.'] && s ≠ ['.', '.'] && !s.contains '\\'

/-- Where a request path leads. -/
structure Translated where
  /-- The file below the root. -/
  path : Path
  /-- The request path ended in a slash. -/
  trailingSlash : Bool
  deriving DecidableEq, Repr

/-- The part of a request path that counts: what stands before the first `#`. -/
def beforeFragment (urlPath : Text) : Text := urlPath.takeWhile (· ≠ '#')

/-- The plain names in a decoded path. -/
def plainNames (decoded : Text) : List Text := (cutAt '/' decoded).filter isPlainName

/-- **The file a request path leads to.** -/
def translate (root : Path) (urlPath : Text) : Translated :=
  let p := beforeFragment urlPath
  { path := root.pushNames ((plainNames (Percent.decode p)).map Utf8.encode)
    trailingSlash := (Text.trimEnd p).getLast? == some '/' }

end Docroot.Site

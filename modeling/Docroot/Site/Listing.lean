import Docroot.Html
import Docroot.Percent

/-!
# Directory listings

A listing is a page with one row per entry: a link to it, and its name. The name in a link is
percent-coded and the name in the text is escaped, so neither can end the attribute or begin a tag.
A directory's link ends in a slash, so that following it needs no redirect; what is itself a
symbolic link shows an `@`.
-/

namespace Docroot.Site

/-- One entry of a directory. -/
structure Entry where
  name : Text
  /-- A directory, symbolic links followed. -/
  isDir : Bool
  /-- Itself a symbolic link. -/
  isSymlink : Bool
  deriving DecidableEq, Repr

namespace Entry

/-- The name as the page shows it. -/
def displayName (e : Entry) : Text :=
  if e.isSymlink then e.name ++ ['@'] else if e.isDir then e.name ++ ['/'] else e.name

/-- The link, relative to the directory, before coding. -/
def link (e : Entry) : Text := if e.isDir then e.name ++ ['/'] else e.name

/-- The row of an entry. -/
def row (e : Entry) : Text :=
  "<li><a href=\"".toList ++ Percent.encode e.link ++ "\">".toList
    ++ Html.escape e.displayName ++ "</a></li>\n".toList

end Entry

/-- The title of a listing: the request target, decoded. -/
def listingTitle (target : Text) : Text :=
  "Directory listing for ".toList ++ Html.escape (Percent.decode target)

/-- What precedes the rows. -/
def listingHead (target : Text) : Text :=
  let title := listingTitle target
  "<!DOCTYPE HTML>\n<html lang=\"en\">\n<head>\n<meta charset=\"utf-8\">\n<title>".toList ++ title
    ++ "</title>\n</head>\n<body>\n<h1>".toList ++ title ++ "</h1>\n<hr>\n<ul>\n".toList

/-- What follows the rows. -/
def listingFoot : Text := "</ul>\n<hr>\n</body>\n</html>\n".toList

/-- **The page of a directory**, for a request target as it was sent. -/
def listingPage (target : Text) (entries : List Entry) : Text :=
  listingHead target ++ entries.flatMap Entry.row ++ listingFoot

end Docroot.Site

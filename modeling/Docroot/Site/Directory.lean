import Docroot.Files.Tree
import Docroot.Settings
import Docroot.Site.Listing
import Docroot.Text.Lowercase

/-!
# What a directory holds

A directory is answered from its index file, if it has one, and otherwise from the list of its
entries, sorted by their names in small letters.
-/

namespace Docroot.Site

open Docroot.Files

/-- **The index file of a directory**: the first of the index names that is a regular file, links
    followed. -/
def findIndex (fs : FileSystem) (dir : Path) : Option Path :=
  (indexFiles.map fun name => dir.push (Utf8.encode name)).find? fs.isFile

/-- The entry of a name in a directory. What cannot be looked at is neither link nor directory. -/
def entryOf (fs : FileSystem) (dir : Path) (name : Bytes) : Entry :=
  let full := dir.push name
  ⟨Utf8.decodeLossy name, fs.isDirectory full, fs.isLink full⟩

/-- Not after, in the order of names in small letters. -/
def entryLe (a b : Entry) : Bool := Text.le (Text.lower a.name) (Text.lower b.name)

/-- **The entries of a directory**, sorted; entries with the same small letters stay in the
    directory's order. -/
def readEntries (fs : FileSystem) (dir : Path) : Except IoError (List Entry) := do
  let names ← fs.readDir dir
  .ok ((names.map (entryOf fs dir)).mergeSort entryLe)

end Docroot.Site

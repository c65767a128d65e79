import Docroot.Proofs.Site.Convergence
import Docroot.Proofs.Site.Entries
import Docroot.Proofs.Site.Links

/-!
# Index files are transparent

A directory that has an index file is answered as that file: whoever asks for the directory gets
what asking for the file by its name brings, whatever the conditions of the request. The two come
together where the path of the directory with the name behind it is translated
(`translate_append_indexFile`).

Without an index file no file is served for a directory. The reply is made from the names in the
directory and from the shape of the file system, so it stays the same whatever the files hold
(`listDirectory_putAt_file`).
-/

namespace Docroot.Site

open Docroot.Files
open Docroot.Path (IsName)

/-! ## 1. The index file of a directory -/

/-- The index names are plain names that stand for themselves in a path. -/
theorem indexFiles_spec : ∀ name ∈ indexFiles,
    Percent.encode name = name ∧ IsName (Utf8.encode name) ∧ '\\' ∉ name := by decide +kernel

/-- **Which file is the index**: `index.html` if that is a regular file, else `index.htm` if that
    is. -/
theorem findIndex_eq_ite (fs : FileSystem) (dir : Path) :
    findIndex fs dir
      = if fs.isFile (dir.push (Utf8.encode "index.html".toList)) then
          some (dir.push (Utf8.encode "index.html".toList))
        else if fs.isFile (dir.push (Utf8.encode "index.htm".toList)) then
          some (dir.push (Utf8.encode "index.htm".toList))
        else none := by
  unfold findIndex indexFiles
  rw [List.map_cons, List.map_cons, List.map_nil, List.find?_cons, List.find?_cons, List.find?_nil]
  cases fs.isFile (dir.push (Utf8.encode "index.html".toList)) <;>
    cases fs.isFile (dir.push (Utf8.encode "index.htm".toList)) <;> rfl

/-- The index is a regular file under one of the index names. -/
theorem exists_of_findIndex {fs : FileSystem} {dir index : Path}
    (h : findIndex fs dir = some index) :
    ∃ name ∈ indexFiles, index = dir.push (Utf8.encode name) ∧ fs.isFile index = true := by
  obtain ⟨name, hname, hindex⟩ := List.mem_map.1 (List.mem_of_find?_eq_some h)
  exact ⟨name, hname, hindex.symm, List.find?_some h⟩

theorem exists_stat_of_isFile {fs : FileSystem} {p : Path} (h : fs.isFile p = true) :
    ∃ modified, fs.stat p = .ok (.regular modified) := by
  unfold FileSystem.isFile at h
  split at h
  · next modified hstat => exact ⟨modified, hstat⟩
  · cases h

/-! ## 2. Asking for a directory and for its index -/

section

variable (root : Path) {p : Text} (hsharp : '#' ∉ p) (hslash : p.getLast? = some '/')
include hsharp hslash

theorem translate_of_slash : translate root p = ⟨(translate root p).path, true⟩ := by
  obtain ⟨front, rfl⟩ := List.getLast?_eq_some_iff.1 hslash
  have hfront : '#' ∉ front := fun hmem => hsharp (List.mem_append_left _ hmem)
  rw [translate_concat_slash root hfront]

/-- **An index name behind the path of a directory** leads to that name in the directory. -/
theorem translate_append_indexFile {name : Text} (hname : name ∈ indexFiles) :
    translate root (p ++ name) = ⟨(translate root p).path.push (Utf8.encode name), false⟩ := by
  obtain ⟨hcoded, hone, hback⟩ := indexFiles_spec name hname
  have hlink : linkPath p ⟨name, false, false⟩ = p ++ name := congrArg (p ++ ·) hcoded
  have hpath : (translate root (p ++ name)).path
      = (translate root p).path.push (Utf8.encode name) := by
    rw [← hlink]
    exact path_linkPath root hsharp hslash hone hback
  have htrailing : (translate root (p ++ name)).trailingSlash = false := by
    rw [← hlink]
    exact trailingSlash_linkPath root hsharp hone
  rw [← hpath, ← htrailing]

end

section

variable {fs : FileSystem} {site : Site} {a : Ask} (hsharp : '#' ∉ a.path)
  (hslash : a.path.getLast? = some '/')
  (hdir : fs.stat (translate site.root a.path).path = .ok .directory)
include hsharp hslash

/-- Asked for by its name, a file is served with the conditions of the request. -/
theorem servePath_append_indexFile {name : Text} (hname : name ∈ indexFiles)
    (hfile : fs.isFile ((translate site.root a.path).path.push (Utf8.encode name)) = true) :
    servePath fs site { a with path := a.path ++ name }
      = serveFile fs a ((translate site.root a.path).path.push (Utf8.encode name)) := by
  obtain ⟨modified, hstat⟩ := exists_stat_of_isFile hfile
  refine servePath_of_servedFile? ?_
  unfold servedFile?
  dsimp only
  rw [translate_append_indexFile site.root hsharp hslash hname]
  dsimp only
  rw [hstat]
  rfl

include hdir

theorem servePath_eq_serveDirectory :
    servePath fs site a
      = serveDirectory fs site.policy a (translate site.root a.path).path :=
  servePath_of_slash (translate_of_slash site.root hsharp hslash) hdir

end

/-! ## 3. Directories without an index -/

section

variable {fs : FileSystem} {place : Place} {before : Content} {earlier : Time.Instant}
  {given : Rights} (hold : fs.top.at? place = some (.file before earlier given))
  (content : Content) (modified : Time.Instant) (rights : Rights)
include hold

theorem sameShape_putAt_file : (fs.putAt place (.file content modified rights)).SameShape fs :=
  FileSystem.sameShape_putAt hold (Node.sameShape_file content before modified earlier rights given)

theorem findIndex_putAt_file (dir : Path) :
    findIndex (fs.putAt place (.file content modified rights)) dir = findIndex fs dir :=
  findIndex_congr fun _ _ => (sameShape_putAt_file hold content modified rights).isFile_eq _

/-- **A listing is the same whatever the files hold.** -/
theorem listDirectory_putAt_file (a : Ask) (dir : Path) :
    listDirectory (fs.putAt place (.file content modified rights)) a dir
      = listDirectory fs a dir := by
  unfold listDirectory readEntries
  rw [FileSystem.readDir_putAt_file hold,
    entryOf_eq_of_sameShape (sameShape_putAt_file hold content modified rights)]

theorem stat_putAt_file {p : Path} (hdir : fs.stat p = .ok .directory) :
    (fs.putAt place (.file content modified rights)).stat p = .ok .directory := by
  rw [← FileSystem.isDirectory_iff] at hdir ⊢
  rw [(sameShape_putAt_file hold content modified rights).isDirectory_eq, hdir]

end

/-! ## 4. Index files -/

/-- **How a directory is answered** when its path is asked for, which ends in a slash. -/
structure IndexIsTransparent (fs : FileSystem) (site : Site) (a : Ask) (dir : Path) : Prop where
  /-- The index file is answered as if it were asked for by its name. -/
  same : ∀ index, findIndex fs dir = some index → ∃ name ∈ indexFiles,
    index = dir.push (Utf8.encode name)
      ∧ servePath fs site a = servePath fs site { a with path := a.path ++ name }
  first : findIndex fs dir
    = if fs.isFile (dir.push (Utf8.encode "index.html".toList)) then
        some (dir.push (Utf8.encode "index.html".toList))
      else if fs.isFile (dir.push (Utf8.encode "index.htm".toList)) then
        some (dir.push (Utf8.encode "index.htm".toList))
      else none
  nothing : findIndex fs dir = none → site.policy = .indexOnly →
    servePath fs site a = .ok a.notFound ∧ a.notFound.response.status = .notFound
  /-- Without an index file the reply is a listing, and no octet of a file is in it. -/
  listing : findIndex fs dir = none → site.policy = .indexOrListing →
    servePath fs site a = .ok (listDirectory fs a dir)
      ∧ ∀ place before earlier given, fs.top.at? place = some (.file before earlier given) →
        ∀ content modified rights,
          servePath (fs.putAt place (.file content modified rights)) site a = servePath fs site a

/-- **Index files are transparent.** -/
theorem index_is_transparent (fs : FileSystem) (site : Site) {a : Ask} (hsharp : '#' ∉ a.path)
    (hslash : a.path.getLast? = some '/')
    (hdir : fs.stat (translate site.root a.path).path = .ok .directory) :
    IndexIsTransparent fs site a (translate site.root a.path).path := by
  have hserve := servePath_eq_serveDirectory hsharp hslash hdir
  unfold serveDirectory at hserve
  refine ⟨fun index hindex => ?_, findIndex_eq_ite fs _, fun hnone hpolicy => ?_,
    fun hnone hpolicy =>
      ⟨?_, fun place before earlier given hold content modified rights => ?_⟩⟩
  · obtain ⟨name, hname, rfl, hfile⟩ := exists_of_findIndex hindex
    rw [hindex] at hserve
    exact ⟨name, hname, rfl,
      hserve.trans (servePath_append_indexFile hsharp hslash hname hfile).symm⟩
  · rw [hnone, hpolicy] at hserve
    exact ⟨hserve, rfl⟩
  · rw [hnone, hpolicy] at hserve
    exact hserve
  · have hserve' := servePath_eq_serveDirectory hsharp hslash
      (stat_putAt_file hold content modified rights hdir)
    unfold serveDirectory at hserve'
    rw [findIndex_putAt_file hold, listDirectory_putAt_file hold] at hserve'
    rw [hnone, hpolicy] at hserve hserve'
    rw [hserve, hserve']

/-- `//`, for a client that has a copy. -/
def indexAsk : Ask :=
  ⟨"//".toList, none, false, some "Thu, 01 Jan 1970 00:00:00 GMT".toList, none⟩

/-- A file system with `index.html` at the root `w`. -/
def indexed : FileSystem := loneFile (Utf8.encode "index.html".toList) ⟨0, 0⟩

theorem findIndex_indexed :
    findIndex indexed [0x77] = some (Path.push [0x77] (Utf8.encode "index.html".toList)) := by
  have hstat : indexed.stat (Path.push [0x77] (Utf8.encode "index.html".toList))
      = .ok (.regular ⟨0, 0⟩) :=
    stat_eq_of_node (node_loneFile _ (by decide) (by decide) (by decide) true)
  rw [findIndex_eq_ite]
  unfold FileSystem.isFile
  rw [hstat]
  rfl

/-- Asking for `//` brings what asking for `//index.html` brings. -/
theorem index_is_transparent_doubleSlash :
    '#' ∉ indexAsk.path ∧ indexAsk.path.getLast? = some '/'
      ∧ indexed.stat (translate [0x77] indexAsk.path).path = .ok .directory
      ∧ servePath indexed ⟨.default, [0x77], .indexOnly⟩ indexAsk
        = servePath indexed ⟨.default, [0x77], .indexOnly⟩
            { indexAsk with path := "//index.html".toList } := by
  have htranslate : (translate [0x77] indexAsk.path).path = [0x77] := by decide
  have hsharp : '#' ∉ indexAsk.path := by decide
  have hslash : indexAsk.path.getLast? = some '/' := by decide
  have hdir : indexed.stat (translate [0x77] indexAsk.path).path = .ok .directory := by
    rw [htranslate]
    exact stat_eq_of_node (node_root_loneFile _ (by decide))
  have htransparent := index_is_transparent indexed ⟨.default, [0x77], .indexOnly⟩ hsharp hslash hdir
  obtain ⟨name, hname, hindex, hsame⟩ := htransparent.same _ (htranslate ▸ findIndex_indexed)
  have honly : ∀ name ∈ indexFiles, Path.push [0x77] (Utf8.encode "index.html".toList)
      = Path.push [0x77] (Utf8.encode name) → name = "index.html".toList := by decide
  rw [htranslate] at hindex
  obtain rfl := honly name hname hindex
  exact ⟨hsharp, hslash, hdir, hsame⟩

end Docroot.Site

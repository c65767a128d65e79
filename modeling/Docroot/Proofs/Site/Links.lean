import Docroot.Proofs.Site.Redirect
import Docroot.Proofs.Site.Serving

/-!
# Where the links of a listing lead

The links of a listing are written by one rule and read by another. A link is the escaped name of
an entry, with a slash behind it for a directory; the browser puts it behind the path of the page,
and the path that results is translated like any other (`path_linkPath`). The two rules fit
for every name but one kind: a name with a backslash in it is listed, but it is no segment of a
request path, so its link leads back to the directory (`path_linkPath_of_backslash`).

Where they fit, a link to a directory is never redirected and a link to a readable file brings the
file (`leadsTo_of_isEntry`).
-/

namespace Docroot.Files

open Docroot.Path (IsName)

/-! ## 1. Names that are text -/

/-- **A tree whose names are text**: every entry of a directory has a name, and the name is
    UTF-8. -/
def Node.HasTextNames (n : Node) : Prop :=
  ∀ place children rights, n.at? place = some (.directory children rights) →
    ∀ entry ∈ children, IsName entry.1 ∧ ∃ text, entry.1 = Utf8.encode text

theorem Node.hasTextNames_file (content : Content) (modified : Time.Instant) (rights : Rights) :
    (Node.file content modified rights).HasTextNames
  | [], _, _, e => by cases e
  | _ :: _, _, _, e => by rw [at?_cons] at e; cases e

/-- A directory has text names if its entries have and what is in them has. -/
theorem Node.hasTextNames_directory {children : List (Bytes × Node)} {rights : Rights}
    (h : ∀ entry ∈ children,
      (IsName entry.1 ∧ ∃ text, entry.1 = Utf8.encode text) ∧ entry.2.HasTextNames) :
    (Node.directory children rights).HasTextNames
  | [], _, _, e => by
    cases e
    exact fun entry hentry => (h entry hentry).1
  | _ :: rest, others, given, e => by
    obtain ⟨entry, hentry, e⟩ := exists_entry_of_at? e
    exact (h entry hentry).2 rest others given e

namespace FileSystem

/-- What a directory yields are names, and text. -/
theorem exists_of_mem_readDir {fs : FileSystem} (hnames : fs.top.HasTextNames) {dir : Path}
    {names : List Bytes} (h : fs.readDir dir = .ok names) {name : Bytes} (hname : name ∈ names) :
    IsName name ∧ ∃ text, name = Utf8.encode text := by
  obtain ⟨children, rights, hnode, -, rfl⟩ := readDir_eq_ok_iff.1 h
  obtain ⟨place, hplace⟩ := exists_place_of_node hnode
  obtain ⟨entry, hentry, rfl⟩ := List.mem_map.1 hname
  exact hnames place children rights hplace entry hentry

theorem isDirectory_iff {fs : FileSystem} {p : Path} :
    fs.isDirectory p = true ↔ fs.stat p = .ok .directory := by
  unfold isDirectory
  split
  · next h => simp [h]
  · next h => simpa using h

end FileSystem

end Docroot.Files

namespace Docroot.Site

open Docroot.Files
open Docroot.Http
open Docroot.Path (IsName push)
open Docroot.Time (Instant)

/-! ## 2. Links as request paths -/

/-- An entry of a directory: its name is one name there, and it is marked as a directory exactly if
    one stands under that name. -/
structure IsEntry (fs : FileSystem) (dir : Path) (e : Entry) : Prop where
  isName : IsName (Utf8.encode e.name)
  isDir : e.isDir = fs.isDirectory (dir.push (Utf8.encode e.name))

/-- **What is listed are entries of the directory.** -/
theorem isEntry_of_mem_readEntries {fs : FileSystem} (hnames : fs.top.HasTextNames) {dir : Path}
    {entries : List Entry} (h : readEntries fs dir = .ok entries) {e : Entry} (he : e ∈ entries) :
    IsEntry fs dir e := by
  unfold readEntries at h
  cases hread : fs.readDir dir with
  | error fault =>
    rw [hread] at h
    cases h
  | ok names =>
    rw [hread] at h
    cases h
    rw [List.mem_mergeSort] at he
    obtain ⟨name, hname, rfl⟩ := List.mem_map.1 he
    obtain ⟨hone, text, rfl⟩ := FileSystem.exists_of_mem_readDir hnames hread hname
    have htext : (entryOf fs dir (Utf8.encode text)).name = text := Utf8.decodeLossy_encode text
    constructor
    · rwa [htext]
    · rw [htext]
      rfl

/-- The request path of an entry's link, on the page that lists the directory of `p`. -/
def linkPath (p : Text) (e : Entry) : Text := p ++ Percent.encode e.link

theorem slash_notMem_of_isName {name : Text} (h : IsName (Utf8.encode name)) : '/' ∉ name :=
  fun hm => h.no_slash ((Utf8.mem_encode (b := Path.slash) (by decide)).2 hm)

/-- A name is plain unless it has a backslash. -/
theorem isPlainName_of_isName {name : Text} (h : IsName (Utf8.encode name)) :
    isPlainName name = !name.contains '\\' := by
  have hnil : name ≠ [] := fun e => h.ne_nil (by rw [e]; rfl)
  have hdot : name ≠ ['.'] := fun e => h.ne_dot (by rw [e]; rfl)
  have hdots : name ≠ ['.', '.'] := fun e => h.ne_dots (by rw [e]; rfl)
  simp [isPlainName, hnil, hdot, hdots]

/-- The names in a link: the entry's name, if it is plain. -/
theorem plainNames_link {e : Entry} (h : '/' ∉ e.name) :
    plainNames e.link = [e.name].filter isPlainName := by
  unfold plainNames Entry.link
  split
  · have hnone : (cutAt '/' ([] : Text)).filter isPlainName = [] := rfl
    rw [cutAt_append_sep, List.filter_append, hnone, List.append_nil, cutAt_of_not_mem h]
  · rw [cutAt_of_not_mem h]

theorem link_ne_nil {e : Entry} (h : e.name ≠ []) : e.link ≠ [] := by
  unfold Entry.link
  split
  · simp
  · exact h

theorem getLast?_link {e : Entry} (h : '/' ∉ e.name) :
    (e.link.getLast? == some '/') = e.isDir := by
  unfold Entry.link
  cases e.isDir with
  | true => simp
  | false =>
    rw [if_neg (by decide), beq_eq_false_iff_ne]
    exact fun hlast => h (List.mem_of_getLast? hlast)

section

variable (root : Path) {p : Text} {e : Entry}

/-- A link asks for a directory exactly if its entry is one. -/
theorem trailingSlash_linkPath (hsharp : '#' ∉ p) (h : IsName (Utf8.encode e.name)) :
    (translate root (linkPath p e)).trailingSlash = e.isDir := by
  have hne : e.name ≠ [] := fun hnil => h.ne_nil (by rw [hnil]; rfl)
  have hslash := slash_notMem_of_isName h
  unfold linkPath
  rw [trailingSlash_append_encode root hsharp (link_ne_nil hne), getLast?_link hslash]

/-- The names that a link leads down by, below the directory. -/
theorem segments_linkPath (hsharp : '#' ∉ p) (hslash : p.getLast? = some '/')
    (h : IsName (Utf8.encode e.name)) :
    segments (linkPath p e)
      = segments p ++ (if '\\' ∈ e.name then [] else [Utf8.encode e.name]) := by
  have hnames := plainNames_link (slash_notMem_of_isName h)
  have hplain := isPlainName_of_isName h
  unfold linkPath
  rw [segments_append_encode hsharp hslash, hnames]
  by_cases hback : '\\' ∈ e.name
  · have hno : isPlainName e.name = false := by simp [hplain, hback]
    rw [if_pos hback, List.filter_cons, hno]
    rfl
  · have hyes : isPlainName e.name = true := by simp [hplain, hback]
    rw [if_neg hback, List.filter_cons, hyes]
    rfl

/-- **A link leads to its entry**, as long as the name has no backslash. -/
theorem path_linkPath (hsharp : '#' ∉ p) (hslash : p.getLast? = some '/')
    (h : IsName (Utf8.encode e.name)) (hback : '\\' ∉ e.name) :
    (translate root (linkPath p e)).path = (translate root p).path.push (Utf8.encode e.name) := by
  rw [translate_eq_foldl_push, translate_eq_foldl_push, segments_linkPath hsharp hslash h,
    if_neg hback, List.foldl_append]
  rfl

/-- **A link to a name with a backslash leads to the directory itself.** -/
theorem path_linkPath_of_backslash (hsharp : '#' ∉ p) (hslash : p.getLast? = some '/')
    (h : IsName (Utf8.encode e.name)) (hback : '\\' ∈ e.name) :
    (translate root (linkPath p e)).path = (translate root p).path := by
  rw [translate_eq_foldl_push, translate_eq_foldl_push, segments_linkPath hsharp hslash h,
    if_pos hback, List.append_nil]

/-- **A link is a target**, on a page whose path is one, unless that makes it too long. -/
theorem ofBytes_linkPath {front : Text} (hp : ('/' :: front).all isPathChar = true)
    (hlen : (Utf8.encode (linkPath ('/' :: front) e)).length ≤ Target.maxLength) :
    ∃ target, Target.ofBytes (Utf8.encode (linkPath ('/' :: front) e)) = .ok target
      ∧ target.path = linkPath ('/' :: front) e := by
  have hall : ('/' :: (front ++ Percent.encode e.link)).all isPathChar = true := by
    rw [← List.cons_append, List.all_append, hp, Bool.true_and, List.all_eq_true]
    exact fun c hc => isPathChar_of_isCoded (Percent.isCoded_of_mem_encode hc)
  exact ⟨_, Target.ofBytes_written (q := none) hall rfl hlen, rfl⟩

end

/-! ## 3. Following a link -/

/-- **A link that leads to its entry.** The path is that of the entry, and it asks for a directory
    exactly if one is there. Following the link is not answered with a redirect, and it brings the
    file if the entry is a readable file that has a date. -/
structure LeadsTo (fs : FileSystem) (site : Site) (p : Text) (e : Entry) : Prop where
  path : (translate site.root (linkPath p e)).path
    = (translate site.root p).path.push (Utf8.encode e.name)
  directory : (translate site.root (linkPath p e)).trailingSlash
    = fs.isDirectory ((translate site.root p).path.push (Utf8.encode e.name))
  stays : ∀ (peer : Text) (timing : Timing) (r : Request), r.method = .get ∨ r.method = .head →
    r.target.path = linkPath p e → ∀ answer, handle fs site peer timing r = .ok answer →
    answer.response.status ≠ .movedPermanently
  brings : ∀ (modified : Instant) (data : Bytes),
    fs.stat ((translate site.root p).path.push (Utf8.encode e.name)) = .ok (.regular modified) →
    fs.read ((translate site.root p).path.push (Utf8.encode e.name)) = .ok data →
    modified.hasDate = true →
    ∀ (peer : Text) (timing : Timing) (r : Request), r.method = .get →
      r.target.path = linkPath p e → Headers.values r.headers .ifModifiedSince = [] →
      ∃ answer, handle fs site peer timing r = .ok answer
        ∧ Brings ((translate site.root p).path.push (Utf8.encode e.name)) modified data
          answer.response

theorem leadsTo_of_isEntry {fs : FileSystem} {site : Site} {p : Text} {e : Entry}
    (hsharp : '#' ∉ p) (hslash : p.getLast? = some '/')
    (h : IsEntry fs (translate site.root p).path e) (hback : '\\' ∉ e.name) :
    LeadsTo fs site p e := by
  have hpath := path_linkPath site.root hsharp hslash h.isName hback
  have hdir := (trailingSlash_linkPath site.root hsharp h.isName).trans h.isDir
  refine ⟨hpath, hdir, ?_, ?_⟩
  · intro peer timing r hmethod htarget answer hanswer hstatus
    obtain ⟨hstat, hno⟩ := lacksSlash_of_status fs site peer timing hmethod hanswer hstatus
    rw [htarget, hpath, ← FileSystem.isDirectory_iff] at hstat
    rw [htarget, hdir, hstat] at hno
    cases hno
  · intro modified data hstat hread hdate peer timing r hget htarget hsince
    have hno : (translate site.root (linkPath p e)).trailingSlash = false := by
      rw [hdir, Bool.eq_false_iff, Ne, FileSystem.isDirectory_iff, hstat]
      simp
    have hserved : servedFile? fs site (askOf r)
        = some ((translate site.root p).path.push (Utf8.encode e.name)) := by
      unfold servedFile?
      dsimp only
      rw [show (askOf r).path = linkPath p e from htarget, hpath, hno, hstat]
      rfl
    exact brings_of_servedFile? hserved hstat hread hdate hget hsince peer timing

/-- **Every link of a listing leads to its entry, or back to the directory** if the entry's name has
    a backslash. All of them ask for a directory exactly if their entry is one, and all of them are
    targets, on a page whose path is one, as long as they are not too long. -/
theorem links_lead_to_entries (fs : FileSystem) (site : Site) (p : Text)
    (hnames : fs.top.HasTextNames) (hsharp : '#' ∉ p) (hslash : p.getLast? = some '/')
    {entries : List Entry}
    (hentries : readEntries fs (translate site.root p).path = .ok entries) :
    ∀ e ∈ entries,
      (translate site.root (linkPath p e)).trailingSlash = e.isDir
      ∧ ('\\' ∉ e.name → LeadsTo fs site p e)
      ∧ ('\\' ∈ e.name →
          (translate site.root (linkPath p e)).path = (translate site.root p).path)
      ∧ (p.head? = some '/' → p.all isPathChar = true →
          (Utf8.encode (linkPath p e)).length ≤ Target.maxLength →
          ∃ target, Target.ofBytes (Utf8.encode (linkPath p e)) = .ok target
            ∧ target.path = linkPath p e) := by
  intro e he
  have hentry := isEntry_of_mem_readEntries hnames hentries he
  refine ⟨trailingSlash_linkPath site.root hsharp hentry.isName,
    leadsTo_of_isEntry hsharp hslash hentry,
    path_linkPath_of_backslash site.root hsharp hslash hentry.isName, ?_⟩
  intro hhead hlegal hlen
  obtain ⟨front, rfl⟩ := List.head?_eq_some_iff.1 hhead
  exact ofBytes_linkPath hlegal hlen

/-! ## 4. A directory with one file -/

section

variable {name : Text} (modified : Instant)

theorem hasTextNames_loneFile (h : IsName (Utf8.encode name)) :
    (loneFile (Utf8.encode name) modified).top.HasTextNames :=
  Node.hasTextNames_directory (List.forall_mem_singleton.2
    ⟨⟨(by decide : IsName [0x77]), ['w'], rfl⟩,
    Node.hasTextNames_directory (List.forall_mem_singleton.2
      ⟨⟨h, name, rfl⟩, Node.hasTextNames_file _ _ _⟩)⟩)

/-- Its listing is the one file. -/
theorem readEntries_loneFile (h : IsName (Utf8.encode name))
    (hlen : (Utf8.encode name).length ≤ maxName)
    (hfault : pathFault (push [0x77] (Utf8.encode name)) = none) :
    readEntries (loneFile (Utf8.encode name) modified) [0x77] = .ok [⟨name, false, false⟩] := by
  have hnode := node_loneFile modified h hlen hfault
  have hread : (loneFile (Utf8.encode name) modified).readDir [0x77] = .ok [Utf8.encode name] :=
    FileSystem.readDir_eq_ok_iff.2 ⟨_, _, node_root_loneFile modified h, rfl, rfl⟩
  have hentry : entryOf (loneFile (Utf8.encode name) modified) [0x77] (Utf8.encode name)
      = ⟨name, false, false⟩ := by
    unfold entryOf FileSystem.isDirectory FileSystem.isLink FileSystem.stat FileSystem.lstat
    dsimp only
    rw [hnode true, hnode false, Utf8.decodeLossy_encode]
    rfl
  unfold readEntries
  rw [hread]
  dsimp only [bind, Except.bind]
  rw [List.map_singleton, hentry, List.mergeSort_singleton]

end

/-- The directory `w` with the file `a\b`. -/
def backslashName : FileSystem := loneFile (Utf8.encode "a\\b".toList) ⟨784111777, 5⟩

/-- The link of `a b%.txt` leads to that file. -/
theorem link_leads_to_spacedFile :
    readEntries spacedFile [0x77] = .ok [⟨"a b%.txt".toList, false, false⟩]
      ∧ LeadsTo spacedFile ⟨.default, [0x77], .indexOrListing⟩ ['/']
          ⟨"a b%.txt".toList, false, false⟩ := by
  have hname : IsName (Utf8.encode "a b%.txt".toList) := by decide
  have hentries := readEntries_loneFile ⟨784111777, 5⟩ hname (by decide) (by decide)
  obtain ⟨-, hleads, -⟩ := links_lead_to_entries spacedFile ⟨.default, [0x77], .indexOrListing⟩
    ['/'] (hasTextNames_loneFile _ hname) (by decide) rfl hentries _ (List.mem_singleton_self _)
  exact ⟨hentries, hleads (by decide)⟩

/-- The link of `a\b` leads back to the directory, and there it is answered with a redirect. -/
theorem link_of_backslash_leads_back :
    readEntries backslashName [0x77] = .ok [⟨"a\\b".toList, false, false⟩]
      ∧ (translate [0x77] (linkPath ['/'] ⟨"a\\b".toList, false, false⟩)).path = [0x77]
      ∧ push [0x77] (Utf8.encode "a\\b".toList) ≠ [0x77]
      ∧ ∃ answer, handle backslashName ⟨.default, [0x77], .indexOrListing⟩ []
            ⟨⟨⟨0, 0⟩, 0⟩, 0⟩ (getRequest "/a%5Cb".toList (by decide) []) = .ok answer
          ∧ answer.response.status = .movedPermanently := by
  have hname : IsName (Utf8.encode "a\\b".toList) := by decide
  have hlink : linkPath ['/'] ⟨"a\\b".toList, false, false⟩ = "/a%5Cb".toList := by decide
  have hback := path_linkPath_of_backslash [0x77] (p := ['/']) (e := ⟨"a\\b".toList, false, false⟩)
    (by decide) rfl hname (by decide)
  have hslash := trailingSlash_linkPath [0x77] (p := ['/']) (e := ⟨"a\\b".toList, false, false⟩)
    (by decide) hname
  have hroot : (translate [0x77] ['/']).path = [0x77] := by decide
  rw [hroot] at hback
  have hlacks : LacksSlash backslashName (translate [0x77] "/a%5Cb".toList) := by
    rw [← hlink]
    refine ⟨?_, hslash⟩
    rw [hback]
    exact stat_eq_of_node (node_root_loneFile _ hname)
  obtain ⟨answer, hanswer, hstatus, -⟩ := handle_of_lacksSlash backslashName
    ⟨.default, [0x77], .indexOrListing⟩ [] ⟨⟨⟨0, 0⟩, 0⟩, 0⟩
    (r := getRequest "/a%5Cb".toList (by decide) []) (Or.inl rfl) hlacks
  exact ⟨readEntries_loneFile ⟨784111777, 5⟩ hname (by decide) (by decide), hback, by decide,
    answer, hanswer, hstatus⟩

end Docroot.Site

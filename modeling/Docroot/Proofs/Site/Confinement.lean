import Docroot.Proofs.Files.Shape
import Docroot.Proofs.Site.Serve
import Docroot.Proofs.Site.Translate

/-!
# No request sees outside the root

Two file systems that hold the same plain tree at the served root answer every request alike,
however much they differ elsewhere.

Whatever is looked at for a request lies *below* the root: the path that the request leads to, the
index files in it, and the entries of a directory. Below the root both file systems have the same
nodes (`SameBelow.node_eq_of_below`), and a response is made from nodes (`servePath_response`).
-/

namespace Docroot.Files

open Docroot.Path (IsName push)

/-! ## 1. Paths below a root -/

/-- The root, or what names lead down to from it. -/
def Below (root p : Path) : Prop := ∃ ns : List Bytes, (∀ n ∈ ns, IsName n) ∧ p = ns.foldl push root

theorem isName_of_mem_concat {ns : List Bytes} (hns : ∀ n ∈ ns, IsName n) {name : Bytes}
    (hname : IsName name) : ∀ n ∈ ns ++ [name], IsName n := by
  intro n hn
  rcases List.mem_append.1 hn with hn | hn
  · exact hns n hn
  · rw [List.mem_singleton.1 hn]
    exact hname

theorem Below.push {root p : Path} (h : Below root p) {name : Bytes} (hname : IsName name) :
    Below root (p.push name) := by
  obtain ⟨ns, hns, rfl⟩ := h
  exact ⟨ns ++ [name], isName_of_mem_concat hns hname, by simp⟩

section

variable {fs₁ fs₂ : FileSystem} {root : Path}

/-- **They have the same node at every path below the root.** -/
theorem SameBelow.node_eq_of_below (h : SameBelow fs₁ fs₂ root) {p : Path} (hp : Below root p) :
    (fs₁.node true p).toOption = (fs₂.node true p).toOption := by
  obtain ⟨ns, hns, rfl⟩ := hp
  by_cases hne : ns = []
  · subst hne
    exact h.node_root_eq
  · exact h.node_eq true hns hne

/-- One step further down it does not matter whether a link would be followed. -/
theorem SameBelow.node_push_eq (h : SameBelow fs₁ fs₂ root) (followLast : Bool) {p : Path}
    (hp : Below root p) {name : Bytes} (hname : IsName name) :
    (fs₁.node followLast (p.push name)).toOption
      = (fs₂.node followLast (p.push name)).toOption := by
  obtain ⟨ns, hns, rfl⟩ := hp
  have := h.node_eq followLast (isName_of_mem_concat hns hname) (by simp)
  rwa [List.foldl_append] at this

/-- **What stands below the root is plain.** -/
theorem SameBelow.isPlain_of_below (h : SameBelow fs₁ fs₂ root) {p : Path} (hp : Below root p)
    {n : Node} (hn : (fs₁.node true p).toOption = some n) : n.IsPlain := by
  obtain ⟨ns, hns, rfl⟩ := hp
  by_cases hne : ns = []
  · subst hne
    rw [List.foldl_nil] at hn
    by_cases hroot : root = []
    · subst hroot
      cases hn
    · exact h.plain n (by rw [FileSystem.below?, if_neg hroot, hn])
  · rw [fs₁.node_foldl_push true root hns hne h.plain] at hn
    split at hn
    · obtain ⟨m, hm, hdesc⟩ := Option.bind_eq_some_iff.1 hn
      exact (h.plain m hm).at? (Node.at?_of_descend? hdesc)
    · cases hn

/-! ## 2. Looking and reading below a root -/

/-- The names in a directory, by the node there. -/
theorem toOption_readDir (fs : FileSystem) (p : Path) :
    (fs.readDir p).toOption = match (fs.node true p).toOption with
      | some (.directory children rights) =>
        if rights.read then some (children.map (·.1)) else none
      | _ => none := by
  unfold FileSystem.readDir
  cases fs.node true p with
  | error e => rfl
  | ok n =>
    cases n with
    | directory children rights =>
      by_cases hread : rights.read = true
      · simp [bind, Except.bind, Except.toOption, hread]
      · simp [bind, Except.bind, Except.toOption, hread]
    | _ => rfl

/-- What a directory below the root yields are names. -/
theorem SameBelow.isName_of_mem_readDir (h : SameBelow fs₁ fs₂ root) {dir : Path}
    (hdir : Below root dir) {names : List Bytes} (hread : (fs₁.readDir dir).toOption = some names) :
    ∀ name ∈ names, IsName name := by
  rw [toOption_readDir] at hread
  split at hread
  · next children rights hnode =>
    split at hread
    · cases hread
      intro name hname
      obtain ⟨entry, hentry, rfl⟩ := List.mem_map.1 hname
      exact (h.isPlain_of_below hdir hnode).isName [] children rights (Node.at?_nil _) entry hentry
    · cases hread
  · cases hread

end

end Docroot.Files

namespace Docroot.Site

open Docroot.Files
open Docroot.Http
open Docroot.Path (IsName push)

section

variable {fs₁ fs₂ : FileSystem} {root dir : Path}

/-! ## 3. Directories -/

theorem isName_of_mem_indexFiles : ∀ name ∈ indexFiles, IsName (Utf8.encode name) := by decide

/-- An index file stands under one of the index names. -/
theorem below_of_findIndex {fs : FileSystem} {index : Path} (hdir : Below root dir)
    (h : findIndex fs dir = some index) : Below root index := by
  obtain ⟨name, hname, rfl⟩ := List.mem_map.1 (List.mem_of_find?_eq_some h)
  exact hdir.push (isName_of_mem_indexFiles name hname)

theorem findIndex_congr (h : ∀ name ∈ indexFiles,
    fs₁.isFile (dir.push (Utf8.encode name)) = fs₂.isFile (dir.push (Utf8.encode name))) :
    findIndex fs₁ dir = findIndex fs₂ dir := by
  unfold findIndex
  rw [← List.head?_filter, ← List.head?_filter]
  congr 1
  apply List.filter_congr
  intro p hp
  obtain ⟨name, hname, rfl⟩ := List.mem_map.1 hp
  exact h name hname

theorem findIndex_eq (h : SameBelow fs₁ fs₂ root) (hdir : Below root dir) :
    findIndex fs₁ dir = findIndex fs₂ dir :=
  findIndex_congr fun name hname => FileSystem.isFile_congr (congrArg (Option.map Node.kind)
    (h.node_push_eq true hdir (isName_of_mem_indexFiles name hname)))

theorem entryOf_congr {name : Bytes}
    (hdir : fs₁.isDirectory (dir.push name) = fs₂.isDirectory (dir.push name))
    (hlink : fs₁.isLink (dir.push name) = fs₂.isLink (dir.push name)) :
    entryOf fs₁ dir name = entryOf fs₂ dir name := by
  unfold entryOf
  dsimp only
  rw [hdir, hlink]

theorem entryOf_eq (h : SameBelow fs₁ fs₂ root) (hdir : Below root dir) {name : Bytes}
    (hname : IsName name) : entryOf fs₁ dir name = entryOf fs₂ dir name :=
  entryOf_congr
    (FileSystem.isDirectory_congr (congrArg (Option.map Node.kind) (h.node_push_eq true hdir hname)))
    (FileSystem.isLink_congr (congrArg (Option.map Node.kind) (h.node_push_eq false hdir hname)))

/-- The entries of a directory, by its names. -/
theorem toOption_readEntries (fs : FileSystem) (dir : Path) :
    (readEntries fs dir).toOption = (fs.readDir dir).toOption.map fun names =>
      (names.map (entryOf fs dir)).mergeSort entryLe := by
  unfold readEntries
  cases fs.readDir dir <;> rfl

theorem toOption_readEntries_eq (h : SameBelow fs₁ fs₂ root) (hdir : Below root dir) :
    (readEntries fs₁ dir).toOption = (readEntries fs₂ dir).toOption := by
  have hread : (fs₁.readDir dir).toOption = (fs₂.readDir dir).toOption := by
    rw [toOption_readDir, toOption_readDir, h.node_eq_of_below hdir]
  rw [toOption_readEntries, toOption_readEntries, ← hread]
  cases hnames : (fs₁.readDir dir).toOption with
  | none => rfl
  | some names =>
    have hentries : names.map (entryOf fs₁ dir) = names.map (entryOf fs₂ dir) :=
      List.map_congr_left fun name hname =>
        entryOf_eq h hdir (h.isName_of_mem_readDir hdir hnames name hname)
    rw [Option.map_some, Option.map_some, hentries]

/-- The response that lists a directory, by what could be read of it. -/
theorem listDirectory_response (fs : FileSystem) (a : Ask) (dir : Path) :
    (listDirectory fs a dir).response = match (readEntries fs dir).toOption with
      | some entries => htmlResponse (listingPage a.target entries) a.isHead
      | none => errorResponse .notFound "No permission to list directory".toList a.isHead := by
  unfold listDirectory
  cases readEntries fs dir <;> rfl

theorem serveDirectory_response_eq (h : SameBelow fs₁ fs₂ root) (hdir : Below root dir)
    (policy : DirectoryPolicy) (a : Ask) :
    (serveDirectory fs₁ policy a dir).map (·.response)
      = (serveDirectory fs₂ policy a dir).map (·.response) := by
  unfold serveDirectory
  rw [findIndex_eq h hdir]
  cases hindex : findIndex fs₂ dir with
  | some index =>
    dsimp only
    rw [serveFile_response, serveFile_response,
      h.node_eq_of_below (below_of_findIndex hdir hindex)]
  | none =>
    cases policy with
    | indexOnly => rfl
    | indexOrListing =>
      show Except.ok (listDirectory fs₁ a dir).response = Except.ok (listDirectory fs₂ a dir).response
      rw [listDirectory_response, listDirectory_response, toOption_readEntries_eq h hdir]

/-! ## 4. Requests -/

/-- **A request path leads below the root.** -/
theorem below_translate (root : Path) (urlPath : Text) : Below root (translate root urlPath).path :=
  ⟨segments urlPath, isName_of_mem_segments, translate_eq_foldl_push root urlPath⟩

theorem servePath_response_eq {site : Site} (h : SameBelow fs₁ fs₂ site.root) (a : Ask) :
    (servePath fs₁ site a).map (·.response) = (servePath fs₂ site a).map (·.response) := by
  have hbelow := below_translate site.root a.path
  rw [servePath_response, servePath_response, h.node_eq_of_below hbelow,
    serveDirectory_response_eq h hbelow]

theorem respond_response_eq {site : Site} (h : SameBelow fs₁ fs₂ site.root) (r : Request) :
    (respond fs₁ site r).map (·.response) = (respond fs₂ site r).map (·.response) := by
  unfold respond
  split
  · exact servePath_response_eq h (askOf r)
  · rfl

/-- **Confinement.** With the same plain tree at the root every request gets the same response,
    whatever the rest of the file systems holds. And what a request path is translated to is the
    root with names below it that neither stay nor climb nor begin again at the top. -/
theorem confinement :
    (∀ (fs₁ fs₂ : FileSystem) (site : Site), SameBelow fs₁ fs₂ site.root →
      ∀ (r : Request) (peer₁ peer₂ : Text) (timing₁ timing₂ : Timing),
        (handle fs₁ site peer₁ timing₁ r).map (·.response)
          = (handle fs₂ site peer₂ timing₂ r).map (·.response))
    ∧ ∀ (root : Path) (urlPath : Text), ∃ names : List Bytes,
        (∀ name ∈ names, IsName name ∧ 0x5C ∉ name)
        ∧ (translate root urlPath).path = names.foldl push root
        ∧ root <+: (translate root urlPath).path
        ∧ (translate root urlPath).path.names = root.names ++ names := by
  constructor
  · intro fs₁ fs₂ site h r peer₁ peer₂ timing₁ timing₂
    rw [handle_response, handle_response, respond_response_eq h]
  · intro root urlPath
    have hnames : ∀ name ∈ segments urlPath, IsName name := isName_of_mem_segments
    rw [translate_eq_foldl_push]
    exact ⟨segments urlPath,
      fun name hname => ⟨hnames name hname, backslash_notMem_of_mem_segments name hname⟩, rfl,
      Path.prefix_foldl_push root _ hnames, Path.names_foldl_push root _ hnames⟩

end

/-- A file system with one page at the root `w`, and a file `k` beside the root. -/
def besideRoot (key : Bytes) : FileSystem where
  top := .directory [([0x77], .directory [([0x61], .file (.bytes [0x68, 0x69]) ⟨0, 0⟩)]),
    ([0x6B], .file (.bytes key) ⟨0, 0⟩)]
  here := []

/-- The root of it. -/
def pageRoot : Node := .directory [([0x61], .file (.bytes [0x68, 0x69]) ⟨0, 0⟩)]

theorem isPlain_pageRoot : pageRoot.IsPlain :=
  Node.isPlain_directory (List.forall_mem_singleton.2 ⟨by decide, Node.isPlain_file _ _ _⟩)

theorem isPlain_besideRoot (key : Bytes) : (besideRoot key).top.IsPlain := by
  have hroot : IsName [0x77] := by decide
  have hkey : IsName [0x6B] := by decide
  exact Node.isPlain_directory (List.forall_mem_cons.2
    ⟨⟨hroot, isPlain_pageRoot⟩, List.forall_mem_singleton.2 ⟨hkey, Node.isPlain_file _ _ _⟩⟩)

theorem node_root_besideRoot (key : Bytes) : (besideRoot key).node true [0x77] = .ok pageRoot :=
  FileSystem.node_of_names rfl (isPlain_besideRoot key) [[0x77]] (by decide) (by simp) (by decide)
    rfl true

theorem read_besideRoot (key : Bytes) : (besideRoot key).read [0x6B] = .ok key :=
  read_eq_of_node (FileSystem.node_of_names rfl (isPlain_besideRoot key) [[0x6B]] (by decide)
    (by simp) (by decide) rfl true)

theorem sameBelow_besideRoot (key₁ key₂ : Bytes) :
    SameBelow (besideRoot key₁) (besideRoot key₂) [0x77] := by
  have hbelow (key : Bytes) : (besideRoot key).below? [0x77] = some pageRoot := by
    unfold FileSystem.below?
    rw [if_neg (by simp), node_root_besideRoot]
    rfl
  constructor
  · rw [hbelow, hbelow]
  · intro n hn
    rw [hbelow] at hn
    cases hn
    exact isPlain_pageRoot

/-- `GET /%2e%2e/k`, which asks for what is beside the root. -/
def climbingRequest : Request := getRequest "/%2e%2e/k".toList (by decide) []

/-- The two file systems hold different files at `k`, and the request gets the same from both. -/
theorem confinement_besideRoot :
    (besideRoot [1]).read [0x6B] = .ok [1] ∧ (besideRoot [2]).read [0x6B] = .ok [2]
    ∧ (handle (besideRoot [1]) ⟨.default, [0x77], .indexOnly⟩ [] ⟨⟨⟨0, 0⟩, 0⟩, 0⟩
          climbingRequest).map (·.response)
        = (handle (besideRoot [2]) ⟨.default, [0x77], .indexOnly⟩ [] ⟨⟨⟨0, 0⟩, 0⟩, 0⟩
          climbingRequest).map (·.response) :=
  ⟨read_besideRoot [1], read_besideRoot [2],
    confinement.1 _ _ ⟨.default, [0x77], .indexOnly⟩ (sameBelow_besideRoot [1] [2]) _ _ _ _ _⟩

end Docroot.Site

import Docroot.Proofs.Files.Shape
import Docroot.Proofs.Files.Way
import Docroot.Proofs.Site.Confinement
import Docroot.Proofs.Text.Order

/-!
# A listing is complete, and its order is its own

What is listed for a directory is one entry for each child, and each entry *describes* its child
(`Describes`): it says whether the child is a link, and whether a way leads from it to a directory.
What the system refuses shows in it. A child whose path is too long cannot be looked at, and neither
can the children of a directory that may be read but not searched: they are listed as neither. And a
way that leads through more links than may be followed, or through a directory that may not be
searched, leads nowhere (`describes_l`, `describes_k`).

The entries are sorted by their names in small letters. If these are all different there is only one
sorted order, so the order in which the system yields the children does not show
(`readEntries_reordered`).
-/

namespace Docroot.Site

open Docroot.Files

/-! ## 1. Entries and children -/

/-- **An entry that describes a child** of the directory that `dir` leads to, which is at `place` and
    `links` links away, and gives these rights. A way goes through directories that may be searched,
    the one of the child among them. -/
structure Describes (fs : FileSystem) (dir : Path) (place : Place) (links : Nat) (rights : Rights)
    (child : Bytes × Node) (e : Entry) : Prop where
  name : e.name = Utf8.decodeLossy child.1
  isSymlink : e.isSymlink = true
    ↔ rights.search = true ∧ (dir.push child.1).length < pathLimit
      ∧ ∃ target, child.2 = .link target
  isDir : e.isDir = true
    ↔ (dir.push child.1).length < pathLimit ∧ ∃ n target others given, links + n ≤ maxLinks
      ∧ Way fs.top place [child.1] n target ∧ fs.top.at? target = some (.directory others given)

theorem describes_entryOf {fs : FileSystem} (hproper : fs.top.IsProper) {dir : Path} {place : Place}
    {links : Nat} {children : List (Bytes × Node)} {rights : Rights}
    (h : fs.Opens dir place links children rights) {child : Bytes × Node}
    (hmem : child ∈ children) :
    Describes fs dir place links rights child (entryOf fs dir child.1) where
  name := rfl
  isSymlink := h.isLink_push_iff hproper hmem
  isDir := h.isDirectory_push_iff hproper hmem

/-! ## 2. The order of entries -/

theorem readEntries_of_readDir {fs : FileSystem} {dir : Path} {names : List Bytes}
    (h : fs.readDir dir = .ok names) :
    readEntries fs dir = .ok ((names.map (entryOf fs dir)).mergeSort entryLe) := by
  unfold readEntries
  rw [h]
  rfl

theorem pairwise_mergeSort_entryLe (es : List Entry) :
    (es.mergeSort entryLe).Pairwise (entryLe · · = true) := by
  refine List.pairwise_mergeSort ?_ ?_ es
  · exact fun a b c => Text.le_trans (Text.lower a.name) (Text.lower b.name) (Text.lower c.name)
  · exact fun a b => Text.le_total (Text.lower a.name) (Text.lower b.name)

/-- **Entries whose names differ in small letters have one sorted order.** -/
theorem mergeSort_entryLe_eq_of_perm {es fs : List Entry} (hperm : es.Perm fs)
    (hnodup : (fs.map fun e => Text.lower e.name).Nodup) :
    es.mergeSort entryLe = fs.mergeSort entryLe := by
  have hsorted : (es.mergeSort entryLe).Perm (fs.mergeSort entryLe) :=
    (List.mergeSort_perm es entryLe).trans (hperm.trans (List.mergeSort_perm fs entryLe).symm)
  refine List.Perm.eq_of_pairwise ?_ (pairwise_mergeSort_entryLe es)
    (pairwise_mergeSort_entryLe fs) hsorted
  intro a b ha hb hab hba
  rw [List.mem_mergeSort] at ha hb
  exact List.inj_on_of_nodup_map hnodup (hperm.mem_iff.1 ha) hb (Text.le_antisymm hab hba)

/-- Entries depend on the shape of the file system alone. -/
theorem entryOf_eq_of_sameShape {fs₁ fs₂ : FileSystem} (hshape : fs₁.SameShape fs₂) (dir : Path) :
    entryOf fs₁ dir = entryOf fs₂ dir :=
  funext fun _ => entryOf_congr (hshape.isDirectory_eq _) (hshape.isLink_eq _)

/-- **Two file systems of the same shape that yield the same names**, in whatever order, list the
    same entries, if the names differ in small letters. -/
theorem readEntries_eq_of_perm {fs₁ fs₂ : FileSystem} (hshape : fs₁.SameShape fs₂) {dir : Path}
    {names₁ names₂ : List Bytes} (h₁ : fs₁.readDir dir = .ok names₁)
    (h₂ : fs₂.readDir dir = .ok names₂) (hperm : names₁.Perm names₂)
    (hnodup : (names₂.map fun name => Text.lower (Utf8.decodeLossy name)).Nodup) :
    readEntries fs₁ dir = readEntries fs₂ dir := by
  rw [readEntries_of_readDir h₁, readEntries_of_readDir h₂, entryOf_eq_of_sameShape hshape,
    mergeSort_entryLe_eq_of_perm (hperm.map _)]
  rwa [List.map_map]

/-- **The order in which a directory yields its children does not show**, if their names differ in
    small letters. -/
theorem readEntries_reordered {fs : FileSystem} (hproper : fs.top.IsProper) {dir : Path}
    {place : Place} {links : Nat} {children : List (Bytes × Node)} {rights : Rights}
    (h : fs.Opens dir place links children rights) (hallowed : rights.read = true)
    {others : List (Bytes × Node)} (hperm : others.Perm children)
    (hnodup : (children.map fun child => Text.lower (Utf8.decodeLossy child.1)).Nodup) :
    readEntries (fs.putAt place (.directory others rights)) dir = readEntries fs dir := by
  have hshape : (fs.putAt place (.directory others rights)).SameShape fs :=
    FileSystem.sameShape_putAt h.directory
      (Node.sameShape_of_perm hperm (hproper place children rights h.directory).nodup rights)
  have hplace : (fs.putAt place (.directory others rights)).top.at? place
      = some (.directory others rights) := by
    have hput := Node.at?_put_of_some h.directory (.directory others rights) []
    rwa [List.append_nil, Node.at?_nil] at hput
  have hwalk := (hshape.top.walk_eq ..).trans (h.walk_eq hproper)
  have hread : (fs.putAt place (.directory others rights)).readDir dir = .ok (others.map (·.1)) :=
    FileSystem.readDir_of_walk h.taken hwalk hplace hallowed
  refine readEntries_eq_of_perm hshape hread (h.readDir_eq hproper hallowed) (hperm.map _) ?_
  rwa [List.map_map]

/-- Every child of a directory that can be read has its entry in the listing. -/
theorem exists_listed {fs : FileSystem} (hproper : fs.top.IsProper) {dir : Path} {place : Place}
    {links : Nat} {children : List (Bytes × Node)} {rights : Rights}
    (h : fs.Opens dir place links children rights) (hallowed : rights.read = true) {name : Bytes}
    (hmem : name ∈ children.map (·.1)) :
    ∃ entries, readEntries fs dir = .ok entries ∧ entryOf fs dir name ∈ entries :=
  ⟨_, readEntries_of_readDir (h.readDir_eq hproper hallowed),
    List.mem_mergeSort.2 (List.mem_map_of_mem hmem)⟩

/-! ## 3. A directory that is too much for the system -/

/-- A directory `d`, a link `s` back to where it stands, and a link `l` that leads forty times
    through `s` and then to `d`. -/
def longWayChildren : List (Bytes × Node) :=
  [([0x64], .directory []), ([0x6C], .link ((List.replicate 40 [0x73, 0x2F]).flatten ++ [0x64])),
    ([0x73], .link [0x2E])]

/-- A file system with these in the directory `w`. -/
def longWay : FileSystem where
  top := .directory [([0x77], .directory longWayChildren)]
  here := []

theorem isProper_longWay : longWay.top.IsProper := by
  have hlink (target : Path) : (Node.link target).IsProper :=
    Node.isProper_of_leaf (fun _ => rfl) (by simp)
  have hempty : (Node.directory []).IsProper :=
    Node.isProper_directory ⟨by simp, by simp⟩ (by simp)
  refine Node.isProper_directory ⟨by decide, by decide⟩ (List.forall_mem_singleton.2 ?_)
  refine Node.isProper_directory ⟨by decide, by decide⟩ ?_
  simp [longWayChildren, hlink, hempty]

theorem at?_longWay : longWay.top.at? [[0x77]] = some (.directory longWayChildren) := by
  simp [longWay, Node.at?_cons, Node.child?]

theorem searchable_longWay : longWay.top.Searchable [[0x77]] longWayChildren :=
  ⟨_, at?_longWay, rfl⟩

/-- Each `s` on a way is one link more. -/
theorem way_replicate {rest : List Bytes} {n : Nat} {place : Place}
    (h : Way longWay.top [[0x77]] rest n place) (k : Nat) :
    Way longWay.top [[0x77]] (List.replicate k [0x73] ++ rest) (n + k) place := by
  induction k with
  | zero => exact h
  | succ k ih =>
    exact .follow searchable_longWay (by decide) (by decide) (by decide) rfl
      (.stay searchable_longWay ih)

/-- **The way through `l` leads to a directory**, through forty-one links. -/
theorem way_l : Way longWay.top [[0x77]] [[0x6C]] 41 [[0x77], [0x64]] := by
  have hlast : Way longWay.top [[0x77]] [[0x64]] 0 [[0x77], [0x64]] :=
    .enter searchable_longWay (by decide) (by decide) (by decide) rfl (by simp) (.nil _)
  have hnames : followNames ((List.replicate 40 [0x73, 0x2F]).flatten ++ [0x64])
      = List.replicate 40 [0x73] ++ [[0x64]] := by decide +kernel
  refine .follow searchable_longWay (by decide) (by decide) (by decide) rfl ?_
  rw [List.append_nil, hnames]
  exact way_replicate hlast 40

/-- The path of its directory, with `n` slashes behind. -/
def longWayPath (n : Nat) : Path := 0x77 :: List.replicate n Path.slash

theorem names_replicate_slash : ∀ n, Path.names (List.replicate n Path.slash) = []
  | 0 => rfl
  | n + 1 => (Path.names_append_slash [] (List.replicate n Path.slash)).trans
      (names_replicate_slash n)

/-- **The directory opens, however many slashes its path ends in**, up to the longest path. -/
theorem opens_longWay {n : Nat} (h : n + 1 < pathLimit) :
    longWay.Opens (longWayPath n) [[0x77]] 0 longWayChildren .full where
  taken := pathFault_eq_none_iff.2 (by simp [longWayPath, Path.slash, h])
  few := Nat.zero_le _
  directory := at?_longWay
  way := by
    have hway {rest : List Bytes} (h : Way longWay.top [[0x77]] rest 0 [[0x77]]) :
        Way longWay.top [] ([0x77] :: rest) 0 [[0x77]] :=
      .enter ⟨_, Node.at?_nil _, rfl⟩ (by decide) (by decide) (by decide) rfl (by simp) h
    cases n with
    | zero => exact hway (.nil _)
    | succ n =>
      have hnames : (longWayPath (n + 1)).names = [[0x77]] := by
        have happend := Path.names_append_slash [0x77] (List.replicate n Path.slash)
        rwa [names_replicate_slash] at happend
      have hlast : (longWayPath (n + 1)).getLast? = some Path.slash := by
        unfold longWayPath
        rw [List.replicate_succ', ← List.cons_append, List.getLast?_concat]
      have hfollow : followNames (longWayPath (n + 1)) = [[0x77], []] := by
        unfold followNames
        rw [if_pos hlast, hnames]
        rfl
      rw [hfollow]
      exact hway (.pass at?_longWay (.nil _))

/-- The entry for its link `l`, wherever the path ends. -/
theorem describes_l {n : Nat} (h : n + 1 < pathLimit) :
    (entryOf longWay (longWayPath n) [0x6C]).isDir = false
      ∧ ((entryOf longWay (longWayPath n) [0x6C]).isSymlink = true
        ↔ ((longWayPath n).push [0x6C]).length < pathLimit) := by
  have hmem : ([0x6C], Node.link ((List.replicate 40 [0x73, 0x2F]).flatten ++ [0x64]))
      ∈ longWayChildren := by simp [longWayChildren]
  have hentry := describes_entryOf isProper_longWay (opens_longWay h) hmem
  constructor
  · rw [Bool.eq_false_iff]
    intro htrue
    obtain ⟨-, m, target, others, given, hfew, hway, -⟩ := hentry.isDir.1 htrue
    obtain ⟨-, rfl⟩ := way_l.unique isProper_longWay hway
    exact absurd hfew (by decide)
  · exact hentry.isSymlink.trans ⟨fun hlink => hlink.2.1, fun hlen => ⟨rfl, hlen, _, rfl⟩⟩

/-- It is listed as a link to no directory, or as neither, whichever it is seen as. -/
theorem listed_longWay {n : Nat} (h : n + 1 < pathLimit) {isSymlink : Bool}
    (hlink : (entryOf longWay (longWayPath n) [0x6C]).isSymlink = isSymlink) :
    ∃ entries, readEntries longWay (longWayPath n) = .ok entries
      ∧ Entry.mk "l".toList false isSymlink ∈ entries := by
  obtain ⟨entries, hread, hentry⟩ := exists_listed isProper_longWay (opens_longWay h) rfl
    (by decide : [0x6C] ∈ longWayChildren.map (·.1))
  have hname : entryOf longWay (longWayPath n) [0x6C] = Entry.mk "l".toList false isSymlink := by
    rw [← hlink, ← (describes_l h).1]
    rfl
  exact ⟨entries, hread, hname ▸ hentry⟩

/-- The path of a child is longer than that of the directory. -/
theorem length_push_longWayPath (n : Nat) : n + 2 ≤ ((longWayPath n).push [0x6C]).length := by
  rw [Path.push_of_isName _ (by decide)]
  unfold longWayPath
  split <;> simp

/-! ## 4. Directories that may not be searched -/

/-- A directory `c` that may not be searched, with a directory `d` in it, and a link `k` to `c/d`. -/
def closedChildren : List (Bytes × Node) :=
  [([0x63], .directory [([0x64], .directory [])] { search := false }),
    ([0x6B], .link [0x63, 0x2F, 0x64])]

/-- A file system with these in the directory `w`, and with a link `l` in the directory `v`, which
    may not be searched either. -/
def closedWays : FileSystem where
  top := .directory [([0x77], .directory closedChildren),
    ([0x76], .directory [([0x6C], .link [0x64])] { search := false })]
  here := []

theorem isProper_closedWays : closedWays.top.IsProper := by
  have hlink (target : Path) : (Node.link target).IsProper :=
    Node.isProper_of_leaf (fun _ => rfl) (by simp)
  have hempty : (Node.directory []).IsProper :=
    Node.isProper_directory ⟨by simp, by simp⟩ (by simp)
  have hclosed : (Node.directory [([0x64], .directory [])] { search := false }).IsProper :=
    Node.isProper_directory ⟨by decide, by decide⟩ (List.forall_mem_singleton.2 hempty)
  refine Node.isProper_directory ⟨by decide, by decide⟩ (List.forall_mem_cons.2
    ⟨?_, List.forall_mem_singleton.2 ?_⟩)
  · refine Node.isProper_directory ⟨by decide, by decide⟩ ?_
    simp [closedChildren, hlink, hclosed]
  · exact Node.isProper_directory ⟨by decide, by decide⟩ (List.forall_mem_singleton.2 (hlink _))

/-- A name at the top of it is the way to its directory. -/
theorem opens_closedWays {name : Bytes} (hname : Path.IsName name) (htaken : pathFault name = none)
    {children : List (Bytes × Node)} {rights : Rights}
    (hdir : closedWays.top.at? [name] = some (.directory children rights)) :
    closedWays.Opens name [name] 0 children rights where
  taken := htaken
  few := Nat.zero_le _
  directory := hdir
  way := by
    have hfollow : followNames name = [name] := by
      unfold followNames
      rw [Path.names_of_isName hname, if_neg hname.getLast?, List.append_nil]
    have hstart : closedWays.start name = [] := by
      unfold FileSystem.start
      rw [hname.isAbsolute]
      rfl
    rw [hfollow, hstart]
    rw [Node.at?_cons, Option.bind_eq_some_iff] at hdir
    obtain ⟨child, hlook, hchild⟩ := hdir
    rw [Node.at?_nil] at hchild
    cases hchild
    exact .enter ⟨_, Node.at?_nil _, rfl⟩ hname.ne_nil hname.ne_dot hname.ne_dots hlook (by simp)
      (.nil _)

theorem opens_w : closedWays.Opens [0x77] [[0x77]] 0 closedChildren .full :=
  opens_closedWays (by decide) (by decide) (by simp [closedWays, Node.at?_cons, Node.child?])

theorem opens_v : closedWays.Opens [0x76] [[0x76]] 0 [([0x6C], .link [0x64])] { search := false } :=
  opens_closedWays (by decide) (by decide) rfl

/-- **The way through `k` ends at `c`.** -/
theorem describes_k : (entryOf closedWays [0x77] [0x6B]).isDir = false := by
  have hmem : ([0x6B], Node.link [0x63, 0x2F, 0x64]) ∈ closedChildren := by simp [closedChildren]
  have hentry := describes_entryOf isProper_closedWays opens_w hmem
  have hfollow : followNames [0x63, 0x2F, 0x64] = [[0x63], [0x64]] := by decide
  rw [Bool.eq_false_iff]
  intro htrue
  obtain ⟨-, n, target, others, given, -, hway, -⟩ := hentry.isDir.1 htrue
  cases hway with
  | enter hdir _ _ _ hlook hchild _ =>
    obtain ⟨rights, hdir, -⟩ := hdir
    cases hdir.symm.trans opens_w.directory
    cases hlook
    exact hchild _ rfl
  | follow hdir _ _ _ hlook hway =>
    obtain ⟨rights, hdir, -⟩ := hdir
    cases hdir.symm.trans opens_w.directory
    cases hlook
    rw [hfollow] at hway
    cases hway with
    | enter hdir _ _ _ hlook _ hway =>
      exact not_way_of_closed (Node.at?_concat opens_w.directory [0x63]) rfl (by decide) hway
    | follow hdir _ _ _ hlook hway =>
      obtain ⟨rights, hdir, -⟩ := hdir
      cases hdir.symm.trans opens_w.directory
      cases hlook

/-- **What is in `v` cannot be looked at.** -/
theorem describes_v : entryOf closedWays [0x76] [0x6C] = Entry.mk "l".toList false false := by
  have hentry := describes_entryOf isProper_closedWays opens_v (List.mem_singleton_self _)
  have hlink : (entryOf closedWays [0x76] [0x6C]).isSymlink = false := by
    rw [Bool.eq_false_iff]
    intro htrue
    cases (hentry.isSymlink.1 htrue).1
  have hdir : (entryOf closedWays [0x76] [0x6C]).isDir = false := by
    rw [Bool.eq_false_iff]
    intro htrue
    obtain ⟨-, n, target, others, given, -, hway, -⟩ := hentry.isDir.1 htrue
    exact not_way_of_closed opens_v.directory rfl (by decide) hway
  show Entry.mk "l".toList (entryOf closedWays [0x76] [0x6C]).isDir
    (entryOf closedWays [0x76] [0x6C]).isSymlink = _
  rw [hdir, hlink]

/-! ## 5. Listings -/

/-- **A complete listing** of the directory that `dir` leads to, which is at `place` and `links` links
    away: one entry for each child, sorted, and the same for every order of the children if their
    names differ in small letters. -/
structure IsListing (fs : FileSystem) (dir : Path) (place : Place) (links : Nat)
    (children : List (Bytes × Node)) (rights : Rights) (entries : List Entry) : Prop where
  complete : ∃ described, described.Perm entries
    ∧ List.Forall₂ (Describes fs dir place links rights) children described
  sorted : entries.Pairwise fun d e => Text.le (Text.lower d.name) (Text.lower e.name) = true
  settled : (children.map fun child => Text.lower (Utf8.decodeLossy child.1)).Nodup →
    ∀ others, others.Perm children →
      readEntries (fs.putAt place (.directory others rights)) dir = .ok entries

/-- **Every directory that can be read is listed completely.** -/
theorem readable_directory_is_listed {fs : FileSystem} (hproper : fs.top.IsProper) {dir : Path}
    {names : List Bytes} (hread : fs.readDir dir = .ok names) :
    ∃ place links children rights entries, fs.Opens dir place links children rights
      ∧ readEntries fs dir = .ok entries
      ∧ IsListing fs dir place links children rights entries := by
  obtain ⟨place, links, children, rights, h, hallowed, rfl⟩ :=
    FileSystem.exists_opens_of_readDir hread
  have hentries := readEntries_of_readDir hread
  rw [List.map_map] at hentries
  refine ⟨place, links, children, rights, _, h, hentries, ?_, pairwise_mergeSort_entryLe _, ?_⟩
  · refine ⟨_, (List.mergeSort_perm _ entryLe).symm, ?_⟩
    rw [List.forall₂_map_right_iff, List.forall₂_same]
    exact fun child hmem => describes_entryOf hproper h hmem
  · intro hnodup others hperm
    rw [readEntries_reordered hproper h hallowed hperm hnodup, hentries]

/-- The directory `w` is listed completely, and so it is with its children in any other order. -/
theorem longWay_is_listed :
    longWay.top.IsProper ∧ longWay.readDir (longWayPath 0) = .ok [[0x64], [0x6C], [0x73]]
      ∧ ∃ place links children rights entries,
        longWay.Opens (longWayPath 0) place links children rights
        ∧ readEntries longWay (longWayPath 0) = .ok entries
        ∧ IsListing longWay (longWayPath 0) place links children rights entries :=
  have hread : longWay.readDir (longWayPath 0) = .ok [[0x64], [0x6C], [0x73]] :=
    (opens_longWay (by decide)).readDir_eq isProper_longWay rfl
  ⟨isProper_longWay, hread, readable_directory_is_listed isProper_longWay hread⟩

/-- **What the system refuses is hidden.** The link `l` leads to a directory, but through forty-one
    links: it is listed as a link to no directory. Where the path of the directory is as long as a
    path can be, it is not even listed as a link. The link `k` leads to a directory that stands in
    one that may not be searched: it is listed as a link to no directory. And a link in a directory
    that may itself not be searched is not even listed as a link. -/
theorem listing_gives_up :
    longWay.top.IsProper
      ∧ (Way longWay.top [[0x77]] [[0x6C]] 41 [[0x77], [0x64]]
        ∧ longWay.top.at? [[0x77], [0x64]] = some (.directory [])
        ∧ ∃ entries, readEntries longWay (longWayPath 0) = .ok entries
          ∧ Entry.mk "l".toList false true ∈ entries)
      ∧ (longWay.top.at? [[0x77], [0x6C]]
          = some (.link ((List.replicate 40 [0x73, 0x2F]).flatten ++ [0x64]))
        ∧ ∃ entries, readEntries longWay (longWayPath 4094) = .ok entries
          ∧ Entry.mk "l".toList false false ∈ entries)
      ∧ closedWays.top.IsProper
      ∧ (closedWays.top.at? [[0x77], [0x6B]] = some (.link [0x63, 0x2F, 0x64])
        ∧ closedWays.top.at? [[0x77], [0x63], [0x64]] = some (.directory [])
        ∧ ∃ entries, readEntries closedWays [0x77] = .ok entries
          ∧ Entry.mk "k".toList false true ∈ entries)
      ∧ (closedWays.top.at? [[0x76], [0x6C]] = some (.link [0x64])
        ∧ ∃ entries, readEntries closedWays [0x76] = .ok entries
          ∧ Entry.mk "l".toList false false ∈ entries) := by
  refine ⟨isProper_longWay, ⟨way_l, Node.at?_concat at?_longWay [0x64], ?_⟩,
    ⟨Node.at?_concat at?_longWay [0x6C], ?_⟩, isProper_closedWays,
    ⟨Node.at?_concat opens_w.directory [0x6B], ?_, ?_⟩,
    ⟨Node.at?_concat opens_v.directory [0x6C], ?_⟩⟩
  · exact listed_longWay (by decide) ((describes_l (by decide)).2.2 (by decide))
  · have hlong : ¬((longWayPath 4094).push [0x6C]).length < pathLimit := by
      have hlen := length_push_longWayPath 4094
      exact Nat.not_lt.2 hlen
    exact listed_longWay (by decide)
      (Bool.eq_false_iff.2 fun htrue => hlong ((describes_l (by decide)).2.1 htrue))
  · simp [closedWays, closedChildren, Node.at?_cons, Node.child?]
  · obtain ⟨entries, hread, hentry⟩ := exists_listed isProper_closedWays opens_w rfl
      (by decide : [0x6B] ∈ closedChildren.map (·.1))
    have hk := describes_entryOf isProper_closedWays opens_w
      (by simp [closedChildren] : ([0x6B], Node.link [0x63, 0x2F, 0x64]) ∈ closedChildren)
    have hlink := hk.isSymlink.2 ⟨rfl, by decide, _, rfl⟩
    refine ⟨entries, hread, ?_⟩
    rw [← hlink, ← describes_k]
    exact hentry
  · obtain ⟨entries, hread, hentry⟩ := exists_listed isProper_closedWays opens_v rfl
      (List.mem_singleton_self _)
    refine ⟨entries, hread, ?_⟩
    have hl := describes_v
    exact hl ▸ hentry

end Docroot.Site

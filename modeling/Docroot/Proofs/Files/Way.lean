import Docroot.Proofs.Files.Tree

/-!
# Ways through a file tree

Following names with at most so many links to spend (`walk`) is cut off where the links run out. A
*way* (`Way`) is what would be followed if links cost nothing: a finite number of steps, counting
the links on it. So a chain of links is a way however long it is, and a link to itself is on none
(`not_way_of_link_to_itself`).

In a tree that a system can hold, following names finds exactly the ways whose links do not run out
(`walk_eq_ok_iff`). From it comes what a path to the child of a directory shows: its last step is
taken from the directory, with the links that are left then.
-/

namespace Docroot.Files

open Docroot.Path (IsName push)

/-! ## 1. Trees that a system can hold -/

/-- A name that a file can have: one step down, not too long, and without a zero. -/
structure IsFileName (name : Bytes) : Prop where
  isName : IsName name
  length_le : name.length ≤ maxName
  no_zero : 0 ∉ name

instance (name : Bytes) : Decidable (IsFileName name) :=
  decidable_of_iff (IsName name ∧ name.length ≤ maxName ∧ 0 ∉ name)
    ⟨fun ⟨h1, h2, h3⟩ => ⟨h1, h2, h3⟩, fun ⟨h1, h2, h3⟩ => ⟨h1, h2, h3⟩⟩

namespace Node

/-- The names of a directory are file names, and no two are the same. -/
structure NamesAreProper (children : List (Bytes × Node)) : Prop where
  isFileName : ∀ entry ∈ children, IsFileName entry.1
  nodup : (children.map (·.1)).Nodup

/-- **A proper tree**: the names of every directory in it are. -/
def IsProper (n : Node) : Prop :=
  ∀ place children rights, n.at? place = some (.directory children rights) →
    NamesAreProper children

/-- A node without children is proper if it is no directory. -/
theorem isProper_of_leaf {n : Node} (hchild : ∀ name, n.child? name = none)
    (hdir : ∀ children rights, n ≠ .directory children rights) : n.IsProper
  | [], children, rights, e => absurd (Option.some.inj e) (hdir children rights)
  | name :: rest, children, rights, e => by rw [at?_cons, hchild] at e; cases e

/-- A directory is proper if its names are and what is in it is. -/
theorem isProper_directory {children : List (Bytes × Node)} {rights : Rights}
    (hnames : NamesAreProper children) (h : ∀ entry ∈ children, entry.2.IsProper) :
    (directory children rights).IsProper
  | [], _, _, e => by
    cases e
    exact hnames
  | _ :: rest, others, given, e => by
    obtain ⟨entry, hentry, e⟩ := exists_entry_of_at? e
    exact h entry hentry rest others given e

/-- In a proper directory the child of a name is the one entry of that name. -/
theorem NamesAreProper.lookup_of_mem {children : List (Bytes × Node)} (h : NamesAreProper children)
    {name : Bytes} {child : Node} (hmem : (name, child) ∈ children) :
    children.lookup name = some child :=
  Docroot.lookup_of_mem h.nodup hmem

theorem IsProper.length_le {n : Node} (h : n.IsProper) {place : Place}
    {children : List (Bytes × Node)} {rights : Rights}
    (hdir : n.at? place = some (.directory children rights)) {name : Bytes} {child : Node}
    (hlook : children.lookup name = some child) : name.length ≤ maxName :=
  ((h place _ _ hdir).isFileName (name, child) (mem_of_lookup hlook)).length_le

/-- **Names can be followed through the directory** at a place, which has these children. -/
def Searchable (top : Node) (here : Place) (children : List (Bytes × Node)) : Prop :=
  ∃ rights, top.at? here = some (.directory children rights) ∧ rights.search = true

end Node

/-! ## 2. Ways -/

/-- **Names lead from `here` to `place`, through `links` links**, however many these are. -/
inductive Way (top : Node) : Place → List Bytes → Nat → Place → Prop where
  | nil (here : Place) : Way top here [] 0 here
  | pass {here place : Place} {children : List (Bytes × Node)} {rights : Rights}
      {rest : List Bytes} {links : Nat} :
      top.at? here = some (.directory children rights) → Way top here rest links place →
      Way top here ([] :: rest) links place
  | stay {here place : Place} {children : List (Bytes × Node)} {rest : List Bytes} {links : Nat} :
      top.Searchable here children → Way top here rest links place →
      Way top here ([Path.dot] :: rest) links place
  | climb {here place : Place} {children : List (Bytes × Node)} {rest : List Bytes} {links : Nat} :
      top.Searchable here children → Way top here.dropLast rest links place →
      Way top here ([Path.dot, Path.dot] :: rest) links place
  | enter {here place : Place} {children : List (Bytes × Node)} {name : Bytes} {child : Node}
      {rest : List Bytes} {links : Nat} :
      top.Searchable here children → name ≠ [] → name ≠ [Path.dot] →
      name ≠ [Path.dot, Path.dot] → children.lookup name = some child →
      (∀ target, child ≠ .link target) → Way top (here ++ [name]) rest links place →
      Way top here (name :: rest) links place
  | follow {here place : Place} {children : List (Bytes × Node)} {name : Bytes} {target : Path}
      {rest : List Bytes} {links : Nat} :
      top.Searchable here children → name ≠ [] → name ≠ [Path.dot] →
      name ≠ [Path.dot, Path.dot] → children.lookup name = some (.link target) →
      Way top (if Path.isAbsolute target then [] else here) (followNames target ++ rest) links
        place →
      Way top here (name :: rest) (links + 1) place

/-- What is followed to the end is a way, and the links on it are those that are gone. -/
theorem way_of_walk {top : Node} {links left : Nat} {here place : Place} {names : List Bytes}
    (h : walk top true links here names = .ok (place, left)) :
    ∃ n, Way top here names n place ∧ links = left + n := by
  fun_induction walk top true links here names with
  | case1 links here =>
    cases h
    exact ⟨0, .nil _, rfl⟩
  | case2 links here names children rights hdir ih =>
    obtain ⟨n, hway, hlinks⟩ := ih h
    exact ⟨n, .pass hdir hway, hlinks⟩
  | case5 links here names children rights hdir hsearch hempty hlong ih =>
    obtain ⟨n, hway, hlinks⟩ := ih h
    exact ⟨n, .stay ⟨rights, hdir, eq_true_of_ne_false hsearch⟩ hway, hlinks⟩
  | case6 links here names children rights hdir hsearch hempty hlong hdot ih =>
    obtain ⟨n, hway, hlinks⟩ := ih h
    exact ⟨n, .climb ⟨rights, hdir, eq_true_of_ne_false hsearch⟩ hway, hlinks⟩
  | case8 links here name names children rights hdir hempty hsearch hlong hdot hdots target hlink
      hlast =>
    exact absurd hlast.2 (by simp)
  | case10 here name names children rights hdir hempty hsearch hlong hdot hdots target hlink hlast
      links ih =>
    obtain ⟨n, hway, hlinks⟩ := ih h
    exact ⟨n + 1, .follow ⟨rights, hdir, eq_true_of_ne_false hsearch⟩ hempty hdot hdots hlink hway,
      by omega⟩
  | case11 links here name names children rights hdir hempty hsearch hlong hdot hdots child hchild
      hlook ih =>
    obtain ⟨n, hway, hlinks⟩ := ih h
    exact ⟨n, .enter ⟨rights, hdir, eq_true_of_ne_false hsearch⟩ hempty hdot hdots hlook
      (fun target e => hchild target e) hway, hlinks⟩
  | _ => cases h

section

variable {top : Node} (hproper : top.IsProper)
include hproper

/-- A way is followed to the end if there are links enough. -/
theorem Way.walk_eq {here place : Place} {names : List Bytes} {n : Nat}
    (h : Way top here names n place) (left : Nat) :
    walk top true (left + n) here names = .ok (place, left) := by
  induction h with
  | nil here => rw [walk_nil, Nat.add_zero]
  | pass hdir _ ih => rw [walk_empty hdir, ih]
  | stay hdir _ ih =>
    obtain ⟨rights, hdir, hsearch⟩ := hdir
    rw [walk_dot hdir hsearch, ih]
  | climb hdir _ ih =>
    obtain ⟨rights, hdir, hsearch⟩ := hdir
    rw [walk_dots hdir hsearch, ih]
  | enter hdir hempty hdot hdots hlook hchild _ ih =>
    obtain ⟨rights, hdir, hsearch⟩ := hdir
    have hlong := Nat.not_lt.2 (hproper.length_le hdir hlook)
    rw [walk_enter hdir hsearch ⟨hempty, hdot, hdots, hlong⟩ hlook hchild, ih]
  | follow hdir hempty hdot hdots hlook _ ih =>
    obtain ⟨rights, hdir, hsearch⟩ := hdir
    have hlong := Nat.not_lt.2 (hproper.length_le hdir hlook)
    rw [← Nat.add_assoc, walk_link hdir hsearch ⟨hempty, hdot, hdots, hlong⟩ hlook (by simp), ih]

/-- **Following names finds exactly the ways whose links do not run out.** -/
theorem walk_eq_ok_iff {links left : Nat} {here place : Place} {names : List Bytes} :
    walk top true links here names = .ok (place, left)
      ↔ ∃ n, Way top here names n place ∧ links = left + n := by
  constructor
  · exact way_of_walk
  · rintro ⟨n, hway, rfl⟩
    exact hway.walk_eq hproper left

/-- **Names lead one way only.** -/
theorem Way.unique {here p q : Place} {names : List Bytes} {n m : Nat}
    (hp : Way top here names n p) (hq : Way top here names m q) : p = q ∧ n = m := by
  have hwalk := hp.walk_eq hproper m
  rw [Nat.add_comm, hq.walk_eq hproper n] at hwalk
  cases hwalk
  exact ⟨rfl, rfl⟩

end

/-- No name is on a way that goes on from a directory that may not be searched. -/
theorem not_way_of_closed {top : Node} {here : Place} {children : List (Bytes × Node)}
    {rights : Rights} (hdir : top.at? here = some (.directory children rights))
    (hclosed : rights.search = false) {name : Bytes} (hname : name ≠ []) {rest : List Bytes} {n : Nat}
    {place : Place} : ¬Way top here (name :: rest) n place := by
  have hnone (others : List (Bytes × Node)) : ¬top.Searchable here others := by
    rintro ⟨given, hdir', hsearch⟩
    cases hdir.symm.trans hdir'
    rw [hclosed] at hsearch
    cases hsearch
  intro hway
  cases hway with
  | pass => exact hname rfl
  | stay hdir => exact hnone _ hdir
  | climb hdir => exact hnone _ hdir
  | enter hdir => exact hnone _ hdir
  | follow hdir => exact hnone _ hdir

/-- A link to itself is on no way. -/
theorem not_way_of_link_to_itself {top : Node} {here : Place} {children : List (Bytes × Node)}
    {rights : Rights} (hdir : top.at? here = some (.directory children rights)) {name : Bytes}
    (hname : IsName name) (hlook : children.lookup name = some (.link name)) {rest : List Bytes}
    {n : Nat} {place : Place} : ¬Way top here (name :: rest) n place := by
  have hfollow : followNames name = [name] := by
    unfold followNames
    rw [Path.names_of_isName hname, if_neg hname.getLast?, List.append_nil]
  induction n using Nat.strongRecOn with
  | _ n ih =>
    intro hway
    cases hway with
    | pass => exact hname.ne_nil rfl
    | stay => exact hname.ne_dot rfl
    | climb => exact hname.ne_dots rfl
    | enter hdir' _ _ _ hlook' hchild _ =>
      obtain ⟨rights', hdir', -⟩ := hdir'
      cases hdir.symm.trans hdir'
      cases hlook.symm.trans hlook'
      exact hchild _ rfl
    | @follow _ _ _ _ _ _ n hdir' _ _ _ hlook' hway =>
      obtain ⟨rights', hdir', -⟩ := hdir'
      cases hdir.symm.trans hdir'
      cases hlook.symm.trans hlook'
      rw [hname.isAbsolute, hfollow] at hway
      exact ih n (Nat.lt_succ_self n) hway

/-! ## 3. Directories and their children -/

/-- Where a link at the end is not followed, the child of a name is what the name leads to. -/
theorem walk_last {top : Node} {here : Place} {children : List (Bytes × Node)} {rights : Rights}
    (hdir : top.at? here = some (.directory children rights)) (hsearch : rights.search = true)
    {name : Bytes} (hname : IsFileName name) {child : Node}
    (hlook : children.lookup name = some child) (links : Nat) :
    walk top false links here [name] = .ok (here ++ [name], links) := by
  have hlooked := isLookedUp_of_isName hname.isName hname.length_le
  cases child with
  | link target => exact walk_link_last hdir hsearch hlooked hlook
  | _ => rw [walk_enter hdir hsearch hlooked hlook (by simp), walk_nil]

namespace FileSystem

theorem isLink_iff {fs : FileSystem} {p : Path} :
    fs.isLink p = true ↔ ∃ target, (fs.node false p).toOption = some (.link target) := by
  unfold isLink lstat
  cases fs.node false p with
  | error e => simp [Except.map, Except.toOption]
  | ok n => cases n <;> simp [Except.map, Except.toOption, metadataOf]

theorem isDirectory_iff_node {fs : FileSystem} {p : Path} :
    fs.isDirectory p = true
      ↔ ∃ children rights, (fs.node true p).toOption = some (.directory children rights) := by
  unfold isDirectory stat
  cases fs.node true p with
  | error e => simp [Except.map, Except.toOption]
  | ok n => cases n <;> simp [Except.map, Except.toOption, metadataOf]

/-- **A path that opens a directory**: the system takes it, it leads to `place` through no more
    links than may be followed, and these are the children of the directory there, and the rights on
    it. -/
structure Opens (fs : FileSystem) (dir : Path) (place : Place) (links : Nat)
    (children : List (Bytes × Node)) (rights : Rights) : Prop where
  taken : pathFault dir = none
  way : Way fs.top (fs.start dir) (followNames dir) links place
  few : links ≤ maxLinks
  directory : fs.top.at? place = some (.directory children rights)

/-- A path that can be read as a directory opens one that allows it, and its names are those of its
    children. -/
theorem exists_opens_of_readDir {fs : FileSystem} {dir : Path} {names : List Bytes}
    (h : fs.readDir dir = .ok names) :
    ∃ place links children rights, fs.Opens dir place links children rights
      ∧ rights.read = true ∧ names = children.map (·.1) := by
  obtain ⟨children, rights, hnode, hread, rfl⟩ := readDir_eq_ok_iff.1 h
  obtain ⟨htaken, place, left, hwalk, hdir⟩ := node_eq_ok_iff.1 hnode
  obtain ⟨links, hway, hlinks⟩ := way_of_walk hwalk
  exact ⟨place, links, children, rights, ⟨htaken, hway, by omega, hdir⟩, hread, rfl⟩

theorem readDir_of_walk {fs : FileSystem} {dir : Path} (htaken : pathFault dir = none)
    {place : Place} {left : Nat}
    (hwalk : walk fs.top true maxLinks (fs.start dir) (followNames dir) = .ok (place, left))
    {children : List (Bytes × Node)} {rights : Rights}
    (hdir : fs.top.at? place = some (.directory children rights)) (hread : rights.read = true) :
    fs.readDir dir = .ok (children.map (·.1)) :=
  readDir_eq_ok_iff.2
    ⟨children, rights, node_eq_ok_iff.2 ⟨htaken, place, left, hwalk, hdir⟩, hread, rfl⟩

section

variable {fs : FileSystem} (hproper : fs.top.IsProper) {dir : Path} {place : Place} {links : Nat}
  {children : List (Bytes × Node)} {rights : Rights}
  (h : fs.Opens dir place links children rights)
include hproper h

theorem Opens.walk_eq :
    walk fs.top true maxLinks (fs.start dir) (followNames dir) = .ok (place, maxLinks - links) :=
  (walk_eq_ok_iff hproper).2 ⟨links, h.way, (Nat.sub_add_cancel h.few).symm⟩

theorem Opens.readDir_eq (hread : rights.read = true) :
    fs.readDir dir = .ok (children.map (·.1)) :=
  readDir_of_walk h.taken (h.walk_eq hproper) h.directory hread

/-- **A path to a child is the path of the directory and one step more**, with the links that are
    left. -/
theorem Opens.toOption_node_push (followLast : Bool) {name : Bytes} (hname : IsName name) :
    (fs.node followLast (dir.push name)).toOption
      = if pathFault (dir.push name) = none then
          (walk fs.top followLast (maxLinks - links) place [name]).toOption.bind
            fun r => fs.top.at? r.1
        else none := by
  have hnames : ∀ n ∈ [name], IsName n := List.forall_mem_singleton.2 hname
  have hne : [name] ≠ [] := List.cons_ne_nil _ _
  have hdir : dir ≠ [] := (pathFault_eq_none_iff.1 h.taken).2.1
  have hfollow : followNames (dir.push name) = dir.names ++ [name] :=
    followNames_foldl_push dir hnames hne
  have hstart : fs.start (dir.push name) = fs.start dir :=
    (fs.start_foldl_push dir hnames hne).trans (if_neg hdir)
  rw [toOption_node, hfollow, hstart, walk_names_append _ _ _ _ _ hne,
    walk_append _ _ _ _ _ _ hne, h.walk_eq hproper]
  rfl

variable {name : Bytes} {child : Node} (hmem : (name, child) ∈ children)
include hmem

theorem Opens.isFileName : IsFileName name :=
  (hproper place children rights h.directory).isFileName _ hmem

/-- The system takes the path to a child unless it is too long. -/
theorem Opens.pathFault_push_iff :
    pathFault (dir.push name) = none ↔ (dir.push name).length < pathLimit := by
  have hname := h.isFileName hproper hmem
  obtain ⟨hzero, hnil, -⟩ := pathFault_eq_none_iff.1 h.taken
  have hzero' : 0 ∉ dir.push name := by
    rw [Path.push_of_isName dir hname.isName]
    split <;> simp [hzero, hname.no_zero, Path.slash]
  have hnil' : dir.push name ≠ [] := fun e => hnil (List.prefix_nil.1 (e ▸
    Path.prefix_push dir hname.isName))
  rw [pathFault_eq_none_iff]
  exact ⟨fun hfault => hfault.2.2, fun hlen => ⟨hzero', hnil', hlen⟩⟩

/-- **A child is seen as a link exactly if it is one**, its directory may be searched, and its path is
    not too long. -/
theorem Opens.isLink_push_iff :
    fs.isLink (dir.push name) = true
      ↔ rights.search = true ∧ (dir.push name).length < pathLimit
        ∧ ∃ target, child = .link target := by
  have hname := h.isFileName hproper hmem
  have hlook := (hproper place children rights h.directory).lookup_of_mem hmem
  have hplace : fs.top.at? (place ++ [name]) = some child :=
    (Node.at?_concat h.directory name).trans hlook
  rw [isLink_iff, h.toOption_node_push hproper false hname.isName,
    ← h.pathFault_push_iff hproper hmem]
  by_cases hfault : pathFault (dir.push name) = none
  · rw [if_pos hfault]
    by_cases hsearch : rights.search = true
    · rw [walk_last h.directory hsearch hname hlook]
      simp [Except.toOption, hplace, hfault, hsearch]
    · rw [walk_closed h.directory (eq_false_of_ne_true hsearch) hname.isName.ne_nil]
      simp [Except.toOption, hsearch]
  · simp [hfault]

/-- **A child is seen as a directory exactly if a way leads from it to one**, on which the links do
    not run out and every directory may be searched, and its path is not too long. -/
theorem Opens.isDirectory_push_iff :
    fs.isDirectory (dir.push name) = true
      ↔ (dir.push name).length < pathLimit ∧ ∃ n target others given, links + n ≤ maxLinks
        ∧ Way fs.top place [name] n target
        ∧ fs.top.at? target = some (.directory others given) := by
  have hname := h.isFileName hproper hmem
  have hfew := h.few
  rw [isDirectory_iff_node, h.toOption_node_push hproper true hname.isName,
    ← h.pathFault_push_iff hproper hmem]
  by_cases hfault : pathFault (dir.push name) = none
  · rw [if_pos hfault]
    constructor
    · intro hsome
      obtain ⟨others, given, hsome⟩ := hsome
      obtain ⟨⟨target, left⟩, hwalk, hdir⟩ := Option.bind_eq_some_iff.1 hsome
      obtain ⟨n, hway, hlinks⟩ := (walk_eq_ok_iff hproper).1 (toOption_eq_some_iff.1 hwalk)
      exact ⟨hfault, n, target, others, given, by omega, hway, hdir⟩
    · intro hexists
      obtain ⟨-, n, target, others, given, hlinks, hway, hdir⟩ := hexists
      have hwalk : walk fs.top true (maxLinks - links) place [name]
          = .ok (target, maxLinks - links - n) :=
        (walk_eq_ok_iff hproper).2 ⟨n, hway, by omega⟩
      rw [hwalk]
      exact ⟨others, given, hdir⟩
  · simp [hfault]

end

end FileSystem

end Docroot.Files

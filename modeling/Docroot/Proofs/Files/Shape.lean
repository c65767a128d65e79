import Docroot.Proofs.Files.Change

/-!
# What depends on the shape of a tree alone

Two trees have the same *shape* if at every place they have the same kind of node: directories with
the same rights, links with the same paths. What files hold, when they were changed and what is
allowed with them may differ, and so may the order in which directories yield their children.

Following names depends on the shape alone (`SameShape.walk_eq`), and with it whether a path leads
to a file, to a directory or to a link. A tree keeps its shape when a file in it is replaced by
another (`sameShape_file`) and when the children of a directory are put in another order
(`sameShape_of_perm`).
-/

namespace Docroot.Files

/-! ## 1. Shapes -/

/-- What a node is, whatever it holds. -/
inductive Kind where
  | file
  | directory (rights : Rights)
  | link (target : Path)
  | pipe
  deriving DecidableEq

namespace Node

/-- The kind of a node. -/
def kind : Node → Kind
  | .file _ _ _ => .file
  | .directory _ rights => .directory rights
  | .link target => .link target
  | .pipe => .pipe

/-- **Trees of the same shape**: at every place they have the same kind of node. -/
def SameShape (n m : Node) : Prop := ∀ place, (n.at? place).map kind = (m.at? place).map kind

theorem exists_children_of_kind {n : Node} {rights : Rights} (h : n.kind = .directory rights) :
    ∃ children, n = .directory children rights := by
  cases n with
  | directory children given =>
    cases h
    exact ⟨children, rfl⟩
  | _ => cases h

theorem eq_link_of_kind {n : Node} {target : Path} (h : n.kind = .link target) :
    n = .link target := by
  cases n with
  | link t =>
    cases h
    rfl
  | _ => cases h

section

variable {o o' : Option Node} (h : o.map kind = o'.map kind)
include h

theorem eq_none_of_kinds (ho : o = none) : o' = none := by
  rwa [ho, Option.map_none, eq_comm, Option.map_eq_none_iff] at h

/-- What stands in one tree has its like in the other. -/
theorem exists_of_kinds {n : Node} (ho : o = some n) : ∃ m, o' = some m ∧ m.kind = n.kind := by
  rwa [ho, Option.map_some, eq_comm, Option.map_eq_some_iff] at h

theorem eq_link_of_kinds {target : Path} (ho : o = some (.link target)) :
    o' = some (.link target) := by
  obtain ⟨m, hm, hkind⟩ := exists_of_kinds h ho
  rw [hm, eq_link_of_kind hkind]

theorem exists_not_link_of_kinds {n : Node} (ho : o = some n) (hlink : ∀ target, n ≠ .link target) :
    ∃ m, o' = some m ∧ ∀ target, m ≠ .link target := by
  obtain ⟨m, hm, hkind⟩ := exists_of_kinds h ho
  refine ⟨m, hm, fun target e => hlink target (eq_link_of_kind ?_)⟩
  rw [← hkind, e, kind]

theorem exists_not_directory_of_kinds {n : Node} (ho : o = some n)
    (hdir : ∀ children rights, n ≠ .directory children rights) :
    ∃ m, o' = some m ∧ ∀ children rights, m ≠ .directory children rights := by
  obtain ⟨m, hm, hkind⟩ := exists_of_kinds h ho
  refine ⟨m, hm, fun children rights e => ?_⟩
  rw [e, kind] at hkind
  obtain ⟨others, hn⟩ := exists_children_of_kind hkind.symm
  exact hdir others rights hn

end

section

variable {n m : Node} (h : n.SameShape m)
include h

/-- Where one has a directory the other has one with the same rights, whose names lead to the same
    kinds of nodes. -/
theorem SameShape.directory {place : Place} {children : List (Bytes × Node)} {rights : Rights}
    (hn : n.at? place = some (.directory children rights)) :
    ∃ others, m.at? place = some (.directory others rights)
      ∧ ∀ name, (children.lookup name).map kind = (others.lookup name).map kind := by
  obtain ⟨m', hm, hkind⟩ := exists_of_kinds (h place) hn
  obtain ⟨others, rfl⟩ := exists_children_of_kind hkind
  refine ⟨others, hm, fun name => ?_⟩
  have hname := h (place ++ [name])
  rwa [at?_concat hn, at?_concat hm] at hname

/-- **Names lead to the same place**, through as many links, or fail for the same reason. -/
theorem SameShape.walk_eq (followLast : Bool) (links : Nat) (here : Place) (names : List Bytes) :
    walk n followLast links here names = walk m followLast links here names := by
  fun_induction walk n followLast links here names with
  | case1 links here => rw [walk_nil]
  | case2 links here names children rights hdir ih =>
    obtain ⟨others, hdir', -⟩ := h.directory hdir
    rw [ih, walk_empty hdir']
  | case3 links here name names children rights hdir hempty hclosed =>
    obtain ⟨others, hdir', -⟩ := h.directory hdir
    rw [walk_closed hdir' hclosed hempty]
  | case4 links here name names children rights hdir hempty hsearch hlong =>
    obtain ⟨others, hdir', -⟩ := h.directory hdir
    rw [walk_long hdir' (eq_true_of_ne_false hsearch) hlong]
  | case5 links here names children rights hdir hsearch hempty hlong ih =>
    obtain ⟨others, hdir', -⟩ := h.directory hdir
    rw [ih, walk_dot hdir' (eq_true_of_ne_false hsearch)]
  | case6 links here names children rights hdir hsearch hempty hlong hdot ih =>
    obtain ⟨others, hdir', -⟩ := h.directory hdir
    rw [ih, walk_dots hdir' (eq_true_of_ne_false hsearch)]
  | case7 links here name names children rights hdir hempty hsearch hlong hdot hdots hlook =>
    obtain ⟨others, hdir', hkinds⟩ := h.directory hdir
    rw [walk_missing hdir' (eq_true_of_ne_false hsearch) ⟨hempty, hdot, hdots, hlong⟩
      (eq_none_of_kinds (hkinds _) hlook)]
  | case8 links here name names children rights hdir hempty hsearch hlong hdot hdots target hlook
      hlast =>
    obtain ⟨others, hdir', hkinds⟩ := h.directory hdir
    obtain ⟨rfl, hfollow⟩ := hlast
    rw [hfollow, walk_link_last hdir' (eq_true_of_ne_false hsearch) ⟨hempty, hdot, hdots, hlong⟩
      (eq_link_of_kinds (hkinds _) hlook)]
  | case9 here name names children rights hdir hempty hsearch hlong hdot hdots target hlook hlast =>
    obtain ⟨others, hdir', hkinds⟩ := h.directory hdir
    rw [walk_link_zero hdir' (eq_true_of_ne_false hsearch) ⟨hempty, hdot, hdots, hlong⟩
      (eq_link_of_kinds (hkinds _) hlook) hlast]
  | case10 here name names children rights hdir hempty hsearch hlong hdot hdots target hlook hlast
      links ih =>
    obtain ⟨others, hdir', hkinds⟩ := h.directory hdir
    rw [walk_link hdir' (eq_true_of_ne_false hsearch) ⟨hempty, hdot, hdots, hlong⟩
      (eq_link_of_kinds (hkinds _) hlook) hlast]
    exact ih
  | case11 links here name names children rights hdir hempty hsearch hlong hdot hdots child hchild
      hlook ih =>
    obtain ⟨others, hdir', hkinds⟩ := h.directory hdir
    obtain ⟨child', hlook', hchild'⟩ := exists_not_link_of_kinds (hkinds _) hlook hchild
    rw [ih, walk_enter hdir' (eq_true_of_ne_false hsearch) ⟨hempty, hdot, hdots, hlong⟩ hlook'
      hchild']
  | case12 links here name names node hnode hother =>
    obtain ⟨m', hm, hdir⟩ := exists_not_directory_of_kinds (h _) hother hnode
    rw [walk_of_other hm hdir]
  | case13 links here name names hnone => rw [walk_of_none (eq_none_of_kinds (h _) hnone)]

end

/-! ## 2. What keeps a shape -/

/-- **A tree keeps its shape** where a part of it gives way to one of the same shape. -/
theorem sameShape_put {n old child : Node} {place : Place} (hold : n.at? place = some old)
    (h : child.SameShape old) : (n.put child place).SameShape n := by
  intro q
  by_cases hbelow : place <+: q
  · obtain ⟨rest, rfl⟩ := hbelow
    rw [at?_put_of_some hold, at?_append, hold]
    exact h rest
  · rcases at?_put_beside hbelow n with hsame | ⟨before, after, rights, hbefore, hafter, -⟩
    · rw [hsame]
    · rw [hbefore, hafter]
      rfl

/-- All files have the same shape. -/
theorem sameShape_file (content before : Content) (modified earlier : Time.Instant)
    (rights given : Rights) :
    (file content modified rights).SameShape (file before earlier given)
  | [] => rfl
  | name :: rest => by rw [at?_file_cons, at?_file_cons]

/-- Directories with the same children and rights have the same shape. -/
theorem sameShape_of_perm {children others : List (Bytes × Node)} (hperm : others.Perm children)
    (hnodup : (children.map (·.1)).Nodup) (rights : Rights) :
    (directory others rights).SameShape (directory children rights)
  | [] => rfl
  | name :: rest => by
    rw [at?_directory_cons, at?_directory_cons, lookup_eq_of_perm hperm hnodup]

/-- Where a file gives way to another, every directory keeps its names and their order. -/
theorem exists_names_put_file {n : Node} {place : Place} {before : Content}
    {earlier : Time.Instant} {given : Rights}
    (hold : n.at? place = some (.file before earlier given)) (content : Content)
    (modified : Time.Instant) (allowed : Rights) {q : Place} {children : List (Bytes × Node)}
    {rights : Rights} (hdir : n.at? q = some (.directory children rights)) :
    ∃ others, (n.put (.file content modified allowed) place).at? q = some (.directory others rights)
      ∧ others.map (·.1) = children.map (·.1) := by
  have hbeside : ¬place <+: q := by
    rintro ⟨rest, rfl⟩
    rw [at?_append, hold, Option.bind_some] at hdir
    cases rest with
    | nil =>
      rw [at?_nil] at hdir
      cases hdir
    | cons name rest =>
      rw [at?_file_cons] at hdir
      cases hdir
  rcases at?_put_beside hbeside n with hsame | ⟨names, others, rights, hnames, hothers, heq⟩
  · exact ⟨children, hsame.trans hdir, rfl⟩
  · cases hnames.symm.trans hdir
    exact ⟨others, hothers, heq (by rw [hold]; simp)⟩

end Node

namespace FileSystem

/-! ## 3. What paths show of a shape -/

theorem isFile_eq (fs : FileSystem) (p : Path) :
    fs.isFile p = ((fs.node true p).toOption.map Node.kind == some .file) := by
  unfold isFile stat
  cases fs.node true p with
  | error e => rfl
  | ok n => cases n <;> rfl

theorem isDirectory_eq (fs : FileSystem) (p : Path) :
    fs.isDirectory p = match (fs.node true p).toOption.map Node.kind with
      | some (.directory _) => true
      | _ => false := by
  unfold isDirectory stat
  cases fs.node true p with
  | error e => rfl
  | ok n => cases n <;> rfl

theorem isLink_eq (fs : FileSystem) (p : Path) :
    fs.isLink p = match (fs.node false p).toOption.map Node.kind with
      | some (.link _) => true
      | _ => false := by
  unfold isLink lstat
  cases fs.node false p with
  | error e => rfl
  | ok n => cases n <;> rfl

section

variable {fs₁ fs₂ : FileSystem} {p : Path}

theorem isFile_congr (h : (fs₁.node true p).toOption.map Node.kind
    = (fs₂.node true p).toOption.map Node.kind) : fs₁.isFile p = fs₂.isFile p := by
  rw [isFile_eq, isFile_eq, h]

theorem isDirectory_congr (h : (fs₁.node true p).toOption.map Node.kind
    = (fs₂.node true p).toOption.map Node.kind) : fs₁.isDirectory p = fs₂.isDirectory p := by
  rw [isDirectory_eq, isDirectory_eq, h]

theorem isLink_congr (h : (fs₁.node false p).toOption.map Node.kind
    = (fs₂.node false p).toOption.map Node.kind) : fs₁.isLink p = fs₂.isLink p := by
  rw [isLink_eq, isLink_eq, h]

end

/-- **File systems of the same shape**, in which relative paths begin at the same place. -/
structure SameShape (fs₁ fs₂ : FileSystem) : Prop where
  top : fs₁.top.SameShape fs₂.top
  here : fs₁.here = fs₂.here

theorem sameShape_putAt {fs : FileSystem} {place : Place} {old child : Node}
    (hold : fs.top.at? place = some old) (h : child.SameShape old) :
    (fs.putAt place child).SameShape fs :=
  ⟨Node.sameShape_put hold h, rfl⟩

section

variable {fs₁ fs₂ : FileSystem} (h : fs₁.SameShape fs₂)
include h

/-- **A path leads to the same place in both**, where nodes of the same kind stand, or it fails in
    both for the same reason. -/
theorem SameShape.node_cases (followLast : Bool) (p : Path) :
    (∃ e, fs₁.node followLast p = .error e ∧ fs₂.node followLast p = .error e)
      ∨ ∃ place n m, fs₁.node followLast p = .ok n ∧ fs₂.node followLast p = .ok m
        ∧ fs₁.top.at? place = some n ∧ fs₂.top.at? place = some m ∧ n.kind = m.kind := by
  have hresolve : fs₁.resolve followLast p = fs₂.resolve followLast p := by
    unfold resolve start
    rw [h.here]
    simp only [h.top.walk_eq]
  unfold node
  rw [hresolve]
  cases fs₂.resolve followLast p with
  | error e => exact Or.inl ⟨e, rfl, rfl⟩
  | ok place =>
    dsimp only [bind, Except.bind]
    cases hn : fs₁.top.at? place with
    | none => exact Or.inl ⟨.noEntry, rfl, by rw [Node.eq_none_of_kinds (h.top place) hn]⟩
    | some n =>
      obtain ⟨m, hm, hkind⟩ := Node.exists_of_kinds (h.top place) hn
      exact Or.inr ⟨place, n, m, rfl, by rw [hm], hn, hm, hkind.symm⟩

theorem SameShape.kind_node_eq (followLast : Bool) (p : Path) :
    (fs₁.node followLast p).toOption.map Node.kind
      = (fs₂.node followLast p).toOption.map Node.kind := by
  rcases h.node_cases followLast p with ⟨e, h₁, h₂⟩ | ⟨place, n, m, h₁, h₂, -, -, hkind⟩
  · rw [h₁, h₂]
  · rw [h₁, h₂]
    exact congrArg some hkind

theorem SameShape.isFile_eq (p : Path) : fs₁.isFile p = fs₂.isFile p :=
  isFile_congr (h.kind_node_eq true p)

theorem SameShape.isDirectory_eq (p : Path) : fs₁.isDirectory p = fs₂.isDirectory p :=
  isDirectory_congr (h.kind_node_eq true p)

theorem SameShape.isLink_eq (p : Path) : fs₁.isLink p = fs₂.isLink p :=
  isLink_congr (h.kind_node_eq false p)

end

/-- **Replacing what a file holds changes no directory** for those who read it. -/
theorem readDir_putAt_file {fs : FileSystem} {place : Place} {before : Content}
    {earlier : Time.Instant} {given : Rights}
    (hold : fs.top.at? place = some (.file before earlier given)) (content : Content)
    (modified : Time.Instant) (allowed : Rights) (dir : Path) :
    (fs.putAt place (.file content modified allowed)).readDir dir = fs.readDir dir := by
  have hshape :=
    sameShape_putAt hold (Node.sameShape_file content before modified earlier allowed given)
  unfold readDir
  rcases hshape.node_cases true dir with ⟨e, h₁, h₂⟩ | ⟨q, n, m, h₁, h₂, hn, hm, hkind⟩
  · rw [h₁, h₂]
  · rw [h₁, h₂]
    cases m with
    | directory children rights =>
      obtain ⟨others, hothers, hnames⟩ :=
        Node.exists_names_put_file hold content modified allowed hm
      cases hn.symm.trans hothers
      dsimp only [bind, Except.bind]
      rw [hnames]
    | _ => cases n <;> first | rfl | cases hkind

end FileSystem

end Docroot.Files

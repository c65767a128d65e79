import Docroot.Files.Tree
import Docroot.Proofs.Files.Path

/-!
# What can be seen below a path

A path that names lead down to from `root` shows nothing but the tree that stands at `root`, as long
as that tree is *plain*: it holds no symbolic link, and its entries have names. The rest of the file
system does not matter, neither for what such a path leads to nor for whether it leads anywhere.

* `walk_append`: names are followed one part after the other, and an empty name between them changes
  nothing (`walk_slash`).
* `walk_below`: from a directory with a plain tree, names lead where the tree says.
* `node_foldl_push`: the node at names below a root, as a function of the tree at the root.
* `SameBelow.node_eq`: so two file systems with the same plain tree at a root agree on every path
  below it.
-/

namespace Docroot.Files

open Docroot.Path (IsName push)

/-! ## 1. Plain trees -/

namespace Node

/-- **A plain tree**: no symbolic link in it, and every entry of a directory has a name. -/
structure IsPlain (n : Node) : Prop where
  noLink : ∀ place target, n.at? place ≠ some (.link target)
  isName : ∀ place children rights, n.at? place = some (.directory children rights) →
    ∀ entry ∈ children, IsName entry.1

@[simp] theorem at?_nil (n : Node) : n.at? [] = some n := by
  unfold at?
  rfl

theorem at?_cons (n : Node) (name : Bytes) (rest : Place) :
    n.at? (name :: rest) = (n.child? name).bind (·.at? rest) := by
  rw [at?]

theorem at?_append (n : Node) (p q : Place) : n.at? (p ++ q) = (n.at? p).bind (·.at? q) := by
  induction p generalizing n with
  | nil => simp
  | cons name p ih =>
    rw [List.cons_append, at?_cons, at?_cons]
    cases n.child? name with
    | none => rfl
    | some c => exact ih c

theorem at?_concat {n m : Node} {p : Place} (h : n.at? p = some m) (name : Bytes) :
    n.at? (p ++ [name]) = m.child? name := by
  rw [at?_append, h, Option.bind_some, at?_cons]
  cases m.child? name <;> simp

/-- What stands in a plain tree is plain. -/
theorem IsPlain.at? {n m : Node} (h : n.IsPlain) {p : Place} (hm : n.at? p = some m) :
    m.IsPlain where
  noLink q target e := h.noLink (p ++ q) target (by rw [at?_append, hm]; exact e)
  isName q children rights e := h.isName (p ++ q) children rights (by rw [at?_append, hm]; exact e)

theorem IsPlain.ne_link {n : Node} (h : n.IsPlain) (target : Path) : n ≠ .link target :=
  fun e => h.noLink [] target (by rw [at?_nil, e])

/-- A node without children is plain if it is no link. -/
theorem isPlain_of_leaf {n : Node} (hchild : ∀ name, n.child? name = none)
    (hlink : ∀ target, n ≠ .link target) (hdir : ∀ children rights, n ≠ .directory children rights) :
    n.IsPlain where
  noLink
    | [], target, e => hlink target (Option.some.inj e)
    | name :: rest, target, e => by rw [at?_cons, hchild] at e; cases e
  isName
    | [], children, rights, e => absurd (Option.some.inj e) (hdir children rights)
    | name :: rest, children, rights, e => by rw [at?_cons, hchild] at e; cases e

theorem isPlain_file (content : Content) (modified : Time.Instant) (rights : Rights) :
    (file content modified rights).IsPlain :=
  isPlain_of_leaf (fun _ => rfl) (by simp) (by simp)

/-- What stands below a directory stands in one of its entries. -/
theorem exists_entry_of_at? {children : List (Bytes × Node)} {rights : Rights} {name : Bytes}
    {rest : Place} {m : Node} (h : (directory children rights).at? (name :: rest) = some m) :
    ∃ entry ∈ children, entry.2.at? rest = some m := by
  rw [at?_cons, Option.bind_eq_some_iff] at h
  obtain ⟨child, hchild, hm⟩ := h
  exact ⟨(name, child), mem_of_lookup hchild, hm⟩

/-- A directory is plain if its entries have names and are plain. -/
theorem isPlain_directory {children : List (Bytes × Node)} {rights : Rights}
    (h : ∀ entry ∈ children, IsName entry.1 ∧ entry.2.IsPlain) :
    (directory children rights).IsPlain where
  noLink place target e := by
    cases place with
    | nil => cases e
    | cons name rest =>
      obtain ⟨entry, hentry, e⟩ := exists_entry_of_at? e
      exact (h entry hentry).2.noLink rest target e
  isName place others given e := by
    cases place with
    | nil =>
      cases e
      exact fun entry he => (h entry he).1
    | cons name rest =>
      obtain ⟨entry, hentry, e⟩ := exists_entry_of_at? e
      exact (h entry hentry).2.isName rest others given e

/-- The node that names lead to below this one; none where one of them is too long for the system, or
    a directory on the way may not be searched. -/
def descend? (n : Node) : List Bytes → Option Node
  | [] => some n
  | name :: rest =>
    match n with
    | .directory children rights =>
      if rights.search = true ∧ name.length ≤ maxName then
        (children.lookup name).bind (·.descend? rest)
      else none
    | _ => none

@[simp] theorem descend?_nil (n : Node) : n.descend? [] = some n := by
  unfold descend?
  rfl

theorem descend?_cons (children : List (Bytes × Node)) (rights : Rights) (name : Bytes)
    (rest : List Bytes) :
    (directory children rights).descend? (name :: rest)
      = if rights.search = true ∧ name.length ≤ maxName then
          (children.lookup name).bind (·.descend? rest)
        else none := by
  rw [descend?]

theorem descend?_of_other {n : Node} (hdir : ∀ children rights, n ≠ .directory children rights)
    (name : Bytes) (rest : List Bytes) : n.descend? (name :: rest) = none := by
  cases n with
  | directory children rights => exact absurd rfl (hdir children rights)
  | _ => rfl

/-- Names lead to what stands at them. -/
theorem at?_of_descend? {n m : Node} {names : List Bytes} (h : n.descend? names = some m) :
    n.at? names = some m := by
  induction names generalizing n with
  | nil => rwa [descend?_nil] at h
  | cons name rest ih =>
    cases n with
    | directory children rights =>
      rw [descend?_cons] at h
      split at h
      · obtain ⟨child, hlook, hrest⟩ := Option.bind_eq_some_iff.1 h
        rw [at?_cons, Node.child?, hlook]
        exact ih hrest
      · cases h
    | _ =>
      rw [descend?_of_other (by simp)] at h
      cases h

end Node

/-! ## 2. Following names -/

/-- A name that is looked up in a directory: it is there, says nothing of where to go, and is not too
    long. -/
structure IsLookedUp (name : Bytes) : Prop where
  ne_nil : name ≠ []
  ne_dot : name ≠ [Path.dot]
  ne_dots : name ≠ [Path.dot, Path.dot]
  short : ¬maxName < name.length

theorem isLookedUp_of_isName {name : Bytes} (h : IsName name) (hlength : name.length ≤ maxName) :
    IsLookedUp name :=
  ⟨h.ne_nil, h.ne_dot, h.ne_dots, Nat.not_lt.2 hlength⟩

@[simp] theorem walk_nil (top : Node) (followLast : Bool) (links : Nat) (here : Place) :
    walk top followLast links here [] = .ok (here, links) := by
  rw [walk]

section

variable {top : Node} {followLast : Bool} {links : Nat} {here : Place}

theorem walk_of_none (h : top.at? here = none) (name : Bytes) (rest : List Bytes) :
    walk top followLast links here (name :: rest) = .error .noEntry := by
  rw [walk, h]

theorem walk_of_other {n : Node} (h : top.at? here = some n)
    (hdir : ∀ children rights, n ≠ .directory children rights) (name : Bytes)
    (rest : List Bytes) :
    walk top followLast links here (name :: rest) = .error .notDirectory := by
  rw [walk, h]
  cases n with
  | directory children rights => exact absurd rfl (hdir children rights)
  | _ => rfl

/-- Where there is no directory, the reason why names lead nowhere is the same for all of them. -/
theorem walk_of_not_directory
    (h : ∀ children rights, top.at? here ≠ some (.directory children rights)) :
    ∃ e, ∀ followLast links names, names ≠ [] →
      walk top followLast links here names = .error e := by
  cases hn : top.at? here with
  | none =>
    refine ⟨.noEntry, fun followLast links names hne => ?_⟩
    obtain ⟨name, rest, rfl⟩ := List.exists_cons_of_ne_nil hne
    exact walk_of_none hn name rest
  | some n =>
    refine ⟨.notDirectory, fun followLast links names hne => ?_⟩
    obtain ⟨name, rest, rfl⟩ := List.exists_cons_of_ne_nil hne
    exact walk_of_other hn (fun children rights e => h children rights (hn.trans (congrArg some e)))
      name rest

variable {children : List (Bytes × Node)} {rights : Rights}
  (hdir : top.at? here = some (.directory children rights))
include hdir

/-- A directory is all that an empty name asks for. -/
theorem walk_empty (rest : List Bytes) :
    walk top followLast links here ([] :: rest) = walk top followLast links here rest := by
  rw [walk, hdir]
  exact if_pos rfl

/-- No other name is followed through a directory that may not be searched. -/
theorem walk_closed (hclosed : rights.search = false) {name : Bytes} (hne : name ≠ [])
    (rest : List Bytes) :
    walk top followLast links here (name :: rest) = .error .accessDenied := by
  rw [walk, hdir]
  simp only [if_neg hne, if_pos hclosed]

variable (hsearch : rights.search = true)
include hsearch

theorem walk_long {name : Bytes} (h : maxName < name.length) (rest : List Bytes) :
    walk top followLast links here (name :: rest) = .error .nameTooLong := by
  have hne : name ≠ [] := List.ne_nil_of_length_pos (Nat.zero_lt_of_lt h)
  rw [walk, hdir]
  simp [hne, hsearch, h]

/-- In a directory, a `.` stays. -/
theorem walk_dot (rest : List Bytes) :
    walk top followLast links here ([Path.dot] :: rest) = walk top followLast links here rest := by
  rw [walk, hdir]
  simp [hsearch, maxName]

/-- In a directory, a `..` goes up. -/
theorem walk_dots (rest : List Bytes) :
    walk top followLast links here ([Path.dot, Path.dot] :: rest)
      = walk top followLast links here.dropLast rest := by
  rw [walk, hdir]
  simp [hsearch, maxName]

variable {name : Bytes} (hname : IsLookedUp name)
include hname

theorem walk_missing (hlook : children.lookup name = none) (rest : List Bytes) :
    walk top followLast links here (name :: rest) = .error .noEntry := by
  rw [walk, hdir]
  simp [hname.ne_nil, hsearch, hname.short, hname.ne_dot, hname.ne_dots, hlook]

/-- What is no link is entered. -/
theorem walk_enter {child : Node} (hlook : children.lookup name = some child)
    (hchild : ∀ target, child ≠ .link target) (rest : List Bytes) :
    walk top followLast links here (name :: rest)
      = walk top followLast links (here ++ [name]) rest := by
  rw [walk, hdir]
  simp [hname.ne_nil, hsearch, hname.short, hname.ne_dot, hname.ne_dots, hlook]

variable {target : Path} (hlook : children.lookup name = some (.link target))
include hlook

/-- A link at the end is not followed if it is not to be. -/
theorem walk_link_last :
    walk top false links here [name] = .ok (here ++ [name], links) := by
  rw [walk, hdir]
  simp [hname.ne_nil, hsearch, hname.short, hname.ne_dot, hname.ne_dots, hlook]

variable {rest : List Bytes} (hfollow : ¬(rest = [] ∧ followLast = false))
include hfollow

theorem walk_link_zero :
    walk top followLast 0 here (name :: rest) = .error .linkLoop := by
  rw [walk, hdir]
  simp only [if_neg hname.ne_nil, hsearch, Bool.true_eq_false, if_false, if_neg hname.short,
    if_neg hname.ne_dot, if_neg hname.ne_dots, hlook]
  exact if_neg hfollow

/-- A link puts its path in front of what is left. -/
theorem walk_link :
    walk top followLast (links + 1) here (name :: rest)
      = walk top followLast links (if Path.isAbsolute target then [] else here)
          (followNames target ++ rest) := by
  rw [walk, hdir]
  simp only [if_neg hname.ne_nil, hsearch, Bool.true_eq_false, if_false, if_neg hname.short,
    if_neg hname.ne_dot, if_neg hname.ne_dots, hlook]
  exact if_neg hfollow

end

/-- **Names are followed one part after the other**; a link at the end of the first part is
    followed, since something comes behind it. -/
theorem walk_append (top : Node) (followLast : Bool) (links : Nat) (here : Place)
    (names rest : List Bytes) (hne : rest ≠ []) :
    walk top followLast links here (names ++ rest)
      = (walk top true links here names).bind fun r => walk top followLast r.2 r.1 rest := by
  have hmore (names : List Bytes) : ¬(names ++ rest = [] ∧ followLast = false) :=
    fun h => hne (List.append_eq_nil_iff.1 h.1).2
  fun_induction walk top true links here names with
  | case1 links here => rfl
  | case2 links here names children rights hdir ih => rw [List.cons_append, walk_empty hdir, ih]
  | case3 links here name names children rights hdir hempty hclosed =>
    rw [List.cons_append, walk_closed hdir hclosed hempty]
    rfl
  | case4 links here name names children rights hdir hempty hsearch hlong =>
    rw [List.cons_append, walk_long hdir (eq_true_of_ne_false hsearch) hlong]
    rfl
  | case5 links here names children rights hdir hsearch hempty hlong ih =>
    rw [List.cons_append, walk_dot hdir (eq_true_of_ne_false hsearch), ih]
  | case6 links here names children rights hdir hsearch hempty hlong hdot ih =>
    rw [List.cons_append, walk_dots hdir (eq_true_of_ne_false hsearch), ih]
  | case7 links here name names children rights hdir hempty hsearch hlong hdot hdots hnone =>
    rw [List.cons_append,
      walk_missing hdir (eq_true_of_ne_false hsearch) ⟨hempty, hdot, hdots, hlong⟩ hnone]
    rfl
  | case8 links here name names children rights hdir hempty hsearch hlong hdot hdots target hlink
      hlast =>
    exact absurd hlast.2 (by simp)
  | case9 here name names children rights hdir hempty hsearch hlong hdot hdots target hlink hlast =>
    rw [List.cons_append, walk_link_zero hdir (eq_true_of_ne_false hsearch)
      ⟨hempty, hdot, hdots, hlong⟩ hlink (hmore names)]
    rfl
  | case10 here name names children rights hdir hempty hsearch hlong hdot hdots target hlink hlast
      links ih =>
    rw [List.cons_append, walk_link hdir (eq_true_of_ne_false hsearch)
      ⟨hempty, hdot, hdots, hlong⟩ hlink (hmore names), ← List.append_assoc]
    exact ih
  | case11 links here name names children rights hdir hempty hsearch hlong hdot hdots child hchild
      hlook ih =>
    rw [List.cons_append, walk_enter hdir (eq_true_of_ne_false hsearch)
      ⟨hempty, hdot, hdots, hlong⟩ hlook hchild, ih]
  | case12 links here name names node hnode hdir =>
    rw [List.cons_append, walk_of_other hdir hnode]
    rfl
  | case13 links here name names hnone =>
    rw [List.cons_append, walk_of_none hnone]
    rfl

/-- **An empty name between names changes nothing**: it asks for a directory, and so does a name
    behind it. -/
theorem walk_slash (top : Node) (followLast : Bool) (links : Nat) (here : Place)
    (names : List Bytes) {rest : List Bytes} (hne : rest ≠ []) :
    walk top followLast links here (names ++ [[]] ++ rest)
      = walk top followLast links here (names ++ rest) := by
  rw [List.append_assoc, walk_append _ _ _ _ _ _ (by simp), walk_append _ _ _ _ _ _ hne]
  cases walk top true links here names with
  | error e => rfl
  | ok r =>
    show walk top followLast r.2 r.1 ([] :: rest) = walk top followLast r.2 r.1 rest
    by_cases hdir : ∃ children rights, top.at? r.1 = some (.directory children rights)
    · obtain ⟨children, rights, hdir⟩ := hdir
      rw [walk_empty hdir]
    · obtain ⟨e, he⟩ := walk_of_not_directory fun children rights h => hdir ⟨children, rights, h⟩
      rw [he _ _ _ (by simp), he _ _ _ hne]

/-- The slash at the end of a path says nothing where names come behind the path. -/
theorem walk_names_append (top : Node) (followLast : Bool) (links : Nat) (here : Place)
    (p : Path) {ns : List Bytes} (hne : ns ≠ []) :
    walk top followLast links here (p.names ++ ns)
      = walk top followLast links here (followNames p ++ ns) := by
  unfold followNames
  split
  · rw [walk_slash _ _ _ _ _ hne]
  · rw [List.append_nil]

/-- **From a place with a plain tree, names lead where the tree says**, and no link is used up. -/
theorem walk_below {top : Node} (followLast : Bool) (links : Nat) :
    ∀ (names : List Bytes) {here : Place} {n : Node}, top.at? here = some n → n.IsPlain →
      (∀ name ∈ names, IsName name) →
      (walk top followLast links here names).toOption
        = (n.descend? names).map fun _ => (here ++ names, links)
  | [], here, n, _, _, _ => by simp [Except.toOption]
  | name :: rest, here, n, hn, hplain, hnames => by
    have hname := hnames name (by simp)
    by_cases hdir : ∃ children rights, n = .directory children rights
    · obtain ⟨children, rights, rfl⟩ := hdir
      rw [Node.descend?_cons]
      by_cases hsearch : rights.search = true
      · by_cases hlong : maxName < name.length
        · rw [walk_long hn hsearch hlong, if_neg fun h => absurd h.2 (Nat.not_le.2 hlong)]
          rfl
        · rw [if_pos ⟨hsearch, Nat.not_lt.1 hlong⟩]
          have hlooked := isLookedUp_of_isName hname (Nat.not_lt.1 hlong)
          have hchild := Node.at?_concat hn name
          cases hc : children.lookup name with
          | none =>
            rw [walk_missing hn hsearch hlooked hc]
            rfl
          | some c =>
            rw [Node.child?, hc] at hchild
            have hcp : c.IsPlain := hplain.at? (p := [name]) (by
              rw [Node.at?_cons]
              simp [Node.child?, hc])
            rw [walk_enter hn hsearch hlooked hc hcp.ne_link,
              walk_below followLast links rest hchild hcp
                fun m hm => hnames m (List.mem_cons_of_mem _ hm)]
            simp
      · rw [walk_closed hn (eq_false_of_ne_true hsearch) hname.ne_nil,
          if_neg fun h => hsearch h.1]
        rfl
    · have hother : ∀ children rights, n ≠ .directory children rights :=
        fun children rights e => hdir ⟨children, rights, e⟩
      rw [walk_of_other hn hother, Node.descend?_of_other hother]
      rfl

/-! ## 3. Names below a root -/

/-- The names to follow for names below a path: first those of the path. -/
theorem followNames_foldl_push (root : Path) {ns : List Bytes} (h : ∀ n ∈ ns, IsName n)
    (hne : ns ≠ []) : followNames (ns.foldl push root) = root.names ++ ns := by
  unfold followNames
  rw [if_neg (Path.getLast?_foldl_push root ns h hne), List.append_nil,
    Path.names_foldl_push root ns h]

/-- The paths that the system takes. -/
theorem pathFault_eq_none_iff {p : Path} :
    pathFault p = none ↔ 0 ∉ p ∧ p ≠ [] ∧ p.length < pathLimit := by
  unfold pathFault
  by_cases hzero : 0 ∈ p
  · simp [hzero]
  · by_cases hnil : p = []
    · simp [hnil]
    · by_cases hlen : pathLimit ≤ p.length
      · simp [hzero, hnil, hlen]
      · simp [hzero, hnil, hlen]
        omega

/-- What is wrong with a path stays wrong with names below it. -/
theorem pathFault_of_prefix {p q : Path} (h : p <+: q) (hp : p ≠ []) (hq : pathFault q = none) :
    pathFault p = none := by
  rw [pathFault_eq_none_iff] at hq ⊢
  obtain ⟨hzero, -, hlen⟩ := hq
  exact ⟨fun hm => hzero (h.subset hm), hp, Nat.lt_of_le_of_lt h.length_le hlen⟩

theorem toOption_eq_some_iff {ε α : Type} {x : Except ε α} {a : α} :
    x.toOption = some a ↔ x = .ok a := by
  cases x <;> simp [Except.toOption]

namespace FileSystem

/-- The node at a path, by the three things that can go wrong. -/
theorem toOption_node (fs : FileSystem) (followLast : Bool) (p : Path) :
    (fs.node followLast p).toOption
      = if pathFault p = none then
          (walk fs.top followLast maxLinks (fs.start p) (followNames p)).toOption.bind
            fun r => fs.top.at? r.1
        else none := by
  unfold node resolve
  cases pathFault p with
  | some e => rfl
  | none =>
    dsimp only
    cases walk fs.top followLast maxLinks (fs.start p) (followNames p) with
    | error e => rfl
    | ok r =>
      dsimp only [Except.map, bind, Except.bind]
      cases hn : fs.top.at? r.1 with
      | none => simp [Except.toOption, hn]
      | some n => simp [Except.toOption, hn]

/-- **What a path leads to**: the system takes the path, following it comes to an end, and that is
    what stands there. -/
theorem node_eq_ok_iff {fs : FileSystem} {followLast : Bool} {p : Path} {n : Node} :
    fs.node followLast p = .ok n
      ↔ pathFault p = none ∧ ∃ place left,
        walk fs.top followLast maxLinks (fs.start p) (followNames p) = .ok (place, left)
          ∧ fs.top.at? place = some n := by
  rw [← toOption_eq_some_iff, toOption_node]
  split
  · next hfault => simp [Option.bind_eq_some_iff, toOption_eq_some_iff, hfault]
  · next hfault => simp [hfault]

/-- What a path leads to stands somewhere in the tree. -/
theorem exists_place_of_node {fs : FileSystem} {followLast : Bool} {p : Path} {n : Node}
    (h : fs.node followLast p = .ok n) : ∃ place, fs.top.at? place = some n := by
  obtain ⟨-, place, -, -, hplace⟩ := node_eq_ok_iff.1 h
  exact ⟨place, hplace⟩

theorem pathFault_of_node {fs : FileSystem} {followLast : Bool} {p : Path} {n : Node}
    (h : fs.node followLast p = .ok n) : pathFault p = none :=
  (node_eq_ok_iff.1 h).1

/-- **What can be read as a directory is one** and allows it, and it yields the names of its
    children. -/
theorem readDir_eq_ok_iff {fs : FileSystem} {p : Path} {names : List Bytes} :
    fs.readDir p = .ok names
      ↔ ∃ children rights, fs.node true p = .ok (.directory children rights)
        ∧ rights.read = true ∧ names = children.map (·.1) := by
  unfold readDir
  cases fs.node true p with
  | error e => simp [bind, Except.bind]
  | ok n =>
    cases n with
    | directory children rights =>
      dsimp only [bind, Except.bind]
      constructor
      · intro h
        split at h
        · next hread =>
          cases h
          exact ⟨children, rights, rfl, hread, rfl⟩
        · cases h
      · rintro ⟨_, _, hnode, hread, rfl⟩
        cases hnode
        rw [if_pos hread]
    | _ => simp [bind, Except.bind]

/-- **What stands at `root`**, for whoever follows names from there. Names below the empty path
    are followed from where relative paths begin. -/
def below? (fs : FileSystem) (root : Path) : Option Node :=
  if root = [] then fs.top.at? fs.here else (fs.node true root).toOption

/-- Where names lead to from a place: to what the plain tree there has at them. -/
theorem bind_walk_below {top : Node} (followLast : Bool) (links : Nat) {names : List Bytes}
    {here : Place} {n : Node} (hn : top.at? here = some n) (hplain : n.IsPlain)
    (hnames : ∀ name ∈ names, IsName name) :
    ((walk top followLast links here names).toOption.bind fun r => top.at? r.1)
      = n.descend? names := by
  rw [walk_below followLast links names hn hplain hnames]
  cases hd : n.descend? names with
  | none => rfl
  | some m =>
    have hm := Node.at?_of_descend? hd
    simp [Node.at?_append, hn, hm]

/-- Names behind others lead to what the plain tree has at them that the others lead to. -/
theorem bind_walk_append {top : Node} (followLast : Bool) (links : Nat) (here : Place)
    {names ns : List Bytes} (hns : ∀ n ∈ ns, IsName n) (hne : ns ≠ [])
    (hplain : ∀ n, ((walk top true links here names).toOption.bind fun r => top.at? r.1) = some n →
      n.IsPlain) :
    ((walk top followLast links here (names ++ ns)).toOption.bind fun r => top.at? r.1)
      = ((walk top true links here names).toOption.bind fun r => top.at? r.1).bind
        (·.descend? ns) := by
  rw [walk_append _ _ _ _ _ _ hne]
  cases hw : walk top true links here names with
  | error e => rfl
  | ok r =>
    rw [hw] at hplain
    show ((walk top followLast r.2 r.1 ns).toOption.bind _) = (top.at? r.1).bind _
    cases hn : top.at? r.1 with
    | none =>
      obtain ⟨e, he⟩ := walk_of_not_directory fun children rights h => by
        rw [hn] at h
        cases h
      rw [he _ _ _ hne]
      rfl
    | some n => exact bind_walk_below followLast r.2 hn (hplain n hn) hns

/-- Names below a path are followed from where the path begins. -/
theorem start_foldl_push (fs : FileSystem) (root : Path) {ns : List Bytes}
    (hns : ∀ n ∈ ns, IsName n) (hne : ns ≠ []) :
    fs.start (ns.foldl push root) = if root = [] then fs.here else fs.start root := by
  cases root with
  | nil =>
    have := Path.isAbsolute_ofNames hns
    unfold start
    rw [← Path.pushNames_eq_foldl ns [] hns]
    simp [Path.pushNames, hne, Path.push, this]
  | cons b tail =>
    obtain ⟨rest, e⟩ := Path.prefix_foldl_push (b :: tail) ns hns
    rw [← e]
    rfl

/-- **The node at names below a root** is what the tree at the root has at those names, if the path
    as a whole is one that the system takes. -/
theorem node_foldl_push (fs : FileSystem) (followLast : Bool) (root : Path) {ns : List Bytes}
    (hns : ∀ n ∈ ns, IsName n) (hne : ns ≠ []) (hplain : ∀ n, fs.below? root = some n → n.IsPlain) :
    (fs.node followLast (ns.foldl push root)).toOption
      = if pathFault (ns.foldl push root) = none then (fs.below? root).bind (·.descend? ns)
        else none := by
  rw [toOption_node]
  by_cases hfault : pathFault (ns.foldl push root) = none
  · rw [if_pos hfault, if_pos hfault, followNames_foldl_push root hns hne,
      fs.start_foldl_push root hns hne]
    unfold below? at hplain ⊢
    by_cases hroot : root = []
    · -- names below the empty path begin where relative paths begin
      subst hroot
      rw [if_pos rfl] at hplain ⊢
      have h := @bind_walk_append fs.top followLast maxLinks fs.here [] ns hns hne
      rw [walk_nil] at h
      exact h hplain
    · have hfault' := pathFault_of_prefix (Path.prefix_foldl_push root ns hns) hroot hfault
      rw [if_neg hroot] at hplain ⊢
      rw [if_neg hroot]
      rw [toOption_node, if_pos hfault'] at hplain ⊢
      rw [walk_names_append _ _ _ _ _ hne]
      exact bind_walk_append followLast maxLinks (fs.start root) hns hne hplain
  · rw [if_neg hfault, if_neg hfault]

/-- Names lead from where relative paths begin to what a plain tree there has at them. -/
theorem node_of_names {fs : FileSystem} {t n : Node} (ht : fs.top.at? fs.here = some t)
    (hplain : t.IsPlain) (ns : List Bytes) (hns : ∀ n ∈ ns, IsName n) (hne : ns ≠ [])
    (hfault : pathFault (ns.foldl push []) = none) (hn : t.descend? ns = some n)
    (followLast : Bool) : fs.node followLast (ns.foldl push []) = .ok n := by
  have hbelow : fs.below? [] = some t := ht
  have h := fs.node_foldl_push followLast [] hns hne fun m hm => by
    rw [hbelow] at hm
    cases hm
    exact hplain
  rw [if_pos hfault, hbelow, Option.bind_some, hn] at h
  cases hnode : fs.node followLast (ns.foldl push []) with
  | error e =>
    rw [hnode] at h
    cases h
  | ok m =>
    rw [hnode] at h
    cases h
    rfl

/-- Names from the root lead to what a plain tree has at them. -/
theorem node_of_rootNames {fs : FileSystem} {children : List (Bytes × Node)} {rights : Rights}
    (htop : fs.top = .directory children rights) (hplain : fs.top.IsPlain) {ns : List Bytes}
    (hns : ∀ n ∈ ns, IsName n) (hne : ns ≠ [])
    (hfault : pathFault (ns.foldl push [Path.slash]) = none) (followLast : Bool) :
    (fs.node followLast (ns.foldl push [Path.slash])).toOption = fs.top.descend? ns := by
  have hstart : fs.top.at? [] = some (.directory children rights) := congrArg some htop
  have hbelow : fs.below? [Path.slash] = some fs.top := by
    unfold below?
    rw [if_neg (List.cons_ne_nil _ _), toOption_node, if_pos (by decide),
      show followNames [Path.slash] = [[]] by decide,
      show fs.start [Path.slash] = [] from rfl, walk_empty hstart, walk_nil]
    rfl
  rw [node_foldl_push fs followLast [Path.slash] hns hne, if_pos hfault, hbelow, Option.bind_some]
  intro n hn
  rw [hbelow] at hn
  cases hn
  exact hplain

end FileSystem

/-! ## 4. Two file systems with the same tree at a root -/

/-- **Two file systems hold the same plain tree at `root`**, or both hold nothing there. They may
    differ in everything else. -/
structure SameBelow (fs₁ fs₂ : FileSystem) (root : Path) : Prop where
  same : fs₁.below? root = fs₂.below? root
  plain : ∀ n, fs₁.below? root = some n → n.IsPlain

/-- **They agree on every path that names lead down to**, whether a link at its end is followed or
    not. -/
theorem SameBelow.node_eq {fs₁ fs₂ : FileSystem} {root : Path} (h : SameBelow fs₁ fs₂ root)
    (followLast : Bool) {ns : List Bytes} (hns : ∀ n ∈ ns, IsName n) (hne : ns ≠ []) :
    (fs₁.node followLast (ns.foldl push root)).toOption
      = (fs₂.node followLast (ns.foldl push root)).toOption := by
  rw [fs₁.node_foldl_push followLast root hns hne h.plain,
    fs₂.node_foldl_push followLast root hns hne (h.same ▸ h.plain), h.same]

/-- They agree on the root itself. -/
theorem SameBelow.node_root_eq {fs₁ fs₂ : FileSystem} {root : Path} (h : SameBelow fs₁ fs₂ root) :
    (fs₁.node true root).toOption = (fs₂.node true root).toOption := by
  by_cases hroot : root = []
  · subst hroot
    rfl
  · have := h.same
    unfold FileSystem.below? at this
    rwa [if_neg hroot, if_neg hroot] at this

/-! ## 5. A tree with one file -/

/-- A file system with one file of the given name and time, in the directory `w`. -/
def loneFile (name : Bytes) (modified : Time.Instant) : FileSystem where
  top := .directory [([0x77], .directory [(name, .file (.bytes [0x68, 0x69]) modified)])]
  here := []

section

variable {name : Bytes} (modified : Time.Instant)

theorem isPlain_loneFile (h : IsName name) : (loneFile name modified).top.IsPlain :=
  Node.isPlain_directory (List.forall_mem_singleton.2 ⟨(by decide : IsName [0x77]),
    Node.isPlain_directory (List.forall_mem_singleton.2 ⟨h, Node.isPlain_file _ _ _⟩)⟩)

theorem node_root_loneFile (h : IsName name) :
    (loneFile name modified).node true [0x77]
      = .ok (.directory [(name, .file (.bytes [0x68, 0x69]) modified)]) :=
  FileSystem.node_of_names rfl (isPlain_loneFile modified h) [[0x77]] (by decide) (by simp)
    (by decide) rfl true

theorem node_loneFile (h : IsName name) (hlen : name.length ≤ maxName)
    (hfault : pathFault (push [0x77] name) = none) (followLast : Bool) :
    (loneFile name modified).node followLast (push [0x77] name)
      = .ok (.file (.bytes [0x68, 0x69]) modified) := by
  have hdescend : (loneFile name modified).top.descend? [[0x77], name]
      = some (.file (.bytes [0x68, 0x69]) modified) := by
    unfold loneFile
    rw [Node.descend?_cons, if_pos (by decide)]
    show (Node.directory [(name, .file (.bytes [0x68, 0x69]) modified)]).descend? [name] = _
    rw [Node.descend?_cons, if_pos ⟨rfl, hlen⟩]
    simp
  exact FileSystem.node_of_names rfl (isPlain_loneFile modified h) [[0x77], name]
    (by simp [h, (by decide : IsName [0x77])]) (by simp) hfault hdescend followLast

end

end Docroot.Files

import Docroot.Proofs.Files.Shape
import Docroot.Proofs.Files.Way

/-!
# What is opened, and what is made

A file is opened for appending name by name, and so directories are made. What this comes to is said
here by where paths lead, without the steps.

* `openForAppend_eq_ok_iff`: a file is opened exactly if there is a place that may be appended to and
  that the path leads to in the file system then; and that file system is the one before, with an
  empty file at the place if nothing stood there.
* `makeDirectories_eq_ok_iff`: directories are made exactly if each that is missing can be made in
  the one above it (`MakesDirectories`).
-/

namespace Docroot.Files

/-! ## 1. Trees with more files -/

namespace Node

/-- **The second tree is the first with more files**: what stands in the first has its like in the
    second, and what stands in the second and is no file has its like in the first. -/
structure HasMoreFiles (n m : Node) : Prop where
  old : ∀ place x, n.at? place = some x → ∃ y, m.at? place = some y ∧ y.kind = x.kind
  new : ∀ place y, m.at? place = some y → y.kind ≠ .file →
    ∃ x, n.at? place = some x ∧ x.kind = y.kind

theorem hasMoreFiles_refl (n : Node) : n.HasMoreFiles n :=
  ⟨fun _ x h => ⟨x, h, rfl⟩, fun _ y h _ => ⟨y, h, rfl⟩⟩

/-- Nothing stands below a file. -/
theorem hasMoreFiles_put {n : Node} {place : Place} (h : n.at? place = none) (content : Content)
    (modified : Time.Instant) (rights : Rights) :
    n.HasMoreFiles (n.put (.file content modified rights) place) where
  old q x hx := by
    have hbeside : ¬place <+: q := by
      rintro ⟨rest, rfl⟩
      rw [at?_append, h] at hx
      cases hx
    rcases at?_put_beside hbeside n with hsame | ⟨before, after, given, hbefore, hafter, -⟩
    · exact ⟨x, hsame.trans hx, rfl⟩
    · cases hx.symm.trans hbefore
      exact ⟨_, hafter, rfl⟩
  new q y hy hkind := by
    by_cases hbelow : place <+: q
    · obtain ⟨rest, rfl⟩ := hbelow
      rcases at?_put_of_none h (.file content modified rights) rest with hnew | hnew
      · rw [hy] at hnew
        cases rest with
        | nil =>
          cases hnew
          exact absurd rfl hkind
        | cons name rest =>
          rw [at?_file_cons] at hnew
          cases hnew
      · cases hy.symm.trans hnew
    · rcases at?_put_beside hbelow n with hsame | ⟨before, after, given, hbefore, hafter, -⟩
      · exact ⟨y, hsame.symm.trans hy, rfl⟩
      · cases hy.symm.trans hafter
        exact ⟨_, hbefore, rfl⟩

section

variable {n m : Node} (h : n.HasMoreFiles m)
include h

theorem HasMoreFiles.directory {place : Place} {children : List (Bytes × Node)} {rights : Rights}
    (hdir : n.at? place = some (.directory children rights)) :
    ∃ others, m.at? place = some (.directory others rights) := by
  obtain ⟨y, hy, hkind⟩ := h.old place _ hdir
  obtain ⟨others, rfl⟩ := exists_children_of_kind hkind
  exact ⟨others, hy⟩

theorem HasMoreFiles.directory_old {place : Place} {children : List (Bytes × Node)}
    {rights : Rights} (hdir : m.at? place = some (.directory children rights)) :
    ∃ others, n.at? place = some (.directory others rights) := by
  obtain ⟨x, hx, hkind⟩ := h.new place _ hdir (fun e => by cases e)
  obtain ⟨others, rfl⟩ := exists_children_of_kind hkind
  exact ⟨others, hx⟩

/-- **Names that lead somewhere in the first tree lead to the same place in the second.** -/
theorem HasMoreFiles.walk_eq_ok {followLast : Bool} {links : Nat} {here : Place}
    {names : List Bytes} {result : Place × Nat}
    (hwalk : walk n followLast links here names = .ok result) :
    walk m followLast links here names = .ok result := by
  fun_induction walk n followLast links here names with
  | case1 links here => rwa [walk_nil]
  | case2 links here names children rights hdir ih =>
    obtain ⟨others, hdir'⟩ := h.directory hdir
    rw [walk_empty hdir', ih hwalk]
  | case5 links here names children rights hdir hsearch hempty hlong ih =>
    obtain ⟨others, hdir'⟩ := h.directory hdir
    rw [walk_dot hdir' (eq_true_of_ne_false hsearch), ih hwalk]
  | case6 links here names children rights hdir hsearch hempty hlong hdot ih =>
    obtain ⟨others, hdir'⟩ := h.directory hdir
    rw [walk_dots hdir' (eq_true_of_ne_false hsearch), ih hwalk]
  | case8 links here name names children rights hdir hempty hsearch hlong hdot hdots target hlook
      hlast =>
    obtain ⟨others, hdir'⟩ := h.directory hdir
    obtain ⟨y, hy, hkind⟩ := h.old _ _ ((at?_concat hdir name).trans hlook)
    obtain rfl := eq_link_of_kind hkind
    obtain ⟨rfl, hfollow⟩ := hlast
    rw [hfollow, walk_link_last hdir' (eq_true_of_ne_false hsearch) ⟨hempty, hdot, hdots, hlong⟩
      ((at?_concat hdir' name).symm.trans hy)]
    exact hwalk
  | case10 here name names children rights hdir hempty hsearch hlong hdot hdots target hlook hlast
      links ih =>
    obtain ⟨others, hdir'⟩ := h.directory hdir
    obtain ⟨y, hy, hkind⟩ := h.old _ _ ((at?_concat hdir name).trans hlook)
    obtain rfl := eq_link_of_kind hkind
    rw [walk_link hdir' (eq_true_of_ne_false hsearch) ⟨hempty, hdot, hdots, hlong⟩
      ((at?_concat hdir' name).symm.trans hy) hlast]
    exact ih hwalk
  | case11 links here name names children rights hdir hempty hsearch hlong hdot hdots child hchild
      hlook ih =>
    obtain ⟨others, hdir'⟩ := h.directory hdir
    obtain ⟨y, hy, hkind⟩ := h.old _ _ ((at?_concat hdir name).trans hlook)
    have hlink : ∀ target, y ≠ .link target := by
      rintro target rfl
      exact hchild target (eq_link_of_kind hkind.symm)
    rw [walk_enter hdir' (eq_true_of_ne_false hsearch) ⟨hempty, hdot, hdots, hlong⟩
      ((at?_concat hdir' name).symm.trans hy) hlink]
    exact ih hwalk
  | _ => cases hwalk

/-- **Names that lead to a directory in the second tree lead to the same place in the first**: a new
    file is on no way to a directory. -/
theorem HasMoreFiles.walk_eq_ok_old {links left : Nat} {here place : Place} {names : List Bytes}
    (hwalk : walk m true links here names = .ok (place, left)) {others : List (Bytes × Node)}
    {given : Rights} (hplace : m.at? place = some (.directory others given)) :
    walk n true links here names = .ok (place, left) := by
  fun_induction walk m true links here names with
  | case1 links here => rwa [walk_nil]
  | case2 links here names children rights hdir ih =>
    obtain ⟨olds, hdir'⟩ := h.directory_old hdir
    rw [walk_empty hdir', ih hwalk]
  | case5 links here names children rights hdir hsearch hempty hlong ih =>
    obtain ⟨olds, hdir'⟩ := h.directory_old hdir
    rw [walk_dot hdir' (eq_true_of_ne_false hsearch), ih hwalk]
  | case6 links here names children rights hdir hsearch hempty hlong hdot ih =>
    obtain ⟨olds, hdir'⟩ := h.directory_old hdir
    rw [walk_dots hdir' (eq_true_of_ne_false hsearch), ih hwalk]
  | case8 links here name names children rights hdir hempty hsearch hlong hdot hdots target hlook
      hlast =>
    exact absurd hlast.2 (by simp)
  | case10 here name names children rights hdir hempty hsearch hlong hdot hdots target hlook hlast
      links ih =>
    obtain ⟨olds, hdir'⟩ := h.directory_old hdir
    obtain ⟨x, hx, hkind⟩ := h.new _ _ ((at?_concat hdir name).trans hlook) (fun e => by cases e)
    obtain rfl := eq_link_of_kind hkind
    rw [walk_link hdir' (eq_true_of_ne_false hsearch) ⟨hempty, hdot, hdots, hlong⟩
      ((at?_concat hdir' name).symm.trans hx) hlast]
    exact ih hwalk
  | case11 links here name names children rights hdir hempty hsearch hlong hdot hdots child hchild
      hlook ih =>
    obtain ⟨olds, hdir'⟩ := h.directory_old hdir
    have hat : m.at? (here ++ [name]) = some child := (at?_concat hdir name).trans hlook
    have hfile : child.kind ≠ .file := by
      -- a file is entered only at the end, and the end is a directory
      intro hkind
      have hother : ∀ children rights, child ≠ .directory children rights := by
        rintro children rights rfl
        cases hkind
      cases names with
      | nil =>
        rw [walk_nil] at hwalk
        cases hwalk
        exact hother _ _ (Option.some.inj (hat.symm.trans hplace))
      | cons next names =>
        rw [walk_of_other hat hother] at hwalk
        cases hwalk
    obtain ⟨x, hx, hkind⟩ := h.new _ _ hat hfile
    have hlink : ∀ target, x ≠ .link target := by
      rintro target rfl
      exact hchild target (eq_link_of_kind hkind.symm)
    rw [walk_enter hdir' (eq_true_of_ne_false hsearch) ⟨hempty, hdot, hdots, hlong⟩
      ((at?_concat hdir' name).symm.trans hx) hlink]
    exact ih hwalk
  | _ => cases hwalk

end

/-- Above a directory stands a directory. -/
theorem exists_directory_dropLast {n : Node} {place : Place} {children : List (Bytes × Node)}
    {rights : Rights} (h : n.at? place = some (.directory children rights)) :
    ∃ others given, n.at? place.dropLast = some (.directory others given) := by
  rcases List.eq_nil_or_concat place with rfl | ⟨above, name, rfl⟩
  · exact ⟨children, rights, h⟩
  · rw [List.concat_eq_append] at h ⊢
    rw [List.dropLast_concat]
    rw [at?_append, Option.bind_eq_some_iff] at h
    obtain ⟨x, hx, hbelow⟩ := h
    cases x with
    | directory others given => exact ⟨others, given, hx⟩
    | _ => cases hbelow

/-- What is put under a name in a directory stands there. -/
theorem at?_put_concat {n : Node} {place : Place} {children : List (Bytes × Node)} {rights : Rights}
    (h : n.at? place = some (.directory children rights)) (child : Node) (name : Bytes) :
    (n.put child (place ++ [name])).at? (place ++ [name]) = some child := by
  cases hold : n.at? (place ++ [name]) with
  | some old =>
    have hput := at?_put_of_some hold child []
    rwa [List.append_nil, at?_nil] at hput
  | none =>
    induction place generalizing n with
    | nil =>
      cases h
      rw [List.nil_append, at?_directory_cons] at hold
      have hlook : children.lookup name = none := by
        cases hlook : children.lookup name with
        | none => rfl
        | some c =>
          rw [hlook, Option.bind_some, at?_nil] at hold
          cases hold
      unfold put
      dsimp only [List.nil_append]
      rw [hlook]
      exact at?_putChild_self name child children rights []
    | cons first place ih =>
      rw [at?_cons, Option.bind_eq_some_iff] at h
      obtain ⟨c, hc, hplace⟩ := h
      cases n with
      | directory siblings given =>
        have hlook : siblings.lookup first = some c := hc
        rw [List.cons_append, at?_directory_cons, hlook] at hold
        unfold put
        dsimp only [List.cons_append]
        rw [hlook, at?_putChild_self]
        exact ih hplace hold
      | _ => cases hc

end Node

/-- Names go on from a directory, which may be searched unless the next name is empty. -/
theorem directory_of_walk {top : Node} {followLast : Bool} {links : Nat} {here : Place}
    {name : Bytes} {rest : List Bytes} {result : Place × Nat}
    (h : walk top followLast links here (name :: rest) = .ok result) :
    ∃ children rights, top.at? here = some (.directory children rights)
      ∧ (name ≠ [] → rights.search = true) := by
  cases hnode : top.at? here with
  | none =>
    rw [walk_of_none hnode] at h
    cases h
  | some n =>
    by_cases hdir : ∃ children rights, n = .directory children rights
    · obtain ⟨children, rights, rfl⟩ := hdir
      refine ⟨children, rights, rfl, fun hname => ?_⟩
      by_cases hsearch : rights.search = true
      · exact hsearch
      · rw [walk_closed hnode (eq_false_of_ne_true hsearch) hname] at h
        cases h
    · rw [walk_of_other hnode fun children rights e => hdir ⟨children, rights, e⟩] at h
      cases h

theorem bind_eq_ok_iff {ε α β : Type} {x : Except ε α} {f : α → Except ε β} {b : β} :
    x.bind f = .ok b ↔ ∃ a, x = .ok a ∧ f a = .ok b := by
  cases x <;> simp [Except.bind]

/-- The names of a path are not empty. -/
theorem ne_nil_of_mem_names {p : Path} {name : Bytes} (h : name ∈ p.names) : name ≠ [] := by
  simpa using (List.mem_filter.1 h).2

namespace FileSystem

/-! ## 2. Last names -/

/-- **Where the last name of a path stands**: the names before it lead to a directory that may be
    searched. -/
theorem entryOf_eq_ok_iff {fs : FileSystem} {links left : Nat} {start place : Place} {p : Path}
    {name : Bytes} :
    fs.entryOf links start p = .ok ⟨place, some name, left⟩
      ↔ p.names.getLast? = some name
        ∧ walk fs.top true links start p.names.dropLast = .ok (place, left)
        ∧ ∃ children rights, fs.top.at? place = some (.directory children rights)
          ∧ rights.search = true := by
  unfold entryOf
  cases hlast : p.names.getLast? with
  | none => simp
  | some last =>
    dsimp only
    rw [walk_append _ _ _ _ _ _ (List.cons_ne_nil _ _)]
    cases hwalk : walk fs.top true links start p.names.dropLast with
    | error e => simp [Except.bind]
    | ok r =>
      obtain ⟨dir, n⟩ := r
      dsimp only [Except.bind]
      constructor
      · intro h
        split at h
        · cases h
        · next hdot =>
          obtain ⟨children, rights, hdir, hsearch⟩ := directory_of_walk hdot
          have hsearch := hsearch (by decide)
          rw [walk_dot hdir hsearch, walk_nil] at hdot
          cases hdot
          cases h
          exact ⟨rfl, rfl, children, rights, hdir, hsearch⟩
      · rintro ⟨hname, hstands, children, rights, hdir, hsearch⟩
        cases hname
        cases hstands
        rw [walk_dot hdir hsearch, walk_nil]

/-! ## 3. Opening files -/

/-- The file system with an empty file at a place where there was nothing. -/
def orFile (fs : FileSystem) (now : Time.Instant) (place : Place) : FileSystem :=
  match fs.top.at? place with
  | some _ => fs
  | none => fs.putAt place (.file (.bytes []) now)

/-- What stands at a place may be written to and is no directory; or nothing stands there, and a new
    name may be put into its directory. -/
def mayAppend (fs : FileSystem) (place : Place) : Bool :=
  match fs.top.at? place with
  | some (.file _ _ rights) => rights.write
  | some .pipe => true
  | some _ => false
  | none => fs.mayAdd place.dropLast

/-- **What it is to open a file for appending**: the path leads to the file in the file system
    then. -/
structure OpensFile (fs : FileSystem) (now : Time.Instant) (p : Path) (opened : FileSystem)
    (place : Place) : Prop where
  allowed : fs.mayAppend place = true
  made : opened = fs.orFile now place
  leads : opened.resolve true p = .ok place

theorem hasMoreFiles_orFile (fs : FileSystem) (now : Time.Instant) (place : Place) :
    fs.top.HasMoreFiles (fs.orFile now place).top := by
  unfold orFile
  split
  · exact Node.hasMoreFiles_refl _
  · next h => exact Node.hasMoreFiles_put h _ _ _

/-- A place that may be appended to has a file then, or a pipe. -/
theorem exists_at?_orFile {fs : FileSystem} {place : Place} (h : fs.mayAppend place = true)
    (now : Time.Instant) :
    ∃ n, (fs.orFile now place).top.at? place = some n ∧ (n.kind = .file ∨ n.kind = .pipe) := by
  unfold mayAppend at h
  unfold orFile
  cases hnode : fs.top.at? place with
  | some n =>
    rw [hnode] at h
    refine ⟨n, hnode, ?_⟩
    cases n with
    | file content modified rights => exact Or.inl rfl
    | pipe => exact Or.inr rfl
    | _ => cases h
  | none =>
    rw [hnode] at h
    have hne : place ≠ [] := by
      rintro rfl
      rw [Node.at?_nil] at hnode
      cases hnode
    dsimp only at h
    unfold mayAdd at h
    split at h
    · next children rights hdir =>
      have hput := Node.at?_put_concat hdir (.file (.bytes []) now) (place.getLast hne)
      rw [List.dropLast_concat_getLast] at hput
      exact ⟨_, hput, Or.inl rfl⟩
    · cases h

section

variable {fs : FileSystem} {now : Time.Instant} {links left : Nat} {start dir : Place} {p : Path}
  {name : Bytes}

/-- What may be opened under a name that stands for no link. -/
theorem openAt_of_entry (hentry : fs.entryOf links start p = .ok ⟨dir, some name, left⟩)
    (hname : IsLookedUp name) (hslash : p.getLast? ≠ some Path.slash)
    (hallowed : fs.mayAppend (dir ++ [name]) = true) :
    fs.openAt now links start p = .ok (fs.orFile now (dir ++ [name]), dir ++ [name]) := by
  have hdots : ¬(isDots name = true ∨ p.getLast? = some Path.slash) :=
    not_or.2 ⟨by simp [isDots, hname.ne_dot, hname.ne_dots], hslash⟩
  unfold mayAppend at hallowed
  unfold orFile
  rw [openAt]
  split
  · next h => cases hentry.symm.trans h
  · next h => cases hentry.symm.trans h
  · next h =>
    cases hentry.symm.trans h
    rw [if_neg hdots, if_neg hname.short]
    dsimp only
    cases hnode : fs.top.at? (dir ++ [name]) with
    | none =>
      rw [hnode, List.dropLast_concat] at hallowed
      dsimp only at hallowed ⊢
      rw [if_pos hallowed]
    | some n =>
      rw [hnode] at hallowed
      cases n with
      | file content modified rights =>
        dsimp only at hallowed ⊢
        rw [if_pos hallowed]
      | pipe => rfl
      | _ => cases hallowed

/-- A name that stands for a link is opened where the link leads. -/
theorem openAt_of_link (hentry : fs.entryOf links start p = .ok ⟨dir, some name, left + 1⟩)
    (hname : IsLookedUp name) (hslash : p.getLast? ≠ some Path.slash) {target : Path}
    (hlink : fs.top.at? (dir ++ [name]) = some (.link target)) :
    fs.openAt now links start p
      = fs.openAt now left (if Path.isAbsolute target then [] else dir) target := by
  have hdots : ¬(isDots name = true ∨ p.getLast? = some Path.slash) :=
    not_or.2 ⟨by simp [isDots, hname.ne_dot, hname.ne_dots], hslash⟩
  rw [openAt]
  split
  · next h => cases hentry.symm.trans h
  · next h => cases hentry.symm.trans h
  · next h =>
    cases hentry.symm.trans h
    rw [if_neg hdots, if_neg hname.short]
    dsimp only
    rw [hlink]
    dsimp only
    rw [if_neg (Nat.succ_ne_zero left), Nat.add_sub_cancel]

/-- **What opening comes to**, one name further: what stands there is opened or made, or a link there
    is followed. -/
theorem openAt_cases {opened : FileSystem} {place : Place}
    (h : fs.openAt now links start p = .ok (opened, place)) :
    ∃ dir name left, fs.entryOf links start p = .ok ⟨dir, some name, left⟩ ∧ IsLookedUp name
      ∧ p.getLast? ≠ some Path.slash
      ∧ (place = dir ++ [name] ∧ fs.mayAppend place = true ∧ opened = fs.orFile now place
        ∨ ∃ target, fs.top.at? (dir ++ [name]) = some (.link target)
          ∧ ∃ n, left = n + 1 ∧ fs.openAt now n (if Path.isAbsolute target then [] else dir) target
            = .ok (opened, place)) := by
  rw [openAt] at h
  split at h
  · cases h
  · cases h
  · next dir name left hentry =>
    split at h
    · cases h
    · next hdots =>
      obtain ⟨hdots, hslash⟩ := not_or.1 hdots
      split at h
      · cases h
      · next hshort =>
        have hmem : name ∈ p.names := List.mem_of_getLast? (entryOf_eq_ok_iff.1 hentry).1
        have hname : IsLookedUp name :=
          ⟨ne_nil_of_mem_names hmem, fun e => hdots (by rw [e]; rfl),
            fun e => hdots (by rw [e]; rfl), hshort⟩
        refine ⟨dir, name, left, hentry, hname, hslash, ?_⟩
        dsimp only at h
        unfold mayAppend orFile
        split at h
        · next hnode =>
          split at h
          · next hadd =>
            cases h
            refine Or.inl ⟨rfl, ?_, ?_⟩
            · rw [hnode, List.dropLast_concat]
              exact hadd
            · rw [hnode]
          · cases h
        · next target hlink =>
          split at h
          · cases h
          · next hleft =>
            obtain ⟨n, rfl⟩ := Nat.exists_eq_succ_of_ne_zero hleft
            exact Or.inr ⟨target, hlink, n, rfl, h⟩
        · cases h
        · next content modified rights hnode =>
          split at h
          · next hwrite =>
            cases h
            refine Or.inl ⟨rfl, ?_, ?_⟩
            · rw [hnode]
              exact hwrite
            · rw [hnode]
          · cases h
        · next hnode =>
          cases h
          refine Or.inl ⟨rfl, ?_, ?_⟩
          · rw [hnode]
          · rw [hnode]

end

/-- What is opened is where the path leads then. -/
theorem walk_of_openAt {fs opened : FileSystem} {now : Time.Instant} {links : Nat}
    {start place : Place} {p : Path} (h : fs.openAt now links start p = .ok (opened, place)) :
    fs.mayAppend place = true ∧ opened = fs.orFile now place
      ∧ ∃ left, walk opened.top true links start (followNames p) = .ok (place, left) := by
  induction links using Nat.strongRecOn generalizing start p with
  | _ links ih =>
    obtain ⟨dir, name, left, hentry, hname, hslash, hcases⟩ := openAt_cases h
    obtain ⟨hlast, hwalk, children, rights, hdir, hsearch⟩ := entryOf_eq_ok_iff.1 hentry
    have hnames : followNames p = p.names.dropLast ++ [name] := by
      obtain ⟨front, hfront⟩ := List.getLast?_eq_some_iff.1 hlast
      unfold followNames
      rw [if_neg hslash, List.append_nil, hfront, List.dropLast_concat]
    have hstep : ∀ (more : FileSystem), fs.top.HasMoreFiles more.top →
        walk more.top true links start (followNames p)
          = walk more.top true left dir [name] := by
      intro more hmore
      rw [hnames, walk_append _ _ _ _ _ _ (List.cons_ne_nil _ _), hmore.walk_eq_ok hwalk]
      rfl
    rcases hcases with ⟨rfl, hallowed, rfl⟩ | ⟨target, hlink, n, rfl, hopen⟩
    · refine ⟨hallowed, rfl, left, ?_⟩
      have hmore := fs.hasMoreFiles_orFile now (dir ++ [name])
      obtain ⟨node, hnode, hkind⟩ := exists_at?_orFile hallowed now
      obtain ⟨others, hothers⟩ := hmore.directory hdir
      have hlook := (Node.at?_concat hothers name).symm.trans hnode
      have hnolink : ∀ target, node ≠ .link target := by
        rintro target rfl
        rcases hkind with hkind | hkind <;> cases hkind
      rw [hstep _ hmore, walk_enter hothers hsearch hname hlook hnolink, walk_nil]
    · have hle : n + 1 ≤ links := links_entryOf_le hentry
      obtain ⟨hallowed, hmade, left, hrest⟩ := ih n (by omega) hopen
      refine ⟨hallowed, hmade, left, ?_⟩
      have hmore := fs.hasMoreFiles_orFile now place
      rw [← hmade] at hmore
      obtain ⟨others, hothers⟩ := hmore.directory hdir
      obtain ⟨node, hnode, hkind⟩ := hmore.old _ _ hlink
      obtain rfl := Node.eq_link_of_kind hkind
      have hlook := (Node.at?_concat hothers name).symm.trans hnode
      rw [hstep _ hmore, walk_link hothers hsearch hname hlook (by simp), List.append_nil, hrest]

/-- Where a path leads to a place that may be appended to, its last name stands in a directory, for
    what is at the place or for a link that leads there. -/
theorem exists_entryOf_of_walk {fs : FileSystem} {now : Time.Instant} {links left : Nat}
    {start place : Place} {p : Path}
    (hstart : p ≠ [] ∨ ∃ children rights, fs.top.at? start = some (.directory children rights))
    (hallowed : fs.mayAppend place = true)
    (hwalk : walk (fs.orFile now place).top true links start (followNames p) = .ok (place, left)) :
    ∃ dir name n, fs.entryOf links start p = .ok ⟨dir, some name, n⟩ ∧ IsLookedUp name
      ∧ p.getLast? ≠ some Path.slash
      ∧ (place = dir ++ [name] ∨ ∃ target, fs.top.at? (dir ++ [name]) = some (.link target)
        ∧ ∃ m, n = m + 1 ∧ walk (fs.orFile now place).top true m
          (if Path.isAbsolute target then [] else dir) (followNames target) = .ok (place, left)) := by
  have hmore := fs.hasMoreFiles_orFile now place
  have hnodir : ∀ children rights,
      (fs.orFile now place).top.at? place ≠ some (.directory children rights) := by
    obtain ⟨node, hnode, hkind⟩ := exists_at?_orFile hallowed now
    intro children rights h
    cases hnode.symm.trans h
    rcases hkind with hkind | hkind <;> cases hkind
  generalize (fs.orFile now place).top = top at *
  have hslash : p.getLast? ≠ some Path.slash := by
    intro hslash
    unfold followNames at hwalk
    rw [if_pos hslash, walk_append _ _ _ _ _ _ (List.cons_ne_nil _ _)] at hwalk
    obtain ⟨r, -, hlast⟩ := bind_eq_ok_iff.1 hwalk
    obtain ⟨children, rights, hdir, -⟩ := directory_of_walk hlast
    rw [walk_empty hdir, walk_nil] at hlast
    cases hlast
    exact hnodir _ _ hdir
  have hnames : p.names ≠ [] := by
    intro hnames
    by_cases hp : p = []
    · obtain ⟨children, rights, hdir⟩ := hstart.resolve_left (not_not_intro hp)
      obtain ⟨others, hothers⟩ := hmore.directory hdir
      unfold followNames at hwalk
      rw [if_neg hslash, hnames, List.append_nil, walk_nil] at hwalk
      cases hwalk
      exact hnodir _ _ hothers
    · exact hslash (Path.getLast?_of_names_eq_nil hnames hp)
  obtain ⟨front, name, hfront⟩ := (List.eq_nil_or_concat p.names).resolve_left hnames
  rw [List.concat_eq_append] at hfront
  unfold followNames at hwalk
  rw [if_neg hslash, List.append_nil, hfront, walk_append _ _ _ _ _ _ (List.cons_ne_nil _ _)]
    at hwalk
  obtain ⟨⟨dir, n⟩, hdirwalk, hlast⟩ := bind_eq_ok_iff.1 hwalk
  obtain ⟨others, rights, hothers, hallows⟩ := directory_of_walk hlast
  have hempty : name ≠ [] := ne_nil_of_mem_names (p := p) (by rw [hfront]; simp)
  have hsearch := hallows hempty
  have hname : IsLookedUp name := by
    refine ⟨hempty, ?_, ?_, ?_⟩
    · rintro rfl
      rw [walk_dot hothers hsearch, walk_nil] at hlast
      cases hlast
      exact hnodir _ _ hothers
    · rintro rfl
      rw [walk_dots hothers hsearch, walk_nil] at hlast
      cases hlast
      obtain ⟨above, given, habove⟩ := Node.exists_directory_dropLast hothers
      exact hnodir _ _ habove
    · intro hlong
      rw [walk_long hothers hsearch hlong] at hlast
      cases hlast
  obtain ⟨children, hchildren⟩ := hmore.directory_old hothers
  have hentry : fs.entryOf links start p = .ok ⟨dir, some name, n⟩ := by
    refine entryOf_eq_ok_iff.2 ⟨?_, ?_, children, rights, hchildren, hsearch⟩
    · rw [hfront, List.getLast?_concat]
    · rw [hfront, List.dropLast_concat]
      exact hmore.walk_eq_ok_old hdirwalk hothers
  refine ⟨dir, name, n, hentry, hname, hslash, ?_⟩
  cases hlook : others.lookup name with
  | none =>
    rw [walk_missing hothers hsearch hname hlook] at hlast
    cases hlast
  | some child =>
    by_cases hlink : ∃ target, child = .link target
    · obtain ⟨target, rfl⟩ := hlink
      cases n with
      | zero =>
        rw [walk_link_zero hothers hsearch hname hlook (by simp)] at hlast
        cases hlast
      | succ m =>
        rw [walk_link hothers hsearch hname hlook (by simp), List.append_nil] at hlast
        obtain ⟨x, hx, hkind⟩ := hmore.new _ _ ((Node.at?_concat hothers name).trans hlook)
          (fun e => by cases e)
        obtain rfl := Node.eq_link_of_kind hkind
        exact Or.inr ⟨target, hx, m, rfl, hlast⟩
    · rw [walk_enter hothers hsearch hname hlook fun target e => hlink ⟨target, e⟩, walk_nil]
        at hlast
      cases hlast
      exact Or.inl rfl

/-- **What a path leads to then is what is opened.** -/
theorem openAt_of_walk {fs : FileSystem} {now : Time.Instant} {links left : Nat}
    {start place : Place} {p : Path}
    (hstart : p ≠ [] ∨ ∃ children rights, fs.top.at? start = some (.directory children rights))
    (hallowed : fs.mayAppend place = true)
    (hwalk : walk (fs.orFile now place).top true links start (followNames p) = .ok (place, left)) :
    fs.openAt now links start p = .ok (fs.orFile now place, place) := by
  induction links using Nat.strongRecOn generalizing start p with
  | _ links ih =>
    obtain ⟨dir, name, n, hentry, hname, hslash, rfl | ⟨target, hlink, m, rfl, hrest⟩⟩ :=
      exists_entryOf_of_walk hstart hallowed hwalk
    · exact openAt_of_entry hentry hname hslash hallowed
    · have hle : m + 1 ≤ links := links_entryOf_le hentry
      obtain ⟨-, -, children, rights, hdir, -⟩ := entryOf_eq_ok_iff.1 hentry
      rw [openAt_of_link hentry hname hslash hlink]
      refine ih m (by omega) ?_ hrest
      by_cases hempty : target = []
      · subst hempty
        exact Or.inr ⟨children, rights, hdir⟩
      · exact Or.inl hempty

/-- **The place that a path leads to.** -/
theorem resolve_eq_ok_iff {fs : FileSystem} {followLast : Bool} {p : Path} {place : Place} :
    fs.resolve followLast p = .ok place
      ↔ pathFault p = none ∧ ∃ left,
        walk fs.top followLast maxLinks (fs.start p) (followNames p) = .ok (place, left) := by
  unfold resolve
  cases pathFault p with
  | some e => simp
  | none =>
    cases walk fs.top followLast maxLinks (fs.start p) (followNames p) with
    | error e => simp [Except.map]
    | ok r => simp [Except.map, Prod.ext_iff]

theorem start_orFile (fs : FileSystem) (now : Time.Instant) (place : Place) (p : Path) :
    (fs.orFile now place).start p = fs.start p := by
  unfold orFile
  split <;> rfl

/-- **When a file is opened for appending**, and which. -/
theorem openForAppend_eq_ok_iff {fs opened : FileSystem} {now : Time.Instant} {p : Path}
    {place : Place} :
    fs.openForAppend now p = .ok (opened, place) ↔ fs.OpensFile now p opened place := by
  unfold openForAppend
  constructor
  · intro h
    split at h
    · cases h
    · next hfault =>
      obtain ⟨hallowed, hmade, left, hwalk⟩ := walk_of_openAt h
      refine ⟨hallowed, hmade, resolve_eq_ok_iff.2 ⟨hfault, left, ?_⟩⟩
      rwa [hmade, start_orFile, ← hmade]
  · rintro ⟨hallowed, rfl, hleads⟩
    obtain ⟨hfault, left, hwalk⟩ := resolve_eq_ok_iff.1 hleads
    rw [start_orFile] at hwalk
    rw [hfault]
    have hne : p ≠ [] := (pathFault_eq_none_iff.1 hfault).2.1
    exact openAt_of_walk (Or.inl hne) hallowed hwalk

/-! ## 4. Making directories -/

/-- **A path along which a directory can be made**: the names before its last lead to a directory
    that may be searched and gets new names, and nothing stands there under the last. -/
structure AddsDirectory (fs : FileSystem) (p : Path) (place : Place) (name : Bytes) : Prop where
  taken : pathFault p = none
  entry : ∃ left, fs.entryOf maxLinks (fs.start p) p = .ok ⟨place, some name, left⟩
  lookedUp : IsLookedUp name
  free : fs.top.at? (place ++ [name]) = none
  allowed : fs.mayAdd place = true

/-- The file system with the directory of a path: it is there, or it is made in the one above it. -/
inductive EndsInDirectory (fs : FileSystem) (p : Path) : FileSystem → Prop where
  | there : fs.isDirectory p = true → EndsInDirectory fs p fs
  | new {place : Place} {name : Bytes} : fs.AddsDirectory p place name →
      EndsInDirectory fs p (fs.putAt (place ++ [name]) (.directory []))

/-- A directory above the last name of a path is missing. -/
structure LacksAbove (fs : FileSystem) (p : Path) : Prop where
  taken : pathFault p = none
  missing : fs.entryOf maxLinks (fs.start p) p = .error .noEntry

/-- **What it is to make a directory and those above it.** The parent is seen to only if something
    above the directory is missing. -/
inductive MakesDirectories (fs : FileSystem) : Path → FileSystem → Prop where
  | nothing : MakesDirectories fs [] fs
  | last {p : Path} {made : FileSystem} : fs.EndsInDirectory p made → MakesDirectories fs p made
  | above {p parent : Path} {between made : FileSystem} : fs.LacksAbove p →
      p.parent? = some parent → MakesDirectories fs parent between →
      between.EndsInDirectory p made → MakesDirectories fs p made

theorem isDots_of_isLookedUp {name : Bytes} (h : IsLookedUp name) : isDots name = false := by
  simp [isDots, h.ne_dot, h.ne_dots]

theorem makeDirectory_eq_ok_iff {fs made : FileSystem} {p : Path} :
    fs.makeDirectory p = .ok made
      ↔ ∃ place name, fs.AddsDirectory p place name
        ∧ made = fs.putAt (place ++ [name]) (.directory []) := by
  unfold makeDirectory
  constructor
  · intro h
    split at h
    · cases h
    · next htaken =>
      split at h
      · cases h
      · cases h
      · next place name left hentry =>
        split at h
        · cases h
        · next hdots =>
          split at h
          · cases h
          · next hshort =>
            split at h
            · cases h
            · next hfree =>
              split at h
              · next hallowed =>
                cases h
                have hmem : name ∈ p.names := List.mem_of_getLast? (entryOf_eq_ok_iff.1 hentry).1
                exact ⟨place, name, ⟨htaken, ⟨left, hentry⟩,
                  ⟨ne_nil_of_mem_names hmem, fun e => hdots (by rw [e]; rfl),
                    fun e => hdots (by rw [e]; rfl), hshort⟩, hfree, hallowed⟩, rfl⟩
              · cases h
  · rintro ⟨place, name, h, rfl⟩
    obtain ⟨left, hentry⟩ := h.entry
    rw [h.taken, hentry]
    dsimp only
    rw [isDots_of_isLookedUp h.lookedUp, if_neg Bool.false_ne_true, if_neg h.lookedUp.short, h.free]
    dsimp only
    rw [if_pos h.allowed]

/-- What is missing above a path is why its directory cannot be made. -/
theorem makeDirectory_eq_noEntry_iff {fs : FileSystem} {p : Path} (hne : p ≠ []) :
    fs.makeDirectory p = .error .noEntry ↔ fs.LacksAbove p := by
  unfold makeDirectory
  constructor
  · intro h
    split at h
    · next e hfault =>
      cases h
      unfold pathFault at hfault
      rw [if_neg hne] at hfault
      split at hfault
      · cases hfault
      · split at hfault <;> cases hfault
    · next htaken =>
      split at h
      · next hentry =>
        cases h
        exact ⟨htaken, hentry⟩
      · cases h
      · split at h
        · cases h
        · split at h
          · cases h
          · split at h
            · cases h
            · split at h <;> cases h
  · intro h
    rw [h.taken, h.missing]

/-- **Where there is a directory, none can be made.** -/
theorem makeDirectory_of_isDirectory {fs : FileSystem} {p : Path} (h : fs.isDirectory p = true) :
    fs.makeDirectory p = .error .exists_ := by
  obtain ⟨children, rights, hnode⟩ := isDirectory_iff_node.1 h
  obtain ⟨htaken, place, left, hwalk, -⟩ := node_eq_ok_iff.1 (toOption_eq_some_iff.1 hnode)
  unfold makeDirectory
  rw [htaken]
  dsimp only
  rcases List.eq_nil_or_concat p.names with hnames | ⟨front, name, hnames⟩
  · unfold entryOf
    rw [hnames]
    rfl
  · rw [List.concat_eq_append] at hnames
    have hempty : name ≠ [] := ne_nil_of_mem_names (p := p) (by rw [hnames]; simp)
    unfold followNames at hwalk
    rw [hnames, List.append_assoc, walk_append _ _ _ _ _ _ (by simp)] at hwalk
    obtain ⟨⟨dir, n⟩, hfront, hlast⟩ := bind_eq_ok_iff.1 hwalk
    obtain ⟨others, given, hothers, hallows⟩ := directory_of_walk hlast
    have hsearch := hallows hempty
    have hentry : fs.entryOf maxLinks (fs.start p) p = .ok ⟨dir, some name, n⟩ :=
      entryOf_eq_ok_iff.2 ⟨by rw [hnames, List.getLast?_concat],
        by rw [hnames, List.dropLast_concat]; exact hfront, others, given, hothers, hsearch⟩
    rw [hentry]
    dsimp only
    split
    · rfl
    · next hdots =>
      have hshort : ¬maxName < name.length := by
        intro hlong
        rw [List.singleton_append, walk_long hothers hsearch hlong] at hlast
        cases hlast
      have hname : IsLookedUp name :=
        ⟨hempty, fun e => hdots (by rw [e]; rfl), fun e => hdots (by rw [e]; rfl), hshort⟩
      rw [if_neg hshort, Node.at?_concat hothers name]
      cases hlook : others.lookup name with
      | none =>
        rw [List.singleton_append, walk_missing hothers hsearch hname hlook] at hlast
        cases hlast
      | some child =>
        rw [Node.child?, hlook]

/-- One directory is made, or one that is there will do. -/
theorem orThere_eq_ok_iff {fs made : FileSystem} {p : Path} :
    fs.orThere p (fs.makeDirectory p) = (made, .ok ()) ↔ fs.EndsInDirectory p made := by
  unfold orThere
  constructor
  · intro h
    split at h
    · next fs' hnew =>
      cases h
      obtain ⟨place, name, hadds, rfl⟩ := makeDirectory_eq_ok_iff.1 hnew
      exact .new hadds
    · split at h
      · next hthere =>
        cases h
        exact .there hthere
      · cases h
  · intro h
    cases h with
    | there hthere =>
      rw [makeDirectory_of_isDirectory hthere]
      dsimp only
      rw [if_pos hthere]
    | new hadds => rw [makeDirectory_eq_ok_iff.2 ⟨_, _, hadds, rfl⟩]

/-- Where a directory ends up, its path was not missing anything. -/
theorem EndsInDirectory.ne_nil {fs made : FileSystem} {p : Path} (h : fs.EndsInDirectory p made) :
    p ≠ [] := by
  rintro rfl
  cases h with
  | there hthere =>
    obtain ⟨children, rights, hnode⟩ := isDirectory_iff_node.1 hthere
    exact (pathFault_eq_none_iff.1 (node_eq_ok_iff.1 (toOption_eq_some_iff.1 hnode)).1).2.1 rfl
  | new hadds => exact (pathFault_eq_none_iff.1 hadds.taken).2.1 rfl

theorem EndsInDirectory.makeDirectory_ne {fs made : FileSystem} {p : Path}
    (h : fs.EndsInDirectory p made) : fs.makeDirectory p ≠ .error .noEntry := by
  cases h with
  | there hthere =>
    rw [makeDirectory_of_isDirectory hthere]
    simp [IoError.exists_, IoError.noEntry]
  | new hadds =>
    rw [makeDirectory_eq_ok_iff.2 ⟨_, _, hadds, rfl⟩]
    simp

theorem makesDirectories_of_makeDirectoriesTo {depth : Nat} {fs made : FileSystem} {p : Path}
    (h : fs.makeDirectoriesTo depth p = (made, .ok ())) : MakesDirectories fs p made := by
  induction depth generalizing fs made p with
  | zero => cases h
  | succ depth ih =>
    unfold makeDirectoriesTo at h
    split at h
    · next hnil =>
      cases h
      rw [hnil]
      exact .nothing
    · next hne =>
      split at h
      · next hmissing =>
        have hlacks := (makeDirectory_eq_noEntry_iff hne).1 hmissing
        split at h
        · cases h
        · next parent hparent =>
          split at h
          · next between hbetween =>
            exact .above hlacks hparent (ih hbetween) (orThere_eq_ok_iff.1 h)
          · next hfailed =>
            exact absurd h (hfailed made)
      · exact .last (orThere_eq_ok_iff.1 h)

theorem MakesDirectories.makeDirectoriesTo_eq {fs made : FileSystem} {p : Path}
    (h : MakesDirectories fs p made) {depth : Nat} (hdepth : p.length < depth) :
    fs.makeDirectoriesTo depth p = (made, .ok ()) := by
  induction h generalizing depth with
  | nothing =>
    obtain ⟨depth, rfl⟩ := Nat.exists_eq_succ_of_ne_zero (Nat.ne_zero_of_lt hdepth)
    rfl
  | last hends =>
    obtain ⟨depth, rfl⟩ := Nat.exists_eq_succ_of_ne_zero (Nat.ne_zero_of_lt hdepth)
    unfold makeDirectoriesTo
    rw [if_neg hends.ne_nil]
    split
    · next hmissing => exact absurd hmissing hends.makeDirectory_ne
    · exact orThere_eq_ok_iff.2 hends
  | above hlacks hparent _ hends ih =>
    obtain ⟨depth, rfl⟩ := Nat.exists_eq_succ_of_ne_zero (Nat.ne_zero_of_lt hdepth)
    have hshort := Path.length_parent?_lt hparent
    unfold makeDirectoriesTo
    rw [if_neg hends.ne_nil, (makeDirectory_eq_noEntry_iff hends.ne_nil).2 hlacks]
    dsimp only [IoError.noEntry]
    rw [hparent]
    dsimp only
    rw [ih (by omega)]
    exact orThere_eq_ok_iff.2 hends

/-- **When directories are made**, and what the file system is then. -/
theorem makeDirectories_eq_ok_iff {fs made : FileSystem} {p : Path} :
    fs.makeDirectories p = (made, .ok ()) ↔ MakesDirectories fs p made :=
  ⟨makesDirectories_of_makeDirectoriesTo,
    fun h => h.makeDirectoriesTo_eq (Nat.lt_succ_self p.length)⟩

end FileSystem

end Docroot.Files

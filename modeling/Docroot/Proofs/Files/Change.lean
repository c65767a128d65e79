import Docroot.Files.Change
import Docroot.Proofs.Files.Tree

/-!
# What changes keep

What a file system holds is seen place by place (`Node.held`): the octets of the file there, and
none where there is no file with contents. A change is described by what it does to that view.

* `held_put_of_none`: a node put where there was nothing, which holds nothing itself, changes
  nothing that is held. So making directories (`held_makeDirectories`) and opening a log
  (`held_openForAppend`) keep the contents of every file, whether they succeed or not.
* `held_append`: putting octets at the end of a file changes that file alone, and only at its end.
-/

namespace Docroot.Files

/-! ## 1. What a tree holds -/

namespace Node

/-- The octets at a place: those of the file there, none where there is no file with contents. -/
def held (n : Node) (place : Place) : Bytes :=
  match n.at? place with
  | some (.file (.bytes b) _ _) => b
  | _ => []

theorem held_of_none {n : Node} {place : Place} (h : n.at? place = none) : n.held place = [] := by
  unfold held
  rw [h]

theorem held_of_directory {n : Node} {place : Place} {children : List (Bytes × Node)}
    {rights : Rights} (h : n.at? place = some (.directory children rights)) :
    n.held place = [] := by
  unfold held
  rw [h]

theorem held_congr {m n : Node} {p q : Place} (h : m.at? p = n.at? q) : m.held p = n.held q := by
  unfold held
  rw [h]

/-- A file has nothing below it. -/
theorem at?_file_cons (content : Content) (modified : Time.Instant) (rights : Rights)
    (name : Bytes) (rest : Place) : (file content modified rights).at? (name :: rest) = none := by
  rw [at?_cons]
  rfl

theorem held_file (b : Bytes) (modified : Time.Instant) (rights : Rights) (place : Place) :
    (file (.bytes b) modified rights).held place = if place = [] then b else [] := by
  cases place with
  | nil =>
    unfold held
    rw [at?_nil]
    rfl
  | cons name rest => exact held_of_none (at?_file_cons _ _ _ name rest)

theorem held_emptyDirectory (place : Place) : (directory []).held place = [] := by
  cases place with
  | nil => exact held_of_directory (at?_nil _)
  | cons name rest =>
    refine held_of_none ?_
    rw [at?_cons]
    rfl

/-! ## 2. Putting a node into a tree -/

theorem lookup_putChild (name other : Bytes) (child : Node) (children : List (Bytes × Node)) :
    (putChild name child children).lookup other
      = if other = name then some child else children.lookup other := by
  induction children with
  | nil =>
    by_cases h : other = name
    · simp [putChild, h]
    · have hbeq : (other == name) = false := beq_eq_false_iff_ne.2 h
      simp [putChild, List.lookup_cons, h, hbeq]
  | cons entry rest ih =>
    obtain ⟨n, c⟩ := entry
    unfold putChild
    by_cases hn : n = name
    · subst hn
      by_cases h : other = n
      · simp [h]
      · have hbeq : (other == n) = false := beq_eq_false_iff_ne.2 h
        simp [List.lookup_cons, h, hbeq]
    · rw [if_neg hn, List.lookup_cons, List.lookup_cons, ih]
      by_cases h : other = n
      · simp [h, hn]
      · have hbeq : (other == n) = false := beq_eq_false_iff_ne.2 h
        simp [hbeq]

theorem at?_directory_cons (children : List (Bytes × Node)) (rights : Rights) (name : Bytes)
    (rest : Place) :
    (directory children rights).at? (name :: rest)
      = (children.lookup name).bind (·.at? rest) := by
  rw [at?_cons]
  rfl

/-- Below a directory, a node put under another name does not show. -/
theorem at?_putChild_of_ne {name other : Bytes} (h : other ≠ name) (child : Node)
    (children : List (Bytes × Node)) (rights : Rights) (rest : Place) :
    (directory (putChild name child children) rights).at? (other :: rest)
      = (directory children rights).at? (other :: rest) := by
  rw [at?_directory_cons, at?_directory_cons, lookup_putChild, if_neg h]

theorem at?_putChild_self (name : Bytes) (child : Node) (children : List (Bytes × Node))
    (rights : Rights) (rest : Place) :
    (directory (putChild name child children) rights).at? (name :: rest) = child.at? rest := by
  rw [at?_directory_cons, lookup_putChild, if_pos rfl]
  rfl

/-- The names are the same when one of them gets another node. -/
theorem map_fst_putChild {name : Bytes} {old : Node} {children : List (Bytes × Node)}
    (h : children.lookup name = some old) (child : Node) :
    (putChild name child children).map (·.1) = children.map (·.1) := by
  induction children with
  | nil => cases h
  | cons entry rest ih =>
    obtain ⟨n, c⟩ := entry
    unfold putChild
    by_cases hn : n = name
    · subst hn
      rw [if_pos rfl]
      rfl
    · rw [List.lookup_cons, beq_eq_false_iff_ne.2 (Ne.symm hn)] at h
      rw [if_neg hn, List.map_cons, List.map_cons, ih h]

/-- **Beside the place where a node is put, nothing changes** but the lists of the directories that
    lead there; if something was there, not even the names in them. -/
theorem at?_put_beside {child : Node} {place q : Place} (h : ¬place <+: q) (n : Node) :
    (n.put child place).at? q = n.at? q
      ∨ ∃ before after rights, n.at? q = some (.directory before rights)
        ∧ (n.put child place).at? q = some (.directory after rights)
        ∧ (n.at? place ≠ none → after.map (·.1) = before.map (·.1)) := by
  induction place generalizing n q with
  | nil => exact absurd List.nil_prefix h
  | cons name rest ih =>
    cases n with
    | directory children rights =>
      unfold put
      dsimp only
      cases q with
      | nil =>
        cases hlook : children.lookup name with
        | some c => exact Or.inr ⟨_, _, _, at?_nil _, at?_nil _, fun _ => map_fst_putChild hlook _⟩
        | none =>
          have hnone : (directory children rights).at? (name :: rest) = none := by
            rw [at?_directory_cons, hlook]
            rfl
          dsimp only
          split
          · exact Or.inr ⟨_, _, _, at?_nil _, at?_nil _, fun hsome => absurd hnone hsome⟩
          · exact Or.inl rfl
      | cons other q =>
        by_cases hother : other = name
        · subst hother
          have hrest : ¬rest <+: q := fun e => h (List.cons_prefix_cons.2 ⟨rfl, e⟩)
          cases hlook : children.lookup other with
          | some c =>
            rw [at?_putChild_self, at?_directory_cons, at?_directory_cons, hlook]
            exact ih hrest c
          | none =>
            dsimp only
            split
            · next hnil => exact absurd (hnil ▸ List.nil_prefix) hrest
            · exact Or.inl rfl
        · cases hlook : children.lookup name with
          | some c => exact Or.inl (at?_putChild_of_ne hother _ _ _ _)
          | none =>
            dsimp only
            split
            · exact Or.inl (at?_putChild_of_ne hother _ _ _ _)
            · exact Or.inl rfl
    | _ => exact Or.inl rfl

/-- What is held beside that place stays. -/
theorem held_put_beside {child : Node} {place q : Place} (h : ¬place <+: q) (n : Node) :
    (n.put child place).held q = n.held q := by
  rcases at?_put_beside h n with hsame | ⟨before, after, rights, hbefore, hafter, -⟩
  · exact held_congr hsame
  · rw [held_of_directory hbefore, held_of_directory hafter]

/-- What is put in place of something stands there. -/
theorem at?_put_of_some {n old : Node} {place : Place} (h : n.at? place = some old) (child : Node)
    (rest : Place) : (n.put child place).at? (place ++ rest) = child.at? rest := by
  induction place generalizing n with
  | nil => rfl
  | cons name place ih =>
    rw [at?_cons, Option.bind_eq_some_iff] at h
    obtain ⟨c, hc, hold⟩ := h
    cases n with
    | directory children rights =>
      have hlook : children.lookup name = some c := hc
      unfold put
      dsimp only
      rw [hlook, List.cons_append, at?_putChild_self]
      exact ih hold
    | _ => cases hc

/-- What is put where there was nothing stands there, or nowhere. -/
theorem at?_put_of_none {n : Node} {place : Place} (h : n.at? place = none) (child : Node)
    (rest : Place) :
    (n.put child place).at? (place ++ rest) = child.at? rest
      ∨ (n.put child place).at? (place ++ rest) = none := by
  induction place generalizing n with
  | nil => exact Or.inl rfl
  | cons name place ih =>
    cases n with
    | directory children rights =>
      unfold put
      dsimp only
      rw [List.cons_append]
      cases hlook : children.lookup name with
      | some c =>
        have hc : c.at? place = none := by
          rw [at?_directory_cons, hlook] at h
          exact h
        dsimp only
        rw [at?_putChild_self]
        exact ih hc
      | none =>
        dsimp only
        split
        · next hnil =>
          subst hnil
          rw [at?_putChild_self]
          exact Or.inl rfl
        · refine Or.inr ?_
          rw [at?_directory_cons, hlook]
          rfl
    | _ => exact Or.inr (by rw [List.cons_append, at?_cons]; rfl)

/-- **A node that holds nothing, put where there was nothing, changes nothing that is held.** -/
theorem held_put_of_none {n child : Node} {place : Place} (h : n.at? place = none)
    (hchild : ∀ rest, child.held rest = []) (q : Place) :
    (n.put child place).held q = n.held q := by
  by_cases hprefix : place <+: q
  · obtain ⟨rest, rfl⟩ := hprefix
    have hold : n.at? (place ++ rest) = none := by
      rw [at?_append, h]
      rfl
    rw [held_of_none hold]
    rcases at?_put_of_none h child rest with hnew | hnew
    · rw [held_congr hnew]
      exact hchild rest
    · exact held_of_none hnew
  · exact held_put_beside hprefix n

/-- A file put in place of a file changes what is held there, and nothing else. -/
theorem held_put_file {n : Node} {place : Place} {content : Content} {before after : Time.Instant}
    {rights given : Rights} (h : n.at? place = some (.file content before rights)) (b : Bytes)
    (q : Place) :
    (n.put (.file (.bytes b) after given) place).held q = if q = place then b else n.held q := by
  by_cases hprefix : place <+: q
  · obtain ⟨rest, rfl⟩ := hprefix
    rw [held_congr (at?_put_of_some h _ rest), held_file]
    cases rest with
    | nil => rw [List.append_nil, if_pos rfl, if_pos rfl]
    | cons name rest =>
      have hold : n.at? (place ++ name :: rest) = none := by
        rw [at?_append, h, Option.bind_some, at?_file_cons]
      rw [if_neg (List.cons_ne_nil _ _), if_neg (by simp), held_of_none hold]
  · have hne : q ≠ place := fun e => hprefix (e ▸ List.prefix_refl _)
    rw [held_put_beside hprefix, if_neg hne]

end Node

namespace FileSystem

/-! ## 3. Directories and opening -/

theorem held_makeDirectory {fs made : FileSystem} {p : Path} (h : fs.makeDirectory p = .ok made)
    (q : Place) : made.top.held q = fs.top.held q := by
  unfold makeDirectory at h
  split at h
  · cases h
  · split at h
    · cases h
    · cases h
    · split at h
      · cases h
      · split at h
        · cases h
        · split at h
          · cases h
          · next hnone =>
            split at h
            · cases h
              exact Node.held_put_of_none hnone Node.held_emptyDirectory q
            · cases h

theorem held_orThere (fs : FileSystem) (p : Path) {made : Except IoError FileSystem}
    (h : ∀ fs', made = .ok fs' → ∀ q, fs'.top.held q = fs.top.held q) (q : Place) :
    (fs.orThere p made).1.top.held q = fs.top.held q := by
  cases made with
  | error e => rfl
  | ok fs' => exact h fs' rfl q

theorem held_makeDirectoriesTo (depth : Nat) (fs : FileSystem) (p : Path) (q : Place) :
    (fs.makeDirectoriesTo depth p).1.top.held q = fs.top.held q := by
  induction depth generalizing fs p with
  | zero => rfl
  | succ depth ih =>
    have hmade : ∀ fs : FileSystem, ∀ q,
        (fs.orThere p (fs.makeDirectory p)).1.top.held q = fs.top.held q :=
      fun fs => fs.held_orThere p fun _ => held_makeDirectory
    unfold makeDirectoriesTo
    split
    · rfl
    · split
      · cases p.parent? with
        | none => rfl
        | some parent =>
          have hparent := ih fs parent
          dsimp only
          split
          · next fs' hdone =>
            rw [hdone] at hparent
            exact (hmade fs' q).trans hparent
          · exact hparent
      · exact hmade fs q

/-- **Making directories keeps the contents of every file.** -/
theorem held_makeDirectories (fs : FileSystem) (p : Path) (q : Place) :
    (fs.makeDirectories p).1.top.held q = fs.top.held q :=
  held_makeDirectoriesTo _ fs p q

theorem held_openAt {now : Time.Instant} {links : Nat} {start : Place} {p : Path}
    {fs opened : FileSystem} {place : Place} (h : fs.openAt now links start p = .ok (opened, place))
    (q : Place) : opened.top.held q = fs.top.held q := by
  induction links using Nat.strongRecOn generalizing start p with
  | _ links ih =>
    rw [openAt] at h
    split at h
    · cases h
    · cases h
    · next here name left hentry =>
      split at h
      · cases h
      · split at h
        · cases h
        · dsimp only at h
          split at h
          · next hnone =>
            split at h
            · cases h
              refine Node.held_put_of_none hnone (fun rest => ?_) q
              rw [Node.held_file]
              split <;> rfl
            · cases h
          · next target hlink =>
            split at h
            · cases h
            · next hleft =>
              have hle : left ≤ links := links_entryOf_le hentry
              exact ih (left - 1) (by omega) h
          · cases h
          · split at h
            · cases h
              rfl
            · cases h
          · cases h
            rfl

/-- **Opening a file for appending keeps the contents of every file.** -/
theorem held_openForAppend {fs opened : FileSystem} {now : Time.Instant} {p : Path} {place : Place}
    (h : fs.openForAppend now p = .ok (opened, place)) (q : Place) :
    opened.top.held q = fs.top.held q := by
  unfold openForAppend at h
  split at h
  · cases h
  · exact held_openAt h q

/-! ## 4. Appending -/

/-- There is a file with contents at the place, so that octets can be put at its end. -/
def Takes (fs : FileSystem) (place : Place) : Prop :=
  ∃ b modified rights, fs.top.at? place = some (.file (.bytes b) modified rights)

instance (fs : FileSystem) (place : Place) : Decidable (fs.Takes place) :=
  match h : fs.top.at? place with
  | some (.file (.bytes b) modified rights) => isTrue ⟨b, modified, rights, h⟩
  | some (.file .unreadable _ _) => isFalse fun ⟨_, _, _, e⟩ => by rw [h] at e; cases e
  | some (.directory _ _) => isFalse fun ⟨_, _, _, e⟩ => by rw [h] at e; cases e
  | some (.link _) => isFalse fun ⟨_, _, _, e⟩ => by rw [h] at e; cases e
  | some .pipe => isFalse fun ⟨_, _, _, e⟩ => by rw [h] at e; cases e
  | none => isFalse fun ⟨_, _, _, e⟩ => by rw [h] at e; cases e

/-- **Octets are put at the end of one file**, and nothing else changes. -/
theorem held_append {fs : FileSystem} {place : Place} (h : fs.Takes place) (data : Bytes)
    (q : Place) :
    (fs.append place data).top.held q = fs.top.held q ++ if place = q then data else [] := by
  obtain ⟨b, modified, rights, hfile⟩ := h
  have hb : fs.top.held place = b := by
    unfold Node.held
    rw [hfile]
  unfold append
  rw [hfile]
  dsimp only [putAt]
  rw [Node.held_put_file hfile]
  by_cases hq : place = q
  · subst hq
    rw [if_pos rfl, if_pos rfl, hb]
  · rw [if_neg (Ne.symm hq), if_neg hq, List.append_nil]

end FileSystem

end Docroot.Files

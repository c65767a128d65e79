import Docroot.Proofs.Settings.Convert

/-!
# Layers are put together setting by setting

The keys of a layer are read as paths, so what a key does is not seen from its name alone: it may
lead to a section, to a setting, below one, or elsewhere. An entry that is a section without tables,
or a setting, or leads elsewhere (`Fits`) does one of three things (`Sets`): it sets the settings
that it has in its section, or the one, or none. So a layer gives each setting its last value and
leaves the others (`look_applyLayer`).

The layers are put together first, and the result is put over the defaults as a layer of its own.
That its keys are read again does no harm, since what the layers come to has its names in small
letters and once each (`Regular`), and so is a layer that gives each setting what it has
(`Regular.given_entries`).
-/

namespace Docroot.Settings

/-! ## 1. What leads elsewhere -/

/-- The path asks for an element of an array. -/
def Route.HasElement : Route → Prop
  | .name _ => False
  | .child parent _ => parent.HasElement
  | .element .. => True

instance decidableHasElement : (r : Route) → Decidable r.HasElement
  | .name _ => isFalse id
  | .child parent _ => decidableHasElement parent
  | .element .. => isTrue trivial

/-- **A path that leads elsewhere**: neither to a section nor to a setting, nor below one. -/
inductive Route.IsApart : Route → Prop where
  | name {n : Text} (h : ∀ s : Setting, Text.lower n ≠ s.group) : IsApart (.name n)
  | beside {group n : Text} (h : ∀ s : Setting, s.group = group → Text.lower n ≠ s.name) :
      IsApart (.child (.name group) n)
  | child {parent : Route} {n : Text} (h : IsApart parent) : IsApart (.child parent n)
  | element {parent : Route} {index : Int} (h : IsApart parent) : IsApart (.element parent index)

/-- The values that an entry of a layer gives a setting, in order: those of its name in the table
    of its section, or the value of the path that leads to it. -/
def Setting.valuesIn (s : Setting) (e : Text × Value) : List Value :=
  match Route.ofKey e.1 with
  | .name n => if Text.lower n = s.group then valuesFor s.name e.2.entries else []
  | .child (.name group) n => if group = s.group ∧ Text.lower n = s.name then [e.2] else []
  | _ => []

/-- **The value that a layer gives a setting**: the last one. -/
def Setting.given (s : Setting) (layer : List (Text × Value)) : Option Value :=
  (layer.flatMap s.valuesIn).getLast?

/-- An entry that is a section, with no tables for settings in it, or a setting that is no table, or
    leads elsewhere. -/
inductive FitsAsRead : Text × Value → Prop where
  | group (s : Setting) {key n : Text} {o : Option Text} {es : List (Text × Value)}
      (read : Route.ofKey key = .name n) (isGroup : Text.lower n = s.group)
      (plain : ∀ t : Setting, t.group = s.group → ∀ v ∈ valuesFor t.name es, ¬v.IsTable) :
      FitsAsRead (key, .table o es)
  | setting (s : Setting) {key n : Text} {v : Value}
      (read : Route.ofKey key = .child (.name s.group) n) (isName : Text.lower n = s.name)
      (plain : ¬v.IsTable) : FitsAsRead (key, v)
  | apart {key : Text} {v : Value} (h : (Route.ofKey key).IsApart) : FitsAsRead (key, v)

/-- **An entry that fits**: a section, a setting, or what leads elsewhere. Keys are read twice, the
    second time in small letters, so this must hold of both. -/
structure Fits (e : Text × Value) : Prop where
  once : FitsAsRead e
  again : (Route.ofKey e.1).IsApart → (Route.ofKey (Text.lower e.1)).IsApart

/-! ## 2. Single steps -/

section

variable {root root' : Value}

theorem Setting.isPlain_name (s : Setting) : ∀ c ∈ s.name, Text.IsPlain c := by
  have hall : s.name.all (fun c => decide (Text.IsPlain c)) = true := by
    cases s <;> decide
  exact fun c hc => of_decide_eq_true (List.all_eq_true.1 hall c hc)

theorem Setting.lower_name (s : Setting) : Text.lower s.name = s.name := by
  cases s <;> decide

theorem Setting.isWord_group (s : Setting) : IsWord s.group := by
  cases s <;> exact ⟨by decide, by decide, by decide⟩

/-- **Sections are tables**, as far as they are there. -/
structure Sound (root : Value) : Prop where
  table : root.IsTable
  sections : ∀ (s : Setting) v, root.get? s.group = some v → v.IsTable

theorem look_put (s : Setting) (root : Value) (n : Text) (w : Value) :
    s.look (root.put n w) = if n = s.group then w.get? s.name else s.look root := by
  unfold Setting.look
  rw [get?_put]
  split <;> rfl

theorem Sound.put (h : Sound root) {n : Text} {w : Value}
    (hw : ∀ s : Setting, n = s.group → w.IsTable) : Sound (root.put n w) where
  table := isTable_put _ _ _
  sections := by
    intro s v hv
    rw [get?_put] at hv
    split at hv
    · next heq =>
      cases hv
      exact hw s heq
    · exact h.sections s v hv

/-- A value with nothing in it stands for a section that is not there. -/
theorem get?_getD (s : Setting) (root : Value) {nothing : Value} (h : nothing.entries = []) :
    ((root.get? s.group).getD nothing).get? s.name = s.look root := by
  unfold Setting.look
  cases root.get? s.group with
  | some v => rfl
  | none =>
    unfold Value.get?
    dsimp only [Option.getD]
    rw [h]
    rfl

/-- **What setting a path that leads elsewhere comes to**: another name gets a value, or another
    name in a section. The names are those of a path, or the key in small letters. -/
inductive Beside (key : Text) (root : Value) : Value → Prop where
  | name {n w} (isWord : IsWord n ∨ n = Text.lower key) (h : ∀ s : Setting, n ≠ s.group) :
      Beside key root (root.put n w)
  | within {group n w} (isWord : IsWord group) (written : ∃ t, n = Text.lower t)
      (h : ∀ s : Setting, s.group = group → n ≠ s.name) :
      Beside key root (root.put group (((root.get? group).getD .nothing).put n w))

theorem Setting.ne_group_of_lower {n : Text} (h : ∀ s : Setting, Text.lower n ≠ s.group) :
    ∀ s : Setting, n ≠ s.group := by
  rintro s rfl
  exact h s s.isWord_group.small

theorem Setting.ne_name_of_lower {group n : Text}
    (h : ∀ s : Setting, s.group = group → Text.lower n ≠ s.name) :
    ∀ s : Setting, s.group = group → n ≠ s.name := by
  rintro s hs rfl
  exact h s hs s.lower_name

theorem Route.IsApart.change {r : Route} (h : r.IsApart) (hsmall : r.IsSmall) (key : Text)
    {f : Value → Except BadIndex Value} (hroot : root.IsTable)
    (hchange : r.change f root = .ok root') : Beside key root root' := by
  obtain ⟨o, es, rfl⟩ := hroot
  induction h generalizing f with
  | @name n h =>
    obtain ⟨w, -, hput⟩ := bind_eq_ok_iff.1 hchange
    cases hput
    exact .name (Or.inl hsmall) (Setting.ne_group_of_lower h)
  | @beside group n h =>
    obtain ⟨v, hv, hput⟩ := bind_eq_ok_iff.1 hchange
    cases hput
    obtain ⟨w, -, hput⟩ := bind_eq_ok_iff.1 hv
    cases hput
    exact .within hsmall.1 ⟨n, hsmall.2.small.symm⟩ (Setting.ne_name_of_lower h)
  | child h ih => exact ih hsmall.1 hchange
  | element h ih => exact ih hsmall hchange

theorem Route.IsApart.set {key : Text} (h : (Route.ofKey key).IsApart) {v : Value}
    (hroot : root.IsTable) (hset : (Route.ofKey key).set v root = .ok root') :
    Beside key root root' := by
  have hsmall := Route.isSmall_ofKey key
  cases hroute : Route.ofKey key with
  | name n =>
    rw [hroute] at h hset hsmall
    have hname : IsWord (Text.lower n) ∨ Text.lower n = Text.lower key := by
      rcases hsmall with hkey | hword
      · cases hkey
        exact Or.inr rfl
      · rw [hword.small]
        exact Or.inl hword
    cases h with
    | name h =>
      cases hset
      rw [setName_eq_put]
      exact .name hname h
  | child parent n =>
    rw [hroute] at h hset hsmall
    rcases hsmall with hkey | hsmall
    · cases hkey
    · cases h with
      | @beside group _ h =>
        obtain ⟨o, es, rfl⟩ := hroot
        obtain ⟨w, hw, hput⟩ := bind_eq_ok_iff.1 hset
        cases hput
        cases hw
        rw [setName_eq_put]
        exact .within hsmall.1 ⟨n, rfl⟩ h
      | child h => exact h.change hsmall.1 key hroot hset
  | element parent index =>
    rw [hroute] at h hset hsmall
    rcases hsmall with hkey | hsmall
    · cases hkey
    · have hchange : (Route.element parent index).change (fun _ => .ok v) root = .ok root' := hset
      exact h.change hsmall key hroot hchange

/-- What leads elsewhere leaves the settings as they are. -/
theorem Beside.sound {key : Text} (h : Beside key root root') (hroot : Sound root) :
    Sound root' ∧ ∀ s : Setting, s.look root' = s.look root := by
  cases h with
  | @name n w isWord h =>
    refine ⟨hroot.put fun s heq => absurd heq (h s), fun s => ?_⟩
    rw [look_put, if_neg (h s)]
  | @within group n w isWord written h =>
    refine ⟨hroot.put fun s heq => isTable_put _ _ _, fun s => ?_⟩
    rw [look_put]
    split
    · next heq =>
      subst heq
      rw [get?_put, if_neg (h s rfl)]
      exact get?_getD s root rfl
    · rfl

theorem Route.IsApart.valuesIn {e : Text × Value} (h : (Route.ofKey e.1).IsApart) (s : Setting) :
    s.valuesIn e = [] := by
  unfold Setting.valuesIn
  cases hroute : Route.ofKey e.1 with
  | name n =>
    rw [hroute] at h
    cases h with
    | name h => exact if_neg (h s)
  | child parent n =>
    rw [hroute] at h
    cases parent with
    | name group =>
      refine if_neg ?_
      rintro ⟨rfl, hname⟩
      cases h with
      | beside h => exact h s rfl hname
      | child h =>
        cases h with
        | name h => exact h s s.isWord_group.small
    | _ => rfl
  | element parent index => rfl

theorem valuesIn_group {s : Setting} {key n : Text} (read : Route.ofKey key = .name n)
    (isGroup : Text.lower n = s.group) (o : Option Text) (es : List (Text × Value)) (t : Setting) :
    t.valuesIn (key, .table o es) = if s.group = t.group then valuesFor t.name es else [] := by
  unfold Setting.valuesIn
  rw [read, ← isGroup]
  rfl

theorem valuesIn_setting {s : Setting} {key n : Text}
    (read : Route.ofKey key = .child (.name s.group) n) (isName : Text.lower n = s.name) (v : Value)
    (t : Setting) :
    t.valuesIn (key, v) = if s.group = t.group ∧ s.name = t.name then [v] else [] := by
  unfold Setting.valuesIn
  rw [read, ← isName]

/-- The values that an entry gives a setting are no tables. -/
theorem FitsAsRead.not_isTable {e : Text × Value} (h : FitsAsRead e) {s : Setting} {v : Value}
    (hv : v ∈ s.valuesIn e) : ¬v.IsTable := by
  cases h with
  | @group t key n o es read isGroup plain =>
    rw [valuesIn_group read isGroup] at hv
    split at hv
    · next heq => exact plain s heq.symm v hv
    · cases hv
  | @setting t key n w read isName plain =>
    rw [valuesIn_setting read isName] at hv
    split at hv
    · rw [List.mem_singleton.1 hv]
      exact plain
    · cases hv
  | @apart key w h =>
    rw [Route.IsApart.valuesIn (e := (key, w)) h s] at hv
    cases hv

/-- **What a step can do**: it sets the settings of a section, or one setting, or leads elsewhere. -/
inductive Sets (e : Text × Value) (root : Value) : Value → Prop where
  | group (s : Setting) {es : List (Text × Value)}
      (values : ∀ t : Setting, t.valuesIn e = if s.group = t.group then valuesFor t.name es else [])
      (plain : ∀ t : Setting, t.group = s.group → ∀ v ∈ valuesFor t.name es, ¬v.IsTable) :
      Sets e root (root.put s.group (setAll ((root.get? s.group).getD .emptyTable) es))
  | setting (s : Setting) (values : ∀ t : Setting, t.valuesIn e
        = if s.group = t.group ∧ s.name = t.name then [e.2] else []) :
      Sets e root (root.put s.group (((root.get? s.group).getD .nothing).put s.name e.2))
  | apart {root' : Value} (isApart : (Route.ofKey e.1).IsApart) (beside : Beside e.1 root root') :
      Sets e root root'

theorem FitsAsRead.set {e : Text × Value} (h : FitsAsRead e) (hroot : root.IsTable)
    (hset : (Route.ofKey e.1).set e.2 root = .ok root') : Sets e root root' := by
  cases h with
  | @group s key n o es read isGroup plain =>
    dsimp only at hset
    rw [read] at hset
    cases hset
    rw [setName_eq_put, isGroup]
    exact .group s (valuesIn_group read isGroup o es) plain
  | @setting s key n v read isName plain =>
    dsimp only at hset
    rw [read] at hset
    obtain ⟨o, es, rfl⟩ := hroot
    obtain ⟨w, hw, hput⟩ := bind_eq_ok_iff.1 hset
    cases hput
    cases hw
    rw [setName_eq_put, isName, over_of_not_isTable plain]
    exact .setting s (valuesIn_setting read isName v)
  | apart h => exact .apart h (h.set hroot hset)

/-- **A step gives each setting what it has for it**, and leaves the others. -/
theorem Sets.look {e : Text × Value} (h : Sets e root root') (hroot : Sound root) :
    Sound root' ∧ ∀ s : Setting, s.look root' = (s.valuesIn e).getLast?.or (s.look root) := by
  cases h with
  | @group s es values plain =>
    have hold : ((root.get? s.group).getD .emptyTable).IsTable := by
      cases hget : root.get? s.group with
      | none => exact ⟨none, [], rfl⟩
      | some v => exact hroot.sections s v hget
    refine ⟨hroot.put fun t heq => isTable_setAll hold es, fun t => ?_⟩
    rw [look_put, values]
    by_cases hgroup : s.group = t.group
    · rw [if_pos hgroup, if_pos hgroup, get?_setAll t.name (plain t hgroup.symm), hgroup,
        get?_getD t root rfl]
    · rw [if_neg hgroup, if_neg hgroup]
      rfl
  | setting s values =>
    refine ⟨hroot.put fun t heq => isTable_put _ _ _, fun t => ?_⟩
    rw [look_put, values]
    by_cases hgroup : s.group = t.group
    · rw [if_pos hgroup, get?_put, hgroup, get?_getD t root rfl]
      by_cases hname : s.name = t.name
      · rw [if_pos hname, if_pos ⟨rfl, hname⟩]
        rfl
      · rw [if_neg hname, if_neg fun both => hname both.2]
        rfl
    · rw [if_neg hgroup, if_neg fun both => hgroup both.1]
      rfl
  | apart isApart beside =>
    obtain ⟨hsound, hlook⟩ := beside.sound hroot
    refine ⟨hsound, fun s => ?_⟩
    rw [isApart.valuesIn, hlook]
    rfl

/-- **Regular tables**: all names are in small letters and are there once, in the sections too, and
    each is that of a section or leads elsewhere. `asks` is the case in which an element of an array
    is asked for. -/
structure Regular (asks : Prop) (root : Value) : Prop where
  tidy : root.IsTidy
  keys : ∀ n ∈ root.names, (∃ s : Setting, n = s.group)
    ∨ ((Route.ofKey n).IsApart ∧ ((Route.ofKey n).HasElement → asks))
  sections : ∀ (s : Setting) v, root.get? s.group = some v → v.IsTidy

theorem Regular.put {asks : Prop} (h : Regular asks root) {n : Text} {w : Value}
    (written : ∃ t, n = Text.lower t) (hn : (∃ s : Setting, n = s.group)
      ∨ ((Route.ofKey n).IsApart ∧ ((Route.ofKey n).HasElement → asks)))
    (hw : ∀ s : Setting, n = s.group → w.IsTidy) : Regular asks (root.put n w) where
  tidy := by
    obtain ⟨t, rfl⟩ := written
    exact h.tidy.put t w
  keys := by
    intro m hm
    rw [names_put] at hm
    split at hm
    · exact h.keys m hm
    · rcases List.mem_append.1 hm with hold | hnew
      · exact h.keys m hold
      · rw [List.mem_singleton.1 hnew]
        exact hn
  sections := by
    intro s v hv
    rw [get?_put] at hv
    split at hv
    · next heq =>
      cases hv
      exact hw s heq
    · exact h.sections s v hv

theorem Regular.getD {asks : Prop} (h : Regular asks root) (s : Setting) {nothing : Value}
    (hnothing : nothing.names = []) : ((root.get? s.group).getD nothing).IsTidy := by
  cases hget : root.get? s.group with
  | none => exact Value.isTidy_nil hnothing
  | some v => exact h.sections s v hget

/-- A word leads to a section, or elsewhere. -/
theorem IsWord.group_or_apart {n : Text} (h : IsWord n) (asks : Prop) :
    (∃ s : Setting, n = s.group)
      ∨ ((Route.ofKey n).IsApart ∧ ((Route.ofKey n).HasElement → asks)) := by
  by_cases hgroup : ∃ s : Setting, n = s.group
  · exact Or.inl hgroup
  · refine Or.inr ?_
    rw [h.ofKey]
    refine ⟨.name fun s hs => hgroup ⟨s, ?_⟩, fun hnone => hnone.elim⟩
    rw [← h.small, hs]

theorem Sets.regular {asks : Prop} {e : Text × Value} (h : Sets e root root') (hfits : Fits e)
    (hasks : (Route.ofKey (Text.lower e.1)).HasElement → asks) (hroot : Regular asks root) :
    Regular asks root' := by
  cases h with
  | @group s es values plain =>
    exact hroot.put ⟨s.group, s.isWord_group.small.symm⟩ (Or.inl ⟨s, rfl⟩)
      fun t _ => (hroot.getD s rfl).setAll es
  | setting s values =>
    refine hroot.put ⟨s.group, s.isWord_group.small.symm⟩ (Or.inl ⟨s, rfl⟩) fun t _ => ?_
    have hold : ((root.get? s.group).getD .nothing).IsTidy := hroot.getD s rfl
    have hput := hold.put s.name e.2
    rwa [s.lower_name] at hput
  | apart isApart beside =>
    cases beside with
    | @name n w isWord h =>
      rcases isWord with hword | rfl
      · exact hroot.put ⟨n, hword.small.symm⟩ (hword.group_or_apart asks) fun t heq => absurd heq (h t)
      · exact hroot.put ⟨e.1, rfl⟩ (Or.inr ⟨hfits.again isApart, hasks⟩) fun t heq => absurd heq (h t)
    | @within group n w isWord written h =>
      refine hroot.put ⟨group, isWord.small.symm⟩ (isWord.group_or_apart asks) fun t heq => ?_
      subst heq
      obtain ⟨t', rfl⟩ := written
      exact (hroot.getD t rfl).put t' w

end

/-! ## 3. Whole layers -/

section

variable {root root' : Value} {layer : List (Text × Value)}

theorem applyLayer_cons (e : Text × Value) (layer : List (Text × Value)) (root : Value) :
    applyLayer (e :: layer) root = ((Route.ofKey e.1).set e.2 root).bind (applyLayer layer) := by
  unfold applyLayer
  rw [List.foldlM_cons]
  rfl

theorem given_cons (s : Setting) (e : Text × Value) (layer : List (Text × Value)) :
    s.given (e :: layer) = (s.given layer).or (s.valuesIn e).getLast? := by
  unfold Setting.given
  rw [List.flatMap_cons, List.getLast?_append]

/-- **A layer gives each setting its last value**, and leaves the others. -/
theorem look_applyLayer (h : ∀ e ∈ layer, FitsAsRead e) (hroot : Sound root)
    (happly : applyLayer layer root = .ok root') :
    Sound root' ∧ ∀ s : Setting, s.look root' = (s.given layer).or (s.look root) := by
  induction layer generalizing root with
  | nil =>
    cases happly
    exact ⟨hroot, fun s => rfl⟩
  | cons e layer ih =>
    obtain ⟨hfirst, hrest⟩ := List.forall_mem_cons.1 h
    rw [applyLayer_cons] at happly
    obtain ⟨next, hset, happly⟩ := bind_eq_ok_iff.1 happly
    obtain ⟨hsound, hlook⟩ := (hfirst.set hroot.table hset).look hroot
    obtain ⟨hsound', hlook'⟩ := ih hrest hsound happly
    refine ⟨hsound', fun s => ?_⟩
    rw [hlook' s, hlook s, given_cons, Option.or_assoc]

theorem regular_applyLayer {asks : Prop} (h : ∀ e ∈ layer, Fits e)
    (hasks : ∀ e ∈ layer, (Route.ofKey (Text.lower e.1)).HasElement → asks) (hroot : Sound root)
    (hregular : Regular asks root) (happly : applyLayer layer root = .ok root') :
    Regular asks root' := by
  induction layer generalizing root with
  | nil =>
    cases happly
    exact hregular
  | cons e layer ih =>
    obtain ⟨hfirst, hrest⟩ := List.forall_mem_cons.1 h
    obtain ⟨hasksFirst, hasksRest⟩ := List.forall_mem_cons.1 hasks
    rw [applyLayer_cons] at happly
    obtain ⟨next, hset, happly⟩ := bind_eq_ok_iff.1 happly
    have hstep := hfirst.once.set hroot.table hset
    exact ih hrest hasksRest (hstep.look hroot).1 (hstep.regular hfirst hasksFirst hregular) happly

theorem Route.exists_change {r : Route} (h : ¬r.HasElement) {f : Value → Except BadIndex Value}
    (hf : ∀ v, ∃ w, f v = .ok w) (root : Value) : ∃ root', r.change f root = .ok root' := by
  induction r generalizing f with
  | name n =>
    unfold Route.change
    split
    · next o es =>
      obtain ⟨w, hw⟩ := hf (((Value.table o es).get? n).getD .nothing)
      rw [hw]
      exact ⟨_, rfl⟩
    · exact ⟨_, rfl⟩
  | child parent n ih =>
    refine ih h fun v => ?_
    obtain ⟨w, hw⟩ := hf ((v.get? n).getD .nothing)
    rw [hw]
    exact ⟨_, rfl⟩
  | element parent index ih => exact absurd trivial h

/-- Only asking for an element of an array can fail. -/
theorem Route.exists_set {r : Route} (h : ¬r.HasElement) (v root : Value) :
    ∃ root', r.set v root = .ok root' := by
  cases r with
  | name n => exact ⟨_, rfl⟩
  | child parent n =>
    exact Route.exists_change (r := parent) (f := fun old => .ok (setName old n v)) h
      (fun old => ⟨_, rfl⟩) root
  | element parent index => exact absurd trivial h

theorem exists_applyLayer (h : ∀ e ∈ layer, ¬(Route.ofKey e.1).HasElement) (root : Value) :
    ∃ root', applyLayer layer root = .ok root' := by
  induction layer generalizing root with
  | nil => exact ⟨root, rfl⟩
  | cons e layer ih =>
    obtain ⟨hfirst, hrest⟩ := List.forall_mem_cons.1 h
    obtain ⟨next, hset⟩ := Route.exists_set hfirst e.2 root
    rw [applyLayer_cons, hset]
    exact ih hrest next

/-- A layer can be applied, or it asks for an element that cannot be made. -/
theorem applyLayer_ok_or {asks : Prop} (hasks : ∀ e ∈ layer, (Route.ofKey e.1).HasElement → asks)
    (root : Value) : (∃ root', applyLayer layer root = .ok root')
      ∨ (applyLayer layer root = .error .badIndex ∧ asks) := by
  cases happly : applyLayer layer root with
  | ok root' => exact Or.inl ⟨root', rfl⟩
  | error e =>
    refine Or.inr ⟨rfl, Classical.byContradiction fun hno => ?_⟩
    obtain ⟨root', hok⟩ := exists_applyLayer (fun e he hhas => hno (hasks e he hhas)) root
    cases happly.symm.trans hok

/-! ## 4. What the layers come to is a layer -/

theorem Regular.valuesFor_section {asks : Prop} (h : Regular asks root) {s : Setting} {v : Value}
    (hv : root.get? s.group = some v) :
    valuesFor s.name v.entries = (s.look root).toList := by
  unfold Setting.look
  rw [hv]
  exact (h.sections s v hv).valuesFor_eq s.isPlain_name s.lower_name

theorem valuesIn_of_group (s t : Setting) (v : Value) :
    s.valuesIn (t.group, v) = if t.group = s.group then valuesFor s.name v.entries else [] := by
  unfold Setting.valuesIn
  dsimp only
  rw [t.isWord_group.ofKey]
  dsimp only
  rw [t.isWord_group.small]

/-- **A regular table is a layer that gives each setting what it has.** -/
theorem Regular.given_entries {asks : Prop} (h : Regular asks root) (s : Setting) :
    s.given root.entries = s.look root := by
  have hother : ∀ e ∈ root.entries, e.1 ≠ s.group → s.valuesIn e = [] := by
    intro e he hne
    rcases h.keys e.1 (List.mem_map_of_mem he) with ⟨t, ht⟩ | ⟨hapart, -⟩
    · have hvalues := valuesIn_of_group s t e.2
      rw [← ht] at hvalues
      exact hvalues.trans (if_neg hne)
    · exact hapart.valuesIn s
  unfold Setting.given
  rw [flatMap_of_nodup h.tidy.nodup hother]
  cases hget : root.entries.lookup s.group with
  | none =>
    have hnone : root.get? s.group = none := hget
    unfold Setting.look
    rw [hnone]
    rfl
  | some v =>
    dsimp only
    rw [valuesIn_of_group, if_pos rfl, h.valuesFor_section hget]
    cases s.look root <;> rfl

/-- A regular table fits as a layer, if it has no tables for settings. -/
theorem Regular.fitsAsRead {asks : Prop} (h : Regular asks root) (hsound : Sound root)
    (hplain : ∀ (s : Setting) v, s.look root = some v → ¬v.IsTable) :
    ∀ e ∈ root.entries, FitsAsRead e := by
  rintro ⟨n, v⟩ he
  rcases h.keys n (List.mem_map_of_mem he) with ⟨s, rfl⟩ | ⟨hapart, -⟩
  · have hget : root.get? s.group = some v := lookup_of_mem h.tidy.nodup he
    obtain ⟨o, es, rfl⟩ := hsound.sections s v hget
    refine .group s s.isWord_group.ofKey s.isWord_group.small fun t ht w hw => hplain t w ?_
    have hvalues : valuesFor t.name es = (t.look root).toList := h.valuesFor_section (ht ▸ hget)
    rw [hvalues] at hw
    exact Option.mem_toList.1 hw
  · exact .apart hapart

end

/-! ## 5. All layers -/

/-- An element of an array is asked for, by the key as it stands or in small letters. -/
def AsksForElement (key : Text) : Prop :=
  (Route.ofKey key).HasElement ∨ (Route.ofKey (Text.lower key)).HasElement

instance (key : Text) : Decidable (AsksForElement key) :=
  inferInstanceAs (Decidable (_ ∨ _))

theorem mergeLayers_eq (defaults : Value) (file environment : List (Text × Value)) :
    mergeLayers defaults [file, environment]
      = ((applyLayer file .emptyTable).bind (applyLayer environment)).bind fun all =>
        applyLayer all.entries defaults := by
  unfold mergeLayers
  rw [List.foldlM_cons]
  cases applyLayer file .emptyTable with
  | error e => rfl
  | ok first =>
    dsimp only [bind, Except.bind]
    rw [List.foldlM_cons]
    cases applyLayer environment first <;> rfl

/-- **A layer that fits is put over what is there**, unless an element is asked for that cannot be
    made. -/
theorem applyLayer_cases {asks : Prop} {layer : List (Text × Value)} (hfits : ∀ e ∈ layer, Fits e)
    (hasks : ∀ e ∈ layer, AsksForElement e.1 → asks) {root : Value} (hsound : Sound root)
    (hregular : Regular asks root) :
    (∃ root', applyLayer layer root = .ok root' ∧ Sound root' ∧ Regular asks root'
      ∧ ∀ s : Setting, s.look root' = (s.given layer).or (s.look root))
    ∨ (applyLayer layer root = .error .badIndex ∧ asks) := by
  rcases applyLayer_ok_or (fun e he h => hasks e he (Or.inl h)) root with ⟨root', hset⟩ | hfails
  · obtain ⟨hsound', hlook⟩ := look_applyLayer (fun e he => (hfits e he).once) hsound hset
    have hregular' := regular_applyLayer hfits (fun e he h => hasks e he (Or.inr h)) hsound hregular
      hset
    exact Or.inl ⟨root', hset, hsound', hregular', hlook⟩
  · exact Or.inr hfails

section

variable {file environment : List (Text × Value)}

theorem sound_emptyTable : Sound .emptyTable where
  table := ⟨none, [], rfl⟩
  sections := fun _ _ h => by cases h

theorem regular_emptyTable {asks : Prop} : Regular asks .emptyTable where
  tidy := Value.isTidy_nil rfl
  keys := fun _ h => by cases h
  sections := fun _ _ h => by cases h

theorem exists_section_defaultValues (s : Setting) :
    ∃ o es, defaultValues.get? s.group = some (.table o es) := by
  cases s <;> exact ⟨_, _, rfl⟩

theorem sound_defaultValues : Sound defaultValues where
  table := ⟨_, _, rfl⟩
  sections := by
    intro s v hv
    obtain ⟨o, es, hes⟩ := exists_section_defaultValues s
    cases hes.symm.trans hv
    exact ⟨o, es, rfl⟩

/-- The values that layers give settings are no tables. -/
theorem not_isTable_of_given (hfits : ∀ e ∈ file ++ environment, Fits e) {s : Setting} {v : Value}
    (h : (s.given environment).or (s.given file) = some v) : ¬v.IsTable := by
  have hmem : v ∈ (file ++ environment).flatMap s.valuesIn := by
    unfold Setting.given at h
    rw [← List.getLast?_append, ← List.flatMap_append] at h
    exact List.mem_of_getLast? h
  obtain ⟨e, he, hv⟩ := List.mem_flatMap.1 hmem
  exact (hfits e he).once.not_isTable hv

/-- The environment is put over the file. -/
theorem applyBoth_cases {asks : Prop} (hfits : ∀ e ∈ file ++ environment, Fits e)
    (hasks : ∀ e ∈ file ++ environment, AsksForElement e.1 → asks) :
    (∃ all, (applyLayer file .emptyTable).bind (applyLayer environment) = .ok all
      ∧ Sound all ∧ Regular asks all
      ∧ ∀ s : Setting, s.look all = (s.given environment).or (s.given file))
    ∨ ((applyLayer file .emptyTable).bind (applyLayer environment) = .error .badIndex ∧ asks) := by
  obtain ⟨hfile, henvironment⟩ := List.forall_mem_append.1 hfits
  obtain ⟨hasksFile, hasksEnvironment⟩ := List.forall_mem_append.1 hasks
  rcases applyLayer_cases hfile hasksFile sound_emptyTable regular_emptyTable with
    ⟨first, hfirst, hsound, hregular, hlook⟩ | ⟨hfails, hasked⟩
  · rw [hfirst]
    dsimp only [Except.bind]
    rcases applyLayer_cases henvironment hasksEnvironment hsound hregular with
      ⟨all, hall, hsound', hregular', hlook'⟩ | hfails
    · refine Or.inl ⟨all, hall, hsound', hregular', fun s => ?_⟩
      rw [hlook' s, hlook s]
      exact congrArg _ Option.or_none
    · exact Or.inr hfails
  · rw [hfails]
    exact Or.inr ⟨rfl, hasked⟩

/-- **Layers that fit are put together**, unless an element is asked for that cannot be made: each
    setting is that of the environment, or else that of the file, or else the default. -/
theorem look_mergeLayers (hfits : ∀ e ∈ file ++ environment, Fits e) :
    (∃ root, mergeLayers defaultValues [file, environment] = .ok root ∧ Sound root
      ∧ ∀ s : Setting, s.look root
        = ((s.given environment).or (s.given file)).or (s.look defaultValues))
    ∨ (mergeLayers defaultValues [file, environment] = .error .badIndex
      ∧ ∃ e ∈ file ++ environment, AsksForElement e.1) := by
  have hasks : ∀ e ∈ file ++ environment, AsksForElement e.1 →
      ∃ e ∈ file ++ environment, AsksForElement e.1 := fun e he h => ⟨e, he, h⟩
  rw [mergeLayers_eq]
  rcases applyBoth_cases hfits hasks with
    ⟨all, hall, hsound, hregular, hgiven⟩ | ⟨hfails, hasked⟩
  case inr =>
    rw [hfails]
    exact Or.inr ⟨rfl, hasked⟩
  rw [hall]
  dsimp only [Except.bind]
  -- what was put together is itself a layer that fits
  have hentries := hregular.fitsAsRead hsound fun s v hv =>
    not_isTable_of_given hfits ((hgiven s).symm.trans hv)
  have hasksAll : ∀ e ∈ all.entries, (Route.ofKey e.1).HasElement →
      ∃ e ∈ file ++ environment, AsksForElement e.1 := by
    intro e he hhas
    rcases hregular.keys e.1 (List.mem_map_of_mem he) with ⟨s, hs⟩ | ⟨-, hkey⟩
    · rw [hs, s.isWord_group.ofKey] at hhas
      exact hhas.elim
    · exact hkey hhas
  rcases applyLayer_ok_or hasksAll defaultValues with ⟨root, hroot⟩ | hfails
  · obtain ⟨hsound', hlook⟩ := look_applyLayer hentries sound_defaultValues hroot
    refine Or.inl ⟨root, hroot, hsound', fun s => ?_⟩
    rw [hlook s, hregular.given_entries, hgiven]
  · exact Or.inr hfails

end

end Docroot.Settings

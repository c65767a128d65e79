import Docroot.Proofs.Http.Header
import Docroot.Site.Cors

/-!
# Cross-origin headers, once each

Whatever values a section has of the three cross-origin headers, it has one fixed value of each
afterwards, and every other header is as it was (`setsCors_insertCors`); to do it again changes
nothing (`insertCors_insertCors`).

All of this is subject to room: a section that has the most names takes no field at all, not even of
a name that it has (`isSome_insertCors?_iff`).
-/

namespace Docroot.Site

open Docroot.Http
open Docroot.Http.Headers (names values insert names_insert values_insert)

/-! ## 1. One value each -/

/-- The three cross-origin headers, with one value each. -/
structure HasCors (h : Headers) : Prop where
  origin : (values h .allowOrigin).map (·.bytes) = [Utf8.encode "*".toList]
  methods : (values h .allowMethods).map (·.bytes) = [Utf8.encode "GET, POST, OPTIONS".toList]
  headers : (values h .allowHeaders).map (·.bytes) = [Utf8.encode "Content-Type".toList]

/-- The names of the three. -/
def corsNames : List HeaderName := [.allowOrigin, .allowMethods, .allowHeaders]

/-- **One section is the other with the three headers set**: it has them once each, and of every
    other header it has the values that the other has. -/
structure SetsCors (h set : Headers) : Prop where
  cors : HasCors set
  others : ∀ n, n ∉ corsNames → values set n = values h n

/-- The values of a name when the three headers are inserted. -/
theorem values_insertCors (h : Headers) (n : HeaderName) :
    values (insertCors h) n
      = if n = .allowHeaders then [.ofText allowHeaders (by decide)]
        else if n = .allowMethods then [.ofText allowMethods (by decide)]
        else if n = .allowOrigin then [.ofText allowOrigin (by decide)]
        else values h n := by
  unfold insertCors insertFirstTwo
  rw [values_insert, values_insert, values_insert]

theorem values_insertCors_of_notMem {h : Headers} {n : HeaderName} (hn : n ∉ corsNames) :
    values (insertCors h) n = values h n := by
  simp only [corsNames, List.mem_cons, List.not_mem_nil, or_false, not_or] at hn
  obtain ⟨horigin, hmethods, hheaders⟩ := hn
  rw [values_insertCors, if_neg hheaders, if_neg hmethods, if_neg horigin]

/-- **The insertion sets the three headers.** -/
theorem setsCors_insertCors (h : Headers) : SetsCors h (insertCors h) where
  cors := {
    origin := by
      rw [values_insertCors]
      rfl
    methods := by
      rw [values_insertCors]
      rfl
    headers := by
      rw [values_insertCors]
      rfl }
  others _ hn := values_insertCors_of_notMem hn

/-- **To insert them again changes nothing.** -/
theorem insertCors_insertCors (h : Headers) : insertCors (insertCors h) = insertCors h := by
  have horigin := values_insertCors h .allowOrigin
  have hmethods := values_insertCors h .allowMethods
  have hheaders := values_insertCors h .allowHeaders
  generalize insertCors h = set at horigin hmethods hheaders ⊢
  unfold insertCors insertFirstTwo
  dsimp only
  rw [Headers.insert_eq_self horigin, Headers.insert_eq_self hmethods,
    Headers.insert_eq_self hheaders]

/-! ## 2. Room -/

/-- The section with the three headers set, if none of the insertions finds it full. -/
def insertCors? (h : Headers) : Option Headers :=
  if hasRoomForCors h then some (insertCors h) else none

theorem insertCors?_eq_some_iff {h set : Headers} :
    insertCors? h = some set ↔ hasRoomForCors h = true ∧ insertCors h = set := by
  unfold insertCors?
  split <;> simp_all

/-- **There is room exactly if the section, with two of the three names, has not the most names
    yet.** -/
theorem isSome_insertCors?_iff {h : Headers} :
    (insertCors? h).isSome = true ↔
      (Insert.insert .allowMethods (Insert.insert .allowOrigin (names h))).card
        < Headers.maxNames := by
  rw [← names_insert (h := h) (v := .ofText allowOrigin (by decide)),
    ← names_insert (v := .ofText allowMethods (by decide)), ← Headers.isFull_eq_false_iff]
  unfold insertCors? hasRoomForCors insertFirstTwo
  dsimp only
  split <;> simp_all

/-- Room for three more names is room enough, and leaves some. -/
theorem isFull_insertCors_of_card {h : Headers} (hcard : (names h).card + 3 < Headers.maxNames) :
    hasRoomForCors h = true ∧ Headers.isFull (insertCors h) = false := by
  have hone := Headers.card_names_insert_le h .allowOrigin (.ofText allowOrigin (by decide))
  have htwo : (names (insertFirstTwo h)).card ≤ (names h).card + 2 :=
    (Headers.card_names_insert_le _ _ _).trans (Nat.add_le_add_right hone 1)
  have hthree : (names (insertCors h)).card ≤ (names h).card + 3 :=
    (Headers.card_names_insert_le _ _ _).trans (Nat.add_le_add_right htwo 1)
  constructor
  · unfold hasRoomForCors
    rw [Bool.not_eq_true', Headers.isFull_eq_false_iff]
    omega
  · rw [Headers.isFull_eq_false_iff]
    omega

/-! ## 3. A full section -/

/-- A number below 65536 in four hexadecimal digits. -/
def fourDigits (i : Nat) : Text :=
  [Nat.digitChar (i / 4096 % 16), Nat.digitChar (i / 256 % 16), Nat.digitChar (i / 16 % 16),
    Nat.digitChar (i % 16)]

theorem digitChar_legal : ∀ n < 16,
    isTokenChar (Nat.digitChar n) = true ∧ (Nat.digitChar n).toLower = Nat.digitChar n := by
  decide

theorem digitChar_inj : ∀ n < 16, ∀ m < 16, Nat.digitChar n = Nat.digitChar m → n = m := by
  decide

theorem isHeaderName_fourDigits (i : Nat) : isHeaderName (fourDigits i) = true := by
  have hlegal (n : Nat) := digitChar_legal (n % 16) (Nat.mod_lt n (by decide))
  simp [isHeaderName, isToken, fourDigits, hlegal, maxNameLength]

theorem fourDigits_inj {i j : Nat} (hi : i < 65536) (hj : j < 65536)
    (h : fourDigits i = fourDigits j) : i = j := by
  have hsame (n m : Nat) : Nat.digitChar (n % 16) = Nat.digitChar (m % 16) → n % 16 = m % 16 :=
    digitChar_inj _ (Nat.mod_lt n (by decide)) _ (Nat.mod_lt m (by decide))
  simp only [fourDigits, List.cons.injEq, and_true] at h
  obtain ⟨h₁, h₂, h₃, h₄⟩ := h
  have d₁ := hsame _ _ h₁
  have d₂ := hsame _ _ h₂
  have d₃ := hsame _ _ h₃
  have d₄ := hsame _ _ h₄
  omega

/-- A section with the most names, `0000`, `0001` and so on, each with an empty value. -/
def fullSection : Headers :=
  (List.range Headers.maxNames).map fun i =>
    (⟨fourDigits i, isHeaderName_fourDigits i⟩, ⟨[], rfl⟩)

theorem card_names_fullSection : (names fullSection).card = Headers.maxNames := by
  unfold names fullSection
  rw [List.map_map, List.toFinset_card_of_nodup, List.length_map, List.length_range]
  refine List.Nodup.map_on (fun i hi j hj h => ?_) List.nodup_range
  rw [List.mem_range] at hi hj
  unfold Headers.maxNames at hi hj
  exact fourDigits_inj (by omega) (by omega) (congrArg HeaderName.text h)

/-- **A full section takes none of the three headers.** -/
theorem fullSection_takes_no_cors : insertCors? fullSection = none := by
  rw [← Option.not_isSome_iff_eq_none, isSome_insertCors?_iff, Nat.not_lt,
    ← card_names_fullSection]
  exact Finset.card_le_card ((Finset.subset_insert _ _).trans (Finset.subset_insert _ _))

end Docroot.Site

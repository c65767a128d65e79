import Docroot.Text.Utf8

/-!
# Encoded text is read back

The machine of `Docroot.Text.Utf8` is held to the encoder: from between two characters it takes the
octets of a character, yields that character, and stands between two characters again
(`scan_encodeChar`). So a text and any octets behind it are read one after the other
(`scan_encode_append`), which gives both readings of an encoded text at once (`decode?_encode`,
`decodeLossy_encode`).

The octets of ASCII stand for themselves and occur in no other character (`mem_encodeChar`), so
a separator from ASCII cuts octets exactly where it cuts the text. That holds of octets which no
text is encoded as, too: an octet of ASCII ends whatever character has begun before it
(`scan_append_ascii`).
-/

namespace Docroot.Utf8

/-! ## 1. One octet -/

/-- Characters are below U+110000 and not surrogates. -/
theorem toNat_char_bounds (c : Char) :
    c.toNat < 0xD800 ∨ (0xDFFF < c.toNat ∧ c.toNat < 0x110000) := by
  have h := c.valid
  simp only [UInt32.isValidChar, Nat.isValidChar] at h
  exact h

theorem toNat_ofNat_of_lt {n : Nat} (h : n < 256) : (UInt8.ofNat n).toNat = n := by
  rw [UInt8.toNat_ofNat']
  exact Nat.mod_eq_of_lt h

/-- An octet of ASCII is a character. -/
theorem first_ascii {n : Nat} (h : n < 0x80) : first (UInt8.ofNat n) = .done (Char.ofNat n) := by
  unfold first
  rw [toNat_ofNat_of_lt (by omega), if_pos h]

theorem first_two {n : Nat} (h1 : 0xC2 ≤ n) (h2 : n < 0xE0) :
    first (UInt8.ofNat n) = .more ⟨n - 0xC0, 1, 0x80, 0xBF⟩ := by
  unfold first
  rw [toNat_ofNat_of_lt (by omega)]
  rw [if_neg (by omega), if_neg (by omega), if_pos h2]

theorem first_three {n : Nat} (h1 : 0xE0 ≤ n) (h2 : n < 0xF0) :
    first (UInt8.ofNat n) = .more ⟨n - 0xE0, 2, if n = 0xE0 then 0xA0 else 0x80,
      if n = 0xED then 0x9F else 0xBF⟩ := by
  unfold first
  rw [toNat_ofNat_of_lt (by omega)]
  rw [if_neg (by omega), if_neg (by omega), if_neg (by omega), if_pos h2]

theorem first_four {n : Nat} (h1 : 0xF0 ≤ n) (h2 : n < 0xF5) :
    first (UInt8.ofNat n) = .more ⟨n - 0xF0, 3, if n = 0xF0 then 0x90 else 0x80,
      if n = 0xF4 then 0x8F else 0xBF⟩ := by
  unfold first
  rw [toNat_ofNat_of_lt (by omega)]
  rw [if_neg (by omega), if_neg (by omega), if_neg (by omega), if_neg (by omega), if_pos h2]

/-- The last octet that a character owes ends it. -/
theorem next_last (bits : Nat) {m : Nat} (h : m < 64) :
    (Pending.mk bits 1 0x80 0xBF).next (UInt8.ofNat (0x80 + m))
      = .done (Char.ofNat (bits * 64 + m)) := by
  unfold Pending.next
  rw [toNat_ofNat_of_lt (by omega)]
  rw [if_pos (by dsimp only; omega)]
  simp

/-- An octet before the last adds six bits. -/
theorem next_inner (bits : Nat) {owed low high m : Nat} (h0 : 1 < owed) (h1 : low ≤ 0x80 + m)
    (h2 : 0x80 + m ≤ high) (h3 : m < 64) :
    (Pending.mk bits owed low high).next (UInt8.ofNat (0x80 + m))
      = .more ⟨bits * 64 + m, owed - 1, 0x80, 0xBF⟩ := by
  unfold Pending.next
  rw [toNat_ofNat_of_lt (by omega), if_pos ⟨h1, h2⟩]
  have : ¬owed ≤ 1 := by omega
  simp [this]

/-! ## 2. One character -/

/-- **The machine takes the octets of a character and yields the character.** -/
theorem scan_encodeChar (c : Char) (bs : Bytes) :
    scan none (encodeChar c ++ bs) = some c :: scan none bs := by
  have hc := toNat_char_bounds c
  have hofNat : Char.ofNat c.toNat = c := Char.ofNat_toNat c
  unfold encodeChar
  generalize c.toNat = n at *
  dsimp only
  split
  · next h =>
    simp only [List.cons_append, List.nil_append, scan, first_ascii h, hofNat]
  · split
    · next h0 h =>
      have e1 : 0xC0 + n / 64 - 0xC0 = n / 64 := by omega
      have e2 : n / 64 * 64 + n % 64 = n := by omega
      simp only [List.cons_append, List.nil_append, scan,
        first_two (n := 0xC0 + n / 64) (by omega) (by omega), e1,
        next_last (n / 64) (by omega : n % 64 < 64), e2, hofNat]
    · split
      · next h0 h1 h =>
        have e1 : 0xE0 + n / 4096 - 0xE0 = n / 4096 := by omega
        have e2 : (n / 4096 * 64 + n / 64 % 64) * 64 + n % 64 = n := by omega
        -- the second octet is kept from long forms and from surrogates
        have hlow : (if 0xE0 + n / 4096 = 0xE0 then 0xA0 else 0x80) ≤ 0x80 + n / 64 % 64 := by
          split <;> omega
        have hhigh : 0x80 + n / 64 % 64 ≤ (if 0xE0 + n / 4096 = 0xED then 0x9F else 0xBF) := by
          split <;> omega
        simp only [List.cons_append, List.nil_append, scan,
          first_three (n := 0xE0 + n / 4096) (by omega) (by omega), e1,
          next_inner (n / 4096) (by omega : 1 < 2) hlow hhigh (by omega),
          next_last (n / 4096 * 64 + n / 64 % 64) (by omega : n % 64 < 64), e2, hofNat]
      · next h0 h1 h =>
        have e1 : 0xF0 + n / 262144 - 0xF0 = n / 262144 := by omega
        have e2 : ((n / 262144 * 64 + n / 4096 % 64) * 64 + n / 64 % 64) * 64 + n % 64 = n := by
          omega
        -- the second octet is kept from long forms and from what is beyond U+10FFFF
        have hlow : (if 0xF0 + n / 262144 = 0xF0 then 0x90 else 0x80) ≤ 0x80 + n / 4096 % 64 := by
          split <;> omega
        have hhigh : 0x80 + n / 4096 % 64 ≤ (if 0xF0 + n / 262144 = 0xF4 then 0x8F else 0xBF) := by
          split <;> omega
        simp only [List.cons_append, List.nil_append, scan,
          first_four (n := 0xF0 + n / 262144) (by omega) (by omega), e1,
          next_inner (n / 262144) (by omega : 1 < 3) hlow hhigh (by omega),
          next_inner (n / 262144 * 64 + n / 4096 % 64) (by omega : 1 < 3 - 1)
            (by omega : 0x80 ≤ 0x80 + n / 64 % 64) (by omega : 0x80 + n / 64 % 64 ≤ 0xBF)
            (by omega),
          next_last ((n / 262144 * 64 + n / 4096 % 64) * 64 + n / 64 % 64)
            (by omega : n % 64 < 64), e2, hofNat]

/-! ## 3. Texts -/

theorem encode_cons (c : Char) (s : Text) : encode (c :: s) = encodeChar c ++ encode s := by
  simp [encode]

/-- **A text, then octets: the characters of the text, then what the octets read as.** -/
theorem scan_encode_append (s : Text) (bs : Bytes) :
    scan none (encode s ++ bs) = s.map some ++ scan none bs := by
  induction s with
  | nil => rfl
  | cons c s ih => rw [encode_cons, List.append_assoc, scan_encodeChar, ih]; rfl

/-- **The lossy reading loses nothing of an encoded text**, whatever octets stand behind it. -/
theorem decodeLossy_encode_append (s : Text) (bs : Bytes) :
    decodeLossy (encode s ++ bs) = s ++ decodeLossy bs := by
  have hback : (s.map some).map (·.getD replacement) = s := by
    rw [List.map_map]
    exact List.map_id s
  unfold decodeLossy
  rw [scan_encode_append, List.map_append, hback]

theorem decodeLossy_encode (s : Text) : decodeLossy (encode s) = s := by
  have h := decodeLossy_encode_append s []
  rwa [List.append_nil, show decodeLossy [] = [] from rfl, List.append_nil] at h

theorem mapM_id_map_some_append (s : Text) (items : List (Option Char)) :
    (s.map some ++ items).mapM id = (items.mapM id).map (s ++ ·) := by
  induction s with
  | nil => simp
  | cons c s ih =>
    rw [List.map_cons, List.cons_append, List.mapM_cons, ih]
    cases items.mapM id <;> rfl

/-- The strict reading of a text and octets behind it. -/
theorem decode?_encode_append (s : Text) (bs : Bytes) :
    decode? (encode s ++ bs) = (decode? bs).map (s ++ ·) := by
  unfold decode?
  rw [scan_encode_append, mapM_id_map_some_append]

/-- **The strict reading takes every encoded text.** -/
theorem decode?_encode (s : Text) : decode? (encode s) = some s := by
  have h := decode?_encode_append s []
  simpa [decode?, scan] using h

theorem encode_injective {s t : Text} (h : encode s = encode t) : s = t := by
  rw [← decodeLossy_encode s, h, decodeLossy_encode]

/-! ## 4. ASCII -/

theorem encodeChar_ascii {c : Char} (h : c.toNat < 0x80) :
    encodeChar c = [UInt8.ofNat c.toNat] := by
  unfold encodeChar
  rw [if_pos h]

/-- **ASCII text is one octet per character.** -/
theorem encode_ascii {s : Text} (h : ∀ c ∈ s, c.toNat < 0x80) :
    encode s = s.map fun c => UInt8.ofNat c.toNat := by
  induction s with
  | nil => rfl
  | cons c s ih =>
    rw [encode_cons, encodeChar_ascii (h c (by simp)), List.singleton_append, List.map_cons,
      ih fun d hd => h d (List.mem_cons_of_mem _ hd)]

theorem length_encode_ascii {s : Text} (h : ∀ c ∈ s, c.toNat < 0x80) :
    (encode s).length = s.length := by
  rw [encode_ascii h, List.length_map]

/-- Octets of ASCII are its characters again. -/
theorem map_char_encode_ascii {s : Text} (h : ∀ c ∈ s, c.toNat < 0x80) :
    (encode s).map (fun b => Char.ofNat b.toNat) = s := by
  have hback : ∀ c ∈ s, Char.ofNat (UInt8.ofNat c.toNat).toNat = id c := fun c hc => by
    rw [toNat_ofNat_of_lt (Nat.lt_trans (h c hc) (by decide)), Char.ofNat_toNat, id]
  rw [encode_ascii h, List.map_map]
  exact (List.map_congr_left hback).trans (List.map_id s)

/-- **An octet of ASCII occurs in the character it stands for and in no other.** -/
theorem mem_encodeChar {c : Char} {b : UInt8} (hb : b.toNat < 0x80) :
    b ∈ encodeChar c ↔ c.toNat = b.toNat := by
  have hc := toNat_char_bounds c
  by_cases h : c.toNat < 0x80
  · rw [encodeChar_ascii h, List.mem_singleton]
    constructor
    · rintro rfl
      exact (toNat_ofNat_of_lt (by omega)).symm
    · intro e
      rw [e, UInt8.ofNat_toNat]
  · -- every octet of a longer character is at least 0x80
    refine iff_of_false (fun hm => ?_) (by omega)
    have big {m : Nat} (h1 : 0x80 ≤ m) (h2 : m < 256) : b ≠ UInt8.ofNat m := by
      rintro rfl
      rw [toNat_ofNat_of_lt h2] at hb
      omega
    unfold encodeChar at hm
    generalize c.toNat = n at *
    dsimp only at hm
    rw [if_neg h] at hm
    split at hm
    · simp only [List.mem_cons, List.not_mem_nil, or_false] at hm
      rcases hm with hm | hm <;> exact big (by omega) (by omega) hm
    · split at hm
      · simp only [List.mem_cons, List.not_mem_nil, or_false] at hm
        rcases hm with hm | hm | hm <;> exact big (by omega) (by omega) hm
      · simp only [List.mem_cons, List.not_mem_nil, or_false] at hm
        rcases hm with hm | hm | hm | hm <;> exact big (by omega) (by omega) hm

theorem toNat_charOfNat {n : Nat} (h : n < 0xD800) : (Char.ofNat n).toNat = n := by
  have hv : n.isValidChar := Or.inl h
  unfold Char.ofNat
  rw [dif_pos hv]
  rfl

theorem mem_encode {s : Text} {b : UInt8} (hb : b.toNat < 0x80) :
    b ∈ encode s ↔ Char.ofNat b.toNat ∈ s := by
  have key (c : Char) : c.toNat = b.toNat ↔ c = Char.ofNat b.toNat := by
    constructor
    · intro e
      rw [← e, Char.ofNat_toNat]
    · rintro rfl
      exact toNat_charOfNat (by omega)
  unfold encode
  rw [List.mem_flatMap]
  constructor
  · rintro ⟨c, hc, hm⟩
    rw [← (key c).1 ((mem_encodeChar hb).1 hm)]
    exact hc
  · intro hm
    exact ⟨_, hm, (mem_encodeChar hb).2 ((key _).2 rfl)⟩

theorem encodeChar_ne_nil (c : Char) : encodeChar c ≠ [] := by
  unfold encodeChar
  dsimp only
  split
  · simp
  · split
    · simp
    · split <;> simp

theorem encode_eq_nil {s : Text} : encode s = [] ↔ s = [] := by
  constructor
  · intro h
    exact encode_injective h
  · rintro rfl
    rfl

/-- **A text begins with an octet of ASCII if it begins with that character.** -/
theorem head?_encode {s : Text} {b : UInt8} (hb : b.toNat < 0x80) :
    (encode s).head? = some b ↔ s.head? = some (Char.ofNat b.toNat) := by
  cases s with
  | nil => simp [encode]
  | cons c s =>
    rw [encode_cons, List.head?_append,
      Option.or_of_isSome (List.isSome_head?.2 (encodeChar_ne_nil c)), List.head?_cons]
    constructor
    · intro h
      have hc := (mem_encodeChar hb).1 (List.mem_of_head? h)
      rw [← hc, Char.ofNat_toNat]
    · intro h
      have hc : c.toNat = b.toNat := by
        rw [Option.some.inj h, toNat_charOfNat (by omega)]
      rw [encodeChar_ascii (by omega), hc, UInt8.ofNat_toNat]
      rfl

/-! ## 5. Octets on two sides of a slash -/

/-- What a character that has begun still takes is not ASCII. -/
def Pending.IsInner (p : Pending) : Prop := 0x80 ≤ p.low

theorem isInner_of_first {b : UInt8} {p : Pending} (h : first b = .more p) : p.IsInner := by
  unfold first at h
  dsimp only at h
  unfold Pending.IsInner
  split at h
  · cases h
  · split at h
    · cases h
    · split at h
      · obtain rfl := Step.more.inj h
        exact Nat.le.refl
      · split at h
        · obtain rfl := Step.more.inj h
          dsimp only
          split <;> omega
        · split at h
          · obtain rfl := Step.more.inj h
            dsimp only
            split <;> omega
          · cases h

theorem isInner_of_next {p q : Pending} {b : UInt8} (h : p.next b = .more q) : q.IsInner := by
  unfold Pending.next at h
  dsimp only at h
  unfold Pending.IsInner
  split at h
  · split at h
    · cases h
    · obtain rfl := Step.more.inj h
      exact Nat.le.refl
  · cases h

/-- An octet of ASCII goes on no character. -/
theorem next_ascii {p : Pending} (hp : p.IsInner) {b : UInt8} (hb : b.toNat < 0x80) :
    p.next b = .refused := by
  unfold Pending.IsInner at hp
  unfold Pending.next
  rw [if_neg (by omega)]

/-- **Octets, then one of ASCII: what is before it and what begins with it are read apart.** -/
theorem scan_append_ascii {b : UInt8} (hb : b.toNat < 0x80) (after before : Bytes)
    (state : Option Pending) (hstate : ∀ p, state = some p → p.IsInner) :
    scan state (before ++ b :: after) = scan state before ++ scan none (b :: after) := by
  induction before generalizing state with
  | nil =>
    cases state with
    | none => rfl
    | some p =>
      have hfirst : first b = .done (Char.ofNat b.toNat) := if_pos hb
      simp only [List.nil_append, scan, next_ascii (hstate p rfl) hb, hfirst, List.cons_append]
  | cons x before ih =>
    have hnone := ih none (by simp)
    have hsome (q : Pending) (hq : q.IsInner) := ih (some q) fun p e => Option.some.inj e ▸ hq
    generalize scan none (b :: after) = tail at hnone hsome ⊢
    cases state with
    | none =>
      rw [List.cons_append, scan, scan]
      cases hx : first x with
      | done c => exact congrArg (some c :: ·) hnone
      | more q => exact hsome q (isInner_of_first hx)
      | refused => exact congrArg (none :: ·) hnone
    | some p =>
      rw [List.cons_append, scan, scan]
      cases hx : p.next x with
      | done c => exact congrArg (some c :: ·) hnone
      | more q => exact hsome q (isInner_of_next hx)
      | refused =>
        -- the octet that ends a gap may begin a character itself
        cases hf : first x with
        | done c => exact congrArg (none :: some c :: ·) hnone
        | more q => exact congrArg (none :: ·) (hsome q (isInner_of_first hf))
        | refused => exact congrArg (none :: none :: ·) hnone

/-- **The lossy reading falls apart at a slash.** -/
theorem decodeLossy_append_slash (before after : Bytes) :
    decodeLossy (before ++ 0x2F :: after) = decodeLossy before ++ '/' :: decodeLossy after := by
  unfold decodeLossy
  rw [scan_append_ascii (by decide) after before none (by simp), List.map_append]
  rfl

end Docroot.Utf8

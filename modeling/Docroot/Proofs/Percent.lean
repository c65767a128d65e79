import Docroot.Percent
import Docroot.Proofs.Text.Utf8

/-!
# Percent coding is undone by decoding

An escaped text is ASCII from end to end: letters, digits, five marks and `%` (`isCoded`), so it
needs no escape anywhere else, neither in a request target nor in an attribute. Decoding takes it
apart at the octets that the encoder put in (`decodeBytes_encodeByte`): no escape begins in what
stands for itself, and none reaches over into the next octet. So every text comes back, whatever
stands behind it (`decode_encode_append`). No escape reaches over a slash either, also where it was
not the encoder that wrote it (`decode_append_slash`).
-/

namespace Docroot.Percent

/-! ## 1. The characters of escaped texts -/

/-- A character that the encoder writes: one that stands for itself, or one of an escape. -/
def isCoded (c : Char) : Bool := isPlain (UInt8.ofNat c.toNat) && c.toNat < 128 || c == '%'

/-- What stands for itself is ASCII and begins no escape. -/
theorem plain_bounds : ∀ n < 256, isPlain (UInt8.ofNat n) = true → n < 128 ∧ n ≠ 0x25 := by
  decide +kernel

theorem isPlain_bounds {b : UInt8} (h : isPlain b = true) : b.toNat < 128 ∧ b ≠ 0x25 := by
  have hb := plain_bounds b.toNat b.toNat_lt_size (by rwa [UInt8.ofNat_toNat])
  refine ⟨hb.1, ?_⟩
  rintro rfl
  exact hb.2 rfl

/-- The capital digits are characters of escaped texts, and octets that read as what they write. -/
theorem capitalDigit_spec : ∀ n < 16, isCoded (capitalDigit n) = true ∧
    (capitalDigit n).toNat < 128 ∧ hexValue? (UInt8.ofNat (capitalDigit n).toNat) = some n := by
  decide +kernel

theorem toNat_div_lt (b : UInt8) : b.toNat / 16 < 16 ∧ b.toNat % 16 < 16 := by
  have : b.toNat < 256 := b.toNat_lt_size
  omega

theorem isCoded_of_mem_encodeByte {b : UInt8} {c : Char} (h : c ∈ encodeByte b) :
    isCoded c = true := by
  unfold encodeByte at h
  split at h
  · next hb =>
    obtain ⟨hlt, -⟩ := isPlain_bounds hb
    rw [List.mem_singleton] at h
    subst h
    have e : (Char.ofNat b.toNat).toNat = b.toNat := Utf8.toNat_charOfNat (by omega)
    simp [isCoded, e, UInt8.ofNat_toNat, hb, hlt]
  · obtain ⟨hhigh, hlow⟩ := toNat_div_lt b
    simp only [List.mem_cons, List.not_mem_nil, or_false] at h
    rcases h with rfl | rfl | rfl
    · rfl
    · exact (capitalDigit_spec _ hhigh).1
    · exact (capitalDigit_spec _ hlow).1

/-- **An escaped text holds nothing but letters, digits, the five marks and `%`.** -/
theorem isCoded_of_mem_encode {s : Text} {c : Char} (h : c ∈ encode s) : isCoded c = true := by
  unfold encode at h
  obtain ⟨b, -, hb⟩ := List.mem_flatMap.1 h
  exact isCoded_of_mem_encodeByte hb

theorem notMem_encode {c : Char} (h : isCoded c = false) (s : Text) : c ∉ encode s :=
  fun hmem => Bool.noConfusion (h.symm.trans (isCoded_of_mem_encode hmem))

theorem toNat_lt_of_isCoded {c : Char} (h : isCoded c = true) : c.toNat < 128 := by
  simp only [isCoded, Bool.or_eq_true, Bool.and_eq_true, decide_eq_true_eq, beq_iff_eq] at h
  rcases h with ⟨-, h⟩ | rfl
  · exact h
  · decide

/-- What holds of the coded characters below 128 holds of all. -/
theorem forall_isCoded {P : Char → Prop}
    (h : ∀ n < 128, isCoded (Char.ofNat n) = true → P (Char.ofNat n)) {c : Char}
    (hc : isCoded c = true) : P c := by
  have := h c.toNat (toNat_lt_of_isCoded hc)
  rw [Char.ofNat_toNat] at this
  exact this hc

theorem encodeByte_ne_nil (b : UInt8) : encodeByte b ≠ [] := by
  unfold encodeByte
  split <;> simp

/-- No escape ends in a slash, so what ends in one stands for a slash. -/
theorem eq_slash_of_getLast?_encodeByte {b : UInt8} (h : (encodeByte b).getLast? = some '/') :
    b = 0x2F := by
  unfold encodeByte at h
  split at h
  · next hb =>
    obtain ⟨hlt, -⟩ := isPlain_bounds hb
    have e : Char.ofNat b.toNat = '/' := by simpa using h
    have e' : b.toNat = 0x2F := by
      rw [← Utf8.toNat_charOfNat (by omega : b.toNat < 0xD800), e]
      rfl
    exact UInt8.toNat_inj.1 e'
  · obtain ⟨-, hlow⟩ := toNat_div_lt b
    have e : capitalDigit (b.toNat % 16) = '/' := by simpa using h
    have hdigit : ∀ n < 16, capitalDigit n ≠ '/' := by decide
    exact absurd e (hdigit _ hlow)

/-! ## 2. Octets -/

theorem decodeBytes_cons_of_ne {b : UInt8} (h : b ≠ 0x25) (rest : Bytes) :
    decodeBytes (b :: rest) = b :: decodeBytes rest := by
  rw [decodeBytes]
  intro _ _ _ e _
  exact h e

/-- An escape is one octet. -/
theorem decodeBytes_escape {high low : UInt8} {h l : Nat} (hh : hexValue? high = some h)
    (hl : hexValue? low = some l) (rest : Bytes) :
    decodeBytes (0x25 :: high :: low :: rest) = UInt8.ofNat (h * 16 + l) :: decodeBytes rest := by
  rw [decodeBytes, hh, hl]

/-- **What the encoder writes for an octet is decoded to that octet**, whatever stands behind. -/
theorem decodeBytes_encodeByte (b : UInt8) (rest : Bytes) :
    decodeBytes (Utf8.encode (encodeByte b) ++ rest) = b :: decodeBytes rest := by
  unfold encodeByte
  split
  · next hb =>
    obtain ⟨hlt, hne⟩ := isPlain_bounds hb
    have e : (Char.ofNat b.toNat).toNat = b.toNat := Utf8.toNat_charOfNat (by omega)
    rw [Utf8.encode_cons, Utf8.encodeChar_ascii (by omega), e, UInt8.ofNat_toNat]
    exact decodeBytes_cons_of_ne hne rest
  · obtain ⟨hhigh, hlow⟩ := toNat_div_lt b
    obtain ⟨-, h1, h2⟩ := capitalDigit_spec _ hhigh
    obtain ⟨-, h3, h4⟩ := capitalDigit_spec _ hlow
    have e : b.toNat / 16 * 16 + b.toNat % 16 = b.toNat := by omega
    rw [Utf8.encode_cons, Utf8.encode_cons, Utf8.encode_cons,
      Utf8.encodeChar_ascii (c := '%') (by decide),
      Utf8.encodeChar_ascii h1, Utf8.encodeChar_ascii h3]
    have := decodeBytes_escape h2 h4 rest
    rw [e, UInt8.ofNat_toNat] at this
    exact this

theorem decodeBytes_encodeBytes (bs rest : Bytes) :
    decodeBytes (Utf8.encode (bs.flatMap encodeByte) ++ rest) = bs ++ decodeBytes rest := by
  induction bs with
  | nil => rfl
  | cons b bs ih =>
    rw [List.flatMap_cons, Utf8.encode_append, List.append_assoc, decodeBytes_encodeByte, ih]
    rfl

/-- **Where no escape begins, an octet stands for itself.** -/
theorem decodeBytes_of_no_escape {b : UInt8} {rest : Bytes}
    (h : ∀ high low after, b = 0x25 → rest = high :: low :: after →
      ∀ n m, hexValue? high = some n → hexValue? low = some m → False) :
    decodeBytes (b :: rest) = b :: decodeBytes rest := by
  by_cases hb : b = 0x25
  · subst hb
    match rest with
    | [] => rfl
    | [_] => rfl
    | high :: low :: after =>
      rw [decodeBytes]
      split
      · next n m hhigh hlow => exact (h high low after rfl rfl n m hhigh hlow).elim
      · rfl
  · exact decodeBytes_cons_of_ne hb rest

/-- **A slash is a digit of no escape**, so octets are decoded apart on its two sides. -/
theorem decodeBytes_append_slash (before after : Bytes) :
    decodeBytes (before ++ 0x2F :: after) = decodeBytes before ++ 0x2F :: decodeBytes after := by
  have hslash (n : Nat) : hexValue? 0x2F ≠ some n := by
    rw [show hexValue? 0x2F = none by decide]
    exact nofun
  fun_induction decodeBytes before with
  | case1 high low rest n m hlow hhigh ih =>
    rw [List.cons_append, List.cons_append, List.cons_append, decodeBytes_escape hhigh hlow, ih]
    rfl
  | case2 high low rest hno ih =>
    rw [List.cons_append, decodeBytes_of_no_escape, ih]
    · rfl
    · rintro _ _ _ - e
      cases e
      exact hno
  | case3 b rest hne ih =>
    rw [List.cons_append, decodeBytes_of_no_escape, ih]
    · rfl
    · intro high low rest' hb e n m hhigh hlow
      match rest with
      | [] =>
        cases e
        exact hslash n hhigh
      | [_] =>
        cases e
        exact hslash m hlow
      | _ :: _ :: _ => exact hne _ _ _ hb rfl
  | case4 => exact decodeBytes_cons_of_ne (by decide) after

/-! ## 3. Octets by position -/

/-- The octets from a position on with their escapes resolved, taken by their positions; none where
    a position is behind the end. -/
def decodeFrom? (bs : Bytes) (i : Nat) : Option Bytes :=
  if i < bs.length then do
    let b ← bs[i]?
    if b = 0x25 ∧ i + 2 < bs.length then
      let high ← bs[i + 1]?
      let low ← bs[i + 2]?
      match hexValue? high, hexValue? low with
      | some h, some l => (decodeFrom? bs (i + 3)).map (UInt8.ofNat (h * 16 + l) :: ·)
      | _, _ => (decodeFrom? bs (i + 1)).map (b :: ·)
    else (decodeFrom? bs (i + 1)).map (b :: ·)
  else some []
termination_by bs.length - i

/-- **No position behind the end is taken**, and what comes of it is what the octets from there on
    are decoded to. -/
theorem decodeFrom?_eq (bs : Bytes) (i : Nat) :
    decodeFrom? bs i = some (decodeBytes (bs.drop i)) := by
  fun_induction decodeFrom? bs i with
  | case1 i hi ihEscape ihPercent ihOther =>
    rw [List.getElem?_eq_getElem hi, Option.bind_eq_bind, Option.bind_some,
      List.drop_eq_getElem_cons hi]
    split
    · next hpercent =>
      -- three octets are left, so there are two behind the `%`
      obtain ⟨hb, hroom⟩ := hpercent
      have hnext : i + 1 < bs.length := by omega
      have hdrop : bs.drop (i + 1) = bs[i + 1] :: bs[i + 2] :: bs.drop (i + 3) := by
        rw [List.drop_eq_getElem_cons hnext, List.drop_eq_getElem_cons hroom]
      rw [List.getElem?_eq_getElem hnext, List.getElem?_eq_getElem hroom]
      dsimp only [Option.bind_eq_bind, Option.bind_some]
      split
      · next n m hhigh hlow =>
        rw [ihEscape _ ⟨hb, hroom⟩, hb, hdrop, decodeBytes_escape hhigh hlow]
        rfl
      · next hno =>
        rw [ihOther, decodeBytes_of_no_escape]
        · rfl
        · rintro _ _ _ - e
          rw [hdrop] at e
          cases e
          exact hno
    · next hpercent =>
      rw [ihOther, decodeBytes_of_no_escape]
      · rfl
      · intro high low after hb e
        have hlen := congrArg List.length e
        rw [List.length_drop, List.length_cons, List.length_cons] at hlen
        exact absurd ⟨hb, by omega⟩ hpercent
  | case2 i hi =>
    rw [List.drop_eq_nil_of_le (by omega)]
    rfl

/-! ## 4. Texts -/

theorem encode_append (s t : Text) : encode (s ++ t) = encode s ++ encode t := by
  simp [encode]

/-- Escaping makes three octets of one at most. -/
theorem length_encode_le (s : Text) : (encode s).length ≤ 3 * (Utf8.encode s).length := by
  unfold encode
  induction Utf8.encode s with
  | nil => exact Nat.le_refl 0
  | cons b bs ih =>
    have hb : (encodeByte b).length ≤ 3 := by
      unfold encodeByte
      split <;> simp
    rw [List.flatMap_cons, List.length_append, List.length_cons]
    omega

/-- The slash stands for itself. -/
theorem encode_cons_slash (s : Text) : encode ('/' :: s) = '/' :: encode s := by
  rw [← List.singleton_append, encode_append]
  rfl

theorem encode_ne_nil {s : Text} (h : s ≠ []) : encode s ≠ [] := by
  cases s with
  | nil => exact absurd rfl h
  | cons c s =>
    obtain ⟨b, bs, hb⟩ := List.exists_cons_of_ne_nil (Utf8.encodeChar_ne_nil c)
    unfold encode
    rw [Utf8.encode_cons, hb, List.cons_append, List.flatMap_cons]
    simp [encodeByte_ne_nil]

/-- An escaped text ends in a slash only if the text does. -/
theorem getLast?_encode {s : Text} (h : s.getLast? ≠ some '/') :
    (encode s).getLast? ≠ some '/' := by
  rcases List.eq_nil_or_concat s with rfl | ⟨front, c, rfl⟩
  · simp [encode]
  · rw [List.concat_eq_append] at h ⊢
    obtain ⟨bs, b, hb⟩ := (List.eq_nil_or_concat (Utf8.encodeChar c)).resolve_left
      (Utf8.encodeChar_ne_nil c)
    rw [List.concat_eq_append] at hb
    have e : encode (front ++ [c]) = (encode front ++ bs.flatMap encodeByte) ++ encodeByte b := by
      rw [encode_append, List.append_assoc]
      simp [encode, Utf8.encode_cons, hb]
    rw [e, List.getLast?_append, Option.or_of_isSome (List.getLast?_isSome.2 (encodeByte_ne_nil b))]
    intro hslash
    have hmem : (0x2F : UInt8) ∈ Utf8.encodeChar c := by
      rw [hb, eq_slash_of_getLast?_encodeByte hslash]
      simp
    have hc := (Utf8.mem_encodeChar (by decide)).1 hmem
    have : c = '/' := by
      rw [← Char.ofNat_toNat c, hc]
      rfl
    simp [this] at h

theorem getLast?_encode_iff {s : Text} :
    (encode s).getLast? = some '/' ↔ s.getLast? = some '/' := by
  constructor
  · exact fun h => Classical.byContradiction fun hs => getLast?_encode hs h
  · intro h
    obtain ⟨front, rfl⟩ := List.getLast?_eq_some_iff.1 h
    rw [encode_append]
    exact List.getLast?_concat

/-- **An escaped text is decoded to the text**, whatever stands behind it, and what it was decoded to
    is not decoded again. -/
theorem decode_encode_append (s t : Text) : decode (encode s ++ t) = s ++ decode t := by
  unfold decode encode
  rw [Utf8.encode_append, decodeBytes_encodeBytes, Utf8.decodeLossy_encode_append]

theorem decode_encode (s : Text) : decode (encode s) = s := by
  have h := decode_encode_append s []
  rwa [List.append_nil, show decode [] = [] from rfl, List.append_nil] at h

/-- **A text is decoded apart on the two sides of a slash.** -/
theorem decode_append_slash (s t : Text) :
    decode (s ++ '/' :: t) = decode s ++ '/' :: decode t := by
  unfold decode
  rw [Utf8.encode_append, Utf8.encode_cons, Utf8.encodeChar_ascii (c := '/') (by decide)]
  exact (congrArg Utf8.decodeLossy (decodeBytes_append_slash _ _)).trans
    (Utf8.decodeLossy_append_slash _ _)

end Docroot.Percent

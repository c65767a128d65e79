import Docroot.Http.Header
import Docroot.Proofs.Number.Digits
import Docroot.Proofs.Text.Utf8

/-!
# Visible text in header values

Visible text is ASCII without controls. It can be a header value, and it is what is read of that
value (`toText?_ofText`); of other texts that can be a value, nothing may be read at all. What is
read at all is visible but for the tab (`all_isTextChar_of_toText?`).
-/

namespace Docroot.Http

/-- A visible character of ASCII, or the space. -/
def isVisible (c : Char) : Bool := 32 ≤ c.toNat && c.toNat < 127

theorem toNat_lt_of_isVisible {c : Char} (h : isVisible c = true) : c.toNat < 127 := by
  unfold isVisible at h
  rw [Bool.and_eq_true, decide_eq_true_eq, decide_eq_true_eq] at h
  exact h.2

theorem isValueChar_of_isVisible {c : Char} (h : isVisible c = true) : isValueChar c = true := by
  unfold isVisible at h
  rw [Bool.and_eq_true, decide_eq_true_eq, decide_eq_true_eq] at h
  have hlegal : 32 ≤ c.toNat ∧ c.toNat ≠ 127 := by omega
  simp [isValueChar, hlegal]

theorem isVisible_of_isDigit {c : Char} (h : c.isDigit = true) : isVisible c = true := by
  have hbounds := Digits.toNat_of_isDigit h
  unfold isVisible
  rw [Bool.and_eq_true, decide_eq_true_eq, decide_eq_true_eq]
  omega

theorem all_isVisible_padded (width n : Nat) : (Digits.padded width n).all isVisible = true :=
  List.all_eq_true.2 fun c hc =>
    isVisible_of_isDigit (List.all_eq_true.1 (Digits.all_isDigit_padded width n) c hc)

theorem all_isValueChar_of_isVisible {s : Text} (h : s.all isVisible = true) :
    s.all isValueChar = true :=
  List.all_eq_true.2 fun c hc => isValueChar_of_isVisible (List.all_eq_true.1 h c hc)

namespace HeaderValue

theorem ofText?_of_all {s : Text} (h : s.all isValueChar = true) :
    ofText? s = some (.ofText s h) := by
  rw [ofText?_eq, dif_pos h]

/-- **A text of ASCII characters is read back from its value**, the delete character apart. -/
theorem toText?_ofText_of_lt {s : Text} (hbound : ∀ c ∈ s, c.toNat < 127)
    (hlegal : s.all isValueChar = true) : (ofText s hlegal).toText? = some s := by
  have hascii : ∀ c ∈ s, c.toNat < 0x80 := fun c hc => Nat.lt_trans (hbound c hc) (by decide)
  have hbytes : (ofText s hlegal).bytes = Utf8.encode s := rfl
  have hall : (Utf8.encode s).all (fun b => b.toNat < 127) = true := by
    rw [Utf8.encode_ascii hascii, List.all_map, List.all_eq_true]
    intro c hc
    rw [Function.comp_apply, Utf8.toNat_ofNat_of_lt (Nat.lt_trans (hbound c hc) (by decide))]
    exact decide_eq_true (hbound c hc)
  unfold toText?
  rw [hbytes, if_pos hall, Utf8.map_char_encode_ascii hascii]

/-- **Visible text is read back from its value.** -/
theorem toText?_ofText {s : Text} (hvisible : s.all isVisible = true)
    (hlegal : s.all isValueChar = true) : (ofText s hlegal).toText? = some s :=
  toText?_ofText_of_lt
    (fun c hc => toNat_lt_of_isVisible (List.all_eq_true.1 hvisible c hc)) hlegal

/-- A character that a value can be read with: a visible one, or the tab. -/
def isTextChar (c : Char) : Bool := isValueChar c && c.toNat < 127

/-- **What is read of a value** is made of such characters. -/
theorem all_isTextChar_of_toText? {v : HeaderValue} {t : Text} (h : v.toText? = some t) :
    t.all isTextChar = true := by
  unfold toText? at h
  split at h
  · next hascii =>
    cases h
    rw [List.all_map, List.all_eq_true]
    intro b hb
    have hbound : b.toNat < 0xD800 := Nat.lt_trans (UInt8.toNat_lt b) (by decide)
    rw [Function.comp_apply, isTextChar, isValueChar, Utf8.toNat_charOfNat hbound, Bool.and_eq_true]
    exact ⟨List.all_eq_true.1 v.legal b hb, List.all_eq_true.1 hascii b hb⟩
  · cases h

/-- **Every text of such characters is read of some value.** -/
theorem exists_toText? {t : Text} (h : t.all isTextChar = true) :
    ∃ v : HeaderValue, v.toText? = some t := by
  have hchar : ∀ c ∈ t, isValueChar c = true ∧ c.toNat < 127 := by
    intro c hc
    have hc := List.all_eq_true.1 h c hc
    rwa [isTextChar, Bool.and_eq_true, decide_eq_true_eq] at hc
  exact ⟨.ofText t (List.all_eq_true.2 fun c hc => (hchar c hc).1),
    toText?_ofText_of_lt (fun c hc => (hchar c hc).2) _⟩

end HeaderValue

end Docroot.Http

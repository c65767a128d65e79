import Docroot.Http.Token
import Docroot.Number.Digits
import Docroot.Text.Utf8

/-!
# Header fields

A header field is a name and a value. A name is a token in small letters, since names are compared
without regard to case. A value is octets without controls: the tab is allowed, octets beyond ASCII
are, and an empty value is. Both rules are part of the types, so a value that cannot be a header
cannot get into one.

A header section is the list of its fields in order; a name may occur more than once.
-/

namespace Docroot.Http

/-! ## 1. Names -/

/-- The longest name. -/
def maxNameLength : Nat := 65535

/-- A token in small letters, not too long. -/
def isHeaderName (s : Text) : Bool :=
  isToken s && s.all (fun c => c.toLower == c) && s.length ≤ maxNameLength

/-- The name of a header field, in small letters. -/
structure HeaderName where
  text : Text
  legal : isHeaderName text = true

instance : DecidableEq HeaderName := fun a b =>
  decidable_of_iff (a.text = b.text) (by cases a; cases b; simp)

namespace HeaderName

/-- The name that octets write, in whatever case. -/
def ofBytes? (b : Bytes) : Option HeaderName :=
  let s := Text.lowerAscii (b.map fun x => Char.ofNat x.toNat)
  if h : isHeaderName s = true then some ⟨s, h⟩ else none

/-- `content-type` -/
def contentType : HeaderName := ⟨"content-type".toList, by decide⟩
/-- `content-length` -/
def contentLength : HeaderName := ⟨"content-length".toList, by decide⟩
/-- `last-modified` -/
def lastModified : HeaderName := ⟨"last-modified".toList, by decide⟩
/-- `location` -/
def location : HeaderName := ⟨"location".toList, by decide⟩
/-- `server` -/
def server : HeaderName := ⟨"server".toList, by decide⟩
/-- `access-control-allow-origin` -/
def allowOrigin : HeaderName := ⟨"access-control-allow-origin".toList, by decide⟩
/-- `access-control-allow-methods` -/
def allowMethods : HeaderName := ⟨"access-control-allow-methods".toList, by decide⟩
/-- `access-control-allow-headers` -/
def allowHeaders : HeaderName := ⟨"access-control-allow-headers".toList, by decide⟩
/-- `if-modified-since` -/
def ifModifiedSince : HeaderName := ⟨"if-modified-since".toList, by decide⟩
/-- `if-none-match` -/
def ifNoneMatch : HeaderName := ⟨"if-none-match".toList, by decide⟩
/-- `referer` -/
def referer : HeaderName := ⟨"referer".toList, by decide⟩
/-- `user-agent` -/
def userAgent : HeaderName := ⟨"user-agent".toList, by decide⟩
/-- `transfer-encoding` -/
def transferEncoding : HeaderName := ⟨"transfer-encoding".toList, by decide⟩
/-- `connection` -/
def connection : HeaderName := ⟨"connection".toList, by decide⟩
/-- `date` -/
def date : HeaderName := ⟨"date".toList, by decide⟩

end HeaderName

/-! ## 2. Values -/

/-- An octet that a value may have: no control but the tab. -/
def isValueByte (b : UInt8) : Bool := (32 ≤ b.toNat && b.toNat ≠ 127) || b.toNat == 9

/-- A character that a value may have. -/
def isValueChar (c : Char) : Bool := (32 ≤ c.toNat && c.toNat ≠ 127) || c.toNat == 9

/-- The value of a header field. -/
structure HeaderValue where
  bytes : Bytes
  legal : bytes.all isValueByte = true

instance : DecidableEq HeaderValue := fun a b =>
  decidable_of_iff (a.bytes = b.bytes) (by cases a; cases b; simp)

/-- **The octets of a character are legal in a value exactly if the character is.** -/
theorem all_isValueByte_encodeChar (c : Char) :
    (Utf8.encodeChar c).all isValueByte = isValueChar c := by
  have hc : c.toNat < 0x110000 := by
    have := c.valid
    simp only [UInt32.isValidChar, Nat.isValidChar] at this
    simp only [Char.toNat]
    omega
  unfold Utf8.encodeChar
  generalize hn : c.toNat = n at *
  simp only [isValueChar, hn]
  split
  · rename_i h
    have h1 : (UInt8.ofNat n).toNat = n := by rw [UInt8.toNat_ofNat']; omega
    simp [isValueByte, h1]
  · rename_i h
    have big (m : Nat) (h0 : 0x80 ≤ m) (h1 : m < 256) : isValueByte (UInt8.ofNat m) = true := by
      have h2 : (UInt8.ofNat m).toNat = m := by rw [UInt8.toNat_ofNat']; omega
      have h3 : 32 ≤ m ∧ m ≠ 127 := by omega
      simp [isValueByte, h2, h3]
    have hr : (decide (32 ≤ n) && decide (n ≠ 127) || n == 9) = true := by
      have h3 : 32 ≤ n ∧ n ≠ 127 := by omega
      simp [h3]
    rw [hr]
    split
    · simp only [List.all_cons, List.all_nil, Bool.and_true, Bool.and_eq_true]
      exact ⟨big _ (by omega) (by omega), big _ (by omega) (by omega)⟩
    · split
      · simp only [List.all_cons, List.all_nil, Bool.and_true, Bool.and_eq_true]
        exact ⟨big _ (by omega) (by omega), big _ (by omega) (by omega),
          big _ (by omega) (by omega)⟩
      · simp only [List.all_cons, List.all_nil, Bool.and_true, Bool.and_eq_true]
        exact ⟨big _ (by omega) (by omega), big _ (by omega) (by omega),
          big _ (by omega) (by omega), big _ (by omega) (by omega)⟩

/-- **A text can be a value exactly if all its characters are legal.** -/
theorem all_isValueByte_encode (s : Text) :
    (Utf8.encode s).all isValueByte = s.all isValueChar := by
  induction s with
  | nil => rfl
  | cons c rest ih =>
    have : Utf8.encode (c :: rest) = Utf8.encodeChar c ++ Utf8.encode rest := by
      simp [Utf8.encode]
    rw [this, List.all_append, all_isValueByte_encodeChar, ih, List.all_cons]

/-- Digits are legal in a value. -/
theorem all_isValueChar_decimal (n : Nat) : (Digits.decimal n).all isValueChar = true := by
  rw [List.all_eq_true]
  intro c hc
  have := Nat.isDigit_of_mem_toDigits (by decide) (by decide) hc
  simp only [Char.isDigit, Bool.and_eq_true, decide_eq_true_eq] at this
  have h1 : 48 ≤ c.toNat := this.1
  have h2 : c.toNat ≤ 57 := this.2
  have h3 : 32 ≤ c.toNat ∧ c.toNat ≠ 127 := by omega
  simp [isValueChar, h3]

namespace HeaderValue

/-- The value of octets, if all are legal. -/
def ofBytes? (b : Bytes) : Option HeaderValue :=
  if h : b.all isValueByte = true then some ⟨b, h⟩ else none

/-- The value of a text, if all its characters are legal. -/
def ofText? (s : Text) : Option HeaderValue := ofBytes? (Utf8.encode s)

/-- The value of a text of legal characters. -/
def ofText (s : Text) (h : s.all isValueChar = true) : HeaderValue :=
  ⟨Utf8.encode s, by rw [all_isValueByte_encode, h]⟩

/-- A number as a value. -/
def ofNat (n : Nat) : HeaderValue := ofText (Digits.decimal n) (all_isValueChar_decimal n)

/-- A text value exists exactly if all characters are legal. -/
theorem ofText?_eq (s : Text) :
    ofText? s = if h : s.all isValueChar = true then some (ofText s h) else none := by
  unfold ofText? ofBytes? ofText
  by_cases h : s.all isValueChar = true
  · have h' : (Utf8.encode s).all isValueByte = true := by rw [all_isValueByte_encode, h]
    rw [dif_pos h, dif_pos h']
  · have h' : ¬(Utf8.encode s).all isValueByte = true := by rw [all_isValueByte_encode]; exact h
    rw [dif_neg h, dif_neg h']

/-- The value as text, if it is printable ASCII and tabs alone. -/
def toText? (v : HeaderValue) : Option Text :=
  if v.bytes.all (fun b => b.toNat < 127) then some (v.bytes.map fun b => Char.ofNat b.toNat)
  else none

end HeaderValue

/-! ## 3. Sections -/

/-- A header section: its fields, in order. -/
abbrev Headers := List (HeaderName × HeaderValue)

namespace Headers

/-- The values of a name, in order. -/
def values (h : Headers) (n : HeaderName) : List HeaderValue :=
  (h.filter (·.1 = n)).map (·.2)

/-- The first value of a name. -/
def get? (h : Headers) (n : HeaderName) : Option HeaderValue := (values h n).head?

/-- The most names that a section holds. -/
def maxNames : Nat := 24576

/-- **A full section** takes no further field, not even of a name it has. -/
def isFull (h : Headers) : Bool :=
  maxNames ≤ h.length && maxNames ≤ ((h.map (·.1.text)).mergeSort Text.le).eraseReps.length

/-- **The section of fields put into it one after another**; none if it is full before the last of
    them. -/
def ofFields? (fields : List (HeaderName × HeaderValue)) : Option Headers :=
  if isFull fields.dropLast then none else some fields

/-- **The one value of a name from now on.** It stands where the first value stood, or at the end
    where there was none; the name's other values go. -/
def insert (h : Headers) (n : HeaderName) (v : HeaderValue) : Headers :=
  match h with
  | [] => [(n, v)]
  | (m, w) :: rest =>
    if m = n then (n, v) :: rest.filter (·.1 ≠ n) else (m, w) :: insert rest n v

/-- The first value of a name as text; none where it is missing or not printable ASCII. -/
def getText? (h : Headers) (n : HeaderName) : Option Text := (get? h n).bind HeaderValue.toText?

theorem values_cons (f : HeaderName × HeaderValue) (h : Headers) (n : HeaderName) :
    values (f :: h) n = if f.1 = n then f.2 :: values h n else values h n := by
  by_cases hf : f.1 = n <;> simp [values, hf]

/-- Fields of other names are all that is left without those of one name. -/
theorem values_filter_ne (h : Headers) (n m : HeaderName) :
    values (h.filter (·.1 ≠ n)) m = if m = n then [] else values h m := by
  unfold values
  rw [List.filter_filter]
  split
  · next e =>
    subst e
    rw [List.map_eq_nil_iff, List.filter_eq_nil_iff]
    simp
  · next hne =>
    congr 1
    apply List.filter_congr
    intro f _
    by_cases hf : f.1 = m <;> simp [hf, hne]

/-- **After an insertion the name has that one value, and every other name has what it had.** -/
theorem values_insert (h : Headers) (n m : HeaderName) (v : HeaderValue) :
    values (insert h n v) m = if m = n then [v] else values h m := by
  induction h with
  | nil =>
    unfold insert
    rw [values_cons]
    by_cases hm : m = n
    · rw [if_pos hm, if_pos hm.symm]
      rfl
    · rw [if_neg hm, if_neg (Ne.symm hm)]
  | cons f rest ih =>
    unfold insert
    by_cases hf : f.1 = n
    · rw [if_pos hf, values_cons, values_filter_ne, values_cons, hf]
      by_cases hm : m = n
      · rw [if_pos hm.symm, if_pos hm, if_pos hm]
      · rw [if_neg (Ne.symm hm), if_neg hm, if_neg hm, if_neg (Ne.symm hm)]
    · rw [if_neg hf, values_cons, ih, values_cons]
      by_cases hm : m = n
      · subst hm
        rw [if_neg hf, if_pos rfl, if_pos rfl]
      · rw [if_neg hm, if_neg hm]

end Headers

end Docroot.Http

import Docroot.Log.AccessEntry
import Docroot.Proofs.Log.Json

/-!
# An entry is one line

The line of an entry holds the line feeds and carriage returns of its pattern and no others
(`breaks_line`), if the texts of the entry hold none. The named formats have none either, so an entry
in one of them is one line; a pattern has those that its author put there.

A pattern is filled in by replacing its variables one after another, and a value may bring the name
of a later variable with it. That does no harm here: neither a name nor a value holds a break, so no
replacement takes one away or adds one (`breaks_replaceAll`), wherever the names come from.

In the formats `common` and `combined` the line tells the request, the status and the length of the
body in this order (`shows_common`, `shows_combined`).
-/

namespace Docroot

/-! ## 1. Line breaks -/

namespace Text

/-- A line feed or a carriage return. -/
def endsLine (c : Char) : Bool := c == '\n' || c == '\r'

/-- **The line breaks of a text**, in order. -/
def breaks (s : Text) : Text := s.filter endsLine

theorem breaks_append (s t : Text) : breaks (s ++ t) = breaks s ++ breaks t :=
  List.filter_append ..

theorem breaks_cons_of_not {c : Char} (h : endsLine c = false) (s : Text) :
    breaks (c :: s) = breaks s :=
  List.filter_cons_of_neg (by rw [h]; exact Bool.false_ne_true)

theorem breaks_eq_nil_iff {s : Text} : breaks s = [] ↔ ∀ c ∈ s, endsLine c = false := by
  unfold breaks
  simp only [List.filter_eq_nil_iff, Bool.not_eq_true]

theorem breaks_cons_eq_nil_iff {c : Char} {s : Text} :
    breaks (c :: s) = [] ↔ endsLine c = false ∧ breaks s = [] := by
  simp only [breaks_eq_nil_iff, List.forall_mem_cons]

/-- What is written out in full can be looked at. -/
theorem breaks_toList {s : String} (h : s.toList.any endsLine = false) : breaks s.toList = [] := by
  rw [List.any_eq_false] at h
  exact breaks_eq_nil_iff.2 fun c hc => Bool.eq_false_iff.2 (h c hc)

/-- Characters of a kind make up a text without those of another. -/
theorem not_mem_of_all {p : Char → Bool} {s : Text} (h : s.all p = true) {c : Char}
    (hc : p c = false) : c ∉ s :=
  fun hm => Bool.false_ne_true (hc.symm.trans (List.all_eq_true.1 h c hm))

/-- Characters of a kind that ends no line make up a text without breaks. -/
theorem breaks_of_all {p : Char → Bool} (hfeed : p '\n' = false) (hreturn : p '\r' = false)
    {s : Text} (h : s.all p = true) : breaks s = [] := by
  refine breaks_eq_nil_iff.2 fun c hc => ?_
  unfold endsLine
  rw [Bool.or_eq_false_iff, beq_eq_false_iff_ne, beq_eq_false_iff_ne]
  constructor
  · rintro rfl
    exact not_mem_of_all h hfeed hc
  · rintro rfl
    exact not_mem_of_all h hreturn hc

/-! ## 2. Replacing -/

section

variable {name value : Text}

/-- The induction is on the text that is left. What is still to be skipped belongs to an occurrence
    of the name, and so holds no break. -/
theorem breaks_replaceAfter (hname : breaks name = []) (hvalue : breaks value = []) (s : Text) :
    ∀ skip, breaks (s.take skip) = [] → breaks (replaceAfter name value skip s) = breaks s := by
  induction s with
  | nil =>
    intro skip _
    cases skip <;> rfl
  | cons c rest ih =>
    rintro (_ | skip) hskip
    · unfold replaceAfter
      split
      · next hoccurs =>
        obtain ⟨hne, hprefix⟩ := hoccurs
        obtain ⟨first, others, rfl⟩ := List.exists_cons_of_ne_nil hne
        obtain ⟨rfl, tail, rfl⟩ := List.cons_prefix_cons.1 (List.isPrefixOf_iff_prefix.1 hprefix)
        obtain ⟨hfirst, hothers⟩ := breaks_cons_eq_nil_iff.1 hname
        have htaken : breaks ((others ++ tail).take ((first :: others).length - 1)) = [] := by
          rw [List.length_cons, Nat.add_sub_cancel, List.take_left]
          exact hothers
        rw [breaks_append, hvalue, ih _ htaken, breaks_cons_of_not hfirst]
        rfl
      · have hrest : breaks (replaceAfter name value 0 rest) = breaks rest := ih 0 rfl
        unfold breaks at hrest ⊢
        rw [List.filter_cons, List.filter_cons, hrest]
    · obtain ⟨hc, hrest⟩ := breaks_cons_eq_nil_iff.1 hskip
      unfold replaceAfter
      rw [ih skip hrest, breaks_cons_of_not hc]

/-- **Replacing a name by a value keeps the line breaks**, if neither holds one. -/
theorem breaks_replaceAll (hname : breaks name = []) (hvalue : breaks value = []) (s : Text) :
    breaks (replaceAll name value s) = breaks s :=
  breaks_replaceAfter hname hvalue s 0 rfl

end

/-- So does replacing many names, one after another. -/
theorem breaks_foldl_replaceAll {substitutions : List (Text × Text)} :
    (∀ sub ∈ substitutions, breaks sub.1 = [] ∧ breaks sub.2 = []) → ∀ s : Text,
      breaks (substitutions.foldl (fun line (name, value) => replaceAll name value line) s)
        = breaks s := by
  induction substitutions with
  | nil => exact fun _ s => rfl
  | cons sub rest ih =>
    intro h s
    obtain ⟨⟨hname, hvalue⟩, hrest⟩ := List.forall_mem_cons.1 h
    rw [List.foldl_cons, ih hrest, breaks_replaceAll hname hvalue]

end Text

open Docroot.Text (breaks breaks_toList breaks_append breaks_cons_of_not breaks_of_all)

/-! ## 3. Numbers, times and objects -/

theorem Digits.breaks_decimal (n : Nat) : breaks (decimal n) = [] :=
  breaks_of_all (by decide) (by decide) (all_isDigit_decimal n)

namespace Time.LocalTime

/-- A character that times in logs are written with. -/
def isStampChar (c : Char) : Bool :=
  c.isAlphanum || c == '/' || c == ':' || c == ' ' || c == '+' || c == '-' || c == '.'

theorem all_isStampChar_of_isDigit {s : Text} (h : s.all Char.isDigit = true) :
    s.all isStampChar = true := by
  rw [List.all_eq_true] at h ⊢
  intro c hc
  simp [isStampChar, Char.isAlphanum, h c hc]

theorem all_isStampChar_padded (width n : Nat) :
    (Digits.padded width n).all isStampChar = true :=
  all_isStampChar_of_isDigit (Digits.all_isDigit_padded width n)

theorem all_isStampChar_yearText (y : Int) : (yearText y).all isStampChar = true := by
  unfold yearText
  split
  · exact all_isStampChar_padded _ _
  · unfold Digits.signedPadded
    rw [List.all_cons, all_isStampChar_padded]
    split <;> decide

theorem all_isStampChar_monthName (m : Nat) : (monthName m).all isStampChar = true := by
  have hnames : ∀ name ∈ monthNames, name.all isStampChar = true := by decide
  unfold monthName
  rw [List.getD_eq_getElem?_getD]
  cases h : monthNames[m - 1]? with
  | none => rfl
  | some name => exact hnames name (List.mem_of_getElem? h)

theorem all_isStampChar_offsetText {between : Text} (h : between.all isStampChar = true)
    (t : LocalTime) : (offsetText between t).all isStampChar = true := by
  have htwo (n : Nat) : (twoDigits n).all isStampChar = true := all_isStampChar_padded 2 n
  unfold offsetText
  simp only [List.all_append, List.all_cons, h, htwo, Bool.and_true]
  split <;> decide

theorem all_isStampChar_clock (c : Civil) : (HttpDate.clock c).all isStampChar = true := by
  have htwo (n : Nat) : (twoDigits n).all isStampChar = true := all_isStampChar_padded 2 n
  have hcolon : isStampChar ':' = true := by decide
  unfold HttpDate.clock
  simp only [List.all_append, List.all_cons, htwo, hcolon, Bool.and_self]

theorem all_isStampChar_fraction (nanos : Nat) : (fraction nanos).all isStampChar = true := by
  have hpoint : isStampChar '.' = true := by decide
  unfold fraction
  dsimp only
  split
  · rfl
  · split
    · rw [List.all_cons, hpoint, all_isStampChar_padded, Bool.and_self]
    · split
      · rw [List.all_cons, hpoint, all_isStampChar_padded, Bool.and_self]
      · rw [List.all_cons, hpoint, all_isStampChar_padded, Bool.and_self]

/-- The characters of a time in the common log form. -/
theorem all_isStampChar_commonLog (t : LocalTime) : t.commonLog.all isStampChar = true := by
  have htwo (n : Nat) : (twoDigits n).all isStampChar = true := all_isStampChar_padded 2 n
  have hmarks : isStampChar '/' = true ∧ isStampChar ':' = true ∧ isStampChar ' ' = true := by
    decide
  unfold commonLog
  simp only [List.all_append, List.all_cons, htwo, all_isStampChar_monthName, hmarks,
    all_isStampChar_yearText, all_isStampChar_clock,
    all_isStampChar_offsetText (show ([] : Text).all isStampChar = true from rfl), Bool.and_self]

/-- And of one in the ISO form. -/
theorem all_isStampChar_iso (t : LocalTime) : t.iso.all isStampChar = true := by
  have htwo (n : Nat) : (twoDigits n).all isStampChar = true := all_isStampChar_padded 2 n
  have hmarks : isStampChar '-' = true ∧ isStampChar 'T' = true := by decide
  unfold iso
  simp only [List.all_append, List.all_cons, htwo, hmarks, all_isStampChar_yearText,
    all_isStampChar_clock, all_isStampChar_fraction,
    all_isStampChar_offsetText (show [':'].all isStampChar = true by decide), Bool.and_self]

theorem breaks_commonLog (t : LocalTime) : breaks t.commonLog = [] :=
  breaks_of_all (by decide) (by decide) t.all_isStampChar_commonLog

theorem breaks_iso (t : LocalTime) : breaks t.iso = [] :=
  breaks_of_all (by decide) (by decide) t.all_isStampChar_iso

end Time.LocalTime

/-- **An object is on one line.** -/
theorem Json.breaks_object (members : List (Text × Scalar)) : breaks (object members) = [] :=
  breaks_of_all (by decide) (by decide) (all_isPrinted_object members)

/-! ## 4. Lines -/

namespace Log.AccessEntry

/-- **No text of an entry holds a line break.** -/
structure IsUnbroken (e : AccessEntry) : Prop where
  remoteAddr : breaks e.remoteAddr = []
  method : breaks e.method = []
  uri : breaks e.uri = []
  httpVersion : breaks e.httpVersion = []
  referer : ∀ t ∈ e.referer, breaks t = []
  userAgent : ∀ t ∈ e.userAgent, breaks t = []

variable {e : AccessEntry}

theorem breaks_orDash {t : Option Text} (h : ∀ s ∈ t, breaks s = []) : breaks (orDash t) = [] := by
  cases t with
  | none => rfl
  | some s => exact h s rfl

theorem breaks_bodyBytesOrDash (e : AccessEntry) : breaks e.bodyBytesOrDash = [] := by
  unfold bodyBytesOrDash
  split
  · rfl
  · exact Digits.breaks_decimal _

/-- The characters of a number of seconds. -/
theorem all_isStampChar_secondsText (micros : Nat) :
    (secondsText micros).all Time.LocalTime.isStampChar = true := by
  have hpoint : Time.LocalTime.isStampChar '.' = true := by decide
  have hwhole (n : Nat) : (Digits.decimal n).all Time.LocalTime.isStampChar = true :=
    Time.LocalTime.all_isStampChar_of_isDigit (Digits.all_isDigit_decimal n)
  unfold secondsText
  dsimp only
  generalize (Binary64.ofQuotient ⟨micros, 1⟩).bind _ = seconds
  cases seconds with
  | none => rfl
  | some x =>
    rw [Option.map_some, Option.getD_some]
    unfold Binary64.fixed
    dsimp only
    rw [List.all_append, List.all_cons, hwhole, hpoint,
      Time.LocalTime.all_isStampChar_padded, Bool.and_self, Bool.and_self]

theorem breaks_secondsText (micros : Nat) : breaks (secondsText micros) = [] :=
  breaks_of_all (by decide) (by decide) (all_isStampChar_secondsText micros)

theorem IsUnbroken.requestLine (h : e.IsUnbroken) : breaks e.requestLine = [] := by
  unfold AccessEntry.requestLine
  rw [breaks_append, breaks_append, breaks_append, h.method, breaks_cons_of_not (by decide), h.uri,
    breaks_toList (by decide), h.httpVersion]
  rfl

theorem IsUnbroken.common (h : e.IsUnbroken) : breaks e.common = [] := by
  unfold AccessEntry.common
  simp (disch := decide) only [breaks_append, breaks_cons_of_not, breaks_toList, h.remoteAddr,
    e.time.breaks_commonLog, h.requestLine,
    Digits.breaks_decimal, breaks_bodyBytesOrDash, List.append_nil]

theorem IsUnbroken.combined (h : e.IsUnbroken) : breaks e.combined = [] := by
  unfold AccessEntry.combined
  simp (disch := decide) only [breaks_append, breaks_toList, h.common, breaks_orDash h.referer,
    breaks_orDash h.userAgent, List.append_nil]
  rfl

theorem IsUnbroken.substitutions (h : e.IsUnbroken) :
    ∀ sub ∈ e.substitutions, breaks sub.1 = [] ∧ breaks sub.2 = [] := by
  unfold AccessEntry.substitutions
  simp only [List.forall_mem_cons]
  exact ⟨⟨rfl, h.remoteAddr⟩, ⟨rfl, e.time.breaks_commonLog⟩, ⟨rfl, e.time.breaks_iso⟩,
    ⟨rfl, breaks_secondsText e.micros⟩, ⟨rfl, h.method⟩, ⟨rfl, h.uri⟩, ⟨rfl, h.requestLine⟩,
    ⟨rfl, Digits.breaks_decimal _⟩, ⟨rfl, Digits.breaks_decimal _⟩,
    ⟨rfl, breaks_orDash h.referer⟩, ⟨rfl, breaks_orDash h.userAgent⟩, List.forall_mem_nil _⟩

/-- **The line of an entry has the line breaks of its format, and no others.** -/
theorem IsUnbroken.breaks_line (h : e.IsUnbroken) (format : Text) :
    breaks (e.line format) = breaks format := by
  unfold AccessEntry.line
  split
  · next hformat =>
    rw [hformat, h.common]
    rfl
  split
  · next hformat =>
    rw [hformat, h.combined]
    rfl
  split
  · next hformat =>
    rw [hformat, json, Json.breaks_object]
    rfl
  · exact Text.breaks_foldl_replaceAll h.substitutions format

/-- What a line tells of its entry: the request in quotes, the status, and the length of the body. -/
def told (e : AccessEntry) : Text :=
  '"' :: e.requestLine ++ "\" ".toList ++ Digits.decimal e.status ++ ' ' :: e.bodyBytesOrDash

/-- The line tells this, and goes on behind a space or ends. -/
def Shows (e : AccessEntry) (line : Text) : Prop :=
  ∃ before after, line = before ++ e.told ++ after ∧ (after = [] ∨ ∃ more, after = ' ' :: more)

theorem shows_common_append (e : AccessEntry) {after : Text}
    (h : after = [] ∨ ∃ more, after = ' ' :: more) : e.Shows (e.common ++ after) := by
  refine ⟨e.remoteAddr ++ " - - [".toList ++ e.time.commonLog ++ "] ".toList, after, ?_, h⟩
  have hquote : "] \"".toList = "] ".toList ++ ['"'] := rfl
  unfold common told
  rw [hquote]
  simp only [List.append_assoc, List.cons_append, List.nil_append]

theorem shows_common (e : AccessEntry) : e.Shows e.common := by
  have hline := @shows_common_append e [] (Or.inl rfl)
  rwa [List.append_nil] at hline

theorem shows_combined (e : AccessEntry) : e.Shows e.combined := by
  have hspace : " \"".toList = ' ' :: ['"'] := rfl
  unfold combined
  rw [hspace]
  simp only [List.append_assoc, List.cons_append]
  exact e.shows_common_append (Or.inr ⟨_, rfl⟩)

end Log.AccessEntry

end Docroot

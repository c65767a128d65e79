import Docroot.Http.Wire
import Docroot.Proofs.Http.Value
import Docroot.Proofs.Text.Lowercase

/-!
# Messages as a client reads them

A client takes the lines of the head, up to the first empty one, finds the status in the first line
and the fields in the others, and learns from them how long the body is (`readMessage?`). It looks
at nothing but the octets and at whether it asked for the head alone.

A message that the server sends is read in one piece (`readMessage?_message`): no line has a
carriage return in it, so the lines are the ones that were written, whatever text is in them, and
nothing is left behind the body. No part of a message passes for one (`readMessage?_take`): reading
never looks at whether the octets end.
-/

namespace Docroot.Http

/-! ## 1. The lines of a head -/

/-- The lines before the first empty line, each without its end, and what follows the empty line;
    none where no empty line comes. What has been seen of the line at hand stands in `line`. -/
def headLines? (line : Bytes) : Bytes → Option (List Bytes × Bytes)
  | [] => none
  | [_] => none
  | b :: c :: rest =>
    if b = cr ∧ c = lf then
      if line = [] then some ([], rest)
      else (headLines? [] rest).map fun (lines, after) => (line :: lines, after)
    else headLines? (line ++ [b]) (c :: rest)

/-- A line as the server writes it: not empty, and without a carriage return. -/
structure IsLine (line : Bytes) : Prop where
  ne_nil : line ≠ []
  no_cr : cr ∉ line

/-- Octets that are no carriage return go on the line at hand. -/
theorem headLines?_append (line : Bytes) {s : Bytes} (hs : cr ∉ s) (rest : Bytes) :
    headLines? line (s ++ crlf ++ rest) = headLines? (line ++ s) (crlf ++ rest) := by
  induction s generalizing line with
  | nil => rw [List.nil_append, List.append_nil]
  | cons b s ih =>
    rw [List.mem_cons, not_or] at hs
    -- the first octet is no carriage return, so no line ends here, whatever comes next
    have hstep : headLines? line (b :: (s ++ crlf ++ rest))
        = headLines? (line ++ [b]) (s ++ crlf ++ rest) := by
      cases s with
      | nil => exact if_neg fun h => hs.1 h.1.symm
      | cons c s => exact if_neg fun h => hs.1 h.1.symm
    rw [List.cons_append, List.cons_append, hstep, ih (line ++ [b]) hs.2, List.append_assoc,
      List.singleton_append]

/-- **The lines of a head are the ones that were written**, and the body is left. -/
theorem headLines?_lines {lines : List Bytes} (h : ∀ line ∈ lines, IsLine line) (body : Bytes) :
    headLines? [] (lines.flatMap (· ++ crlf) ++ crlf ++ body) = some (lines, body) := by
  induction lines with
  | nil => rfl
  | cons line lines ih =>
    obtain ⟨hne, hcr⟩ := h line (List.mem_cons_self ..)
    have hend (rest : Bytes) : headLines? line (crlf ++ rest)
        = (headLines? [] rest).map fun (lines, after) => (line :: lines, after) :=
      (if_pos ⟨rfl, rfl⟩).trans (if_neg hne)
    rw [List.flatMap_cons, List.append_assoc, List.append_assoc, headLines?_append [] hcr,
      List.nil_append, hend, ← List.append_assoc,
      ih fun other hother => h other (List.mem_cons_of_mem _ hother)]
    rfl

/-- The lines of a head are the same whatever comes behind what is left. -/
theorem headLines?_append_right {line s : Bytes} {lines : List Bytes} {rest : Bytes}
    (h : headLines? line s = some (lines, rest)) (more : Bytes) :
    headLines? line (s ++ more) = some (lines, rest ++ more) := by
  induction line, s using headLines?.induct generalizing lines with
  | case1 line => cases h
  | case2 line b => cases h
  | case3 b c rest' hend =>
    unfold headLines? at h ⊢
    rw [if_pos hend, if_pos rfl] at h
    cases h
    exact (if_pos hend).trans (if_pos rfl)
  | case4 line b c rest' hend hline ih =>
    unfold headLines? at h
    rw [if_pos hend, if_neg hline, Option.map_eq_some_iff] at h
    obtain ⟨⟨lines', after⟩, hrest, hlines⟩ := h
    cases hlines
    have hmore := congrArg (Option.map fun p => (line :: p.1, p.2)) (ih hrest)
    exact (if_pos hend).trans ((if_neg hline).trans hmore)
  | case5 line b c rest' hend ih =>
    unfold headLines? at h
    rw [if_neg hend] at h
    exact (if_neg hend).trans (ih h)

/-! ## 2. What the lines tell -/

/-- Octets as characters, one for one. -/
def characters (s : Bytes) : Text := s.map fun b => Char.ofNat b.toNat

/-- The status that the first line tells: it names a version, and behind that a number of three
    digits. -/
def statusOf? (line : Bytes) : Option Status :=
  match cutAt 0x20 line with
  | version :: code :: _ =>
    if (version = versionStem ++ [0x30] ∨ version = versionStem ++ [0x31]) ∧ code.length = 3 then
      (Digits.read? (characters code)).bind Status.ofNat?
    else none
  | _ => none

/-- The field that another line tells: a name before the first colon, and behind it a value, with
    gaps around it or without. A line with anything in it that no field may have, such as a line
    feed, is none. -/
def fieldOf? (line : Bytes) : Option (HeaderName × HeaderValue) :=
  match cutFirst 0x3A line with
  | (name, some value) => do
    let name ← HeaderName.ofBytes? name
    let value ← HeaderValue.ofBytes? (trimGaps value)
    some (name, value)
  | _ => none

/-- **The length of the body**: none after a request for the head alone or with a status that never
    has one; else it is the one length that the fields tell, and no coding may hide it. -/
def bodyLength? (isHead : Bool) (status : Status) (fields : Headers) : Option Nat :=
  if isHead ∨ status.isBodiless then some 0
  else match Headers.values fields .transferEncoding, Headers.values fields .contentLength with
    | [], [v] => Digits.read? (characters v.bytes)
    | _, _ => none

/-- A message: its status, its header lines, and its body. -/
structure Message where
  status : Status
  lines : List Bytes
  body : Bytes

/-- **The message that begins some octets**, and what follows it. -/
def readMessage? (isHead : Bool) (s : Bytes) : Option (Message × Bytes) := do
  let (lines, rest) ← headLines? [] s
  let first ← lines.head?
  let status ← statusOf? first
  let fields ← lines.tail.mapM fieldOf?
  let length ← bodyLength? isHead status fields
  if length ≤ rest.length then
    some (⟨status, lines.tail, rest.take length⟩, rest.drop length)
  else none

/-! ## 3. The first line -/

theorem toNat_lt_of_mem_decimal {n : Nat} : ∀ c ∈ Digits.decimal n, c.toNat < 0x80 := by
  intro c hc
  have hbounds :=
    Digits.toNat_of_isDigit (List.all_eq_true.1 (Digits.all_isDigit_decimal n) c hc)
  omega

/-- **A number is read back from its octets.** -/
theorem read?_characters_decimal (n : Nat) :
    Digits.read? (characters (Utf8.encode (Digits.decimal n))) = some n := by
  have hback : characters (Utf8.encode (Digits.decimal n)) = Digits.decimal n :=
    Utf8.map_char_encode_ascii toNat_lt_of_mem_decimal
  rw [hback, Digits.read?_decimal]

theorem length_decimal_code (s : Status) : (Digits.decimal s.code).length = 3 := by
  have hmost : (Digits.decimal s.code).length ≤ 3 :=
    (Nat.length_toDigits_le_iff (by decide) (by decide)).2 (by have := s.legal; omega)
  have hleast : ¬(Digits.decimal s.code).length ≤ 2 := by
    intro h
    have := (Nat.length_toDigits_le_iff (by decide) (by decide)).1 h
    have := s.legal
    omega
  omega

theorem ofNat?_code (s : Status) : Status.ofNat? s.code = some s := dif_pos s.legal

theorem versionText_cases (d : Delivery) :
    (Utf8.encode d.versionText = versionStem ++ [0x30]
        ∨ Utf8.encode d.versionText = versionStem ++ [0x31])
      ∧ 0x20 ∉ Utf8.encode d.versionText ∧ '\r' ∉ d.versionText := by
  unfold Delivery.versionText
  split <;> decide

theorem cr_notMem_reason (s : Status) : '\r' ∉ s.reason := by
  unfold Status.reason
  split <;> decide

/-- **The status is read back from the status line.** -/
theorem statusOf?_statusLine (d : Delivery) (s : Status) : statusOf? (d.statusLine s) = some s := by
  obtain ⟨hversion, hspace, -⟩ := versionText_cases d
  have hdigits : (0x20 : UInt8) ∉ Utf8.encode (Digits.decimal s.code) := fun hm =>
    Digits.notMem_decimal (c := ' ') (by decide) s.code ((Utf8.mem_encode (by decide)).1 hm)
  have hlength : (Utf8.encode (Digits.decimal s.code)).length = 3 := by
    rw [Utf8.length_encode_ascii toNat_lt_of_mem_decimal, length_decimal_code]
  have hline : d.statusLine s = Utf8.encode d.versionText
      ++ 0x20 :: (Utf8.encode (Digits.decimal s.code) ++ 0x20 :: Utf8.encode s.reason) := by
    have hcons (t : Text) : Utf8.encode (' ' :: t) = 0x20 :: Utf8.encode t := rfl
    unfold Delivery.statusLine
    rw [Utf8.encode_append, Utf8.encode_append, hcons, hcons, List.append_assoc, List.cons_append]
  unfold statusOf?
  rw [hline, cutAt_append_sep, cutAt_of_not_mem hspace, cutAt_append_sep,
    cutAt_of_not_mem hdigits]
  show (if _ then _ else _) = _
  rw [if_pos ⟨hversion, hlength⟩, read?_characters_decimal, Option.bind_some, ofNat?_code]

theorem isLine_statusLine (d : Delivery) (s : Status) : IsLine (d.statusLine s) where
  ne_nil h := by
    have := Utf8.encode_eq_nil.1 h
    simp at this
  no_cr hm := by
    have hversion := (versionText_cases d).2.2
    have hdigits := Digits.notMem_decimal (c := '\r') (by decide) s.code
    have := (Utf8.mem_encode (s := d.versionText ++ ' ' :: Digits.decimal s.code ++ ' ' :: s.reason)
      (b := cr) (by decide)).1 hm
    rw [show Char.ofNat cr.toNat = '\r' by decide] at this
    simp [hversion, hdigits, cr_notMem_reason s] at this

/-! ## 4. The other lines -/

theorem toNat_lt_of_isTokenChar {c : Char} (h : isTokenChar c = true) : c.toNat < 0x80 := by
  have hmarks : tokenMarks.all (fun d => d.toNat < 0x80) = true := by decide
  unfold isTokenChar at h
  rcases Bool.or_eq_true_iff.1 h with h | h
  · exact Nat.lt_of_le_of_lt (Text.toNat_le_of_isAlphanum h) (by decide)
  · exact of_decide_eq_true (List.all_eq_true.1 hmarks c (List.contains_iff_mem.1 h))

theorem ne_of_isTokenChar {c : Char} (h : isTokenChar c = true) : c ≠ ':' ∧ c ≠ '\r' := by
  constructor <;> rintro rfl <;> revert h <;> decide

/-- A name is a token in small letters. -/
theorem HeaderName.text_spec (n : HeaderName) :
    n.text ≠ [] ∧ (∀ c ∈ n.text, isTokenChar c = true) ∧ Text.lowerAscii n.text = n.text := by
  have h := n.legal
  simp only [isHeaderName, isToken, Bool.and_eq_true, decide_eq_true_eq, List.all_eq_true,
    beq_iff_eq] at h
  obtain ⟨⟨⟨hne, htoken⟩, hlower⟩, -⟩ := h
  exact ⟨hne, htoken, (List.map_congr_left hlower).trans (List.map_id _)⟩

/-- **A name is read back from its octets.** -/
theorem HeaderName.ofBytes?_encode (n : HeaderName) :
    HeaderName.ofBytes? (Utf8.encode n.text) = some n := by
  obtain ⟨-, htoken, hlower⟩ := n.text_spec
  have hback : (Utf8.encode n.text).map (fun b => Char.ofNat b.toNat) = n.text :=
    Utf8.map_char_encode_ascii fun c hc => toNat_lt_of_isTokenChar (htoken c hc)
  unfold HeaderName.ofBytes?
  dsimp only
  rw [hback, hlower, dif_pos n.legal]

theorem all_isValueByte_trimGaps {s : Bytes} (h : s.all isValueByte = true) :
    (trimGaps s).all isValueByte = true := by
  unfold trimGaps
  rw [List.all_reverse, List.all_eq_true]
  intro b hb
  have hmem := (List.dropWhile_suffix isGap).mem hb
  rw [List.mem_reverse] at hmem
  exact List.all_eq_true.1 h b ((List.dropWhile_suffix isGap).mem hmem)

/-- A value as it is read: without gaps around it. -/
def HeaderValue.trimmed (v : HeaderValue) : HeaderValue :=
  ⟨trimGaps v.bytes, all_isValueByte_trimGaps v.legal⟩

theorem fieldLine_eq (field : HeaderName × HeaderValue) :
    fieldLine field = Utf8.encode field.1.text ++ 0x3A :: 0x20 :: field.2.bytes := by
  unfold fieldLine
  rw [Utf8.encode_append, List.append_assoc]
  rfl

/-- **A field is read back from its line**, the value without gaps around it. -/
theorem fieldOf?_fieldLine (field : HeaderName × HeaderValue) :
    fieldOf? (fieldLine field) = some (field.1, field.2.trimmed) := by
  have hcolon : (0x3A : UInt8) ∉ Utf8.encode field.1.text := fun hm =>
    (ne_of_isTokenChar (field.1.text_spec.2.1 _ ((Utf8.mem_encode (by decide)).1 hm))).1 rfl
  have hgap : trimGaps (0x20 :: field.2.bytes) = trimGaps field.2.bytes := rfl
  have hvalue : HeaderValue.ofBytes? (trimGaps field.2.bytes) = some field.2.trimmed :=
    dif_pos (all_isValueByte_trimGaps field.2.legal)
  unfold fieldOf?
  rw [fieldLine_eq, cutFirst_append_sep hcolon]
  dsimp only
  rw [HeaderName.ofBytes?_encode, hgap, hvalue]
  rfl

theorem isLine_fieldLine (field : HeaderName × HeaderValue) : IsLine (fieldLine field) where
  ne_nil h := by
    rw [fieldLine_eq] at h
    simp at h
  no_cr hm := by
    rw [fieldLine_eq, List.mem_append] at hm
    rcases hm with hm | hm
    · exact (ne_of_isTokenChar (field.1.text_spec.2.1 _
        ((Utf8.mem_encode (by decide)).1 hm))).2 rfl
    · have hvalue : cr ∈ field.2.bytes := by
        rcases List.mem_cons.1 hm with e | hm
        · exact absurd e (by decide)
        · rcases List.mem_cons.1 hm with e | hm
          · exact absurd e (by decide)
          · exact hm
      have := List.all_eq_true.1 field.2.legal cr hvalue
      revert this
      decide

/-- The fields of written lines are read back, one by one. -/
theorem mapM_fieldOf?_fieldLine (fields : Headers) :
    (fields.map fieldLine).mapM fieldOf? = some (fields.map fun f => (f.1, f.2.trimmed)) := by
  induction fields with
  | nil => rfl
  | cons field fields ih =>
    rw [List.map_cons, List.mapM_cons, fieldOf?_fieldLine, ih]
    rfl

theorem values_trimmed (fields : Headers) (n : HeaderName) :
    Headers.values (fields.map fun f => (f.1, f.2.trimmed)) n
      = (Headers.values fields n).map HeaderValue.trimmed := by
  unfold Headers.values
  rw [List.filter_map, List.map_map, List.map_map]
  rfl

theorem dropWhile_isGap_of_all {s : Bytes} (h : ∀ b ∈ s, isGap b = false) :
    s.dropWhile isGap = s := by
  cases s with
  | nil => rfl
  | cons b s => exact List.dropWhile_cons_of_neg (by rw [h b (List.mem_cons_self ..)]; decide)

/-- A length has no gaps around it, and is read back. -/
theorem read?_characters_ofNat (n : Nat) :
    Digits.read? (characters (HeaderValue.ofNat n).trimmed.bytes) = some n := by
  have hgap : ∀ b ∈ Utf8.encode (Digits.decimal n), isGap b = false := by
    intro b hb
    unfold isGap
    rw [Bool.or_eq_false_iff, beq_eq_false_iff_ne, beq_eq_false_iff_ne]
    constructor
    · rintro rfl
      exact Digits.notMem_decimal (c := ' ') (by decide) n ((Utf8.mem_encode (by decide)).1 hb)
    · rintro rfl
      exact Digits.notMem_decimal (c := '\t') (by decide) n ((Utf8.mem_encode (by decide)).1 hb)
  have htrimmed : (HeaderValue.ofNat n).trimmed.bytes = Utf8.encode (Digits.decimal n) := by
    show trimGaps (Utf8.encode (Digits.decimal n)) = _
    have hreverse : ∀ b ∈ (Utf8.encode (Digits.decimal n)).reverse, isGap b = false :=
      fun b hb => hgap b (List.mem_reverse.1 hb)
    unfold trimGaps
    rw [dropWhile_isGap_of_all hgap, dropWhile_isGap_of_all hreverse, List.reverse_reverse]
  rw [htrimmed, read?_characters_decimal]

/-! ## 5. Whole messages -/

/-- **The body is told by the head**: there is none where none is expected, and elsewhere its length
    is the one length given, and no coding is named. -/
def IsFramed (isHead : Bool) (status : Status) (fields : Headers) (body : Bytes) : Prop :=
  if isHead ∨ status.isBodiless then body = []
  else Headers.values fields .transferEncoding = []
    ∧ Headers.values fields .contentLength = [.ofNat body.length]

theorem bodyLength?_of_isFramed {isHead : Bool} {status : Status} {fields : Headers} {body : Bytes}
    (h : IsFramed isHead status fields body) :
    bodyLength? isHead status (fields.map fun f => (f.1, f.2.trimmed)) = some body.length := by
  unfold IsFramed at h
  unfold bodyLength?
  split at h
  · next hnone =>
    rw [if_pos hnone, h]
    rfl
  · next hsome =>
    rw [if_neg hsome, values_trimmed, values_trimmed, h.1, h.2]
    exact read?_characters_ofNat body.length

/-- **A message is read in one piece**: its status, the lines of its fields and its body are the
    ones that were sent, and nothing is left behind it. -/
theorem readMessage?_message {isHead : Bool} {d : Delivery} {r : Response}
    (h : IsFramed isHead r.status (d.fields r) (d.body r)) :
    readMessage? isHead (d.message r)
      = some (⟨r.status, (d.fields r).map fieldLine, d.body r⟩, []) := by
  have hlines : ∀ line ∈ d.statusLine r.status :: (d.fields r).map fieldLine, IsLine line := by
    intro line hline
    rcases List.mem_cons.1 hline with rfl | hline
    · exact isLine_statusLine d r.status
    · obtain ⟨field, -, rfl⟩ := List.mem_map.1 hline
      exact isLine_fieldLine field
  have hmessage : d.message r = (d.statusLine r.status :: (d.fields r).map fieldLine).flatMap
      (· ++ crlf) ++ crlf ++ d.body r := by
    unfold Delivery.message
    rw [List.flatMap_cons, List.flatMap_map]
  unfold readMessage?
  rw [hmessage, headLines?_lines hlines]
  simp only [Option.bind_eq_bind, Option.bind_some, List.head?_cons, List.tail_cons,
    statusOf?_statusLine, mapM_fieldOf?_fieldLine, bodyLength?_of_isFramed h, Nat.le_refl, if_true,
    List.take_length, List.drop_length]

/-- **A message is read the same whatever comes behind it.** -/
theorem readMessage?_append {isHead : Bool} {s rest : Bytes} {m : Message}
    (h : readMessage? isHead s = some (m, rest)) (more : Bytes) :
    readMessage? isHead (s ++ more) = some (m, rest ++ more) := by
  unfold readMessage? at h ⊢
  simp only [Option.bind_eq_bind, Option.bind_eq_some_iff] at h ⊢
  obtain ⟨⟨lines, after⟩, hlines, first, hfirst, status, hstatus, fields, hfields, length, hlength,
    h⟩ := h
  refine ⟨_, headLines?_append_right hlines more, first, hfirst, status, hstatus, fields, hfields,
    length, hlength, ?_⟩
  split at h
  · next hfits =>
    cases h
    dsimp only
    rw [if_pos (Nat.le_trans hfits (List.length_append ▸ Nat.le_add_right ..)),
      List.take_append_of_le_length hfits, List.drop_append_of_le_length hfits]
  · cases h

/-- **No part of a message is a message**, if it is not the whole. -/
theorem readMessage?_take {isHead : Bool} {s : Bytes} {m : Message}
    (h : readMessage? isHead s = some (m, [])) {n : Nat} (hn : n < s.length) :
    readMessage? isHead (s.take n) = none := by
  refine Option.eq_none_iff_forall_ne_some.2 fun ⟨m', rest⟩ hpart => ?_
  have hwhole := readMessage?_append hpart (s.drop n)
  rw [List.take_append_drop, h] at hwhole
  have hleft := (Prod.mk.inj (Option.some.inj hwhole)).2
  have hdrop : s.drop n = [] := (List.append_eq_nil_iff.1 hleft.symm).2
  exact absurd (List.drop_eq_nil_iff.1 hdrop) (by omega)

end Docroot.Http

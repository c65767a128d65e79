import Docroot.Log.Json
import Docroot.Proofs.Text.Reader

/-!
# JSON is read back

A reader of JSON, all of its grammar: blanks between tokens, the named escapes and the numbered ones
with their surrogate pairs, numbers with fraction and exponent, arrays and objects in each other
(`read?`). What is written as an object is read as the object with the same members in the same order
(`read?_object`), whatever characters their names and texts have.

No character below the space is written (`all_isPrinted_object`), so an object is on one line.
-/

namespace Docroot.Json

open Docroot.Text (Reader)
open Docroot.Text.Reader

/-! ## 1. Values -/

/-- A value of JSON. A number is the mantissa times ten to the power of the exponent. The members of
    an object are kept as they come. -/
inductive Value where
  | null
  | bool (b : Bool)
  | number (mantissa exponent : Int)
  | text (s : Text)
  | array (items : List Value)
  | object (members : List (Text × Value))

/-- The value of a member that is written. -/
def Value.ofScalar : Scalar → Value
  | .null => .null
  | .number n => .number n 0
  | .text s => .text s

/-! ## 2. Reading -/

section

variable {α : Type}

/-- What the reader takes again and again, `limit` times at most. -/
def manyUpTo (r : Reader α) : Nat → Reader (List α)
  | 0 => pure []
  | limit + 1 => fun s =>
    match r s with
    | none => some ([], s)
    | some (a, rest) => (manyUpTo r limit rest).map fun (as, rest) => (a :: as, rest)

/-- What the reader takes again and again until it refuses. A reader that takes something each time
    is not stopped before. -/
def many (r : Reader α) : Reader (List α) := fun s => manyUpTo r s.length s

/-- A blank of JSON. -/
def isSpace (c : Char) : Bool := c == ' ' || c == '\t' || c == '\n' || c == '\r'

/-- Any number of blanks of JSON, also none. -/
def spaces : Reader Unit := fun s => some ((), s.dropWhile isSpace)

/-- What the reader takes, and the blanks behind it. -/
def spaced (r : Reader α) : Reader α := do
  let a ← r
  spaces
  pure a

/-- What the reader takes any number of times, with commas between and the closing mark behind. -/
def listed (close : Char) (item : Reader α) : Reader (List α) := do
  spaces
  match ← optionally (char close) with
  | some () => pure []
  | none =>
    let first ← spaced item
    let others ← many (do spaced (char ','); spaced item)
    char close
    pure (first :: others)

end

/-- One hexadecimal digit. -/
def hexDigitReader : Reader Nat := fun s =>
  match s with
  | c :: rest => (Digits.hexValue? c).map (·, rest)
  | [] => none

/-- Four hexadecimal digits. -/
def hexUnit : Reader Nat := do
  let a ← hexDigitReader
  let b ← hexDigitReader
  let c ← hexDigitReader
  let d ← hexDigitReader
  pure (((a * 16 + b) * 16 + c) * 16 + d)

/-- The character of a numbered escape: of its four digits, or of the two halves of a pair. -/
def numberedChar : Reader Char := do
  let high ← hexUnit
  if 0xD800 ≤ high ∧ high < 0xDC00 then
    literal ['\\', 'u']
    let low ← hexUnit
    if 0xDC00 ≤ low ∧ low < 0xE000 then
      pure (Char.ofNat (0x10000 + (high - 0xD800) * 0x400 + (low - 0xDC00)))
    else refuse
  else if 0xDC00 ≤ high ∧ high < 0xE000 then refuse
  else pure (Char.ofNat high)

/-- The letters of the named escapes, and what they stand for. -/
def namedEscapes : List (Char × Char) := [
  ('"', '"'), ('\\', '\\'), ('/', '/'), ('b', Char.ofNat 8), ('f', Char.ofNat 12), ('n', '\n'),
  ('r', '\r'), ('t', '\t')]

/-- What stands behind the backslash of an escape. -/
def escapedChar : Reader Char := fun s =>
  match s with
  | [] => none
  | c :: rest =>
    match namedEscapes.lookup c with
    | some d => some (d, rest)
    | none => if c = 'u' then numberedChar rest else none

/-- One character of a string, escaped or not. -/
def stringChar : Reader Char := fun s =>
  match s with
  | [] => none
  | c :: rest =>
    if c = '\\' then escapedChar rest
    else if c = '"' ∨ c.toNat < 32 then none
    else some (c, rest)

/-- A string. -/
def stringReader : Reader Text := do
  char '"'
  let s ← many stringChar
  char '"'
  pure s

/-- A sign, if there is one; whether it is a minus. -/
def signReader : Reader Bool := fun s =>
  match s with
  | '-' :: rest => some (true, rest)
  | '+' :: rest => some (false, rest)
  | _ => some (false, s)

/-- The exponent of a number. -/
def exponentReader : Reader Int := do
  word ['e']
  let isNegative ← signReader
  let n := Digits.value (← digits 1 none)
  pure (if isNegative then -n else n)

/-- A number. Its digits begin with a zero only if that is all there is before the point. -/
def numberReader : Reader Value := do
  let minus ← optionally (char '-')
  let whole ← digits 1 none
  if 1 < whole.length ∧ whole.head? = some '0' then refuse
  else
    let places := (← optionally (do char '.'; digits 1 none)).getD []
    let power := (← optionally exponentReader).getD 0
    let n := Digits.value (whole ++ places)
    pure (.number (if minus.isSome then -n else n) (power - places.length))

/-- A name, a colon and what the reader takes. -/
def memberReader (value : Reader Value) : Reader (Text × Value) := do
  let name ← spaced stringReader
  spaced (char ':')
  let v ← value
  pure (name, v)

/-- A value in which no more than `depth` values lie in each other. -/
def valueReader : Nat → Reader Value
  | 0 => refuse
  | depth + 1 => fun s =>
    match s with
    | '\x7b' :: rest => (do
        let members ← listed '\x7d' (memberReader (valueReader depth))
        pure (.object members) : Reader Value) rest
    | '[' :: rest => (do
        let items ← listed ']' (valueReader depth)
        pure (.array items) : Reader Value) rest
    | '"' :: _ => (do
        let t ← stringReader
        pure (.text t) : Reader Value) s
    | 'n' :: _ => (do literal "null".toList; pure .null : Reader Value) s
    | 't' :: _ => (do literal "true".toList; pure (.bool true) : Reader Value) s
    | 'f' :: _ => (do literal "false".toList; pure (.bool false) : Reader Value) s
    | _ => numberReader s

/-- **The value that a text writes.** Each value takes a character, so no text has more of them in each
    other than it is long. -/
def read? (s : Text) : Option Value := readAll? (do spaces; spaced (valueReader s.length)) s

/-! ## 3. Parts -/

section

variable {α β : Type} {r : Reader β} {rest : Text}

/-- **Pieces that are read one by one are read together**, if what stands behind each is such as to
    end it. -/
theorem manyUpTo_append {write : α → Text} {value : α → β} {ends : Text → Prop}
    (hends : ∀ a rest, ends (write a ++ rest)) (hrest : ends rest) (hstop : r rest = none)
    (hread : ∀ a rest, ends rest → r (write a ++ rest) = some (value a, rest)) :
    ∀ (as : List α) {limit : Nat}, as.length ≤ limit →
      manyUpTo r limit (as.flatMap write ++ rest) = some (as.map value, rest)
  | [], 0, _ => rfl
  | [], limit + 1, _ => by
    unfold manyUpTo
    rw [List.flatMap_nil, List.nil_append, hstop]
    rfl
  | a :: as, limit + 1, hlimit => by
    have ih := manyUpTo_append hends hrest hstop hread as (Nat.le_of_succ_le_succ hlimit)
    have hnext : ends (as.flatMap write ++ rest) := by
      cases as with
      | nil => exact hrest
      | cons b as =>
        rw [List.flatMap_cons, List.append_assoc]
        exact hends b _
    unfold manyUpTo
    rw [List.flatMap_cons, List.append_assoc, hread a _ hnext]
    dsimp only
    rw [ih]
    rfl

theorem length_le_flatMap {write : α → Text} (hwrite : ∀ a, write a ≠ []) (as : List α) :
    as.length ≤ (as.flatMap write).length := by
  induction as with
  | nil => exact Nat.zero_le _
  | cons a as ih =>
    have hpos := List.length_pos_iff.2 (hwrite a)
    rw [List.flatMap_cons, List.length_append, List.length_cons]
    omega

theorem many_append {write : α → Text} {value : α → β} (ends : Text → Prop)
    (hends : ∀ a rest, ends (write a ++ rest)) (hrest : ends rest) (hstop : r rest = none)
    (hwrite : ∀ a, write a ≠ [])
    (hread : ∀ a rest, ends rest → r (write a ++ rest) = some (value a, rest)) (as : List α) :
    many r (as.flatMap write ++ rest) = some (as.map value, rest) := by
  have hlength := length_le_flatMap hwrite as
  refine manyUpTo_append hends hrest hstop hread as ?_
  rw [List.length_append]
  omega

/-- A text that begins with no blank of JSON. -/
def IsFlush (s : Text) : Prop := s.head?.any isSpace = false

theorem spaces_of_isFlush {s : Text} (h : IsFlush s) : spaces s = some ((), s) := by
  cases s with
  | nil => rfl
  | cons c rest =>
    have hfirst : isSpace c = false := h
    unfold spaces
    rw [List.dropWhile_cons_of_neg (by rw [hfirst]; exact Bool.false_ne_true)]

theorem spaced_of_eq {s : Text} {a : β} (h : r s = some (a, rest)) (hrest : IsFlush rest) :
    spaced r s = some (a, rest) := by
  unfold spaced
  rw [bind_of_eq h, bind_of_eq (spaces_of_isFlush hrest)]
  rfl

end

/-! ## 4. Strings -/

theorem hexDigitReader_hexDigit :
    ∀ n < 16, ∀ rest, hexDigitReader (Digits.hexDigit n :: rest) = some (n, rest) := by
  have hvalue : ∀ n < 16, Digits.hexValue? (Digits.hexDigit n) = some n := by decide
  intro n hn rest
  unfold hexDigitReader
  dsimp only
  rw [hvalue n hn]
  rfl

/-- **A control is read back from its numbered escape.** -/
theorem numberedChar_hexDigits {n : Nat} (h : n < 32) (rest : Text) :
    numberedChar ('0' :: '0' :: Digits.hexDigit (n / 16) :: Digits.hexDigit (n % 16) :: rest)
      = some (Char.ofNat n, rest) := by
  have hzero (rest : Text) : hexDigitReader ('0' :: rest) = some (0, rest) := rfl
  have hunit : hexUnit
      ('0' :: '0' :: Digits.hexDigit (n / 16) :: Digits.hexDigit (n % 16) :: rest)
        = some (n, rest) := by
    unfold hexUnit
    rw [bind_of_eq (hzero _), bind_of_eq (hzero _),
      bind_of_eq (hexDigitReader_hexDigit (n / 16) (by omega) _),
      bind_of_eq (hexDigitReader_hexDigit (n % 16) (by omega) _)]
    have hvalue : ((0 * 16 + 0) * 16 + n / 16) * 16 + n % 16 = n := by omega
    rw [hvalue]
    rfl
  unfold numberedChar
  rw [bind_of_eq hunit, if_neg (by omega), if_neg (by omega)]
  rfl

/-- **A character is read back from what is written for it.** -/
theorem stringChar_escapeChar (c : Char) (rest : Text) :
    stringChar (escapeChar c ++ rest) = some (c, rest) := by
  have hchar {n : Nat} (h : c.toNat = n) : c = Char.ofNat n := by rw [← h, Char.ofNat_toNat]
  unfold escapeChar
  split
  · next h =>
    subst h
    rfl
  split
  · next h =>
    subst h
    rfl
  split
  · next h =>
    subst h
    rfl
  split
  · next h =>
    subst h
    rfl
  split
  · next h =>
    subst h
    rfl
  split
  · next h =>
    rw [hchar h]
    rfl
  split
  · next h =>
    rw [hchar h]
    rfl
  split
  · next h =>
    have hread := numberedChar_hexDigits h rest
    rw [Char.ofNat_toNat] at hread
    exact hread
  · next hquote hbackslash _ _ _ _ _ hcontrol =>
    show stringChar (c :: rest) = some (c, rest)
    unfold stringChar
    dsimp only
    rw [if_neg hbackslash, if_neg (not_or.2 ⟨hquote, hcontrol⟩)]

theorem escapeChar_ne_nil (c : Char) : escapeChar c ≠ [] := by
  intro h
  have hread := stringChar_escapeChar c []
  rw [h] at hread
  cases hread

/-- **A string is read back**, whatever text it is of. -/
theorem stringReader_string (s rest : Text) :
    stringReader (string s ++ rest) = some (s, rest) := by
  have hstop : stringChar ('"' :: rest) = none := rfl
  have hmany : many stringChar (s.flatMap escapeChar ++ '"' :: rest)
      = some (s.map id, '"' :: rest) :=
    many_append (fun _ => True) (fun _ _ => trivial) trivial hstop
      escapeChar_ne_nil (fun c rest _ => stringChar_escapeChar c rest) s
  rw [List.map_id] at hmany
  have hwritten : string s ++ rest = '"' :: (s.flatMap escapeChar ++ '"' :: rest) := by
    unfold string
    simp only [List.cons_append, List.append_assoc, List.nil_append]
  unfold stringReader
  rw [hwritten, bind_of_eq (char_cons '"' _), bind_of_eq hmany, bind_of_eq (char_cons '"' _)]
  rfl

/-! ## 5. Objects -/

/-- What stands behind a member. -/
def EndsMember (s : Text) : Prop := ∃ rest, s = ',' :: rest ∨ s = '\x7d' :: rest

theorem EndsMember.isFlush {s : Text} (h : EndsMember s) : IsFlush s := by
  obtain ⟨rest, rfl | rfl⟩ := h <;> rfl

/-- **A number is read back from its digits.** -/
theorem numberReader_decimal (n : Nat) {rest : Text} (h : EndsMember rest) :
    numberReader (Digits.decimal n ++ rest) = some (.number n 0, rest) := by
  have hminus : optionally (char '-') (Digits.decimal n ++ rest)
      = some (none, Digits.decimal n ++ rest) := by
    obtain ⟨d, ds, hcons, hdigit⟩ := Digits.exists_decimal_eq_cons n
    have hne : d ≠ '-' := fun e => absurd (e ▸ hdigit) (by decide)
    rw [hcons]
    exact optionally_of_none (char_of_ne hne _)
  have hwhole : digits 1 none (Digits.decimal n ++ rest) = some (Digits.decimal n, rest) := by
    refine digits_append (Digits.all_isDigit_decimal n)
      (List.length_pos_iff.2 (Digits.decimal_ne_nil n)) ?_
    obtain ⟨more, rfl | rfl⟩ := h
    all_goals
      rintro c ⟨⟩
      rfl
  have hplaces : optionally (do char '.'; digits 1 none) rest = some (none, rest) := by
    obtain ⟨more, rfl | rfl⟩ := h <;> rfl
  have hpower : optionally exponentReader rest = some (none, rest) := by
    obtain ⟨more, rfl | rfl⟩ := h <;> rfl
  unfold numberReader
  rw [bind_of_eq hminus, bind_of_eq hwhole, if_neg (Digits.no_zero_in_front n),
    bind_of_eq hplaces, bind_of_eq hpower]
  dsimp only [Option.getD_none, Option.isSome_none]
  rw [List.append_nil, Digits.value_decimal]
  rfl

/-- **A member's value is read back.** -/
theorem valueReader_render (depth : Nat) (v : Scalar) {rest : Text} (h : EndsMember rest) :
    valueReader (depth + 1) (v.render ++ rest) = some (.ofScalar v, rest) := by
  cases v with
  | null => rfl
  | number n =>
    obtain ⟨d, ds, hcons, hdigit⟩ := Digits.exists_decimal_eq_cons n
    have hread := numberReader_decimal n h
    have hrender : (Scalar.number n).render = d :: ds := hcons
    rw [hcons, List.cons_append] at hread
    rw [hrender, List.cons_append]
    unfold valueReader
    -- a digit begins no other value
    split
    all_goals first
      | exact hread
      | next heq =>
        obtain ⟨rfl, -⟩ := List.cons.inj heq
        exact absurd hdigit (by decide)
  | text s =>
    have hread := stringReader_string s rest
    exact (bind_of_eq hread : _)

theorem isFlush_render (v : Scalar) (rest : Text) : IsFlush (v.render ++ rest) := by
  cases v with
  | null => rfl
  | number n =>
    have hdigit : ∀ c, c.isDigit = true → isSpace c = false := by
      intro c hc
      have hbounds := Digits.toNat_of_isDigit hc
      simp only [isSpace, Bool.or_eq_false_iff, beq_eq_false_iff_ne]
      refine ⟨⟨⟨?_, ?_⟩, ?_⟩, ?_⟩
      all_goals
        rintro rfl
        exact absurd hbounds (by decide)
    obtain ⟨d, ds, hcons, hd⟩ := Digits.exists_decimal_eq_cons n
    have hrender : (Scalar.number n).render = d :: ds := hcons
    rw [hrender]
    exact hdigit d hd
  | text s => rfl

/-- **A member is read back.** -/
theorem memberReader_member (depth : Nat) (m : Text × Scalar) {rest : Text} (h : EndsMember rest) :
    memberReader (valueReader (depth + 1)) (member m.1 m.2 ++ rest)
      = some ((m.1, .ofScalar m.2), rest) := by
  have hwritten : member m.1 m.2 ++ rest = string m.1 ++ (':' :: (m.2.render ++ rest)) := by
    unfold member
    rw [List.append_assoc, List.cons_append]
  have hname : spaced stringReader (member m.1 m.2 ++ rest)
      = some (m.1, ':' :: (m.2.render ++ rest)) := by
    rw [hwritten]
    exact spaced_of_eq (stringReader_string _ _) rfl
  have hcolon : spaced (char ':') (':' :: (m.2.render ++ rest)) = some ((), m.2.render ++ rest) :=
    spaced_of_eq (char_cons _ _) (isFlush_render _ _)
  unfold memberReader
  rw [bind_of_eq hname, bind_of_eq hcolon, bind_of_eq (valueReader_render depth m.2 h)]
  rfl

theorem isFlush_member (m : Text × Scalar) (rest : Text) : IsFlush (member m.1 m.2 ++ rest) := rfl

/-- The members of an object, as they are read. -/
def values (members : List (Text × Scalar)) : List (Text × Value) :=
  members.map fun m => (m.1, .ofScalar m.2)

theorem intercalate_cons (piece : Text) (pieces : List Text) :
    [','].intercalate (piece :: pieces) = piece ++ pieces.flatMap (',' :: ·) := by
  induction pieces generalizing piece with
  | nil => rw [List.intercalate_singleton, List.flatMap_nil, List.append_nil]
  | cons next pieces ih => rw [intercalate_cons_cons, ih, List.flatMap_cons, List.cons_append]

/-- **Members behind commas are read back** up to the mark that closes the object. -/
theorem many_members (depth : Nat) (members : List (Text × Scalar)) (rest : Text) :
    many (do spaced (char ','); spaced (memberReader (valueReader (depth + 1))))
        (members.flatMap (fun m => ',' :: member m.1 m.2) ++ '\x7d' :: rest)
      = some (values members, '\x7d' :: rest) := by
  have hread (m : Text × Scalar) (rest : Text) (h : EndsMember rest) :
      (do spaced (char ','); spaced (memberReader (valueReader (depth + 1))) : Reader _)
        (',' :: member m.1 m.2 ++ rest) = some ((m.1, .ofScalar m.2), rest) := by
    have hcomma : spaced (char ',') (',' :: member m.1 m.2 ++ rest)
        = some ((), member m.1 m.2 ++ rest) := spaced_of_eq (char_cons _ _) (isFlush_member m rest)
    rw [bind_of_eq hcomma]
    exact spaced_of_eq (memberReader_member depth m h) h.isFlush
  exact many_append EndsMember (fun m rest => ⟨member m.1 m.2 ++ rest, Or.inl rfl⟩)
    ⟨rest, Or.inr rfl⟩ rfl (fun m => List.cons_ne_nil _ _) hread members

/-- **The members of an object are read back.** -/
theorem listed_members (depth : Nat) (members : List (Text × Scalar)) (rest : Text) :
    listed '\x7d' (memberReader (valueReader (depth + 1)))
        ([','].intercalate (members.map fun (n, v) => member n v) ++ '\x7d' :: rest)
      = some (values members, rest) := by
  cases members with
  | nil => rfl
  | cons first others =>
    have hbehind : EndsMember (others.flatMap (fun m => ',' :: member m.1 m.2) ++ '\x7d' :: rest) := by
      cases others with
      | nil => exact ⟨rest, Or.inr rfl⟩
      | cons second others =>
        rw [List.flatMap_cons, List.cons_append, List.cons_append]
        exact ⟨_, Or.inl rfl⟩
    have hwritten : [','].intercalate ((first :: others).map fun (n, v) => member n v)
          ++ '\x7d' :: rest
        = member first.1 first.2
          ++ (others.flatMap (fun m => ',' :: member m.1 m.2) ++ '\x7d' :: rest) := by
      rw [List.map_cons, intercalate_cons, List.flatMap_map, List.append_assoc]
    have hopen := isFlush_member first
      (others.flatMap (fun m => ',' :: member m.1 m.2) ++ '\x7d' :: rest)
    have hfirst := spaced_of_eq (memberReader_member depth first hbehind) hbehind.isFlush
    unfold listed
    rw [hwritten, bind_of_eq (spaces_of_isFlush hopen), bind_of_eq (optionally_of_none rfl)]
    dsimp only
    rw [bind_of_eq hfirst, bind_of_eq (many_members depth others rest),
      bind_of_eq (char_cons '\x7d' rest)]
    rfl

/-- **An object is read back**, all its members in their order. -/
theorem read?_object (members : List (Text × Scalar)) :
    read? (object members) = some (.object (values members)) := by
  have hwritten : object members = '\x7b' ::
      ([','].intercalate (members.map fun (n, v) => member n v) ++ ['\x7d']) := by
    unfold object
    rw [List.cons_append]
  obtain ⟨depth, hdepth⟩ : ∃ depth, (object members).length = depth + 1 + 1 := by
    rw [hwritten, List.length_cons, List.length_append, List.length_singleton]
    exact ⟨_, rfl⟩
  have hvalue : valueReader (depth + 1 + 1) (object members)
      = some (.object (values members), []) := by
    rw [hwritten]
    exact bind_of_eq (listed_members depth members [])
  have hopen : IsFlush (object members) := by
    rw [hwritten]
    rfl
  unfold read? readAll?
  rw [hdepth, bind_of_eq (spaces_of_isFlush hopen), spaced_of_eq hvalue rfl]

/-! ## 6. Characters -/

/-- A character from the space on. -/
def isPrinted (c : Char) : Bool := 32 ≤ c.toNat

theorem all_isPrinted_escapeChar (c : Char) : (escapeChar c).all isPrinted = true := by
  have hdigit : ∀ n < 16, isPrinted (Digits.hexDigit n) = true := by decide
  unfold escapeChar
  -- the seven characters that have an escape of their own
  iterate 7
    split
    · decide
  split
  · next hcontrol =>
    have hhigh := hdigit (c.toNat / 16) (by omega)
    have hlow := hdigit (c.toNat % 16) (by omega)
    simp only [List.all_cons, List.all_nil, hhigh, hlow]
    decide
  · next hprinted =>
    rw [List.all_cons, isPrinted, decide_eq_true (Nat.le_of_not_lt hprinted)]
    rfl

theorem all_isPrinted_string (s : Text) : (string s).all isPrinted = true := by
  have hquote : isPrinted '"' = true := by decide
  have hall : (s.flatMap escapeChar).all isPrinted = true := by
    rw [List.all_flatMap]
    exact List.all_eq_true.2 fun c _ => all_isPrinted_escapeChar c
  unfold string
  rw [List.all_append, List.all_cons, List.all_cons, hall, hquote]
  rfl

theorem all_isPrinted_member (m : Text × Scalar) : (member m.1 m.2).all isPrinted = true := by
  have hcolon : isPrinted ':' = true := by decide
  have hrender : m.2.render.all isPrinted = true := by
    cases m.2 with
    | null => decide
    | number n =>
      refine List.all_eq_true.2 fun c hc => ?_
      have hbounds := Digits.toNat_of_isDigit (List.all_eq_true.1 (Digits.all_isDigit_decimal n) c hc)
      exact decide_eq_true (by omega)
    | text s => exact all_isPrinted_string s
  unfold member
  rw [List.all_append, List.all_cons, all_isPrinted_string, hcolon, hrender]
  rfl

/-- **No character below the space is written.** -/
theorem all_isPrinted_object (members : List (Text × Scalar)) :
    (object members).all isPrinted = true := by
  have hmarks : isPrinted '\x7b' = true ∧ isPrinted '\x7d' = true ∧ isPrinted ',' = true := by
    decide
  unfold object
  cases members with
  | nil => decide
  | cons first others =>
    have hothers : ((others.map fun (n, v) => member n v).flatMap (',' :: ·)).all isPrinted
        = true := by
      rw [List.all_flatMap, List.all_map]
      refine List.all_eq_true.2 fun m _ => ?_
      rw [Function.comp_apply, List.all_cons, all_isPrinted_member, hmarks.2.2]
      rfl
    rw [List.map_cons, intercalate_cons, List.all_append, List.all_cons, List.all_append,
      all_isPrinted_member, hothers, hmarks.1, List.all_cons, hmarks.2.1]
    rfl

end Docroot.Json

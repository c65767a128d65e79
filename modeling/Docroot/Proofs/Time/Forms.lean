import Docroot.Proofs.Time.HttpDate

/-!
# The three forms of a date

A date is written in three forms, each under the name of its weekday: the mail form, the form with
dashes and the form of C's clock. Behind the letters of the name the forms differ at once, so each of
the three readers takes its own form and refuses the other two, whatever the name (sections 3 to 5).
What the one reader makes of the text is the date that was written, and it is an instant under the
name of its own weekday alone (`instant?_readingOf`).

The year has four digits in two of the forms. The form with dashes has the last two, which are enough
for the years from 1970 to 2069.
-/

namespace Docroot.Time

open Docroot.Text (IsSolid isSolid_cons isSolid_of_all_isDigit)
open Docroot.Text.Reader

/-! ## 1. The names of a day -/

/-- The full name of a day. -/
def fullDayName (d : Nat) : Text := dayName d ++ dayNameEndings.getD d []

/-- The names of a day: its three letters, and its full name. -/
def dayNamesOf (d : Nat) : List Text := [dayName d, fullDayName d]

theorem mem_dayNamesOf_iff {d : Nat} {name : Text} :
    name ∈ dayNamesOf d ↔ name = dayName d ∨ name = fullDayName d := by
  simp [dayNamesOf]

/-- A full name goes on with no blank and no comma, and not with a month. -/
theorem dayNameEndings_spec : ∀ d < 7,
    dayNameEndings.getD d [] ≠ [] ∧ IsSolid (dayNameEndings.getD d [])
      ∧ ([',', ' '].all fun c =>
        (dayNameEndings.getD d []).head?.any (fun e => c.toLower != e.toLower)) = true
      ∧ ∀ month ∈ monthNames, month.length = ((dayNameEndings.getD d []).take 3).length
        ∧ Text.lowerAscii ((dayNameEndings.getD d []).take 3) ≠ Text.lowerAscii month := by
  decide

/-- **A day is known by each of its names.** -/
theorem shortOrLongDay_name {d : Nat} (h : d < 7) {name : Text} (hname : name ∈ dayNamesOf d)
    {c : Char} (hc : c ∈ [',', ' ']) (rest : Text) :
    HttpDate.shortOrLongDay (name ++ c :: rest) = some (d, c :: rest) := by
  obtain ⟨-, -, hother, -⟩ := dayNameEndings_spec d h
  unfold HttpDate.shortOrLongDay
  rcases mem_dayNamesOf_iff.1 hname with rfl | rfl
  · rw [bind_of_eq (wordFrom_dayName h _),
      bind_of_eq (optionally_of_none (word_cons_of_ne (List.all_eq_true.1 hother c hc) rest))]
    rfl
  · unfold fullDayName
    rw [List.append_assoc, bind_of_eq (wordFrom_dayName h _),
      bind_of_eq (optionally_of_eq (word_append _ _))]
    rfl

theorem isSolid_name {d : Nat} (h : d < 7) {name : Text} (hname : name ∈ dayNamesOf d)
    (rest : Text) : IsSolid (name ++ rest) := by
  rcases mem_dayNamesOf_iff.1 hname with rfl | rfl
  · exact HttpDate.isSolid_dayName h rest
  · unfold fullDayName
    rw [List.append_assoc]
    exact HttpDate.isSolid_dayName h _

/-- What a full name adds is no month. -/
theorem wordFrom_monthNames_ending {d : Nat} (h : d < 7) (rest : Text) :
    wordFrom 1 monthNames (dayNameEndings.getD d [] ++ rest) = none := by
  obtain ⟨-, -, -, hmonth⟩ := dayNameEndings_spec d h
  refine wordFrom_of_none (fun month hmem => ?_) 1
  obtain ⟨hlen, hne⟩ := hmonth month hmem
  rw [← List.take_append_drop 3 (dayNameEndings.getD d []), List.append_assoc]
  exact word_append_of_ne hlen hne _

/-- A comma begins no month. -/
theorem wordFrom_monthNames_comma (rest : Text) :
    wordFrom 1 monthNames (',' :: rest) = none := by
  have hletters : ∀ month ∈ monthNames,
      month.head?.any (fun e => ','.toLower != e.toLower) = true := by decide
  exact wordFrom_of_none (fun month hmem => word_cons_of_ne (hletters month hmem) rest) 1

namespace HttpDate

/-! ## 2. Dates as written -/

/-- The mail form of a date, under the name of a day. -/
def mailDate (name : Text) (c : Civil) : Text :=
  name ++ [',', ' '] ++ twoDigits c.date.day ++ ' ' :: monthName c.date.month
    ++ ' ' :: yearText c.date.year ++ ' ' :: clock c ++ " GMT".toList

/-- The form with dashes, under the name of a day. Of the year the last two digits are written. -/
def dashDate (name : Text) (c : Civil) : Text :=
  name ++ [',', ' '] ++ twoDigits c.date.day ++ '-' :: monthName c.date.month
    ++ '-' :: twoDigits (c.date.year % 100).toNat ++ ' ' :: clock c ++ " GMT".toList

/-- The form of C's clock, under the name of a day. A day of one digit has a space in front. -/
def clockDate (name : Text) (c : Civil) : Text :=
  name ++ ' ' :: monthName c.date.month ++ ' ' :: Text.padLeft 2 ' ' (Digits.decimal c.date.day)
    ++ ' ' :: clock c ++ ' ' :: yearText c.date.year

/-! ## 3. Parts of dates -/

theorem readMail?_of_mailWeekday {s : Text} (hs : IsSolid s) (hday : mailWeekday s = none) :
    readMail? s = none := by
  have hform : mailForm s = none := by
    unfold mailForm
    rw [bind_of_eq (blanks_of_isSolid hs), bind_of_none _ hday]
  unfold readMail?
  rw [hform]

theorem loose_twoDigits {low high n : Nat} (hlow : low ≤ n) (hhigh : n ≤ high) (hmost : high ≤ 99)
    (rest : Text) : loose low high (twoDigits n ++ rest) = some (n, rest) := by
  unfold loose
  rw [bind_of_eq (blanks_of_isSolid (isSolid_twoDigits n rest))]
  exact number_twoDigits (by decide) hlow hhigh hmost rest

theorem loose_decimal {low high n : Nat} (hlow : low ≤ n) (hhigh : n ≤ high) (hmost : high ≤ 99)
    (rest : Text) : loose low high (Digits.decimal n ++ ' ' :: rest) = some (n, ' ' :: rest) := by
  have hsolid : IsSolid (Digits.decimal n ++ ' ' :: rest) :=
    (isSolid_of_all_isDigit (Digits.all_isDigit_decimal n)).append (Digits.decimal_ne_nil n) _
  have hleast : 1 ≤ (Digits.decimal n).length :=
    List.length_pos_iff.2 (Digits.decimal_ne_nil n)
  have htwo : (Digits.decimal n).length ≤ 2 :=
    (Nat.length_toDigits_le_iff (by decide) (by decide)).2 (by omega)
  unfold loose
  rw [bind_of_eq (blanks_of_isSolid hsolid)]
  refine number_decimal hleast htwo hlow hhigh ?_
  rintro e ⟨⟩
  rfl

/-- **A time of day is read part by part.** -/
theorem looseClock_clock {c : Civil} (h : c.IsWritable) (rest : Text) :
    looseClock (clock c ++ rest) = some ((c.hour, c.minute, c.second), rest) := by
  have hsecond : c.second ≤ 60 := Nat.le_succ_of_le h.second
  unfold clock looseClock
  simp only [List.append_assoc, List.cons_append]
  rw [bind_of_eq (loose_twoDigits (Nat.zero_le _) h.hour (by decide) _),
    bind_of_eq (char_cons ':' _),
    bind_of_eq (loose_twoDigits (Nat.zero_le _) h.minute (by decide) _),
    bind_of_eq (char_cons ':' _),
    bind_of_eq (loose_twoDigits (Nat.zero_le _) hsecond (by decide) _)]
  rfl

theorem isSolid_clock (c : Civil) (rest : Text) : IsSolid (clock c ++ rest) := by
  unfold clock
  simp only [List.append_assoc]
  exact isSolid_twoDigits _ _

/-- Spaces in front of a day are passed over. -/
theorem blanks_paddedDay (n : Nat) (rest : Text) :
    blanks (' ' :: (Text.padLeft 2 ' ' (Digits.decimal n) ++ rest))
      = some ((), Digits.decimal n ++ rest) := by
  have hsolid : IsSolid (Digits.decimal n ++ rest) :=
    (isSolid_of_all_isDigit (Digits.all_isDigit_decimal n)).append (Digits.decimal_ne_nil n) rest
  have hspaces : ∀ e ∈ ' ' :: List.replicate (2 - (Digits.decimal n).length) ' ',
      Text.isBlank e = true := by
    intro e he
    rcases List.mem_cons.1 he with rfl | he
    · decide
    · rw [List.eq_of_mem_replicate he]
      decide
  unfold blanks Text.padLeft
  rw [List.append_assoc, ← List.cons_append, Text.trimStart_append_blanks hspaces,
    Text.trimStart_of_isSolid hsolid]

/-- **A year of four digits is read.** -/
theorem clockYear_yearText {y : Int} (hy : 0 ≤ y ∧ y ≤ 9999) (rest : Text) :
    clockYear (yearText y ++ rest) = some (y, rest) := by
  have hall := Digits.all_isDigit_padded 4 y.toNat
  have hlen : (Digits.padded 4 y.toNat).length = 4 :=
    Digits.length_padded ((Nat.length_toDigits_le_iff (by decide) (by decide)).2 (by omega))
  have hdigits := digits_append_of_length hall hlen (by decide : 1 ≤ 4) rest
  have hvalue := Digits.value_padded 4 y.toNat
  unfold clockYear
  rw [Text.trimStart_of_isSolid (isSolid_yearText hy rest)]
  unfold yearText
  rw [if_pos hy]
  -- a year that begins with a digit begins with no sign
  obtain ⟨e, ds, he⟩ := List.exists_cons_of_ne_nil (Text.padded_ne_nil 4 y.toNat)
  rw [he, List.all_cons, Bool.and_eq_true] at hall
  have hsign : e ≠ '-' ∧ e ≠ '+' := by
    constructor <;> rintro rfl <;> exact absurd hall.1 (by decide)
  rw [he, List.cons_append] at hdigits ⊢
  split
  · next heq => exact absurd (List.cons.inj heq).1 hsign.1
  · next heq => exact absurd (List.cons.inj heq).1 hsign.2
  · rw [hdigits, Option.map_some, ← he]
    dsimp only
    rw [hvalue, Int.toNat_of_nonneg hy.1]

/-! ## 4. The mail form -/

section

variable {c : Civil} (h : c.IsWritable) {d : Nat} (hd : d < 7) {name : Text}
include hd

/-- A name without a comma behind it is no weekday of the mail form. -/
theorem mailWeekday_of_ne {e : Char} (he : e ≠ ',') (rest : Text) :
    mailWeekday (dayName d ++ e :: rest) = none := by
  unfold mailWeekday
  rw [wordFrom_dayName hd]
  split
  · next heq =>
    cases heq
    exact absurd rfl he
  · rfl
  · next heq => cases heq

theorem mailWeekday_fullDayName (rest : Text) : mailWeekday (fullDayName d ++ rest) = none := by
  obtain ⟨hne, -, hother, -⟩ := dayNameEndings_spec d hd
  obtain ⟨e, ending, he⟩ := List.exists_cons_of_ne_nil hne
  have hcomma : e ≠ ',' := by
    have hletter := List.all_eq_true.1 hother ',' (by decide)
    rw [he] at hletter
    exact fun heq => bne_iff_ne.1 hletter (by rw [heq])
  unfold fullDayName
  rw [List.append_assoc, he, List.cons_append]
  exact mailWeekday_of_ne hd hcomma _

include h in
/-- **The mail form is read under the three letters of a day.** -/
theorem readMail?_mailDate : readMail? (mailDate (dayName d) c) = some (readingOf d c) :=
  readMail?_ofCivil (c := { c with weekday := d }) { h with weekday := hd }

theorem readMail?_mailDate_fullDayName : readMail? (mailDate (fullDayName d) c) = none := by
  unfold mailDate
  simp only [List.append_assoc]
  exact readMail?_of_mailWeekday (isSolid_name hd (mem_dayNamesOf_iff.2 (Or.inr rfl)) _)
    (mailWeekday_fullDayName hd _)

include h in
/-- The form with dashes is no mail: it has no blank behind the day. -/
theorem readMail?_dashDate (hname : name ∈ dayNamesOf d) : readMail? (dashDate name c) = none := by
  have hsolid := isSolid_name hd hname
  unfold dashDate
  simp only [List.append_assoc, List.cons_append, List.nil_append]
  rcases mem_dayNamesOf_iff.1 hname with rfl | rfl
  · have hdash (rest : Text) : IsSolid ('-' :: rest) := isSolid_cons (by decide) rest
    unfold readMail? mailForm
    rw [bind_of_eq (blanks_of_isSolid (hsolid _)), bind_of_eq (mailWeekday_dayName hd _),
      bind_of_eq (blanks_space (isSolid_twoDigits _ _)),
      bind_of_eq (number_twoDigits (by decide) h.day.1 h.day.2 (by decide) _),
      bind_of_none _ (someBlanks_of_isSolid (hdash _))]
  · exact readMail?_of_mailWeekday (hsolid _) (mailWeekday_fullDayName hd _)

/-- The form of C's clock is no mail: it has no comma. -/
theorem readMail?_clockDate (hname : name ∈ dayNamesOf d) :
    readMail? (clockDate name c) = none := by
  have hsolid := isSolid_name hd hname
  unfold clockDate
  simp only [List.append_assoc]
  refine readMail?_of_mailWeekday (hsolid _) ?_
  rcases mem_dayNamesOf_iff.1 hname with rfl | rfl
  · exact mailWeekday_of_ne hd (by decide) _
  · exact mailWeekday_fullDayName hd _

/-! ## 5. The form with dashes -/

include h in
/-- **The form with dashes is read under every name of a day**, in the years that its two digits
    stand for. -/
theorem dashForm_dashDate (hyear : 1970 ≤ c.date.year ∧ c.date.year ≤ 2069)
    (hname : name ∈ dayNamesOf d) :
    readAll? dashForm (dashDate name c) = some (readingOf d c) := by
  have hgmt : " GMT".toList = ' ' :: ("GMT".toList ++ []) := by decide
  have hlast : IsSolid ("GMT".toList ++ []) := by decide
  have hform : dashForm (dashDate name c) = some (readingOf d c, []) := by
    unfold dashDate dashForm
    rw [hgmt]
    simp only [List.append_assoc, List.cons_append, List.nil_append]
    rw [bind_of_eq (shortOrLongDay_name hd hname (by decide) _), bind_of_eq (char_cons ',' _),
      bind_of_eq (blanks_space (isSolid_twoDigits _ _)),
      bind_of_eq (loose_twoDigits h.day.1 h.day.2 (by decide) _), bind_of_eq (char_cons '-' _),
      bind_of_eq (wordFrom_monthName h.month _), bind_of_eq (char_cons '-' _),
      bind_of_eq (loose_twoDigits (Nat.zero_le _) (by omega) (by decide) _),
      bind_of_eq (blanks_space (isSolid_clock c _)), bind_of_eq (looseClock_clock h _)]
    dsimp only
    rw [bind_of_eq (blanks_space hlast), bind_of_eq (literal_append _ _)]
    -- the two digits with their century are the year
    have hshort : (if (c.date.year % 100).toNat < 70 then 2000 + ((c.date.year % 100).toNat : Int)
        else 1900 + ((c.date.year % 100).toNat : Int)) = c.date.year := by
      split <;> omega
    rw [hshort]
    rfl
  unfold readAll?
  rw [hform]

include h in
/-- The mail form has no dash behind the day. -/
theorem dashForm_mailDate (hname : name ∈ dayNamesOf d) :
    readAll? dashForm (mailDate name c) = none := by
  have hform : dashForm (mailDate name c) = none := by
    unfold mailDate dashForm
    simp only [List.append_assoc, List.cons_append, List.nil_append]
    rw [bind_of_eq (shortOrLongDay_name hd hname (by decide) _), bind_of_eq (char_cons ',' _),
      bind_of_eq (blanks_space (isSolid_twoDigits _ _)),
      bind_of_eq (loose_twoDigits h.day.1 h.day.2 (by decide) _),
      bind_of_none _ (char_of_ne (by decide) _)]
  unfold readAll?
  rw [hform]

/-- The form of C's clock has no comma. -/
theorem dashForm_clockDate (hname : name ∈ dayNamesOf d) :
    readAll? dashForm (clockDate name c) = none := by
  have hform : dashForm (clockDate name c) = none := by
    unfold clockDate dashForm
    simp only [List.append_assoc, List.cons_append]
    rw [bind_of_eq (shortOrLongDay_name hd hname (by decide) _),
      bind_of_none _ (char_of_ne (by decide) _)]
  unfold readAll?
  rw [hform]

/-! ## 6. The form of C's clock -/

include h in
/-- **The form of C's clock is read under the three letters of a day.** -/
theorem clockForm_clockDate :
    readAll? clockForm (clockDate (dayName d) c) = some (readingOf d c) := by
  have hyear := clockYear_yearText h.year []
  have hsolid := isSolid_yearText h.year []
  rw [List.append_nil] at hyear hsolid
  have hform : clockForm (clockDate (dayName d) c) = some (readingOf d c, []) := by
    unfold clockDate clockForm
    simp only [List.append_assoc, List.cons_append]
    rw [bind_of_eq (wordFrom_dayName hd _),
      bind_of_eq (blanks_space (isSolid_monthName h.month _)),
      bind_of_eq (wordFrom_monthName h.month _), bind_of_eq (blanks_paddedDay _ _),
      bind_of_eq (loose_decimal h.day.1 h.day.2 (by decide) _),
      bind_of_eq (blanks_space (isSolid_clock c _)), bind_of_eq (looseClock_clock h _)]
    dsimp only
    rw [bind_of_eq (blanks_space hsolid), bind_of_eq hyear]
    rfl
  unfold readAll?
  rw [hform]

/-- What goes on with neither a blank nor a month is not in the form of C's clock. -/
theorem clockForm_eq_none {s : Text} (hs : IsSolid s) (hmonth : wordFrom 1 monthNames s = none) :
    readAll? clockForm (dayName d ++ s) = none := by
  have hform : clockForm (dayName d ++ s) = none := by
    unfold clockForm
    rw [bind_of_eq (wordFrom_dayName hd _), bind_of_eq (blanks_of_isSolid hs),
      bind_of_none _ hmonth]
  unfold readAll?
  rw [hform]

theorem clockForm_fullDayName (rest : Text) :
    readAll? clockForm (fullDayName d ++ rest) = none := by
  obtain ⟨hne, hsolid, -⟩ := dayNameEndings_spec d hd
  unfold fullDayName
  rw [List.append_assoc]
  exact clockForm_eq_none hd (hsolid.append hne rest) (wordFrom_monthNames_ending hd rest)

theorem clockForm_comma (hname : name ∈ dayNamesOf d) (rest : Text) :
    readAll? clockForm (name ++ ',' :: rest) = none := by
  rcases mem_dayNamesOf_iff.1 hname with rfl | rfl
  · exact clockForm_eq_none hd (isSolid_cons (by decide) rest) (wordFrom_monthNames_comma rest)
  · exact clockForm_fullDayName hd _

end

/-! ## 7. The instant -/

/-- No date has blank characters around it. -/
theorem trim_dates {c : Civil} (hyear : 0 ≤ c.date.year ∧ c.date.year ≤ 9999) {d : Nat}
    (hd : d < 7) {name : Text} (hname : name ∈ dayNamesOf d) :
    Text.trim (mailDate name c) = mailDate name c ∧ Text.trim (dashDate name c) = dashDate name c
      ∧ Text.trim (clockDate name c) = clockDate name c := by
  have hsolid := isSolid_name hd hname
  have hgmt (front : Text) : IsSolid (front ++ " GMT".toList).reverse := by
    rw [List.reverse_append]
    exact isSolid_cons (by decide) _
  have hend (front : Text) : IsSolid (front ++ ' ' :: yearText c.date.year).reverse := by
    have hdigits : IsSolid (yearText c.date.year).reverse := by
      unfold yearText
      rw [if_pos hyear]
      exact isSolid_of_all_isDigit (List.all_reverse.trans (Digits.all_isDigit_padded _ _))
    have hne : (yearText c.date.year).reverse ≠ [] := by
      unfold yearText
      rw [if_pos hyear]
      exact List.reverse_ne_nil_iff.2 (Text.padded_ne_nil _ _)
    rw [List.reverse_append, List.reverse_cons, List.append_assoc]
    exact hdigits.append hne _
  refine ⟨Text.trim_of_isSolid ?_ (hgmt _), Text.trim_of_isSolid ?_ (hgmt _),
    Text.trim_of_isSolid ?_ (hend _)⟩
  · unfold mailDate
    simp only [List.append_assoc]
    exact hsolid _
  · unfold dashDate
    simp only [List.append_assoc]
    exact hsolid _
  · unfold clockDate
    simp only [List.append_assoc]
    exact hsolid _

/-- What is read of a text is what one of the three forms makes of it, the first that does. -/
theorem read?_of_trim {s : Text} (h : Text.trim s = s) :
    read? s = ((readMail? s).bind Reading.instant?).or
      (((readAll? dashForm s).bind Reading.instant?).or
        ((readAll? clockForm s).bind Reading.instant?)) := by
  unfold read?
  dsimp only
  rw [h]
  cases (readMail? s).bind Reading.instant? with
  | some t => rfl
  | none => cases (readAll? dashForm s).bind Reading.instant? <;> rfl

section

variable {t : Instant} (h : t.HasFourDigitYear) {d : Nat} (hd : d < 7)

include h hd

theorem read?_mailDate : read? (mailDate (dayName d) (Civil.ofSecs t.secs))
    = if d = (Civil.ofSecs t.secs).weekday then some t.floor else none := by
  have hname : dayName d ∈ dayNamesOf d := mem_dayNamesOf_iff.2 (Or.inl rfl)
  have hclock : readAll? clockForm (mailDate (dayName d) (Civil.ofSecs t.secs)) = none := by
    unfold mailDate
    simp only [List.append_assoc]
    exact clockForm_comma hd hname _
  rw [read?_of_trim (trim_dates h hd hname).1, readMail?_mailDate h.isWritable hd,
    dashForm_mailDate h.isWritable hd hname, hclock, Option.bind_some, Option.bind_none,
    Option.or_none, Option.or_none, instant?_readingOf h]

theorem read?_mailDate_fullDayName :
    read? (mailDate (fullDayName d) (Civil.ofSecs t.secs)) = none := by
  have hname : fullDayName d ∈ dayNamesOf d := mem_dayNamesOf_iff.2 (Or.inr rfl)
  have hclock : readAll? clockForm (mailDate (fullDayName d) (Civil.ofSecs t.secs)) = none := by
    unfold mailDate
    simp only [List.append_assoc]
    exact clockForm_fullDayName hd _
  rw [read?_of_trim (trim_dates h hd hname).1, readMail?_mailDate_fullDayName hd,
    dashForm_mailDate h.isWritable hd hname, hclock]
  rfl

theorem read?_clockDate : read? (clockDate (dayName d) (Civil.ofSecs t.secs))
    = if d = (Civil.ofSecs t.secs).weekday then some t.floor else none := by
  have hname : dayName d ∈ dayNamesOf d := mem_dayNamesOf_iff.2 (Or.inl rfl)
  rw [read?_of_trim (trim_dates h hd hname).2.2, readMail?_clockDate hd hname,
    dashForm_clockDate hd hname, clockForm_clockDate h.isWritable hd, Option.bind_none,
    Option.none_or, Option.none_or, Option.bind_some, instant?_readingOf h]

theorem read?_clockDate_fullDayName :
    read? (clockDate (fullDayName d) (Civil.ofSecs t.secs)) = none := by
  have hname : fullDayName d ∈ dayNamesOf d := mem_dayNamesOf_iff.2 (Or.inr rfl)
  have hclock : readAll? clockForm (clockDate (fullDayName d) (Civil.ofSecs t.secs)) = none := by
    unfold clockDate
    simp only [List.append_assoc]
    exact clockForm_fullDayName hd _
  rw [read?_of_trim (trim_dates h hd hname).2.2, readMail?_clockDate hd hname,
    dashForm_clockDate hd hname, hclock]
  rfl

theorem read?_dashDate (hyear : 1970 ≤ (Civil.ofSecs t.secs).date.year
      ∧ (Civil.ofSecs t.secs).date.year ≤ 2069) {name : Text} (hname : name ∈ dayNamesOf d) :
    read? (dashDate name (Civil.ofSecs t.secs))
      = if d = (Civil.ofSecs t.secs).weekday then some t.floor else none := by
  have hclock : readAll? clockForm (dashDate name (Civil.ofSecs t.secs)) = none := by
    unfold dashDate
    simp only [List.append_assoc]
    exact clockForm_comma hd hname _
  rw [read?_of_trim (trim_dates h hd hname).2.1, readMail?_dashDate h.isWritable hd hname,
    dashForm_dashDate h.isWritable hd hyear hname, hclock, Option.bind_none, Option.none_or,
    Option.bind_some, Option.or_none, instant?_readingOf h]

end

/-- **A form that is read back**: under the right names of the weekday as the instant, and under any
    name of another weekday not at all. -/
structure IsReadBack (form : Text → Text) (right : List Text) (t : Instant) : Prop where
  own : ∀ name ∈ right, read? (form name) = some t.floor
  other : ∀ d < 7, d ≠ (Civil.ofSecs t.secs).weekday → ∀ name ∈ dayNamesOf d,
    read? (form name) = none

section

variable {t : Instant} (h : t.HasFourDigitYear)

include h

theorem isReadBack_mailDate : IsReadBack (mailDate · (Civil.ofSecs t.secs))
    [dayName (Civil.ofSecs t.secs).weekday] t where
  own name hname := by
    rw [List.mem_singleton.1 hname, read?_mailDate h h.isWritable.weekday, if_pos rfl]
  other d hd hne name hname := by
    rcases mem_dayNamesOf_iff.1 hname with rfl | rfl
    · rw [read?_mailDate h hd, if_neg hne]
    · exact read?_mailDate_fullDayName h hd

theorem isReadBack_clockDate : IsReadBack (clockDate · (Civil.ofSecs t.secs))
    [dayName (Civil.ofSecs t.secs).weekday] t where
  own name hname := by
    rw [List.mem_singleton.1 hname, read?_clockDate h h.isWritable.weekday, if_pos rfl]
  other d hd hne name hname := by
    rcases mem_dayNamesOf_iff.1 hname with rfl | rfl
    · rw [read?_clockDate h hd, if_neg hne]
    · exact read?_clockDate_fullDayName h hd

theorem isReadBack_dashDate (hyear : 1970 ≤ (Civil.ofSecs t.secs).date.year
      ∧ (Civil.ofSecs t.secs).date.year ≤ 2069) :
    IsReadBack (dashDate · (Civil.ofSecs t.secs)) (dayNamesOf (Civil.ofSecs t.secs).weekday) t where
  own name hname := by
    rw [read?_dashDate h h.isWritable.weekday hyear hname, if_pos rfl]
  other d hd hne name hname := by
    rw [read?_dashDate h hd hyear hname, if_neg hne]

end

/-- **Dates are read back in all three forms**, to the second, before 1970 too. What `format` writes
    is the mail form. In each form the weekday must be the right one, and blank characters around a
    text make no difference to what is read. -/
theorem forms_are_read_back (t : Instant) (h : t.HasFourDigitYear) :
    format t = .ok (mailDate (dayName (Civil.ofSecs t.secs).weekday) (Civil.ofSecs t.secs))
      ∧ IsReadBack (mailDate · (Civil.ofSecs t.secs)) [dayName (Civil.ofSecs t.secs).weekday] t
      ∧ IsReadBack (clockDate · (Civil.ofSecs t.secs)) [dayName (Civil.ofSecs t.secs).weekday] t
      ∧ (1970 ≤ (Civil.ofSecs t.secs).date.year ∧ (Civil.ofSecs t.secs).date.year ≤ 2069 →
          IsReadBack (dashDate · (Civil.ofSecs t.secs))
            (dayNamesOf (Civil.ofSecs t.secs).weekday) t)
      ∧ ∀ s before after : Text, (∀ c ∈ before, Text.isBlank c = true) →
          (∀ c ∈ after, Text.isBlank c = true) → read? (before ++ s ++ after) = read? s := by
  refine ⟨format_of_hasDate h.hasDate, isReadBack_mailDate h, isReadBack_clockDate h,
    isReadBack_dashDate h, ?_⟩
  intro s before after hbefore hafter
  unfold read?
  dsimp only
  rw [Text.trim_append_blanks hbefore hafter]

/-- The last second of 29 February 2000, a Tuesday, in the three forms, under another name, and with
    blank characters around it. -/
theorem leapDay_is_read_back :
    format ⟨951868799, 0⟩ = .ok "Tue, 29 Feb 2000 23:59:59 GMT".toList
      ∧ read? "Tue, 29 Feb 2000 23:59:59 GMT".toList = some ⟨951868799, 0⟩
      ∧ read? "Tue Feb 29 23:59:59 2000".toList = some ⟨951868799, 0⟩
      ∧ read? "Tuesday, 29-Feb-00 23:59:59 GMT".toList = some ⟨951868799, 0⟩
      ∧ read? "Wednesday, 29-Feb-00 23:59:59 GMT".toList = none
      ∧ read? " \tTue Feb 29 23:59:59 2000 ".toList = some ⟨951868799, 0⟩ := by
  have hcivil : Civil.ofSecs 951868799 = ⟨⟨2000, 2, 29⟩, 2, 23, 59, 59⟩ := by decide
  obtain ⟨hformat, hmail, hclock, hdash, hblanks⟩ := forms_are_read_back ⟨951868799, 0⟩ (by decide)
  dsimp only at hformat hmail hclock hdash
  rw [hcivil] at hformat hmail hclock hdash
  have hmailText : mailDate (dayName 2) ⟨⟨2000, 2, 29⟩, 2, 23, 59, 59⟩
      = "Tue, 29 Feb 2000 23:59:59 GMT".toList := by decide
  have hclockText : clockDate (dayName 2) ⟨⟨2000, 2, 29⟩, 2, 23, 59, 59⟩
      = "Tue Feb 29 23:59:59 2000".toList := by decide
  have hdashText : dashDate (fullDayName 2) ⟨⟨2000, 2, 29⟩, 2, 23, 59, 59⟩
      = "Tuesday, 29-Feb-00 23:59:59 GMT".toList := by decide
  have hotherText : dashDate (fullDayName 3) ⟨⟨2000, 2, 29⟩, 2, 23, 59, 59⟩
      = "Wednesday, 29-Feb-00 23:59:59 GMT".toList := by decide
  have hblank : " \tTue Feb 29 23:59:59 2000 ".toList
      = [' ', '\t'] ++ "Tue Feb 29 23:59:59 2000".toList ++ [' '] := by decide
  have hown := hclock.own _ (List.mem_singleton_self _)
  have hother := (hdash (by decide)).other 3 (by decide) (by rw [hcivil]; decide) (fullDayName 3)
    (by decide)
  have hbefore : ∀ c ∈ [' ', '\t'], Text.isBlank c = true :=
    List.all_eq_true.1 (by decide : [' ', '\t'].all Text.isBlank = true)
  have hafter : ∀ c ∈ [' '], Text.isBlank c = true := List.forall_mem_singleton.2 (by decide)
  rw [← hmailText, ← hclockText, ← hdashText, ← hotherText, hblank,
    hblanks _ _ _ hbefore hafter, ← hclockText]
  exact ⟨hformat, hmail.own _ (List.mem_singleton_self _), hown, (hdash (by decide)).own _ (by decide),
    hother, hown⟩

end HttpDate

end Docroot.Time

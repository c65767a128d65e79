import Docroot.Proofs.Text.Reader
import Docroot.Proofs.Time.Calendar
import Docroot.Time.HttpDate
import Docroot.Time.HttpDate.Read

/-!
# Dates are read back

A date that is written in the form of HTTP is read in the first of the three forms, part by part
(`mailForm_ofCivil`), and it is the instant that was meant, to the second (`read?_ofCivil`). This
holds for all years of four digits, leading zeros counted: a year of more digits is written with a
sign, which no form reads.
-/

namespace Docroot.Time

open Docroot.Text (IsSolid isSolid_cons isSolid_padded padded_ne_nil)
open Docroot.Text.Reader

/-! ## 1. What the form has room for -/

/-- A date and time of which each part is written in its own room. -/
structure Civil.IsWritable (c : Civil) : Prop where
  weekday : c.weekday < 7
  day : 1 ≤ c.date.day ∧ c.date.day ≤ 31
  month : 1 ≤ c.date.month ∧ c.date.month ≤ 12
  year : 0 ≤ c.date.year ∧ c.date.year ≤ 9999
  hour : c.hour ≤ 23
  minute : c.minute ≤ 59
  second : c.second ≤ 59

theorem monthLength_le (year : Int) (month : Nat) : monthLength year month ≤ 31 := by
  unfold monthLength
  split
  · split <;> decide
  · split <;> decide

theorem Instant.HasFourDigitYear.isWritable {t : Instant} (h : t.HasFourDigitYear) :
    (Civil.ofSecs t.secs).IsWritable := by
  have hdate : (Civil.ofSecs t.secs).date = Date.ofDays (t.secs / 86400) := rfl
  obtain ⟨hmonth, hmonth12, hday, hlength⟩ := day_ofDays (t.secs / 86400)
  rw [← hdate] at hmonth hmonth12 hday hlength
  obtain ⟨hhour, hminute, hsecond⟩ := clock_ofSecs t.secs
  exact ⟨weekday_lt _, ⟨hday, Nat.le_trans hlength (monthLength_le _ _)⟩, ⟨hmonth, hmonth12⟩, h,
    hhour, hminute, hsecond⟩

/-! ## 2. Names -/

theorem dayNames_spec : (∀ t ∈ dayNames, t.length = 3) ∧ (dayNames.map Text.lowerAscii).Nodup
    ∧ ∀ d < 7, dayNames[d]? = some (dayName d) ∧ dayName d ≠ [] ∧ IsSolid (dayName d) := by
  decide

theorem monthNames_spec : (∀ t ∈ monthNames, t.length = 3)
    ∧ (monthNames.map Text.lowerAscii).Nodup
    ∧ ∀ m < 12, monthNames[m]? = some (monthName (m + 1)) ∧ monthName (m + 1) ≠ []
        ∧ IsSolid (monthName (m + 1)) := by
  decide

/-- **A day is known by its name.** -/
theorem wordFrom_dayName {d : Nat} (h : d < 7) (rest : Text) :
    wordFrom 0 dayNames (dayName d ++ rest) = some (d, rest) := by
  obtain ⟨hlen, hnodup, hnames⟩ := dayNames_spec
  rw [wordFrom_append hlen hnodup (hnames d h).1, Nat.zero_add]

/-- **A month is known by its name.** -/
theorem wordFrom_monthName {m : Nat} (h : 1 ≤ m ∧ m ≤ 12) (rest : Text) :
    wordFrom 1 monthNames (monthName m ++ rest) = some (m, rest) := by
  obtain ⟨hlen, hnodup, hnames⟩ := monthNames_spec
  have hname := (hnames (m - 1) (by omega)).1
  rw [Nat.sub_add_cancel h.1] at hname
  rw [wordFrom_append hlen hnodup hname, Nat.add_sub_cancel' h.1]

namespace HttpDate

/-- An instant with a date has one form of HTTP. -/
theorem format_of_hasDate {t : Instant} (h : t.hasDate = true) :
    format t = .ok (ofCivil (Civil.ofSecs t.secs)) := by
  unfold format Instant.toSeconds
  rw [h]
  rfl

theorem format_of_not_hasDate {t : Instant} (h : t.hasDate = false) :
    format t = .error .outOfRange := by
  unfold format Instant.toSeconds
  rw [h]
  rfl

/-! ## 3. The mail form -/

theorem mailWeekday_dayName {d : Nat} (h : d < 7) (rest : Text) :
    mailWeekday (dayName d ++ ',' :: rest) = some (some d, rest) := by
  unfold mailWeekday
  rw [wordFrom_dayName h]
  rfl

/-- **A year of four digits is itself.** -/
theorem mailYear_yearText {y : Int} (h : 0 ≤ y ∧ y ≤ 9999) (rest : Text) :
    mailYear (yearText y ++ ' ' :: rest) = some (y, ' ' :: rest) := by
  have hlen : (Digits.padded 4 y.toNat).length = 4 :=
    Digits.length_padded ((Nat.length_toDigits_le_iff (by decide) (by decide)).2 (by omega))
  have hdigits : digits 2 none (Digits.padded 4 y.toNat ++ ' ' :: rest)
      = some (Digits.padded 4 y.toNat, ' ' :: rest) := by
    refine digits_append (Digits.all_isDigit_padded 4 y.toNat) (by omega) ?_
    intro c hc
    cases hc
    rfl
  unfold yearText mailYear
  rw [if_pos h, bind_of_eq hdigits, hlen, Digits.value_padded, if_neg (by decide),
    if_neg (by decide), Int.toNat_of_nonneg h.1]
  rfl

theorem isSolid_twoDigits (n : Nat) (rest : Text) : IsSolid (twoDigits n ++ rest) :=
  (isSolid_padded 2 n).append (padded_ne_nil 2 n) rest

theorem isSolid_yearText {y : Int} (h : 0 ≤ y ∧ y ≤ 9999) (rest : Text) :
    IsSolid (yearText y ++ rest) := by
  unfold yearText
  rw [if_pos h]
  exact (isSolid_padded 4 y.toNat).append (padded_ne_nil 4 y.toNat) rest

theorem isSolid_dayName {d : Nat} (h : d < 7) (rest : Text) : IsSolid (dayName d ++ rest) := by
  obtain ⟨-, hne, hsolid⟩ := dayNames_spec.2.2 d h
  exact hsolid.append hne rest

theorem isSolid_monthName {m : Nat} (h : 1 ≤ m ∧ m ≤ 12) (rest : Text) :
    IsSolid (monthName m ++ rest) := by
  obtain ⟨-, hne, hsolid⟩ := monthNames_spec.2.2 (m - 1) (by omega)
  rw [Nat.sub_add_cancel h.1] at hne hsolid
  exact hsolid.append hne rest

/-- A two-digit number within bounds is read, whatever stands behind. -/
theorem number_twoDigits {least low high n : Nat} (hleast : least ≤ 2) (hlow : low ≤ n)
    (hhigh : n ≤ high) (h : high ≤ 99) (rest : Text) :
    number least 2 low high (twoDigits n ++ rest) = some (n, rest) :=
  have hn : (Digits.decimal n).length ≤ 2 :=
    (Nat.length_toDigits_le_iff (by decide) (by decide)).2 (by omega)
  number_padded hleast hn hlow hhigh rest

theorem zone_gmt : zone "GMT".toList = some (0, []) := by rfl

/-- What a date says that is written in GMT under the name of the day `d`. -/
def readingOf (d : Nat) (c : Civil) : Reading :=
  ⟨some d, c.date, c.hour, c.minute, c.second, 0⟩

/-- **A written date is read part by part.** -/
theorem mailForm_ofCivil {c : Civil} (h : c.IsWritable) :
    mailForm (ofCivil c) = some (readingOf c.weekday c, []) := by
  have hsecond : c.second ≤ 60 := Nat.le_succ_of_le h.second
  have hzone : IsSolid "GMT".toList := by decide
  have hcolon (rest : Text) : IsSolid (':' :: rest) := isSolid_cons (by decide) rest
  have hseconds (rest : Text) :
      optionally (do blanks; char ':') (':' :: rest) = some (some (), rest) := by
    refine optionally_of_eq ?_
    rw [bind_of_eq (blanks_of_isSolid (hcolon rest))]
    exact char_cons ':' rest
  -- each part with all that stands behind it, as the readers meet them
  have htext : ofCivil c = dayName c.weekday ++ ',' :: ' ' :: (twoDigits c.date.day ++ ' ' ::
      (monthName c.date.month ++ ' ' :: (yearText c.date.year ++ ' ' :: (twoDigits c.hour ++ ':' ::
        (twoDigits c.minute ++ ':' :: (twoDigits c.second ++ ' ' :: "GMT".toList)))))) := by
    have hgmt : " GMT".toList = ' ' :: "GMT".toList := by decide
    unfold ofCivil clock
    rw [hgmt]
    simp only [List.append_assoc, List.cons_append, List.nil_append]
  unfold mailForm
  rw [htext, bind_of_eq (blanks_of_isSolid (isSolid_dayName h.weekday _)),
    bind_of_eq (mailWeekday_dayName h.weekday _),
    bind_of_eq (blanks_space (isSolid_twoDigits _ _)),
    bind_of_eq (number_twoDigits (by decide) h.day.1 h.day.2 (by decide) _),
    bind_of_eq (someBlanks_space (isSolid_monthName h.month _)),
    bind_of_eq (wordFrom_monthName h.month _),
    bind_of_eq (someBlanks_space (isSolid_yearText h.year _)),
    bind_of_eq (mailYear_yearText h.year _),
    bind_of_eq (someBlanks_space (isSolid_twoDigits _ _)),
    bind_of_eq (number_twoDigits (by decide) (Nat.zero_le _) h.hour (by decide) _),
    bind_of_eq (blanks_of_isSolid (hcolon _)), bind_of_eq (char_cons ':' _),
    bind_of_eq (blanks_of_isSolid (isSolid_twoDigits _ _)),
    bind_of_eq (number_twoDigits (by decide) (Nat.zero_le _) h.minute (by decide) _),
    bind_of_eq (hseconds _), if_pos Option.isSome_some,
    bind_of_eq (number_twoDigits (by decide) (Nat.zero_le _) hsecond (by decide) _)]
  dsimp only
  rw [bind_of_eq (someBlanks_space hzone), bind_of_eq zone_gmt]
  rfl

theorem readMail?_ofCivil {c : Civil} (h : c.IsWritable) :
    readMail? (ofCivil c) = some (readingOf c.weekday c) := by
  unfold readMail?
  rw [mailForm_ofCivil h]
  rfl

/-! ## 4. The instant -/

/-- A reading in GMT, with the weekday of its date and no leap second. -/
theorem Reading.instant?_of_isValid (r : Reading) (hvalid : r.date.isValid = true)
    (hweekday : r.weekday = some (Time.weekday r.date.toDays)) (hoffset : r.offset = 0)
    (hsecond : r.second ≠ 60) {t : Instant}
    (hsecs : secsOf r.date r.hour r.minute r.second = t.secs) (hdate : t.hasDate = true) :
    r.instant? = some t.floor := by
  have hfloor : t.floor.hasDate = true := hdate
  unfold Reading.instant?
  rw [hvalid, hweekday, hoffset, Option.all_some, beq_self_eq_true, if_neg hsecond]
  dsimp only
  rw [hsecs, Int.sub_zero]
  exact if_pos hfloor

/-- Under the name of another weekday a date is no instant. -/
theorem Reading.instant?_of_ne (r : Reading) {d : Nat} (hweekday : r.weekday = some d)
    (h : d ≠ Time.weekday r.date.toDays) : r.instant? = none := by
  unfold Reading.instant?
  rw [hweekday, Option.all_some, beq_eq_false_iff_ne.2 h, Bool.and_false, Bool.false_and]
  rfl

/-- **What was written of an instant is the instant under the name of its own weekday**, and nothing
    under another. -/
theorem instant?_readingOf {t : Instant} (h : t.HasFourDigitYear) (d : Nat) :
    (readingOf d (Civil.ofSecs t.secs)).instant?
      = if d = (Civil.ofSecs t.secs).weekday then some t.floor else none := by
  have hweekday : (Civil.ofSecs t.secs).weekday = weekday (Civil.ofSecs t.secs).date.toDays :=
    congrArg weekday (toDays_ofDays (t.secs / 86400)).symm
  have hsecond : (Civil.ofSecs t.secs).second ≠ 60 := by
    have := (clock_ofSecs t.secs).2.2
    omega
  have hvalid := h.isValid
  have hsecs := secsOf_ofSecs t.secs
  -- what is known of the parts is enough; how they were found does not matter any more
  generalize Civil.ofSecs t.secs = c at hweekday hsecond hvalid hsecs ⊢
  split
  · next heq =>
    exact Reading.instant?_of_isValid (readingOf d c) hvalid
      (congrArg some (heq.trans hweekday)) rfl hsecond hsecs h.hasDate
  · next hne =>
    exact Reading.instant?_of_ne (readingOf d c) rfl fun e => hne (e.trans hweekday.symm)

theorem isSolid_ofCivil {c : Civil} (h : c.IsWritable) : IsSolid (ofCivil c) := by
  unfold ofCivil
  simp only [List.append_assoc]
  exact isSolid_dayName h.weekday _

/-- A written date has no blank characters around it. -/
theorem trim_ofCivil {c : Civil} (h : c.IsWritable) : Text.trim (ofCivil c) = ofCivil c := by
  unfold Text.trim
  rw [Text.trimStart_of_isSolid (isSolid_ofCivil h)]
  unfold ofCivil
  rw [show " GMT".toList = " GM".toList ++ ['T'] by decide, ← List.append_assoc]
  exact Text.trimEnd_concat _ 'T' (by decide)

/-- **A written date is read as the instant that it was written for**, rounded down to the second,
    before 1970 too. -/
theorem read?_ofCivil {t : Instant} (h : t.HasFourDigitYear) :
    read? (ofCivil (Civil.ofSecs t.secs)) = some t.floor := by
  unfold read?
  dsimp only
  rw [trim_ofCivil h.isWritable, readMail?_ofCivil h.isWritable, Option.bind_some,
    instant?_readingOf h, if_pos rfl]

end HttpDate

end Docroot.Time

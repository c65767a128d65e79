import Docroot.Time.Calendar

/-!
# The calendar, there and back

A day number is taken apart by the cycles of the calendar, and the date that results leads back to
the same number (`toDays_ofDays`). The date exists: its month is one of twelve and its day is within
the month, with the leap day only where there is one (`day_ofDays`). So the seconds since 1970
are read off a date and a time of day again (`secsOf_ofSecs`), before 1970 too.
-/

namespace Docroot.Time

/-! ## 1. The cycles -/

/-- The parts of a day number are within their bounds. Day 365 is the leap day: it ends the last of
    four years, but not the last of a century, unless that ends the 400 years. -/
structure CycleDay.IsPlace (c : CycleDay) : Prop where
  century : c.century ≤ 3
  olympiad : c.olympiad ≤ 24
  year : c.year ≤ 3
  day : c.day ≤ 365
  leapDay : c.day = 365 → c.year = 3 ∧ (c.olympiad = 24 → c.century = 3)

theorem isPlace_cycleDay (n : Int) : (cycleDay n).IsPlace := by
  unfold cycleDay
  dsimp only
  have hlt : ((n + epochShift) % 146097).toNat < 146097 := by omega
  generalize ((n + epochShift) % 146097).toNat = inCycle at hlt ⊢
  constructor <;> dsimp only <;> omega

/-- **The parts make up the day number.** -/
theorem days_cycleDay (n : Int) :
    (cycleDay n).cycle * 146097
      + ((cycleDay n).century * 36524 + (cycleDay n).olympiad * 1461 + (cycleDay n).year * 365
        + (cycleDay n).day : Nat) - epochShift = n := by
  unfold cycleDay
  dsimp only
  omega

/-- The year of a day, counted from March. -/
def CycleDay.marchYear (c : CycleDay) : Int :=
  c.cycle * 400 + (c.century * 100 + c.olympiad * 4 + c.year : Nat)

/-- **The year leads back to the cycles**: to the 400 years it is in, and to the days before it in
    them. -/
theorem CycleDay.IsPlace.marchYear {c : CycleDay} (h : c.IsPlace) :
    c.marchYear / 400 = c.cycle
      ∧ (c.marchYear % 400).toNat * 365 + (c.marchYear % 400).toNat / 4
          - (c.marchYear % 400).toNat / 100
        = c.century * 36524 + c.olympiad * 1461 + c.year * 365 := by
  obtain ⟨hcentury, holympiad, hyear, -, -⟩ := h
  have hin : (c.marchYear % 400).toNat = c.century * 100 + c.olympiad * 4 + c.year := by
    unfold CycleDay.marchYear
    omega
  have hfour : (c.century * 100 + c.olympiad * 4 + c.year) / 4 = c.century * 25 + c.olympiad := by
    omega
  have hhundred : (c.century * 100 + c.olympiad * 4 + c.year) / 100 = c.century := by omega
  rw [hin, hfour, hhundred]
  refine ⟨?_, by omega⟩
  unfold CycleDay.marchYear
  omega

/-- The leap day stands at the end of a year before a leap year, as years begin in January. -/
theorem CycleDay.IsPlace.isLeapYear {c : CycleDay} (h : c.IsPlace) (hday : c.day = 365) :
    Time.isLeapYear (c.marchYear + 1) = true := by
  obtain ⟨hyear, hcentury⟩ := h.leapDay hday
  have holympiad := h.olympiad
  have hthree := h.century
  unfold Time.isLeapYear CycleDay.marchYear
  rw [Bool.and_eq_true, Bool.or_eq_true, beq_iff_eq, beq_iff_eq, bne_iff_ne, hyear]
  by_cases hlast : c.olympiad = 24
  · have hc := hcentury hlast
    omega
  · omega

/-! ## 2. Months -/

/-- The month and the day of a day of the year, counted from 1 March: they are in the months' bounds
    and lead back to it, and only the last day of a leap year is 29 February. -/
theorem monthDay_spec : ∀ d < 366,
    (monthDay d).1 < 12 ∧ 1 ≤ (monthDay d).2
      ∧ (153 * (monthDay d).1 + 2) / 5 + (monthDay d).2 = d + 1
      ∧ ((monthDay d).1 = 11 → (monthDay d).2 ≤ 29 ∧ ((monthDay d).2 = 29 → d = 365))
      ∧ ((monthDay d).1 ∈ [1, 3, 6, 8] → (monthDay d).2 ≤ 30)
      ∧ (monthDay d).2 ≤ 31 := by
  decide +kernel

/-! ## 3. Dates -/

theorem ofDays_eq (n : Int) :
    Date.ofDays n
      = if (monthDay (cycleDay n).day).1 < 10 then
          ⟨(cycleDay n).marchYear, (monthDay (cycleDay n).day).1 + 3, (monthDay (cycleDay n).day).2⟩
        else
          ⟨(cycleDay n).marchYear + 1, (monthDay (cycleDay n).day).1 - 9,
            (monthDay (cycleDay n).day).2⟩ := rfl

/-- **A day number comes back from its date.** -/
theorem toDays_ofDays (n : Int) : (Date.ofDays n).toDays = n := by
  have hplace := isPlace_cycleDay n
  have hdays := days_cycleDay n
  rw [ofDays_eq]
  generalize cycleDay n = c at hplace hdays ⊢
  obtain ⟨hcycle, hyears⟩ := hplace.marchYear
  obtain ⟨hmonth, hday, hback, -⟩ := monthDay_spec c.day (Nat.lt_succ_of_le hplace.day)
  generalize (monthDay c.day).1 = m at hmonth hback ⊢
  generalize (monthDay c.day).2 = day at hday hback ⊢
  unfold Date.toDays
  split
  · next hm =>
    have h3 : ¬m + 3 ≤ 2 := by omega
    dsimp only
    rw [if_neg h3, if_neg h3, hcycle, hyears, Nat.add_sub_cancel]
    omega
  · next hm =>
    have h9 : m - 9 ≤ 2 := by omega
    have hm9 : m - 9 + 9 = m := by omega
    dsimp only
    rw [if_pos h9, if_pos h9, Int.add_sub_cancel, hcycle, hyears, hm9]
    omega

/-- **The date of a day number is in the calendar**, whatever its year. -/
theorem day_ofDays (n : Int) :
    1 ≤ (Date.ofDays n).month ∧ (Date.ofDays n).month ≤ 12 ∧ 1 ≤ (Date.ofDays n).day
      ∧ (Date.ofDays n).day ≤ monthLength (Date.ofDays n).year (Date.ofDays n).month := by
  have hplace := isPlace_cycleDay n
  rw [ofDays_eq]
  generalize cycleDay n = c at hplace ⊢
  obtain ⟨hmonth, hday, -, hfebruary, hshort, hlong⟩ :=
    monthDay_spec c.day (Nat.lt_succ_of_le hplace.day)
  have hleap := hplace.isLeapYear
  generalize (monthDay c.day).1 = m at hmonth hfebruary hshort ⊢
  generalize (monthDay c.day).2 = day at hday hfebruary hshort hlong ⊢
  simp only [List.mem_cons, List.not_mem_nil, or_false] at hshort
  unfold monthLength
  split
  · next hm =>
    dsimp only
    refine ⟨by omega, by omega, hday, ?_⟩
    rw [if_neg (by omega)]
    split <;> omega
  · next hm =>
    dsimp only
    refine ⟨by omega, by omega, hday, ?_⟩
    split
    · -- February: the 29th is there in leap years alone
      obtain ⟨hlast, hlastDay⟩ := hfebruary (by omega)
      by_cases h29 : day = 29
      · rw [hleap (hlastDay h29), h29]
        exact Nat.le_refl 29
      · split <;> omega
    · rw [if_neg (by omega)]
      omega

/-- The 400 years that a date's year is in. -/
theorem year_ofDays (n : Int) :
    (n + epochShift) / 146097 * 400 ≤ (Date.ofDays n).year
      ∧ (Date.ofDays n).year ≤ (n + epochShift) / 146097 * 400 + 400 := by
  have hplace := isPlace_cycleDay n
  have hcycle : (cycleDay n).cycle = (n + epochShift) / 146097 := rfl
  obtain ⟨hcentury, holympiad, hyear, -, -⟩ := hplace
  rw [ofDays_eq, ← hcycle]
  unfold CycleDay.marchYear
  split
  · dsimp only
    omega
  · dsimp only
    omega

/-! ## 4. The time of day -/

theorem weekday_lt (n : Int) : weekday n < 7 := by
  unfold weekday
  omega

/-- The parts of a time of day are within their bounds. -/
theorem clock_ofSecs (secs : Int) :
    (Civil.ofSecs secs).hour ≤ 23 ∧ (Civil.ofSecs secs).minute ≤ 59
      ∧ (Civil.ofSecs secs).second ≤ 59 := by
  unfold Civil.ofSecs
  dsimp only
  omega

/-- **The seconds since 1970 come back from a date and a time of day.** -/
theorem secsOf_ofSecs (secs : Int) :
    secsOf (Civil.ofSecs secs).date (Civil.ofSecs secs).hour (Civil.ofSecs secs).minute
      (Civil.ofSecs secs).second = secs := by
  unfold Civil.ofSecs secsOf
  dsimp only
  rw [toDays_ofDays]
  omega

/-! ## 5. Years of four digits -/

/-- **The year of an instant has four digits**, leading zeros counted. -/
def Instant.HasFourDigitYear (t : Instant) : Prop :=
  0 ≤ (Civil.ofSecs t.secs).date.year ∧ (Civil.ofSecs t.secs).date.year ≤ 9999

instance (t : Instant) : Decidable t.HasFourDigitYear :=
  inferInstanceAs (Decidable (_ ∧ _))

section

variable {t : Instant} (h : t.HasFourDigitYear)

include h

theorem Instant.HasFourDigitYear.hasDate : t.hasDate = true := by
  obtain ⟨hfirst, hlast⟩ := h
  obtain ⟨hlow, hhigh⟩ := year_ofDays (t.secs / 86400)
  have hdate : (Civil.ofSecs t.secs).date = Date.ofDays (t.secs / 86400) := rfl
  rw [hdate] at hfirst hlast
  unfold epochShift at hlow hhigh
  unfold Instant.hasDate firstSecond lastSecond
  rw [Bool.and_eq_true, decide_eq_true_eq, decide_eq_true_eq]
  omega

theorem Instant.HasFourDigitYear.isValid : (Civil.ofSecs t.secs).date.isValid = true := by
  obtain ⟨hfirst, hlast⟩ := h
  have hdate : (Civil.ofSecs t.secs).date = Date.ofDays (t.secs / 86400) := rfl
  obtain ⟨hmonth, hmonth12, hday, hlength⟩ := day_ofDays (t.secs / 86400)
  rw [← hdate] at hmonth hmonth12 hday hlength
  unfold Date.isValid firstYear lastYear
  simp only [Bool.and_eq_true, decide_eq_true_eq]
  omega

end

end Docroot.Time

import Docroot.Time.Calendar
import Docroot.Time.HttpDate
import Docroot.Time.Names

/-!
# Local times in logs

An instant together with the offset of local time, and the two forms in which logs show it: the
common log form `06/Nov/1994:09:49:37 +0100` and the ISO form `1994-11-06T09:49:37+01:00`.

Both forms write offsets to the minute, rounded, with the sign of the unrounded offset. A leap
second is second 60.
-/

namespace Docroot.Time

/-- An instant, and how many seconds local time is ahead of UTC. -/
structure LocalTime where
  instant : Instant
  offset : Int := 0
  deriving DecidableEq, Repr

namespace LocalTime

/-- The local date and time of day; the leap second shows as second 60. -/
def civil (t : LocalTime) : Civil :=
  let c := Civil.ofSecs (t.instant.secs + t.offset)
  if 1000000000 ≤ t.instant.nanos then { c with second := c.second + 1 } else c

/-- The offset as sign, two digits of hours, `between`, and two digits of minutes. -/
def offsetText (between : Text) (t : LocalTime) : Text :=
  let minutes := (t.offset.natAbs + 30) / 60
  (if t.offset < 0 then '-' else '+') :: twoDigits (minutes / 60) ++ between
    ++ twoDigits (minutes % 60)

/-- The common log form. -/
def commonLog (t : LocalTime) : Text :=
  let c := t.civil
  twoDigits c.date.day ++ '/' :: monthName c.date.month ++ '/' :: yearText c.date.year
    ++ ':' :: HttpDate.clock c ++ ' ' :: offsetText [] t

/-- Fractions of a second in groups of three digits, as many groups as needed, after a point. -/
def fraction (nanos : Nat) : Text :=
  let n := nanos % 1000000000
  if n = 0 then []
  else if n % 1000000 = 0 then '.' :: Digits.padded 3 (n / 1000000)
  else if n % 1000 = 0 then '.' :: Digits.padded 6 (n / 1000)
  else '.' :: Digits.padded 9 n

/-- The ISO form. -/
def iso (t : LocalTime) : Text :=
  let c := t.civil
  yearText c.date.year ++ '-' :: twoDigits c.date.month ++ '-' :: twoDigits c.date.day
    ++ 'T' :: HttpDate.clock c ++ fraction t.instant.nanos ++ offsetText [':'] t

end LocalTime

end Docroot.Time

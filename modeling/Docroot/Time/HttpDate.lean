import Docroot.Time.Calendar
import Docroot.Time.Names

/-!
# The date form of HTTP

A date in a header is written in one form, always in GMT and to the second:
`Sun, 06 Nov 1994 08:49:37 GMT`. Reading also takes two older forms; see
`Docroot.Time.HttpDate.Read`.
-/

namespace Docroot.Time.HttpDate

/-- A time of day as `hh:mm:ss`. -/
def clock (c : Civil) : Text :=
  twoDigits c.hour ++ ':' :: twoDigits c.minute ++ ':' :: twoDigits c.second

/-- A date and time in the form of HTTP. -/
def ofCivil (c : Civil) : Text :=
  dayName c.weekday ++ [',', ' '] ++ twoDigits c.date.day ++ ' ' :: monthName c.date.month
    ++ ' ' :: yearText c.date.year ++ ' ' :: clock c ++ " GMT".toList

/-- **An instant in the form of HTTP**, rounded down to the second. -/
def format (t : Instant) : Except OutOfRange Text := do
  let t ← t.toSeconds
  pure (ofCivil (Civil.ofSecs t.secs))

end Docroot.Time.HttpDate

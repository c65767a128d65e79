import Docroot.Number.Digits

/-!
# Names of months and days, and how years are written

The English names that dates on the wire and in logs use, and the four-digit form of a year.
-/

namespace Docroot.Time

/-- Three letters for each month, January first. -/
def monthNames : List Text :=
  ["Jan".toList, "Feb".toList, "Mar".toList, "Apr".toList, "May".toList, "Jun".toList,
   "Jul".toList, "Aug".toList, "Sep".toList, "Oct".toList, "Nov".toList, "Dec".toList]

/-- Three letters for each day of the week, Sunday first. -/
def dayNames : List Text :=
  ["Sun".toList, "Mon".toList, "Tue".toList, "Wed".toList, "Thu".toList, "Fri".toList,
   "Sat".toList]

/-- What a day's full name adds to its three letters, Sunday first. -/
def dayNameEndings : List Text :=
  ["day".toList, "day".toList, "sday".toList, "nesday".toList, "rsday".toList, "day".toList,
   "urday".toList]

/-- The name of a month counted from 1. -/
def monthName (m : Nat) : Text := monthNames.getD (m - 1) []

/-- The name of a day of the week counted from 0. -/
def dayName (d : Nat) : Text := dayNames.getD d []

/-- A year in four digits, or with its sign and at least four digits where four do not hold it. -/
def yearText (y : Int) : Text :=
  if 0 ≤ y ∧ y ≤ 9999 then Digits.padded 4 y.toNat else Digits.signedPadded 5 y

/-- A number in two digits. -/
def twoDigits (n : Nat) : Text := Digits.padded 2 n

end Docroot.Time

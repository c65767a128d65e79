import Docroot.Text.Reader
import Docroot.Time.Calendar
import Docroot.Time.Names

/-!
# Reading dates

A recipient of HTTP takes three forms of a date:

* the mail form, `Sun, 06 Nov 1994 08:49:37 GMT`, with everything mail allows in it: no weekday, a
  day of one digit, two- and three-digit years, no seconds, time zones by name or offset, comments;
* the form with dashes, `Sunday, 06-Nov-94 08:49:37 GMT`;
* the form of C's clock, `Sun Nov  6 08:49:37 1994`.

They are tried in this order, and the first that takes the whole text wins. In all three the
weekday must be that of the date. A sixtieth second is taken as a leap second.
-/

namespace Docroot.Time.HttpDate

open Docroot.Text (Reader)
open Docroot.Text.Reader

/-- What a form says: the parts it gave, with the zone's offset in seconds. -/
structure Reading where
  weekday : Option Nat
  date : Date
  hour : Nat
  minute : Nat
  second : Nat
  offset : Int := 0

/-- The instant that was meant: the date must exist, the weekday must be its own, and the offset
    must be less than a day. The sixtieth second is the fifty-ninth and a thousand million
    nanoseconds. -/
def Reading.instant? (r : Reading) : Option Instant :=
  if r.date.isValid
      && r.weekday.all (· == Time.weekday r.date.toDays)
      && r.offset.natAbs < 86400 then
    let (second, nanos) := if r.second = 60 then (59, 1000000000) else (r.second, 0)
    let t : Instant := ⟨secsOf r.date r.hour r.minute second - r.offset, nanos⟩
    if t.hasDate then some t else none
  else none

/-! ## 1. The mail form -/

/-- The zones with a name, and their hours from GMT. -/
def namedZones : List (Text × Int) :=
  [("gmt".toList, 0), ("ut".toList, 0), ("z".toList, 0),
   ("edt".toList, -4), ("est".toList, -5), ("cdt".toList, -5), ("cst".toList, -6),
   ("mdt".toList, -6), ("mst".toList, -7), ("pdt".toList, -7), ("pst".toList, -8)]

/-- A zone by its letters: a named one, or any single letter but `J`, which says nothing about the
    zone and counts as GMT. -/
def zoneOfName (name : Text) : Option Int :=
  match namedZones.find? (Text.eqIgnoringCase name ·.1) with
  | some (_, hours) => some (hours * 3600)
  | none =>
    match name with
    | [c] => if c.toLower = 'j' then none else some 0
    | _ => none

/-- An offset of a sign, two digits for the hours and two for the minutes. -/
def numericZone : Reader Int := fun s =>
  match s with
  | sign :: rest =>
    if sign = '+' ∨ sign = '-' then
      (do
        let hours ← number 2 2 0 99
        let minutes ← number 2 2 0 59
        let secs : Int := hours * 3600 + minutes * 60
        pure (if sign = '-' then -secs else secs) : Reader Int) rest
    else none
  | [] => none

/-- A time zone, by letters or by number. -/
def zone : Reader Int := fun s =>
  match s.takeWhile Char.isAlpha with
  | [] => numericZone s
  | name => (zoneOfName name).map (·, s.drop name.length)

/-- What follows a comment of which `depth` brackets are open; a backslash hides the character
    after it. -/
def afterComment : Nat → Text → Option Text
  | _, [] => none
  | depth, '\\' :: _ :: rest => afterComment depth rest
  | depth, c :: rest =>
    if c = '(' then afterComment (depth + 1) rest
    else if c = ')' then (if depth ≤ 1 then some rest else afterComment (depth - 1) rest)
    else afterComment depth rest

/-- Only comments in round brackets, with blank characters before each. -/
def onlyComments (fuel : Nat) (s : Text) : Bool :=
  match fuel with
  | 0 => s.isEmpty
  | fuel + 1 =>
    if s.isEmpty then true
    else match Text.trimStart s with
      | '(' :: rest => ((afterComment 1 rest).map (onlyComments fuel)).getD false
      | _ => false

/-- A year as mail writes it: two digits up to 49 are in the 2000s, two digits from 50 and three
    digits count from 1900, and four or more are the year itself. -/
def mailYear : Reader Int := do
  let ds ← digits 2 none
  let n := Digits.value ds
  pure <| if ds.length = 2 then (if n < 50 then 2000 + n else 1900 + n)
    else if ds.length = 3 then 1900 + n
    else n

/-- A weekday and a comma. -/
def mailWeekday : Reader (Option Nat) := fun s =>
  match wordFrom 0 dayNames s with
  | some (d, ',' :: rest) => some (some d, rest)
  | some _ => none
  | none => some (none, s)

/-- The mail form, up to the comments after it. -/
def mailForm : Reader Reading := do
  blanks
  let weekday ← mailWeekday
  blanks
  let day ← number 1 2 1 31
  someBlanks
  let month ← wordFrom 1 monthNames
  someBlanks
  let year ← mailYear
  someBlanks
  let hour ← number 2 2 0 23
  blanks
  char ':'
  blanks
  let minute ← number 2 2 0 59
  let colon ← optionally (do blanks; char ':')
  let second ← if colon.isSome then number 2 2 0 60 else pure 0
  someBlanks
  let offset ← zone
  pure { weekday, date := ⟨year, month, day⟩, hour, minute, second, offset }

/-- The date of a text in the mail form. -/
def readMail? (s : Text) : Option Reading :=
  match mailForm s with
  | some (r, rest) => if onlyComments rest.length rest then some r else none
  | none => none

/-! ## 2. The form with dashes -/

/-- A number of one or two digits, blank characters before it, between `low` and `high`. -/
def loose (low high : Nat) : Reader Nat := do blanks; number 1 2 low high

/-- A time of day whose parts may be of one digit. -/
def looseClock : Reader (Nat × Nat × Nat) := do
  let hour ← loose 0 23
  char ':'
  let minute ← loose 0 59
  char ':'
  let second ← loose 0 60
  pure (hour, minute, second)

/-- A weekday by its three letters or its full name. -/
def shortOrLongDay : Reader Nat := do
  let d ← wordFrom 0 dayNames
  let _ ← optionally (word (dayNameEndings.getD d []))
  pure d

/-- The form with dashes. Two-digit years up to 69 are in the 2000s. -/
def dashForm : Reader Reading := do
  let weekday ← shortOrLongDay
  char ','
  blanks
  let day ← loose 1 31
  char '-'
  let month ← wordFrom 1 monthNames
  char '-'
  let short ← loose 0 99
  blanks
  let (hour, minute, second) ← looseClock
  blanks
  literal "GMT".toList
  let year : Int := if short < 70 then 2000 + short else 1900 + short
  pure { weekday := some weekday, date := ⟨year, month, day⟩, hour, minute, second }

/-! ## 3. The form of C's clock -/

/-- A year: up to four digits, or a sign and any number of digits. -/
def clockYear : Reader Int := fun s =>
  match Text.trimStart s with
  | '-' :: rest => ((digits 1 none) rest).map fun (ds, r) => (-(Digits.value ds : Int), r)
  | '+' :: rest => ((digits 1 none) rest).map fun (ds, r) => ((Digits.value ds : Int), r)
  | rest => ((digits 1 (some 4)) rest).map fun (ds, r) => ((Digits.value ds : Int), r)

/-- The form of C's clock. -/
def clockForm : Reader Reading := do
  let weekday ← wordFrom 0 dayNames
  blanks
  let month ← wordFrom 1 monthNames
  blanks
  let day ← loose 1 31
  blanks
  let (hour, minute, second) ← looseClock
  blanks
  let year ← clockYear
  pure { weekday := some weekday, date := ⟨year, month, day⟩, hour, minute, second }

/-! ## 4. The three forms -/

/-- **The instant that a date in one of the three forms names.** Blank characters around it do not
    count. -/
def read? (s : Text) : Option Instant :=
  let s := Text.trim s
  match (readMail? s).bind Reading.instant? with
  | some t => some t
  | none =>
    match (readAll? dashForm s).bind Reading.instant? with
    | some t => some t
    | none => (readAll? clockForm s).bind Reading.instant?

end Docroot.Time.HttpDate

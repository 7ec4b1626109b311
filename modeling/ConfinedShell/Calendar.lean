import ConfinedShell.Text.Blank
import ConfinedShell.Text.Column

/-!
# The calendar

What the program asks about dates it asks of a library (`Dates`): whether there is a date, on which weekday it
falls, how many days lie between two of them, and how they are written. A month is shown as a grid of weeks that
begin on Sunday. The library is only asked for the first days of this month and of the next one; how long the
month is comes of their difference.

The Gregorian calendar, carried back before its introduction, is one such library (`Dates.gregorian`). Every
fourth year is a leap year, of the full centuries every fourth. Days are counted from the last day of the year 0,
a Sunday, so that the remainder of that count by seven is the weekday.
-/

set_option autoImplicit false

namespace ConfinedShell.Calendar

/-- A day of a month of a year. -/
structure Date where
  year : Int
  month : Nat
  day : Nat
  deriving DecidableEq, Inhabited

/-- A date and a time of day. -/
structure DateTime where
  year : Int
  month : Nat
  day : Nat
  hour : Nat
  minute : Nat
  second : Nat
  deriving DecidableEq, Inhabited

/-- **A library of dates.** -/
structure Dates where
  /-- The date of a year, a month and a day, where there is one. -/
  date? : Int → Nat → Nat → Option Date
  /-- The days from the last Sunday on. -/
  weekday : Date → Nat
  /-- The days from the first date to the second. -/
  daysBetween : Date → Date → Int
  /-- The name of the month and the year. -/
  monthText : Date → String
  /-- Weekday, month, day, time and year. -/
  timeText : DateTime → String

/-! ## The grid of a month -/

/-- Cuts cells into rows of seven, the first of which begins with `row`; no row is empty. -/
def weeks (row : List String) : List String → List (List String)
  | [] => if row.isEmpty then [] else [row]
  | cell :: rest =>
    if row.length + 1 = 7 then (row ++ [cell]) :: weeks [] rest else weeks (row ++ [cell]) rest

/-- The rows of a month of `days` days, with `offset` blank cells in front of the first. -/
def monthRows (offset days : Nat) : List (List String) :=
  weeks (List.replicate offset "  ") ((List.range days).map fun i => Text.padLeft 2 (Text.decimal (i + 1)))

/-- The first day of the month after a month, where there is one. -/
def Dates.firstOfNext? (dates : Dates) (year : Int) (month : Nat) : Option Date :=
  if month = 12 then dates.date? (year + 1) 1 1 else dates.date? year (month + 1) 1

/-- A number of days as a machine word of 32 bits. -/
def dayCount (days : Int) : Nat :=
  (days % 4294967296).toNat

/-- **A month as lines of text**: its title, the weekdays and the rows. A month is shown when its first
day and that of the month after it are dates; the days of the month are those between the two. -/
def monthGrid? (dates : Dates) (year : Int) (month : Nat) : Option (List String) := do
  let first ← dates.date? year month 1
  let next ← dates.firstOfNext? year month
  let days := dayCount (dates.daysBetween first next)
  let title := Text.center 20 (dates.monthText first)
  return String.ofList (Text.trimEnd Text.isBlank title.toList) :: "Su Mo Tu We Th Fr Sa" ::
    (monthRows (dates.weekday first) days).map (Text.joinWith " ")

/-! ## The Gregorian calendar -/

/-- The first and the last year that dates may have. -/
def firstYear : Int := -262143

@[inherit_doc firstYear]
def lastYear : Int := 262142

/-- Every fourth year has a leap day, but of the full centuries only every fourth. -/
def isLeapYear (year : Int) : Bool :=
  year % 4 = 0 ∧ (year % 100 ≠ 0 ∨ year % 400 = 0)

/-- The days of a month, January being 1. -/
def monthLength (year : Int) (month : Nat) : Nat :=
  if month = 2 then if isLeapYear year then 29 else 28
  else if month = 4 ∨ month = 6 ∨ month = 9 ∨ month = 11 then 30
  else 31

/-- The days of the year before a month. -/
def daysBeforeMonth (year : Int) : Nat → Nat
  | 0 => 0
  | 1 => 0
  | month + 2 => daysBeforeMonth year (month + 1) + monthLength year (month + 1)

/-- The days from the first day of the year 1 to the first day of a year. -/
def daysBeforeYear (year : Int) : Int :=
  let years := year - 1
  365 * years + years / 4 - years / 100 + years / 400

/-- The number of a day; the first day of the year 1 has the number 1. -/
def dayNumber (year : Int) (month day : Nat) : Int :=
  daysBeforeYear year + daysBeforeMonth year month + day

/-- The weekday of a date, Sunday being 0. -/
def weekday (year : Int) (month day : Nat) : Nat :=
  (dayNumber year month day % 7).toNat

/-- A Thursday, a Tuesday in a leap year and a Friday in a year that was none. -/
example : weekday 1970 1 1 = 4 ∧ weekday 2000 2 29 = 2 ∧ weekday 1900 3 2 = 5 := by decide

/-- The names of the months in order. -/
def monthNames : List String :=
  ["January", "February", "March", "April", "May", "June", "July", "August", "September", "October",
   "November", "December"]

/-- The short names of the weekdays in order. -/
def weekdayNames : List String :=
  ["Sun", "Mon", "Tue", "Wed", "Thu", "Fri", "Sat"]

/-- The name of a month. -/
def monthName (month : Nat) : String :=
  monthNames.getD (month - 1) ""

/-- The first three letters of a month's name. -/
def shortMonthName (month : Nat) : String :=
  String.ofList ((monthName month).toList.take 3)

/-- A year has at least four digits, and a sign unless it lies between 0 and 9999. -/
def yearText (year : Int) : String :=
  if 0 ≤ year ∧ year ≤ 9999 then Text.zeroFilled 4 year.toNat
  else if year < 0 then "-" ++ Text.zeroFilled 4 year.natAbs
  else "+" ++ Text.zeroFilled 4 year.natAbs

/-- The line that tells the date and the time: weekday, month, day, time and year. -/
def DateTime.line (t : DateTime) : String :=
  Text.joinWith " "
    [weekdayNames.getD (weekday t.year t.month t.day) "",
     shortMonthName t.month,
     Text.padLeft 2 (Text.decimal t.day),
     Text.joinWith ":" [Text.zeroFilled 2 t.hour, Text.zeroFilled 2 t.minute, Text.zeroFilled 2 t.second],
     yearText t.year]

/-- A day of the calendar in a year that dates may have. -/
def isDate (year : Int) (month day : Nat) : Bool :=
  firstYear ≤ year ∧ year ≤ lastYear ∧ 1 ≤ month ∧ month ≤ 12 ∧ 1 ≤ day ∧ day ≤ monthLength year month

/-- **The library of the Gregorian calendar.** -/
def Dates.gregorian : Dates where
  date? year month day := if isDate year month day then some ⟨year, month, day⟩ else none
  weekday date := Calendar.weekday date.year date.month date.day
  daysBetween first last :=
    dayNumber last.year last.month last.day - dayNumber first.year first.month first.day
  monthText date := monthName date.month ++ " " ++ yearText date.year
  timeText := DateTime.line

end ConfinedShell.Calendar

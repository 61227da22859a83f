/-!
# Dates

Days of the Gregorian calendar, extended to all years before it began; year 0 is a leap year.

Main definitions:

* `Date`: a year, a month and a day, each counted as they are written.
* `Date.isValid`: whether there is such a day in the years that are supported.
* `Date.toDays`, `Date.ofDays`: the number of days since 1 January 1970, and the date of a number.
* `Date.text`: a date in words, such as `January 5, 2025`.
-/

namespace Folio

/-- A year, a month from 1 and a day from 1. -/
structure Date where
  year : Int
  month : Nat
  day : Nat
  deriving DecidableEq, Repr, Inhabited

namespace Date

/-- Whether a year has 366 days. -/
def isLeapYear (year : Int) : Bool :=
  year % 4 == 0 && (year % 100 != 0 || year % 400 == 0)

/-- The lengths of the months of a year. -/
def monthLengths (year : Int) : List Nat :=
  [31, if isLeapYear year then 29 else 28, 31, 30, 31, 30, 31, 31, 30, 31, 30, 31]

/-- The names of the months. -/
def monthNames : List String :=
  ["January", "February", "March", "April", "May", "June", "July", "August", "September",
    "October", "November", "December"]

/-- The first year that is supported. -/
def firstYear : Int := -262143

/-- The last year that is supported. -/
def lastYear : Int := 262142

/-- Whether the calendar has this day in the years that are supported. -/
def isValid (d : Date) : Bool :=
  firstYear ≤ d.year && d.year ≤ lastYear && 1 ≤ d.month && d.month ≤ 12
    && 1 ≤ d.day && d.day ≤ (monthLengths d.year).getD (d.month - 1) 0

/-! ## Counting days -/

/-- The number of days from 1 January 1970 to 1 January of a year. -/
def yearStart (year : Int) : Int :=
  365 * year + (year + 3) / 4 - (year + 99) / 100 + (year + 399) / 400 - 719528

/-- The number of days of a year before a month. -/
def daysBefore (year : Int) (month : Nat) : Nat :=
  ((monthLengths year).take (month - 1)).foldl (· + ·) 0

/-- The number of days from 1 January 1970 to a date. -/
def toDays (d : Date) : Int := yearStart d.year + daysBefore d.year d.month + d.day - 1

/-- The year that contains a day. The mean length of a year leads to it or to a neighbour. -/
def yearOf (days : Int) : Int :=
  let guess := (days + 719528) * 400 / 146097
  if days < yearStart guess then guess - 1
  else if yearStart (guess + 1) ≤ days then guess + 1
  else guess

/-- The month and the day in it, counted from 1, of a day counted from 0 in a span of months of
which the first is `month`. -/
def inMonths (month : Nat) : (lengths : List Nat) → (day : Nat) → Nat × Nat
  | [], day => (month, day + 1)
  | length :: lengths, day =>
    if day < length then (month, day + 1) else inMonths (month + 1) lengths (day - length)

/-- The date of a number of days since 1 January 1970. -/
def ofDays (days : Int) : Date :=
  let year := yearOf days
  let (month, day) := inMonths 1 (monthLengths year) (days - yearStart year).toNat
  ⟨year, month, day⟩

/-! ## Text -/

/-- A number with zeros before it up to a width. -/
def padded (width n : Nat) : String :=
  let digits := Nat.repr n
  .ofList (List.replicate (width - digits.length) '0') ++ digits

/-- A year in four digits. Years that do not fit have a sign. -/
def yearText (year : Int) : String :=
  if 0 ≤ year && year ≤ 9999 then padded 4 year.natAbs
  else if 0 ≤ year then "+" ++ padded 4 year.natAbs
  else "-" ++ padded 4 year.natAbs

/-- A date in words. -/
def text (d : Date) : String :=
  monthNames.getD (d.month - 1) "" ++ " " ++ Nat.repr d.day ++ ", " ++ yearText d.year

end Date

end Folio

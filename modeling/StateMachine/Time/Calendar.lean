/-!
The proleptic Gregorian calendar. Days are counted from the first day of the year zero.
-/
namespace StateMachine.Calendar

/-- The number of days before a year: one more for every leap year from the year zero on. -/
def daysBefore (year : Int) : Int := 365 * year + (year + 3) / 4 - (year + 99) / 100 + (year + 399) / 400

def isLeap (year : Int) : Bool := year % 4 = 0 && (year % 100 ≠ 0 || year % 400 = 0)

def monthLengths (year : Int) : List Nat :=
  [31, if isLeap year then 29 else 28, 31, 30, 31, 30, 31, 31, 30, 31, 30, 31]

/-- A day of the calendar; months and days are counted from one. -/
structure Date where
  year : Int
  month : Nat
  day : Nat
  deriving DecidableEq

def Date.isValid (date : Date) : Bool :=
  1 ≤ date.month && 1 ≤ date.day &&
    ((monthLengths date.year)[date.month - 1]?).any fun length => date.day ≤ length

def Date.dayNumber (date : Date) : Int :=
  let earlier := (monthLengths date.year).take (date.month - 1)
  daysBefore date.year + (earlier.foldl Nat.add (date.day - 1) : Nat)

/-- The year of a day. An average year is a little longer than 365 days, so that the quotient is at most
one year off. -/
def yearOf (day : Int) : Int :=
  let guess := day * 400 / 146097
  if day < daysBefore guess then guess - 1
  else if daysBefore (guess + 1) ≤ day then guess + 1
  else guess

/-- The month and the day in it of a day of the year, all counted from zero. -/
def splitMonths : List Nat → Nat → Nat × Nat
  | [], day => (0, day)
  | length :: lengths, day =>
    if day < length then (0, day)
    else
      let (month, day) := splitMonths lengths (day - length)
      (month + 1, day)

def Date.ofDayNumber (day : Int) : Date :=
  let year := yearOf day
  let (month, day) := splitMonths (monthLengths year) (day - daysBefore year).toNat
  ⟨year, month + 1, day + 1⟩

def epoch : Int := Date.dayNumber ⟨1970, 1, 1⟩

end StateMachine.Calendar

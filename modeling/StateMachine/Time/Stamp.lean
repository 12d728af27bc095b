import StateMachine.Text.Blank
import StateMachine.Time.Calendar
import StateMachine.Time.Instant

/-!
Time stamps: the text of an instant. Stamps are written in one form and read in many.
-/
namespace StateMachine.Stamp

open Calendar Instant

/-- Decimal digits of a number, filled up with zeros in front. -/
def padded (width n : Nat) : String :=
  let digits := toString n
  String.ofList (List.replicate (width - digits.length) '0') ++ digits

/-- Years outside 0 to 9999 carry a sign. -/
def yearText (year : Int) : String :=
  if 0 ≤ year ∧ year ≤ 9999 then padded 4 year.toNat
  else (if year < 0 then "-" else "+") ++ padded 4 year.natAbs

/-- The fraction has as many digits, in groups of three, as make it exact. -/
def fractionText (nano : Nat) : String :=
  if nano = 0 then ""
  else if nano % 1000000 = 0 then "." ++ padded 3 (nano / 1000000)
  else if nano % 1000 = 0 then "." ++ padded 6 (nano / 1000)
  else "." ++ padded 9 nano

/-- A leap second is the second sixty of its minute. -/
def write (instant : Instant) : String :=
  let date := Date.ofDayNumber (instant.second / secondsPerDay + epoch)
  let second := instant.secondOfDay.toNat
  yearText date.year ++ "-" ++ padded 2 date.month ++ "-" ++ padded 2 date.day ++ "T" ++
    padded 2 (second / 3600) ++ ":" ++ padded 2 (second / 60 % 60) ++ ":" ++
    padded 2 (second % 60 + instant.nano / nanosPerSecond) ++
    fractionText (instant.nano % nanosPerSecond) ++ "Z"

/-- A number of at least one and at most so many digits, after blanks. -/
def number? (width : Nat) (text : List Char) : Option (Nat × List Char) :=
  let text := Text.dropBlanks text
  let digits := (text.take width).takeWhile Char.isDigit
  if digits = [] then none else some (Nat.ofDigitChars 10 digits 0, text.drop digits.length)

def numberUpTo? (greatest : Nat) (text : List Char) : Option (Nat × List Char) := do
  let (n, rest) ← number? 2 text
  guard (n ≤ greatest)
  return (n, rest)

/-- A year has at most four digits, or a sign and any number of them. -/
def year? (text : List Char) : Option (Int × List Char) := do
  match Text.dropBlanks text with
  | '-' :: digits =>
    guard (digits.head?.any Char.isDigit)
    let (n, rest) ← number? digits.length digits
    return (-(n : Int), rest)
  | '+' :: digits =>
    guard (digits.head?.any Char.isDigit)
    let (n, rest) ← number? digits.length digits
    return ((n : Int), rest)
  | text =>
    let (n, rest) ← number? 4 text
    return ((n : Int), rest)

def mark? (mark : Char) (text : List Char) : Option (List Char) :=
  match Text.dropBlanks text with
  | c :: rest => if c = mark then some rest else none
  | [] => none

def date? (text : List Char) : Option (Date × List Char) := do
  let (year, text) ← year? text
  let text ← mark? '-' text
  let (month, text) ← number? 2 text
  let text ← mark? '-' text
  let (day, text) ← number? 2 text
  guard (Date.isValid ⟨year, month, day⟩)
  return (⟨year, month, day⟩, text)

def separator? : List Char → Option (List Char)
  | c :: rest => if c = 'T' ∨ c = 't' ∨ c = ' ' then some rest else none
  | [] => none

/-- Digits of a fraction beyond the ninth are dropped. -/
def fraction? : List Char → Option (Nat × List Char)
  | '.' :: text =>
    let digits := text.takeWhile Char.isDigit
    if digits = [] then none
    else
      let kept := digits.take 9
      some (Nat.ofDigitChars 10 kept 0 * Nat.pow 10 (9 - kept.length), text.dropWhile Char.isDigit)
  | text => some (0, text)

/-- The time of day as seconds and nanoseconds; the second sixty is a leap second. -/
def time? (text : List Char) : Option ((Nat × Nat) × List Char) := do
  let (hour, text) ← numberUpTo? 23 text
  let text ← mark? ':' text
  let (minute, text) ← numberUpTo? 59 text
  let text ← mark? ':' text
  let (second, text) ← numberUpTo? 60 text
  let (nano, text) ← fraction? text
  let seconds := hour * 3600 + minute * 60
  return ((if second = 60 then (seconds + 59, nano + nanosPerSecond) else (seconds + second, nano)), text)

def isColonOrBlank (c : Char) : Bool := c = ':' || Text.isBlank c

def pair? (greatest : Nat) : List Char → Option (Nat × List Char)
  | first :: second :: rest =>
    let n := Nat.ofDigitChars 10 [first, second] 0
    if first.isDigit ∧ second.isDigit ∧ n ≤ greatest then some (n, rest) else none
  | _ => none

def sign? : List Char → Option (Int × List Char)
  | c :: rest =>
    if c = '+' then some (1, rest) else if c = '-' ∨ c = '\u2212' then some (-1, rest) else none
  | [] => none

/-- A signed offset of less than a day, in seconds. -/
def signedOffset? (text : List Char) : Option (Int × List Char) := do
  let (sign, text) ← sign? text
  let (hours, text) ← pair? 23 text
  let (minutes, text) ← pair? 59 (text.dropWhile isColonOrBlank)
  return (sign * (hours * 3600 + minutes * 60 : Nat), text)

/-- The offset from universal time: a letter, three letters, or hours and minutes. -/
def offset? (text : List Char) : Option (Int × List Char) :=
  match Text.dropBlanks text with
  | [] => none
  | c :: rest =>
    if ((c :: rest).take 3).map Char.toUpper = ['U', 'T', 'C'] then some (0, rest.drop 2)
    else if c = 'Z' ∨ c = 'z' then some (0, rest)
    else signedOffset? (c :: rest)

/-- The years that instants may lie in, in local and in universal time. -/
def yearInRange (year : Int) : Bool := -262143 ≤ year && year ≤ 262142

/-- Reads a date, a time of day and an offset; blanks may stand around the numbers and at the end. -/
def read? (text : String) : Option Instant := do
  let (date, text) ← date? text.toList
  let text ← separator? text
  let ((seconds, nano), text) ← time? text
  let (offset, text) ← offset? text
  guard (text.all Text.isBlank)
  let second := (date.dayNumber - epoch) * secondsPerDay + seconds - offset
  guard (yearInRange date.year && yearInRange (yearOf (second / secondsPerDay + epoch)))
  return ⟨second, nano⟩

end StateMachine.Stamp

import StateMachine.Numeric.Binary64

namespace StateMachine.Shortest

/-- The decimal `digits * 10 ^ exponent`. -/
structure Decimal where
  digits : Nat
  exponent : Int
  deriving DecidableEq

def Decimal.ratio (decimal : Decimal) : Nat × Nat :=
  (decimal.digits * Nat.pow 10 decimal.exponent.toNat, Nat.pow 10 (-decimal.exponent).toNat)

/-- The numbers that round to one magnitude: those between two bounds, the bounds themselves included
when the mantissa is even. -/
structure Interval where
  lower : Nat × Nat
  upper : Nat × Nat
  closed : Bool
  deriving DecidableEq

/-- The gap below a power of two is half as wide as the gap above. -/
def Interval.ofMagnitude (magnitude : Nat) : Interval :=
  let (mantissa, exponent) := Binary64.decompose magnitude
  let narrow := mantissa = Binary64.hidden ∧ -1074 < exponent
  { lower := Binary64.scaled (4 * mantissa - if narrow then 1 else 2) (exponent - 2)
    upper := Binary64.scaled (4 * mantissa + 2) (exponent - 2)
    closed := mantissa % 2 = 0 }

def ratioLT (left right : Nat × Nat) : Bool := left.1 * right.2 < right.1 * left.2

def Interval.contains (interval : Interval) (value : Nat × Nat) : Bool :=
  if interval.closed then !ratioLT value interval.lower && !ratioLT interval.upper value
  else ratioLT interval.lower value && ratioLT value interval.upper

/-- The number of decimal digits of a positive integer, and zero for zero. -/
def digitCount (n : Nat) : Nat :=
  if n = 0 then 0 else digitCount (n / 10) + 1

/-- The number of zeros between the decimal point and the first digit of a ratio below one. -/
def leadingZeros (numerator denominator : Nat) : Nat → Nat
  | 0 => 0
  | fuel + 1 =>
    if denominator ≤ numerator * 10 then 0 else leadingZeros (numerator * 10) denominator fuel + 1

/-- The position of the decimal point relative to the first digit of a positive ratio. No finite
magnitude has more than 324 leading zeros. -/
def pointPosition (numerator denominator : Nat) : Int :=
  if denominator ≤ numerator then digitCount (numerator / denominator)
  else -leadingZeros numerator denominator 324

/-- Whether the first of two neighbours on a decimal grid is the one to take: the nearer one, and the
even one of a tie. -/
def prefersLower (value : Nat × Nat) (lower : Decimal) : Bool :=
  let (n, d) := value
  let (a, b) := lower.ratio
  let (c, e) := Decimal.ratio ⟨lower.digits + 1, lower.exponent⟩
  let below := (n * b - a * d) * e
  let above := (c * d - n * e) * b
  below < above || (below = above && lower.digits % 2 = 0)

/-- The decimal of the grid with so many digits that lies in the interval, the nearer one of two. -/
def onGrid? (value : Nat × Nat) (interval : Interval) (point : Int) (count : Nat) : Option Decimal :=
  let exponent := point - count
  let (n, d) := value
  let lower : Decimal := ⟨n * Nat.pow 10 (-exponent).toNat / (d * Nat.pow 10 exponent.toNat), exponent⟩
  let upper : Decimal := ⟨lower.digits + 1, exponent⟩
  match interval.contains lower.ratio, interval.contains upper.ratio with
  | true, true => some (if prefersLower value lower then lower else upper)
  | true, false => some lower
  | false, true => some upper
  | false, false => none

def Decimal.strip (digits : Nat) (exponent : Int) : Decimal :=
  if digits ≠ 0 ∧ digits % 10 = 0 then strip (digits / 10) (exponent + 1) else ⟨digits, exponent⟩
termination_by digits
decreasing_by omega

/-- The decimal with the fewest digits that reads back as the magnitude. -/
def ofMagnitude (magnitude : Nat) : Decimal :=
  let value := Binary64.ratio magnitude
  let interval := Interval.ofMagnitude magnitude
  let point := pointPosition value.1 value.2
  match (List.range 17).findSome? fun fewer => onGrid? value interval point (fewer + 1) with
  | some found => Decimal.strip found.digits found.exponent
  | none => Decimal.strip (value.1 * Nat.pow 10 1074 / value.2) (-1074)

def zeros (count : Nat) : String := String.ofList (List.replicate count '0')

/-- Numbers whose first digit stands at a power of ten from -5 to 15 are written with a decimal point
alone, others with a signed exponent. -/
def Decimal.text (decimal : Decimal) : String :=
  let digits := toString decimal.digits
  let leading : Int := decimal.exponent + digits.length - 1
  if -5 ≤ leading ∧ leading ≤ 15 then
    if 0 ≤ decimal.exponent then digits ++ zeros decimal.exponent.toNat ++ ".0"
    else if 0 ≤ leading then
      let whole := digits.toList.take (leading.toNat + 1)
      let fraction := digits.toList.drop (leading.toNat + 1)
      String.ofList whole ++ "." ++ String.ofList fraction
    else "0." ++ zeros (-leading - 1).toNat ++ digits
  else
    let mantissa := match digits.toList with
      | [] => ""
      | [digit] => digit.toString
      | digit :: rest => digit.toString ++ "." ++ String.ofList rest
    mantissa ++ (if leading < 0 then "e-" else "e+") ++ toString leading.natAbs

def text (negative : Bool) (magnitude : Nat) : String :=
  (if negative then "-" else "") ++ if magnitude = 0 then "0.0" else (ofMagnitude magnitude).text

end StateMachine.Shortest

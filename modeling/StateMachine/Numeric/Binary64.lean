/-!
Magnitudes of binary64 numbers, held as bit patterns without the sign. A magnitude stands for an exact
ratio of integers, and a ratio rounds to the nearest magnitude; nothing here rests on machine arithmetic.
-/
namespace StateMachine.Binary64

/-- The leading bit of the mantissa, which the pattern of a normal number leaves out. -/
def hidden : Nat := Nat.pow 2 52

def decompose (magnitude : Nat) : Nat × Int :=
  let field : Nat := magnitude / hidden
  let low : Nat := magnitude % hidden
  if field = 0 then (low, -1074) else (hidden + low, (field : Int) - 1075)

/-- The exact value of `mantissa * 2 ^ exponent` as numerator and denominator. -/
def scaled (mantissa : Nat) (exponent : Int) : Nat × Nat :=
  (mantissa * Nat.pow 2 exponent.toNat, Nat.pow 2 (-exponent).toNat)

def ratio (magnitude : Nat) : Nat × Nat :=
  let (mantissa, exponent) := decompose magnitude
  scaled mantissa exponent

/-- The quotient of two integers, rounded to the nearest integer and from a tie to the even one. -/
def nearest (numerator denominator : Nat) : Nat :=
  let quotient := numerator / denominator
  let excess := 2 * (numerator % denominator)
  if excess < denominator then quotient
  else if denominator < excess then quotient + 1
  else quotient + quotient % 2

/-- The exponent `e` with `2 ^ e ≤ numerator / denominator < 2 ^ (e + 1)`, of a positive ratio. -/
def binaryExponent (numerator denominator : Nat) : Int :=
  let guess : Int := (numerator.log2 : Int) - denominator.log2
  if numerator * Nat.pow 2 (-guess).toNat < denominator * Nat.pow 2 guess.toNat then guess - 1 else guess

/-- The magnitude nearest to a ratio. The pattern is at least `infinite` when no finite one is near. -/
def ofRatio (numerator denominator : Nat) : Nat :=
  if numerator = 0 then 0 else
    let unit : Int := max (binaryExponent numerator denominator - 52) (-1074)
    let mantissa := nearest (numerator * Nat.pow 2 (-unit).toNat) (denominator * Nat.pow 2 unit.toNat)
    (unit + 1074).toNat * hidden + mantissa

/-- The least pattern that is no finite number. -/
def infinite : Nat := 0x7FF * hidden

def product (left right : Nat) : Nat :=
  let (n, d) := ratio left
  let (m, c) := ratio right
  ofRatio (n * m) (d * c)

def quotient (left right : Nat) : Nat :=
  let (n, d) := ratio left
  let (m, c) := ratio right
  ofRatio (n * c) (d * m)

def powerOfTen (exponent : Nat) : Nat := ofRatio (Nat.pow 10 exponent) 1

/-- Division by a power of ten in steps that stay within the range of the powers. -/
def shrink (magnitude exponent : Nat) : Nat :=
  if exponent ≤ 308 then quotient magnitude (powerOfTen exponent)
  else if magnitude = 0 then 0
  else shrink (quotient magnitude (powerOfTen 308)) (exponent - 308)
termination_by exponent

/-- The number `significand * 10 ^ exponent`. The significand, the power of ten and their product or
quotient are rounded one after the other; `none` when the result is not finite. -/
def ofDecimal? (significand : Nat) (exponent : Int) : Option Nat :=
  if exponent < 0 then some (shrink (ofRatio significand 1) (-exponent).toNat)
  else if significand = 0 then some 0
  else if 308 < exponent then none
  else
    let magnitude := product (ofRatio significand 1) (powerOfTen exponent.toNat)
    if magnitude < infinite then some magnitude else none

end StateMachine.Binary64

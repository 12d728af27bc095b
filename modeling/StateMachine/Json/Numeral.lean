import StateMachine.Json

namespace StateMachine

/-- Where a text stops being JSON, either it ends too early or something else stands there. -/
inductive Break where
  | ended
  | malformed
  deriving DecidableEq

def Break.at : List Char → Break
  | [] => .ended
  | _ :: _ => .malformed

/-- The parts of a numeral; the exponent is negative or not. -/
structure Numeral where
  negative : Bool
  whole : List Char
  fraction : List Char
  exponent : Option (Bool × List Char)
  deriving DecidableEq

namespace Numeral

/-- Digits are taken into a significand while it fits into 64 bits; the others are left. -/
def absorb (significand : Nat) : List Char → Nat × List Char
  | [] => (significand, [])
  | digit :: digits =>
    let next := Nat.ofDigitChars 10 [digit] significand
    if next < UInt64.size then absorb next digits else (significand, digit :: digits)

/-- A numeral of digits alone is an integer when 64 bits hold it, minus zero excepted. In any other,
digits of the whole part that no longer fit the significand count as powers of ten and digits of the
fraction that do not fit are dropped; `none` when the number is beyond every finite one. -/
def number? (numeral : Numeral) : Option Number :=
  let (significand, surplus) := absorb 0 numeral.whole
  let (exact, dropped) := absorb significand numeral.fraction
  let places : Int := (surplus.length : Int) + dropped.length - numeral.fraction.length
  let shift : Int := match numeral.exponent with
    | none => 0
    | some (true, digits) => -Nat.ofDigitChars 10 digits 0
    | some (false, digits) => Nat.ofDigitChars 10 digits 0
  if numeral.fraction = [] ∧ numeral.exponent = none ∧ surplus = [] ∧
      (numeral.negative → significand ≠ 0 ∧ 2 * significand ≤ UInt64.size) then
    some (.integer (if numeral.negative then -significand else significand))
  else
    (Binary64.ofDecimal? exact (places + shift)).map (.float numeral.negative)

/-- Splits off the digits a text begins with; there has to be one. -/
def digits (text : List Char) : Except Break (List Char × List Char) :=
  match text.takeWhile Char.isDigit with
  | [] => .error (Break.at text)
  | found => .ok (found, text.dropWhile Char.isDigit)

/-- A whole part has no superfluous zero in front. -/
def scanWhole (text : List Char) : Except Break (List Char × List Char) :=
  match text with
  | '0' :: rest =>
    if rest.head?.any Char.isDigit then .error .malformed else .ok (['0'], rest)
  | _ => digits text

def scanFraction (text : List Char) : Except Break (List Char × List Char) :=
  match text with
  | '.' :: rest => digits rest
  | _ => .ok ([], text)

def scanSign : List Char → Bool × List Char
  | '+' :: rest => (false, rest)
  | '-' :: rest => (true, rest)
  | text => (false, text)

def scanExponent (text : List Char) : Except Break (Option (Bool × List Char) × List Char) :=
  match text with
  | mark :: rest =>
    if mark = 'e' ∨ mark = 'E' then do
      let (negative, rest) := scanSign rest
      let (found, rest) ← digits rest
      return (some (negative, found), rest)
    else .ok (none, text)
  | [] => .ok (none, [])

def scan (text : List Char) : Except Break (Numeral × List Char) := do
  let (negative, text) := match text with
    | '-' :: rest => (true, rest)
    | _ => (false, text)
  let (whole, text) ← scanWhole text
  let (fraction, text) ← scanFraction text
  let (exponent, text) ← scanExponent text
  return (⟨negative, whole, fraction, exponent⟩, text)

end Numeral

end StateMachine

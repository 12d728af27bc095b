namespace StateMachine

/-- Seconds since the start of 1970 and a fraction. A fraction of a second or more lies in a leap second
that follows the second. -/
structure Instant where
  second : Int
  nano : Nat
  deriving DecidableEq

namespace Instant

def nanosPerSecond : Nat := 1000000000

def secondsPerDay : Nat := 86400

instance : LE Instant :=
  ⟨fun first last => first.second < last.second ∨ first.second = last.second ∧ first.nano ≤ last.nano⟩

instance (first last : Instant) : Decidable (first ≤ last) :=
  inferInstanceAs (Decidable (_ ∨ _))

theorem le_trans {first middle last : Instant} (begins : first ≤ middle) (goes : middle ≤ last) :
    first ≤ last := by
  rcases begins with earlier | ⟨same, below⟩
  · rcases goes with later | ⟨same_too, _⟩
    · exact .inl (Int.lt_trans earlier later)
    · exact .inl (same_too ▸ earlier)
  · rcases goes with later | ⟨same_too, above⟩
    · exact .inl (same ▸ later)
    · exact .inr ⟨same.trans same_too, Nat.le_trans below above⟩

def secondOfDay (instant : Instant) : Int := instant.second % secondsPerDay

/-- A leap second counts when it lies between two times of day. -/
def leapSeconds (first last : Instant) : Int :=
  if first.secondOfDay < last.secondOfDay ∧ nanosPerSecond ≤ first.nano then 1
  else if last.secondOfDay < first.secondOfDay ∧ nanosPerSecond ≤ last.nano then -1
  else 0

/-- The seconds and nanoseconds from one instant to another one, unless that is earlier. -/
def elapsed? (first last : Instant) : Option (Nat × Nat) :=
  let fraction : Int := (last.nano : Int) - first.nano
  let seconds := last.second - first.second + leapSeconds first last + fraction / nanosPerSecond
  if seconds < 0 then none else some (seconds.toNat, (fraction % nanosPerSecond).toNat)

end Instant

end StateMachine

import Mathlib.Algebra.Group.Nat.Defs
import StateMachine.Token

namespace StateMachine

/-- A timeout in nanoseconds. -/
def Timeout.total (timeout : Timeout) : Nat := timeout.seconds * 1000000000 + timeout.nanos

namespace Instant

/-- The nanoseconds since the start of 1970, as a clock without leap seconds counts them. -/
def total (instant : Instant) : Int := instant.second * nanosPerSecond + instant.nano

/-- An instant that lies in no leap second. Clocks show no others. -/
def IsOrdinary (instant : Instant) : Prop := instant.nano < nanosPerSecond

/-- The years up to 262142. -/
def IsRepresentable (instant : Instant) : Prop :=
  instant.second / secondsPerDay + Calendar.epoch < Calendar.daysBefore 262143

private theorem eq_of_total {first second : Instant} (ordinary : first.IsOrdinary)
    (ordinary_too : second.IsOrdinary) (same : first.total = second.total) : first = second := by
  obtain ⟨seconds, nanos⟩ := first
  obtain ⟨seconds_too, nanos_too⟩ := second
  simp only [total, IsOrdinary, nanosPerSecond] at same ordinary ordinary_too
  have seconds_eq : seconds = seconds_too := by omega
  have nanos_eq : nanos = nanos_too := by omega
  rw [seconds_eq, nanos_eq]

/-- A timeout of at most 2^63 - 1 milliseconds leads to the instant that is exactly as much later, if that
can be represented. -/
theorem after?_eq_some_iff {now later : Instant} {timeout : Timeout} :
    now.after? timeout = some later ↔
      later.IsOrdinary ∧ later.total = now.total + timeout.total ∧
        timeout.total ≤ (2 ^ 63 - 1) * 1000000 ∧ later.IsRepresentable := by
  have small (nanos : Nat) : nanos % nanosPerSecond < nanosPerSecond := Nat.mod_lt _ (by decide)
  have sum : total ⟨now.second + timeout.seconds + ((now.nano + timeout.nanos) / nanosPerSecond : Nat),
      (now.nano + timeout.nanos) % nanosPerSecond⟩ = now.total + timeout.total := by
    simp only [total, Timeout.total, nanosPerSecond]
    omega
  simp only [after?, Timeout.isRepresentable, decide_eq_true_eq]
  constructor
  · intro found
    split at found
    · rename_i allowed
      cases found
      exact ⟨small _, sum, allowed.1, allowed.2⟩
    · cases found
  · intro reached
    obtain ⟨ordinary, exactly, short, early⟩ := reached
    have same := eq_of_total (small _) ordinary (sum.trans exactly.symm)
    subst same
    exact if_pos ⟨short, early⟩

/-- The nanoseconds from one instant to another one, leap seconds included. -/
def span (first last : Instant) : Int :=
  last.total - first.total + leapSeconds first last * nanosPerSecond

private theorem elapsed?_eq (first last : Instant) :
    first.elapsed? last = if span first last < 0 then none
      else some ((span first last / nanosPerSecond).toNat, (span first last % nanosPerSecond).toNat) := by
  have split : span first last = (last.second - first.second + leapSeconds first last) * nanosPerSecond +
      ((last.nano : Int) - first.nano) := by
    simp only [span, total, nanosPerSecond]
    omega
  have seconds : last.second - first.second + leapSeconds first last +
      ((last.nano : Int) - first.nano) / nanosPerSecond = span first last / nanosPerSecond := by
    rw [split]
    simp only [nanosPerSecond]
    omega
  have fraction : ((last.nano : Int) - first.nano) % nanosPerSecond = span first last % nanosPerSecond := by
    rw [split]
    simp only [nanosPerSecond]
    omega
  have sign : span first last / nanosPerSecond < 0 ↔ span first last < 0 := by
    simp only [nanosPerSecond]
    omega
  simp only [elapsed?, seconds, fraction, sign]

/-- A leap second counts once it is over in the course of a day. -/
theorem span_cases (first last : Instant) :
    first.secondOfDay < last.secondOfDay ∧ nanosPerSecond ≤ first.nano ∧
        span first last = last.total - first.total + nanosPerSecond ∨
      last.secondOfDay < first.secondOfDay ∧ nanosPerSecond ≤ last.nano ∧
        span first last = last.total - first.total - nanosPerSecond ∨
      (last.secondOfDay ≤ first.secondOfDay ∨ first.IsOrdinary) ∧
        (first.secondOfDay ≤ last.secondOfDay ∨ last.IsOrdinary) ∧
        span first last = last.total - first.total := by
  unfold span leapSeconds IsOrdinary
  by_cases before : first.secondOfDay < last.secondOfDay ∧ nanosPerSecond ≤ first.nano
  · rw [if_pos before]
    omega
  · rw [if_neg before]
    by_cases after : last.secondOfDay < first.secondOfDay ∧ nanosPerSecond ≤ last.nano
    · rw [if_pos after]
      omega
    · rw [if_neg after]
      omega

/-- Midnight lies between two instants a second apart, and yet the span has it the other way round: a leap
second at the end of the day lasts beyond the later one. -/
def Overhangs (last now : Instant) : Prop :=
  now.second = last.second + 1 ∧ now.secondOfDay = 0 ∧ 0 < span now last ∨
    last.second = now.second + 1 ∧ last.secondOfDay = 0 ∧ span now last ≤ 0

/-- Nothing is left from now on exactly if now is not earlier, unless a leap second overhangs. -/
theorem span_le_zero_iff {now last : Instant} (single : now.nano < 2 * nanosPerSecond)
    (single_too : last.nano < 2 * nanosPerSecond) :
    span now last ≤ 0 ↔ (last ≤ now ↔ ¬ last.Overhangs now) := by
  have le_iff : last ≤ now ↔ last.second < now.second ∨ last.second = now.second ∧ last.nano ≤ now.nano :=
    Iff.rfl
  have cases := span_cases now last
  rw [le_iff, Overhangs]
  simp only [total, IsOrdinary, secondOfDay, nanosPerSecond, secondsPerDay] at single single_too cases ⊢
  omega

theorem overhangs_iff {now last : Instant} (ordinary : now.IsOrdinary) :
    last.Overhangs now ↔
      now.second = last.second + 1 ∧ now.secondOfDay = 0 ∧ nanosPerSecond + now.nano < last.nano := by
  have cases := span_cases now last
  simp only [Overhangs, IsOrdinary, total, secondOfDay, nanosPerSecond, secondsPerDay] at ordinary cases ⊢
  omega

end Instant

namespace Token

variable {token : Token} {flags : Flags} {now : Instant} {event : String}

-- For any way to compute the instant: to unfold `withTimeout` where it is applied would evaluate
-- `Instant.after?`, with the number of days before its last year.
private theorem eq_elim {withTimeout : Token → Instant → Timeout → Token}
    {after? : Instant → Timeout → Option Instant}
    (same : withTimeout = fun token now timeout =>
      match after? now timeout with
      | none => token
      | some deadline => token.withDeadline deadline)
    (token : Token) (now : Instant) (timeout : Timeout) :
    withTimeout token now timeout = (after? now timeout).elim token token.withDeadline := by
  subst same
  cases later : after? now timeout <;> simp only [later, Option.elim]

theorem withTimeout_eq (token : Token) (now : Instant) (timeout : Timeout) :
    token.withTimeout now timeout = (now.after? timeout).elim token token.withDeadline :=
  @eq_elim withTimeout Instant.after? rfl token now timeout

theorem isExpired_iff :
    token.isExpired now = true ↔ ∃ deadline, token.deadline = some deadline ∧ deadline ≤ now := by
  simp [isExpired, Option.any_eq_true]

theorem check_eq_cancelled_iff :
    token.check flags now event = .error (.cancelled event) ↔ flags.isCancelled token = true := by
  cases cancelled : flags.isCancelled token <;> cases expired : token.isExpired now <;>
    simp [check, cancelled, expired]

theorem check_eq_deadlineExceeded_iff :
    token.check flags now event = .error (.deadlineExceeded event) ↔
      flags.isCancelled token = false ∧ token.isExpired now = true := by
  cases cancelled : flags.isCancelled token <;> cases expired : token.isExpired now <;>
    simp [check, cancelled, expired]

theorem check_eq_ok_iff :
    token.check flags now event = .ok () ↔
      flags.isCancelled token = false ∧ token.isExpired now = false := by
  cases cancelled : flags.isCancelled token <;> cases expired : token.isExpired now <;>
    simp [check, cancelled, expired]

private theorem remaining?_eq_zero_iff :
    token.remaining? now = some (0, 0) ↔
      ∃ deadline, token.deadline = some deadline ∧ Instant.span now deadline ≤ 0 := by
  cases set : token.deadline with
  | none => simp [remaining?, set]
  | some deadline =>
    have nothing : (now.elapsed? deadline).getD (0, 0) = (0, 0) ↔ Instant.span now deadline ≤ 0 := by
      rw [Instant.elapsed?_eq]
      simp only [Instant.nanosPerSecond]
      split
      · simp
        omega
      · simp only [Option.getD_some, Prod.mk.injEq]
        omega
    simp only [remaining?, set, Option.map_some, Option.some.injEq, nothing, exists_eq_left']

/-- No time is left exactly if the deadline has passed, unless a leap second overhangs. -/
theorem remaining?_eq_zero_iff_isExpired {deadline : Instant} (set : token.deadline = some deadline)
    (single : now.nano < 2 * Instant.nanosPerSecond)
    (single_too : deadline.nano < 2 * Instant.nanosPerSecond) :
    token.remaining? now = some (0, 0) ↔ (token.isExpired now = true ↔ ¬ deadline.Overhangs now) := by
  rw [remaining?_eq_zero_iff, isExpired_iff]
  simp only [set, Option.some.injEq, exists_eq_left']
  exact Instant.span_le_zero_iff single single_too

end Token

end StateMachine

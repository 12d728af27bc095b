import Mathlib.Algebra.Ring.Nat
import StateMachine.Time.Calendar

namespace StateMachine.Calendar

private theorem sum_monthLengths (year : Int) :
    ((monthLengths year).sum : Int) = daysBefore (year + 1) - daysBefore year := by
  unfold daysBefore
  cases leap : isLeap year with
  | true =>
    have total : (monthLengths year).sum = 366 := by simp [monthLengths, leap]
    simp [isLeap] at leap
    rw [total]
    omega
  | false =>
    have total : (monthLengths year).sum = 365 := by simp [monthLengths, leap]
    simp [isLeap] at leap
    rw [total]
    omega

private theorem yearOf_spec (day : Int) :
    daysBefore (yearOf day) ≤ day ∧ day < daysBefore (yearOf day + 1) := by
  -- Four hundred years have 146097 days, and a year strays from their average by less than two days.
  have below : daysBefore (day * 400 / 146097 - 1) ≤ day := by
    unfold daysBefore
    omega
  have above : day < daysBefore (day * 400 / 146097 + 1 + 1) := by
    unfold daysBefore
    omega
  unfold yearOf
  dsimp only
  split
  · rename_i early
    exact ⟨below, by rwa [Int.sub_add_cancel]⟩
  · split
    · rename_i late
      exact ⟨late, above⟩
    · rename_i early late
      exact ⟨Int.not_lt.mp early, Int.not_le.mp late⟩

private theorem foldl_add_eq (lengths : List Nat) (n : Nat) :
    lengths.foldl Nat.add n = n + lengths.sum := by
  induction lengths generalizing n with
  | nil => rfl
  | cons length lengths ih => rw [List.foldl_cons, ih, List.sum_cons, Nat.add_eq, Nat.add_assoc]

private theorem splitMonths_spec (lengths : List Nat) (day : Nat) (inside : day < lengths.sum) :
    ∃ length, lengths[(splitMonths lengths day).1]? = some length ∧ (splitMonths lengths day).2 < length ∧
      (splitMonths lengths day).2 + (lengths.take (splitMonths lengths day).1).sum = day := by
  induction lengths generalizing day with
  | nil => simp at inside
  | cons length lengths ih =>
    by_cases here : day < length
    · refine ⟨length, ?_, ?_, ?_⟩ <;> simp [splitMonths, here]
    · rw [List.sum_cons] at inside
      obtain ⟨found, listed, short, rest⟩ := ih (day - length) (by omega)
      refine ⟨found, ?_, ?_, ?_⟩
      · simpa [splitMonths, here] using listed
      · simpa [splitMonths, here] using short
      · simp only [splitMonths, here, if_false, List.take_succ_cons, List.sum_cons]
        omega

namespace Date

/-- The month of a day of a year, and the day in this month. -/
theorem ofDayNumber_spec (day : Int) :
    ∃ month inMonth length, Date.ofDayNumber day = ⟨yearOf day, month + 1, inMonth + 1⟩ ∧
      (monthLengths (yearOf day))[month]? = some length ∧ inMonth < length ∧
      ((inMonth + ((monthLengths (yearOf day)).take month).sum : Nat) : Int) =
        day - daysBefore (yearOf day) := by
  obtain ⟨from_start, to_end⟩ := yearOf_spec day
  have total := sum_monthLengths (yearOf day)
  obtain ⟨length, listed, short, rest⟩ :=
    splitMonths_spec (monthLengths (yearOf day)) (day - daysBefore (yearOf day)).toNat
      (by omega)
  cases parts : splitMonths (monthLengths (yearOf day)) (day - daysBefore (yearOf day)).toNat with
  | mk month inMonth =>
    simp only [parts] at listed short rest
    exact ⟨month, inMonth, length, by simp only [ofDayNumber, parts], listed, short, by omega⟩

theorem year_ofDayNumber (day : Int) : (Date.ofDayNumber day).year = yearOf day := rfl

theorem dayNumber_ofDayNumber (day : Int) : (Date.ofDayNumber day).dayNumber = day := by
  obtain ⟨month, inMonth, _, same, _, _, rest⟩ := ofDayNumber_spec day
  rw [same]
  simp only [dayNumber, Nat.add_sub_cancel, foldl_add_eq, rest]
  omega

theorem isValid_ofDayNumber (day : Int) : (Date.ofDayNumber day).isValid = true := by
  obtain ⟨month, inMonth, length, same, listed, short, _⟩ := ofDayNumber_spec day
  rw [same]
  simp only [isValid, Nat.add_sub_cancel, listed]
  simpa [Nat.succ_le_iff] using short

/-- Two digits are enough for the month and for the day. -/
theorem small_of_isValid {date : Date} (valid : date.isValid = true) : date.month ≤ 12 ∧ date.day ≤ 31 := by
  simp only [isValid, Bool.and_eq_true, decide_eq_true_eq, Option.any_eq_true] at valid
  obtain ⟨⟨_, _⟩, length, listed, short⟩ := valid
  obtain ⟨few, same⟩ := List.getElem?_eq_some_iff.mp listed
  have twelve : (monthLengths date.year).length = 12 := rfl
  have long : ∀ other ∈ monthLengths date.year, other ≤ 31 := by
    cases leap : isLeap date.year <;> simp [monthLengths, leap]
  have own := long length (same ▸ List.getElem_mem few)
  omega

end Date

end StateMachine.Calendar

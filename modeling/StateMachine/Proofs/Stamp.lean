import Mathlib.Data.Option.Basic
import StateMachine.Proofs.Calendar
import StateMachine.Proofs.Numeral
import StateMachine.Time.Stamp

namespace StateMachine.Stamp

open Calendar Instant

variable {c : Char} {digits rest : List Char} {width n : Nat}

/-- A number written with so many digits. -/
structure Digits (width n : Nat) (digits : List Char) : Prop where
  length : digits.length = width
  each : ∀ c ∈ digits, c.isDigit = true
  value : Nat.ofDigitChars 10 digits 0 = n

private theorem padded_digits (some_digit : 0 < width) (small : n < 10 ^ width) :
    Digits width n (padded width n).toList := by
  have short := (Nat.length_toDigits_le_iff (by decide : 1 < 10) some_digit).mpr small
  have written : (padded width n).toList =
      List.replicate (width - (Nat.toDigits 10 n).length) '0' ++ Nat.toDigits 10 n := by
    have digits : (toString n).toList = Nat.toDigits 10 n := Nat.toList_repr
    rw [padded, String.toList_append, String.toList_ofList, ← String.length_toList, digits]
  rw [written]
  refine ⟨?_, ?_, ?_⟩
  · rw [List.length_append, List.length_replicate]
    omega
  · intro c member
    rcases List.mem_append.mp member with zero | digit
    · rw [List.eq_of_mem_replicate zero]
      rfl
    · exact Numeral.isDigit_of_mem_toDigits digit
  · rw [Nat.ofDigitChars_append, Nat.ofDigitChars_replicate_zero, Nat.mul_zero]
    exact Nat.ofDigitChars_ten_toDigits

private theorem isBlank_of_isDigit (digit : c.isDigit = true) : Text.isBlank c = false := by
  have bounds : 48 ≤ c.toNat ∧ c.toNat ≤ 57 := by
    simp only [Char.isDigit, Bool.and_eq_true, decide_eq_true_eq] at digit
    exact ⟨digit.1, digit.2⟩
  simp only [Text.isBlank]
  simp
  omega

private theorem dropBlanks_solid (solid : Text.isBlank c = false) :
    Text.dropBlanks (c :: rest) = c :: rest := by
  simp [Text.dropBlanks, solid]

namespace Digits

theorem cons (written : Digits width n digits) (some_digit : 0 < width) :
    ∃ c more, digits = c :: more ∧ c.isDigit = true := by
  cases digits with
  | nil => exact absurd written.length (Nat.ne_of_lt some_digit)
  | cons c more => exact ⟨c, more, rfl, written.each c (List.mem_cons_self ..)⟩

private theorem ne_nil (written : Digits width n digits) (some_digit : 0 < width) : digits ≠ [] := by
  obtain ⟨c, more, rfl, _⟩ := written.cons some_digit
  exact List.cons_ne_nil c more

theorem dropBlanks (written : Digits width n digits) (some_digit : 0 < width) :
    Text.dropBlanks (digits ++ rest) = digits ++ rest := by
  obtain ⟨c, more, rfl, digit⟩ := written.cons some_digit
  exact dropBlanks_solid (isBlank_of_isDigit digit)

theorem number? (written : Digits width n digits) (some_digit : 0 < width) :
    Stamp.number? width (digits ++ rest) = some (n, rest) := by
  have taken : (digits ++ rest).take width = digits := by
    rw [← written.length, List.take_left]
  have all : (digits ++ []).takeWhile Char.isDigit = digits := (Numeral.span_digits written.each (by simp)).1
  rw [List.append_nil] at all
  simp only [Stamp.number?, written.dropBlanks some_digit, taken, all, if_neg (written.ne_nil some_digit),
    written.value, List.drop_left]

theorem numberUpTo? (written : Digits 2 n digits) (greatest : Nat) (small : n ≤ greatest) :
    Stamp.numberUpTo? greatest (digits ++ rest) = some (n, rest) := by
  simp [Stamp.numberUpTo?, written.number? (by decide), guard, small]

theorem year? (written : Digits 4 n digits) : Stamp.year? (digits ++ rest) = some ((n : Int), rest) := by
  have found : Stamp.number? 4 (digits ++ rest) = some (n, rest) := written.number? (by decide)
  have solid : Text.dropBlanks (digits ++ rest) = digits ++ rest := written.dropBlanks (by decide)
  obtain ⟨c, more, rfl, digit⟩ := written.cons (by decide)
  unfold Stamp.year?
  rw [solid]
  split
  · rename_i minus
    cases (List.cons.inj minus).1
    exact absurd digit (by decide)
  · rename_i plus
    cases (List.cons.inj plus).1
    exact absurd digit (by decide)
  · simp only [found, Option.bind_eq_bind, Option.bind_some, Option.pure_def]

/-- A fraction of at most nine digits counts nanoseconds. -/
theorem fraction? (written : Digits width n digits) (some_digit : 0 < width) (short : width ≤ 9)
    (ends : ∀ c ∈ rest.head?, c.isDigit = false) :
    Stamp.fraction? ('.' :: (digits ++ rest)) = some (n * 10 ^ (9 - width), rest) := by
  obtain ⟨taken, dropped⟩ := Numeral.span_digits written.each ends
  have kept : digits.take 9 = digits := List.take_of_length_le (by rw [written.length]; exact short)
  simp only [Stamp.fraction?, taken, dropped, if_neg (written.ne_nil some_digit), kept, written.value,
    written.length, Nat.pow_eq]

end Digits

/-- How many digits a fraction takes: as few groups of three as make it exact. -/
structure Grouped (nano width : Nat) : Prop where
  groups : width ∈ [0, 3, 6, 9]
  exact : 10 ^ (9 - width) ∣ nano
  fewest : ∀ less ∈ [0, 3, 6, 9], 10 ^ (9 - less) ∣ nano → width ≤ less

/-- The text of a fraction with so many digits. -/
inductive Fraction (nano : Nat) : Nat → List Char → Prop where
  | whole (none : nano = 0) : Fraction nano 0 []
  | part {width : Nat} {digits : List Char} (some_digit : 0 < width)
      (written : Digits width (nano / 10 ^ (9 - width)) digits) : Fraction nano width ('.' :: digits)

theorem Fraction.padded {nano : Nat} (some_digit : 0 < width) (small : nano / 10 ^ (9 - width) < 10 ^ width) :
    Fraction nano width ("." ++ padded width (nano / 10 ^ (9 - width))).toList := by
  rw [String.toList_append]
  exact .part some_digit (padded_digits some_digit small)

private theorem fractionText_spec {nano : Nat} (small : nano < nanosPerSecond) :
    ∃ width, Grouped nano width ∧ Fraction nano width (fractionText nano).toList := by
  have bound : nano < 1000000000 := small
  unfold fractionText
  split
  · rename_i none
    exact ⟨0, ⟨by simp, by simp [none], by simp⟩, .whole none⟩
  split
  · exact ⟨3, ⟨by simp, by simp; omega, by simp; omega⟩, .padded (by decide) (by omega)⟩
  split
  · exact ⟨6, ⟨by simp, by simp; omega, by simp; omega⟩, .padded (by decide) (by omega)⟩
  · have whole : nano / 10 ^ (9 - 9) = nano := Nat.div_one nano
    have text : Fraction nano 9 ("." ++ Stamp.padded 9 (nano / 10 ^ (9 - 9))).toList :=
      .padded (by decide) (by omega)
    rw [whole] at text
    exact ⟨9, ⟨by simp, by simp, by simp; omega⟩, text⟩

theorem Fraction.fraction? {nano : Nat} {text : List Char} (fraction : Fraction nano width text)
    (grouped : Grouped nano width) : fraction? (text ++ 'Z' :: rest) = some (nano, 'Z' :: rest) := by
  cases fraction with
  | whole none => simp [Stamp.fraction?, none]
  | part some_digit written =>
    have short : width ≤ 9 := by
      have groups := grouped.groups
      simp only [List.mem_cons, List.not_mem_nil, or_false] at groups
      omega
    rw [List.cons_append, written.fraction? some_digit short (by simp),
      Nat.div_mul_cancel grouped.exact]

private theorem mark?_cons {mark : Char} (solid : Text.isBlank mark = false) :
    mark? mark (mark :: rest) = some rest := by
  simp [mark?, dropBlanks_solid solid]

end StateMachine.Stamp

namespace StateMachine

open Calendar Instant

/-- The year of an instant. -/
def Instant.year (instant : Instant) : Int := yearOf (instant.second / secondsPerDay + epoch)

/-- An instant in one of the years that are written with four digits, and in no leap second. -/
structure Instant.Plain (instant : Instant) : Prop where
  first : 0 ≤ instant.year
  last : instant.year ≤ 9999
  nano : instant.nano < nanosPerSecond

namespace Stamp

private theorem yearText_digits {year : Int} (first : 0 ≤ year) (last : year ≤ 9999) :
    Digits 4 year.toNat (yearText year).toList := by
  rw [yearText, if_pos ⟨first, last⟩]
  exact padded_digits (by decide) (by omega)

private theorem pair_digits {n : Nat} (small : n < 100) : Digits 2 n (padded 2 n).toList :=
  padded_digits (by decide) small

/-- The date in a stamp. -/
def dateChars (date : Date) : List Char :=
  (yearText date.year).toList ++ '-' :: ((padded 2 date.month).toList ++ '-' :: (padded 2 date.day).toList)

/-- The time of day in a stamp, in whole seconds. -/
def timeChars (second : Nat) : List Char :=
  (padded 2 (second / 3600)).toList ++ ':' :: ((padded 2 (second / 60 % 60)).toList ++
    ':' :: (padded 2 (second % 60)).toList)

section

variable {date : Date} (first : 0 ≤ date.year) (last : date.year ≤ 9999) (valid : date.isValid = true)
include valid

private theorem date_digits : Digits 2 date.month (padded 2 date.month).toList ∧
    Digits 2 date.day (padded 2 date.day).toList := by
  obtain ⟨few, short⟩ := Date.small_of_isValid valid
  exact ⟨pair_digits (by omega), pair_digits (by omega)⟩

include first last

private theorem length_dateChars : (dateChars date).length = 10 := by
  obtain ⟨month, day⟩ := date_digits valid
  simp only [dateChars, List.length_append, List.length_cons, (yearText_digits first last).length,
    month.length, day.length]

private theorem date?_dateChars (rest : List Char) :
    date? (dateChars date ++ rest) = some (date, rest) := by
  obtain ⟨month, day⟩ := date_digits valid
  have year := yearText_digits first last
  have same : ((date.year.toNat : Nat) : Int) = date.year := Int.toNat_of_nonneg first
  have dash : Text.isBlank '-' = false := by decide
  simp [dateChars, date?, year.year?, month.number?, day.number?, mark?_cons dash, same, valid, guard]

end

section

variable {second : Nat} (inDay : second < secondsPerDay)
include inDay

private theorem time_digits : Digits 2 (second / 3600) (padded 2 (second / 3600)).toList ∧
    Digits 2 (second / 60 % 60) (padded 2 (second / 60 % 60)).toList ∧
    Digits 2 (second % 60) (padded 2 (second % 60)).toList := by
  have bound : second < 86400 := inDay
  exact ⟨pair_digits (by omega), pair_digits (by omega), pair_digits (by omega)⟩

private theorem length_timeChars : (timeChars second).length = 8 := by
  obtain ⟨hour, minute, last⟩ := time_digits inDay
  simp only [timeChars, List.length_append, List.length_cons, hour.length, minute.length, last.length]

private theorem time?_timeChars {nano : Nat} {fraction : List Char} (grouped : Grouped nano width)
    (written : Fraction nano width fraction) (rest : List Char) :
    time? (timeChars second ++ (fraction ++ 'Z' :: rest)) = some ((second, nano), 'Z' :: rest) := by
  obtain ⟨hour, minute, last⟩ := time_digits inDay
  have bound : second < 86400 := inDay
  have colon : Text.isBlank ':' = false := by decide
  have regular : second % 60 ≠ 60 := by omega
  have total : second / 3600 * 3600 + second / 60 % 60 * 60 + second % 60 = second := by omega
  simp [timeChars, time?, hour.numberUpTo? 23 (by omega), minute.numberUpTo? 59 (by omega),
    last.numberUpTo? 60 (by omega), mark?_cons colon, written.fraction? grouped, regular, total]

end

/-- The text of a stamp: the date, the time in whole seconds, the fraction and a letter. -/
theorem toList_write {instant : Instant} (small : instant.nano < nanosPerSecond) :
    (write instant).toList =
      (dateChars (Date.ofDayNumber (instant.second / secondsPerDay + epoch)) ++
          'T' :: timeChars instant.secondOfDay.toNat) ++
        ((fractionText instant.nano).toList ++ ['Z']) := by
  have whole : instant.nano / nanosPerSecond = 0 := Nat.div_eq_of_lt small
  have part : instant.nano % nanosPerSecond = instant.nano := Nat.mod_eq_of_lt small
  simp [write, dateChars, timeChars, whole, part]

private theorem secondOfDay_lt (instant : Instant) : instant.secondOfDay.toNat < secondsPerDay := by
  simp only [secondOfDay, secondsPerDay]
  omega

private theorem yearInRange_of_digits {year : Int} (first : 0 ≤ year) (last : year ≤ 9999) :
    yearInRange year = true := by
  simp only [yearInRange, Bool.and_eq_true, decide_eq_true_eq]
  omega

section

variable {instant : Instant} (plain : instant.Plain)
include plain

/-- A plain instant is read from its own stamp. -/
theorem read?_write : read? (write instant) = some instant := by
  obtain ⟨first, last, small⟩ := plain
  obtain ⟨width, grouped, fraction⟩ := fractionText_spec small
  have date := date?_dateChars first last
    (Date.isValid_ofDayNumber (instant.second / secondsPerDay + epoch))
  have time := time?_timeChars (secondOfDay_lt instant) grouped fraction []
  have offset : offset? ['Z'] = some (0, []) := by decide
  have range : yearInRange (yearOf (instant.second / secondsPerDay + epoch)) = true :=
    yearInRange_of_digits first last
  have counted : ((Date.ofDayNumber (instant.second / secondsPerDay + epoch)).dayNumber - epoch) *
      secondsPerDay + instant.secondOfDay.toNat - 0 = instant.second := by
    rw [Date.dayNumber_ofDayNumber, secondOfDay, secondsPerDay]
    omega
  unfold read?
  rw [toList_write small, List.append_assoc, date]
  simp only [List.cons_append, Option.bind_eq_bind, Option.bind_some, separator?, true_or, if_true, time,
    offset, counted, List.all_nil, guard, Date.year_ofDayNumber, range, Bool.true_and]
  rfl

/-- A stamp that shows a fraction of a second exactly, with as few digits as groups of three allow: after
the date and the time in whole seconds stands the fraction, and then a letter. -/
inductive Exact (nano : Nat) (stamp : String) : Prop where
  | shows {width : Nat} {whole fraction : List Char}
      (layout : stamp.toList = whole ++ (fraction ++ ['Z'])) (length : whole.length = 19)
      (grouped : Grouped nano width) (written : Fraction nano width fraction)

theorem write_exact : Exact instant.nano (write instant) := by
  obtain ⟨first, last, small⟩ := plain
  obtain ⟨width, grouped, fraction⟩ := fractionText_spec small
  have date := length_dateChars first last
    (Date.isValid_ofDayNumber (instant.second / secondsPerDay + epoch))
  have time := length_timeChars (secondOfDay_lt instant)
  refine .shows (toList_write small) ?_ grouped fraction
  rw [List.length_append, List.length_cons, date, time]

end

example : write ⟨951868799, 120000000⟩ = "2000-02-29T23:59:59.120Z" := by decide +kernel

end Stamp

end StateMachine

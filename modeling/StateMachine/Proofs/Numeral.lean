import StateMachine.Proofs.Except
import StateMachine.Proofs.Printed

namespace StateMachine

namespace Numeral

private theorem le_ofDigitChars (digits : List Char) (n : Nat) : n ≤ Nat.ofDigitChars 10 digits n := by
  rw [Nat.ofDigitChars_eq_ofDigitChars_zero]
  exact Nat.le_add_right_of_le (Nat.le_mul_of_pos_left n (Nat.pow_pos (by decide)))

private theorem absorb_all {digits : List Char} {significand : Nat}
    (fits : Nat.ofDigitChars 10 digits significand < UInt64.size) :
    absorb significand digits = (Nat.ofDigitChars 10 digits significand, []) := by
  induction digits generalizing significand with
  | nil => rfl
  | cons digit digits ih =>
    rw [Nat.ofDigitChars_cons] at fits ⊢
    have next : Nat.ofDigitChars 10 [digit] significand = 10 * significand + (digit.toNat - '0'.toNat) := rfl
    have small := Nat.lt_of_le_of_lt (le_ofDigitChars digits _) fits
    rw [absorb, next, if_pos small, ih fits]

theorem isDigit_of_mem_toDigits {n : Nat} {c : Char} (member : c ∈ Nat.toDigits 10 n) :
    c.isDigit = true :=
  Nat.isDigit_of_mem_toDigits (by decide) (by decide) member

private theorem eq_zero_of_toDigits {n : Nat} {digits : List Char}
    (begins : Nat.toDigits 10 n = '0' :: digits) :
    n = 0 := by
  induction n using Nat.strongRecOn generalizing digits with
  | ind n ih =>
    by_cases small : n < 10
    · have every : ∀ n < 10, Nat.digitChar n = '0' → n = 0 := by decide
      rw [Nat.toDigits_of_lt_base small] at begins
      exact every n small (List.cons.inj begins).1
    · rw [Nat.toDigits_of_base_le (by decide) (Nat.le_of_not_lt small)] at begins
      cases front : Nat.toDigits 10 (n / 10) with
      | nil => exact absurd front Nat.toDigits_ne_nil
      | cons c more =>
        rw [front, List.cons_append] at begins
        have zero : c = '0' := (List.cons.inj begins).1
        have less := ih (n / 10) (by omega) (zero ▸ front)
        omega

variable {rest : List Char}

/-- The digits that a text begins with end where no digit follows. -/
theorem span_digits {found : List Char} (each : ∀ c ∈ found, c.isDigit = true)
    (ends : ∀ c ∈ rest.head?, c.isDigit = false) :
    (found ++ rest).takeWhile Char.isDigit = found ∧ (found ++ rest).dropWhile Char.isDigit = rest := by
  have left : rest.takeWhile Char.isDigit = [] ∧ rest.dropWhile Char.isDigit = rest := by
    cases rest with
    | nil => exact ⟨rfl, rfl⟩
    | cons c more => simp [ends c rfl]
  rw [List.takeWhile_append_of_pos each, List.dropWhile_append_of_pos each, left.1, List.append_nil]
  exact ⟨rfl, left.2⟩

private theorem digits_append {found : List Char} (some_digit : found ≠ [])
    (each : ∀ c ∈ found, c.isDigit = true) (ends : ∀ c ∈ rest.head?, c.isDigit = false) :
    digits (found ++ rest) = .ok (found, rest) := by
  obtain ⟨taken, dropped⟩ := span_digits each ends
  unfold digits
  rw [taken, dropped]
  cases found with
  | nil => exact absurd rfl some_digit
  | cons c more => rfl

private theorem scanWhole_toDigits (n : Nat) (ends : ∀ c ∈ rest.head?, c.isDigit = false) :
    scanWhole (Nat.toDigits 10 n ++ rest) = .ok (Nat.toDigits 10 n, rest) := by
  have found := digits_append (Nat.toDigits_ne_nil (n := n)) (fun _ => isDigit_of_mem_toDigits) ends
  cases front : Nat.toDigits 10 n with
  | nil => exact absurd front Nat.toDigits_ne_nil
  | cons c more =>
    rw [front, List.cons_append] at found
    by_cases zero : c = '0'
    · subst zero
      have empty : more = [] := by
        rw [eq_zero_of_toDigits front] at front
        exact (List.cons.inj front).2.symm
      subst empty
      have other : rest.head?.any Char.isDigit = false := by
        cases rest with
        | nil => rfl
        | cons c more => exact ends c rfl
      simp [scanWhole, other]
    · rw [List.cons_append, scanWhole]
      · exact found
      · exact fun text same => zero (List.cons.inj same).1

end Numeral

namespace Json.Closes

/-- Nothing that closes a value could belong to a numeral. -/
theorem other {rest : List Char} (closes : Closes rest) {c : Char} (begins : c ∈ rest.head?) :
    c.isDigit = false ∧ c ≠ '.' ∧ c ≠ 'e' ∧ c ≠ 'E' := by
  cases closes with
  | ended => cases begins
  | comma | bracket | brace =>
    cases begins
    decide

end Json.Closes

private theorem Numeral.scan_toDigits (n : Nat) {rest : List Char} (closes : Json.Closes rest) :
    scan (Nat.toDigits 10 n ++ rest) = .ok (⟨false, Nat.toDigits 10 n, [], none⟩, rest) := by
  have whole := scanWhole_toDigits n fun c begins => (closes.other begins).1
  have fraction : scanFraction rest = .ok ([], rest) := by
    cases closes <;> rfl
  have exponent : scanExponent rest = .ok (none, rest) := by
    cases closes <;> rfl
  cases front : Nat.toDigits 10 n with
  | nil => exact absurd front Nat.toDigits_ne_nil
  | cons c more =>
    have digit : c.isDigit = true := isDigit_of_mem_toDigits (n := n) (by simp [front])
    rw [front] at whole
    unfold scan
    split
    rename_i negative text signed
    -- The first digit is no sign.
    have plain : (negative, text) = (false, c :: more ++ rest) := by
      rw [← signed]
      split
      · rename_i minus
        cases (List.cons.inj minus).1
        exact absurd digit (by decide)
      · rfl
    cases plain
    simp only [whole, fraction, exponent, Except.ok_bind]
    rfl

private theorem Numeral.number?_toDigits {n : Nat} (small : n < UInt64.size) :
    number? ⟨false, Nat.toDigits 10 n, [], none⟩ = some (.integer n) := by
  have value : Nat.ofDigitChars 10 (Nat.toDigits 10 n) 0 = n := Nat.ofDigitChars_ten_toDigits
  have absorbed : absorb 0 (Nat.toDigits 10 n) = (n, []) := by
    rw [absorb_all (value.symm ▸ small), value]
  simp [number?, absorbed]

theorem Number.legible_nat {n : Nat} (small : n < UInt64.size) : (Number.integer n).Legible := by
  have written : (Number.integer n).text.toList = Nat.toDigits 10 n := Nat.toList_repr
  constructor
  · cases front : Nat.toDigits 10 n with
    | nil => exact absurd front Nat.toDigits_ne_nil
    | cons c more =>
      exact ⟨c, more, written.trans front,
        .inr (Numeral.isDigit_of_mem_toDigits (n := n) (by simp [front]))⟩
  · intro rest closes
    rw [written, Json.scanNumber, Numeral.scan_toDigits n closes]
    simp [Numeral.number?_toDigits small]

/-- A natural number that 64 bits hold is read back from its text. -/
theorem Json.legible_nat {n : Nat} (small : n < UInt64.size) : (Json.nat n).Legible :=
  .number (Number.legible_nat small)

end StateMachine

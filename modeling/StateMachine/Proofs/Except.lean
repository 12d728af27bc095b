namespace StateMachine.Except

variable {α β ε : Type}

@[simp] theorem ok_bind (value : α) (next : α → Except ε β) : (Except.ok value >>= next) = next value := rfl

@[simp] theorem map_of_ok (value : α) (function : α → β) :
    (Except.ok value : Except ε α).map function = .ok (function value) := rfl

@[simp] theorem pure_eq_ok (value : α) : (pure value : Except ε α) = .ok value := rfl

theorem bind_eq_ok_iff {first : Except ε α} {next : α → Except ε β} {result : β} :
    (first >>= next) = .ok result ↔ ∃ value, first = .ok value ∧ next value = .ok result := by
  cases first with
  | error problem => simp [bind, Except.bind]
  | ok value => simp [bind, Except.bind]

theorem map_eq_ok_iff {value : Except ε α} {function : α → β} {result : β} :
    value.map function = .ok result ↔ ∃ inner, value = .ok inner ∧ function inner = result := by
  cases value with
  | error problem => simp [Except.map]
  | ok inner => simp [Except.map]

theorem eq_ok_of_toOption {value : Except ε α} {result : α} (found : value.toOption = some result) :
    value = .ok result := by
  cases value with
  | error problem => cases found
  | ok inner =>
    cases found
    rfl

end StateMachine.Except

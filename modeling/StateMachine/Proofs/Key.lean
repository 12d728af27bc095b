import StateMachine.Key

namespace StateMachine

theorem StateId.index_ofIndex_le (index : Nat) : (StateId.ofIndex index).index ≤ index :=
  Nat.le_trans (Nat.le_of_eq UInt32.toNat_ofNat') (Nat.mod_le index _)

theorem EventId.index_ofIndex_le (index : Nat) : (EventId.ofIndex index).index ≤ index :=
  Nat.le_trans (Nat.le_of_eq UInt32.toNat_ofNat') (Nat.mod_le index _)

namespace Table

variable {table : Table}

theorem findEvent_name_eq_error_iff {name : String} {failure : Failure} :
    table.findEvent (.name name) = .error failure ↔
      (∀ info ∈ table.events, info.name ≠ name) ∧ failure = .unknownEvent name := by
  cases found : table.events.findIdx? (·.name = name) with
  | none =>
    have absent : ∀ info ∈ table.events, info.name ≠ name := by
      simpa [List.findIdx?_eq_none_iff] using found
    simp only [findEvent, eventId?, found, Option.map_none, Except.error.injEq]
    exact ⟨fun same => ⟨absent, same.symm⟩, fun both => both.2.symm⟩
  | some index =>
    have present : ∃ info ∈ table.events, info.name = name := by
      obtain ⟨small, same, _⟩ := List.findIdx?_eq_some_iff_getElem.mp found
      exact ⟨table.events[index], List.getElem_mem small, by simpa using same⟩
    simp [findEvent, eventId?, found]
    intro absent
    obtain ⟨info, member, same⟩ := present
    exact absurd same (absent info member)

theorem findEvent_id_eq_error_iff {event : EventId} {failure : Failure} :
    table.findEvent (.id event) = .error failure ↔
      table.events.length ≤ event.index ∧ failure = .unknownEvent event.text := by
  by_cases known : event.index < table.events.length
  · simp [findEvent, known, Nat.not_le_of_lt known]
  · simp [findEvent, known, Nat.le_of_not_lt known, eq_comm]

/-- No other failure comes from looking up an event. -/
theorem findEvent_error {key : EventKey} {failure : Failure}
    (unknown : table.findEvent key = .error failure) : ∃ text, failure = .unknownEvent text := by
  cases key with
  | name name => exact ⟨_, (findEvent_name_eq_error_iff.mp unknown).2⟩
  | id event => exact ⟨_, (findEvent_id_eq_error_iff.mp unknown).2⟩

theorem findEvent_lt {key : EventKey} {event : EventId} (known : table.findEvent key = .ok event) :
    event.index < table.events.length := by
  cases key with
  | name name =>
    cases found : table.events.findIdx? (·.name = name) with
    | none => simp [findEvent, eventId?, found] at known
    | some index =>
      simp [findEvent, eventId?, found] at known
      obtain ⟨small, _⟩ := List.findIdx?_eq_some_iff_getElem.mp found
      rw [← known]
      exact Nat.lt_of_le_of_lt (EventId.index_ofIndex_le index) small
  | id event =>
    by_cases small : event.index < table.events.length
    · simp [findEvent, small] at known
      rwa [← known]
    · simp [findEvent, small] at known

end Table

end StateMachine

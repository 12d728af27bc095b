import StateMachine.Definition.Compilation
import StateMachine.Proofs.Except
import StateMachine.Proofs.Key

namespace StateMachine

namespace Checked

variable {α β : Type}

theorem both_eq_ok_iff {first : Checked α} {second : Checked β} {pair : α × β} :
    both first second = .ok pair ↔ first = .ok pair.1 ∧ second = .ok pair.2 := by
  obtain ⟨left, right⟩ := pair
  cases first <;> cases second <;> simp [both]

/-- Joined values are all good exactly if the result lists them. -/
theorem all_eq_ok_iff {values : List (Checked α)} {results : List α} :
    all values = .ok results ↔ values = results.map .ok := by
  induction values generalizing results with
  | nil => cases results <;> simp [all]
  | cons value values ih =>
    simp only [all, Except.map_eq_ok_iff, both_eq_ok_iff, Prod.exists, ih]
    constructor
    · rintro ⟨first, rest, ⟨rfl, rfl⟩, rfl⟩
      rfl
    · intro same
      cases results with
      | nil => cases same
      | cons first rest =>
        obtain ⟨rfl, rfl⟩ := List.cons.inj same
        exact ⟨first, rest, ⟨rfl, rfl⟩, rfl⟩

end Checked

namespace Table

/-- There is a state to begin in, and all targets are states of the table. -/
structure Closed (table : Table) : Prop where
  initial : 0 < table.states.length
  targets : ∀ target, some target ∈ table.cells → target.index < table.states.length

variable {table : Table}

theorem Closed.rule (closed : table.Closed) {row : Row} {event : EventId} {target : StateId}
    (found : table.rule? row event = some target) : target.index < table.states.length := by
  obtain ⟨slot, _, inside⟩ := Option.bind_eq_some_iff.mp found
  exact closed.targets target (Array.mem_of_getElem? (Option.join_eq_some_iff.mp inside))

theorem Closed.resolve (closed : table.Closed) {state : StateId} {event : EventId} {target : StateId}
    (resolved : table.resolve? state event = some target) : target.index < table.states.length := by
  rcases Option.or_eq_some_iff.mp resolved with own | ⟨_, wildcard⟩
  · exact closed.rule own
  · exact closed.rule wildcard

private theorem closed_blank (name : String) {states : List String} (events : List EventInfo)
    (some_state : states ≠ []) : (blank name states events).Closed := by
  refine ⟨List.length_pos_iff.mpr some_state, fun target member => ?_⟩
  obtain ⟨_, impossible⟩ := Array.mem_replicate.mp member
  cases impossible

theorem Closed.insert (closed : table.Closed) (row : Row) (event : EventId) {target : StateId}
    (known : target.index < table.states.length) :
    (table.insert row event target).1.Closed ∧
      (table.insert row event target).1.states = table.states := by
  unfold Table.insert
  cases table.slot? row event with
  | none => exact ⟨closed, rfl⟩
  | some slot =>
    refine ⟨⟨closed.initial, fun other member => ?_⟩, rfl⟩
    rcases Array.mem_or_eq_of_mem_setIfInBounds member with before | same
    · exact closed.targets other before
    · cases same
      exact known

end Table

namespace Filling

variable {filling : Filling}

/-- A filling that goes on from another one leaves its states as they are and keeps it closed. -/
structure Keeps (before after : Filling) : Prop where
  states : after.table.states = before.table.states
  closed : after.table.Closed

theorem Keeps.trans {first second third : Filling} (begins : first.Keeps second)
    (goes : second.Keeps third) : first.Keeps third :=
  ⟨goes.states.trans begins.states, goes.closed⟩

private theorem put_keeps (closed : filling.table.Closed) (event : EventId) (row : Row) {target : StateId}
    (known : target.index < filling.table.states.length) : filling.Keeps (filling.put event target row) := by
  obtain ⟨kept, states⟩ := closed.insert row event known
  exact ⟨states, kept⟩

private theorem putRule_keeps (closed : filling.table.Closed) (rule : ResolvedRule)
    (known : rule.target.index < filling.table.states.length) :
    filling.Keeps (filling.putRule rule) := by
  obtain ⟨event, rows, target⟩ := rule
  unfold putRule
  induction rows generalizing filling with
  | nil => exact ⟨rfl, closed⟩
  | cons row rows ih =>
    have first := put_keeps closed event row known
    exact first.trans (ih first.closed (by rw [first.states]; exact known))

private theorem putRules_keeps (closed : filling.table.Closed) {rules : List ResolvedRule}
    (known : ∀ rule ∈ rules, rule.target.index < filling.table.states.length) :
    filling.Keeps (filling.putRules rules) := by
  unfold putRules
  induction rules generalizing filling with
  | nil => exact ⟨rfl, closed⟩
  | cons rule rules ih =>
    have first := putRule_keeps closed rule (known rule (List.mem_cons_self ..))
    refine first.trans (ih first.closed fun later member => ?_)
    rw [first.states]
    exact known later (List.mem_cons_of_mem _ member)

end Filling

namespace Definition

variable {definition : Definition}

theorem stateId?_lt {name : String} {state : StateId} (found : definition.stateId? name = some state) :
    state.index < definition.states.length := by
  obtain ⟨index, position, rfl⟩ := Option.map_eq_some_iff.mp found
  obtain ⟨small, _⟩ := List.findIdx?_eq_some_iff_getElem.mp position
  exact Nat.lt_of_le_of_lt (StateId.index_ofIndex_le index) small

private theorem checkTarget_lt {rule : Rule} {target : StateId}
    (checked : definition.checkTarget rule = .ok target) :
    target.index < definition.states.length := by
  unfold checkTarget at checked
  split at checked
  · cases checked
  · split at checked
    · rename_i found
      cases checked
      exact stateId?_lt found
    · cases checked

private theorem checkRule_lt {rule : Rule} {resolved : ResolvedRule}
    (checked : definition.checkRule rule = .ok resolved) :
    resolved.target.index < definition.states.length := by
  unfold checkRule at checked
  split at checked
  · cases checked
  · obtain ⟨⟨target, rows⟩, both, rfl⟩ := Except.map_eq_ok_iff.mp checked
    exact checkTarget_lt (Checked.both_eq_ok_iff.mp both).1

theorem check_eq_ok_iff {rules : List ResolvedRule} :
    definition.check = .ok rules ↔
      definition.checkStates = .ok () ∧ definition.rules.map definition.checkRule = rules.map .ok := by
  simp only [check, Except.map_eq_ok_iff, Checked.both_eq_ok_iff, Prod.exists, Checked.all_eq_ok_iff]
  constructor
  · rintro ⟨_, _, both, rfl⟩
    exact both
  · intro both
    exact ⟨(), rules, both, rfl⟩

/-- Every resolved rule comes from a declared one. -/
theorem check_mem {rules : List ResolvedRule} (checked : definition.check = .ok rules)
    {resolved : ResolvedRule} (member : resolved ∈ rules) :
    ∃ rule ∈ definition.rules, definition.checkRule rule = .ok resolved := by
  have among : (.ok resolved : Checked ResolvedRule) ∈ definition.rules.map definition.checkRule := by
    rw [(check_eq_ok_iff.mp checked).2]
    exact List.mem_map_of_mem member
  obtain ⟨rule, declared, same⟩ := List.mem_map.mp among
  exact ⟨rule, declared, same⟩

theorem check_rule {rules : List ResolvedRule} (checked : definition.check = .ok rules) {rule : Rule}
    (declared : rule ∈ definition.rules) : ∃ resolved, definition.checkRule rule = .ok resolved := by
  have among := List.mem_map_of_mem (f := definition.checkRule) declared
  rw [(check_eq_ok_iff.mp checked).2] at among
  obtain ⟨resolved, _, same⟩ := List.mem_map.mp among
  exact ⟨resolved, same.symm⟩

private theorem states_ne_nil (checked : definition.checkStates = .ok ()) : definition.states ≠ [] := by
  intro none
  simp [checkStates, none] at checked

/-- A compilation that succeeds has filled the table with the resolved rules. -/
theorem compile_eq_ok {strictness : Strictness} {compilation : Compilation}
    (compiled : definition.compile strictness = .ok compilation) :
    ∃ rules, definition.check = .ok rules ∧ compilation.table = (definition.fill rules).table := by
  unfold compile at compiled
  cases checked : definition.check with
  | error problems =>
    rw [checked] at compiled
    cases compiled
  | ok rules =>
    rw [checked] at compiled
    refine ⟨rules, rfl, ?_⟩
    simp only [bind, Except.bind] at compiled
    split at compiled
    · cases compiled
    · cases compiled
      rfl

theorem compile_closed {strictness : Strictness} {compilation : Compilation}
    (compiled : definition.compile strictness = .ok compilation) : compilation.table.Closed := by
  obtain ⟨rules, checked, same⟩ := compile_eq_ok compiled
  obtain ⟨states, _⟩ := check_eq_ok_iff.mp checked
  rw [same]
  refine (Filling.putRules_keeps (Table.closed_blank _ _ (states_ne_nil states)) ?_).closed
  intro rule member
  obtain ⟨declared, _, checked⟩ := check_mem checked member
  exact checkRule_lt checked

end Definition

end StateMachine

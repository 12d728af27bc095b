import StateMachine.Definition.Sample
import StateMachine.Proofs.Edges

namespace StateMachine

namespace Table

variable {table : Table} {state : StateId} {event : EventId}

private theorem rule?_of_unknown_event (unknown : table.events.length ≤ event.index) (row : Row) :
    table.rule? row event = none := by
  rw [rule?, slot?, if_neg (Nat.not_lt.mpr unknown), Option.bind_none]

private theorem rule?_of_unknown_state (unknown : table.states.length ≤ state.index) (event : EventId) :
    table.rule? (.state state) event = none := by
  have rowless : table.rowIndex? (.state state) = none := if_neg (Nat.not_lt.mpr unknown)
  simp [rule?, slot?, rowless]

private theorem resolve?_of_unknown_event (unknown : table.events.length ≤ event.index) (state : StateId) :
    table.resolve? state event = none := by
  rw [resolve?, rule?_of_unknown_event unknown, rule?_of_unknown_event unknown, Option.or_none]

/-- What a table says of a state: no edge leaves it, and yet the rules of the wildcard row apply to it. -/
structure Outside (table : Table) (state : StateId) : Prop where
  name : table.stateName? state = none
  edges : ∀ edge ∈ table.edges, edge.source ≠ state
  resolve : ∀ event, table.resolve? state event = table.rule? .wildcard event
  leaving : ∀ event, event ∈ table.eventsFrom state ↔ ∃ target, table.rule? .wildcard event = some target
  terminal : table.isTerminal state = true ↔ ∀ event, table.rule? .wildcard event = none

private theorem outside_of_unknown_state (unknown : table.states.length ≤ state.index) :
    table.Outside state := by
  have resolve (event : EventId) : table.resolve? state event = table.rule? .wildcard event := by
    rw [resolve?, rule?_of_unknown_state unknown, Option.none_or]
  have leaving (event : EventId) : event ∈ table.eventsFrom state ↔
      ∃ target, table.rule? .wildcard event = some target := by
    rw [mem_eventsFrom_iff, resolve, and_iff_right_iff_imp]
    rintro ⟨target, shared⟩
    refine Nat.lt_of_not_le fun beyond => ?_
    cases (rule?_of_unknown_event beyond _).symm.trans shared
  refine ⟨List.getElem?_eq_none unknown, ?_, resolve, leaving, ?_⟩
  · rintro edge listed rfl
    exact Nat.not_lt.mpr unknown (mem_edges_iff.mp listed).1
  · rw [isTerminal, List.isEmpty_iff, List.eq_nil_iff_forall_not_mem]
    simp only [leaving, Option.eq_none_iff_forall_ne_some, not_exists, ne_eq]

end Table

/-- An event that a table does not know resolves from no state. A state that the table does not know is
treated like a declared one without rules of its own: it is terminal only if the wildcard row is empty. -/
theorem unknown_ids_see_wildcard_row (table : Table) :
    (∀ event : EventId, table.events.length ≤ event.index →
      ∀ state, table.resolve? state event = none) ∧
    ∀ state : StateId, table.states.length ≤ state.index → table.Outside state :=
  ⟨fun _ unknown => Table.resolve?_of_unknown_event unknown, fun _ => Table.outside_of_unknown_state⟩

theorem unknown_state_is_not_terminal :
    ∃ compilation, Definition.Sample.audioPlayer.compile .permissive = .ok compilation ∧
      compilation.table.states.length ≤ (⟨42⟩ : StateId).index ∧ compilation.table.Outside ⟨42⟩ ∧
      compilation.table.isTerminal ⟨42⟩ = false := by
  obtain ⟨compilation, compiled⟩ : ∃ compilation,
      Definition.Sample.audioPlayer.compile .permissive = .ok compilation := ⟨_, rfl⟩
  cases compiled
  have unknown : 4 ≤ (⟨42⟩ : StateId).index := by decide
  exact ⟨_, rfl, unknown, (unknown_ids_see_wildcard_row _).2 _ unknown, rfl⟩

/-- In the sample with four states the first event loads from state 42 as well. -/
theorem unknown_state_resolves :
    ∃ compilation, Definition.Sample.audioPlayer.compile .permissive = .ok compilation ∧
      compilation.table.states.length ≤ (⟨42⟩ : StateId).index ∧
      compilation.table.stateName? ⟨42⟩ = none ∧ compilation.table.resolve? ⟨42⟩ ⟨0⟩ = some ⟨1⟩ ∧
      compilation.table.eventsFrom ⟨42⟩ = [⟨0⟩, ⟨3⟩] := by
  refine ⟨_, rfl, ?_, rfl, rfl, rfl⟩
  decide

end StateMachine

import Mathlib.Data.List.Sort
import StateMachine.Proofs.Graph

namespace StateMachine

/-- An edge comes before another one by its source, and among edges of one source by its event. -/
def Edge.Precedes (first second : Edge) : Prop :=
  first.source.index < second.source.index ∨
    first.source = second.source ∧ first.event.index < second.event.index

theorem Edge.Precedes.ne {first second : Edge} (precedes : first.Precedes second) : first ≠ second := by
  rintro rfl
  rcases precedes with before | ⟨_, before⟩
  · exact Nat.lt_irrefl _ before
  · exact Nat.lt_irrefl _ before

namespace Table

variable {table : Table}

/-- The edges of a table and the states without edges, by what events resolve to. -/
structure Charted (table : Table) : Prop where
  edges : ∀ source event target wildcard, ⟨source, event, target, wildcard⟩ ∈ table.edges ↔
    source.index < table.states.length ∧ event.index < table.events.length ∧
      table.resolve? source event = some target ∧
      (wildcard = true ↔ table.rule? (.state source) event = none)
  terminal : ∀ state, state.index < table.states.length →
    (table.isTerminal state = true ↔ ∀ edge ∈ table.edges, edge.source ≠ state)
  terminals : ∀ state, state ∈ table.terminalStates ↔
    state.index < table.states.length ∧ ∀ edge ∈ table.edges, edge.source ≠ state
  wildcard : ∀ event target, table.rule? .wildcard event = some target → table.terminalStates = []

/-- The edges in the order of their sources and events, none of them twice, and the states without edges in
the order of their declaration. -/
structure InOrder (table : Table) : Prop where
  edges : table.edges.Pairwise Edge.Precedes
  distinct : table.edges.Nodup
  leaving : ∀ state, state.index < table.states.length →
    table.eventsFrom state = (table.edges.filter (·.source = state)).map (·.event)
  terminals : table.terminalStates.Pairwise fun first second => first.index < second.index

private theorem edge?_eq_some_iff_resolve? {source target : StateId} {event : EventId} {wildcard : Bool} :
    table.edge? source event = some ⟨source, event, target, wildcard⟩ ↔
      table.resolve? source event = some target ∧
        (wildcard = true ↔ table.rule? (.state source) event = none) := by
  simp only [edge?_eq_some_iff, true_and, resolve?]
  cases table.rule? (.state source) event <;> cases wildcard <;> simp

theorem mem_eventsFrom_iff {state : StateId} {event : EventId} :
    event ∈ table.eventsFrom state ↔ event.index < table.events.length ∧
      ∃ target, table.resolve? state event = some target := by
  simp only [eventsFrom, List.mem_filter, mem_eventIds_iff, Option.isSome_iff_exists]

/-- The events that lead out of a declared state are those of its edges. -/
theorem mem_eventsFrom_iff_edge {state : StateId} (known : state.index < table.states.length)
    {event : EventId} :
    event ∈ table.eventsFrom state ↔ ∃ edge ∈ table.edges, edge.source = state ∧ edge.event = event := by
  rw [mem_eventsFrom_iff]
  constructor
  · rintro ⟨column, target, resolved⟩
    refine ⟨⟨state, event, target, (table.rule? (.state state) event).isNone⟩, ?_, rfl, rfl⟩
    exact mem_edges_iff.mpr ⟨known, column, edge?_eq_some_iff_resolve?.mpr ⟨resolved, by simp⟩⟩
  · rintro ⟨edge, listed, rfl, rfl⟩
    obtain ⟨_, column, found⟩ := mem_edges_iff.mp listed
    exact ⟨column, edge.target, (edge?_eq_some_iff_resolve?.mp found).1⟩

private theorem isTerminal_iff {state : StateId} (known : state.index < table.states.length) :
    table.isTerminal state = true ↔ ∀ edge ∈ table.edges, edge.source ≠ state := by
  rw [isTerminal, List.isEmpty_iff, List.eq_nil_iff_forall_not_mem]
  constructor
  · intro none edge listed same
    exact none edge.event ((mem_eventsFrom_iff_edge known).mpr ⟨edge, listed, same, rfl⟩)
  · intro none event leads
    obtain ⟨edge, listed, same, _⟩ := (mem_eventsFrom_iff_edge known).mp leads
    exact none edge listed same

private theorem mem_terminalStates_iff {state : StateId} : state ∈ table.terminalStates ↔
    state.index < table.states.length ∧ ∀ edge ∈ table.edges, edge.source ≠ state := by
  rw [terminalStates, List.mem_filter, mem_stateIds_iff]
  exact and_congr_right fun known => isTerminal_iff known

/-- A rule of the wildcard row leads out of every state, if no other rule does. -/
theorem terminalStates_eq_nil {event : EventId} {target : StateId}
    (shared : table.rule? .wildcard event = some target) : table.terminalStates = [] := by
  have column : event.index < table.events.length := by
    obtain ⟨slot, place, _⟩ := Option.bind_eq_some_iff.mp shared
    exact (slot?_eq_some_iff.mp place).1
  rw [List.eq_nil_iff_forall_not_mem]
  intro state terminal
  obtain ⟨known, none⟩ := mem_terminalStates_iff.mp terminal
  have leads : event ∈ table.eventsFrom state := by
    refine mem_eventsFrom_iff.mpr ⟨column, ?_⟩
    rw [resolve?, shared, Option.or_some]
    exact ⟨_, rfl⟩
  obtain ⟨edge, listed, same, _⟩ := (mem_eventsFrom_iff_edge known).mp leads
  exact none edge listed same

private theorem charted (table : Table) : table.Charted := by
  constructor
  case edges =>
    intro source event target wildcard
    rw [mem_edges_iff, edge?_eq_some_iff_resolve?]
  case terminal => exact fun state known => isTerminal_iff known
  case terminals => exact fun state => mem_terminalStates_iff
  case wildcard => exact fun event target shared => terminalStates_eq_nil shared

section Order

variable (states_fit : table.states.length ≤ UInt32.size) (events_fit : table.events.length ≤ UInt32.size)

include states_fit in
private theorem stateIds_increasing :
    table.stateIds.Pairwise fun first second => first.index < second.index := by
  refine List.pairwise_map.mpr (List.pairwise_lt_range.imp_of_mem ?_)
  intro first second member member_too below
  have inside := Nat.lt_of_lt_of_le (List.mem_range.mp member) states_fit
  have inside_too := Nat.lt_of_lt_of_le (List.mem_range.mp member_too) states_fit
  rwa [StateId.index_ofIndex inside, StateId.index_ofIndex inside_too]

include events_fit in
private theorem eventIds_increasing :
    table.eventIds.Pairwise fun first second => first.index < second.index := by
  refine List.pairwise_map.mpr (List.pairwise_lt_range.imp_of_mem ?_)
  intro first second member member_too below
  have inside := Nat.lt_of_lt_of_le (List.mem_range.mp member) events_fit
  have inside_too := Nat.lt_of_lt_of_le (List.mem_range.mp member_too) events_fit
  rwa [EventId.index_ofIndex inside, EventId.index_ofIndex inside_too]

include states_fit events_fit

/-- One row of edges after the other, and in a row one event after the other. -/
theorem edges_ordered : table.edges.Pairwise Edge.Precedes := by
  have begins {source : StateId} {event : EventId} {edge : Edge}
      (found : table.edge? source event = some edge) : edge.source = source ∧ edge.event = event :=
    ⟨(edge?_eq_some_iff.mp found).1, (edge?_eq_some_iff.mp found).2.1⟩
  refine List.pairwise_flatMap.mpr ⟨fun source _ => ?_, (stateIds_increasing states_fit).imp ?_⟩
  · refine (eventIds_increasing events_fit).filterMap _ ?_
    intro event other below edge found edge_too found_too
    obtain ⟨source_eq, event_eq⟩ := begins found
    obtain ⟨source_eq_too, event_eq_too⟩ := begins found_too
    exact .inr ⟨source_eq.trans source_eq_too.symm, by rwa [event_eq, event_eq_too]⟩
  · intro source other below edge listed edge_too listed_too
    obtain ⟨_, _, found⟩ := List.mem_filterMap.mp listed
    obtain ⟨_, _, found_too⟩ := List.mem_filterMap.mp listed_too
    exact .inl (by rwa [(begins found).1, (begins found_too).1])

private theorem eventsFrom_eq {state : StateId} (known : state.index < table.states.length) :
    table.eventsFrom state = (table.edges.filter (·.source = state)).map (·.event) := by
  have increasing : ((table.edges.filter (·.source = state)).map (·.event)).Pairwise
      fun first second => first.index < second.index := by
    rw [List.pairwise_map, List.pairwise_filter]
    refine (edges_ordered states_fit events_fit).imp fun {first second} precedes leaves leaves_too => ?_
    have same : first.source = second.source :=
      (of_decide_eq_true leaves).trans (of_decide_eq_true leaves_too).symm
    rcases precedes with before | ⟨_, before⟩
    · exact absurd (congrArg StateId.index same) (Nat.ne_of_lt before)
    · exact before
  refine List.Pairwise.eq_of_mem_iff ((eventIds_increasing events_fit).filter _) increasing fun event => ?_
  refine (mem_eventsFrom_iff_edge known).trans ?_
  simp only [List.mem_map, List.mem_filter, decide_eq_true_eq, and_assoc]

theorem in_order : table.InOrder := by
  have ordered := edges_ordered states_fit events_fit
  constructor
  case edges => exact ordered
  case distinct => exact ordered.imp Edge.Precedes.ne
  case leaving => exact fun state known => eventsFrom_eq states_fit events_fit known
  case terminals => exact (stateIds_increasing states_fit).filter _

end Order

/-- With more states than there are ids, the first one shares its id with a later one, and its edges are
listed again. -/
theorem edges_repeat (many : UInt32.size < table.states.length) {edge : Edge} (listed : edge ∈ table.edges)
    (first : edge.source = .initial) : ¬ table.edges.Nodup := by
  intro distinct
  obtain ⟨_, column, found⟩ := mem_edges_iff.mp listed
  have own : edge ∈ table.eventIds.filterMap (table.edge? .initial) :=
    List.mem_filterMap.mpr ⟨edge.event, mem_eventIds_iff.mpr column, first ▸ found⟩
  have apart := List.pairwise_map.mp (List.pairwise_flatMap.mp distinct).2
  -- The positions 0 and 2 ^ 32 have the same id.
  have again := List.pairwise_iff_getElem.mp apart 0 UInt32.size (by simp; omega) (by simpa) (by decide)
  simp only [List.getElem_range] at again
  exact again edge own edge own rfl

end Table

end StateMachine

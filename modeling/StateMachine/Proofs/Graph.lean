import StateMachine.Proofs.Compilation
import StateMachine.Proofs.Layout
import StateMachine.Proofs.Repetition
import StateMachine.Table.Graph

namespace StateMachine

namespace Table

variable {table : Table}

theorem mem_stateIds_iff {state : StateId} : state ∈ table.stateIds ↔ state.index < table.states.length := by
  constructor
  · intro member
    obtain ⟨index, inside, rfl⟩ := List.mem_map.mp member
    exact Nat.lt_of_le_of_lt (StateId.index_ofIndex_le index) (List.mem_range.mp inside)
  · intro inside
    exact List.mem_map.mpr ⟨state.index, List.mem_range.mpr inside, state.ofIndex_index⟩

theorem mem_eventIds_iff {event : EventId} : event ∈ table.eventIds ↔ event.index < table.events.length := by
  constructor
  · intro member
    obtain ⟨index, inside, rfl⟩ := List.mem_map.mp member
    exact Nat.lt_of_le_of_lt (EventId.index_ofIndex_le index) (List.mem_range.mp inside)
  · intro inside
    exact List.mem_map.mpr ⟨event.index, List.mem_range.mpr inside, event.ofIndex_index⟩

/-- An edge is one of the row of its state, or of the wildcard row where that row is empty. -/
theorem edge?_eq_some_iff {source : StateId} {event : EventId} {edge : Edge} :
    table.edge? source event = some edge ↔ edge.source = source ∧ edge.event = event ∧
      (edge.wildcard = false ∧ table.rule? (.state source) event = some edge.target ∨
        edge.wildcard = true ∧ table.rule? (.state source) event = none ∧
          table.rule? .wildcard event = some edge.target) := by
  obtain ⟨start, label, target, wildcard⟩ := edge
  cases own : table.rule? (.state source) event with
  | some own_target => simp [edge?, own, eq_comm, and_comm]
  | none =>
    cases shared : table.rule? .wildcard event with
    | none => simp [edge?, own, shared]
    | some any_target => simp [edge?, own, shared, eq_comm, and_comm, and_left_comm]

/-- The edges of a table are those of its states and events. -/
theorem mem_edges_iff {edge : Edge} :
    edge ∈ table.edges ↔ edge.source.index < table.states.length ∧ edge.event.index < table.events.length ∧
      table.edge? edge.source edge.event = some edge := by
  simp only [edges, List.mem_flatMap, List.mem_filterMap, mem_stateIds_iff, mem_eventIds_iff]
  constructor
  · intro among
    obtain ⟨source, known, event, known_too, found⟩ := among
    obtain ⟨rfl, rfl, _⟩ := edge?_eq_some_iff.mp found
    exact ⟨known, known_too, found⟩
  · intro found
    exact ⟨edge.source, found.1, edge.event, found.2.1, found.2.2⟩

/-- The row of a source, if the table knows it. -/
def row? (table : Table) : Source → Option Row
  | .any => some .wildcard
  | .state name => (table.stateId? name).map .state

/-- The target that the row of a source holds for an event, all by name. -/
def ruleNamed? (table : Table) (source : Source) (event : String) : Option String := do
  let row ← table.row? source
  let event ← table.eventId? event
  let target ← table.rule? row event
  table.stateName? target

/-- The target of an event from a state, all by name. -/
def resolveNamed? (table : Table) (state event : String) : Option String := do
  let state ← table.stateId? state
  let event ← table.eventId? event
  let target ← table.resolve? state event
  table.stateName? target

structure NamedEdge where
  source : String
  event : String
  target : String
  wildcard : Bool
  deriving DecidableEq

def namedEdges (table : Table) : List NamedEdge :=
  table.edges.map fun edge =>
    ⟨table.stateLabel edge.source, table.eventLabel edge.event, table.stateLabel edge.target, edge.wildcard⟩

private theorem stateName?_eq_stateLabel {state : StateId} (known : state.index < table.states.length) :
    table.stateName? state = some (table.stateLabel state) := by
  simp [stateLabel, stateName?, known]

private theorem stateLabel_of_stateName? {state : StateId} {name : String}
    (named : table.stateName? state = some name) :
    state.index < table.states.length ∧ table.stateLabel state = name := by
  refine ⟨(List.getElem?_eq_some_iff.mp named).1, ?_⟩
  rw [stateLabel, named]
  rfl

private theorem eventName?_eq_eventLabel {event : EventId} (known : event.index < table.events.length) :
    table.eventName? event = some (table.eventLabel event) := by
  simp [eventLabel, eventName?, event?, known]

private theorem eventLabel_of_eventName? {event : EventId} {label : String}
    (named : table.eventName? event = some label) :
    event.index < table.events.length ∧ table.eventLabel event = label := by
  obtain ⟨info, found, _⟩ := Option.map_eq_some_iff.mp named
  refine ⟨(List.getElem?_eq_some_iff.mp found).1, ?_⟩
  rw [eventLabel, named]
  rfl

private theorem eventId?_of_ruleNamed? {source : Source} {label target : String}
    (ruled : table.ruleNamed? source label = some target) : ∃ event, table.eventId? label = some event := by
  obtain ⟨_, _, ruled⟩ := Option.bind_eq_some_iff.mp ruled
  obtain ⟨event, found, _⟩ := Option.bind_eq_some_iff.mp ruled
  exact ⟨event, found⟩

private theorem row?_any (table : Table) : table.row? .any = some .wildcard := rfl

section Named

variable (regular : table.Regular) (closed : table.Closed)
include regular closed

/-- What a row holds by name is what it holds by ids. -/
theorem ruleNamed?_eq {source : Source} {row : Row} {event : EventId} {label : String}
    (line : table.row? source = some row) (named : table.eventName? event = some label) :
    table.ruleNamed? source label = (table.rule? row event).map table.stateLabel := by
  have found := regular.eventId?_eq_some_iff.mpr named
  cases ruled : table.rule? row event with
  | none => simp [ruleNamed?, line, found, ruled]
  | some target => simp [ruleNamed?, line, found, ruled, stateName?_eq_stateLabel (closed.rule ruled)]

omit closed in
theorem row?_state {state : StateId} {name : String} (named : table.stateName? state = some name) :
    table.row? (.state name) = some (.state state) := by
  rw [row?, regular.stateId?_eq_some_iff.mpr named]
  rfl

/-- By name, the edges are the rules of the rows of states, and those of the wildcard row where there is
none. -/
theorem mem_namedEdges_iff {edge : NamedEdge} :
    edge ∈ table.namedEdges ↔ edge.source ∈ table.states ∧
      (edge.wildcard = false ∧ table.ruleNamed? (.state edge.source) edge.event = some edge.target ∨
        edge.wildcard = true ∧ table.ruleNamed? (.state edge.source) edge.event = none ∧
          table.ruleNamed? .any edge.event = some edge.target) := by
  constructor
  · intro member
    obtain ⟨⟨source, event, target, wildcard⟩, among, rfl⟩ := List.mem_map.mp member
    obtain ⟨known, column, found⟩ := mem_edges_iff.mp among
    obtain ⟨_, _, ruled⟩ := edge?_eq_some_iff.mp found
    have named := stateName?_eq_stateLabel known
    have named_too := eventName?_eq_eventLabel column
    refine ⟨regular.mem_states_iff.mpr ⟨source, named⟩, ?_⟩
    rw [ruleNamed?_eq regular closed (row?_state regular named) named_too,
      ruleNamed?_eq regular closed table.row?_any named_too]
    rcases ruled with ⟨plain, own⟩ | ⟨shared, none, any⟩
    · exact .inl ⟨plain, by rw [own]; rfl⟩
    · exact .inr ⟨shared, by rw [none]; rfl, by rw [any]; rfl⟩
  · intro ruled
    obtain ⟨member, ruled⟩ := ruled
    obtain ⟨source, named⟩ := regular.mem_states_iff.mp member
    obtain ⟨event, found⟩ : ∃ event, table.eventId? edge.event = some event := by
      rcases ruled with ⟨_, own⟩ | ⟨_, _, any⟩
      · exact eventId?_of_ruleNamed? own
      · exact eventId?_of_ruleNamed? any
    have named_too := regular.eventId?_eq_some_iff.mp found
    rw [ruleNamed?_eq regular closed (row?_state regular named) named_too,
      ruleNamed?_eq regular closed table.row?_any named_too] at ruled
    obtain ⟨known, source_label⟩ := stateLabel_of_stateName? named
    obtain ⟨column, event_label⟩ := eventLabel_of_eventName? named_too
    have listed {target : StateId} (label : table.stateLabel target = edge.target)
        (found : table.edge? source event = some ⟨source, event, target, edge.wildcard⟩) :
        edge ∈ table.namedEdges := by
      refine List.mem_map.mpr ⟨⟨source, event, target, edge.wildcard⟩,
        mem_edges_iff.mpr ⟨known, column, found⟩, ?_⟩
      simp only [source_label, event_label, label]
    rcases ruled with ⟨plain, own⟩ | ⟨shared, none, any⟩
    · obtain ⟨target, own, label⟩ := Option.map_eq_some_iff.mp own
      exact listed label (edge?_eq_some_iff.mpr ⟨rfl, rfl, .inl ⟨plain, own⟩⟩)
    · obtain ⟨target, any, label⟩ := Option.map_eq_some_iff.mp any
      exact listed label (edge?_eq_some_iff.mpr ⟨rfl, rfl, .inr ⟨shared, Option.map_eq_none_iff.mp none, any⟩⟩)

/-- By name, an event resolves to what the row of the state holds, or else the wildcard row. -/
theorem resolveNamed?_eq (state event : String) :
    table.resolveNamed? state event = if state ∈ table.states then
      (table.ruleNamed? (.state state) event).or (table.ruleNamed? .any event) else none := by
  by_cases known : state ∈ table.states
  · obtain ⟨source, named⟩ := regular.mem_states_iff.mp known
    have position := regular.stateId?_eq_some_iff.mpr named
    rw [if_pos known]
    cases found : table.eventId? event with
    | none => simp [resolveNamed?, ruleNamed?, found]
    | some id =>
      have named_too := regular.eventId?_eq_some_iff.mp found
      rw [ruleNamed?_eq regular closed (row?_state regular named) named_too,
        ruleNamed?_eq regular closed table.row?_any named_too, ← Option.map_or, ← resolve?]
      cases resolved : table.resolve? source id with
      | none => simp [resolveNamed?, position, found, resolved]
      | some target =>
        simp [resolveNamed?, position, found, resolved, stateName?_eq_stateLabel (closed.resolve resolved)]
  · have absent : table.stateId? state = none := by
      cases position : table.stateId? state with
      | none => rfl
      | some id => exact absurd (regular.mem_states_iff.mpr ⟨id, regular.stateId?_eq_some_iff.mp position⟩) known
    rw [if_neg known]
    simp [resolveNamed?, absent]

end Named

end Table

end StateMachine

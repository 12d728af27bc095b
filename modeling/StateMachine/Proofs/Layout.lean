import Mathlib.Data.List.Nodup
import StateMachine.Proofs.Key

namespace StateMachine

/-- The position of a name among distinct names. -/
theorem findIdx?_eq_some_iff_of_nodup {α : Type} {name : α → String} {items : List α}
    (distinct : (items.map name).Nodup) (label : String) (index : Nat) :
    items.findIdx? (name · = label) = some index ↔ items[index]?.map name = some label := by
  constructor
  · intro found
    obtain ⟨small, same, _⟩ := List.findIdx?_eq_some_iff_getElem.mp found
    rw [List.getElem?_eq_getElem small]
    simpa using same
  · intro named
    obtain ⟨item, at_index, same⟩ := Option.map_eq_some_iff.mp named
    obtain ⟨small, rfl⟩ := List.getElem?_eq_some_iff.mp at_index
    refine List.findIdx?_eq_some_iff_getElem.mpr ⟨small, by simpa using same, fun earlier before => ?_⟩
    intro again
    have apart := List.pairwise_iff_getElem.mp distinct earlier index (by simp; omega) (by simpa) before
    simp only [List.getElem_map] at apart
    exact apart ((of_decide_eq_true again).trans same.symm)

theorem StateId.index_inj {state other : StateId} (same : state.index = other.index) : state = other := by
  rw [← state.ofIndex_index, same, other.ofIndex_index]

theorem EventId.index_inj {event other : EventId} (same : event.index = other.index) : event = other := by
  rw [← event.ofIndex_index, same, other.ofIndex_index]

namespace Table

/-- A table with distinct names, with an id for each of them, and with all of its cells. -/
structure Regular (table : Table) : Prop where
  states : table.states.Nodup
  events : (table.events.map (·.name)).Nodup
  stateIds : table.states.length ≤ UInt32.size
  eventIds : table.events.length ≤ UInt32.size
  cells : table.cells.size = (table.states.length + 1) * table.events.length

/-- A table with all of its cells, whatever its names. -/
def Complete (table : Table) : Prop :=
  table.cells.size = (table.states.length + 1) * table.events.length

variable {table : Table}

theorem Regular.complete (regular : table.Regular) : table.Complete := regular.cells

theorem Regular.stateId?_eq_some_iff (regular : table.Regular) {name : String} {state : StateId} :
    table.stateId? name = some state ↔ table.stateName? state = some name := by
  have distinct : (table.states.map id).Nodup := by simpa using regular.states
  have position (index : Nat) : table.states.findIdx? (· = name) = some index ↔
      table.states[index]? = some name := by
    simpa using findIdx?_eq_some_iff_of_nodup distinct name index
  simp only [stateId?, stateName?, Option.map_eq_some_iff, position]
  constructor
  · rintro ⟨index, found, rfl⟩
    obtain ⟨small, _⟩ := List.getElem?_eq_some_iff.mp found
    rwa [StateId.index_ofIndex (Nat.lt_of_lt_of_le small regular.stateIds)]
  · intro named
    exact ⟨state.index, named, state.ofIndex_index⟩

theorem Regular.eventId?_eq_some_iff (regular : table.Regular) {label : String} {event : EventId} :
    table.eventId? label = some event ↔ table.eventName? event = some label := by
  simp only [eventId?, eventName?, event?, Option.map_eq_some_iff,
    findIdx?_eq_some_iff_of_nodup regular.events]
  constructor
  · rintro ⟨index, ⟨info, found, same⟩, rfl⟩
    obtain ⟨small, _⟩ := List.getElem?_eq_some_iff.mp found
    refine ⟨info, ?_, same⟩
    rwa [EventId.index_ofIndex (Nat.lt_of_lt_of_le small regular.eventIds)]
  · intro named
    exact ⟨event.index, named, event.ofIndex_index⟩

theorem Regular.mem_states_iff (regular : table.Regular) {name : String} :
    name ∈ table.states ↔ ∃ state, table.stateName? state = some name := by
  constructor
  · intro member
    obtain ⟨index, small, same⟩ := List.getElem_of_mem member
    have position := StateId.index_ofIndex (Nat.lt_of_lt_of_le small regular.stateIds)
    exact ⟨.ofIndex index, by simp [stateName?, position, small, same]⟩
  · rintro ⟨state, named⟩
    exact List.mem_of_getElem? named

theorem Regular.mem_events_iff (regular : table.Regular) {label : String} :
    (∃ info ∈ table.events, info.name = label) ↔ ∃ event, table.eventName? event = some label := by
  constructor
  · rintro ⟨info, member, same⟩
    obtain ⟨index, small, at_index⟩ := List.getElem_of_mem member
    have position := EventId.index_ofIndex (Nat.lt_of_lt_of_le small regular.eventIds)
    exact ⟨.ofIndex index, by simp [eventName?, event?, position, small, at_index, same]⟩
  · rintro ⟨event, named⟩
    obtain ⟨info, found, same⟩ := Option.map_eq_some_iff.mp named
    exact ⟨info, List.mem_of_getElem? found, same⟩

theorem rowIndex?_state_eq_some_iff {state : StateId} {index : Nat} :
    table.rowIndex? (.state state) = some index ↔ state.index = index ∧ index < table.states.length := by
  by_cases known : state.index < table.states.length
  · simp only [rowIndex?, known, if_true, Option.some.injEq]
    constructor
    · rintro rfl
      exact ⟨rfl, known⟩
    · exact And.left
  · simp only [rowIndex?, known, if_false, reduceCtorEq, false_iff, not_and]
    rintro rfl
    exact known

private theorem rowIndex?_wildcard_eq_some_iff {index : Nat} :
    table.rowIndex? .wildcard = some index ↔ index = table.states.length := by
  simp only [rowIndex?, Option.some.injEq, eq_comm]

private theorem rowIndex?_le {row : Row} {index : Nat} (found : table.rowIndex? row = some index) :
    index ≤ table.states.length := by
  cases row with
  | state state => exact Nat.le_of_lt (rowIndex?_state_eq_some_iff.mp found).2
  | wildcard => exact Nat.le_of_eq (rowIndex?_wildcard_eq_some_iff.mp found)

private theorem rowIndex?_inj {row other : Row} {index : Nat} (found : table.rowIndex? row = some index)
    (again : table.rowIndex? other = some index) : row = other := by
  cases row with
  | state state =>
    obtain ⟨same, small⟩ := rowIndex?_state_eq_some_iff.mp found
    cases other with
    | state another => rw [StateId.index_inj (same.trans (rowIndex?_state_eq_some_iff.mp again).1.symm)]
    | wildcard => exact absurd (rowIndex?_wildcard_eq_some_iff.mp again) (Nat.ne_of_lt small)
  | wildcard =>
    have last := rowIndex?_wildcard_eq_some_iff.mp found
    cases other with
    | state another => exact absurd last (Nat.ne_of_lt (rowIndex?_state_eq_some_iff.mp again).2)
    | wildcard => rfl

theorem slot?_eq_some_iff {row : Row} {event : EventId} {slot : Nat} :
    table.slot? row event = some slot ↔ event.index < table.events.length ∧
      ∃ index, table.rowIndex? row = some index ∧ index * table.events.length + event.index = slot := by
  by_cases known : event.index < table.events.length
  · simp [slot?, known]
  · simp [slot?, known]

/-- No two cells share a place. -/
theorem slot?_inj {row other : Row} {event another : EventId} {slot : Nat}
    (found : table.slot? row event = some slot) (again : table.slot? other another = some slot) :
    row = other ∧ event = another := by
  obtain ⟨column, line, known, place⟩ := slot?_eq_some_iff.mp found
  obtain ⟨column_too, line_too, known_too, place_too⟩ := slot?_eq_some_iff.mp again
  have columns : event.index = another.index := by
    have residues := congrArg (· % table.events.length) (place.trans place_too.symm)
    simpa [Nat.mod_eq_of_lt column, Nat.mod_eq_of_lt column_too] using residues
  have lines : line = line_too := by
    have positive : 0 < table.events.length := Nat.zero_lt_of_lt column
    have products : line * table.events.length = line_too * table.events.length := by omega
    exact Nat.eq_of_mul_eq_mul_right positive products
  subst lines
  exact ⟨rowIndex?_inj known known_too, EventId.index_inj columns⟩

theorem Complete.slot?_lt (complete : table.Complete) {row : Row} {event : EventId} {slot : Nat}
    (found : table.slot? row event = some slot) : slot < table.cells.size := by
  obtain ⟨column, line, known, place⟩ := slot?_eq_some_iff.mp found
  have bounded := Nat.mul_le_mul_right table.events.length (rowIndex?_le known)
  rw [complete, Nat.add_mul]
  omega

/-- Every place among the cells is that of some row and some event. -/
theorem Regular.exists_slot? (regular : table.Regular) {slot : Nat} (inside : slot < table.cells.size) :
    ∃ row event, table.slot? row event = some slot := by
  rw [regular.cells] at inside
  have positive : 0 < table.events.length := by
    by_contra none
    rw [Nat.eq_zero_of_not_pos none] at inside
    simp at inside
  -- The remainder is the column and the quotient the row, that of the wildcard after the last state.
  have column := Nat.mod_lt slot positive
  have line : slot / table.events.length < table.states.length + 1 :=
    Nat.div_lt_of_lt_mul (by rwa [Nat.mul_comm])
  have event_index := EventId.index_ofIndex (Nat.lt_of_lt_of_le column regular.eventIds)
  have place := Nat.div_add_mod' slot table.events.length
  by_cases own : slot / table.events.length < table.states.length
  · have state_index := StateId.index_ofIndex (Nat.lt_of_lt_of_le own regular.stateIds)
    refine ⟨.state (.ofIndex (slot / table.events.length)), .ofIndex (slot % table.events.length),
      slot?_eq_some_iff.mpr ⟨?_, _, rowIndex?_state_eq_some_iff.mpr ⟨state_index, own⟩, ?_⟩⟩
    · rwa [event_index]
    · rw [event_index, place]
  · have last : slot / table.events.length = table.states.length := by omega
    refine ⟨.wildcard, .ofIndex (slot % table.events.length),
      slot?_eq_some_iff.mpr ⟨?_, _, rowIndex?_wildcard_eq_some_iff.mpr last, ?_⟩⟩
    · rwa [event_index]
    · rw [event_index, place]

theorem complete_blank (name : String) (states : List String) (events : List EventInfo) :
    (blank name states events).Complete := Array.size_replicate

theorem rule?_blank (name : String) (states : List String) (events : List EventInfo) (row : Row)
    (event : EventId) : (blank name states events).rule? row event = none := by
  unfold rule?
  cases (blank name states events).slot? row event with
  | none => rfl
  | some slot =>
    by_cases inside : slot < (states.length + 1) * events.length <;> simp [blank, inside]

/-- What stood in a cell before it was written is what was read there. -/
theorem insert_snd (table : Table) (row : Row) (event : EventId) (target : StateId) :
    (table.insert row event target).2 = table.rule? row event := by
  unfold insert rule?
  cases table.slot? row event <;> rfl

theorem name_insert (table : Table) (row : Row) (event : EventId) (target : StateId) :
    (table.insert row event target).1.name = table.name := by
  unfold insert
  cases table.slot? row event <;> rfl

section Insert

variable (row : Row) (event : EventId) (target : StateId)

@[simp] theorem states_insert : (table.insert row event target).1.states = table.states := by
  unfold insert
  cases table.slot? row event <;> rfl

@[simp] theorem events_insert : (table.insert row event target).1.events = table.events := by
  unfold insert
  cases table.slot? row event <;> rfl

private theorem slot?_insert (other : Row) (another : EventId) :
    (table.insert row event target).1.slot? other another = table.slot? other another := by
  cases other <;> simp [slot?, rowIndex?]

private theorem cells_insert {slot : Nat} (known : table.slot? row event = some slot) :
    (table.insert row event target).1.cells = table.cells.setIfInBounds slot (some target) := by
  simp only [insert, known]

/-- Without a cell to write into, nothing is written. -/
theorem insert_of_unknown (unknown : table.slot? row event = none) :
    table.insert row event target = (table, none) := by
  simp only [insert, unknown]

theorem Complete.insert (complete : table.Complete) : (table.insert row event target).1.Complete := by
  rw [Complete, states_insert, events_insert, ← complete]
  cases known : table.slot? row event with
  | none => rw [insert_of_unknown row event target known]
  | some slot => rw [cells_insert row event target known, Array.size_setIfInBounds]

/-- A target written for a row and an event is read there, and every other cell is as before. -/
theorem Complete.rule?_insert (complete : table.Complete) {slot : Nat}
    (known : table.slot? row event = some slot) (other : Row) (another : EventId) :
    (table.insert row event target).1.rule? other another =
      if other = row ∧ another = event then some target else table.rule? other another := by
  have inside := complete.slot?_lt known
  simp only [rule?, slot?_insert, cells_insert row event target known]
  by_cases same : other = row ∧ another = event
  · obtain ⟨rfl, rfl⟩ := same
    simp [known, inside]
  · simp only [same, if_false]
    cases place : table.slot? other another with
    | none => rfl
    | some elsewhere =>
      have apart : slot ≠ elsewhere := by
        rintro rfl
        exact same (slot?_inj place known)
      simp [apart]

end Insert

end Table

end StateMachine

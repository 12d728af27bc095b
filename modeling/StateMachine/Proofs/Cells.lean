import StateMachine.Proofs.LastWrite
import StateMachine.Proofs.Layout

/-!
The cells of a table as they are written and read, for any names and any ids. A lookup shows what was last
written for its row and its event, and what is written beyond the table changes nothing.
-/
namespace StateMachine

/-- A target to be written for a row and an event. -/
structure Write where
  row : Row
  event : EventId
  target : StateId
  deriving DecidableEq

def Write.on (write : Write) (row : Row) (event : EventId) : Bool := write.row = row ∧ write.event = event

namespace Table

def write (table : Table) (write : Write) : Table := (table.insert write.row write.event write.target).1

/-- Whether a table has a row and an event, by the ranges of their ids. -/
def InRange (table : Table) (row : Row) (event : EventId) : Prop :=
  (∀ state, row = .state state → state.index < table.states.length) ∧ event.index < table.events.length

/-- The places of the cells. Exactly what is in range has a place, which is among the cells and its own,
and it is the cell in this place that lookups read. -/
structure Addressed (table : Table) : Prop where
  size : table.cells.size = (table.states.length + 1) * table.events.length
  placed : ∀ row event, (∃ slot, table.slot? row event = some slot) ↔ table.InRange row event
  read : ∀ row event slot, table.slot? row event = some slot →
    ∃ inside : slot < table.cells.size, table.rule? row event = table.cells[slot]
  apart : ∀ row event other another slot, table.slot? row event = some slot →
    table.slot? other another = some slot → row = other ∧ event = another
  beyond : ∀ state event, table.states.length ≤ state.index → table.slot? (.state state) event = none

/-- What a table comes to when a target is written into it, and what is given back. -/
structure Insertion (table : Table) (row : Row) (event : EventId) (target : StateId) : Prop where
  written : table.InRange row event → (table.insert row event target).1.rule? row event = some target
  others : ∀ other another, (other, another) ≠ (row, event) →
    (table.insert row event target).1.rule? other another = table.rule? other another
  replaced : table.InRange row event → (table.insert row event target).2 = table.rule? row event
  unknown : ¬ table.InRange row event → table.insert row event target = (table, none)

/-- A table with this name, these states and these events, and with all of its cells. -/
structure LaidOut (name : String) (states : List String) (events : List EventInfo) (table : Table) :
    Prop where
  name : table.name = name
  states : table.states = states
  events : table.events = events
  complete : table.Complete

variable {table : Table} {row : Row} {event : EventId}

private theorem exists_slot?_iff :
    (∃ slot, table.slot? row event = some slot) ↔ table.InRange row event := by
  constructor
  · rintro ⟨slot, place⟩
    obtain ⟨column, index, line, _⟩ := slot?_eq_some_iff.mp place
    refine ⟨?_, column⟩
    rintro state rfl
    obtain ⟨rfl, known⟩ := rowIndex?_state_eq_some_iff.mp line
    exact known
  · rintro ⟨known, column⟩
    cases row with
    | state state =>
      have line := rowIndex?_state_eq_some_iff.mpr ⟨rfl, known state rfl⟩
      exact ⟨_, slot?_eq_some_iff.mpr ⟨column, _, line, rfl⟩⟩
    | wildcard => exact ⟨_, slot?_eq_some_iff.mpr ⟨column, _, rfl, rfl⟩⟩

private theorem slot?_eq_none_iff : table.slot? row event = none ↔ ¬ table.InRange row event := by
  rw [← exists_slot?_iff, Option.eq_none_iff_forall_ne_some, not_exists]

private theorem rule?_of_not_inRange (outside : ¬ table.InRange row event) :
    table.rule? row event = none := by
  rw [rule?, slot?_eq_none_iff.mpr outside, Option.bind_none]

private theorem Complete.addressed (complete : table.Complete) : table.Addressed := by
  constructor
  case size => exact complete
  case placed => exact fun row event => exists_slot?_iff
  case read =>
    intro row event slot place
    have inside := complete.slot?_lt place
    exact ⟨inside, by simp [rule?, place, inside]⟩
  case apart => exact fun row event other another slot => slot?_inj
  case beyond =>
    intro state event outside
    exact slot?_eq_none_iff.mpr fun inside => Nat.not_lt.mpr outside (inside.1 state rfl)

private theorem Complete.insertion (complete : table.Complete) (row : Row) (event : EventId)
    (target : StateId) :
    table.Insertion row event target := by
  constructor
  case written =>
    intro inside
    obtain ⟨slot, place⟩ := exists_slot?_iff.mpr inside
    rw [complete.rule?_insert row event target place, if_pos ⟨rfl, rfl⟩]
  case others =>
    intro other another different
    cases place : table.slot? row event with
    | none => rw [insert_of_unknown row event target place]
    | some slot =>
      rw [complete.rule?_insert row event target place, if_neg (by simpa using different)]
  case replaced => exact fun _ => table.insert_snd row event target
  case unknown => exact fun outside => insert_of_unknown row event target (slot?_eq_none_iff.mpr outside)

section Writes

variable {name : String} {states : List String} {events : List EventInfo}

private theorem laidOut_blank : (blank name states events).LaidOut name states events :=
  ⟨rfl, rfl, rfl, complete_blank name states events⟩

theorem LaidOut.write (laid : table.LaidOut name states events) (write : Write) :
    (table.write write).LaidOut name states events :=
  ⟨(table.name_insert _ _ _).trans laid.name, (table.states_insert _ _ _).trans laid.states,
    (table.events_insert _ _ _).trans laid.events, laid.complete.insert _ _ _⟩

private theorem laidOut_writes (writes : List Write) :
    (writes.foldl write (blank name states events)).LaidOut name states events :=
  writes.foldlRecOn write laidOut_blank fun _ laid item _ => laid.write item

private theorem LaidOut.inRange_iff (laid : table.LaidOut name states events) :
    table.InRange row event ↔ (blank name states events).InRange row event := by
  simp only [InRange, laid.states, laid.events, blank]

/-- Of the writes for a row and an event in range, the last one is read. -/
theorem rule?_writes (inside : (blank name states events).InRange row event) (writes : List Write) :
    (writes.foldl write (blank name states events)).rule? row event =
      (writes.findRev? (·.on row event)).bind fun item => some item.target := by
  refine read_foldl write (·.rule? row event) (fun _ item laid => laid.write item) ?_ ?_ laidOut_blank
    (rule?_blank name states events row event) writes
  · intro table item laid own
    obtain ⟨rfl, rfl⟩ : item.row = row ∧ item.event = event := by simpa [Write.on] using own
    exact (laid.complete.insertion item.row item.event item.target).written (laid.inRange_iff.mpr inside)
  · intro table item laid other
    refine (laid.complete.insertion item.row item.event item.target).others row event ?_
    rintro ⟨⟩
    simp [Write.on] at other

private theorem rule?_writes_eq_some_iff (writes : List Write) {target : StateId} :
    (writes.foldl write (blank name states events)).rule? row event = some target ↔
      (blank name states events).InRange row event ∧
        writes.findRev? (·.on row event) = some ⟨row, event, target⟩ := by
  by_cases inside : (blank name states events).InRange row event
  · rw [rule?_writes inside, and_iff_right inside, Option.bind_eq_some_iff]
    constructor
    · rintro ⟨item, last, same⟩
      have own : item.row = row ∧ item.event = event := by
        rw [List.findRev?_eq_find?_reverse] at last
        simpa [Write.on] using List.find?_some last
      rw [last, ← own.1, ← own.2, ← Option.some.inj same]
    · exact fun last => ⟨_, last, rfl⟩
  · have outside := mt (laidOut_writes writes).inRange_iff.mp inside
    simp [rule?_of_not_inRange outside, inside]

end Writes

end Table

end StateMachine

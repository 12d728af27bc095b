import StateMachine.Proofs.LastRule
import StateMachine.Proofs.Problems
import StateMachine.Proofs.Quiescence

namespace StateMachine

namespace Definition

/-- The names of events, each where it is declared for the first time. -/
def eventNames (definition : Definition) : List String := (definition.rules.map (·.event)).eraseDups

/-- The payload in the first of some rules for an event. -/
def firstPayload? (rules : List Rule) (label : String) : Option String :=
  (rules.find? (·.event = label)).bind (·.payload)

private theorem firstPayload?_cons_of_ne {rule : Rule} {label : String} (other : rule.event ≠ label)
    (rules : List Rule) : firstPayload? (rule :: rules) label = firstPayload? rules label := by
  simp [firstPayload?, other]

/-- Whether a name is one for an event that is not known yet. -/
def isFresh (known : List EventInfo) (label : String) : Bool :=
  label ≠ "" && known.all (·.name ≠ label)

/-- To the events known before, those with fresh names are added in the order of their first rules. -/
theorem collectEvents_eq (known : List EventInfo) (rules : List Rule) :
    collectEvents known rules = known ++
      ((rules.map (·.event)).filter (isFresh known)).eraseDups.map fun label =>
        ⟨label, firstPayload? rules label⟩ := by
  induction rules generalizing known with
  | nil => simp [collectEvents]
  | cons rule rules ih =>
    -- The first rule has the payload of its own event, and none of another one's.
    have onward {labels : List String} (others : ∀ label ∈ labels, rule.event ≠ label) :
        labels.map (fun label => (⟨label, firstPayload? rules label⟩ : EventInfo)) =
          labels.map fun label => ⟨label, firstPayload? (rule :: rules) label⟩ := by
      refine List.map_congr_left fun label member => ?_
      rw [firstPayload?_cons_of_ne (others label member)]
    unfold collectEvents
    by_cases fresh : isFresh known rule.event = true
    · have added : ¬ (rule.event = "" ∨ (known.any (·.name = rule.event)) = true) := by
        simpa [isFresh] using fresh
      have fresh_onward : isFresh (known ++ [⟨rule.event, rule.payload⟩]) =
          fun label => !label == rule.event && isFresh known label := by
        funext label
        by_cases own : label = rule.event
        · simp [isFresh, own]
        · simp [isFresh, own, Ne.symm own]
      have own : firstPayload? (rule :: rules) rule.event = rule.payload := by simp [firstPayload?]
      rw [if_neg added, ih, fresh_onward, List.map_cons, List.filter_cons_of_pos fresh, List.eraseDups_cons,
        List.filter_filter, List.map_cons, own, List.append_assoc, List.singleton_append, onward]
      intro label member same
      simp [same] at member
    · have skipped : rule.event = "" ∨ (known.any (·.name = rule.event)) = true := by
        simpa [isFresh, or_iff_not_imp_left] using fresh
      rw [if_pos skipped, ih, List.map_cons, List.filter_cons_of_neg fresh, onward]
      rintro label member rfl
      rw [List.mem_eraseDups, List.mem_filter] at member
      exact fresh member.2

variable {definition : Definition}

/-- If every rule has a name, the events are those of the rules with the payloads of the first ones. -/
theorem events_eq (named : ∀ rule ∈ definition.rules, rule.event ≠ "") :
    definition.events = definition.eventNames.map fun label =>
      ⟨label, firstPayload? definition.rules label⟩ := by
  have all_fresh : (definition.rules.map (·.event)).filter (isFresh []) = definition.rules.map (·.event) := by
    refine List.filter_eq_self.mpr fun label member => ?_
    obtain ⟨rule, declared, rfl⟩ := List.mem_map.mp member
    simpa [isFresh] using named rule declared
  rw [events, collectEvents_eq, all_fresh]
  rfl

private theorem mem_eventNames {label : String} :
    label ∈ definition.eventNames ↔ ∃ rule ∈ definition.rules, rule.event = label := by
  rw [eventNames, List.mem_eraseDups, List.mem_map]

private theorem named_of_check {resolved : List ResolvedRule} (checked : definition.check = .ok resolved) :
    ∀ rule ∈ definition.rules, rule.event ≠ "" := by
  intro rule declared nameless
  obtain ⟨own, checked⟩ := check_rule checked declared
  cases ((eventId?_eq_none_iff declared).mpr nameless).symm.trans (checkRule_resolves checked).event

end Definition

/-- What it means that a table numbers the states and events as its definition declares them. -/
structure Table.Numbers (table : Table) (definition : Definition) : Prop where
  states : ∀ state : StateId, table.stateName? state = definition.states[state.index]?
  events : ∀ event : EventId, table.event? event = definition.eventNames[event.index]?.map fun label =>
    ⟨label, Definition.firstPayload? definition.rules label⟩
  same_states : ∀ name, definition.stateId? name = table.stateId? name
  same_events : ∀ label, definition.eventId? label = table.eventId? label
  state_known : ∀ state : StateId, state.index < definition.states.length →
    ∃ name, table.stateName? state = some name ∧ table.stateId? name = some state
  event_known : ∀ event : EventId, event.index < definition.eventNames.length →
    ∃ label, table.eventName? event = some label ∧ table.eventId? label = some event
  state_named : ∀ name ∈ definition.states,
    ∃ state, table.stateId? name = some state ∧ table.stateName? state = some name
  event_named : ∀ rule ∈ definition.rules,
    ∃ event, table.eventId? rule.event = some event ∧ table.eventName? event = some rule.event
  state_beyond : ∀ state : StateId, definition.states.length ≤ state.index → table.stateName? state = none
  event_beyond : ∀ event : EventId, definition.eventNames.length ≤ event.index →
    table.eventName? event = none ∧ table.payload? event = none
  state_unnamed : ∀ name, name ∉ definition.states → table.stateId? name = none
  event_unnamed : ∀ label, (∀ rule ∈ definition.rules, rule.event ≠ label) → table.eventId? label = none

private theorem Table.numbers_of_regular {table : Table} {definition : Definition} (regular : table.Regular)
    (states : table.states = definition.states) (events : table.events = definition.events)
    (named : ∀ rule ∈ definition.rules, rule.event ≠ "") : table.Numbers definition := by
  have infos := events.trans (Definition.events_eq named)
  have labels : table.events.map (·.name) = definition.eventNames := by
    rw [infos, List.map_map]
    exact List.map_id _
  have event_at (event : EventId) : table.event? event = definition.eventNames[event.index]?.map fun label =>
      ⟨label, Definition.firstPayload? definition.rules label⟩ := by
    rw [event?, infos, List.getElem?_map]
  have name_at (event : EventId) : table.eventName? event = definition.eventNames[event.index]? := by
    rw [eventName?, event?, ← List.getElem?_map, labels]
  constructor
  case states =>
    intro state
    rw [stateName?, states]
  case events => exact event_at
  case same_states =>
    intro name
    rw [Definition.stateId?, stateId?, states]
  case same_events =>
    intro label
    rw [Definition.eventId?, eventId?, events]
  case state_known =>
    intro state known
    have named : table.stateName? state = some definition.states[state.index] := by
      rw [stateName?, states, List.getElem?_eq_getElem known]
    exact ⟨_, named, regular.stateId?_eq_some_iff.mpr named⟩
  case event_known =>
    intro event known
    have named := (name_at event).trans (List.getElem?_eq_getElem known)
    exact ⟨_, named, regular.eventId?_eq_some_iff.mpr named⟩
  case state_named =>
    intro name declared
    obtain ⟨state, named⟩ := regular.mem_states_iff.mp (states ▸ declared)
    exact ⟨state, regular.stateId?_eq_some_iff.mpr named, named⟩
  case event_named =>
    intro rule declared
    have listed : rule.event ∈ table.events.map (·.name) :=
      labels ▸ Definition.mem_eventNames.mpr ⟨rule, declared, rfl⟩
    obtain ⟨event, named⟩ := regular.mem_events_iff.mp (List.mem_map.mp listed)
    exact ⟨event, regular.eventId?_eq_some_iff.mpr named, named⟩
  case state_beyond =>
    intro state beyond
    rw [stateName?, states, List.getElem?_eq_none beyond]
  case event_beyond =>
    intro event beyond
    rw [name_at, payload?, event_at, List.getElem?_eq_none beyond]
    exact ⟨rfl, rfl⟩
  case state_unnamed =>
    intro name absent
    cases found : table.stateId? name with
    | none => rfl
    | some state =>
      have member := regular.mem_states_iff.mpr ⟨state, regular.stateId?_eq_some_iff.mp found⟩
      exact absurd (states ▸ member) absent
  case event_unnamed =>
    intro label absent
    cases found : table.eventId? label with
    | none => rfl
    | some event =>
      have listed := List.mem_map.mpr (regular.mem_events_iff.mpr ⟨event, regular.eventId?_eq_some_iff.mp found⟩)
      obtain ⟨rule, declared, same⟩ := Definition.mem_eventNames.mp (labels ▸ listed)
      exact absurd same (absent rule declared)

namespace Session

variable {D P σ : Type} {session : Session D P σ}

/-- Two keys that make no difference to anything a machine is asked about an event. -/
structure SameEvent (session : Session D P σ) (first second : EventKey) : Prop where
  trigger : ∀ fuel payload token,
    Session.trigger fuel first payload token session = Session.trigger fuel second payload token session
  within : ∀ submit token {role : Role} payload (next : Except Failure Unit → Program D P σ role),
    Program.run submit token (.trigger first payload next) session =
      Program.run submit token (.trigger second payload next) session
  canTrigger : session.machine.canTrigger first = session.machine.canTrigger second
  sees : ∀ token, (session.view token).canTrigger first = (session.view token).canTrigger second
  setAction : ∀ action, session.machine.setAction first action = session.machine.setAction second action

/-- A key of an event with which nothing can be done. -/
structure RefusesEvent (session : Session D P σ) (key : EventKey) (failure : Failure) : Prop where
  trigger : ∀ fuel payload token,
    Session.trigger fuel key payload token session = some (.error failure, session)
  within : ∀ submit token {role : Role} payload (next : Except Failure Unit → Program D P σ role),
    Program.run submit token (.trigger key payload next) session =
      Program.run submit token (next (.error failure)) session
  canTrigger : session.machine.canTrigger key = false
  sees : ∀ token, (session.view token).canTrigger key = false
  setAction : ∀ action, session.machine.setAction key action = .error failure ∧
    session.machine.afterwards (session.machine.setAction key action) = session.machine

private theorem sameEvent_of_findEvent {first second : EventKey}
    (same : session.machine.table.findEvent first = session.machine.table.findEvent second) :
    session.SameEvent first second := by
  constructor
  case trigger =>
    intro fuel payload token
    simp only [Session.trigger, same]
  case within =>
    intro submit token role payload next
    simp only [Program.run, same]
  case canTrigger => simp only [Machine.canTrigger, Table.canTrigger, same]
  case sees =>
    intro token
    simp only [View.canTrigger, view, Table.canTrigger, same]
  case setAction =>
    intro action
    simp only [Machine.setAction, same]

private theorem refusesEvent_of_findEvent {key : EventKey} {failure : Failure}
    (unknown : session.machine.table.findEvent key = .error failure) : session.RefusesEvent key failure := by
  have refused (action : Option (Action D P σ)) : session.machine.setAction key action = .error failure := by
    rw [Machine.setAction, unknown]
    rfl
  constructor
  case trigger =>
    intro fuel payload token
    simp only [Session.trigger, unknown]
  case within =>
    intro submit token role payload next
    simp only [Program.run, unknown]
  case canTrigger => simp only [Machine.canTrigger, Table.canTrigger, unknown]
  case sees =>
    intro token
    simp only [View.canTrigger, view, Table.canTrigger, unknown]
  case setAction => exact fun action => ⟨refused action, by rw [refused]; rfl⟩

end Session

namespace Machine

variable {D P σ : Type} {machine : Machine D P σ}

/-- A key of a state with which nothing can be done. -/
def RefusesState (machine : Machine D P σ) (key : StateKey) (failure : Failure) : Prop :=
  ∀ entry, machine.setEntry key entry = .error failure ∧
    machine.afterwards (machine.setEntry key entry) = machine

private theorem refusesState_of_findState {key : StateKey} {failure : Failure}
    (unknown : machine.table.findState key = .error failure) : machine.RefusesState key failure := by
  intro entry
  have refused : machine.setEntry key entry = .error failure := by
    rw [setEntry, unknown]
    rfl
  exact ⟨refused, by rw [refused]; rfl⟩

end Machine

namespace Table

variable {table : Table}

private theorem findEvent_name {label : String} {event : EventId}
    (found : table.eventId? label = some event) :
    table.findEvent (.name label) = .ok event := by
  simp only [findEvent, found]

private theorem findState_name {name : String} {state : StateId}
    (found : table.stateId? name = some state) :
    table.findState (.name name) = .ok state := by
  simp only [findState, found]

private theorem findEvent_id {event : EventId} (known : event.index < table.events.length) :
    table.findEvent (.id event) = .ok event := by
  simp only [findEvent, known, if_true]

private theorem findState_id {state : StateId} (known : state.index < table.states.length) :
    table.findState (.id state) = .ok state := by
  simp only [findState, known, if_true]

end Table

section Compiled

variable {definition : Definition} {strictness : Strictness} {compilation : Compilation}
variable (compiled : definition.compile strictness = .ok compilation)
variable (states_fit : definition.states.length ≤ UInt32.size)
variable (events_fit : definition.events.length ≤ UInt32.size)
include compiled states_fit events_fit

private theorem Definition.compile_numbers : compilation.table.Numbers definition := by
  obtain ⟨_, checked, regular, states, events, _⟩ := compile_reads compiled states_fit events_fit
  exact Table.numbers_of_regular regular states events (named_of_check checked)

/-- A compiled table numbers the states in their order and the events by their first rules, which also give
the payloads. Names and ids stand for one another, so that whatever is done with a machine of the table is
the same by name and by id; all other names and ids are refused, and the machine stays as it is. -/
theorem names_and_ids_interchange {D P σ : Type} :
    compilation.table.Numbers definition ∧
    ∀ session : Session D P σ, session.machine.table = compilation.table →
      (∀ event label, compilation.table.eventName? event = some label →
        session.SameEvent (.name label) (.id event)) ∧
      (∀ state name, compilation.table.stateName? state = some name →
        ∀ entry, session.machine.setEntry (.name name) entry = session.machine.setEntry (.id state) entry) ∧
      (∀ label, (∀ rule ∈ definition.rules, rule.event ≠ label) →
        session.RefusesEvent (.name label) (.unknownEvent label)) ∧
      (∀ event : EventId, definition.eventNames.length ≤ event.index →
        session.RefusesEvent (.id event) (.unknownEvent event.text)) ∧
      (∀ name, name ∉ definition.states →
        session.machine.RefusesState (.name name) (.unknownState name)) ∧
      ∀ state : StateId, definition.states.length ≤ state.index →
        session.machine.RefusesState (.id state) (.unknownState state.text) := by
  have numbers := Definition.compile_numbers compiled states_fit events_fit
  obtain ⟨_, _, regular, states, _⟩ := definition.compile_reads compiled states_fit events_fit
  refine ⟨numbers, fun session own => ⟨?_, ?_, ?_, ?_, ?_, ?_⟩⟩
  · intro event label named
    have by_name := Table.findEvent_name (regular.eventId?_eq_some_iff.mpr named)
    have by_id := Table.findEvent_id (Table.findEvent_lt by_name)
    exact Session.sameEvent_of_findEvent (by rw [own, by_name, by_id])
  · intro state name named entry
    have by_name := Table.findState_name (regular.stateId?_eq_some_iff.mpr named)
    have by_id := Table.findState_id (List.getElem?_eq_some_iff.mp named).1
    simp only [Machine.setEntry, own, by_name, by_id]
  · intro label absent
    refine Session.refusesEvent_of_findEvent ?_
    simp only [own, Table.findEvent, numbers.event_unnamed label absent]
  · intro event beyond
    have none : compilation.table.event? event = none := by
      rw [numbers.events, List.getElem?_eq_none beyond]
      rfl
    have unknown : ¬ event.index < compilation.table.events.length :=
      Nat.not_lt.mpr (List.getElem?_eq_none_iff.mp none)
    refine Session.refusesEvent_of_findEvent ?_
    simp only [own, Table.findEvent, unknown, if_false]
  · intro name absent
    refine Machine.refusesState_of_findState ?_
    simp only [own, Table.findState, numbers.state_unnamed name absent]
  · intro state beyond
    have unknown : ¬ state.index < compilation.table.states.length := by rwa [states, Nat.not_lt]
    refine Machine.refusesState_of_findState ?_
    simp only [own, Table.findState, unknown, if_false]

end Compiled

/-- An event with two rules, of which only the second one has a payload. -/
def Definition.Sample.retagged : Definition where
  name := "retagged"
  states := ["idle", "busy"]
  rules := [
    (Rule.on "go").fromStates ["idle"] |>.toState "busy",
    (Rule.on "stop").tagged "Reason" |>.toState "idle",
    (Rule.on "go").tagged "Job" |>.fromStates ["busy"] |>.toState "busy"]

theorem retagged_names_and_ids_interchange :
    ∃ compilation, Definition.Sample.retagged.compile .strict = .ok compilation ∧
      Definition.Sample.retagged.states.length ≤ UInt32.size ∧
      Definition.Sample.retagged.events.length ≤ UInt32.size ∧
      compilation.table.events = [⟨"go", none⟩, ⟨"stop", some "Reason"⟩] ∧
      compilation.table.Numbers Definition.Sample.retagged ∧
      ∃ session : Session Unit Unit Unit, session.machine.table = compilation.table ∧
        session.SameEvent (.name "stop") (.id ⟨1⟩) ∧
        session.machine.setEntry (.name "busy") none = session.machine.setEntry (.id ⟨1⟩) none ∧
        session.RefusesEvent (.name "halt") (.unknownEvent "halt") ∧
        session.RefusesEvent (.id ⟨2⟩) (.unknownEvent "e2") ∧
        session.machine.RefusesState (.name "done") (.unknownState "done") ∧
        session.machine.RefusesState (.id ⟨2⟩) (.unknownState "s2") := by
  obtain ⟨compilation, compiled⟩ : ∃ compilation,
      Definition.Sample.retagged.compile .strict = .ok compilation := ⟨_, rfl⟩
  have states_fit : Definition.Sample.retagged.states.length ≤ UInt32.size := by decide
  have events_fit : Definition.Sample.retagged.events.length ≤ UInt32.size := by decide
  obtain ⟨numbers, alike⟩ :=
    names_and_ids_interchange (D := Unit) (P := Unit) (σ := Unit) compiled states_fit events_fit
  cases compiled
  let world : World Unit Unit Unit := ⟨fun _ => ⟨0, 0⟩, 0, {}, (), []⟩
  obtain ⟨events, states, no_event, beyond, no_state, beyond_states⟩ :=
    alike ⟨Machine.new _ () {}, world⟩ rfl
  exact ⟨_, rfl, states_fit, events_fit, rfl, numbers, _, rfl, events _ _ rfl, states _ _ rfl none,
    no_event "halt" (by decide), beyond ⟨2⟩ (by decide), no_state "done" (by decide),
    beyond_states ⟨2⟩ (by decide)⟩

end StateMachine

import Mathlib.Data.List.Forall2
import StateMachine.Proofs.Compilation
import StateMachine.Proofs.Layout

namespace StateMachine

private theorem findRev?_cons {α : Type} (counts : α → Bool) (item : α) (items : List α) :
    (item :: items).findRev? counts =
      (items.findRev? counts).or (if counts item then some item else none) := by
  rw [List.findRev?]
  cases items.findRev? counts <;> rfl

/-- The target of the last rule for an event whose sources count. -/
def Definition.lastTarget? (definition : Definition) (event : String) (counts : Sources → Bool) :
    Option String :=
  (definition.rules.findRev? fun rule => rule.event = event && counts rule.sources).map (·.target)

private theorem Definition.lastTarget?_mem {definition : Definition} {event target : String}
    {counts : Sources → Bool} (last : definition.lastTarget? event counts = some target) :
    ∃ rule ∈ definition.rules, rule.event = event ∧ counts rule.sources = true ∧ rule.target = target := by
  obtain ⟨rule, found, same⟩ := Option.map_eq_some_iff.mp last
  rw [List.findRev?_eq_find?_reverse] at found
  have member := List.mem_reverse.mp (List.mem_of_find?_eq_some found)
  have counted := List.find?_some found
  simp only [Bool.and_eq_true, decide_eq_true_eq] at counted
  exact ⟨rule, member, counted.1, counted.2, same⟩

/-- Whether a rule with these sources is one of the rules of a row. -/
def Table.counts (table : Table) (sources : Sources) : Row → Bool
  | .state state => (table.stateName? state).any sources.names.contains
  | .wildcard => sources.isAny

/-- Whether a rule is one for a row and an event. -/
def ResolvedRule.writes (rule : ResolvedRule) (row : Row) (event : EventId) : Bool :=
  row ∈ rule.rows ∧ event = rule.event

namespace Filling

variable {filling : Filling}

/-- A filling that goes on from another one has the same rows and columns. -/
structure Extends (before after : Filling) : Prop where
  complete : after.table.Complete
  states : after.table.states = before.table.states
  events : after.table.events = before.table.events

theorem Extends.trans {first second third : Filling} (begins : first.Extends second)
    (goes : second.Extends third) : first.Extends third :=
  ⟨goes.complete, goes.states.trans begins.states, goes.events.trans begins.events⟩

private theorem Extends.slot?_eq {before after : Filling} (extended : before.Extends after) (row : Row)
    (event : EventId) : after.table.slot? row event = before.table.slot? row event := by
  cases row <;> simp only [Table.slot?, Table.rowIndex?, extended.states, extended.events]

/-- Whether all the cells of a rule are there. -/
def Fits (filling : Filling) (rule : ResolvedRule) : Prop :=
  ∀ row ∈ rule.rows, ∃ slot, filling.table.slot? row rule.event = some slot

theorem Extends.fits {before after : Filling} (extended : before.Extends after) {rule : ResolvedRule}
    (fits : before.Fits rule) : after.Fits rule := by
  intro row member
  obtain ⟨slot, known⟩ := fits row member
  exact ⟨slot, (extended.slot?_eq row rule.event).trans known⟩

theorem put_extends (complete : filling.table.Complete) (own : EventId) (target : StateId) (row : Row) :
    filling.Extends (filling.put own target row) :=
  ⟨complete.insert row own target, Table.states_insert row own target, Table.events_insert row own target⟩

theorem putRows_extends (complete : filling.table.Complete) {own : EventId} (target : StateId)
    {rows : List Row} (fits : ∀ row ∈ rows, ∃ slot, filling.table.slot? row own = some slot) :
    filling.Extends (rows.foldl (·.put own target) filling) ∧ ∀ row event,
      (rows.foldl (·.put own target) filling).table.rule? row event =
        if row ∈ rows ∧ event = own then some target else filling.table.rule? row event := by
  induction rows generalizing filling with
  | nil => exact ⟨⟨complete, rfl, rfl⟩, by simp⟩
  | cons first rows ih =>
    obtain ⟨slot, known⟩ := fits first (List.mem_cons_self ..)
    have put := put_extends complete own target first
    have fits_rest : ∀ row ∈ rows, ∃ slot,
        (filling.put own target first).table.slot? row own = some slot := by
      intro row member
      rw [put.slot?_eq]
      exact fits row (List.mem_cons_of_mem _ member)
    obtain ⟨onward, reads⟩ := ih put.complete fits_rest
    refine ⟨put.trans onward, fun row event => (reads row event).trans ?_⟩
    have read : (filling.put own target first).table.rule? row event =
        if row = first ∧ event = own then some target else filling.table.rule? row event :=
      complete.rule?_insert first own target known row event
    rw [read]
    by_cases begins : row = first
    · by_cases column : event = own <;> simp [begins, column]
    · simp [begins]

/-- Of the rules written into a cell the last one is read there. -/
theorem putRules_extends (complete : filling.table.Complete) {rules : List ResolvedRule}
    (fits : ∀ rule ∈ rules, filling.Fits rule) :
    filling.Extends (filling.putRules rules) ∧ ∀ row event,
      (filling.putRules rules).table.rule? row event =
        ((rules.findRev? (·.writes row event)).map (·.target)).or (filling.table.rule? row event) := by
  unfold putRules
  induction rules generalizing filling with
  | nil => exact ⟨⟨complete, rfl, rfl⟩, fun row event => rfl⟩
  | cons rule rules ih =>
    -- What the first rule writes is read unless a later rule, by the induction, is read there.
    obtain ⟨put, reads⟩ := putRows_extends complete rule.target (fits rule (List.mem_cons_self ..))
    obtain ⟨onward, reads_on⟩ := ih put.complete fun later member =>
      put.fits (fits later (List.mem_cons_of_mem _ member))
    refine ⟨put.trans onward, fun row event => (reads_on row event).trans ?_⟩
    rw [findRev?_cons, Option.map_or, Option.or_assoc]
    congr 1
    refine (reads row event).trans ?_
    by_cases written : row ∈ rule.rows ∧ event = rule.event
    · simp [ResolvedRule.writes, written]
    · simp [ResolvedRule.writes, written]

end Filling

namespace Definition

variable {definition : Definition}

private theorem nodup_of_repeatedNames {before names : List String} (distinct : before.Nodup)
    (none : repeatedNames before names = []) : (names.reverse ++ before).Nodup := by
  induction names generalizing before with
  | nil => simpa using distinct
  | cons name names ih =>
    unfold repeatedNames at none
    split at none
    · cases none
    · rename_i apart
      -- Only a second occurrence is reported, but without one there is no third one.
      have fresh : name ∉ before := by
        intro member
        have once := List.nodup_iff_count_le_one.mp distinct name
        have present := List.count_pos_iff.mpr member
        omega
      simpa using ih (List.nodup_cons.mpr ⟨fresh, distinct⟩) none

private theorem states_nodup (checked : definition.checkStates = .ok ()) : definition.states.Nodup := by
  have none : repeatedNames [] definition.states = [] := by
    unfold checkStates at checked
    by_contra some
    simp [some] at checked
  simpa using nodup_of_repeatedNames List.nodup_nil none

theorem collectEvents_nodup {known : List EventInfo} (distinct : (known.map (·.name)).Nodup)
    (rules : List Rule) : ((collectEvents known rules).map (·.name)).Nodup := by
  induction rules generalizing known with
  | nil => exact distinct
  | cons rule rules ih =>
    unfold collectEvents
    split
    · exact ih distinct
    · rename_i fresh
      have apart : ∀ info ∈ known, info.name ≠ rule.event := by
        intro info member same
        exact fresh (.inr (List.any_eq_true.mpr ⟨info, member, decide_eq_true same⟩))
      refine ih ?_
      rw [List.map_append, List.nodup_append]
      refine ⟨distinct, List.nodup_singleton _, fun name member other other_member => ?_⟩
      obtain ⟨info, known_info, rfl⟩ := List.mem_map.mp member
      cases List.mem_singleton.mp other_member
      exact apart info known_info

theorem collectEvents_mem {known : List EventInfo} {rules : List Rule} {info : EventInfo}
    (member : info ∈ collectEvents known rules) :
    info ∈ known ∨ ∃ rule ∈ rules, rule.event = info.name := by
  induction rules generalizing known with
  | nil => exact .inl member
  | cons rule rules ih =>
    unfold collectEvents at member
    split at member
    · rcases ih member with before | ⟨later, among, same⟩
      · exact .inl before
      · exact .inr ⟨later, List.mem_cons_of_mem _ among, same⟩
    · rcases ih member with extended | ⟨later, among, same⟩
      · rcases List.mem_append.mp extended with before | own
        · exact .inl before
        · cases List.mem_singleton.mp own
          exact .inr ⟨rule, List.mem_cons_self .., rfl⟩
      · exact .inr ⟨later, List.mem_cons_of_mem _ among, same⟩

/-- What a rule comes to when its names are replaced by ids. -/
structure Resolves (definition : Definition) (rule : Rule) (resolved : ResolvedRule) : Prop where
  event : definition.eventId? rule.event = some resolved.event
  target : definition.stateId? rule.target = some resolved.target
  wildcard : .wildcard ∈ resolved.rows ↔ rule.sources.isAny = true
  state : ∀ state, .state state ∈ resolved.rows ↔
    ∃ name ∈ rule.sources.names, definition.stateId? name = some state

private theorem checkTarget_eq_ok {rule : Rule} {target : StateId}
    (checked : definition.checkTarget rule = .ok target) :
    definition.stateId? rule.target = some target := by
  unfold checkTarget at checked
  split at checked
  · cases checked
  · split at checked
    · rename_i found
      cases checked
      exact found
    · cases checked

theorem checkSource_eq_ok_iff {rule : Rule} {source : String} {row : Row} :
    definition.checkSource rule source = .ok row ↔
      ∃ state, definition.stateId? source = some state ∧ row = .state state := by
  unfold checkSource
  cases definition.stateId? source with
  | none => simp [Checked.fail]
  | some state => simp [eq_comm]

theorem checkRule_resolves {rule : Rule} {resolved : ResolvedRule}
    (checked : definition.checkRule rule = .ok resolved) : definition.Resolves rule resolved := by
  unfold checkRule at checked
  split at checked
  · cases checked
  · rename_i event known
    obtain ⟨⟨target, rows⟩, both, rfl⟩ := Except.map_eq_ok_iff.mp checked
    obtain ⟨led, listed⟩ := Checked.both_eq_ok_iff.mp both
    unfold checkSources at listed
    cases sources : rule.sources with
    | any =>
      simp only [sources] at listed
      cases listed
      exact ⟨known, checkTarget_eq_ok led, by simp [sources, Sources.isAny],
        by simp [sources, Sources.names]⟩
    | states names =>
      simp only [sources] at listed
      obtain ⟨all_rows, each, rfl⟩ := Except.map_eq_ok_iff.mp listed
      have among (row : Row) : row ∈ all_rows ↔
          ∃ name ∈ names, ∃ state, definition.stateId? name = some state ∧ row = .state state := by
        have image : (.ok row : Checked Row) ∈ names.map (definition.checkSource rule) ↔
            row ∈ all_rows := by
          rw [Checked.all_eq_ok_iff.mp each]
          simp
        rw [← image, List.mem_map]
        simp only [checkSource_eq_ok_iff]
      refine ⟨known, checkTarget_eq_ok led, ?_, fun state => ?_⟩
      · simp [among, sources, Sources.isAny]
      · simp [among, sources, Sources.names]

theorem check_forall₂ {resolved : List ResolvedRule} (checked : definition.check = .ok resolved) :
    List.Forall₂ (fun rule own => definition.checkRule rule = .ok own) definition.rules resolved := by
  obtain ⟨_, each⟩ := check_eq_ok_iff.mp checked
  have alike : List.Forall₂ Eq (definition.rules.map definition.checkRule) (resolved.map .ok) := by
    rw [each]
    exact List.forall₂_refl _
  exact List.forall₂_map_right_iff.mp (List.forall₂_map_left_iff.mp alike)

private theorem check_resolves {resolved : List ResolvedRule} (checked : definition.check = .ok resolved) :
    List.Forall₂ definition.Resolves definition.rules resolved :=
  (check_forall₂ checked).imp fun _ _ => checkRule_resolves

private theorem eventId?_lt {label : String} {event : EventId}
    (found : definition.eventId? label = some event) :
    event.index < definition.events.length := by
  obtain ⟨index, position, rfl⟩ := Option.map_eq_some_iff.mp found
  obtain ⟨small, _⟩ := List.findIdx?_eq_some_iff_getElem.mp position
  exact Nat.lt_of_le_of_lt (EventId.index_ofIndex_le index) small

/-- The table before the first rule is written into it. -/
def blank (definition : Definition) : Table :=
  .blank definition.name definition.states definition.events

theorem blank_regular (checked : definition.checkStates = .ok ())
    (states_fit : definition.states.length ≤ UInt32.size)
    (events_fit : definition.events.length ≤ UInt32.size) : definition.blank.Regular :=
  ⟨states_nodup checked, collectEvents_nodup (by simp) definition.rules, states_fit, events_fit,
    Table.complete_blank _ _ _⟩

theorem rule?_blank (row : Row) (event : EventId) : definition.blank.rule? row event = none :=
  Table.rule?_blank definition.name definition.states definition.events row event

/-- A rule with no source at all has no row. -/
theorem Resolves.idle {rule : Rule} {resolved : ResolvedRule} (resolves : definition.Resolves rule resolved)
    (none : rule.sources = .states []) : resolved.rows = [] := by
  rw [List.eq_nil_iff_forall_not_mem]
  intro row member
  cases row with
  | wildcard => simp [resolves.wildcard, none, Sources.isAny] at member
  | state state => simp [resolves.state, none, Sources.names] at member

/-- The cells of a rule whose names stand for ids are all there. -/
theorem Resolves.fits {rule : Rule} {resolved : ResolvedRule} (resolves : definition.Resolves rule resolved)
    (repeated : List Problem) : Filling.Fits ⟨definition.blank, repeated⟩ resolved := by
  have column : resolved.event.index < definition.blank.events.length := eventId?_lt resolves.event
  intro row member
  have line : ∃ index, definition.blank.rowIndex? row = some index := by
    cases row with
    | wildcard => exact ⟨_, rfl⟩
    | state state =>
      obtain ⟨name, _, found⟩ := (resolves.state state).mp member
      exact ⟨state.index, Table.rowIndex?_state_eq_some_iff.mpr ⟨rfl, stateId?_lt found⟩⟩
  obtain ⟨index, known⟩ := line
  exact ⟨_, Table.slot?_eq_some_iff.mpr ⟨column, index, known, rfl⟩⟩

theorem check_fits {resolved : List ResolvedRule} (checked : definition.check = .ok resolved) :
    ∀ rule ∈ resolved, Filling.Fits ⟨definition.blank, []⟩ rule := by
  intro rule member
  obtain ⟨_, _, own⟩ := check_mem checked member
  exact (checkRule_resolves own).fits []

/-- A compiled table has the states and events of its definition, and in a cell the target of the last
resolved rule for it. -/
theorem compile_cells {strictness : Strictness} {compilation : Compilation}
    (compiled : definition.compile strictness = .ok compilation) :
    ∃ resolved, definition.check = .ok resolved ∧ compilation.table.Complete ∧
      compilation.table.states = definition.states ∧
      compilation.table.events = definition.events ∧
      ∀ row event, compilation.table.rule? row event =
        (resolved.findRev? (·.writes row event)).map (·.target) := by
  obtain ⟨resolved, checked, same⟩ := compile_eq_ok compiled
  obtain ⟨onward, reads⟩ := Filling.putRules_extends (Table.complete_blank _ _ _) (check_fits checked)
  rw [same]
  refine ⟨resolved, checked, onward.complete, onward.states, onward.events, fun row event => ?_⟩
  exact (reads row event).trans (by rw [rule?_blank, Option.or_none])

/-- With an id for every name, a name stands for one id. -/
theorem compile_reads {strictness : Strictness} {compilation : Compilation}
    (compiled : definition.compile strictness = .ok compilation)
    (states_fit : definition.states.length ≤ UInt32.size)
    (events_fit : definition.events.length ≤ UInt32.size) :
    ∃ resolved, definition.check = .ok resolved ∧ compilation.table.Regular ∧
      compilation.table.states = definition.states ∧
      compilation.table.events = definition.events ∧
      ∀ row event, compilation.table.rule? row event =
        (resolved.findRev? (·.writes row event)).map (·.target) := by
  obtain ⟨resolved, checked, complete, states, events, reads⟩ := compile_cells compiled
  have regular : compilation.table.Regular := by
    obtain ⟨distinct, labels, _⟩ := blank_regular (check_eq_ok_iff.mp checked).1 states_fit events_fit
    refine ⟨?_, ?_, ?_, ?_, complete⟩
    · rwa [states]
    · rwa [events]
    · rwa [states]
    · rwa [events]
  exact ⟨resolved, checked, regular, states, events, reads⟩

section Names

variable {table : Table} (regular : table.Regular) (states : table.states = definition.states)
variable (events : table.events = definition.events)
include regular

include states in
theorem stateId?_eq_some_iff {name : String} {state : StateId} :
    definition.stateId? name = some state ↔ table.stateName? state = some name := by
  rw [← regular.stateId?_eq_some_iff, Definition.stateId?, Table.stateId?, states]

include events in
theorem eventId?_eq_some_iff {label : String} {event : EventId} :
    definition.eventId? label = some event ↔ table.eventName? event = some label := by
  rw [← regular.eventId?_eq_some_iff, Definition.eventId?, Table.eventId?, events]

include states in
/-- A rule is one of the rows that its sources count for. -/
theorem Resolves.mem_rows_iff {rule : Rule} {resolved : ResolvedRule}
    (resolves : definition.Resolves rule resolved) (row : Row) :
    row ∈ resolved.rows ↔ table.counts rule.sources row = true := by
  cases row with
  | wildcard => exact resolves.wildcard
  | state state =>
    simp only [resolves.state, stateId?_eq_some_iff regular states, Table.counts]
    cases named : table.stateName? state with
    | none => simp
    | some own => simp

include states events

private theorem Resolves.writes_eq {rule : Rule} {resolved : ResolvedRule}
    (resolves : definition.Resolves rule resolved) {event : EventId} {label : String}
    (named : table.eventName? event = some label) (row : Row) :
    resolved.writes row event = (rule.event = label && table.counts rule.sources row) := by
  have column : event = resolved.event ↔ rule.event = label := by
    have own := (eventId?_eq_some_iff regular events).mp resolves.event
    constructor
    · rintro rfl
      exact Option.some.inj (own.symm.trans named)
    · rintro rfl
      have found := (eventId?_eq_some_iff regular events).mpr named
      exact Option.some.inj (found.symm.trans resolves.event)
  rw [Bool.eq_iff_iff]
  simp only [ResolvedRule.writes, decide_eq_true_eq, Bool.and_eq_true, column,
    resolves.mem_rows_iff regular states row, and_comm]

/-- The last resolved rule for a cell is that of the last declared one. -/
theorem findRev?_resolved {rules : List Rule} {resolved : List ResolvedRule}
    (resolves : List.Forall₂ definition.Resolves rules resolved) {event : EventId} {label : String}
    (named : table.eventName? event = some label) (row : Row) :
    ((resolved.findRev? (·.writes row event)).map (·.target)).map table.stateName? =
      ((rules.findRev? fun rule => rule.event = label && table.counts rule.sources row).map
        (·.target)).map some := by
  induction resolves with
  | nil => rfl
  | cons first rest ih =>
    rename_i rule own rules resolved
    have target := (stateId?_eq_some_iff regular states).mp first.target
    rw [findRev?_cons, findRev?_cons, first.writes_eq regular states events named row]
    simp only [Option.map_or, ih]
    congr 1
    by_cases counts : (rule.event = label && table.counts rule.sources row) = true
    · simp [counts, target]
    · simp [counts]

end Names

end Definition

/-- What it means, name by name and cell by cell, that a table is the one a definition declares. -/
structure Table.Realizes (table : Table) (definition : Definition) : Prop where
  stateId : ∀ name state, table.stateId? name = some state ↔ table.stateName? state = some name
  eventId : ∀ label event, table.eventId? label = some event ↔ table.eventName? event = some label
  states : ∀ name, name ∈ definition.states ↔ ∃ state, table.stateName? state = some name
  events : ∀ label,
    (∃ rule ∈ definition.rules, rule.event = label) ↔ ∃ event, table.eventName? event = some label
  own : ∀ state name event label, table.stateName? state = some name →
    table.eventName? event = some label →
    (table.rule? (.state state) event).map table.stateName? =
      (definition.lastTarget? label (·.names.contains name)).map some
  wildcard : ∀ event label, table.eventName? event = some label →
    (table.rule? .wildcard event).map table.stateName? =
      (definition.lastTarget? label (·.isAny)).map some
  resolve : ∀ state name event label, table.stateName? state = some name →
    table.eventName? event = some label →
    (table.resolve? state event).map table.stateName? =
      ((definition.lastTarget? label (·.names.contains name)).or
        (definition.lastTarget? label (·.isAny))).map some
  targets : ∀ target, some target ∈ table.cells →
    ∃ name ∈ definition.states, table.stateName? target = some name
  idle : ∀ rule ∈ definition.rules, rule.sources = .states [] → ∃ resolved,
    definition.checkRule rule = .ok resolved ∧ ∀ filling : Filling, filling.putRule resolved = filling
  filled : ∀ slot target, table.cells[slot]? = some (some target) → ∃ rule ∈ definition.rules,
    ∃ row event, table.slot? row event = some slot ∧ table.eventName? event = some rule.event ∧
      table.counts rule.sources row = true ∧ table.stateName? target = some rule.target

section Meaning

variable {definition : Definition} {strictness : Strictness} {compilation : Compilation}
variable (compiled : definition.compile strictness = .ok compilation)
variable (states_fit : definition.states.length ≤ UInt32.size)
variable (events_fit : definition.events.length ≤ UInt32.size)
include compiled

/-- A rule with no source at all writes nothing. -/
theorem Definition.compile_idle {rule : Rule} (declared : rule ∈ definition.rules)
    (none : rule.sources = .states []) :
    ∃ resolved, definition.checkRule rule = .ok resolved ∧
      ∀ filling : Filling, filling.putRule resolved = filling := by
  obtain ⟨_, checked, _⟩ := compile_eq_ok compiled
  obtain ⟨own, checked⟩ := check_rule checked declared
  have no_rows := (checkRule_resolves checked).idle none
  refine ⟨own, checked, fun filling => ?_⟩
  rw [Filling.putRule, no_rows]
  rfl

include states_fit events_fit

/-- The events of a compiled table are those that rules are declared for. -/
theorem Definition.compile_events (label : String) :
    (∃ rule ∈ definition.rules, rule.event = label) ↔
      ∃ event, compilation.table.eventName? event = some label := by
  obtain ⟨resolved, checked, regular, _, events, _⟩ := compile_reads compiled states_fit events_fit
  constructor
  · rintro ⟨rule, declared, rfl⟩
    obtain ⟨own, checked⟩ := check_rule checked declared
    have found := (checkRule_resolves checked).event
    exact ⟨_, (eventId?_eq_some_iff regular events).mp found⟩
  · intro named
    obtain ⟨info, member, rfl⟩ := regular.mem_events_iff.mpr named
    rw [events] at member
    rcases collectEvents_mem member with impossible | found
    · cases impossible
    · exact found

/-- A cell of a compiled table holds the target of the last rule for its event that counts for its row. -/
theorem Definition.compile_rule? {event : EventId} {label : String}
    (named : compilation.table.eventName? event = some label) (row : Row) :
    (compilation.table.rule? row event).map compilation.table.stateName? =
      (definition.lastTarget? label (compilation.table.counts · row)).map some := by
  obtain ⟨resolved, checked, regular, states, events, reads⟩ :=
    compile_reads compiled states_fit events_fit
  rw [reads]
  exact findRev?_resolved regular states events (check_resolves checked) named row

private theorem Definition.compile_own {state : StateId} {name : String} {event : EventId} {label : String}
    (state_named : compilation.table.stateName? state = some name)
    (named : compilation.table.eventName? event = some label) :
    (compilation.table.rule? (.state state) event).map compilation.table.stateName? =
      (definition.lastTarget? label (·.names.contains name)).map some := by
  have counts : (compilation.table.counts · (.state state)) = (·.names.contains name) := by
    funext sources
    simp [Table.counts, state_named]
  rw [← counts]
  exact compile_rule? compiled states_fit events_fit named (.state state)

/-- Whatever stands in a cell of a compiled table, a rule for its row and event was declared. -/
theorem Definition.compile_filled {slot : Nat} {target : StateId}
    (written : compilation.table.cells[slot]? = some (some target)) :
    ∃ rule ∈ definition.rules, ∃ row event, compilation.table.slot? row event = some slot ∧
      compilation.table.eventName? event = some rule.event ∧
      compilation.table.counts rule.sources row = true ∧
      compilation.table.stateName? target = some rule.target := by
  obtain ⟨_, _, regular, _⟩ := compile_reads compiled states_fit events_fit
  obtain ⟨inside, _⟩ := Array.getElem?_eq_some_iff.mp written
  obtain ⟨row, event, place⟩ := regular.exists_slot? inside
  have column := (Table.slot?_eq_some_iff.mp place).1
  obtain ⟨label, named⟩ : ∃ label, compilation.table.eventName? event = some label := by
    simp [Table.eventName?, Table.event?, column]
  have last := compile_rule? compiled states_fit events_fit named row
  simp only [Table.rule?, place, written, Option.bind_some, Option.join_some, Option.map_some] at last
  obtain ⟨name, found, same⟩ := Option.map_eq_some_iff.mp last.symm
  obtain ⟨rule, declared, rfl, counted, rfl⟩ := lastTarget?_mem found
  exact ⟨rule, declared, row, event, place, named, counted, same.symm⟩

/-- A table that is compiled has the declared states and events, and every cell of it holds the target of
the last rule for its row and event, if there is one. A rule with an empty list of sources fills no cell. -/
theorem compiled_table_realizes_definition : compilation.table.Realizes definition := by
  obtain ⟨_, _, regular, states, _⟩ := definition.compile_reads compiled states_fit events_fit
  have closed := Definition.compile_closed compiled
  constructor
  case stateId => exact fun name state => regular.stateId?_eq_some_iff
  case eventId => exact fun label event => regular.eventId?_eq_some_iff
  case states =>
    intro name
    rw [← states]
    exact regular.mem_states_iff
  case events => exact Definition.compile_events compiled states_fit events_fit
  case own =>
    intro state name event label state_named named
    exact Definition.compile_own compiled states_fit events_fit state_named named
  case wildcard =>
    intro event label named
    exact Definition.compile_rule? compiled states_fit events_fit named .wildcard
  case resolve =>
    intro state name event label state_named named
    have own := Definition.compile_own compiled states_fit events_fit state_named named
    have wildcard := Definition.compile_rule? compiled states_fit events_fit named .wildcard
    simp only [Table.resolve?, Option.map_or, own, wildcard]
    rfl
  case targets =>
    intro target member
    have known := closed.targets target member
    exact ⟨_, states ▸ List.getElem_mem known, List.getElem?_eq_getElem known⟩
  case idle => exact fun rule declared none => Definition.compile_idle compiled declared none
  case filled =>
    intro slot target written
    exact Definition.compile_filled compiled states_fit events_fit written

end Meaning

/-- Rules that overlap: from any state, from a list with a repeated state, and from no state. -/
def Definition.Sample.overlapping : Definition where
  name := "overlapping"
  states := ["a", "b"]
  rules := [
    (Rule.on "go").fromStates ["a", "a"] |>.toState "a",
    (Rule.on "go").fromAny.toState "a",
    (Rule.on "go").fromStates ["a"] |>.toState "b",
    { event := "stay", sources := .states [], target := "b" }]

theorem overlapping_table_realizes_definition :
    ∃ table, Definition.Sample.overlapping.compile .permissive = .ok ⟨table, 1⟩ ∧
      Definition.Sample.overlapping.states.length ≤ UInt32.size ∧
      Definition.Sample.overlapping.events.length ≤ UInt32.size ∧
      table.Realizes Definition.Sample.overlapping ∧
      table.cells = #[some ⟨1⟩, none, none, none, some ⟨0⟩, none] := by
  have compiled : Definition.Sample.overlapping.compile .permissive = .ok ⟨{
      name := "overlapping"
      states := ["a", "b"]
      events := [⟨"go", none⟩, ⟨"stay", none⟩]
      cells := #[some ⟨1⟩, none, none, none, some ⟨0⟩, none] }, 1⟩ := rfl
  have states_fit : Definition.Sample.overlapping.states.length ≤ UInt32.size := by decide
  have events_fit : Definition.Sample.overlapping.events.length ≤ UInt32.size := by decide
  have realizes := compiled_table_realizes_definition compiled states_fit events_fit
  exact ⟨_, compiled, states_fit, events_fit, realizes, rfl⟩

end StateMachine

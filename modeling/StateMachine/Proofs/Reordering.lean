import Mathlib.Data.List.FinRange
import Mathlib.Logic.Equiv.Fin.Rotate
import StateMachine.Proofs.Graph

/-!
The order of rules. It only matters between rules that cover a source and an event in common: whatever else
is reordered, the table says the same of all names, although events may have other ids in it.
-/
namespace StateMachine

private theorem findRev?_eq_getLast?_filter {α : Type} (counts : α → Bool) (items : List α) :
    items.findRev? counts = (items.filter counts).getLast? :=
  List.findRev?_eq_find?_reverse.trans List.getLast?_filter.symm

namespace Rule

/-- Two rules overlap if they cover some source and event in common. -/
def Overlaps (first second : Rule) : Prop :=
  ∃ source event, first.covers source event = true ∧ second.covers source event = true

private theorem overlaps_iff {first second : Rule} :
    first.Overlaps second ↔ ∃ cell ∈ first.cells, cell ∈ second.cells := by
  simp only [Overlaps, Prod.exists, mem_cells_iff]

instance (first second : Rule) : Decidable (first.Overlaps second) := decidable_of_iff _ overlaps_iff.symm

theorem Overlaps.symm {first second : Rule} (overlap : first.Overlaps second) : second.Overlaps first := by
  obtain ⟨source, event, covers, covers_too⟩ := overlap
  exact ⟨source, event, covers_too, covers⟩

end Rule

/-- Two tables say the same, by name: of the rules of each row, of what events resolve to, and of edges. -/
structure Table.Agrees (first second : Table) : Prop where
  name : first.name = second.name
  states : first.states = second.states
  events : ∀ label, (∃ event, first.eventName? event = some label) ↔
    ∃ event, second.eventName? event = some label
  rules : ∀ source event, first.ruleNamed? source event = second.ruleNamed? source event
  resolves : ∀ state event, first.resolveNamed? state event = second.resolveNamed? state event
  edges : ∀ edge, edge ∈ first.namedEdges ↔ edge ∈ second.namedEdges

private theorem Table.agrees_of_rules {first second : Table} (regular : first.Regular)
    (closed : first.Closed)
    (regular_too : second.Regular) (closed_too : second.Closed) (name : first.name = second.name)
    (states : first.states = second.states)
    (events : ∀ label, (∃ event, first.eventName? event = some label) ↔
      ∃ event, second.eventName? event = some label)
    (rules : ∀ source event, first.ruleNamed? source event = second.ruleNamed? source event) :
    first.Agrees second := by
  refine ⟨name, states, events, rules, fun state event => ?_, fun edge => ?_⟩
  · rw [resolveNamed?_eq regular closed, resolveNamed?_eq regular_too closed_too, states, rules, rules]
  · rw [mem_namedEdges_iff regular closed, mem_namedEdges_iff regular_too closed_too, states, rules, rules]

private theorem Filling.putRules_name (filling : Filling) (rules : List ResolvedRule) :
    (filling.putRules rules).table.name = filling.table.name := by
  have put_rows (filling : Filling) (event : EventId) (target : StateId) (rows : List Row) :
      (rows.foldl (·.put event target) filling).table.name = filling.table.name := by
    induction rows generalizing filling with
    | nil => rfl
    | cons row rows ih => exact (ih _).trans (filling.table.name_insert row event target)
  unfold putRules
  induction rules generalizing filling with
  | nil => rfl
  | cons rule rules ih => exact (ih _).trans (put_rows filling rule.event rule.target rule.rows)

namespace Definition

/-- The same definition with its rules in another order. -/
def reorder (definition : Definition) (order : Equiv.Perm (Fin definition.rules.length)) : Definition :=
  { definition with rules := List.ofFn fun index => definition.rules[order index] }

/-- An order in which rules that overlap come in the order of their declaration. -/
def KeepsOverlaps (definition : Definition) (order : Equiv.Perm (Fin definition.rules.length)) : Prop :=
  ∀ first second, first < second →
    definition.rules[order first].Overlaps definition.rules[order second] → order first < order second

instance (definition : Definition) (order : Equiv.Perm (Fin definition.rules.length)) :
    Decidable (definition.KeepsOverlaps order) :=
  inferInstanceAs (Decidable (∀ first second, first < second →
    definition.rules[order first].Overlaps definition.rules[order second] → order first < order second))

variable {definition : Definition} {order : Equiv.Perm (Fin definition.rules.length)}

private theorem reorder_perm (definition : Definition) (order : Equiv.Perm (Fin definition.rules.length)) :
    (definition.reorder order).rules.Perm definition.rules := by
  have perm := Equiv.Perm.ofFn_comp_perm order fun index => definition.rules[index]
  rwa [show (List.ofFn fun index : Fin _ => definition.rules[index]) = definition.rules from
    List.ofFn_getElem] at perm

/-- Of the rules that cover a source and an event, none changes its place. -/
theorem filter_reorder (keeps : definition.KeepsOverlaps order) (source : Source) (event : String) :
    (definition.reorder order).rules.filter (·.covers source event) =
      definition.rules.filter (·.covers source event) := by
  let rule (index : Fin definition.rules.length) : Rule := definition.rules[index]
  have declared : definition.rules = (List.finRange definition.rules.length).map rule :=
    (List.map_getElem_finRange definition.rules).symm
  have reordered : (definition.reorder order).rules =
      ((List.finRange definition.rules.length).map order).map rule := by
    rw [reorder, List.ofFn_eq_map, List.map_map]
    rfl
  -- By their places, the rules of either list that cover the source and the event are in increasing order.
  have places : ((List.finRange definition.rules.length).map order).filter
        ((·.covers source event) ∘ rule) =
      (List.finRange definition.rules.length).filter ((·.covers source event) ∘ rule) := by
    refine List.Perm.eq_of_pairwise (fun _ _ _ _ above below => absurd below (lt_asymm above)) ?_
      ((List.pairwise_lt_finRange _).filter _) (order.map_finRange_perm.filter _)
    rw [List.pairwise_filter, List.pairwise_map]
    refine (List.pairwise_lt_finRange _).imp fun {first second} before covers covers_too => ?_
    exact keeps first second before ⟨source, event, covers, covers_too⟩
  rw [reordered, List.filter_map, places, ← List.filter_map, ← declared]

private theorem mem_eventNames_iff {label : String} : label ∈ definition.events.map (·.name) ↔
    label ≠ "" ∧ ∃ rule ∈ definition.rules, rule.event = label := by
  constructor
  · intro member
    obtain ⟨info, among, rfl⟩ := List.mem_map.mp member
    refine ⟨collectEvents_named (by simp) definition.rules info among, ?_⟩
    exact (collectEvents_mem among).resolve_left List.not_mem_nil
  · intro ruled
    obtain ⟨named, rule, declared, rfl⟩ := ruled
    obtain ⟨info, among, same⟩ : ∃ info ∈ definition.events, info.name = rule.event :=
      exists_mem_collectEvents declared named
    exact List.mem_map.mpr ⟨info, among, same⟩

private theorem events_reorder_length :
    (definition.reorder order).events.length = definition.events.length := by
  have distinct (definition : Definition) : (definition.events.map (·.name)).Nodup :=
    collectEvents_nodup (by simp) definition.rules
  have names : ((definition.reorder order).events.map (·.name)).Perm (definition.events.map (·.name)) := by
    rw [List.perm_ext_iff_of_nodup (distinct _) (distinct _)]
    intro label
    simp only [mem_eventNames_iff, (definition.reorder_perm order).mem_iff]
  simpa using names.length_eq

private theorem ruleProblems_of_clean (clean : definition.problems = []) {rule : Rule}
    (declared : rule ∈ definition.rules) : definition.ruleProblems rule = [] :=
  List.flatMap_eq_nil_iff.mp (List.append_eq_nil_iff.mp clean).2 rule declared

private theorem problems_reorder (clean : definition.problems = []) :
    (definition.reorder order).problems = [] := by
  refine List.append_eq_nil_iff.mpr
    ⟨(List.append_eq_nil_iff.mp clean).1, List.flatMap_eq_nil_iff.mpr fun rule member => ?_⟩
  exact ruleProblems_of_clean clean ((definition.reorder_perm order).mem_iff.mp member)

private theorem mem_states_of_clean (clean : definition.problems = []) {rule : Rule}
    (declared : rule ∈ definition.rules) {name : String} (listed : name ∈ rule.sources.names) :
    name ∈ definition.states := by
  have none := ruleProblems_of_clean clean declared
  unfold ruleProblems at none
  split at none
  · cases none
  · have unknown := List.map_eq_nil_iff.mp (List.append_eq_nil_iff.mp none).2
    simpa using List.filter_eq_nil_iff.mp unknown name listed

private theorem covers_eq {table : Table} (regular : table.Regular) {source : Source} {row : Row}
    (line : table.row? source = some row) (rule : Rule) (label : String) :
    rule.covers source label = (rule.event = label && table.counts rule.sources row) := by
  unfold Rule.covers
  congr 1
  cases source with
  | any =>
    cases line
    cases rule.sources <;> simp [Sources.listed, Sources.isAny, Table.counts]
  | state name =>
    obtain ⟨state, found, rfl⟩ := Option.map_eq_some_iff.mp line
    have named := regular.stateId?_eq_some_iff.mp found
    cases rule.sources <;> simp [Sources.listed, Sources.names, Table.counts, named]

section Compiled

variable {strictness : Strictness} {compilation : Compilation}
variable (compiled : definition.compile strictness = .ok compilation)
variable (states_fit : definition.states.length ≤ UInt32.size)
variable (events_fit : definition.events.length ≤ UInt32.size)
include compiled

private theorem compile_clean : definition.problems = [] := by
  obtain ⟨rules, checked, _⟩ := compile_eq_ok compiled
  exact problems_of_check checked

private theorem compile_name : compilation.table.name = definition.name := by
  obtain ⟨rules, _, same⟩ := compile_eq_ok compiled
  rw [same]
  exact Filling.putRules_name _ rules

include states_fit events_fit

private theorem compile_known {rule : Rule} (declared : rule ∈ definition.rules) {source : Source}
    {label : String} (covers : rule.covers source label = true) :
    ∃ row event, compilation.table.row? source = some row ∧
      compilation.table.eventName? event = some label := by
  obtain ⟨_, _, regular, states, _⟩ := compile_reads compiled states_fit events_fit
  simp only [Rule.covers, Bool.and_eq_true, decide_eq_true_eq] at covers
  obtain ⟨event, named⟩ :=
    (compile_events compiled states_fit events_fit label).mp ⟨rule, declared, covers.1⟩
  cases source with
  | any => exact ⟨.wildcard, event, rfl, named⟩
  | state name =>
    have listed : name ∈ rule.sources.names := by
      revert covers
      cases rule.sources <;> simp [Sources.listed, Sources.names]
    have known : name ∈ compilation.table.states := by
      rw [states]
      exact mem_states_of_clean (compile_clean compiled) declared listed
    obtain ⟨state, state_named⟩ := regular.mem_states_iff.mp known
    exact ⟨.state state, event, Table.row?_state regular state_named, named⟩

/-- By name, a row of a compiled table holds the target of the last rule for its source and event. -/
theorem compile_ruleNamed? (source : Source) (label : String) :
    compilation.table.ruleNamed? source label =
      (definition.rules.findRev? (·.covers source label)).map (·.target) := by
  obtain ⟨_, _, regular, states, _⟩ := compile_reads compiled states_fit events_fit
  have closed := compile_closed compiled
  by_cases known : ∃ row event, compilation.table.row? source = some row ∧
      compilation.table.eventName? event = some label
  · obtain ⟨row, event, line, named⟩ := known
    have last := congrArg (Option.map (·.getD "?")) (compile_rule? compiled states_fit events_fit named row)
    rw [Option.map_map, Option.map_map] at last
    rw [Table.ruleNamed?_eq regular closed line named]
    simp only [covers_eq regular line]
    exact last.trans (Option.map_id' ..)
  · -- What the table does not know is covered by no rule.
    have uncovered : definition.rules.findRev? (·.covers source label) = none := by
      rw [List.findRev?_eq_find?_reverse, List.find?_eq_none]
      intro rule member covers
      exact known (compile_known compiled states_fit events_fit (List.mem_reverse.mp member) covers)
    rw [uncovered]
    cases ruled : compilation.table.ruleNamed? source label with
    | none => rfl
    | some target =>
      obtain ⟨row, line, rest⟩ := Option.bind_eq_some_iff.mp ruled
      obtain ⟨event, found, _⟩ := Option.bind_eq_some_iff.mp rest
      exact absurd ⟨row, event, line, regular.eventId?_eq_some_iff.mp found⟩ known

/-- In tables of the same rules, those that overlap in the same order, the rows hold the same by name. -/
theorem agrees_of_reorder {reordered : Compilation}
    (compiled_too : (definition.reorder order).compile strictness = .ok reordered)
    (keeps : definition.KeepsOverlaps order) : compilation.table.Agrees reordered.table := by
  have states_fit_too : (definition.reorder order).states.length ≤ UInt32.size := states_fit
  have events_fit_too : (definition.reorder order).events.length ≤ UInt32.size :=
    events_reorder_length.trans_le events_fit
  obtain ⟨_, _, regular, states, _⟩ := compile_reads compiled states_fit events_fit
  obtain ⟨_, _, regular_too, states_too, _⟩ := compile_reads compiled_too states_fit_too events_fit_too
  refine Table.agrees_of_rules regular (compile_closed compiled) regular_too (compile_closed compiled_too)
    ((compile_name compiled).trans (compile_name compiled_too).symm) (states.trans states_too.symm)
    (fun label => ?_) fun source event => ?_
  · rw [← compile_events compiled states_fit events_fit,
      ← compile_events compiled_too states_fit_too events_fit_too]
    simp only [(definition.reorder_perm order).mem_iff]
  · rw [compile_ruleNamed? compiled states_fit events_fit,
      compile_ruleNamed? compiled_too states_fit_too events_fit_too, findRev?_eq_getLast?_filter,
      findRev?_eq_getLast?_filter, filter_reorder keeps]

end Compiled

/-- Rules without overlaps can be put in any order. -/
theorem keepsOverlaps_of_apart (apart : definition.rules.Pairwise fun first second => ¬ first.Overlaps second)
    (order : Equiv.Perm (Fin definition.rules.length)) : definition.KeepsOverlaps order := by
  intro first second before overlap
  by_contra behind
  have other : order second ≠ order first := order.injective.ne before.ne'
  have earlier : order second < order first := lt_of_le_of_ne (not_lt.mp behind) other
  exact List.pairwise_iff_getElem.mp apart _ _ (order second).isLt (order first).isLt earlier overlap.symm

private theorem repeatedCells_eq_nil_iff_apart : definition.repeatedCells = [] ↔
    definition.rules.Pairwise fun first second => ¬ first.Overlaps second := by
  rw [repeatedCells_eq_nil_iff]
  simp only [Rule.Overlaps, not_exists]

private theorem repeatedCells_reorder (apart : definition.repeatedCells = [])
    (order : Equiv.Perm (Fin definition.rules.length)) : (definition.reorder order).repeatedCells = [] := by
  rw [repeatedCells_eq_nil_iff_apart] at apart ⊢
  exact (definition.reorder_perm order).symm.pairwise apart fun {_ _} apart overlap => apart overlap.symm

end Definition

/-- The second rule first. -/
def Crowded.swap {last : Nat} {first second : Nat × Nat} :
    Equiv.Perm (Fin (Crowded.definition last first second).rules.length) :=
  (Equiv.swap 0 1 : Equiv.Perm (Fin 2))

private theorem Crowded.reorder_swap {last : Nat} {first second : Nat × Nat} :
    (Crowded.definition last first second).reorder swap = Crowded.definition last second first := rfl

/-- By name, the row of a state holds the target of the second rule for a state with the same id. -/
theorem Crowded.ruleNamed?_eq {last : Nat} {first second : Nat × Nat} {strictness : Strictness}
    {compilation : Compilation} (known : Within last first) (known_too : Within last second)
    (compiled : (Crowded.definition last first second).compile strictness = .ok compilation) {position : Nat}
    (within : position ≤ last) (shared : StateId.ofIndex position = StateId.ofIndex second.1)
    (small : second.2 < UInt32.size) :
    compilation.table.ruleNamed? (.state (name position)) "go" = some (name second.2) := by
  obtain ⟨states, events, reads⟩ := Crowded.compile_reads known known_too compiled
  have row : compilation.table.stateId? (name position) = some (.ofIndex second.1) := by
    rw [Table.stateId?, states, findIdx?_name within, Option.map_some, shared]
  have event : compilation.table.eventId? "go" = some ⟨0⟩ := by
    rw [Table.eventId?, events]
    rfl
  have target := stateName?_ofIndex states known_too.2 small
  simp [Table.ruleNamed?, Table.row?, row, event, reads, target]

/-- The last rule first. -/
def Definition.Sample.lastFirst : Equiv.Perm (Fin Definition.Sample.overlapping.rules.length) :=
  (finRotate 4).symm

end StateMachine

import Mathlib.Data.List.Count
import StateMachine.Definition.Sample
import StateMachine.Proofs.Compilation

namespace StateMachine

/-- A check reports nothing exactly if it is good. -/
inductive Checked.Reports {α : Type} : Checked α → List Problem → Prop where
  | good {value : α} : Reports (.ok value) []
  | bad {problems : List Problem} (some : problems ≠ []) : Reports (.error problems) problems

namespace Checked.Reports

variable {α β : Type}

private theorem eq_error {checked : Checked α} {problems : List Problem}
    (reports : checked.Reports problems) (some : problems ≠ []) : checked = .error problems := by
  cases reports with
  | good => exact absurd rfl some
  | bad => rfl

private theorem eq_nil {value : α} {problems : List Problem} (reports : Reports (.ok value) problems) :
    problems = [] := by
  cases reports
  rfl

theorem exists_ok {checked : Checked α} (reports : checked.Reports []) : ∃ value, checked = .ok value := by
  cases reports with
  | good => exact ⟨_, rfl⟩
  | bad some => exact absurd rfl some

theorem fail (problem : Problem) : (Checked.fail problem : Checked α).Reports [problem] :=
  .bad (List.cons_ne_nil _ _)

theorem listed (problems : List Problem) :
    (if problems = [] then .ok () else .error problems : Checked Unit).Reports problems := by
  by_cases none : problems = []
  · simpa only [none, if_true] using good
  · simpa only [none, if_false] using bad none

theorem map {checked : Checked α} {problems : List Problem} (reports : checked.Reports problems)
    (function : α → β) : Reports (checked.map function) problems := by
  cases reports with
  | good => exact .good
  | bad some => exact .bad some

theorem both {first : Checked α} {second : Checked β} {problems others : List Problem}
    (reports : first.Reports problems) (reports_too : second.Reports others) :
    (Checked.both first second).Reports (problems ++ others) := by
  cases reports with
  | good =>
    cases reports_too with
    | good => exact .good
    | bad some => exact .bad some
  | bad some =>
    cases reports_too with
    | good => exact .bad (by simpa [Checked.problems] using some)
    | bad => exact .bad (by simp [Checked.problems, some])

/-- Checks that are joined report their problems one after the other. -/
theorem all {items : List β} {check : β → Checked α} {problems : β → List Problem}
    (reports : ∀ item ∈ items, (check item).Reports (problems item)) :
    (Checked.all (items.map check)).Reports (items.flatMap problems) := by
  induction items with
  | nil => exact .good
  | cons item items ih =>
    obtain ⟨first, rest⟩ := List.forall_mem_cons.mp reports
    exact (first.both (ih rest)).map _

end Checked.Reports

/-- The names that occur more than once, each at the position where it has occurred once before. -/
def secondOccurrences (names : List String) : List String :=
  (List.range names.length).filterMap fun position =>
    names[position]?.filter fun name => (names.take position).count name = 1

namespace Definition

/-- What is wrong with a rule. A rule without a name is not looked at any further. -/
def ruleProblems (definition : Definition) (rule : Rule) : List Problem :=
  if rule.event = "" then [.emptyEventName]
  else
    (if rule.target = "" then [.missingTarget rule.event]
      else if rule.target ∈ definition.states then []
      else [.unknownTarget rule.event rule.target]) ++
    (rule.sources.names.filter (· ∉ definition.states)).map (.unknownSource rule.event)

/-- What is wrong with a definition: first with its states, and then with one rule after the other. -/
def problems (definition : Definition) : List Problem :=
  (if definition.states = [] then [.noStates] else []) ++
    (secondOccurrences definition.states).map .repeatedState ++
    definition.rules.flatMap definition.ruleProblems

private theorem repeatedNames_eq (before names : List String) :
    repeatedNames before names = (List.range names.length).filterMap fun position =>
      names[position]?.filter fun name => before.count name + (names.take position).count name = 1 := by
  induction names generalizing before with
  | nil => rfl
  | cons name names ih =>
    have later (position : Nat) (other : String) :
        before.count other + (name :: names.take position).count other =
          (name :: before).count other + (names.take position).count other := by
      simp only [List.count_cons]
      omega
    rw [repeatedNames, List.length_cons, List.range_succ_eq_map, List.filterMap_cons, List.filterMap_map]
    simp only [Function.comp_def]
    by_cases again : before.count name = 1 <;> simp [again, ih, later, Option.filter]

private theorem secondOccurrences_eq (names : List String) :
    secondOccurrences names = repeatedNames [] names := by
  simp [secondOccurrences, repeatedNames_eq]

/-- However often a name occurs again, it is reported once. -/
theorem count_repeatedNames (before names : List String) (name : String) :
    (repeatedNames before names).count name =
      if before.count name < 2 ∧ 2 ≤ before.count name + names.count name then 1 else 0 := by
  induction names generalizing before with
  | nil =>
    have few : ¬ (before.count name < 2 ∧ 2 ≤ before.count name + List.count name []) := by simp
    rw [if_neg few]
    rfl
  | cons first names ih =>
    unfold repeatedNames
    by_cases same : first = name
    · subst first
      by_cases again : before.count name = 1
      · simp only [again, if_true, List.count_cons_self, ih]
        split <;> split <;> omega
      · simp only [again, if_false, ih, List.count_cons_self]
        congr 1
        simp only [eq_iff_iff]
        omega
    · have apart : (first == name) = false := by simpa using same
      by_cases again : before.count first = 1 <;> simp [again, ih, List.count_cons, apart]

variable {definition : Definition}

private theorem stateId?_eq_none_iff {name : String} :
    definition.stateId? name = none ↔ name ∉ definition.states := by
  simp only [stateId?, Option.map_eq_none_iff, List.findIdx?_eq_none_iff, decide_eq_false_iff_not]
  exact ⟨fun apart member => apart name member rfl, fun absent other member same => absent (same ▸ member)⟩

private theorem mem_collectEvents_of_known {known : List EventInfo} {info : EventInfo}
    (member : info ∈ known) (rules : List Rule) : info ∈ collectEvents known rules := by
  induction rules generalizing known with
  | nil => exact member
  | cons rule rules ih =>
    unfold collectEvents
    split
    · exact ih member
    · exact ih (List.mem_append_left _ member)

private theorem mem_states_of_stateId? {name : String} {state : StateId}
    (found : definition.stateId? name = some state) : name ∈ definition.states := by
  by_cases declared : name ∈ definition.states
  · exact declared
  · cases (stateId?_eq_none_iff.mpr declared).symm.trans found

/-- Every rule with a name has its event among the events. -/
theorem exists_mem_collectEvents {known : List EventInfo} {rules : List Rule} {rule : Rule}
    (declared : rule ∈ rules) (named : rule.event ≠ "") :
    ∃ info ∈ collectEvents known rules, info.name = rule.event := by
  induction rules generalizing known with
  | nil => cases declared
  | cons first rules ih =>
    unfold collectEvents
    rcases List.mem_cons.mp declared with rfl | later
    · split
      · rename_i skipped
        rcases skipped with nameless | present
        · exact absurd nameless named
        · obtain ⟨info, member, same⟩ := List.any_eq_true.mp present
          exact ⟨info, mem_collectEvents_of_known member rules, of_decide_eq_true same⟩
      · exact ⟨_, mem_collectEvents_of_known (List.mem_append_right _ (List.mem_singleton_self _)) rules, rfl⟩
    · split
      · exact ih later
      · exact ih later

theorem collectEvents_named {known : List EventInfo} (named : ∀ info ∈ known, info.name ≠ "")
    (rules : List Rule) : ∀ info ∈ collectEvents known rules, info.name ≠ "" := by
  induction rules generalizing known with
  | nil => exact named
  | cons rule rules ih =>
    unfold collectEvents
    split
    · exact ih named
    · rename_i added
      refine ih (List.forall_mem_append.mpr ⟨named, List.forall_mem_singleton.mpr ?_⟩)
      exact fun nameless => added (.inl nameless)

theorem eventId?_eq_none_iff {rule : Rule} (declared : rule ∈ definition.rules) :
    definition.eventId? rule.event = none ↔ rule.event = "" := by
  simp only [eventId?, Option.map_eq_none_iff, List.findIdx?_eq_none_iff, decide_eq_false_iff_not]
  constructor
  · intro absent
    by_cases nameless : rule.event = ""
    · exact nameless
    · obtain ⟨info, member, same⟩ : ∃ info ∈ definition.events, info.name = rule.event :=
        exists_mem_collectEvents declared nameless
      exact absurd same (absent info member)
  · intro nameless info member same
    exact collectEvents_named (by simp) definition.rules info member (same.trans nameless)

private theorem checkStates_reports (definition : Definition) : definition.checkStates.Reports
    ((if definition.states = [] then [.noStates] else []) ++
      (secondOccurrences definition.states).map .repeatedState) := by
  rw [secondOccurrences_eq]
  exact .listed _

private theorem checkTarget_reports (rule : Rule) : (definition.checkTarget rule).Reports
    (if rule.target = "" then [.missingTarget rule.event]
      else if rule.target ∈ definition.states then []
      else [.unknownTarget rule.event rule.target]) := by
  unfold checkTarget
  by_cases missing : rule.target = ""
  · simpa only [missing, if_true] using Checked.Reports.fail _
  · simp only [missing, if_false]
    split
    · rename_i state found
      simpa only [mem_states_of_stateId? found, if_true] using Checked.Reports.good
    · rename_i absent
      simpa only [stateId?_eq_none_iff.mp absent, if_false] using Checked.Reports.fail _

private theorem checkSource_reports (rule : Rule) (source : String) :
    (definition.checkSource rule source).Reports
    (if source ∈ definition.states then [] else [.unknownSource rule.event source]) := by
  unfold checkSource
  split
  · rename_i state found
    simpa only [mem_states_of_stateId? found, if_true] using Checked.Reports.good
  · rename_i absent
    simpa only [stateId?_eq_none_iff.mp absent, if_false] using Checked.Reports.fail _

private theorem checkSources_reports (rule : Rule) : (definition.checkSources rule).Reports
    ((rule.sources.names.filter (· ∉ definition.states)).map (.unknownSource rule.event)) := by
  have one_by_one (names : List String) :
      (names.filter (· ∉ definition.states)).map (Problem.unknownSource rule.event) =
        names.flatMap fun source =>
          if source ∈ definition.states then [] else [.unknownSource rule.event source] := by
    induction names with
    | nil => rfl
    | cons source names ih =>
      by_cases known : source ∈ definition.states <;> simp [known, ← ih]
  unfold checkSources
  split
  · rename_i any
    rw [any]
    exact .good
  · rename_i names listed
    rw [listed, one_by_one]
    exact (Checked.Reports.all fun source _ => checkSource_reports rule source).map _

private theorem checkRule_reports {rule : Rule} (declared : rule ∈ definition.rules) :
    (definition.checkRule rule).Reports (definition.ruleProblems rule) := by
  unfold checkRule ruleProblems
  split
  · rename_i absent
    simpa only [(eventId?_eq_none_iff declared).mp absent, if_true] using Checked.Reports.fail _
  · rename_i event found
    have named : rule.event ≠ "" := by
      intro nameless
      cases ((eventId?_eq_none_iff declared).mpr nameless).symm.trans found
    simp only [named, if_false]
    exact ((checkTarget_reports rule).both (checkSources_reports rule)).map _

/-- The check of a definition reports its problems, and nothing else. -/
theorem check_reports (definition : Definition) : definition.check.Reports definition.problems := by
  have states := definition.checkStates_reports
  have rules : (Checked.all (definition.rules.map definition.checkRule)).Reports
      (definition.rules.flatMap definition.ruleProblems) :=
    .all fun rule declared => checkRule_reports declared
  exact (states.both rules).map _

private theorem ruleProblems_not_repeated (rule : Rule) :
    ∀ problem ∈ definition.ruleProblems rule,
      (∀ name, problem ≠ .repeatedState name) ∧ ∀ event state, problem ≠ .repeatedRule event state := by
  unfold ruleProblems
  split
  · simp
  · refine List.forall_mem_append.mpr ⟨?_, fun problem listed => ?_⟩
    · split
      · simp
      · split <;> simp
    · obtain ⟨source, _, rfl⟩ := List.mem_map.mp listed
      exact ⟨nofun, nofun⟩

private theorem repeatedRule_notMem_problems (event state : String) :
    .repeatedRule event state ∉ definition.problems := by
  intro member
  rcases List.mem_append.mp member with header | among
  · split at header <;> simp at header
  · obtain ⟨rule, _, reported⟩ := List.mem_flatMap.mp among
    exact (ruleProblems_not_repeated rule _ reported).2 event state rfl

private theorem count_problems_repeatedState (name : String) :
    definition.problems.count (.repeatedState name) = if 2 ≤ definition.states.count name then 1 else 0 := by
  have states :
      (if definition.states = [] then [Problem.noStates] else []).count (.repeatedState name) = 0 := by
    split <;> simp
  have rules : (definition.rules.flatMap definition.ruleProblems).count (.repeatedState name) = 0 := by
    rw [List.count_eq_zero]
    intro among
    obtain ⟨rule, _, reported⟩ := List.mem_flatMap.mp among
    exact (ruleProblems_not_repeated rule _ reported).1 name rfl
  have injective : Function.Injective Problem.repeatedState := fun _ _ same => Problem.repeatedState.inj same
  rw [problems, List.count_append, List.count_append, states, rules,
    List.count_map_of_injective _ _ injective, secondOccurrences_eq, count_repeatedNames]
  simp

theorem problems_of_check {rules : List ResolvedRule} (checked : definition.check = .ok rules) :
    definition.problems = [] := by
  have reports := definition.check_reports
  rw [checked] at reports
  exact reports.eq_nil

theorem exists_compile_permissive (clean : definition.problems = []) :
    ∃ compilation, definition.compile .permissive = .ok compilation := by
  have reports := definition.check_reports
  rw [clean] at reports
  obtain ⟨rules, checked⟩ := reports.exists_ok
  simp only [compile, checked]
  exact ⟨_, rfl⟩

end Definition

/-- A definition with problems is refused in either mode, and all of its problems are reported in their
order; repeated rules are not among them. A definition without problems is compiled in permissive mode. -/
theorem compile_reports_problems (definition : Definition) :
    (∀ strictness, definition.problems ≠ [] →
      definition.compile strictness = .error definition.problems) ∧
    (∀ event state, .repeatedRule event state ∉ definition.problems) ∧
    (∀ name, definition.problems.count (.repeatedState name) =
      if 2 ≤ definition.states.count name then 1 else 0) ∧
    (definition.problems = [] → ∃ compilation, definition.compile .permissive = .ok compilation) := by
  refine ⟨fun strictness some => ?_, Definition.repeatedRule_notMem_problems,
    Definition.count_problems_repeatedState, Definition.exists_compile_permissive⟩
  have refused := definition.check_reports.eq_error some
  simp only [Definition.compile, refused]
  rfl

example : Definition.Sample.badTarget.problems =
    [.repeatedState "a", .unknownTarget "go" "nowhere", .unknownSource "go" "x"] := by decide

end StateMachine

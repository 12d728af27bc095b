import StateMachine.Proofs.Crowded

namespace StateMachine

section Repeats

variable {α β : Type} [DecidableEq β]

/-- Whether one of the items has a cell. -/
def covered (cells : α → List β) (items : List α) (cell : β) : Bool := items.any (cell ∈ cells ·)

private theorem covered_iff {cells : α → List β} {items : List α} {cell : β} :
    covered cells items cell = true ↔ ∃ item ∈ items, cell ∈ cells item := by
  simp [covered]

private theorem covered_snoc (cells : α → List β) (items : List α) (item : α) (cell : β) :
    covered cells (items ++ [item]) cell = (covered cells items cell || decide (cell ∈ cells item)) := by
  simp [covered]

/-- The cells that items share with items before them, item by item. -/
def repeats (cells : α → List β) (earlier : List α) : List α → List β
  | [] => []
  | item :: items => (cells item).filter (covered cells earlier) ++ repeats cells (earlier ++ [item]) items

private theorem count_repeats [BEq β] [LawfulBEq β] {cells : α → List β} {earlier items : List α}
    (distinct : ∀ item ∈ items, (cells item).Nodup) (cell : β) :
    (repeats cells earlier items).count cell =
      items.countP (cell ∈ cells ·) - if covered cells earlier cell then 0 else 1 := by
  induction items generalizing earlier with
  | nil => simp [repeats]
  | cons item items ih =>
    obtain ⟨own_distinct, others⟩ := List.forall_mem_cons.mp distinct
    rw [repeats, List.count_append, ih others, List.countP_cons, covered_snoc]
    by_cases own : cell ∈ cells item
    · have once : (cells item).count cell = 1 := List.count_eq_one_of_mem own_distinct own
      by_cases before : covered cells earlier cell = true
      · rw [List.count_filter before]
        simp [before, own, once]
        omega
      · have unlisted : cell ∉ (cells item).filter (covered cells earlier) :=
          fun listed => before (List.mem_filter.mp listed).2
        rw [List.count_eq_zero.mpr unlisted]
        simp [before, own]
    · have unlisted : cell ∉ (cells item).filter (covered cells earlier) :=
        fun listed => own (List.mem_filter.mp listed).1
      rw [List.count_eq_zero.mpr unlisted]
      simp [own]

/-- Nothing is repeated exactly if no two items share a cell. -/
theorem repeats_eq_nil_iff {cells : α → List β} {earlier items : List α} :
    repeats cells earlier items = [] ↔
      (∀ other ∈ earlier, ∀ item ∈ items, ∀ cell ∈ cells other, cell ∉ cells item) ∧
        items.Pairwise fun first second => ∀ cell ∈ cells first, cell ∉ cells second := by
  induction items generalizing earlier with
  | nil => simp [repeats]
  | cons item items ih =>
    have own : (cells item).filter (covered cells earlier) = [] ↔
        ∀ other ∈ earlier, ∀ cell ∈ cells other, cell ∉ cells item := by
      simp only [List.filter_eq_nil_iff, covered_iff, not_exists, not_and]
      exact ⟨fun apart other member cell has own => apart cell own other member has,
        fun apart cell own other member has => apart other member cell has own⟩
    rw [repeats, List.append_eq_nil_iff, own, ih, List.pairwise_cons, List.forall_mem_append,
      List.forall_mem_singleton]
    constructor
    · rintro ⟨apart, ⟨later, own_later⟩, rest⟩
      exact ⟨fun other member => List.forall_mem_cons.mpr ⟨apart other member, later other member⟩,
        own_later, rest⟩
    · rintro ⟨apart, own_later, rest⟩
      exact ⟨fun other member => (List.forall_mem_cons.mp (apart other member)).1,
        ⟨fun other member => (List.forall_mem_cons.mp (apart other member)).2, own_later⟩, rest⟩

section Names

variable {γ δ : Type} [DecidableEq δ] {name : β → δ} {known : β → Prop}

/-- One item has the cells of another one, by their names. -/
structure Alike (cells : α → List β) (others : γ → List δ) (name : β → δ) (known : β → Prop) (item : α)
    (other : γ) : Prop where
  same : others other = (cells item).map name
  known : ∀ cell ∈ cells item, known cell

variable (injective : ∀ cell other, known cell → known other → name cell = name other → cell = other)
variable {cells : α → List β} {others : γ → List δ}
include injective

private theorem covered_map {items : List α} {named : List γ}
    (alike : List.Forall₂ (Alike cells others name known) items named) {cell : β} (own : known cell) :
    covered others named (name cell) = covered cells items cell := by
  induction alike with
  | nil => rfl
  | cons first rest ih =>
    rename_i item other items named
    have member : name cell ∈ others other ↔ cell ∈ cells item := by
      rw [first.same, List.mem_map]
      constructor
      · rintro ⟨twin, member, same⟩
        rwa [← injective twin cell (first.known twin member) own same]
      · exact fun member => ⟨cell, member, rfl⟩
    unfold covered at ih ⊢
    rw [List.any_cons, List.any_cons, ih, decide_eq_decide.mpr member]

private theorem repeats_map {earlier items : List α} {earlier_named named : List γ}
    (before : List.Forall₂ (Alike cells others name known) earlier earlier_named)
    (alike : List.Forall₂ (Alike cells others name known) items named) :
    repeats others earlier_named named = (repeats cells earlier items).map name := by
  induction alike generalizing earlier earlier_named with
  | nil => rfl
  | cons first rest ih =>
    have onward := ih (List.rel_append before (.cons first .nil))
    rw [repeats, repeats, List.map_append, onward, first.same, List.filter_map]
    congr 2
    exact List.filter_congr fun cell member => covered_map injective before (first.known cell member)

end Names

end Repeats

private theorem eraseDups_map {α β : Type} [DecidableEq α] [DecidableEq β] (name : α → β) {items : List α}
    (injective : ∀ item ∈ items, ∀ other ∈ items, name item = name other → item = other) :
    (items.map name).eraseDups = items.eraseDups.map name := by
  induction size : items.length using Nat.strongRecOn generalizing items with
  | ind length ih =>
    cases items with
    | nil => rfl
    | cons item items =>
      have others : (items.map name).filter (fun other => !other == name item) =
          (items.filter fun other => !other == item).map name := by
        rw [List.filter_map]
        refine congrArg _ (List.filter_congr fun other member => ?_)
        have same : (name other == name item) = (other == item) := by
          rw [Bool.eq_iff_iff, beq_iff_eq, beq_iff_eq]
          exact ⟨injective _ (List.mem_cons_of_mem _ member) _ (List.mem_cons_self ..), congrArg name⟩
        simp only [Function.comp_apply, same]
      have short : (items.filter fun other => !other == item).length < length := by
        rw [← size]
        exact Nat.lt_succ_of_le (List.length_filter_le _ _)
      have apart (other : α) (member : other ∈ items.filter fun other => !other == item) :
          other ∈ item :: items := List.mem_cons_of_mem _ (List.mem_filter.mp member).1
      rw [List.map_cons, List.eraseDups_cons, List.eraseDups_cons, List.map_cons, others,
        ih _ short (fun other member another among => injective _ (apart _ member) _ (apart _ among)) rfl]

private theorem nodup_eraseDups {α : Type} [DecidableEq α] (items : List α) : items.eraseDups.Nodup := by
  induction size : items.length using Nat.strongRecOn generalizing items with
  | ind length ih =>
    cases items with
    | nil => exact List.nodup_nil
    | cons item items =>
      have short : (items.filter fun other => !other == item).length < length := by
        rw [← size]
        exact Nat.lt_succ_of_le (List.length_filter_le _ _)
      rw [List.eraseDups_cons]
      exact List.nodup_cons.mpr ⟨by simp, ih _ short _ rfl⟩

/-- What a rule leads from: any state, or one of those it lists. -/
inductive Source where
  | any
  | state (name : String)
  deriving DecidableEq

def Source.label : Source → String
  | .any => "*"
  | .state name => name

/-- The sources of a rule as they are listed. -/
def Sources.listed : Sources → List Source
  | .any => [.any]
  | .states names => names.map .state

namespace Rule

/-- Whether a rule is for an event and has this among its sources. -/
def covers (rule : Rule) (source : Source) (event : String) : Bool :=
  rule.event = event && source ∈ rule.sources.listed

/-- What a rule covers, each source once. -/
def cells (rule : Rule) : List (Source × String) := rule.sources.listed.eraseDups.map (·, rule.event)

theorem mem_cells_iff {rule : Rule} {source : Source} {event : String} :
    (source, event) ∈ rule.cells ↔ rule.covers source event = true := by
  simp [cells, covers, and_comm]

private theorem nodup_cells (rule : Rule) : rule.cells.Nodup := by
  have injective : Function.Injective fun source : Source => (source, rule.event) :=
    fun _ _ same => (Prod.mk.inj same).1
  exact (nodup_eraseDups _).map injective

end Rule

/-- What rules cover that an earlier rule covers already, rule by rule. -/
def Definition.repeatedCells (definition : Definition) : List (Source × String) :=
  repeats Rule.cells [] definition.rules

def ResolvedRule.cells (rule : ResolvedRule) : List (Row × EventId) := rule.rows.map (·, rule.event)

theorem ResolvedRule.mem_cells_iff {rule : ResolvedRule} {row : Row} {event : EventId} :
    (row, event) ∈ rule.cells ↔ rule.writes row event = true := by
  simp only [cells, writes, List.mem_map, Prod.mk.injEq, decide_eq_true_eq]
  constructor
  · rintro ⟨own, member, rfl, same⟩
    exact ⟨member, same.symm⟩
  · rintro ⟨member, same⟩
    exact ⟨row, member, rfl, same.symm⟩

/-- The report of a cell that was written before. -/
def Table.repetition (table : Table) (cell : Row × EventId) : Problem :=
  .repeatedRule (table.eventLabel cell.2) (table.rowLabel cell.1)

private theorem Table.repetition_congr {table other : Table} (states : table.states = other.states)
    (events : table.events = other.events) : table.repetition = other.repetition := by
  funext ⟨row, event⟩
  cases row <;> simp only [repetition, eventLabel, eventName?, event?, rowLabel, stateLabel, stateName?,
    states, events]

namespace Filling

variable {filling : Filling}

private theorem put_repeated (own : EventId) (target : StateId) (row : Row) :
    (filling.put own target row).repeated = filling.repeated ++
      if (filling.table.rule? row own).isSome then [filling.table.repetition (row, own)] else [] := by
  have label := Table.repetition_congr (filling.table.states_insert row own target)
    (filling.table.events_insert row own target)
  rw [← label, ← Table.insert_snd filling.table row own target]
  rfl

private theorem putRule_repeated (complete : filling.table.Complete) {rule : ResolvedRule}
    (distinct : rule.rows.Nodup) (fits : filling.Fits rule) :
    (filling.putRule rule).repeated = filling.repeated ++
      (rule.cells.filter fun cell => (filling.table.rule? cell.1 cell.2).isSome).map
        filling.table.repetition := by
  obtain ⟨own, rows, target⟩ := rule
  unfold putRule
  induction rows generalizing filling with
  | nil => simp [ResolvedRule.cells]
  | cons first rows ih =>
    obtain ⟨apart, distinct⟩ := List.nodup_cons.mp distinct
    obtain ⟨⟨slot, known⟩, fits⟩ := List.forall_mem_cons.mp fits
    have put := put_extends complete own target first
    -- The rows are distinct, so that none of the others is written with the first one.
    have reads : ∀ cell ∈ ResolvedRule.cells ⟨own, rows, target⟩,
        ((filling.put own target first).table.rule? cell.1 cell.2).isSome =
          (filling.table.rule? cell.1 cell.2).isSome := by
      intro cell member
      obtain ⟨row, among, rfl⟩ := List.mem_map.mp member
      have other : row ≠ first := fun same => apart (same ▸ among)
      have read := complete.rule?_insert first own target known row own
      simp only [other, false_and, if_false] at read
      exact congrArg Option.isSome read
    have fits_rest : Filling.Fits (filling.put own target first) ⟨own, rows, target⟩ := put.fits fits
    have rest := ih put.complete distinct fits_rest
    rw [List.foldl_cons, rest, List.filter_congr reads, put_repeated,
      Table.repetition_congr put.states put.events, List.append_assoc]
    congr 1
    by_cases taken : (filling.table.rule? first own).isSome = true <;> simp [ResolvedRule.cells, taken]

/-- Rules repeat the cells that rules before them have written. -/
theorem putRules_repeated (complete : filling.table.Complete) {earlier rules : List ResolvedRule}
    (distinct : ∀ rule ∈ rules, rule.rows.Nodup) (fits : ∀ rule ∈ rules, filling.Fits rule)
    (written : ∀ cell, (filling.table.rule? cell.1 cell.2).isSome = covered ResolvedRule.cells earlier cell) :
    (filling.putRules rules).repeated =
      filling.repeated ++ (repeats ResolvedRule.cells earlier rules).map filling.table.repetition := by
  unfold putRules
  induction rules generalizing filling earlier with
  | nil => simp [repeats]
  | cons rule rules ih =>
    obtain ⟨own_distinct, distinct⟩ := List.forall_mem_cons.mp distinct
    obtain ⟨own_fits, fits⟩ := List.forall_mem_cons.mp fits
    have put : filling.Extends (filling.putRule rule) :=
      (putRows_extends complete rule.target own_fits).1
    have written_on : ∀ cell, ((filling.putRule rule).table.rule? cell.1 cell.2).isSome =
        covered ResolvedRule.cells (earlier ++ [rule]) cell := by
      rintro ⟨row, event⟩
      have read := (putRows_extends complete rule.target own_fits).2 row event
      have own : (row, event) ∈ rule.cells ↔ row ∈ rule.rows ∧ event = rule.event := by
        rw [ResolvedRule.mem_cells_iff, ResolvedRule.writes, decide_eq_true_eq]
      refine (congrArg Option.isSome read).trans ?_
      rw [covered_snoc, ← written]
      by_cases member : (row, event) ∈ rule.cells
      · rw [if_pos (own.mp member)]
        simp [member]
      · rw [if_neg (member ∘ own.mpr)]
        simp [member]
    have rest := ih put.complete distinct (fun later member => put.fits (fits later member)) written_on
    rw [List.foldl_cons, rest, putRule_repeated complete own_distinct own_fits, repeats, List.map_append,
      List.append_assoc, Table.repetition_congr put.states put.events]
    simp only [written]

end Filling

/-- The source that a row stands for. -/
def Table.source (table : Table) : Row → Source
  | .state state => .state (table.stateLabel state)
  | .wildcard => .any

/-- A cell by the names of its row and its event. -/
def Table.cellName (table : Table) (cell : Row × EventId) : Source × String :=
  (table.source cell.1, table.eventLabel cell.2)

namespace Table

variable {table : Table}

/-- A row and an event that the table has. -/
def HasCell (table : Table) (cell : Row × EventId) : Prop := ∃ slot, table.slot? cell.1 cell.2 = some slot

private theorem repetition_eq (cell : Row × EventId) : table.repetition cell =
    .repeatedRule (table.cellName cell).2 (table.cellName cell).1.label := by
  obtain ⟨row, event⟩ := cell
  cases row <;> rfl

private theorem Regular.stateLabel_inj (regular : table.Regular) {state other : StateId}
    (known : state.index < table.states.length) (known_too : other.index < table.states.length)
    (same : table.stateLabel state = table.stateLabel other) : state = other := by
  have named : table.stateName? state = some (table.stateLabel state) := by
    simp [stateLabel, stateName?, known]
  have named_too : table.stateName? other = some (table.stateLabel other) := by
    simp [stateLabel, stateName?, known_too]
  rw [← same] at named_too
  have found := regular.stateId?_eq_some_iff.mpr named
  exact Option.some.inj (found.symm.trans (regular.stateId?_eq_some_iff.mpr named_too))

private theorem Regular.eventLabel_inj (regular : table.Regular) {event other : EventId}
    (known : event.index < table.events.length) (known_too : other.index < table.events.length)
    (same : table.eventLabel event = table.eventLabel other) : event = other := by
  have named : table.eventName? event = some (table.eventLabel event) := by
    simp [eventLabel, eventName?, event?, known]
  have named_too : table.eventName? other = some (table.eventLabel other) := by
    simp [eventLabel, eventName?, event?, known_too]
  rw [← same] at named_too
  have found := regular.eventId?_eq_some_iff.mpr named
  exact Option.some.inj (found.symm.trans (regular.eventId?_eq_some_iff.mpr named_too))

private theorem Regular.source_inj (regular : table.Regular) {row other : Row} {index another : Nat}
    (known : table.rowIndex? row = some index) (known_too : table.rowIndex? other = some another)
    (same : table.source row = table.source other) : row = other := by
  cases row with
  | wildcard =>
    cases other with
    | wildcard => rfl
    | state other => cases same
  | state state =>
    cases other with
    | wildcard => cases same
    | state other =>
      obtain ⟨here, small⟩ := rowIndex?_state_eq_some_iff.mp known
      obtain ⟨there, small_too⟩ := rowIndex?_state_eq_some_iff.mp known_too
      rw [regular.stateLabel_inj (here ▸ small) (there ▸ small_too) (Source.state.inj same)]

/-- No two cells of a table have the same name. -/
theorem Regular.cellName_inj (regular : table.Regular) (cell other : Row × EventId)
    (known : table.HasCell cell) (known_too : table.HasCell other)
    (same : table.cellName cell = table.cellName other) : cell = other := by
  obtain ⟨_, place⟩ := known
  obtain ⟨_, place_too⟩ := known_too
  obtain ⟨column, _, line, _⟩ := slot?_eq_some_iff.mp place
  obtain ⟨column_too, _, line_too, _⟩ := slot?_eq_some_iff.mp place_too
  obtain ⟨sources, events⟩ := Prod.mk.inj same
  exact Prod.ext (regular.source_inj line line_too sources) (regular.eventLabel_inj column column_too events)

end Table

namespace Definition

variable {definition : Definition}

private theorem checkRule_eq_ok {rule : Rule} {resolved : ResolvedRule}
    (checked : definition.checkRule rule = .ok resolved) :
    definition.eventId? rule.event = some resolved.event ∧
      definition.checkTarget rule = .ok resolved.target ∧
      definition.checkSources rule = .ok resolved.rows := by
  unfold checkRule at checked
  split at checked
  · cases checked
  · rename_i event known
    obtain ⟨⟨target, rows⟩, both, rfl⟩ := Except.map_eq_ok_iff.mp checked
    exact ⟨known, Checked.both_eq_ok_iff.mp both⟩

private theorem checkSource_rows (regular : definition.blank.Regular) (rule : Rule) {names : List String}
    {rows : List Row} (each : names.map (definition.checkSource rule) = rows.map .ok) :
    rows.map definition.blank.source = names.map .state ∧
      ∀ row ∈ rows, ∃ index, definition.blank.rowIndex? row = some index := by
  induction names generalizing rows with
  | nil =>
    cases rows with
    | nil => simp
    | cons row rows => cases each
  | cons name names ih =>
    cases rows with
    | nil => cases each
    | cons row rows =>
      obtain ⟨first, rest⟩ := List.cons.inj each
      obtain ⟨state, found, rfl⟩ := checkSource_eq_ok_iff.mp first
      obtain ⟨named, known⟩ := ih rest
      have label := (stateId?_eq_some_iff regular rfl).mp found
      have line : definition.blank.rowIndex? (.state state) = some state.index :=
        Table.rowIndex?_state_eq_some_iff.mpr ⟨rfl, stateId?_lt found⟩
      refine ⟨?_, List.forall_mem_cons.mpr ⟨⟨_, line⟩, known⟩⟩
      simp [named, Table.source, Table.stateLabel, label]

private theorem checkRule_nodup {rule : Rule} {resolved : ResolvedRule}
    (checked : definition.checkRule rule = .ok resolved) : resolved.rows.Nodup := by
  obtain ⟨_, _, listed⟩ := checkRule_eq_ok checked
  unfold checkSources at listed
  split at listed
  · rw [← Except.ok.inj listed]
    exact List.nodup_singleton _
  · obtain ⟨rows, _, same⟩ := Except.map_eq_ok_iff.mp listed
    rw [← same]
    exact nodup_eraseDups rows

private theorem checkSources_rows (regular : definition.blank.Regular) {rule : Rule} {rows : List Row}
    (checked : definition.checkSources rule = .ok rows) :
    rule.sources.listed.eraseDups = rows.map definition.blank.source := by
  unfold checkSources at checked
  split at checked
  · rename_i any
    cases checked
    rw [any]
    rfl
  · rename_i names listed
    obtain ⟨rows, all, rfl⟩ := Except.map_eq_ok_iff.mp checked
    obtain ⟨named, known⟩ := checkSource_rows regular rule (Checked.all_eq_ok_iff.mp all)
    rw [listed, Sources.listed, ← named]
    refine eraseDups_map _ fun row member other among same => ?_
    obtain ⟨_, line⟩ := known row member
    obtain ⟨_, line_too⟩ := known other among
    exact regular.source_inj line line_too same

private theorem checkRule_cells (regular : definition.blank.Regular) {rule : Rule} {resolved : ResolvedRule}
    (checked : definition.checkRule rule = .ok resolved) :
    Alike ResolvedRule.cells Rule.cells definition.blank.cellName definition.blank.HasCell resolved rule := by
  obtain ⟨known, _, listed⟩ := checkRule_eq_ok checked
  have sources := checkSources_rows regular listed
  have label : definition.blank.eventLabel resolved.event = rule.event := by
    simp [Table.eventLabel, (eventId?_eq_some_iff regular rfl).mp known]
  refine ⟨?_, fun cell member => ?_⟩
  · simp [Rule.cells, ResolvedRule.cells, sources, Table.cellName, label]
  · obtain ⟨row, among, rfl⟩ := List.mem_map.mp member
    exact (checkRule_resolves checked).fits [] row among

/-- What is written more than once into the table are the cells that resolved rules have in common. -/
theorem fill_repeats {resolved : List ResolvedRule} (checked : definition.check = .ok resolved) :
    (definition.fill resolved).repeated =
      (repeats ResolvedRule.cells [] resolved).map definition.blank.repetition := by
  have distinct : ∀ rule ∈ resolved, rule.rows.Nodup := by
    intro rule member
    obtain ⟨_, _, own⟩ := check_mem checked member
    exact checkRule_nodup own
  have empty (cell : Row × EventId) : (definition.blank.rule? cell.1 cell.2).isSome =
      covered ResolvedRule.cells [] cell := by
    rw [rule?_blank]
    rfl
  exact Filling.putRules_repeated (Table.complete_blank _ _ _) distinct (check_fits checked) empty

/-- With an id for every name, it is what rules cover more than once. -/
theorem fill_repeated {resolved : List ResolvedRule} (checked : definition.check = .ok resolved)
    (regular : definition.blank.Regular) : (definition.fill resolved).repeated =
      definition.repeatedCells.map fun (source, event) => .repeatedRule event source.label := by
  have cells : List.Forall₂ (Alike ResolvedRule.cells Rule.cells definition.blank.cellName
      definition.blank.HasCell) resolved definition.rules :=
    (check_forall₂ checked).flip.imp fun _ _ own => checkRule_cells regular own
  rw [fill_repeats checked, repeatedCells, repeats_map regular.cellName_inj .nil cells, List.map_map]
  exact List.map_congr_left fun cell _ => Table.repetition_eq cell

/-- The modes differ in nothing but what they do with repeated cells. -/
theorem compile_strict_eq {resolved : List ResolvedRule} (checked : definition.check = .ok resolved) :
    definition.compile .strict = if (definition.fill resolved).repeated = [] then
      definition.compile .permissive else .error (definition.fill resolved).repeated := by
  simp only [compile, checked]
  by_cases none : (definition.fill resolved).repeated = [] <;> simp [none, bind, Except.bind]

/-- No cell is repeated exactly if no two rules cover the same source and event. -/
theorem repeatedCells_eq_nil_iff : definition.repeatedCells = [] ↔
    definition.rules.Pairwise fun first second =>
      ∀ source event, ¬ (first.covers source event = true ∧ second.covers source event = true) := by
  rw [repeatedCells, repeats_eq_nil_iff]
  simp [Rule.mem_cells_iff]

theorem compile_strict_eq_ok_iff (states_fit : definition.states.length ≤ UInt32.size)
    (events_fit : definition.events.length ≤ UInt32.size) {compilation : Compilation} :
    definition.compile .strict = .ok compilation ↔
      definition.compile .permissive = .ok compilation ∧ definition.repeatedCells = [] := by
  cases checked : definition.check with
  | error problems => simp [compile, checked, bind, Except.bind]
  | ok resolved =>
    have regular := blank_regular (check_eq_ok_iff.mp checked).1 states_fit events_fit
    simp only [compile_strict_eq checked, fill_repeated checked regular, List.map_eq_nil_iff]
    by_cases none : definition.repeatedCells = [] <;> simp [none]

end Definition

/-- The rules of a crowded definition are for different states. -/
theorem Crowded.apart {last : Nat} {first second : Nat × Nat} (apart : first.1 ≠ second.1) :
    (Crowded.definition last first second).rules.Pairwise fun first second =>
      ∀ source event, ¬ (first.covers source event = true ∧ second.covers source event = true) := by
  refine List.pairwise_pair.mpr fun source event both => apart (name_injective ?_)
  simp only [Rule.covers, rule, Rule.fromStates, Rule.toState, Sources.ofNames, Sources.listed, List.map_cons,
    List.map_nil, List.mem_singleton, Bool.and_eq_true, decide_eq_true_eq] at both
  exact Source.state.inj (both.1.2.symm.trans both.2.2)

end StateMachine

import Mathlib.Data.List.Forall2
import Mathlib.Tactic.MkIffOfInductiveProp
import StateMachine.Definition.Form
import StateMachine.Proofs.Fields

namespace StateMachine

def Rule.fieldNames : List String := ["name", "payload", "from", "to"]

def Definition.fieldNames : List String := ["name", "states", "events"]

inductive Rule.PayloadGiven : Option Json → Option String → Prop where
  | absent : PayloadGiven none none
  | null : PayloadGiven (some .null) none
  | text {payload : String} : PayloadGiven (some (.string payload)) (some payload)

/-- Any state is meant by the mark alone, but not by a list with the mark in it. -/
inductive Rule.SourcesGiven : Option Json → Sources → Prop where
  | absent : SourcesGiven none .any
  | null : SourcesGiven (some .null) .any
  | mark : SourcesGiven (some (.string "*")) .any
  | name {name : String} (plain : name ≠ "*") : SourcesGiven (some (.string name)) (.states [name])
  | empty : SourcesGiven (some (.array [])) .any
  | names {names : List String} (nonempty : names ≠ []) :
    SourcesGiven (some (Json.strings names)) (.states names)

inductive Rule.TargetGiven : Option Json → String → Prop where
  | absent : TargetGiven none ""
  | text {target : String} : TargetGiven (some (.string target)) target

/-- A value that describes a rule. -/
@[mk_iff]
structure Rule.DescribedBy (rule : Rule) (value : Json) : Prop where
  record : value.IsRecord Rule.fieldNames
  event : value.field? 0 "name" = some (.string rule.event)
  payload : Rule.PayloadGiven (value.field? 1 "payload") rule.payload
  sources : Rule.SourcesGiven (value.field? 2 "from") rule.sources
  target : Rule.TargetGiven (value.field? 3 "to") rule.target

inductive Definition.RulesGiven : Option Json → List Rule → Prop where
  | absent : RulesGiven none []
  | listed {rules : List Rule} {items : List Json}
    (each : List.Forall₂ (fun item rule => rule.DescribedBy item) items rules) :
    RulesGiven (some (.array items)) rules

theorem Definition.rulesGiven_some_iff {value : Json} {rules : List Rule} :
    Definition.RulesGiven (some value) rules ↔
      ∃ items, value = .array items ∧ List.Forall₂ (fun item rule => rule.DescribedBy item) items rules :=
  ⟨fun | .listed each => ⟨_, rfl, each⟩, fun ⟨_, same, each⟩ => same ▸ .listed each⟩

/-- A value that describes a definition. -/
@[mk_iff]
structure Definition.DescribedBy (definition : Definition) (value : Json) : Prop where
  record : value.IsRecord Definition.fieldNames
  name : value.field? 0 "name" = some (.string definition.name)
  states : value.field? 1 "states" = some (Json.strings definition.states)
  rules : Definition.RulesGiven (value.field? 2 "events") definition.rules

/-- Whether one of the rules that are given has two members for a field. -/
def Definition.RulesRepeat (given : Option Json) : Prop :=
  ∃ items, given = some (.array items) ∧ ∃ item ∈ items, item.Repeats Rule.fieldNames

/-- Rules that can be read where they are given. -/
structure Definition.RulesReadable (given : Option Json) (rules : List Rule) : Prop where
  described : Definition.RulesGiven given rules
  once : ¬ Definition.RulesRepeat given

/-- Whether an object that stands for a definition or for one of its rules has two members for a field. -/
def Definition.Repeats (value : Json) : Prop :=
  value.Repeats Definition.fieldNames ∨ Definition.RulesRepeat (value.field? 2 "events")

section

variable {value : Json}

private theorem Document.readString_ofJson_iff {text : String} :
    Document.readString (.ofJson value) = .ok text ↔ value = .string text := by
  cases value with
  | string other => exact ⟨fun | rfl => rfl, fun | rfl => rfl⟩
  | _ => constructor <;> nofun

private theorem Rule.readTarget_ofJson_iff {target : String} :
    Document.readString (.ofJson value) = .ok target ↔ Rule.TargetGiven (some value) target := by
  rw [Document.readString_ofJson_iff]
  exact ⟨fun same => same ▸ .text, fun | .text => rfl⟩

private theorem Rule.readPayload_ofJson_iff {payload : Option String} :
    Document.readOption Document.readString (.ofJson value) = .ok payload ↔
      Rule.PayloadGiven (some value) payload := by
  cases value with
  | null => exact ⟨fun | rfl => .null, fun | .null => rfl⟩
  | string text => exact ⟨fun | rfl => .text, fun | .text => rfl⟩
  | _ => constructor <;> nofun

variable {α : Type} {read : Document → Except ReadError α} {values : List α}

private theorem Document.mapM_ofItems_iff {items : List Json} :
    (Document.ofItems items).mapM read = .ok values ↔
      List.Forall₂ (fun item value => read (.ofJson item) = .ok value) items values := by
  induction items generalizing values with
  | nil => simp [Document.ofItems, eq_comm]
  | cons item items ih =>
    simp only [Document.ofItems, List.mapM_cons, Except.bind_eq_ok_iff, ih, Except.pure_eq_ok,
      Except.ok.injEq, List.forall₂_cons_left_iff]
    constructor
    · rintro ⟨first, own, rest, others, rfl⟩
      exact ⟨first, rest, own, others, rfl⟩
    · rintro ⟨first, rest, own, others, rfl⟩
      exact ⟨first, own, rest, others, rfl⟩

private theorem Document.readList_ofJson_iff :
    Document.readList read (.ofJson value) = .ok values ↔
      ∃ items, value = .array items ∧
        List.Forall₂ (fun item value => read (.ofJson item) = .ok value) items values := by
  cases value with
  | array items =>
    simp [Document.ofJson, Document.readList, Document.readItems, Except.bind_eq_ok_iff,
      Document.mapM_ofItems_iff]
  | _ => simp [Document.ofJson, Document.readList]

theorem Json.forall₂_eq_string_iff {items : List Json} {names : List String} :
    List.Forall₂ (fun item name => item = .string name) items names ↔ items = names.map .string := by
  rw [← List.forall₂_map_right_iff (f := Json.string), List.forall₂_eq_eq_eq]

private theorem Document.readNames_ofJson_iff {names : List String} :
    Document.readList Document.readString (.ofJson value) = .ok names ↔ value = Json.strings names := by
  simp only [Document.readList_ofJson_iff, Document.readString_ofJson_iff, Json.forall₂_eq_string_iff,
    Json.strings, exists_eq_right]

theorem Sources.read_ofJson_iff {sources : Sources} :
    Sources.read (.ofJson value) = .ok sources ↔ Rule.SourcesGiven (some value) sources := by
  cases value with
  | null => exact ⟨fun | rfl => .null, fun | .null => rfl⟩
  | string name =>
    by_cases mark : name = "*"
    · subst name
      exact ⟨fun | rfl => .mark, fun | .mark => rfl | .name plain => absurd rfl plain⟩
    · have plain : Sources.ofName name = .states [name] := if_neg mark
      have read : Sources.read (.ofJson (.string name)) = .ok (.states [name]) := congrArg Except.ok plain
      rw [read]
      exact ⟨fun | rfl => .name mark, fun | .mark => absurd rfl mark | .name _ => rfl⟩
  | array items =>
    have read : Sources.read (.ofJson (.array items)) =
        (Document.readList Document.readString (.ofJson (.array items))).map Sources.ofNames := rfl
    simp only [read, Except.map_eq_ok_iff, Document.readNames_ofJson_iff]
    constructor
    · rintro ⟨names, listed, rfl⟩
      rw [listed]
      cases names with
      | nil => exact .empty
      | cons name names => exact .names nofun
    · intro given
      cases given with
      | empty => exact ⟨[], rfl, rfl⟩
      | @names names nonempty =>
        obtain ⟨name, others, rfl⟩ := List.exists_cons_of_ne_nil nonempty
        exact ⟨name :: others, rfl, rfl⟩
  | _ => constructor <;> nofun

end

private theorem Rule.form_lawful : Rule.form.Lawful where
  distinct := by decide
  commutes := by
    simp only [Rule.form, List.pairwise_cons, List.forall_mem_cons]
    refine ⟨⟨?_, ?_, ?_, nofun⟩, ⟨?_, ?_, nofun⟩, ⟨?_, nofun⟩, nofun, .nil⟩
    all_goals exact Field.commutes_of_put (fun _ _ => rfl) (fun _ _ => rfl) fun _ _ _ => rfl

private theorem Definition.form_lawful (origin : Origin) : (Definition.form origin).Lawful where
  distinct := by
    show Definition.fieldNames.Nodup
    decide
  commutes := by
    simp only [Definition.form, List.pairwise_cons, List.forall_mem_cons]
    refine ⟨⟨?_, ?_, nofun⟩, ⟨?_, nofun⟩, nofun, .nil⟩
    all_goals exact Field.commutes_of_put (fun _ _ => rfl) (fun _ _ => rfl) fun _ _ _ => rfl

/-- A rule is read from the values that describe it and repeat no field. -/
theorem Rule.read_ofJson_iff {origin : Origin} {value : Json} {rule : Rule} :
    Rule.form.read origin (.ofJson value) = .ok rule ↔
      rule.DescribedBy value ∧ ¬ value.Repeats Rule.fieldNames := by
  rw [Form.read_eq_ok_iff Rule.form_lawful]
  refine and_congr_left fun _ => ?_
  have untagged {payload : Option String} : Rule.PayloadGiven none payload ↔ payload = none :=
    ⟨fun | .absent => rfl, fun same => same ▸ .absent⟩
  have unbound {sources : Sources} : Rule.SourcesGiven none sources ↔ sources = .any :=
    ⟨fun | .absent => rfl, fun same => same ▸ .absent⟩
  have unaimed {target : String} : Rule.TargetGiven none target ↔ target = "" :=
    ⟨fun | .absent => rfl, fun same => same ▸ .absent⟩
  constructor
  · rintro ⟨record, ⟨needed, -⟩, _, named, _, tagged, _, sourced, _, aimed, rfl⟩
    obtain ⟨event, event_given, rfl⟩ :=
      (Field.takes_required_iff (fun _ => rfl) Document.readString_ofJson_iff (needed rfl)).mp named
    obtain ⟨payload, payload_given, rfl⟩ :=
      (Field.takes_optional_iff (fun _ => rfl) Rule.readPayload_ofJson_iff untagged (by rfl)).mp tagged
    obtain ⟨sources, sources_given, rfl⟩ :=
      (Field.takes_optional_iff (fun _ => rfl) Sources.read_ofJson_iff unbound (by rfl)).mp sourced
    obtain ⟨target, target_given, rfl⟩ :=
      (Field.takes_optional_iff (fun _ => rfl) Rule.readTarget_ofJson_iff unaimed (by rfl)).mp aimed
    exact ⟨record, event_given, payload_given, sources_given, target_given⟩
  · rintro ⟨record, event, payload, sources, target⟩
    have needed : (value.field? 0 "name").isSome = true := Option.isSome_of_eq_some event
    -- The rules in between have the fields that have been filled so far, and the defaults of the others.
    refine ⟨record, ⟨fun _ => needed, nofun, nofun, nofun, trivial⟩,
      Rule.on rule.event, ?_, { rule with sources := .any, target := "" }, ?_,
      { rule with target := "" }, ?_, rule, ?_, rfl⟩
    · exact (Field.takes_required_iff (fun _ => rfl) Document.readString_ofJson_iff needed).mpr
        ⟨_, event, rfl⟩
    · exact (Field.takes_optional_iff (fun _ => rfl) Rule.readPayload_ofJson_iff untagged (by rfl)).mpr
        ⟨_, payload, rfl⟩
    · exact (Field.takes_optional_iff (fun _ => rfl) Sources.read_ofJson_iff unbound (by rfl)).mpr
        ⟨_, sources, rfl⟩
    · exact (Field.takes_optional_iff (fun _ => rfl) Rule.readTarget_ofJson_iff unaimed (by rfl)).mpr
        ⟨_, target, rfl⟩

private theorem Rule.readList_ofJson_iff {origin : Origin} {value : Json} {rules : List Rule} :
    Document.readList (Rule.form.read origin) (.ofJson value) = .ok rules ↔
      Definition.RulesReadable (some value) rules := by
  have each {items : List Json} :
      List.Forall₂ (fun item rule => Rule.form.read origin (.ofJson item) = .ok rule) items rules ↔
        (∀ item ∈ items, ¬ item.Repeats Rule.fieldNames) ∧
          List.Forall₂ (fun item rule => rule.DescribedBy item) items rules := by
    simp only [Rule.read_ofJson_iff, and_comm, List.forall₂_and_left]
  rw [Document.readList_ofJson_iff]
  constructor
  · rintro ⟨items, rfl, read⟩
    obtain ⟨once, described⟩ := each.mp read
    refine ⟨.listed described, ?_⟩
    rintro ⟨_, same, item, among, repeats⟩
    cases same
    exact once item among repeats
  · rintro ⟨given, once⟩
    cases given with
    | @listed _ items described =>
      refine ⟨items, rfl, each.mpr ⟨fun item among repeats => ?_, described⟩⟩
      exact once ⟨items, rfl, item, among, repeats⟩

/-- A definition is read from the values that describe it and repeat no field. -/
theorem Definition.read_ofJson_iff {origin : Origin} {value : Json} {definition : Definition} :
    (Definition.form origin).read origin (.ofJson value) = .ok definition ↔
      definition.DescribedBy value ∧ ¬ Definition.Repeats value := by
  rw [Form.read_eq_ok_iff (Definition.form_lawful origin)]
  have unruled {rules : List Rule} : Definition.RulesReadable none rules ↔ rules = [] := by
    constructor
    · rintro ⟨⟨⟩, _⟩
      rfl
    · rintro rfl
      exact ⟨.absent, fun ⟨_, given, _⟩ => nomatch given⟩
  constructor
  · rintro ⟨⟨record, ⟨needs_name, needs_states, -⟩, _, named, _, peopled, _, ruled, rfl⟩, once⟩
    obtain ⟨name, name_given, rfl⟩ :=
      (Field.takes_required_iff (fun _ => rfl) Document.readString_ofJson_iff (needs_name rfl)).mp named
    obtain ⟨states, states_given, rfl⟩ :=
      (Field.takes_required_iff (fun _ => rfl) Document.readNames_ofJson_iff (needs_states rfl)).mp peopled
    obtain ⟨rules, ⟨rules_given, once_each⟩, rfl⟩ :=
      (Field.takes_optional_iff (fun _ => rfl) Rule.readList_ofJson_iff unruled (by rfl)).mp ruled
    exact ⟨⟨record, name_given, states_given, rules_given⟩, not_or.mpr ⟨once, once_each⟩⟩
  · rintro ⟨⟨record, name, states, rules⟩, unrepeated⟩
    obtain ⟨once, once_each⟩ := not_or.mp unrepeated
    have needs_name : (value.field? 0 "name").isSome = true := Option.isSome_of_eq_some name
    have needs_states : (value.field? 1 "states").isSome = true := Option.isSome_of_eq_some states
    refine ⟨⟨record, ⟨fun _ => needs_name, fun _ => needs_states, nofun, trivial⟩,
      { name := definition.name, states := [] }, ?_, { definition with rules := [] }, ?_,
      definition, ?_, rfl⟩, once⟩
    · exact (Field.takes_required_iff (fun _ => rfl) Document.readString_ofJson_iff needs_name).mpr
        ⟨_, name, rfl⟩
    · exact (Field.takes_required_iff (fun _ => rfl) Document.readNames_ofJson_iff needs_states).mpr
        ⟨_, states, rfl⟩
    · exact (Field.takes_optional_iff (fun _ => rfl) Rule.readList_ofJson_iff unruled (by rfl)).mpr
        ⟨_, ⟨rules, once_each⟩, rfl⟩

theorem Definition.not_repeats {value : Json} (distinct : value.Distinct) : ¬ Definition.Repeats value := by
  rintro (twice | ⟨items, given, item, among, twice⟩)
  · exact distinct.not_repeats _ twice
  · cases distinct.of_field?_eq_some given with
    | array each => exact (each item among).not_repeats _ twice

/-- The same rules, each of them written in any way. -/
inductive Definition.SameRules : Option Json → Option Json → Prop where
  | same {given : Option Json} : SameRules given given
  | listed {items others : List Json} (each : List.Forall₂ (Json.SameRecord Rule.fieldNames) items others) :
    SameRules (some (.array items)) (some (.array others))

/-- Values that hold the same definition, however it and its rules are written. -/
structure Definition.SameContent (value other : Json) : Prop where
  record : value.IsRecord Definition.fieldNames
  record_too : other.IsRecord Definition.fieldNames
  name : value.field? 0 "name" = other.field? 0 "name"
  states : value.field? 1 "states" = other.field? 1 "states"
  rules : Definition.SameRules (value.field? 2 "events") (other.field? 2 "events")

theorem Definition.SameRules.symm {given other : Option Json} (same : Definition.SameRules given other) :
    Definition.SameRules other given := by
  cases same with
  | same => exact .same
  | listed each => exact .listed (each.flip.imp fun _ _ => Json.SameRecord.symm)

theorem Definition.SameContent.symm {value other : Json} (same : Definition.SameContent value other) :
    Definition.SameContent other value :=
  ⟨same.record_too, same.record, same.name.symm, same.states.symm, same.rules.symm⟩

private theorem Definition.SameContent.of_sameRecord {value other : Json}
    (same : value.SameRecord Definition.fieldNames other) : Definition.SameContent value other := by
  have fields := same.contents
  simp only [Json.contents, Definition.fieldNames, List.mapIdx_cons, List.cons.injEq] at fields
  obtain ⟨name, states, rules, -⟩ := fields
  exact ⟨same.record, same.record_too, name, states, rules ▸ .same⟩

private theorem Rule.DescribedBy.transfer {rule : Rule} {value other : Json}
    (described : rule.DescribedBy value)
    (same : value.SameRecord Rule.fieldNames other) : rule.DescribedBy other := by
  have fields := same.contents
  simp only [Json.contents, Rule.fieldNames, List.mapIdx_cons, List.cons.injEq] at fields
  obtain ⟨event, payload, sources, target, -⟩ := fields
  exact ⟨same.record_too, event ▸ described.event, payload ▸ described.payload, sources ▸ described.sources,
    target ▸ described.target⟩

private theorem Definition.RulesGiven.transfer {given other : Option Json} {rules : List Rule}
    (described : Definition.RulesGiven given rules) (same : Definition.SameRules given other) :
    Definition.RulesGiven other rules := by
  cases same with
  | same => exact described
  | listed alike =>
    cases described with
    | listed each =>
      refine .listed ?_
      induction alike generalizing rules with
      | nil => exact each
      | cons own _ ih =>
        cases each with
        | cons first rest => exact .cons (first.transfer own) (ih rest)

private theorem Definition.DescribedBy.transfer {definition : Definition} {value other : Json}
    (described : definition.DescribedBy value) (same : Definition.SameContent value other) :
    definition.DescribedBy other where
  record := same.record_too
  name := same.name ▸ described.name
  states := same.states ▸ described.states
  rules := described.rules.transfer same.rules

/-- What is accepted as a definition is what the grammar says, and in what way the content of a definition
is written makes no difference: objects may have their members in any order and among others, and records
may be lists instead. -/
theorem grammar_of_definitions :
    (∀ value definition, Definition.ofJson value = .ok definition ↔
      definition.DescribedBy value ∧ ¬ Definition.Repeats value) ∧
    (∀ value, value.Distinct → ∀ definition,
      Definition.ofJson value = .ok definition ↔ definition.DescribedBy value) ∧
    (∀ value other, value.Distinct → other.Distinct → Definition.SameContent value other →
      ∀ definition, Definition.ofJson value = .ok definition ↔ Definition.ofJson other = .ok definition) ∧
    (∀ value other, value.SameRecord Definition.fieldNames other → Definition.SameContent value other) ∧
    (∀ names members others, (members.map Prod.fst).Nodup → (others.map Prod.fst).Nodup →
      (∀ name ∈ names, ∀ part, (name, part) ∈ members ↔ (name, part) ∈ others) →
      (Json.object members).SameRecord names (.object others)) ∧
    (∀ names items, names.Nodup → items.length ≤ names.length →
      (Json.array items).SameRecord names (.object (names.zip items))) := by
  have accepted (value : Json) (definition : Definition) : Definition.ofJson value = .ok definition ↔
      definition.DescribedBy value ∧ ¬ Definition.Repeats value := Definition.read_ofJson_iff
  have described {value : Json} (distinct : value.Distinct) (definition : Definition) :
      Definition.ofJson value = .ok definition ↔ definition.DescribedBy value := by
    rw [accepted, and_iff_left (Definition.not_repeats distinct)]
  refine ⟨accepted, fun value distinct => described distinct, ?_, fun _ _ => .of_sameRecord,
    fun _ _ _ => Json.sameRecord_of_members, fun _ _ => Json.sameRecord_of_list⟩
  intro value other distinct distinct_too same definition
  rw [described distinct, described distinct_too]
  exact ⟨fun first => first.transfer same, fun second => second.transfer same.symm⟩

namespace Definition

/-- An object with its fields out of order and a member that is no field; its rule is a list. -/
def shuffled : Json :=
  .object [("events", .array [.array [.string "go", .null, .string "a", .string "b"]]), ("version", .nat 2),
    ("states", Json.strings ["a", "b"]), ("name", .string "m")]

/-- A list, with an object for the rule. -/
def listed : Json :=
  .array [.string "m", Json.strings ["a", "b"],
    .array [.object (Rule.fieldNames.zip [.string "go", .null, .string "a", .string "b"])]]

end Definition

theorem shuffled_definition_is_read :
    Definition.shuffled.Distinct ∧ Definition.listed.Distinct ∧
      Definition.SameContent Definition.shuffled Definition.listed ∧
      Definition.ofJson Definition.shuffled =
        .ok ⟨"m", ["a", "b"], [{ event := "go", sources := .states ["a"], target := "b" }]⟩ := by
  obtain ⟨-, -, alike, -, -, of_list⟩ := grammar_of_definitions
  have names_distinct (names : List String) : (Json.strings names).Distinct := by
    refine .array fun item among => ?_
    obtain ⟨name, _, rfl⟩ := List.mem_map.mp among
    exact .string
  have distinct : Definition.shuffled.Distinct := by
    refine .object (by decide) ?_
    simp only [List.forall_mem_cons]
    refine ⟨.array ?_, .number, names_distinct _, .string, List.forall_mem_nil _⟩
    simp only [List.forall_mem_cons]
    refine ⟨.array ?_, List.forall_mem_nil _⟩
    simp only [List.forall_mem_cons]
    exact ⟨.string, .null, .string, .string, List.forall_mem_nil _⟩
  have distinct_too : Definition.listed.Distinct := by
    refine .array ?_
    simp only [List.forall_mem_cons]
    refine ⟨.string, names_distinct _, .array ?_, List.forall_mem_nil _⟩
    simp only [List.forall_mem_cons]
    refine ⟨.object (by decide) ?_, List.forall_mem_nil _⟩
    simp only [Rule.fieldNames, List.zip_cons_cons, List.forall_mem_cons]
    exact ⟨.string, .null, .string, .string, List.forall_mem_nil _⟩
  have rule := of_list Rule.fieldNames [.string "go", .null, .string "a", .string "b"] (by decide) (by decide)
  have same : Definition.SameContent Definition.shuffled Definition.listed :=
    ⟨.object, .list (by decide), rfl, rfl, .listed (.cons rule .nil)⟩
  refine ⟨distinct, distinct_too, same, ?_⟩
  exact (alike _ _ distinct distinct_too same _).mpr rfl

end StateMachine

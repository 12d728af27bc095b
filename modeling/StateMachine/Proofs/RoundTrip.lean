import StateMachine.Definition.Compilation
import StateMachine.Definition.Form
import StateMachine.Proofs.Form
import StateMachine.Proofs.Printed

/-!
Definitions written as JSON and read back. What is read is the definition that was written, but that a
rule without any source then applies from any state.
-/
namespace StateMachine

/-- The same sources, but no source at all stands for any state. -/
def Sources.normal : Sources → Sources
  | .any => .any
  | .states names => .ofNames names

def Rule.normal (rule : Rule) : Rule := { rule with sources := rule.sources.normal }

def Definition.normal (definition : Definition) : Definition :=
  { definition with rules := definition.rules.map Rule.normal }

private theorem Sources.normal_eq_self_iff {sources : Sources} :
    sources.normal = sources ↔ sources ≠ .states [] := by
  cases sources with
  | any => simp [normal]
  | states names => cases names <;> simp [normal, ofNames]

private theorem Rule.normal_eq_self_iff {rule : Rule} : rule.normal = rule ↔ rule.sources ≠ .states [] := by
  rw [← Sources.normal_eq_self_iff]
  obtain ⟨event, payload, sources, target⟩ := rule
  simp [normal]

private theorem Definition.normal_eq_self_iff {definition : Definition} :
    definition.normal = definition ↔ ∀ rule ∈ definition.rules, rule.sources ≠ .states [] := by
  obtain ⟨name, states, rules⟩ := definition
  have same := List.map_inj_left (l := rules) (f := Rule.normal) (g := id)
  rw [List.map_id] at same
  simpa [normal, Rule.normal_eq_self_iff] using same

section Written

variable {origin outer : Origin}

theorem Sources.read_toJson (sources : Sources) :
    Sources.read (.ofJson sources.toJson) = .ok sources.normal := by
  cases sources with
  | any => rfl
  | states names =>
    match names with
    | [] => rfl
    | [name] =>
      by_cases star : name = "*"
      · subst star
        rfl
      · simp [toJson, star, Document.ofJson, read, ofName, normal, ofNames]
    | name :: other :: names =>
      have listed := Document.readItems_strings (name :: other :: names)
      exact congrArg (Except.map ofNames) listed

private theorem Sources.value_toJson (sources : Sources) (levels : Nat) :
    (Document.ofJson sources.toJson).toJson (levels + 1) = .ok sources.toJson := by
  cases sources with
  | any => rfl
  | states names =>
    match names with
    | [] => rfl
    | [name] =>
      by_cases star : name = "*"
      · subst star
        rfl
      · simp only [toJson, star, if_false]
        rfl
    | name :: other :: names =>
      have listed := Document.itemsToJson_strings levels (name :: other :: names)
      simp only [toJson, Json.strings, Document.ofJson, Document.toJson, listed]
      rfl

private theorem Json.legible_strings (texts : List String) : (Json.strings texts).Legible := by
  refine .array fun item member => ?_
  obtain ⟨text, _, rfl⟩ := List.mem_map.mp member
  exact .string

theorem Sources.legible_toJson (sources : Sources) : sources.toJson.Legible := by
  unfold toJson
  split
  · exact .string
  · split
    · exact Json.legible_strings _
    · exact .string
  · exact Json.legible_strings _

namespace Rule

theorem read_toJson (rule : Rule) : form.read origin (.ofJson rule.toJson) = .ok rule.normal := by
  obtain ⟨event, payload, sources, target⟩ := rule
  have listed := sources.read_toJson
  cases payload <;>
    simp [toJson, Document.ofJson, Document.ofMembers, Form.read, Form.readMembers, form, on,
      Document.readOption, listed, normal]

/-- The value of a rule, the members of which are sorted by name. -/
def sorted (rule : Rule) : Json :=
  .object ([("from", rule.sources.toJson), ("name", .string rule.event)] ++
    (rule.payload.toList.map fun payload => ("payload", .string payload)) ++
    [("to", .string rule.target)])

private theorem read_sorted (rule : Rule) : form.read origin (.ofJson rule.sorted) = .ok rule.normal := by
  obtain ⟨event, payload, sources, target⟩ := rule
  have listed := sources.read_toJson
  cases payload <;>
    simp [sorted, Document.ofJson, Document.ofMembers, Form.read, Form.readMembers, form, on,
      Document.readOption, listed, normal]

private theorem value_toJson (rule : Rule) (levels : Nat) :
    (Document.ofJson rule.toJson).toJson (levels + 2) = .ok rule.sorted := by
  obtain ⟨event, payload, sources, target⟩ := rule
  have listed := sources.value_toJson levels
  cases payload <;>
    simp only [toJson, sorted, Option.toList, List.map, List.cons_append, List.nil_append, Document.ofJson,
      Document.ofMembers, Document.toJson, Document.membersToJson, Document.memberName_string, listed,
      Except.ok_bind, Except.map_of_ok, Except.pure_eq_ok, Document.unlessBroken_none, Document.putMember,
      String.reduceLT, String.reduceEq, reduceIte]

theorem legible_toJson (rule : Rule) : rule.toJson.Legible := by
  refine .object fun member among => ?_
  simp only [List.mem_append, List.mem_map, List.mem_cons, List.not_mem_nil, or_false] at among
  rcases among with (rfl | ⟨payload, _, rfl⟩) | rfl | rfl
  · exact .string
  · exact .string
  · exact rule.sources.legible_toJson
  · exact .string

end Rule

namespace Definition

variable (definition : Definition)

theorem read_toJson : (form origin).read outer (.ofJson definition.toJson) = .ok definition.normal := by
  have states := Document.readItems_strings definition.states
  have each (rule : Rule) : Rule.form.read origin (.ofJson rule.toJson) = .ok rule.normal := rule.read_toJson
  have rules := Document.readItems_written fun rule (_ : rule ∈ definition.rules) => each rule
  simp [toJson, Json.strings, Document.ofJson, Document.ofMembers, Form.read, Form.readMembers, form,
    Document.readList, states, rules, normal]

/-- The value of a definition, the members of which are sorted by name. -/
def sorted : Json :=
  .object [("events", .array (definition.rules.map Rule.sorted)), ("name", .string definition.name),
    ("states", Json.strings definition.states)]

private theorem read_sorted :
    (form origin).read outer (.ofJson definition.sorted) = .ok definition.normal := by
  have states := Document.readItems_strings definition.states
  have each (rule : Rule) : Rule.form.read origin (.ofJson rule.sorted) = .ok rule.normal := rule.read_sorted
  have rules := Document.readItems_written fun rule (_ : rule ∈ definition.rules) => each rule
  simp [sorted, Json.strings, Document.ofJson, Document.ofMembers, Form.read, Form.readMembers, form,
    Document.readList, states, rules, normal]

private theorem value_toJson (levels : Nat) :
    (Document.ofJson definition.toJson).toJson (levels + 4) = .ok definition.sorted := by
  have states := Document.itemsToJson_strings (levels + 2) definition.states
  have each (rule : Rule) : (Document.ofJson rule.toJson).toJson (levels + 2) = .ok rule.sorted :=
    rule.value_toJson levels
  have rules := Document.itemsToJson_written each definition.rules
  simp only [toJson, sorted, Json.strings, Document.ofJson, Document.ofMembers, Document.toJson,
    Document.membersToJson, Document.memberName_string, states, rules, Except.ok_bind, Except.map_of_ok,
    Except.pure_eq_ok, Document.unlessBroken_none, Document.putMember, String.reduceLT, String.reduceEq,
    reduceIte]

theorem legible_toJson : definition.toJson.Legible := by
  refine .object fun member among => ?_
  simp only [List.mem_cons, List.not_mem_nil, or_false] at among
  rcases among with rfl | rfl | rfl
  · exact .string
  · exact Json.legible_strings _
  · refine .array fun item member => ?_
    obtain ⟨rule, _, rfl⟩ := List.mem_map.mp member
    exact rule.legible_toJson

private theorem ofJson_toJson : ofJson definition.toJson = .ok definition.normal := definition.read_toJson

theorem ofText_text : ofText definition.text = .ok definition.normal := by
  simp [ofText, readText, text, Document.ofText_text definition.legible_toJson, read_toJson]

/-- The text of a definition stands for its value with sorted members. -/
theorem parse_text : Json.parse definition.text = .ok definition.sorted := by
  have value : (Document.ofJson definition.toJson).toJson 127 = .ok definition.sorted :=
    definition.value_toJson 123
  simp [Json.parse, text, Document.ofText_text definition.legible_toJson, value]

private theorem ofJson_sorted : ofJson definition.sorted = .ok definition.normal := definition.read_sorted

end Definition

end Written

section Read

private theorem Sources.read_listed {document : Document} {sources : Sources}
    (read : Sources.read document = .ok sources) : sources ≠ .states [] := by
  unfold Sources.read at read
  split at read
  · cases read
    simp
  · obtain ⟨name, _, rfl⟩ := Except.map_eq_ok_iff.mp read
    unfold ofName
    split <;> simp
  · obtain ⟨names, _, rfl⟩ := Except.map_eq_ok_iff.mp read
    cases names <;> simp [ofNames]
  · cases read

private theorem Rule.read_listed {origin : Origin} {document : Document} {rule : Rule}
    (read : Rule.form.read origin document = .ok rule) : rule.sources ≠ .states [] := by
  have keeps : ∀ field ∈ form.fields, field.Keeps fun rule => rule.sources ≠ .states [] := by
    intro field member before document after start filled
    simp only [form, List.mem_cons, List.not_mem_nil, or_false] at member
    rcases member with rfl | rfl | rfl | rfl
    · obtain ⟨_, _, rfl⟩ := Except.map_eq_ok_iff.mp filled
      exact start
    · obtain ⟨_, _, rfl⟩ := Except.map_eq_ok_iff.mp filled
      exact start
    · obtain ⟨sources, read, rfl⟩ := Except.map_eq_ok_iff.mp filled
      exact Sources.read_listed read
    · obtain ⟨_, _, rfl⟩ := Except.map_eq_ok_iff.mp filled
      exact start
  exact Form.read_keeps keeps (by simp [form, on]) read

private theorem Definition.read_listed {origin outer : Origin} {document : Document}
    {definition : Definition}
    (read : (Definition.form origin).read outer document = .ok definition) :
    ∀ rule ∈ definition.rules, rule.sources ≠ .states [] := by
  have keeps : ∀ field ∈ (form origin).fields,
      field.Keeps fun definition => ∀ rule ∈ definition.rules, rule.sources ≠ .states [] := by
    intro field member before document after start filled
    simp only [form, List.mem_cons, List.not_mem_nil, or_false] at member
    rcases member with rfl | rfl | rfl
    · obtain ⟨_, _, rfl⟩ := Except.map_eq_ok_iff.mp filled
      exact start
    · obtain ⟨_, _, rfl⟩ := Except.map_eq_ok_iff.mp filled
      exact start
    · obtain ⟨rules, listed, rfl⟩ := Except.map_eq_ok_iff.mp filled
      exact Document.readList_keeps Rule.read_listed listed
  exact Form.read_keeps keeps (by simp [form]) read

end Read

/-- As a value and as a text, a definition is read back as it was written, but that a rule without any
source then applies from any state. A definition that was read has no such rule: it stays as it is, and so
does what it compiles to. -/
theorem definition_reads_back (definition : Definition) :
    (Definition.ofJson definition.toJson = .ok definition.normal ∧
      Definition.ofText definition.text = .ok definition.normal ∧
      ∃ value, Json.parse definition.text = .ok value ∧
        Definition.ofJson value = .ok definition.normal) ∧
    ((Definition.ofJson definition.toJson = .ok definition ↔
        ∀ rule ∈ definition.rules, rule.sources ≠ .states []) ∧
      (Definition.ofText definition.text = .ok definition ↔
        ∀ rule ∈ definition.rules, rule.sources ≠ .states [])) ∧
    (∀ (index : Nat) rule, definition.rules[index]? = some rule → rule.sources = .states ["*"] →
      definition.normal.rules[index]? = some rule) ∧
    ((∃ value, Definition.ofJson value = .ok definition) ∨
        (∃ text, Definition.ofText text = .ok definition) →
      definition.normal = definition ∧
      Definition.ofJson definition.toJson = .ok definition ∧
      Definition.ofText definition.text = .ok definition ∧
      ∀ strictness,
        (Definition.ofJson definition.toJson).map (·.compile strictness) =
          .ok (definition.compile strictness) ∧
        (Definition.ofText definition.text).map (·.compile strictness) =
          .ok (definition.compile strictness)) := by
  have value := definition.ofJson_toJson
  have text := definition.ofText_text
  refine ⟨⟨value, text, definition.sorted, definition.parse_text, definition.ofJson_sorted⟩, ⟨?_, ?_⟩, ?_, ?_⟩
  · rw [value, Except.ok.injEq, Definition.normal_eq_self_iff]
  · rw [text, Except.ok.injEq, Definition.normal_eq_self_iff]
  · intro index rule found star
    have same : rule.normal = rule := Rule.normal_eq_self_iff.mpr (by simp [star])
    simp [Definition.normal, found, same]
  · intro read
    have listed : ∀ rule ∈ definition.rules, rule.sources ≠ .states [] := by
      rcases read with ⟨source, read⟩ | ⟨source, read⟩
      · exact Definition.read_listed read
      · exact Definition.read_listed (readText_eq_ok read)
    have same := Definition.normal_eq_self_iff.mpr listed
    rw [value, text, same]
    exact ⟨rfl, rfl, rfl, fun strictness => ⟨rfl, rfl⟩⟩

end StateMachine

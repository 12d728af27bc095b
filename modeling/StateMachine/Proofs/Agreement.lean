import StateMachine.Proofs.Grammar
import StateMachine.Proofs.Scanned

/-!
Texts and values agree: from a text a definition is read as from the value of the text, unless a field of the
definition or of one of its rules is repeated, which the value does not tell.
-/
namespace StateMachine

/-- A value that only it settles to. -/
def Json.Steady (value : Json) : Prop := ∀ other : Json, other.settle = value ↔ other = value

private theorem Json.steady_null : Json.null.Steady := by
  intro other
  cases other <;> simp [settle]

private theorem Json.steady_string (text : String) : (Json.string text).Steady := by
  intro other
  cases other <;> simp [settle]

private theorem Json.steady_strings (texts : List String) : (Json.strings texts).Steady := by
  intro other
  have each {items : List Json} : items.map settle = texts.map .string ↔ items = texts.map .string := by
    rw [← Json.forall₂_eq_string_iff, List.forall₂_map_left_iff]
    simp only [Json.steady_string _ _, Json.forall₂_eq_string_iff]
  cases other with
  | array items => rw [settle, settleItems_eq_map, strings, array.injEq, array.injEq, each]
  | _ => simp [settle, strings]

section

variable {value : Json} {given : Option Json}

private theorem Json.map_settle_eq_some_iff (steady : value.Steady) :
    given.map Json.settle = some value ↔ given = some value := by
  cases given with
  | none => exact Iff.rfl
  | some other => rw [Option.map_some, Option.some.injEq, Option.some.injEq, steady]

/-- What is given by a steady value is given by what settles to the value. -/
theorem Json.described_settle_iff {β : Type} {described : Option Json → β → Prop} {part : β}
    (steady : ∀ {value : Json}, described (some value) part → value.Steady) :
    described (given.map Json.settle) part ↔ described given part := by
  cases given with
  | none => exact Iff.rfl
  | some value =>
    rw [Option.map_some]
    constructor
    · intro own
      rwa [← ((steady own) value).mp rfl] at own
    · intro own
      rwa [((steady own) value).mpr rfl]

private theorem Rule.payloadGiven_settle_iff {payload : Option String} :
    Rule.PayloadGiven (given.map Json.settle) payload ↔ Rule.PayloadGiven given payload :=
  Json.described_settle_iff fun
    | .null => Json.steady_null
    | .text => Json.steady_string _

private theorem Rule.sourcesGiven_settle_iff {sources : Sources} :
    Rule.SourcesGiven (given.map Json.settle) sources ↔ Rule.SourcesGiven given sources :=
  Json.described_settle_iff fun
    | .null => Json.steady_null
    | .mark | .name _ => Json.steady_string _
    | .empty => Json.steady_strings []
    | .names _ => Json.steady_strings _

private theorem Rule.targetGiven_settle_iff {target : String} :
    Rule.TargetGiven (given.map Json.settle) target ↔ Rule.TargetGiven given target :=
  Json.described_settle_iff fun
    | .text => Json.steady_string _

private theorem Rule.describedBy_settle_iff {rule : Rule} :
    rule.DescribedBy value.settle ↔ rule.DescribedBy value := by
  simp only [Rule.describedBy_iff, Json.isRecord_settle_iff, Json.field?_settle, Rule.payloadGiven_settle_iff,
    Rule.sourcesGiven_settle_iff, Rule.targetGiven_settle_iff,
    Json.map_settle_eq_some_iff (Json.steady_string _)]

private theorem Definition.rulesGiven_settle_iff {rules : List Rule} :
    Definition.RulesGiven (given.map Json.settle) rules ↔ Definition.RulesGiven given rules := by
  rcases given with _ | value
  · exact Iff.rfl
  rw [Option.map_some, Definition.rulesGiven_some_iff, Definition.rulesGiven_some_iff]
  cases value with
  | array items =>
    simp only [Json.settle, Json.settleItems_eq_map, Json.array.injEq, exists_eq_left',
      List.forall₂_map_left_iff, Rule.describedBy_settle_iff]
  | _ => simp [Json.settle]

private theorem Definition.describedBy_settle_iff {definition : Definition} :
    definition.DescribedBy value.settle ↔ definition.DescribedBy value := by
  simp only [Definition.describedBy_iff, Json.isRecord_settle_iff, Json.field?_settle,
    Definition.rulesGiven_settle_iff, Json.map_settle_eq_some_iff (Json.steady_string _),
    Json.map_settle_eq_some_iff (Json.steady_strings _)]

end

/-- A text from which a value is parsed is the text of a tree that settles to it. From such a text a
definition is read exactly if it is read from the value and no field is repeated in the tree. -/
theorem texts_agree_with_values {text : String} {value : Json} (parsed : Json.parse text = .ok value) :
    ∃ tree : Json, Document.ofText text = (.ofJson tree, false) ∧ value = tree.settle ∧
      ∀ definition, Definition.ofText text = .ok definition ↔
        Definition.ofJson value = .ok definition ∧ ¬ Definition.Repeats tree := by
  obtain ⟨tree, scanned, rfl⟩ := Json.exists_tree_of_parse parsed
  refine ⟨tree, scanned, rfl, fun definition => ?_⟩
  have from_text : Definition.ofText text = .ok definition ↔
      definition.DescribedBy tree ∧ ¬ Definition.Repeats tree := by
    rw [Definition.ofText, readText_of_scanned scanned, Definition.read_ofJson_iff]
  have from_value : Definition.ofJson tree.settle = .ok definition ↔ definition.DescribedBy tree := by
    rw [Definition.ofJson, Definition.read_ofJson_iff, Definition.describedBy_settle_iff,
      and_iff_left (Definition.not_repeats tree.settle_distinct)]
  rw [from_text, from_value]

/-- A text with space and with two members of one name, once with an escape, for what is no field. -/
def Definition.spacedText : String :=
  "\x7b\"\\/\":null, \"name\":\"m\",\"states\":[\"a\"],\"/\":[]\x7d"

def Definition.spacedDocument : Document :=
  .record [(.string (.ok "/") none, .literal (.ok .null)), (.string (.ok "name") none, .string (.ok "m") none),
    (.string (.ok "states") none, .list [.string (.ok "a") none] none),
    (.string (.ok "/") none, .list [] none)] none

def Definition.spacedValue : Json :=
  .object [("/", .array []), ("name", .string "m"), ("states", Json.strings ["a"])]

theorem spaced_text_agrees_with_value :
    Json.parse Definition.spacedText = .ok Definition.spacedValue ∧
      ∃ tree : Json, Document.ofText Definition.spacedText = (.ofJson tree, false) ∧
        Definition.spacedValue = tree.settle ∧
        ∀ definition, Definition.ofText Definition.spacedText = .ok definition ↔
          Definition.ofJson Definition.spacedValue = .ok definition ∧ ¬ Definition.Repeats tree := by
  have scanned : Document.ofText Definition.spacedText = (Definition.spacedDocument, false) := by
    simp only [Definition.spacedText, Document.ofText, String.reduceToList]
    rfl
  have parsed : Json.parse Definition.spacedText = .ok Definition.spacedValue := by
    rw [Json.parse, scanned]
    rfl
  exact ⟨parsed, texts_agree_with_values parsed⟩

/-- A field that is repeated cannot be read from a text, but from its value. -/
example : (Definition.ofText "\x7b\"name\":\"m\",\"states\":[],\"states\":[]\x7d").toOption = none ∧
    ((Json.parse "\x7b\"name\":\"m\",\"states\":[],\"states\":[]\x7d").toOption.map Definition.ofJson) =
      some (.ok ⟨"m", [], []⟩) := by
  have scanned : Document.ofText "\x7b\"name\":\"m\",\"states\":[],\"states\":[]\x7d" =
      (.record [(.string (.ok "name") none, .string (.ok "m") none),
        (.string (.ok "states") none, .list [] none), (.string (.ok "states") none, .list [] none)] none,
        false) := by
    simp only [Document.ofText, String.reduceToList]
    rfl
  rw [Definition.ofText, readText_of_scanned scanned, Json.parse, scanned]
  exact ⟨rfl, rfl⟩

end StateMachine

import Mathlib.Data.List.Nodup
import StateMachine.Json

namespace StateMachine

namespace Json

/-- The value of a field: the member of its name in an object, and in a list the item in its place. -/
def field? (position : Nat) (name : String) : Json → Option Json
  | .array items => items[position]?
  | value => value.member? name

/-- What may stand for a record with fields of these names: an object, or a list of some of its fields from
the first one on. -/
inductive IsRecord (names : List String) : Json → Prop where
  | object {members : List (String × Json)} : IsRecord names (.object members)
  | list {items : List Json} (short : items.length ≤ names.length) : IsRecord names (.array items)

theorem isRecord_array_iff {names : List String} {items : List Json} :
    (Json.array items).IsRecord names ↔ items.length ≤ names.length :=
  ⟨fun | .list short => short, .list⟩

/-- Whether an object has two members for a field with one of these names. -/
def Repeats (names : List String) : Json → Prop
  | .object members => ∃ name ∈ names, 1 < (members.map Prod.fst).count name
  | _ => False

theorem member?_cons (name other : String) (value : Json) (members : List (String × Json)) :
    (Json.object ((other, value) :: members)).member? name =
      ((Json.object members).member? name).or (if name = other then some value else none) := by
  simp only [member?, List.reverse_cons, List.lookup_append, List.lookup_cons, List.lookup_nil]
  by_cases same : name = other
  · simp [same]
  · simp [same, beq_eq_false_iff_ne.mpr same]

theorem member?_eq_none_iff {name : String} {members : List (String × Json)} :
    (Json.object members).member? name = none ↔ name ∉ members.map Prod.fst := by
  induction members with
  | nil => simp [member?]
  | cons member members ih =>
    obtain ⟨other, value⟩ := member
    rw [member?_cons, Option.or_eq_none_iff, ih, List.map_cons, List.mem_cons, not_or, and_comm]
    simp

private theorem member?_eq_some_iff {name : String} {value : Json} {members : List (String × Json)}
    (distinct : (members.map Prod.fst).Nodup) :
    (Json.object members).member? name = some value ↔ (name, value) ∈ members := by
  induction members with
  | nil => simp [member?]
  | cons member members ih =>
    obtain ⟨other, held⟩ := member
    rw [List.map_cons, List.nodup_cons] at distinct
    rw [member?_cons, List.mem_cons, ← ih distinct.2]
    by_cases same : name = other
    · subst other
      simp [member?_eq_none_iff.mpr distinct.1, eq_comm]
    · simp [same]

/-- A value in which no object has two members of one name. -/
inductive Distinct : Json → Prop where
  | null : Distinct .null
  | bool {value : Bool} : Distinct (.bool value)
  | number {value : Number} : Distinct (.number value)
  | string {value : String} : Distinct (.string value)
  | array {items : List Json} (each : ∀ item ∈ items, Distinct item) : Distinct (.array items)
  | object {members : List (String × Json)} (names : (members.map Prod.fst).Nodup)
    (each : ∀ member ∈ members, Distinct member.2) : Distinct (.object members)

theorem Distinct.not_repeats {value : Json} (distinct : value.Distinct) (names : List String) :
    ¬ value.Repeats names := by
  cases distinct with
  | object once _ =>
    rintro ⟨name, _, twice⟩
    exact Nat.not_lt.mpr (List.nodup_iff_count_le_one.mp once name) twice
  | _ => exact id

theorem Distinct.of_field?_eq_some {value part : Json} (distinct : value.Distinct) {position : Nat}
    {name : String} (given : value.field? position name = some part) : part.Distinct := by
  cases distinct with
  | array each => exact each part (List.mem_of_getElem? given)
  | object once each => exact each _ ((member?_eq_some_iff once).mp given)
  | _ => cases given

/-- What a record holds for each of its fields. -/
def contents (names : List String) (value : Json) : List (Option Json) :=
  names.mapIdx fun position name => value.field? position name

/-- Records that hold the same for each of their fields, however they are written. -/
structure SameRecord (names : List String) (value other : Json) : Prop where
  record : value.IsRecord names
  record_too : other.IsRecord names
  contents : value.contents names = other.contents names

theorem SameRecord.symm {names : List String} {value other : Json} (same : value.SameRecord names other) :
    other.SameRecord names value :=
  ⟨same.record_too, same.record, same.contents.symm⟩

/-- The order of members does not matter, nor do members that are no fields. -/
theorem sameRecord_of_members {names : List String} {members others : List (String × Json)}
    (distinct : (members.map Prod.fst).Nodup) (distinct_too : (others.map Prod.fst).Nodup)
    (same : ∀ name ∈ names, ∀ part, (name, part) ∈ members ↔ (name, part) ∈ others) :
    (Json.object members).SameRecord names (.object others) where
  record := .object
  record_too := .object
  contents := by
    refine List.mapIdx_eq_mapIdx_iff.mpr fun position inside => ?_
    refine Option.ext fun part => ?_
    exact (member?_eq_some_iff distinct).trans <|
      (same _ (List.getElem_mem inside) part).trans (member?_eq_some_iff distinct_too).symm

private theorem member?_zip {names : List String} {items : List Json} (distinct : names.Nodup)
    {position : Nat} {name : String} (own : names[position]? = some name) :
    (Json.object (names.zip items)).member? name = items[position]? := by
  induction names generalizing items position with
  | nil => cases own
  | cons first names ih =>
    obtain ⟨fresh, distinct⟩ := List.nodup_cons.mp distinct
    cases items with
    | nil => rfl
    | cons item items =>
      rw [List.zip_cons_cons, member?_cons]
      cases position with
      | zero =>
        cases own
        have later : (Json.object (names.zip items)).member? name = none := by
          refine member?_eq_none_iff.mpr fun again => ?_
          obtain ⟨⟨_, part⟩, among, rfl⟩ := List.mem_map.mp again
          exact fresh (List.of_mem_zip among).1
        simp [later]
      | succ position =>
        have apart : name ≠ first := fun same => fresh (same ▸ List.mem_of_getElem? own)
        rw [if_neg apart, Option.or_none, ih distinct own, List.getElem?_cons_succ]

/-- A list of fields holds what the object does that names them. -/
theorem sameRecord_of_list {names : List String} {items : List Json} (distinct : names.Nodup)
    (short : items.length ≤ names.length) :
    (Json.array items).SameRecord names (.object (names.zip items)) where
  record := .list short
  record_too := .object
  contents := List.mapIdx_eq_mapIdx_iff.mpr fun _ inside =>
    (member?_zip distinct (List.getElem?_eq_getElem inside)).symm

end Json

end StateMachine

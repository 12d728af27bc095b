import Mathlib.Data.String.Basic
import StateMachine.Json.Document
import StateMachine.Proofs.Except
import StateMachine.Proofs.Record

/-!
Settled values: of the members of one name in an object only the last counts, and the order of members is
that of their names. What a document that breaks nowhere stands for is its value, settled.
-/
namespace StateMachine

namespace Json

open Document (putMember)

mutual

/-- The value with the last member of every name alone, in the order of names, in each of its objects. -/
def settle : Json → Json
  | .array items => .array (settleItems items)
  | .object members => .object (settleMembers [] members)
  | value => value

def settleItems : List Json → List Json
  | [] => []
  | item :: items => settle item :: settleItems items

def settleMembers (held : List (String × Json)) : List (String × Json) → List (String × Json)
  | [] => held
  | (name, value) :: members => settleMembers (putMember name (settle value) held) members

end

theorem settleItems_eq_map (items : List Json) : settleItems items = items.map settle := by
  induction items with
  | nil => rfl
  | cons item items ih => rw [settleItems, ih, List.map_cons]

/-- Members in the order of their names, each of which there is once. -/
def Sorted (members : List (String × Json)) : Prop := members.Pairwise fun one other => one.1 < other.1

variable {name other : String} {value : Json} {members held : List (String × Json)}

private theorem Sorted.nodup (sorted : Sorted members) : (members.map Prod.fst).Nodup :=
  List.pairwise_map.mpr (sorted.imp ne_of_lt)

private theorem eq_or_mem_of_putMember {member : String × Json}
    (among : member ∈ putMember name value members) :
    member = (name, value) ∨ member ∈ members := by
  induction members with
  | nil => exact .inl (List.mem_singleton.mp among)
  | cons first members ih =>
    rw [putMember] at among
    split at among
    · exact List.mem_cons.mp among
    · split at among
      · exact (List.mem_cons.mp among).imp_right (List.mem_cons_of_mem _)
      · rcases List.mem_cons.mp among with rfl | later
        · exact .inr (List.mem_cons_self ..)
        · exact (ih later).imp_right (List.mem_cons_of_mem _)

theorem Sorted.putMember (sorted : Sorted members) : Sorted (putMember name value members) := by
  induction members with
  | nil => exact List.pairwise_singleton ..
  | cons first members ih =>
    obtain ⟨before, rest⟩ := List.pairwise_cons.mp sorted
    rw [Document.putMember]
    split
    · rename_i less
      refine List.pairwise_cons.mpr ⟨List.forall_mem_cons.mpr ⟨less, ?_⟩, sorted⟩
      exact fun later among => less.trans (before later among)
    · rename_i not_less
      split
      · rename_i same
        exact List.pairwise_cons.mpr ⟨fun later among => same ▸ before later among, rest⟩
      · rename_i apart
        have greater : first.1 < name := lt_of_le_of_ne (not_lt.mp not_less) (Ne.symm apart)
        refine List.pairwise_cons.mpr ⟨fun later among => ?_, ih rest⟩
        rcases eq_or_mem_of_putMember among with rfl | among
        · exact greater
        · exact before later among

private theorem member?_eq_none_of_before (before : ∀ member ∈ members, name < member.1) :
    (Json.object members).member? name = none := by
  refine member?_eq_none_iff.mpr fun among => ?_
  obtain ⟨member, own, rfl⟩ := List.mem_map.mp among
  exact lt_irrefl _ (before member own)

private theorem member?_putMember (sorted : Sorted members) :
    (Json.object (putMember name value members)).member? other =
      if other = name then some value else (Json.object members).member? other := by
  induction members with
  | nil => rw [Document.putMember, member?_cons]; rfl
  | cons first members ih =>
    obtain ⟨first, part⟩ := first
    obtain ⟨before, rest⟩ := List.pairwise_cons.mp sorted
    rw [Document.putMember]
    by_cases less : name < first
    · have absent : (Json.object ((first, part) :: members)).member? name = none :=
        member?_eq_none_of_before (List.forall_mem_cons.mpr ⟨less, fun later among =>
          less.trans (before later among)⟩)
      rw [if_pos less, member?_cons]
      by_cases own : other = name
      · rw [own, absent, if_pos rfl, Option.none_or]
      · rw [if_neg own, if_neg own, Option.or_none]
    · rw [if_neg less]
      by_cases same : name = first
      · subst first
        rw [if_pos rfl, member?_cons, member?_cons]
        by_cases own : other = name
        · rw [own, member?_eq_none_of_before before, if_pos rfl, if_pos rfl, Option.none_or]
        · rw [if_neg own, if_neg own, if_neg own]
      · rw [if_neg same, member?_cons, ih rest, member?_cons]
        by_cases own : other = name
        · rw [if_pos own, if_pos own, Option.some_or]
        · rw [if_neg own, if_neg own]

private theorem settleMembers_sorted (sorted : Sorted held) : Sorted (settleMembers held members) := by
  induction members generalizing held with
  | nil => exact sorted
  | cons member members ih => exact ih sorted.putMember

private theorem member?_settleMembers (sorted : Sorted held) :
    (Json.object (settleMembers held members)).member? name =
      (((Json.object members).member? name).map settle).or ((Json.object held).member? name) := by
  induction members generalizing held with
  | nil => rfl
  | cons member members ih =>
    obtain ⟨other, value⟩ := member
    rw [settleMembers, ih sorted.putMember, member?_putMember sorted, member?_cons]
    cases (Json.object members).member? name with
    | some part => rfl
    | none =>
      by_cases own : name = other
      · simp [own]
      · simp [own]

/-- What a settled value holds for a field is what the value holds for it, settled. -/
theorem field?_settle (position : Nat) (name : String) (value : Json) :
    value.settle.field? position name = (value.field? position name).map settle := by
  cases value with
  | array items => rw [settle, settleItems_eq_map, field?, field?, List.getElem?_map]
  | object members => exact (member?_settleMembers .nil).trans (Option.or_none ..)
  | _ => rfl

theorem isRecord_settle_iff {names : List String} : value.settle.IsRecord names ↔ value.IsRecord names := by
  cases value with
  | array items =>
    rw [settle, settleItems_eq_map, isRecord_array_iff, isRecord_array_iff, List.length_map]
  | object members => exact ⟨fun _ => .object, fun _ => .object⟩
  | _ => exact Iff.rfl

mutual

theorem settle_distinct : ∀ value : Json, value.settle.Distinct
  | .null => .null
  | .bool _ => .bool
  | .number _ => .number
  | .string _ => .string
  | .array items => .array (settleItems_distinct items)
  | .object members => .object (settleMembers_sorted .nil).nodup (settleMembers_distinct members nofun)

private theorem settleItems_distinct : ∀ items : List Json, ∀ item ∈ settleItems items, item.Distinct
  | [] => nofun
  | item :: items => List.forall_mem_cons.mpr ⟨settle_distinct item, settleItems_distinct items⟩

private theorem settleMembers_distinct : ∀ (members : List (String × Json)) {held : List (String × Json)},
    (∀ member ∈ held, member.2.Distinct) → ∀ member ∈ settleMembers held members, member.2.Distinct
  | [], _, each => each
  | (name, value) :: members, held, each => by
    refine settleMembers_distinct members fun member among => ?_
    rcases eq_or_mem_of_putMember among with rfl | among
    · exact settle_distinct value
    · exact each member among

end

end Json

namespace Document

open Json in
mutual

/-- What the document of a value stands for, unless it is too deep, is the value, settled. -/
theorem toJson_ofJson_eq_ok : ∀ (value : Json) {levels : Nat} {result : Json},
    (ofJson value).toJson levels = .ok result → result = value.settle
  | .null, _, _, ok => by cases ok; rfl
  | .bool _, _, _, ok => by cases ok; rfl
  | .number _, _, _, ok => by cases ok; rfl
  | .string _, _, _, ok => by cases ok; rfl
  | .array _, 0, _, ok => by cases ok
  | .object _, 0, _, ok => by cases ok
  | .array items, levels + 1, _, ok => by
    obtain ⟨values, listed, ok⟩ := Except.bind_eq_ok_iff.mp ok
    cases ok
    rw [settle, itemsToJson_ofItems_eq_ok items listed]
  | .object members, levels + 1, _, ok => by
    obtain ⟨values, listed, ok⟩ := Except.bind_eq_ok_iff.mp ok
    cases ok
    rw [settle, membersToJson_ofMembers_eq_ok members listed]

private theorem itemsToJson_ofItems_eq_ok : ∀ (items : List Json) {levels : Nat} {values : List Json},
    itemsToJson levels (ofItems items) = .ok values → values = settleItems items
  | [], _, _, ok => by cases ok; rfl
  | item :: items, _, _, ok => by
    obtain ⟨value, first, ok⟩ := Except.bind_eq_ok_iff.mp ok
    obtain ⟨values, rest, ok⟩ := Except.bind_eq_ok_iff.mp ok
    cases ok
    rw [settleItems, toJson_ofJson_eq_ok item first, itemsToJson_ofItems_eq_ok items rest]

private theorem membersToJson_ofMembers_eq_ok : ∀ (members : List (String × Json)) {levels : Nat}
    {held values : List (String × Json)},
    membersToJson levels held (ofMembers members) = .ok values → values = settleMembers held members
  | [], _, _, _, ok => by cases ok; rfl
  | (name, value) :: members, _, _, _, ok => by
    obtain ⟨_, named, ok⟩ := Except.bind_eq_ok_iff.mp ok
    obtain ⟨settled, first, rest⟩ := Except.bind_eq_ok_iff.mp ok
    cases named
    rw [settleMembers, membersToJson_ofMembers_eq_ok members rest, toJson_ofJson_eq_ok value first]

end

end Document

end StateMachine

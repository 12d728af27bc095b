import StateMachine.Proofs.Form
import StateMachine.Proofs.Record

namespace StateMachine

namespace Document

open Json in
mutual

private theorem pass_ofJson : ∀ value : Json, (ofJson value).pass = .ok ()
  | .null => rfl
  | .bool _ => rfl
  | .number _ => rfl
  | .string _ => rfl
  | .array items => by
    rw [ofJson, pass, passItems_ofItems items]
    rfl
  | .object members => by
    rw [ofJson, pass, passMembers_ofMembers members]
    rfl

private theorem passItems_ofItems : ∀ items : List Json, passItems (ofItems items) = .ok ()
  | [] => rfl
  | item :: items => by
    rw [ofItems, passItems, pass_ofJson item]
    exact passItems_ofItems items

private theorem passMembers_ofMembers :
    ∀ members : List (String × Json), passMembers (ofMembers members) = .ok ()
  | [] => rfl
  | (name, value) :: members => by
    rw [ofMembers, passMembers, passName, unlessBroken_none, Except.ok_bind, pass_ofJson value]
    exact passMembers_ofMembers members

end

end Document

variable {α : Type}

/-- What becomes of a value when a field is filled, or left as it is where nothing is given for it. -/
def Field.Takes (field : Field α) : Option Json → α → α → Prop
  | none, before, after => after = before
  | some value, before, after => field.fill before (.ofJson value) = .ok after

section

variable {β : Type} {field : Field α} {read : Document → Except ReadError β} {put : β → α}
  {given : Option Json} {before after : α}

/-- A field that has to be given takes the only value that can be given for a part. -/
theorem Field.takes_required_iff {write : β → Json}
    (fill : ∀ document, field.fill before document = (read document).map put)
    (present : ∀ {value part}, read (.ofJson value) = .ok part ↔ value = write part)
    (needed : given.isSome = true) :
    field.Takes given before after ↔ ∃ part, given = some (write part) ∧ put part = after := by
  obtain ⟨value, rfl⟩ := Option.isSome_iff_exists.mp needed
  simp only [Takes, fill, Except.map_eq_ok_iff, present, Option.some.injEq]

/-- A field that may be left out takes what its part is described by, also when nothing is given for it. -/
theorem Field.takes_optional_iff {described : Option Json → β → Prop} {default : β}
    (fill : ∀ document, field.fill before document = (read document).map put)
    (present : ∀ {value part}, read (.ofJson value) = .ok part ↔ described (some value) part)
    (absent : ∀ {part}, described none part ↔ part = default) (unset : put default = before) :
    field.Takes given before after ↔ ∃ part, described given part ∧ put part = after := by
  cases given with
  | none => simp only [Takes, absent, exists_eq_left, unset, @eq_comm _ before after]
  | some value => simp only [Takes, fill, Except.map_eq_ok_iff, present]

end

/-- Two fields that may be filled in either order. -/
def Field.Commutes (first second : Field α) : Prop :=
  ∀ before one two after,
    (∃ between, first.fill before one = .ok between ∧ second.fill between two = .ok after) ↔
      ∃ between, second.fill before two = .ok between ∧ first.fill between one = .ok after

theorem Field.Commutes.symm {first second : Field α} (commutes : first.Commutes second) :
    second.Commutes first :=
  fun before one two after => (commutes before two one after).symm

/-- Fields commute if they put what they read into different parts of a value. -/
theorem Field.commutes_of_put {β γ : Type} {first second : Field α}
    {read : Document → Except ReadError β} {read_too : Document → Except ReadError γ}
    {put : α → β → α} {put_too : α → γ → α}
    (fill : ∀ before document, first.fill before document = (read document).map (put before))
    (fill_too : ∀ before document, second.fill before document = (read_too document).map (put_too before))
    (apart : ∀ before one two, put_too (put before one) two = put (put_too before two) one) :
    first.Commutes second := by
  intro before one two after
  simp only [fill, fill_too, Except.map_eq_ok_iff]
  constructor
  · rintro ⟨_, ⟨read_one, ok, rfl⟩, read_two, ok_too, rfl⟩
    exact ⟨_, ⟨read_two, ok_too, rfl⟩, read_one, ok, (apart before read_one read_two).symm⟩
  · rintro ⟨_, ⟨read_two, ok_too, rfl⟩, read_one, ok, rfl⟩
    exact ⟨_, ⟨read_one, ok, rfl⟩, read_two, ok_too, apart before read_one read_two⟩

theorem Field.Commutes.takes {first second : Field α} (commutes : first.Commutes second)
    {before after : α} {one : Json} {given : Option Json} :
    (∃ between, second.Takes given before between ∧ first.fill between (.ofJson one) = .ok after) ↔
      ∃ between, first.fill before (.ofJson one) = .ok between ∧ second.Takes given between after := by
  cases given with
  | some two => exact (commutes before (.ofJson one) (.ofJson two) after).symm
  | none =>
    simp only [Takes]
    exact ⟨fun ⟨_, same, own⟩ => ⟨after, same ▸ own, rfl⟩, fun ⟨_, own, same⟩ => ⟨before, rfl, same ▸ own⟩⟩

namespace Json

/-- Whether all fields that have to be given are. -/
def Completes (value : Json) : Nat → List (Field α) → Prop
  | _, [] => True
  | position, field :: fields =>
    (field.required = true → (value.field? position field.name).isSome = true) ∧
      value.Completes (position + 1) fields

/-- What a value makes of another one by filling fields, one after the other. -/
def Fills (value : Json) : Nat → List (Field α) → α → α → Prop
  | _, [], before, after => after = before
  | position, field :: fields, before, after => ∃ between,
    field.Takes (value.field? position field.name) before between ∧
      value.Fills (position + 1) fields between after

variable {fields : List (Field α)} {members others : List (String × Json)}

private theorem completes_object_iff {position : Nat} :
    (Json.object members).Completes position fields ↔
      ∀ field ∈ fields, field.required = true → field.name ∈ members.map Prod.fst := by
  induction fields generalizing position with
  | nil => simp [Completes]
  | cons field fields ih =>
    have given : ((Json.object members).field? position field.name).isSome = true ↔
        field.name ∈ members.map Prod.fst := by
      rw [Option.isSome_iff_ne_none, field?, ne_eq, member?_eq_none_iff, Decidable.not_not]
      exact nofun
    rw [Completes, ih, List.forall_mem_cons, given]

private theorem fills_object_nil_iff {position : Nat} {before after : α} :
    (Json.object []).Fills position fields before after ↔ after = before := by
  induction fields generalizing position with
  | nil => exact Iff.rfl
  | cons field fields ih =>
    have absent : (Json.object []).field? position field.name = none := rfl
    simp only [Fills, absent, Field.Takes, exists_eq_left, ih]

private theorem fills_object_congr {position : Nat} {before after : α}
    (same : ∀ field ∈ fields,
      (Json.object members).member? field.name = (Json.object others).member? field.name) :
    (Json.object members).Fills position fields before after ↔
      (Json.object others).Fills position fields before after := by
  induction fields generalizing position before with
  | nil => exact Iff.rfl
  | cons field fields ih =>
    obtain ⟨own, rest⟩ := List.forall_mem_cons.mp same
    simp only [Fills, field?, own]
    exact exists_congr fun between => and_congr_right fun _ => ih rest

end Json

/-- The first member of an object may be filled in when it is met or when it is its turn. -/
theorem Json.fills_object_cons {fields : List (Field α)} (distinct : (fields.map (·.name)).Nodup)
    (commutes : fields.Pairwise Field.Commutes) {field : Field α} (own : field ∈ fields) {value : Json}
    {members : List (String × Json)} (once : field.name ∉ members.map Prod.fst) {position : Nat}
    {before after : α} :
    (Json.object ((field.name, value) :: members)).Fills position fields before after ↔
      ∃ between, field.fill before (.ofJson value) = .ok between ∧
        (Json.object members).Fills position fields between after := by
  have later : (Json.object members).member? field.name = none := Json.member?_eq_none_iff.mpr once
  have other {name : String} (apart : name ≠ field.name) :
      (Json.object ((field.name, value) :: members)).member? name =
        (Json.object members).member? name := by
    rw [Json.member?_cons, if_neg apart, Option.or_none]
  induction fields generalizing position before with
  | nil => cases own
  | cons first fields ih =>
    obtain ⟨fresh, distinct⟩ := List.nodup_cons.mp distinct
    obtain ⟨commutes_first, commutes⟩ := List.pairwise_cons.mp commutes
    by_cases begins : first.name = field.name
    · have same : first = field := by
        rcases List.mem_cons.mp own with same | among
        · exact same.symm
        · exact absurd (List.mem_map.mpr ⟨field, among, begins.symm⟩) fresh
      subst first
      have rest {between : α} :
          (Json.object ((field.name, value) :: members)).Fills (position + 1) fields between after ↔
            (Json.object members).Fills (position + 1) fields between after :=
        Json.fills_object_congr fun another among => other fun same =>
          fresh (List.mem_map.mpr ⟨another, among, same⟩)
      have met : (Json.object ((field.name, value) :: members)).member? field.name = some value := by
        rw [Json.member?_cons, later, if_pos rfl]
        rfl
      simp only [Json.Fills, Json.field?, met, later, Field.Takes, rest, exists_eq_left]
    · have among : field ∈ fields := (List.mem_cons.mp own).resolve_left fun same => begins (same ▸ rfl)
      simp only [Json.Fills, Json.field?, other begins, ih distinct commutes among]
      have turn (between : α) :
          (∃ middle, first.Takes ((Json.object members).member? first.name) before middle ∧
            field.fill middle (.ofJson value) = .ok between) ↔
          ∃ middle, field.fill before (.ofJson value) = .ok middle ∧
            first.Takes ((Json.object members).member? first.name) middle between :=
        (commutes_first field among).symm.takes
      constructor
      · rintro ⟨_, taken, between, filled, rest⟩
        obtain ⟨middle, filled, taken⟩ := (turn between).mp ⟨_, taken, filled⟩
        exact ⟨middle, filled, between, taken, rest⟩
      · rintro ⟨_, filled, between, taken, rest⟩
        obtain ⟨middle, taken, filled⟩ := (turn between).mpr ⟨_, filled, taken⟩
        exact ⟨middle, taken, between, filled, rest⟩

namespace Form

def names (form : Form α) : List String := form.fields.map (·.name)

/-- A form whose fields have names of their own and may be filled in any order. -/
structure Lawful (form : Form α) : Prop where
  distinct : form.names.Nodup
  commutes : form.fields.Pairwise Field.Commutes

variable {form : Form α} {members : List (String × Json)}

theorem find?_eq_none_iff {name : String} :
    form.fields.find? (·.name = name) = none ↔ name ∉ form.names := by
  simp [names, List.find?_eq_none]

private theorem find?_eq_some {field : Field α} {name : String}
    (found : form.fields.find? (·.name = name) = some field) : field ∈ form.fields ∧ field.name = name :=
  ⟨List.mem_of_find?_eq_some found, by simpa using List.find?_some found⟩

/-- Whether every field is met once at most, taken together with those that have been met before. -/
def Once (form : Form α) (met : List String) (members : List (String × Json)) : Prop :=
  ∀ name ∈ form.names, (members.map Prod.fst).count name + (if name ∈ met then 1 else 0) ≤ 1

private theorem once_nil_iff : form.Once [] members ↔ ¬ (Json.object members).Repeats form.names := by
  simp [Once, Json.Repeats]

private theorem once_cons_of_unknown {met : List String} {name : String} (unknown : name ∉ form.names)
    (value : Json) :
    form.Once met ((name, value) :: members) ↔ form.Once met members := by
  refine forall₂_congr fun other known => ?_
  have apart : name ≠ other := fun same => unknown (same ▸ known)
  rw [List.map_cons, List.count_cons_of_ne apart]

private theorem once_cons_of_known {met : List String} {name : String} (known : name ∈ form.names)
    (value : Json) :
    form.Once met ((name, value) :: members) ↔ name ∉ met ∧ form.Once (name :: met) members := by
  have moved (fresh : name ∉ met) (other : String) :
      (((name, value) :: members).map Prod.fst).count other + (if other ∈ met then 1 else 0) =
        (members.map Prod.fst).count other + (if other ∈ name :: met then 1 else 0) := by
    by_cases same : name = other
    · subst other
      simp [fresh]
    · simp [List.count_cons_of_ne same, Ne.symm same]
  constructor
  · intro once
    have own := once name known
    rw [List.map_cons, List.count_cons_self] at own
    have fresh : name ∉ met := by
      intro again
      rw [if_pos again] at own
      omega
    exact ⟨fresh, fun other known_too => moved fresh other ▸ once other known_too⟩
  · rintro ⟨fresh, once⟩ other known_too
    exact (moved fresh other).symm ▸ once other known_too

/-- Members are read in their order, which is not that of the fields; what they fill in is the same. -/
theorem readMembers_eq_ok_iff (lawful : form.Lawful) {met : List String} {before after : α} :
    (∃ names, form.readMembers met before (Document.ofMembers members) = .ok (names, after)) ↔
      form.Once met members ∧ (Json.object members).Fills 0 form.fields before after := by
  induction members generalizing met before with
  | nil =>
    have once : form.Once met [] := by
      intro name _
      split <;> simp
    simp [Document.ofMembers, readMembers, once, Json.fills_object_nil_iff, eq_comm]
  | cons member members ih =>
    obtain ⟨name, value⟩ := member
    simp only [Document.ofMembers, readMembers, Document.memberName_string, Document.orBroken_ok,
      Except.ok_bind]
    cases found : form.fields.find? (·.name = name) with
    | none =>
      have unknown := find?_eq_none_iff.mp found
      have same : ∀ field ∈ form.fields, (Json.object ((name, value) :: members)).member? field.name =
          (Json.object members).member? field.name := by
        intro field own
        have apart : field.name ≠ name := fun same => unknown (same ▸ List.mem_map_of_mem own)
        rw [Json.member?_cons, if_neg apart, Option.or_none]
      simp only [Document.pass_ofJson, Document.orBroken_ok, Except.ok_bind, ih, once_cons_of_unknown unknown,
        Json.fills_object_congr same]
    | some field =>
      -- The first member fills its field before all others, and the other members are read after it.
      obtain ⟨own, rfl⟩ := find?_eq_some found
      have known : field.name ∈ form.names := List.mem_map_of_mem own
      rw [once_cons_of_known known]
      by_cases again : field.name ∈ met
      · simp [again]
      · have onward : form.Once (field.name :: met) members →
            field.name ∉ members.map Prod.fst := by
          intro once
          have own := once field.name known
          rw [if_pos (List.mem_cons_self ..)] at own
          exact List.count_eq_zero.mp (by omega)
        simp only [again, if_false, not_false_eq_true, true_and, Except.bind_eq_ok_iff]
        constructor
        · rintro ⟨names, between, filled, rest⟩
          obtain ⟨once, fills⟩ := ih.mp ⟨names, rest⟩
          exact ⟨once, (Json.fills_object_cons lawful.distinct lawful.commutes own (onward once)).mpr
            ⟨between, filled, fills⟩⟩
        · rintro ⟨once, fills⟩
          obtain ⟨between, filled, fills⟩ :=
            (Json.fills_object_cons lawful.distinct lawful.commutes own (onward once)).mp fills
          obtain ⟨names, rest⟩ := ih.mpr ⟨once, fills⟩
          exact ⟨names, between, filled, rest⟩

private theorem mem_of_readMembers {met names : List String} {before after : α}
    (read : form.readMembers met before (Document.ofMembers members) = .ok (names, after)) {name : String}
    (known : name ∈ form.names) : name ∈ names ↔ name ∈ met ∨ name ∈ members.map Prod.fst := by
  induction members generalizing met before with
  | nil =>
    cases read
    simp
  | cons member members ih =>
    obtain ⟨other, value⟩ := member
    simp only [Document.ofMembers, readMembers, Document.memberName_string, Document.orBroken_ok,
      Except.ok_bind] at read
    rw [List.map_cons, List.mem_cons]
    split at read
    · rename_i unknown
      obtain ⟨_, _, read⟩ := Except.bind_eq_ok_iff.mp read
      have apart : name ≠ other := by
        rintro rfl
        exact find?_eq_none_iff.mp unknown known
      rw [ih read, or_iff_right apart]
    · split at read
      · cases read
      · obtain ⟨_, _, read⟩ := Except.bind_eq_ok_iff.mp read
        rw [ih read, List.mem_cons, or_assoc, or_left_comm]

private theorem read_object_eq_ok_iff (lawful : form.Lawful) {origin : Origin} {result : α} :
    form.read origin (.ofJson (.object members)) = .ok result ↔
      ¬ (Json.object members).Repeats form.names ∧ (Json.object members).Completes 0 form.fields ∧
        (Json.object members).Fills 0 form.fields form.blank result := by
  have members_read : (∃ names, form.readMembers [] form.blank (Document.ofMembers members) =
      .ok (names, result)) ↔ _ := readMembers_eq_ok_iff lawful
  rw [once_nil_iff] at members_read
  rw [Json.completes_object_iff, and_left_comm, ← members_read, Document.ofJson, read, Except.bind_eq_ok_iff]
  simp only [Prod.exists, Document.unlessBroken_none, Document.orBroken_ok, Except.ok_bind]
  constructor
  · rintro ⟨names, filled, met, checked⟩
    split at checked
    · cases checked
    · rename_i complete
      cases checked
      refine ⟨fun field own required => ?_, names, met⟩
      have member := List.find?_eq_none.mp complete field own
      have among : field.name ∈ names := by simpa [required] using member
      exact ((mem_of_readMembers met (List.mem_map_of_mem own)).mp among).resolve_left List.not_mem_nil
  · rintro ⟨complete, names, met⟩
    refine ⟨names, result, met, ?_⟩
    have none : form.fields.find? (fun field => field.required && !names.contains field.name) = none := by
      refine List.find?_eq_none.mpr fun field own missing => ?_
      simp only [Bool.and_eq_true, Bool.not_eq_true', List.contains_eq_mem,
        decide_eq_false_iff_not] at missing
      have present := complete field own missing.1
      exact missing.2 ((mem_of_readMembers met (List.mem_map_of_mem own)).mpr (.inr present))
    rw [none]
    rfl

private theorem readPositions_eq_ok_iff {origin : Origin} {length position : Nat} {fields : List (Field α)}
    {items : List Json} {before after : α} :
    form.readPositions origin length none position fields before (Document.ofItems (items.drop position)) =
        .ok after ↔
      items.length ≤ position + fields.length ∧ (Json.array items).Completes position fields ∧
        (Json.array items).Fills position fields before after := by
  induction fields generalizing position before with
  | nil =>
    simp only [Json.Completes, Json.Fills, List.length_nil, Nat.add_zero, true_and]
    by_cases done : items.length ≤ position
    · simp [List.drop_eq_nil_of_le done, Document.ofItems, readPositions, done, eq_comm]
    · rw [List.drop_eq_getElem_cons (Nat.lt_of_not_le done)]
      cases origin <;> simp [Document.ofItems, readPositions, done]
  | cons field fields ih =>
    have count : position + (fields.length + 1) = position + 1 + fields.length := by omega
    rw [List.length_cons, count, Json.Completes, Json.Fills]
    by_cases done : items.length ≤ position
    · have absent : (Json.array items).field? position field.name = none := List.getElem?_eq_none done
      have onward : form.readPositions origin length none (position + 1) fields before
          (Document.ofItems (items.drop (position + 1))) = .ok after ↔ _ := ih
      rw [List.drop_eq_nil_of_le (Nat.le_succ_of_le done)] at onward
      rw [List.drop_eq_nil_of_le done, absent]
      cases required : field.required with
      | true => simp [Document.ofItems, readPositions, required]
      | false => simpa [Document.ofItems, readPositions, required, Field.Takes] using onward
    · have inside := Nat.lt_of_not_le done
      have given : (Json.array items).field? position field.name = some items[position] :=
        List.getElem?_eq_getElem inside
      rw [List.drop_eq_getElem_cons inside, given]
      simp only [Document.ofItems, readPositions, Except.bind_eq_ok_iff, ih, Field.Takes, Option.isSome_some,
        implies_true, true_and]
      constructor
      · rintro ⟨between, filled, short, complete, fills⟩
        exact ⟨short, complete, between, filled, fills⟩
      · rintro ⟨short, complete, between, filled, fills⟩
        exact ⟨between, filled, short, complete, fills⟩

/-- What is read from a value is what its fields make of the blank one, where no field is repeated and none
is missing. -/
theorem read_eq_ok_iff (lawful : form.Lawful) {origin : Origin} {value : Json} {result : α} :
    form.read origin (.ofJson value) = .ok result ↔
      (value.IsRecord form.names ∧ value.Completes 0 form.fields ∧
        value.Fills 0 form.fields form.blank result) ∧ ¬ value.Repeats form.names := by
  cases value with
  | object members =>
    rw [read_object_eq_ok_iff lawful, and_comm]
    simp [Json.IsRecord.object]
  | array items =>
    have record : (Json.array items).IsRecord form.names ↔ items.length ≤ 0 + form.fields.length := by
      have count : form.names.length = form.fields.length := List.length_map ..
      rw [Nat.zero_add, ← count, Json.isRecord_array_iff]
    have once : ¬ (Json.array items).Repeats form.names := id
    rw [record, and_iff_left once]
    rw [← readPositions_eq_ok_iff, List.drop_zero, Document.ofJson, read]
  | null | bool | number | string =>
    constructor
    · nofun
    · rintro ⟨⟨record, _⟩, _⟩
      cases record

end Form

end StateMachine

import StateMachine.Json.Read
import StateMachine.Proofs.Except

namespace StateMachine

variable {α : Type}

/-- A field that keeps a property of a value when it is filled. -/
def Field.Keeps (field : Field α) (holds : α → Prop) : Prop :=
  ∀ {before document after}, holds before → field.fill before document = .ok after → holds after

namespace Form

variable {form : Form α} {holds : α → Prop}

private theorem readMembers_keeps (keeps : ∀ field ∈ form.fields, field.Keeps holds) {met : List String}
    {before : α} {members : List (Document × Document)} {after : List String × α} (start : holds before)
    (read : form.readMembers met before members = .ok after) : holds after.2 := by
  induction members generalizing met before with
  | nil =>
    cases read
    exact start
  | cons member members ih =>
    obtain ⟨name, value⟩ := member
    obtain ⟨name, _, read⟩ := Except.bind_eq_ok_iff.mp read
    split at read
    · obtain ⟨_, _, read⟩ := Except.bind_eq_ok_iff.mp read
      exact ih start read
    · rename_i field found
      split at read
      · cases read
      · obtain ⟨filled, own, read⟩ := Except.bind_eq_ok_iff.mp read
        exact ih (keeps field (List.mem_of_find?_eq_some found) start own) read

private theorem readPositions_keeps {origin : Origin} {length position : Nat} {close : Option Break}
    {fields : List (Field α)} (keeps : ∀ field ∈ fields, field.Keeps holds) {before after : α}
    {items : List Document} (start : holds before)
    (read : form.readPositions origin length close position fields before items = .ok after) :
    holds after := by
  induction fields generalizing position before items with
  | nil =>
    cases items with
    | nil =>
      obtain ⟨_, _, rfl⟩ := Except.map_eq_ok_iff.mp read
      exact start
    | cons item items => cases origin <;> cases read
  | cons field fields ih =>
    obtain ⟨own, others⟩ := List.forall_mem_cons.mp keeps
    cases items with
    | nil =>
      rw [readPositions.eq_def] at read
      dsimp only at read
      split at read
      · cases read
      · split at read
        · cases read
        · exact ih others start read
    | cons item items =>
      obtain ⟨filled, first, read⟩ := Except.bind_eq_ok_iff.mp read
      exact ih others (own start first) read

/-- What holds of a blank value and is kept by every field holds of every value that is read. -/
theorem read_keeps (keeps : ∀ field ∈ form.fields, field.Keeps holds) (start : holds form.blank)
    {origin : Origin} {document : Document} {result : α} (read : form.read origin document = .ok result) :
    holds result := by
  unfold Form.read at read
  split at read
  · obtain ⟨⟨met, filled⟩, members, read⟩ := Except.bind_eq_ok_iff.mp read
    obtain ⟨_, _, read⟩ := Except.bind_eq_ok_iff.mp read
    split at read
    · cases read
    · cases read
      exact readMembers_keeps keeps start members
  · exact readPositions_keeps keeps start read
  · cases read

end Form

namespace Document

@[simp] theorem orBroken_ok (value : α) : orBroken (.ok value) = .ok value := rfl

@[simp] theorem unlessBroken_none : unlessBroken none = .ok () := rfl

@[simp] theorem memberName_string (read : Except Break String) (pass : Option Break) :
    memberName (.string read pass) = read := rfl

theorem orBroken_eq_ok_iff {read : Except Break α} {value : α} :
    orBroken read = .ok value ↔ read = .ok value := by
  cases read with
  | error why => exact ⟨nofun, nofun⟩
  | ok inner => rw [orBroken_ok, Except.ok.injEq, Except.ok.injEq]

@[simp] theorem readString_string (read : Except Break String) (pass : Option Break) :
    readString (.string read pass) = orBroken read := rfl

theorem readNat_nat {bound n : Nat} (small : n < bound) (expected : String) :
    readNat bound expected (.ofJson (.nat n)) = .ok n := by
  have fits : 0 ≤ (n : Int) ∧ (n : Int) < bound := by omega
  simp [Json.nat, ofJson, readNat, fits]

theorem readNat_lt {bound n : Nat} {expected : String} {document : Document}
    (read : document.readNat bound expected = .ok n) : n < bound := by
  unfold readNat at read
  split at read
  · split at read
    · rename_i fits
      cases read
      omega
    · cases read
  · cases read

variable {holds : α → Prop} {read : Document → Except ReadError α}

private theorem mapM_keeps (each : ∀ {document value}, read document = .ok value → holds value)
    {items : List Document} {values : List α} (all : items.mapM read = .ok values) :
    ∀ value ∈ values, holds value := by
  induction items generalizing values with
  | nil =>
    cases all
    simp
  | cons item items ih =>
    rw [List.mapM_cons] at all
    obtain ⟨first, own, all⟩ := Except.bind_eq_ok_iff.mp all
    obtain ⟨rest, others, all⟩ := Except.bind_eq_ok_iff.mp all
    cases all
    exact List.forall_mem_cons.mpr ⟨each own, ih others⟩

private theorem readItems_eq_ok {items : List Document} {close : Option Break} {values : List α}
    (listed : readItems read items close = .ok values) : items.mapM read = .ok values := by
  obtain ⟨mapped, all, listed⟩ := Except.bind_eq_ok_iff.mp listed
  obtain ⟨_, _, listed⟩ := Except.bind_eq_ok_iff.mp listed
  cases listed
  exact all

theorem readList_keeps (each : ∀ {document value}, read document = .ok value → holds value)
    {document : Document} {values : List α} (listed : document.readList read = .ok values) :
    ∀ value ∈ values, holds value := by
  unfold readList at listed
  split at listed
  · exact mapM_keeps each (readItems_eq_ok listed)
  · cases listed

/-- Items that are written one by one are read one by one. -/
theorem readItems_written {write : α → Json} {meant : α → α} {values : List α}
    (each : ∀ value ∈ values, read (.ofJson (write value)) = .ok (meant value)) :
    readItems read (ofItems (values.map write)) none = .ok (values.map meant) := by
  have mapped : (ofItems (values.map write)).mapM read = .ok (values.map meant) := by
    induction values with
    | nil => rfl
    | cons value values ih =>
      obtain ⟨own, others⟩ := List.forall_mem_cons.mp each
      simp [ofItems, own, ih others]
  simp [readItems, mapped]

theorem readItems_strings (texts : List String) :
    readItems readString (ofItems (texts.map .string)) none = .ok texts := by
  have each : ∀ value ∈ texts, readString (.ofJson (.string value)) = .ok (id value) := fun _ _ => rfl
  rw [readItems_written each, List.map_id]

/-- Items that are written one by one are values one by one. -/
theorem itemsToJson_written {write sorted : α → Json} {levels : Nat}
    (each : ∀ value, (ofJson (write value)).toJson levels = .ok (sorted value)) (values : List α) :
    itemsToJson levels (ofItems (values.map write)) = .ok (values.map sorted) := by
  induction values with
  | nil => rfl
  | cons value values ih => simp [ofItems, itemsToJson, each, ih]

theorem itemsToJson_strings (levels : Nat) (texts : List String) :
    itemsToJson levels (ofItems (texts.map .string)) = .ok (texts.map .string) := by
  have each (value : String) : (ofJson (.string value)).toJson levels = .ok (.string value) := rfl
  exact itemsToJson_written each texts

end Document

theorem readText_eq_ok {read : Document → Except ReadError α} {text : String} {value : α}
    (ok : readText read text = .ok value) : read (Document.ofText text).1 = .ok value := by
  unfold readText at ok
  generalize Document.ofText text = scanned at ok ⊢
  obtain ⟨document, trailing⟩ := scanned
  obtain ⟨result, own, ok⟩ := Except.bind_eq_ok_iff.mp ok
  cases trailing with
  | true => cases ok
  | false =>
    cases ok
    exact own

theorem readText_of_scanned {read : Document → Except ReadError α} {text : String} {document : Document}
    (scanned : Document.ofText text = (document, false)) : readText read text = read document := by
  rw [readText, scanned]
  dsimp only
  cases read document <;> rfl

end StateMachine

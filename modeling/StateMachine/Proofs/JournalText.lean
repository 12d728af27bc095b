import StateMachine.Journal.Form
import StateMachine.Proofs.Form
import StateMachine.Proofs.Stamp

namespace StateMachine

theorem StateId.read_toJson (state : StateId) : StateId.read (.ofJson state.toJson) = .ok state := by
  rw [StateId.read, StateId.toJson, Document.readNat_nat state.index_lt, Except.map_of_ok,
    StateId.ofIndex_index]

theorem EventId.read_toJson (event : EventId) : EventId.read (.ofJson event.toJson) = .ok event := by
  rw [EventId.read, EventId.toJson, Document.readNat_nat event.index_lt, Except.map_of_ok,
    EventId.ofIndex_index]

theorem Instant.read_toJson {instant : Instant} (plain : instant.Plain) :
    Instant.read (.ofJson instant.toJson) = .ok instant := by
  simp [Instant.read, Instant.toJson, Document.ofJson, Document.readText, Stamp.read?_write plain]

/-- A transition at a depth that 64 bits hold, and at a plain instant. -/
structure Transition.Plain (transition : Transition) : Prop where
  depth : transition.depth < UInt64.size
  time : transition.time.Plain

namespace Transition

variable {transition : Transition}

theorem read_toJson {origin : Origin} (plain : transition.Plain) :
    form.read origin (.ofJson transition.toJson) = .ok transition := by
  have depth := Document.readNat_nat plain.depth "usize"
  have time := Instant.read_toJson plain.time
  -- Without proofs of its steps the kernel would compare the bounds of numbers one by one.
  simp -implicitDefEqProofs [toJson, Document.ofJson, Document.ofMembers, Form.read, Form.readMembers, form,
    StateId.read_toJson, EventId.read_toJson, depth, time]

theorem legible_toJson (plain : transition.Plain) : transition.toJson.Legible := by
  have wide : UInt32.size < UInt64.size := by decide
  refine .object fun member among => ?_
  simp only [List.mem_cons, List.not_mem_nil, or_false] at among
  rcases among with rfl | rfl | rfl | rfl | rfl
  · exact Json.legible_nat (Nat.lt_trans transition.source.index_lt wide)
  · exact Json.legible_nat (Nat.lt_trans transition.target.index_lt wide)
  · exact Json.legible_nat (Nat.lt_trans transition.event.index_lt wide)
  · exact Json.legible_nat plain.depth
  · exact .string

private theorem read_depth {origin : Origin} {document : Document}
    (read : form.read origin document = .ok transition) : transition.depth < UInt64.size := by
  have keeps : ∀ field ∈ form.fields, field.Keeps fun transition => transition.depth < UInt64.size := by
    intro field member before document after start filled
    simp only [form, List.mem_cons, List.not_mem_nil, or_false] at member
    rcases member with rfl | rfl | rfl | rfl | rfl <;>
      obtain ⟨part, own, rfl⟩ := Except.map_eq_ok_iff.mp filled
    · exact start
    · exact start
    · exact start
    · exact Document.readNat_lt own
    · exact start
  exact Form.read_keeps keeps (by simp [form, UInt64.size]) read

end Transition

namespace Journal

variable {journal : Journal}

theorem legible_toJson (plain : ∀ transition ∈ journal.transitions, transition.Plain) :
    journal.toJson.Legible := by
  refine .object fun member among => ?_
  simp only [List.mem_cons, List.not_mem_nil, or_false] at among
  cases among
  refine .array fun item listed => ?_
  obtain ⟨transition, own, rfl⟩ := List.mem_map.mp listed
  exact Transition.legible_toJson (plain transition own)

theorem ofText_text (plain : ∀ transition ∈ journal.transitions, transition.Plain) :
    ofText journal.text = .ok journal := by
  have each : ∀ transition ∈ journal.transitions,
      Transition.form.read .text (.ofJson transition.toJson) = .ok (id transition) :=
    fun transition own => Transition.read_toJson (plain transition own)
  have listed := Document.readItems_written each
  rw [List.map_id] at listed
  have read : (form .text).read .text (.ofJson journal.toJson) = .ok journal := by
    simp [toJson, Document.ofJson, Document.ofMembers, Form.read, Form.readMembers, form,
      Document.readList, listed]
  rw [ofText, text, readText_of_scanned (Document.ofText_text (legible_toJson plain)), read]

private theorem read_depth {text : String} (read : ofText text = .ok journal) :
    ∀ transition ∈ journal.transitions, transition.depth < UInt64.size := by
  have keeps : ∀ field ∈ (form .text).fields,
      field.Keeps fun journal => ∀ transition ∈ journal.transitions, transition.depth < UInt64.size := by
    intro field member before document after start filled
    simp only [form, List.mem_cons, List.not_mem_nil, or_false] at member
    subst member
    obtain ⟨transitions, listed, rfl⟩ := Except.map_eq_ok_iff.mp filled
    exact Document.readList_keeps Transition.read_depth listed
  exact Form.read_keeps keeps (by simp [form]) (readText_eq_ok read)

/-- One transition on the last day of a leap year's February, with numbers as great as they can be. -/
def sample : Journal where
  transitions := [⟨⟨0⟩, ⟨4294967295⟩, ⟨7⟩, 18446744073709551615, ⟨951868799, 120000000⟩⟩]

/-- A text of the sample in lists, with a time stamp that is an hour ahead. -/
def sampleText : String :=
  "[[[0,4294967295,7,18446744073709551615,\"2000-03-01T00:59:59.12+01:00\"]]]"

end Journal

/-- A journal of plain instants is read back from its text, and so is every journal that was read from any
text if its instants are plain. Its time stamps show every instant exactly, with as few groups of three
digits as that takes. -/
theorem journal_reads_back (journal : Journal) :
    ((∀ transition ∈ journal.transitions, transition.Plain) →
      Journal.ofText journal.text = .ok journal) ∧
    (∀ text, Journal.ofText text = .ok journal →
      (∀ transition ∈ journal.transitions, transition.time.Plain) →
      Journal.ofText journal.text = .ok journal) ∧
    ∀ transition ∈ journal.transitions, transition.time.Plain →
      ∃ stamp, transition.toJson.member? "timestamp" = some (.string stamp) ∧
        Stamp.Exact transition.time.nano stamp := by
  refine ⟨Journal.ofText_text, fun text read plain => ?_, fun transition _ plain => ?_⟩
  · have depth := Journal.read_depth read
    exact Journal.ofText_text fun transition own => ⟨depth transition own, plain transition own⟩
  · exact ⟨Stamp.write transition.time, rfl, Stamp.write_exact plain⟩

theorem leap_day_reads_back :
    Journal.ofText Journal.sampleText = .ok Journal.sample ∧
      Journal.ofText Journal.sample.text = .ok Journal.sample ∧
      ∀ transition ∈ Journal.sample.transitions, ∃ stamp,
        transition.toJson.member? "timestamp" = some (.string stamp) ∧
          Stamp.Exact transition.time.nano stamp := by
  obtain ⟨_, again, stamps⟩ := journal_reads_back Journal.sample
  have found : (Journal.ofText Journal.sampleText).toOption = some Journal.sample := by decide +kernel
  have read := Except.eq_ok_of_toOption found
  have plain : ∀ transition ∈ Journal.sample.transitions, transition.time.Plain := by
    intro transition own
    cases List.mem_singleton.mp own
    exact ⟨by decide, by decide, by decide⟩
  exact ⟨read, again _ read plain, fun transition own => stamps transition own (plain transition own)⟩

end StateMachine

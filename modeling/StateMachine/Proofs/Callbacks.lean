import Mathlib.Data.List.Nodup
import StateMachine.Callbacks
import StateMachine.Proofs.LastWrite

namespace StateMachine

section Slots

variable {X : Type}

private theorem join_setIfInBounds (slots : Array (Option X)) (index other : Nat) (content : Option X) :
    (slots.setIfInBounds index content)[other]?.join =
      if other = index ∧ index < slots.size then content else slots[other]?.join := by
  by_cases same : other = index
  · subst same
    by_cases inside : other < slots.size <;> simp [inside]
  · have apart : index ≠ other := fun equal => same equal.symm
    simp [same, apart]

/-- The positions of the slots that are in use. -/
def positionsInUse (slots : Array (Option X)) : List Nat :=
  (List.range slots.size).filter fun index => slots[index]?.join.isSome

private theorem mem_positionsInUse_iff {slots : Array (Option X)} {index : Nat} :
    index ∈ positionsInUse slots ↔ ∃ content, slots[index]?.join = some content := by
  simp only [positionsInUse, List.mem_filter, List.mem_range, Option.isSome_iff_exists, and_iff_right_iff_imp]
  rintro ⟨content, found⟩
  by_contra outside
  simp [outside] at found

private theorem length_positionsInUse (slots : Array (Option X)) :
    (positionsInUse slots).length = slots.countP Option.isSome := by
  have contents : (List.range slots.size).map (fun index => slots[index]?.join) = slots.toList := by
    refine List.ext_getElem (by simp) fun index _ small => ?_
    have inside : index < slots.size := by simpa using small
    simp [inside]
  rw [← Array.countP_toList, ← contents, List.countP_map, List.countP_eq_length_filter, positionsInUse]
  rfl

end Slots

namespace Callbacks

/-- What can be done to callbacks. -/
inductive Operation (A E : Type) where
  | setAction (event : EventId) (action : A)
  | clearAction (event : EventId)
  | setEntry (state : StateId) (entry : E)
  | clearEntry (state : StateId)

variable {A E : Type}

namespace Operation

/-- The callbacks after an operation, and the action or the entry that it gives back, if any. -/
def run : Operation A E → Callbacks A E → Callbacks A E × (Option A ⊕ Option E)
  | setAction event action, callbacks => (callbacks.setAction event action).map id .inl
  | clearAction event, callbacks => (callbacks.clearAction event).map id .inl
  | setEntry state entry, callbacks => (callbacks.setEntry state entry).map id .inr
  | clearEntry state, callbacks => (callbacks.clearEntry state).map id .inr

/-- What is looked up under the id of an operation. -/
def lookup : Operation A E → Callbacks A E → Option A ⊕ Option E
  | setAction event _, callbacks | clearAction event, callbacks => .inl (callbacks.action? event)
  | setEntry state _, callbacks | clearEntry state, callbacks => .inr (callbacks.entry? state)

/-- The event whose action an operation is on. -/
def event? : Operation A E → Option EventId
  | setAction event _ | clearAction event => some event
  | _ => none

/-- The state whose entry an operation is on. -/
def state? : Operation A E → Option StateId
  | setEntry state _ | clearEntry state => some state
  | _ => none

/-- Whether the id of an operation has a slot. -/
def InRange (events states : Nat) : Operation A E → Prop
  | setAction event _ | clearAction event => event.index < events
  | setEntry state _ | clearEntry state => state.index < states

end Operation

/-- The callbacks after an operation. -/
def apply (callbacks : Callbacks A E) (operation : Operation A E) : Callbacks A E := (operation.run callbacks).1

/-- The callbacks after operations on empty ones. -/
def after (events states : Nat) (operations : List (Operation A E)) : Callbacks A E :=
  operations.foldl apply (.empty events states)

/-- A list of the ids under which something is found, each of them once. -/
structure Lists {I X : Type} (find? : I → Option X) (ids : List I) : Prop where
  distinct : ids.Nodup
  found : ∀ id, id ∈ ids ↔ ∃ content, find? id = some content

/-- Callbacks that are what operations on empty ones make of them. What is found under an id in range is
what the last operation on this id has set. -/
structure Remembers (events states : Nat) (operations : List (Operation A E)) (callbacks : Callbacks A E) :
    Prop where
  action : ∀ event action, callbacks.action? event = some action ↔
    event.index < events ∧ operations.findRev? (·.event? = some event) = some (.setAction event action)
  entry : ∀ state entry, callbacks.entry? state = some entry ↔
    state.index < states ∧ operations.findRev? (·.state? = some state) = some (.setEntry state entry)
  answer : ∀ operation : Operation A E, (operation.run callbacks).2 = operation.lookup callbacks
  outside : ∀ operation : Operation A E, ¬ operation.InRange events states →
    callbacks.apply operation = callbacks
  actions : ∀ operation : Operation A E, operation.event? = none →
    (callbacks.apply operation).actions = callbacks.actions
  entries : ∀ operation : Operation A E, operation.state? = none →
    (callbacks.apply operation).entries = callbacks.entries
  describe : ∃ acting entered, Lists callbacks.action? acting ∧ Lists callbacks.entry? entered ∧
    callbacks.describe = "HookRegistry \x7b actions: " ++ toString acting.length ++ ", entries: " ++
      toString entered.length ++ " \x7d"

/-- A bank of slots, as many as the numbers of events and states make it, and what operations do to it: those
on an id fill or empty the slot with its index, and `set` is the one that fills it. -/
structure Bank (A E I X : Type) where
  slots : Callbacks A E → Array (Option X)
  size : Nat → Nat → Nat
  index : I → Nat
  ofIndex : Nat → I
  id? : Operation A E → Option I
  set : I → X → Operation A E
  content : Operation A E → Option X
  index_lt : ∀ id, index id < UInt32.size
  index_ofIndex : ∀ {position}, position < UInt32.size → index (ofIndex position) = position
  ofIndex_index : ∀ id, ofIndex (index id) = id
  slots_empty : ∀ events states, slots (.empty events states) = Array.replicate (size events states) none
  eq_set_iff : ∀ {id operation item}, id? operation = some id →
    (operation = set id item ↔ content operation = some item)
  id?_set : ∀ id item, id? (set id item) = some id
  slots_of_some : ∀ {id operation} callbacks, id? operation = some id →
    slots (callbacks.apply operation) = (slots callbacks).setIfInBounds (index id) (content operation)
  slots_of_none : ∀ {operation} callbacks, id? operation = none →
    slots (callbacks.apply operation) = slots callbacks

def actionBank : Bank A E EventId A where
  slots := actions
  size events _ := events
  index := EventId.index
  ofIndex := EventId.ofIndex
  id? := Operation.event?
  set := Operation.setAction
  content
    | .setAction _ action => some action
    | _ => none
  index_lt := EventId.index_lt
  index_ofIndex := EventId.index_ofIndex
  ofIndex_index := EventId.ofIndex_index
  slots_empty _ _ := rfl
  eq_set_iff {event operation action} own := by
    cases operation <;> cases own <;> simp
  id?_set _ _ := rfl
  slots_of_some {event operation} callbacks own := by
    cases operation <;> cases own <;> rfl
  slots_of_none {operation} callbacks other := by
    cases operation <;> cases other <;> rfl

def entryBank : Bank A E StateId E where
  slots := entries
  size _ states := states
  index := StateId.index
  ofIndex := StateId.ofIndex
  id? := Operation.state?
  set := Operation.setEntry
  content
    | .setEntry _ entry => some entry
    | _ => none
  index_lt := StateId.index_lt
  index_ofIndex := StateId.index_ofIndex
  ofIndex_index := StateId.ofIndex_index
  slots_empty _ _ := rfl
  eq_set_iff {state operation entry} own := by
    cases operation <;> cases own <;> simp
  id?_set _ _ := rfl
  slots_of_some {state operation} callbacks own := by
    cases operation <;> cases own <;> rfl
  slots_of_none {operation} callbacks other := by
    cases operation <;> cases other <;> rfl

namespace Bank

variable {I X : Type} {bank : Bank A E I X} {size : Nat} {callbacks : Callbacks A E}

def find? (bank : Bank A E I X) (callbacks : Callbacks A E) (id : I) : Option X :=
  (bank.slots callbacks)[bank.index id]?.join

/-- The bank has a given number of slots, and those in use have an id. If there are more slots than ids, the
last ones stay empty. -/
structure Fits (bank : Bank A E I X) (size : Nat) (callbacks : Callbacks A E) : Prop where
  size : (bank.slots callbacks).size = size
  numbered : ∀ position item, (bank.slots callbacks)[position]?.join = some item → position < UInt32.size

theorem index_inj (bank : Bank A E I X) {id other : I} (same : bank.index id = bank.index other) :
    id = other := by
  rw [← bank.ofIndex_index id, same, bank.ofIndex_index]

private theorem fits_empty (bank : Bank A E I X) (events states : Nat) :
    bank.Fits (bank.size events states) (.empty events states) := by
  constructor
  · rw [bank.slots_empty, Array.size_replicate]
  · intro position item found
    rw [bank.slots_empty, Array.getElem?_replicate] at found
    split at found <;> cases found

theorem Fits.apply (fits : bank.Fits size callbacks) (operation : Operation A E) :
    bank.Fits size (callbacks.apply operation) := by
  cases concerned : bank.id? operation with
  | none =>
    have slots := bank.slots_of_none callbacks concerned
    exact ⟨by rw [slots, fits.size], by rw [slots]; exact fits.numbered⟩
  | some id =>
    have slots := bank.slots_of_some callbacks concerned
    refine ⟨by rw [slots, Array.size_setIfInBounds, fits.size], fun position item found => ?_⟩
    rw [slots, join_setIfInBounds] at found
    split at found
    · rename_i filled
      rw [filled.1]
      exact bank.index_lt id
    · exact fits.numbered position item found

private theorem fits_after (bank : Bank A E I X) (events states : Nat) (operations : List (Operation A E)) :
    bank.Fits (bank.size events states) (after events states operations) :=
  operations.foldlRecOn _ (bank.fits_empty events states) fun _ fits operation _ => fits.apply operation

private theorem find?_empty (bank : Bank A E I X) (events states : Nat) (id : I) :
    bank.find? (.empty events states) id = none := by
  rw [find?, bank.slots_empty, Array.getElem?_replicate]
  split <;> rfl

private theorem find?_of_not_lt (fits : bank.Fits size callbacks) {id : I}
    (outside : ¬ bank.index id < size) :
    bank.find? callbacks id = none := by
  rw [find?, Array.getElem?_eq_none (by rw [fits.size]; exact Nat.le_of_not_lt outside)]
  rfl

private theorem find?_apply_self (fits : bank.Fits size callbacks) {id : I} (inside : bank.index id < size)
    {operation : Operation A E} (own : bank.id? operation = some id) :
    bank.find? (callbacks.apply operation) id = bank.content operation := by
  rw [find?, bank.slots_of_some callbacks own, join_setIfInBounds, fits.size, if_pos ⟨rfl, inside⟩]

private theorem find?_apply_other {id : I} {operation : Operation A E}
    (other : bank.id? operation ≠ some id) :
    bank.find? (callbacks.apply operation) id = bank.find? callbacks id := by
  cases concerned : bank.id? operation with
  | none => rw [find?, bank.slots_of_none callbacks concerned, find?]
  | some another =>
    have apart : bank.index id ≠ bank.index another := by
      intro same
      cases bank.index_inj same
      exact other concerned
    rw [find?, bank.slots_of_some callbacks concerned, join_setIfInBounds,
      if_neg fun filled => apart filled.1, find?]

private theorem Fits.slots_of_beyond (fits : bank.Fits size callbacks) {operation : Operation A E}
    (beyond : ∀ id, bank.id? operation = some id → size ≤ bank.index id) :
    bank.slots (callbacks.apply operation) = bank.slots callbacks := by
  cases concerned : bank.id? operation with
  | none => exact bank.slots_of_none callbacks concerned
  | some id =>
    have outside := beyond id concerned
    rw [← fits.size] at outside
    rw [bank.slots_of_some callbacks concerned, Array.setIfInBounds_eq_of_size_le outside]

/-- Under an id in range there is what the last operation on it has set. -/
theorem find?_after_eq_some_iff [DecidableEq I] (bank : Bank A E I X) (events states : Nat)
    (operations : List (Operation A E)) {id : I} {item : X} :
    bank.find? (after events states operations) id = some item ↔ bank.index id < bank.size events states ∧
      operations.findRev? (bank.id? · = some id) = some (bank.set id item) := by
  by_cases inside : bank.index id < bank.size events states
  · have reads : bank.find? (after events states operations) id =
        (operations.findRev? (bank.id? · = some id)).bind bank.content :=
      read_foldl apply (bank.find? · id)
        (fun _ operation (fits : bank.Fits (bank.size events states) _) => fits.apply operation)
        (fun _ _ fits own => find?_apply_self fits inside (of_decide_eq_true own))
        (fun _ _ _ other => find?_apply_other (of_decide_eq_false other))
        (bank.fits_empty events states) (bank.find?_empty events states id) operations
    rw [reads, and_iff_right inside, Option.bind_eq_some_iff]
    constructor
    · rintro ⟨last, found, content⟩
      have own : bank.id? last = some id := by
        rw [List.findRev?_eq_find?_reverse] at found
        simpa using List.find?_some found
      rw [found, (bank.eq_set_iff own).mpr content]
    · intro found
      exact ⟨_, found, (bank.eq_set_iff (bank.id?_set id item)).mp rfl⟩
  · simp [find?_of_not_lt (bank.fits_after events states operations) inside, inside]

private theorem Fits.exists_lists (fits : bank.Fits size callbacks) :
    ∃ ids, Lists (bank.find? callbacks) ids ∧
    ids.length = (bank.slots callbacks).countP Option.isSome := by
  have position_lt : ∀ position ∈ positionsInUse (bank.slots callbacks), position < UInt32.size := by
    intro position member
    obtain ⟨item, found⟩ := mem_positionsInUse_iff.mp member
    exact fits.numbered position item found
  refine ⟨(positionsInUse (bank.slots callbacks)).map bank.ofIndex, ⟨?_, fun id => ?_⟩, ?_⟩
  · refine List.Nodup.map_on ?_ (List.nodup_range.filter _)
    intro position member other member_too same
    rw [← bank.index_ofIndex (position_lt position member), same,
      bank.index_ofIndex (position_lt other member_too)]
  · constructor
    · intro member
      obtain ⟨position, in_use, rfl⟩ := List.mem_map.mp member
      rw [find?, bank.index_ofIndex (position_lt position in_use)]
      exact mem_positionsInUse_iff.mp in_use
    · intro found
      exact List.mem_map.mpr ⟨bank.index id, mem_positionsInUse_iff.mpr found, bank.ofIndex_index id⟩
  · rw [List.length_map, length_positionsInUse]

end Bank

end Callbacks

/-- Callbacks are two finite maps, whatever the numbers of their slots and the operations on them. -/
theorem callbacks_remember_operations {A E : Type} (events states : Nat)
    (operations : List (Callbacks.Operation A E)) :
    (Callbacks.after events states operations).Remembers events states operations := by
  have actions := Callbacks.actionBank.fits_after events states operations
  have entries := Callbacks.entryBank.fits_after events states operations
  constructor
  case action => exact fun event action => Callbacks.actionBank.find?_after_eq_some_iff events states operations
  case entry => exact fun state entry => Callbacks.entryBank.find?_after_eq_some_iff events states operations
  case answer => rintro (_ | _ | _ | _) <;> rfl
  case outside =>
    intro operation beyond
    refine Callbacks.ext (actions.slots_of_beyond fun event own => ?_)
      (entries.slots_of_beyond fun state own => ?_)
    · cases operation <;> cases own <;> exact Nat.le_of_not_lt beyond
    · cases operation <;> cases own <;> exact Nat.le_of_not_lt beyond
  case actions => exact fun operation other => Callbacks.actionBank.slots_of_none _ other
  case entries => exact fun operation other => Callbacks.entryBank.slots_of_none _ other
  case describe =>
    obtain ⟨acting, lists, length⟩ := actions.exists_lists
    obtain ⟨entered, lists_too, length_too⟩ := entries.exists_lists
    exact ⟨acting, entered, lists, lists_too, by rw [length, length_too]; rfl⟩

end StateMachine

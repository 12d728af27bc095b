import StateMachine.Proofs.LastRule
import StateMachine.Proofs.Problems

/-!
A definition with more states than there are ids. Two of its states share an id, so that their rules are
written into one cell.
-/
namespace StateMachine.Crowded

/-- Names are runs of one letter, each longer by one than the one before. -/
def name (position : Nat) : String := String.ofList (List.replicate (position + 1) 'a')

theorem name_injective : Function.Injective name := by
  intro position other same
  have lengths := congrArg String.length same
  simpa [name] using lengths

private theorem names_nodup (last : Nat) : ((List.range (last + 1)).map name).Nodup :=
  List.nodup_range.map name_injective

private theorem name_ne_empty (position : Nat) : name position ≠ "" := by
  intro empty
  have length := congrArg String.length empty
  simp [name] at length

/-- A rule from one state to another one, both by position. -/
def rule (ends : Nat × Nat) : Rule := (Rule.on "go").fromStates [name ends.1] |>.toState (name ends.2)

def definition (last : Nat) (first second : Nat × Nat) : Definition where
  name := "crowded"
  states := (List.range (last + 1)).map name
  rules := [rule first, rule second]

/-- The ends of a rule are states. -/
def Within (last : Nat) (ends : Nat × Nat) : Prop := ends.1 ≤ last ∧ ends.2 ≤ last

instance (last : Nat) (ends : Nat × Nat) : Decidable (Within last ends) :=
  inferInstanceAs (Decidable (_ ∧ _))

def resolved (ends : Nat × Nat) : ResolvedRule := ⟨⟨0⟩, [.state (.ofIndex ends.1)], .ofIndex ends.2⟩

variable {last : Nat} {first second : Nat × Nat}

theorem findIdx?_name {position : Nat} (known : position ≤ last) :
    ((List.range (last + 1)).map name).findIdx? (· = name position) = some position := by
  have distinct : (((List.range (last + 1)).map name).map id).Nodup := by
    rw [List.map_id]
    exact names_nodup last
  refine (findIdx?_eq_some_iff_of_nodup distinct (name position) position).mpr ?_
  simp [Nat.lt_succ_of_le known]

private theorem checkStates_eq : (definition last first second).checkStates = .ok () := by
  have distinct : (definition last first second).states.Nodup := names_nodup last
  have once : Definition.repeatedNames [] (definition last first second).states = [] := by
    rw [List.eq_nil_iff_forall_not_mem]
    intro state again
    have single := List.nodup_iff_count_le_one.mp distinct state
    have reported := List.count_pos_iff.mpr again
    rw [Definition.count_repeatedNames, if_neg (by simp; omega)] at reported
    exact Nat.lt_irrefl 0 reported
  have some_state : (definition last first second).states ≠ [] := by simp [definition]
  simp [Definition.checkStates, once, some_state]

private theorem checkRule_eq {ends : Nat × Nat} (known : Within last ends) :
    (definition last first second).checkRule (rule ends) = .ok (resolved ends) := by
  have event : (definition last first second).eventId? "go" = some ⟨0⟩ := rfl
  have state {position : Nat} (known : position ≤ last) :
      (definition last first second).stateId? (name position) = some (.ofIndex position) := by
    rw [Definition.stateId?, definition, findIdx?_name known, Option.map_some]
  have target : (definition last first second).checkTarget (rule ends) = .ok (.ofIndex ends.2) := by
    simp [Definition.checkTarget, rule, Rule.toState, name_ne_empty, state known.2]
  have sources : (definition last first second).checkSources (rule ends) =
      .ok [.state (.ofIndex ends.1)] := by
    simp [Definition.checkSources, Definition.checkSource, rule, Rule.fromStates, Rule.toState,
      Sources.ofNames, state known.1, Checked.all, Checked.both, Except.map]
    rfl
  simp only [Definition.checkRule, target, sources]
  rw [show (rule ends).event = "go" from rfl, event]
  rfl

/-- By its id, a state has its own name as long as its position is that of no other state. -/
theorem stateName?_ofIndex {table : Table} (states : table.states = (List.range (last + 1)).map name)
    {position : Nat} (known : position ≤ last) (small : position < UInt32.size) :
    table.stateName? (.ofIndex position) = some (name position) := by
  rw [Table.stateName?, states, StateId.index_ofIndex small]
  simp [Nat.lt_succ_of_le known]

section Known

variable (known : Within last first) (known_too : Within last second)
include known known_too

theorem check_eq : (definition last first second).check = .ok [resolved first, resolved second] := by
  refine Definition.check_eq_ok_iff.mpr ⟨checkStates_eq, ?_⟩
  rw [show (definition last first second).rules = [rule first, rule second] from rfl, List.map_cons,
    List.map_singleton, checkRule_eq known, checkRule_eq known_too]
  rfl

theorem exists_compile : ∃ compilation,
    (definition last first second).compile .permissive = .ok compilation :=
  Definition.exists_compile_permissive (Definition.problems_of_check (check_eq known known_too))

/-- The second rule is the one that is read in the row of its source. -/
theorem compile_reads {compilation : Compilation} {strictness : Strictness}
    (compiled : (definition last first second).compile strictness = .ok compilation) :
    compilation.table.states = (List.range (last + 1)).map name ∧
      compilation.table.events = [⟨"go", none⟩] ∧
      compilation.table.rule? (.state (.ofIndex second.1)) ⟨0⟩ = some (.ofIndex second.2) := by
  obtain ⟨rules, checked, _, states, events, reads⟩ := Definition.compile_cells compiled
  cases checked.symm.trans (check_eq known known_too)
  refine ⟨states, events, ?_⟩
  rw [reads]
  simp [List.findRev?, ResolvedRule.writes, resolved]

end Known

/-- A rule for the first state and one for the last state, by whose position the ids have started anew. -/
def sample : Definition := definition UInt32.size (0, 0) (UInt32.size, 1)

theorem within_first : Within UInt32.size (0, 0) := by decide

theorem within_last : Within UInt32.size (UInt32.size, 1) := by decide

end StateMachine.Crowded

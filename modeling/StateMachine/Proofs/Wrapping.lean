import StateMachine.Failure

namespace StateMachine

/-- A cause as it comes out of callbacks, each of which wraps what comes out of the next one inside. -/
def Cause.wrapped (callbacks : List Callback) (cause : Cause) : Cause :=
  callbacks.foldr (fun callback inner => .failure (.callback callback inner)) cause

theorem Cause.wrapped_snoc (callbacks : List Callback) (callback : Callback) (cause : Cause) :
    cause.wrapped (callbacks ++ [callback]) =
      (Cause.failure (.callback callback cause)).wrapped callbacks := by
  simp [wrapped]

/-- Callbacks that wrap a failure leave its root as it is. -/
theorem Cause.wrapped_failure (callbacks : List Callback) (inner : Failure) :
    ∃ outer, (Cause.failure inner).wrapped callbacks = .failure outer ∧ outer.root = inner.root := by
  induction callbacks with
  | nil => exact ⟨inner, rfl, rfl⟩
  | cons callback callbacks ih =>
    obtain ⟨outer, wraps, same⟩ := ih
    refine ⟨.callback callback (.failure outer), ?_, same⟩
    rw [← wraps]
    rfl

theorem Cause.root_of_wrapped {callbacks : List Callback} {failure inner : Failure}
    (wraps : Cause.failure failure = (Cause.failure inner).wrapped callbacks) :
    failure.root = inner.root := by
  obtain ⟨outer, same, root⟩ := Cause.wrapped_failure callbacks inner
  cases wraps.trans same
  exact root

/-- A foreign error that at least one callback wraps has the innermost one's failure at its root. -/
theorem Cause.root_of_foreign {callbacks : List Callback} {callback : Callback} {text : String}
    {failure : Failure}
    (wraps : Cause.failure failure = (Cause.foreign text).wrapped (callbacks ++ [callback])) :
    failure.root = .callback callback (.foreign text) := by
  rw [Cause.wrapped_snoc] at wraps
  exact Cause.root_of_wrapped wraps

/-- Every callback that wraps a cause puts its own lead before the message. -/
theorem Cause.message_wrapped (callbacks : List Callback) (cause : Cause) :
    (cause.wrapped callbacks).message = String.join (callbacks.map Callback.lead) ++ cause.message := by
  induction callbacks with
  | nil => simp [wrapped]
  | cons callback callbacks ih =>
    have message : (cause.wrapped (callback :: callbacks)).message =
        callback.lead ++ (cause.wrapped callbacks).message := rfl
    rw [message, ih, List.map_cons, String.join_cons, String.append_assoc]

example : ((Cause.foreign "disk full").wrapped [.action "load", .entry "b"]).message =
    "action for event 'load' failed: entry into state 'b' failed: disk full" := by decide

/-- What lies right below a cause, which is nothing unless a callback has failed. -/
def Cause.below? : Cause → Option Cause
  | .failure (.callback _ cause) => some cause
  | _ => none

def Cause.failure? : Cause → Option Failure
  | .failure own => some own
  | .foreign _ => none

/-- A cause and all that lies below it, from the outermost inwards. -/
inductive Cause.Chain : Cause → List Cause → Prop where
  | innermost {cause : Cause} (last : cause.below? = none) : Chain cause [cause]
  | outer {cause inner : Cause} {causes : List Cause} (next : cause.below? = some inner)
      (chain : Chain inner causes) : Chain cause (cause :: causes)

namespace Failure

/-- Induction on the callbacks around a failure. At the end there is a failure that is not one of a
callback, or a callback with a foreign error. -/
@[elab_as_elim]
theorem layers {motive : Failure → Prop} (plain : ∀ failure, failure.isCallback = false → motive failure)
    (foreign : ∀ reporter text, motive (.callback reporter (.foreign text)))
    (wrapped : ∀ reporter inner, motive inner → motive (.callback reporter (.failure inner)))
    (failure : Failure) : motive failure := by
  fun_induction causes failure with
  | case1 reporter inner ih => exact wrapped reporter inner ih
  | case2 reporter text => exact foreign reporter text
  | case3 failure apart apart_too =>
    cases failure with
    | callback reporter cause =>
      cases cause with
      | failure inner => exact absurd rfl (apart reporter inner)
      | foreign text => exact absurd rfl (apart_too reporter text)
    | _ => exact plain _ rfl

/-- A failure and the causes below it. -/
def chain (failure : Failure) : List Cause := .failure failure :: failure.causes

/-- How a failure stands to its root. Its chain begins with itself and goes on as long as there is a cause
below. The root is the last failure of the chain, and the failure is nothing but the root wrapped by
callbacks, whose leads, from the outermost inwards, its message puts before that of the root. -/
structure Unwraps (failure : Failure) : Prop where
  chain : Cause.Chain (.failure failure) failure.chain
  root : (failure.chain.filterMap Cause.failure?).getLast? = some failure.root
  again : failure.root.root = failure.root
  itself : failure.root = failure ↔
    failure.isCallback = false ∨ ∃ text, (Cause.failure failure).below? = some (.foreign text)
  foreign : failure.root.isCallback = true ↔ ∃ text, failure.chain.getLast? = some (.foreign text)
  message : ∃ callbacks, .failure failure = (Cause.failure failure.root).wrapped callbacks ∧
    failure.message = String.join (callbacks.map Callback.lead) ++ failure.root.message

private theorem alone_of_plain {failure : Failure} (plain : failure.isCallback = false) :
    failure.root = failure ∧ failure.chain = [.failure failure] ∧ (Cause.failure failure).below? = none := by
  cases failure with
  | callback => cases plain
  | _ => exact ⟨rfl, rfl, rfl⟩

private theorem chain_links (failure : Failure) : Cause.Chain (.failure failure) failure.chain := by
  induction failure using layers with
  | plain failure plain =>
    obtain ⟨_, chain, below⟩ := alone_of_plain plain
    rw [chain]
    exact .innermost below
  | foreign reporter text => exact .outer rfl (.innermost rfl)
  | wrapped reporter inner ih => exact .outer rfl ih

private theorem chain_wrapped (reporter : Callback) (inner : Failure) :
    chain (.callback reporter (.failure inner)) =
      .failure (.callback reporter (.failure inner)) :: inner.chain := rfl

/-- The root is the last failure of the chain. -/
theorem getLast?_failures (failure : Failure) :
    (failure.chain.filterMap Cause.failure?).getLast? = some failure.root := by
  induction failure using layers with
  | plain failure plain =>
    obtain ⟨root, chain, _⟩ := alone_of_plain plain
    rw [chain, root]
    rfl
  | foreign reporter text => rfl
  | wrapped reporter inner ih =>
    have failures : (chain (.callback reporter (.failure inner))).filterMap Cause.failure? =
        .callback reporter (.failure inner) :: inner.chain.filterMap Cause.failure? := rfl
    rw [failures, List.getLast?_cons, ih]
    rfl

private theorem root_root (failure : Failure) : failure.root.root = failure.root := by
  induction failure using layers with
  | plain failure plain =>
    have root := (alone_of_plain plain).1
    rw [root, root]
  | foreign reporter text => rfl
  | wrapped reporter inner ih => exact ih

private theorem below?_root_ne (failure inner : Failure) :
    (Cause.failure failure.root).below? ≠ some (.failure inner) := by
  induction failure using layers with
  | plain failure plain =>
    obtain ⟨root, _, below⟩ := alone_of_plain plain
    rw [root, below]
    exact nofun
  | foreign reporter text => exact nofun
  | wrapped reporter own ih => exact ih

private theorem root_eq_self_iff (failure : Failure) : failure.root = failure ↔
    failure.isCallback = false ∨ ∃ text, (Cause.failure failure).below? = some (.foreign text) := by
  induction failure using layers with
  | plain failure plain => exact iff_of_true (alone_of_plain plain).1 (.inl plain)
  | foreign reporter text => exact iff_of_true rfl (.inr ⟨text, rfl⟩)
  | wrapped reporter inner =>
    constructor
    · -- Otherwise the inner failure would lie right below a root.
      intro same
      have below := below?_root_ne (.callback reporter (.failure inner)) inner
      rw [same] at below
      exact absurd rfl below
    · rintro (plain | ⟨text, below⟩)
      · cases plain
      · cases below

private theorem isCallback_root_iff (failure : Failure) :
    failure.root.isCallback = true ↔ ∃ text, failure.chain.getLast? = some (.foreign text) := by
  induction failure using layers with
  | plain failure plain =>
    obtain ⟨root, chain, _⟩ := alone_of_plain plain
    simp [root, chain, plain]
  | foreign reporter text => exact iff_of_true rfl ⟨text, rfl⟩
  | wrapped reporter inner ih =>
    rw [chain_wrapped, chain, List.getLast?_cons_cons, ← chain]
    exact ih

/-- A failure is its root, wrapped by callbacks. -/
theorem exists_wrapped_root (failure : Failure) :
    ∃ callbacks, .failure failure = (Cause.failure failure.root).wrapped callbacks := by
  induction failure using layers with
  | plain failure plain =>
    rw [(alone_of_plain plain).1]
    exact ⟨[], rfl⟩
  | foreign reporter text => exact ⟨[], rfl⟩
  | wrapped reporter inner ih =>
    obtain ⟨callbacks, wraps⟩ := ih
    exact ⟨reporter :: callbacks, congrArg (fun cause => Cause.failure (.callback reporter cause)) wraps⟩

end Failure

/-- However many callbacks wrap it, a failure comes down to its root, in its chain as in its message. -/
theorem failure_unwraps_to_root (failure : Failure) : failure.Unwraps := by
  obtain ⟨callbacks, wraps⟩ := failure.exists_wrapped_root
  have message : failure.message = String.join (callbacks.map Callback.lead) ++ failure.root.message :=
    (congrArg Cause.message wraps).trans (Cause.message_wrapped callbacks _)
  constructor
  case chain => exact failure.chain_links
  case root => exact failure.getLast?_failures
  case again => exact failure.root_root
  case itself => exact failure.root_eq_self_iff
  case foreign => exact failure.isCallback_root_iff
  case message => exact ⟨callbacks, wraps, message⟩

end StateMachine

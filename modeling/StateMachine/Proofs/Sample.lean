import StateMachine.Definition.Compilation
import StateMachine.Definition.Sample
import StateMachine.Machine.Session

/-! A sample session: entering the second of three states leads on to the third one, on the way to which
the action fails. -/
namespace StateMachine.Sample

/-- The table of the sample machine that runs from its first state to its last one. -/
def table : Table where
  name := "init_final"
  states := ["init", "running", "final"]
  events := [⟨"run", none⟩, ⟨"finish", none⟩]
  cells := #[some ⟨1⟩, none, none, some ⟨2⟩, none, none, none, none]

theorem compile_initFinal : Definition.Sample.initFinal.compile .permissive = .ok ⟨table, 0⟩ := rfl

def run : Action Nat Unit Unit := fun _ => .write (· + 1) (.done (.ok ()))

def finish : Action Nat Unit Unit := fun _ => .write (· + 1) (.done (.error (.foreign "too late")))

def running : Entry Nat Unit Unit := fun _ =>
  .trigger (.name "finish") () fun outcome => .done (outcome.mapError .failure)

def callbacks : Callbacks (Action Nat Unit Unit) (Entry Nat Unit Unit) where
  actions := #[some run, some finish]
  entries := #[none, some running, none]

theorem callbacks_action? {event : EventId} {action : Action Nat Unit Unit}
    (present : callbacks.action? event = some action) : action = run ∨ action = finish := by
  have known : event.index = 0 ∨ event.index = 1 ∨ 2 ≤ event.index := by omega
  rcases known with first | second | beyond
  · simp only [Callbacks.action?, callbacks, first] at present
    cases present
    exact .inl rfl
  · simp only [Callbacks.action?, callbacks, second] at present
    cases present
    exact .inr rfl
  · have absent : callbacks.actions[event.index]? = none := Array.getElem?_eq_none beyond
    rw [Callbacks.action?, absent] at present
    cases present

theorem callbacks_entry? {state : StateId} {entry : Entry Nat Unit Unit}
    (present : callbacks.entry? state = some entry) : entry = running := by
  have known : state.index = 0 ∨ state.index = 1 ∨ state.index = 2 ∨ 3 ≤ state.index := by omega
  rcases known with first | second | third | beyond
  · simp only [Callbacks.entry?, callbacks, first] at present
    cases present
  · simp only [Callbacks.entry?, callbacks, second] at present
    cases present
    rfl
  · simp only [Callbacks.entry?, callbacks, third] at present
    cases present
  · have absent : callbacks.entries[state.index]? = none := Array.getElem?_eq_none beyond
    rw [Callbacks.entry?, absent] at present
    cases present

def world : World Nat Unit Unit where
  clock := fun _ => ⟨0, 0⟩
  readings := 0
  flags := {}
  shared := ()
  trace := []

def machine (policy : Policy) : Machine Nat Unit Unit :=
  { (Machine.new table 0 policy : Machine Nat Unit Unit) with callbacks }

def session (policy : Policy) : Session Nat Unit Unit := ⟨machine policy, world⟩

def token : Token := { flag := some 0 }

/-- An action that holds a clone of a token, and cancels it. -/
def withdraw : Action Nat Unit Unit := fun _ => .cancel token (.done (.ok ()))

/-- The sample session, but the first action cancels the token. -/
def withdrawing (policy : Policy) : Session Nat Unit Unit :=
  ⟨{ machine policy with callbacks := { callbacks with actions := #[some withdraw, some finish] } }, world⟩

/-- A token with a deadline at the second reading of a clock that goes on by a second at every reading. -/
def timed : Token := { deadline := some ⟨1, 0⟩ }

def ticking (policy : Policy) : Session Nat Unit Unit :=
  ⟨machine policy, { world with clock := fun reading => ⟨reading, 0⟩ }⟩

end StateMachine.Sample

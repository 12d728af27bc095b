import StateMachine.Machine.Dispatch

namespace StateMachine.Session

variable {D P σ : Type} {session : Session D P σ} {submission : Submission P}

/-- The reasons to refuse a submission, each of which only counts where the ones before it do not hold. -/
inductive Refusal (session : Session D P σ) (submission : Submission P) : Failure → Prop where
  | cancelled (raised : session.world.flags.isCancelled submission.token = true) :
      Refusal session submission (.cancelled (session.machine.table.eventLabel submission.event))
  | late (calm : session.world.flags.isCancelled submission.token = false)
      (expired : submission.token.isExpired session.now = true) :
      Refusal session submission (.deadlineExceeded (session.machine.table.eventLabel submission.event))
  | deep {limit : Nat} (calm : session.world.flags.isCancelled submission.token = false)
      (timely : submission.token.isExpired session.now = false)
      (limited : session.machine.policy.maxDepth = some limit)
      (exceeded : limit < session.machine.depth) :
      Refusal session submission
        (.depthExceeded (session.machine.table.eventLabel submission.event) limit)
  | stuck (calm : session.world.flags.isCancelled submission.token = false)
      (timely : submission.token.isExpired session.now = false)
      (shallow : ∀ limit, session.machine.policy.maxDepth = some limit → session.machine.depth ≤ limit)
      (own : session.machine.table.rule? (.state session.machine.current) submission.event = none)
      (wildcard : session.machine.table.rule? .wildcard submission.event = none) :
      Refusal session submission
        (.invalidTransition session.machine.stateName
          (session.machine.table.eventLabel submission.event))

/-- What it takes for a submission to be applied. -/
structure Acceptance (session : Session D P σ) (submission : Submission P) (target : StateId) : Prop where
  calm : session.world.flags.isCancelled submission.token = false
  timely : submission.token.isExpired session.now = false
  shallow : ∀ limit, session.machine.policy.maxDepth = some limit → session.machine.depth ≤ limit
  resolved : session.machine.table.resolve? session.machine.current submission.event = some target

theorem refusal_or_acceptance (session : Session D P σ) (submission : Submission P) :
    (∃ failure, session.Refusal submission failure) ∨ ∃ target, session.Acceptance submission target := by
  by_cases raised : session.world.flags.isCancelled submission.token = true
  · exact .inl ⟨_, .cancelled raised⟩
  have calm := Bool.eq_false_iff.mpr raised
  by_cases expired : submission.token.isExpired session.now = true
  · exact .inl ⟨_, .late calm expired⟩
  have timely := Bool.eq_false_iff.mpr expired
  by_cases deep : ∃ limit, session.machine.policy.maxDepth = some limit ∧ limit < session.machine.depth
  · obtain ⟨limit, limited, exceeded⟩ := deep
    exact .inl ⟨_, .deep calm timely limited exceeded⟩
  have shallow : ∀ limit, session.machine.policy.maxDepth = some limit →
      session.machine.depth ≤ limit := by
    intro limit limited
    exact Nat.le_of_not_lt fun exceeded => deep ⟨limit, limited, exceeded⟩
  cases resolved : session.machine.table.resolve? session.machine.current submission.event with
  | some target => exact .inr ⟨target, calm, timely, shallow, resolved⟩
  | none =>
    obtain ⟨own, wildcard⟩ := Option.or_eq_none_iff.mp resolved
    exact .inl ⟨_, .stuck calm timely shallow own wildcard⟩

private theorem target_shallow (calm : session.world.flags.isCancelled submission.token = false)
    (timely : submission.token.isExpired session.now = false)
    (shallow : ∀ limit, session.machine.policy.maxDepth = some limit → session.machine.depth ≤ limit) :
    session.target submission =
      match session.machine.table.resolve? session.machine.current submission.event with
      | none => .error (.invalidTransition session.machine.stateName
          (session.machine.table.eventLabel submission.event))
      | some target => .ok target := by
  cases limited : session.machine.policy.maxDepth with
  | none => simp [target, Token.check, calm, timely, limited, bind, Except.bind]; rfl
  | some limit =>
    have bounded := Nat.not_lt_of_le (shallow limit limited)
    simp [target, Token.check, calm, timely, limited, bounded, bind, Except.bind]
    rfl

theorem Refusal.target_eq {failure : Failure} (refusal : session.Refusal submission failure) :
    session.target submission = .error failure := by
  cases refusal with
  | cancelled raised => simp [target, Token.check, raised, bind, Except.bind]
  | late calm expired => simp [target, Token.check, calm, expired, bind, Except.bind]
  | deep calm timely limited exceeded =>
    simp [target, Token.check, calm, timely, limited, exceeded, bind, Except.bind]
    rfl
  | stuck calm timely shallow own wildcard =>
    simp [target_shallow calm timely shallow, Table.resolve?, own, wildcard]

theorem Acceptance.target_eq {target : StateId} (acceptance : session.Acceptance submission target) :
    session.target submission = .ok target := by
  rw [target_shallow acceptance.calm acceptance.timely acceptance.shallow, acceptance.resolved]

theorem target_eq_error_iff {failure : Failure} :
    session.target submission = .error failure ↔ session.Refusal submission failure := by
  refine ⟨fun refused => ?_, Refusal.target_eq⟩
  rcases session.refusal_or_acceptance submission with ⟨_, refusal⟩ | ⟨_, acceptance⟩
  · cases refusal.target_eq.symm.trans refused
    exact refusal
  · cases acceptance.target_eq.symm.trans refused

theorem target_eq_ok_iff {target : StateId} :
    session.target submission = .ok target ↔ session.Acceptance submission target := by
  refine ⟨fun found => ?_, Acceptance.target_eq⟩
  rcases session.refusal_or_acceptance submission with ⟨_, refusal⟩ | ⟨_, acceptance⟩
  · cases refusal.target_eq.symm.trans found
  · cases acceptance.target_eq.symm.trans found
    exact acceptance

end StateMachine.Session

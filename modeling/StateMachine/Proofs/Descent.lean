import StateMachine.Proofs.Deadline
import StateMachine.Proofs.Stopping

/-!
The descent of tokens. A token is made from nothing, or from the clone of another one; it shares its flag
with all that descend from the same origin, and its deadline with nothing.
-/
namespace StateMachine

/-- What is done to the clone of a token. -/
inductive Change where
  | none
  | deadline (deadline : Instant)
  | timeout (now : Instant) (timeout : Timeout)

namespace Change

def apply : Change → Token → Token
  | none, token => token
  | deadline instant, token => token.withDeadline instant
  | timeout now span, token => token.withTimeout now span

/-- The deadline that a change sets, if it sets any. -/
def deadline? : Change → Option Instant
  | none => Option.none
  | deadline instant => some instant
  | timeout now span => now.after? span

private theorem apply_flag (change : Change) (token : Token) : (change.apply token).flag = token.flag := by
  cases change with
  | none | deadline => rfl
  | timeout now span =>
    rw [apply, Token.withTimeout_eq]
    cases now.after? span <;> rfl

private theorem apply_deadline (change : Change) (token : Token) :
    (change.apply token).deadline = change.deadline?.or token.deadline := by
  cases change with
  | none | deadline => rfl
  | timeout now span =>
    rw [apply, deadline?, Token.withTimeout_eq]
    cases now.after? span <;> rfl

end Change

/-- What can be done with tokens, which are numbered in the order in which they are made. -/
inductive Handling where
  | unbounded
  | issue
  | clone (origin : Nat) (change : Change)
  | cancel (token : Nat)

namespace Handling

def makes : Handling → Bool
  | cancel _ => false
  | _ => true

/-- The token that is cloned or cancelled. -/
def token? : Handling → Option Nat
  | clone origin _ => some origin
  | cancel token => some token
  | _ => none

end Handling

/-- The handlings that make a token. -/
def makings (handlings : List Handling) : List Handling := handlings.filter Handling.makes

/-- The tokens made so far, and the flags. -/
structure Holding where
  flags : Flags := {}
  tokens : List Token := []

/-- Only a token that has been made can be cloned or cancelled. -/
def Holding.handle (holding : Holding) : Handling → Option Holding
  | .unbounded => some { holding with tokens := holding.tokens ++ [.unbounded] }
  | .issue => some ⟨holding.flags.issue.2, holding.tokens ++ [holding.flags.issue.1]⟩
  | .clone origin change =>
    holding.tokens[origin]?.map fun token =>
      { holding with tokens := holding.tokens ++ [change.apply token] }
  | .cancel token =>
    holding.tokens[token]?.map fun token => { holding with flags := holding.flags.cancel token }

/-- One handling after the other. -/
def Holding.run (holding : Holding) (handlings : List Handling) : Option Holding :=
  handlings.foldlM handle holding

/-- How a token descends from another one: by these changes on the way. -/
inductive Descends (made : List Handling) (root : Nat) : Nat → List Change → Prop where
  | self : Descends made root root []
  | clone {token origin : Nat} {change : Change} {changes : List Change}
      (cloned : made[token]? = some (.clone origin change))
      (line : Descends made root origin changes) : Descends made root token (changes ++ [change])

/-- What a token is like that came about by a handling. -/
def Holding.Fits (holding : Holding) (index : Nat) (token : Token) : Handling → Prop
  | .unbounded => token = .unbounded
  | .issue => ∃ flag, flag < holding.flags.issued ∧ token = { flag := some flag }
  | .clone origin change => ∃ source, origin < index ∧ holding.tokens[origin]? = some source ∧
      token = change.apply source
  | .cancel _ => False

/-- What handlings have led to: every token is as it was made, no two new tokens have the same flag, and
the flags that are raised are those of cancelled tokens. -/
structure Holding.Sound (handlings : List Handling) (holding : Holding) : Prop where
  length : holding.tokens.length = (makings handlings).length
  fits : ∀ index handling token, (makings handlings)[index]? = some handling →
    holding.tokens[index]? = some token → holding.Fits index token handling
  apart : ∀ (first second : Nat) (token other : Token), (makings handlings)[first]? = some .issue →
    (makings handlings)[second]? = some .issue → holding.tokens[first]? = some token →
    holding.tokens[second]? = some other → token.flag = other.flag → first = second
  within : ∀ index, .cancel index ∈ handlings → index < holding.tokens.length
  raised : ∀ flag, flag ∈ holding.flags.raised ↔ ∃ index token, .cancel index ∈ handlings ∧
    holding.tokens[index]? = some token ∧ token.flag = some flag

namespace Holding

variable {handlings : List Handling} {holding : Holding}

private theorem handle_isSome {handling : Handling}
    (held : ∀ index, handling.token? = some index → index < holding.tokens.length) :
    ∃ later, holding.handle handling = some later := by
  cases handling with
  | unbounded | issue => exact ⟨_, rfl⟩
  | clone index | cancel index =>
    simp only [handle, List.getElem?_eq_getElem (held index rfl), Option.map_some]
    exact ⟨_, rfl⟩

end Holding

private theorem makings_snoc_of_makes {handlings : List Handling} {handling : Handling}
    (makes : handling.makes = true) : makings (handlings ++ [handling]) = makings handlings ++ [handling] := by
  simp [makings, makes]

private theorem getElem?_snoc_both {α β : Type} {list : List α} {other : List β} {last element : α}
    {last_too element_too : β} {index : Nat} (same : list.length = other.length)
    (found : (list ++ [last])[index]? = some element)
    (found_too : (other ++ [last_too])[index]? = some element_too) :
    (list[index]? = some element ∧ other[index]? = some element_too) ∨
      index = list.length ∧ element = last ∧ element_too = last_too := by
  rcases Nat.lt_trichotomy index list.length with inside | rfl | beyond
  · rw [List.getElem?_append_left inside] at found
    rw [List.getElem?_append_left (same ▸ inside)] at found_too
    exact .inl ⟨found, found_too⟩
  · rw [List.getElem?_concat_length] at found
    rw [same, List.getElem?_concat_length] at found_too
    exact .inr ⟨rfl, (Option.some.inj found).symm, (Option.some.inj found_too).symm⟩
  · rw [List.getElem?_eq_none (by simp; omega)] at found
    cases found

private theorem Holding.Fits.mono {holding later : Holding} {index : Nat} {token : Token}
    {handling : Handling}
    (fits : holding.Fits index token handling) (issued : holding.flags.issued ≤ later.flags.issued)
    (kept : ∀ (index : Nat) (token : Token), holding.tokens[index]? = some token →
      later.tokens[index]? = some token) :
    later.Fits index token handling := by
  cases handling with
  | unbounded | cancel => exact fits
  | issue =>
    obtain ⟨flag, below, same⟩ := fits
    exact ⟨flag, Nat.lt_of_lt_of_le below issued, same⟩
  | clone origin change =>
    obtain ⟨source, earlier, found, same⟩ := fits
    exact ⟨source, earlier, kept _ _ found, same⟩

namespace Holding.Sound

variable {handlings : List Handling} {holding : Holding} (sound : holding.Sound handlings)
include sound

/-- One more token is made, with a flag of its own or without a new flag. -/
theorem make {handling : Handling} {token : Token} {issued : Nat} (makes : handling.makes = true)
    (more : holding.flags.issued ≤ issued)
    (fits : Holding.Fits ⟨{ holding.flags with issued }, holding.tokens ++ [token]⟩ holding.tokens.length token
      handling)
    (fresh : handling = .issue → token.flag = some holding.flags.issued) :
    Holding.Sound (handlings ++ [handling]) ⟨{ holding.flags with issued }, holding.tokens ++ [token]⟩ := by
  have kept (index : Nat) (old : Token) (found : holding.tokens[index]? = some old) :
      (holding.tokens ++ [token])[index]? = some old := by
    rw [List.getElem?_append_left (List.getElem?_eq_some_iff.mp found).1, found]
  have apart {index : Nat} {old : Token} (issues : (makings handlings)[index]? = some .issue)
      (found : holding.tokens[index]? = some old) (last : handling = .issue) : old.flag ≠ token.flag := by
    obtain ⟨flag, below, rfl⟩ := sound.fits _ _ _ issues found
    rw [fresh last]
    intro same
    exact Nat.ne_of_lt below (Option.some.inj same)
  have cancels (index : Nat) : .cancel index ∈ handlings ++ [handling] ↔ .cancel index ∈ handlings := by
    rw [List.mem_append, List.mem_singleton, or_iff_left]
    rintro rfl
    cases makes
  constructor
  · rw [makings_snoc_of_makes makes, List.length_append, List.length_append, sound.length]
    rfl
  · intro index made old at_made at_tokens
    rw [makings_snoc_of_makes makes] at at_made
    rcases getElem?_snoc_both sound.length at_tokens at_made with ⟨found, found_made⟩ | ⟨rfl, rfl, rfl⟩
    · exact Holding.Fits.mono (sound.fits _ _ _ found_made found) more kept
    · exact fits
  · intro first second one other issues issues_too at_first at_second same
    rw [makings_snoc_of_makes makes] at issues issues_too
    rcases getElem?_snoc_both sound.length at_first issues with ⟨found, issued⟩ | ⟨rfl, rfl, last⟩
    · rcases getElem?_snoc_both sound.length at_second issues_too with ⟨found_too, issued_too⟩ | ⟨rfl, rfl, last⟩
      · exact sound.apart _ _ _ _ issued issued_too found found_too same
      · exact absurd same (apart issued found last.symm)
    · rcases getElem?_snoc_both sound.length at_second issues_too with ⟨found_too, issued_too⟩ | ⟨rfl, rfl, _⟩
      · exact absurd same.symm (apart issued_too found_too last.symm)
      · rfl
  · intro index member
    rw [cancels] at member
    rw [List.length_append]
    exact Nat.lt_add_right _ (sound.within _ member)
  · intro flag
    rw [sound.raised]
    constructor
    · intro cancelled
      obtain ⟨index, old, member, found, same⟩ := cancelled
      exact ⟨index, old, (cancels index).mpr member, kept _ _ found, same⟩
    · intro cancelled
      obtain ⟨index, old, member, found, same⟩ := cancelled
      rw [cancels] at member
      rw [List.getElem?_append_left (sound.within _ member)] at found
      exact ⟨index, old, member, found, same⟩

theorem cancel {index : Nat} {token : Token} (found : holding.tokens[index]? = some token) :
    Holding.Sound (handlings ++ [.cancel index]) { holding with flags := holding.flags.cancel token } := by
  have issued : (holding.flags.cancel token).issued = holding.flags.issued := by
    unfold Flags.cancel
    split <;> rfl
  have raises (flag : Nat) : flag ∈ (holding.flags.cancel token).raised ↔
      flag ∈ holding.flags.raised ∨ token.flag = some flag := by
    unfold Flags.cancel
    split
    · rename_i none
      simp [none]
    · rename_i own some
      simp [some, or_comm, eq_comm]
  have made : makings (handlings ++ [.cancel index]) = makings handlings := by
    simp [makings, Handling.makes]
  constructor
  · rw [made]
    exact sound.length
  · intro other made_by old at_made at_tokens
    rw [made] at at_made
    exact Holding.Fits.mono (sound.fits _ _ _ at_made at_tokens) (Nat.le_of_eq issued.symm)
      fun _ _ held => held
  · rw [made]
    exact sound.apart
  · intro other member
    rcases List.mem_append.mp member with earlier | last
    · exact sound.within _ earlier
    · cases List.mem_singleton.mp last
      exact (List.getElem?_eq_some_iff.mp found).1
  · intro flag
    rw [raises, sound.raised]
    constructor
    · intro cancelled
      rcases cancelled with ⟨other, old, member, held, same⟩ | same
      · exact ⟨other, old, List.mem_append_left _ member, held, same⟩
      · exact ⟨index, token, by simp, found, same⟩
    · intro cancelled
      obtain ⟨other, old, member, held, same⟩ := cancelled
      rcases List.mem_append.mp member with earlier | last
      · exact .inl ⟨other, old, earlier, held, same⟩
      · cases List.mem_singleton.mp last
        cases found.symm.trans held
        exact .inr same

private theorem handle {handling : Handling} {later : Holding}
    (handled : holding.handle handling = some later) :
    later.Sound (handlings ++ [handling]) := by
  cases handling with
  | unbounded =>
    cases handled
    exact sound.make rfl (Nat.le_refl _) rfl nofun
  | issue =>
    cases handled
    exact sound.make rfl (Nat.le_succ _) ⟨_, Nat.lt_succ_self _, rfl⟩ fun _ => rfl
  | clone origin change =>
    obtain ⟨source, found, rfl⟩ := Option.map_eq_some_iff.mp handled
    have inside := (List.getElem?_eq_some_iff.mp found).1
    refine sound.make rfl (Nat.le_refl _) ⟨source, inside, ?_, rfl⟩ nofun
    rw [List.getElem?_append_left inside, found]
  | cancel index =>
    obtain ⟨token, found, rfl⟩ := Option.map_eq_some_iff.mp handled
    exact sound.cancel found

theorem run {more : List Handling} {later : Holding} (ran : holding.run more = some later) :
    later.Sound (handlings ++ more) := by
  induction more generalizing handlings holding with
  | nil =>
    cases ran
    rwa [List.append_nil]
  | cons handling more ih =>
    obtain ⟨next, handled, ran⟩ := Option.bind_eq_some_iff.mp ran
    rw [List.append_cons]
    exact ih (sound.handle handled) ran

end Holding.Sound

private theorem Holding.sound_of_run {handlings : List Handling} {holding : Holding}
    (ran : Holding.run {} handlings = some holding) : holding.Sound handlings := by
  have empty : Holding.Sound [] {} := ⟨rfl, nofun, nofun, nofun, by simp⟩
  exact empty.run ran

private theorem Flags.isCancelled_iff {flags : Flags} {token : Token} :
    flags.isCancelled token = true ↔ ∃ flag, token.flag = some flag ∧ flag ∈ flags.raised := by
  simp [isCancelled, Option.any_eq_true]

namespace Holding.Sound

variable {handlings : List Handling} {holding : Holding} (sound : holding.Sound handlings)
include sound

private theorem token_of_making {index : Nat} {handling : Handling}
    (made : (makings handlings)[index]? = some handling) :
    ∃ token, holding.tokens[index]? = some token ∧ holding.Fits index token handling := by
  have inside : index < holding.tokens.length := by
    rw [sound.length]
    exact (List.getElem?_eq_some_iff.mp made).1
  have found := List.getElem?_eq_getElem inside
  exact ⟨_, found, sound.fits _ _ _ made found⟩

/-- Along a line of descent the flag stays, and the deadline is the one that was set last. -/
theorem descendant {root index : Nat} {changes : List Change} {origin : Token}
    (line : Descends (makings handlings) root index changes) (found : holding.tokens[root]? = some origin) :
    ∃ token, holding.tokens[index]? = some token ∧ token.flag = origin.flag ∧
      token.deadline = (changes.filterMap Change.deadline?).getLast?.or origin.deadline := by
  induction line with
  | self => exact ⟨origin, found, rfl, rfl⟩
  | @clone _ _ change changes cloned line ih =>
    obtain ⟨source, at_source, flag, deadline⟩ := ih
    obtain ⟨_, at_token, _, _, again, rfl⟩ := sound.token_of_making cloned
    cases again.symm.trans at_source
    refine ⟨_, at_token, (change.apply_flag source).trans flag, ?_⟩
    rw [change.apply_deadline, deadline, List.filterMap_append]
    cases sets : change.deadline? <;> simp [sets]

/-- Every token descends from one that was made from nothing. -/
theorem origin {index : Nat} (inside : index < holding.tokens.length) :
    ∃ root changes, Descends (makings handlings) root index changes ∧
      ((makings handlings)[root]? = some .issue ∨ (makings handlings)[root]? = some .unbounded) := by
  induction index using Nat.strongRecOn with
  | ind index ih =>
    obtain ⟨handling, made⟩ : ∃ handling, (makings handlings)[index]? = some handling :=
      ⟨_, List.getElem?_eq_getElem (sound.length ▸ inside)⟩
    obtain ⟨token, _, fits⟩ := sound.token_of_making made
    cases handling with
    | issue => exact ⟨index, [], .self, .inl made⟩
    | unbounded => exact ⟨index, [], .self, .inr made⟩
    | clone origin change =>
      obtain ⟨_, earlier, _⟩ := fits
      obtain ⟨root, changes, line, rooted⟩ := ih origin earlier (Nat.lt_trans earlier inside)
      exact ⟨root, changes ++ [change], .clone made line, rooted⟩
    | cancel other => cases fits

/-- A token with a flag descends from the new token that the flag was issued for. -/
theorem flagged {index flag : Nat} {token : Token} (held : holding.tokens[index]? = some token)
    (own : token.flag = some flag) :
    ∃ root changes origin, (makings handlings)[root]? = some .issue ∧
      Descends (makings handlings) root index changes ∧ holding.tokens[root]? = some origin ∧
      origin.flag = some flag := by
  obtain ⟨root, changes, line, rooted⟩ := sound.origin (List.getElem?_eq_some_iff.mp held).1
  rcases rooted with issued | unbounded
  · obtain ⟨origin, found, _⟩ := sound.token_of_making issued
    obtain ⟨_, again, same, _⟩ := sound.descendant line found
    cases held.symm.trans again
    exact ⟨root, changes, origin, issued, line, found, same.symm.trans own⟩
  · obtain ⟨origin, found, rfl⟩ := sound.token_of_making unbounded
    obtain ⟨_, again, same, _⟩ := sound.descendant line found
    cases held.symm.trans again
    cases own.symm.trans same

/-- Flags are shared by all that descend from one new token, and by nothing else. -/
theorem isCancelled_iff {index : Nat} {token : Token} (held : holding.tokens[index]? = some token) :
    holding.flags.isCancelled token = true ↔ ∃ root changes, (makings handlings)[root]? = some .issue ∧
      Descends (makings handlings) root index changes ∧
      ∃ other more, .cancel other ∈ handlings ∧ Descends (makings handlings) root other more := by
  rw [Flags.isCancelled_iff]
  constructor
  · intro cancelled
    obtain ⟨flag, own, raised⟩ := cancelled
    obtain ⟨other, token_too, member, held_too, own_too⟩ := (sound.raised flag).mp raised
    obtain ⟨root, changes, origin, issued, line, found, same⟩ := sound.flagged held own
    obtain ⟨root_too, more, origin_too, issued_too, line_too, found_too, same_too⟩ :=
      sound.flagged held_too own_too
    have one := sound.apart _ _ _ _ issued issued_too found found_too (same.trans same_too.symm)
    exact ⟨root, changes, issued, line, other, more, member, one ▸ line_too⟩
  · intro descends
    obtain ⟨root, changes, issued, line, other, more, member, line_too⟩ := descends
    obtain ⟨origin, found, flag, _, rfl⟩ := sound.token_of_making issued
    obtain ⟨_, again, same, _⟩ := sound.descendant line found
    obtain ⟨token_too, held_too, same_too, _⟩ := sound.descendant line_too found
    cases held.symm.trans again
    exact ⟨flag, same, (sound.raised flag).mpr ⟨other, token_too, member, held_too, same_too⟩⟩

/-- What descends from an unbounded token has no flag, and what descends from it or from a new token has the
deadline that was set last on the way. -/
theorem deadline_of_descent {root index : Nat} {changes : List Change} {token : Token}
    (held : holding.tokens[index]? = some token) (line : Descends (makings handlings) root index changes)
    (rooted : (makings handlings)[root]? = some .issue ∨ (makings handlings)[root]? = some .unbounded) :
    token.deadline = (changes.filterMap Change.deadline?).getLast? ∧
      ((makings handlings)[root]? = some .unbounded → token.flag = none) := by
  rcases rooted with made | made
  · obtain ⟨origin, found, flag, _, rfl⟩ := sound.token_of_making made
    obtain ⟨_, again, _, deadline⟩ := sound.descendant line found
    cases held.symm.trans again
    exact ⟨deadline.trans (Option.or_none ..), fun other => by cases made.symm.trans other⟩
  · obtain ⟨origin, found, rfl⟩ := sound.token_of_making made
    obtain ⟨_, again, flag, deadline⟩ := sound.descendant line found
    cases held.symm.trans again
    exact ⟨deadline.trans (Option.or_none ..), fun _ => flag⟩

end Holding.Sound

/-- Nothing that is done later changes a token, or lowers its flag. -/
theorem Holding.run_keeps {holding later : Holding} {handlings : List Handling}
    (ran : holding.run handlings = some later) {index : Nat} {token : Token}
    (held : holding.tokens[index]? = some token) :
    later.tokens[index]? = some token ∧
      (holding.flags.isCancelled token = true → later.flags.isCancelled token = true) := by
  induction handlings generalizing holding with
  | nil =>
    cases ran
    exact ⟨held, id⟩
  | cons handling handlings ih =>
    obtain ⟨next, handled, ran⟩ := Option.bind_eq_some_iff.mp ran
    have inside := (List.getElem?_eq_some_iff.mp held).1
    have kept (last : Token) : (holding.tokens ++ [last])[index]? = some token := by
      rw [List.getElem?_append_left inside, held]
    cases handling with
    | unbounded =>
      cases handled
      obtain ⟨same, lasting⟩ := ih ran (kept _)
      exact ⟨same, lasting⟩
    | issue =>
      cases handled
      obtain ⟨same, lasting⟩ := ih ran (kept _)
      exact ⟨same, lasting⟩
    | clone origin change =>
      obtain ⟨source, _, rfl⟩ := Option.map_eq_some_iff.mp handled
      obtain ⟨same, lasting⟩ := ih ran (kept _)
      exact ⟨same, lasting⟩
    | cancel other =>
      obtain ⟨cancelled, _, rfl⟩ := Option.map_eq_some_iff.mp handled
      obtain ⟨same, lasting⟩ := ih ran held
      exact ⟨same, fun raised => lasting (Flags.isCancelled_cancel cancelled raised)⟩

/-- What holds of a token after some handlings. It is cancelled exactly if it descends from a new token from
which a token descends that has been cancelled. Its deadline is the one that was set last on its own line of
descent. Both decide how it checks, and what time is left: none exactly if the deadline has passed, and the
other way round where a leap second overhangs the day. -/
structure Holding.Accounts (handlings : List Handling) (holding : Holding) (index : Nat) (token : Token) :
    Prop where
  cancelled : holding.flags.isCancelled token = true ↔ ∃ root changes,
    (makings handlings)[root]? = some .issue ∧ Descends (makings handlings) root index changes ∧
      ∃ other more, .cancel other ∈ handlings ∧ Descends (makings handlings) root other more
  immune : ∀ root changes, (makings handlings)[root]? = some .unbounded →
    Descends (makings handlings) root index changes → holding.flags.isCancelled token = false
  lasting : ∀ more later, holding.run more = some later → later.tokens[index]? = some token ∧
    (holding.flags.isCancelled token = true → later.flags.isCancelled token = true)
  descends : ∃ root changes, Descends (makings handlings) root index changes ∧
    ((makings handlings)[root]? = some .issue ∨ (makings handlings)[root]? = some .unbounded)
  deadline : ∀ root changes, Descends (makings handlings) root index changes →
    ((makings handlings)[root]? = some .issue ∨ (makings handlings)[root]? = some .unbounded) →
    token.deadline = (changes.filterMap Change.deadline?).getLast?
  unchanged : ∀ now timeout, now.after? timeout = none → (Change.timeout now timeout).apply token = token
  check_cancelled : ∀ now event, token.check holding.flags now event = .error (.cancelled event) ↔
    holding.flags.isCancelled token = true
  check_late : ∀ now event, token.check holding.flags now event = .error (.deadlineExceeded event) ↔
    holding.flags.isCancelled token = false ∧ ∃ deadline, token.deadline = some deadline ∧ deadline ≤ now
  check_ok : ∀ now event, token.check holding.flags now event = .ok () ↔
    holding.flags.isCancelled token = false ∧ ∀ deadline, token.deadline = some deadline → ¬ deadline ≤ now
  remaining : ∀ now : Instant, now.nano < 2 * Instant.nanosPerSecond →
    (∀ deadline, token.deadline = some deadline →
      deadline.nano < 2 * Instant.nanosPerSecond ∧ ¬ deadline.Overhangs now) →
    (token.remaining? now = some (0, 0) ↔ token.isExpired now = true)
  overhanging : ∀ now deadline : Instant, now.nano < 2 * Instant.nanosPerSecond →
    token.deadline = some deadline → deadline.nano < 2 * Instant.nanosPerSecond → deadline.Overhangs now →
    (token.remaining? now = some (0, 0) ↔ token.isExpired now = false)

end StateMachine

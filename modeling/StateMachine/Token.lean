import StateMachine.Failure
import StateMachine.Time.Calendar
import StateMachine.Time.Instant

/-!
Tokens, which stop triggers: a token may share a flag with other tokens, and may have a deadline of its
own.
-/
namespace StateMachine

/-- A token without a flag cannot be cancelled. -/
structure Token where
  flag : Option Nat := none
  deadline : Option Instant := none
  deriving DecidableEq

/-- The flags handed out so far and those among them that are raised. -/
structure Flags where
  issued : Nat := 0
  raised : List Nat := []
  deriving DecidableEq

structure Timeout where
  seconds : Nat
  nanos : Nat := 0
  deriving DecidableEq

/-- The longest timeout is the largest number of milliseconds that 63 bits hold. -/
def Timeout.isRepresentable (timeout : Timeout) : Bool :=
  timeout.seconds * 1000000000 + timeout.nanos ≤ 9223372036854775807000000

/-- The instant after a timeout, if the timeout is not too long and no year beyond the last is reached. -/
def Instant.after? (now : Instant) (timeout : Timeout) : Option Instant :=
  let nanos := now.nano + timeout.nanos
  let later : Instant :=
    ⟨now.second + timeout.seconds + (nanos / Instant.nanosPerSecond : Nat), nanos % Instant.nanosPerSecond⟩
  let day := later.second / Instant.secondsPerDay + Calendar.epoch
  if timeout.isRepresentable ∧ day < Calendar.daysBefore 262143 then some later else none

def Flags.issue (flags : Flags) : Token × Flags :=
  ({ flag := some flags.issued }, { flags with issued := flags.issued + 1 })

/-- Raises the flag of a token, if it has one. No flag is ever lowered. -/
def Flags.cancel (flags : Flags) (token : Token) : Flags :=
  match token.flag with
  | none => flags
  | some flag => { flags with raised := flag :: flags.raised }

def Flags.isCancelled (flags : Flags) (token : Token) : Bool := token.flag.any flags.raised.contains

namespace Token

def unbounded : Token := {}

def withDeadline (token : Token) (deadline : Instant) : Token := { token with deadline := some deadline }

/-- A deadline a while from now. The token stays as it is when there is no such instant. -/
def withTimeout (token : Token) (now : Instant) (timeout : Timeout) : Token :=
  match now.after? timeout with
  | none => token
  | some deadline => token.withDeadline deadline

def isExpired (token : Token) (now : Instant) : Bool := token.deadline.any fun deadline => deadline ≤ now

/-- The time left until the deadline, nothing once it has passed. -/
def remaining? (token : Token) (now : Instant) : Option (Nat × Nat) :=
  token.deadline.map fun deadline => (now.elapsed? deadline).getD (0, 0)

/-- Whether a trigger of an event may go on. Being cancelled comes before being late. -/
def check (token : Token) (flags : Flags) (now : Instant) (event : String) : Except Failure Unit :=
  if flags.isCancelled token then .error (.cancelled event)
  else if token.isExpired now then .error (.deadlineExceeded event)
  else .ok ()

end Token

end StateMachine

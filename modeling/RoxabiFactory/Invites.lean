import Mathlib.Algebra.Order.Ring.Int
import Mathlib.Data.Fintype.Basic
import Mathlib.Logic.Function.Basic
import RoxabiFactory.TransitionSystem

/-!
# Invites to the dashboard

An invite is pending until it is accepted, revoked or found to be expired.
`accept_invite` reads the row, makes the user and writes the status last, with
other calls running in between; only the statement of `revoke_invite` looks at
the status that it replaces.
-/

namespace RoxabiFactory

namespace Invites

inductive InviteStatus
  | pending
  | accepted
  | revoked
  | expired
  deriving DecidableEq

def InviteStatus.value : InviteStatus → String
  | .pending => "pending"
  | .accepted => "accepted"
  | .revoked => "revoked"
  | .expired => "expired"

/-- Where a call of `accept_invite` stands. -/
inductive Stage
  | called
  /-- The row has been read. -/
  | selected (status : InviteStatus)
  /-- The invite has been found to be expired. -/
  | expiring
  | expired
  /-- The invite is pending and has not expired. -/
  | checked
  /-- No user has the email. -/
  | unregistered
  | inserted
  | userCommitted
  | created
  /-- The status has been written. -/
  | accepted
  deriving DecidableEq

inductive Outcome
  | accepted
  /-- `ValueError`. -/
  | refused (message : String)
  | revoked (changed : Bool)
  deriving DecidableEq

inductive Phase
  | accept (stage : Stage)
  | revoke
  /-- The statement of `revoke_invite` has run. -/
  | revoking (changed : Bool)
  | returned (outcome : Outcome)
  deriving DecidableEq

/-- An invite, with the calls that have been made for it. -/
structure State (Task : Type) where
  now : ℤ
  expiresAt : ℤ
  status : InviteStatus := .pending
  /-- A user has the email of the invite. -/
  registered : Bool
  tasks : Task → Option Phase := fun _ => none

inductive Action (Task : Type)
  | accept (task : Task) (password : String)
  | revoke (task : Task)
  /-- A call goes on to its next await, or returns. -/
  | run (task : Task)
  /-- Another call makes a user with the email. -/
  | register
  | tick (time : ℤ)

variable {Task : Type} [DecidableEq Task]

namespace State

variable (state : State Task)

def setPhase (task : Task) (phase : Phase) : State Task :=
  { state with tasks := Function.update state.tasks task (some phase) }

def setStatus (status : InviteStatus) : State Task := { state with status := status }

def refuse (task : Task) (message : String) : State Task :=
  state.setPhase task (.returned (.refused message))

/-- The next part of `accept_invite`. -/
def accept (task : Task) : Stage → State Task
  | .called => state.setPhase task (.accept (.selected state.status))
  | .selected status =>
    if status ≠ .pending then
      state.refuse task ("invite not pending (" ++ status.value ++ ")")
    else if state.expiresAt < state.now then
      state.setPhase task (.accept .expiring)
    else state.setPhase task (.accept .checked)
  | .expiring =>
    (state.setStatus .expired).setPhase task (.accept .expired)
  | .expired => state.refuse task "invite expired"
  | .checked =>
    if state.registered then state.refuse task "email already registered"
    else state.setPhase task (.accept .unregistered)
  | .unregistered =>
    -- The index on the email lets one `INSERT` through.
    if state.registered then state.refuse task "email already registered"
    else { state with registered := true }.setPhase task (.accept .inserted)
  | .inserted => state.setPhase task (.accept .userCommitted)
  | .userCommitted => state.setPhase task (.accept .created)
  | .created =>
    (state.setStatus .accepted).setPhase task (.accept .accepted)
  | .accepted => state.setPhase task (.returned .accepted)

/-- The statement of `revoke_invite`. -/
def revoke (task : Task) : State Task :=
  if state.status = .pending then
    (state.setStatus .revoked).setPhase task (.revoking true)
  else state.setPhase task (.revoking false)

def step (state : State Task) : Action Task → Option (State Task)
  | .accept task password =>
    match state.tasks task with
    | none =>
      if password = "" then
        some (state.refuse task "token and password required")
      else some (state.setPhase task (.accept .called))
    | some _ => none
  | .revoke task =>
    match state.tasks task with
    | none => some (state.setPhase task .revoke)
    | some _ => none
  | .run task =>
    match state.tasks task with
    | some (.accept stage) => some (state.accept task stage)
    | some .revoke => some (state.revoke task)
    | some (.revoking changed) =>
      some (state.setPhase task (.returned (.revoked changed)))
    | some (.returned _) => none
    | none => none
  | .register => some { state with registered := true }
  | .tick time =>
    if state.now ≤ time then some { state with now := time } else none

end State

/-- `create_invite` has made the invite. -/
structure Created (state : State Task) : Prop where
  status : state.status = .pending
  idle : ∀ task, state.tasks task = none

def system (Task : Type) [DecidableEq Task] : TransitionSystem (State Task) (Action Task) where
  initial := Created
  step := State.step

/-! ## What an invite promises -/

namespace Phase

/-- A call of `accept_invite` has passed its checks, and its last statement is
to come. -/
def isAccepting : Phase → Bool
  | .accept .checked | .accept .unregistered | .accept .inserted
  | .accept .userCommitted | .accept .created => true
  | _ => false

/-- A call of `accept_invite` may still write the status. -/
def isBetween (phase : Phase) : Bool :=
  phase.isAccepting || decide (phase = .accept (.selected .pending)) ||
    decide (phase = .accept .expiring)

/-- The call has made the user. -/
def isWinner : Phase → Bool
  | .accept .inserted | .accept .userCommitted | .accept .created
  | .accept .accepted | .returned .accepted => true
  | _ => false

/-- The call has accepted the invite. -/
def isDone : Phase → Bool
  | .accept .accepted | .returned .accepted => true
  | _ => false

/-- The call has revoked the invite. -/
def isChanged : Phase → Bool
  | .revoking changed | .returned (.revoked changed) => changed
  | _ => false

end Phase

namespace State

variable (state : State Task)

/-- An invite that has been revoked or found to be expired is not accepted,
and no invite is accepted twice. -/
structure Honest : Prop where
  revoked : ∀ task, state.tasks task = some (.returned (.revoked true)) → state.status = .revoked ∧
      ∀ other, state.tasks other ≠ some (.returned .accepted)
  expired : state.status = .expired → ∀ task, state.tasks task ≠ some (.returned .accepted)
  once : ∀ task other, state.tasks task = some (.returned .accepted) →
    state.tasks other = some (.returned .accepted) → task = other

/-- The statement that revokes a pending invite, or marks one as expired, runs
when no call is on its way to another status. -/
def Alone : Option Phase → Prop
  | some .revoke => state.status = .pending →
      ∀ other, ∀ phase ∈ state.tasks other, phase.isBetween = false
  | some (.accept .expiring) => state.status ≠ .accepted ∧
      ∀ other, ∀ phase ∈ state.tasks other, phase.isAccepting = false
  | _ => True

def Orderly : Action Task → Prop
  | .run task => state.Alone (state.tasks task)
  | _ => True

section Decidable

variable [Fintype Task]

instance : ∀ phase, Decidable (state.Alone phase)
  | some .revoke => inferInstanceAs (Decidable (state.status = .pending →
      ∀ other, ∀ phase ∈ state.tasks other, phase.isBetween = false))
  | some (.accept .expiring) => inferInstanceAs (Decidable (state.status ≠ .accepted ∧
        ∀ other, ∀ phase ∈ state.tasks other, phase.isAccepting = false))
  | some (.accept .called) | some (.accept (.selected _))
  | some (.accept .expired) | some (.accept .checked)
  | some (.accept .unregistered) | some (.accept .inserted)
  | some (.accept .userCommitted) | some (.accept .created)
  | some (.accept .accepted) | some (.revoking _) | some (.returned _)
  | none => inferInstanceAs (Decidable True)

instance : ∀ action, Decidable (state.Orderly action)
  | .run task => inferInstanceAs (Decidable (state.Alone (state.tasks task)))
  | .accept _ _ | .revoke _ | .register | .tick _ =>
    inferInstanceAs (Decidable True)

end Decidable

end State

end Invites

end RoxabiFactory

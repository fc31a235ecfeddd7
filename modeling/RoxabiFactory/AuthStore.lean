import Mathlib.Algebra.Order.Ring.Int
import Mathlib.Data.Fintype.Basic
import Mathlib.Logic.Function.Basic
import RoxabiFactory.IdentityResolver
import RoxabiFactory.TransitionSystem

/-!
# The store of grants and bans

`AuthStore` keeps the rows of its table in a cache as well, and `check` reads
the cache alone.  `upsert` and `revoke` change the table with one statement,
commit, and change the cache last, with other tasks running in between; a
`check` that finds an expired entry takes it out of the cache and leaves the
row to a `revoke` that runs as a task of its own.
-/

namespace RoxabiFactory

open Wire

namespace AuthStore

/-- A row, or an entry of the cache; times are instants in UTC. -/
structure Grant where
  level : TrustLevel
  expiresAt : Option ℤ
  deriving DecidableEq

namespace Grant

/-- `expires_at is not None and _utc_now() > expires_at`. -/
def expired (now : ℤ) (grant : Grant) : Bool :=
  grant.expiresAt.any fun expiry => decide (expiry < now)

/-- `expires_at IS NULL OR expires_at > ?`. -/
def running (now : ℤ) (grant : Grant) : Bool :=
  grant.expiresAt.all fun expiry => decide (now < expiry)

/-- `expires_at IS NULL`. -/
def permanent (grant : Grant) : Bool := grant.expiresAt.isNone

end Grant

/-- What an operation does to the cache entry of its key after its commit: an
upsert leaves a permanent entry alone, a revocation takes the entry out. -/
def cacheStep (entry : Option Grant) : Option Grant → Option Grant
  | none => none
  | some grant =>
    match entry with
    | none => some grant
    | some existing =>
      if existing.permanent then some existing else some grant

/-- The grant that an upsert has put into the row of a key.  The writer is the
task of the upsert until it returns. -/
structure Stored (Task : Type) where
  grant : Grant
  writer : Option Task
  deriving DecidableEq

/-- What there is of a key.  `pending` lists the operations whose statement
has run and whose cache step is to come, in the order of their statements;
`stored` is the grant that the row got last, until a caller revokes the
key. -/
structure Slot (Task : Type) where
  /-- The row as the connection sees it. -/
  row : Option Grant := none
  committed : Option Grant := none
  cached : Option Grant := none
  pending : List (Task × Option Grant) := []
  stored : Option (Stored Task) := none

inductive Operation (Key : Type)
  | upsert (key : Key) (grant : Grant)
  | revoke (key : Key)

namespace Operation

variable {Key : Type}

def key : Operation Key → Key
  | .upsert key _ => key
  | .revoke key => key

/-- The grant that is stored, or none. -/
def effect : Operation Key → Option Grant
  | .upsert _ grant => some grant
  | .revoke _ => none

end Operation

/-- Which of its awaits an operation has passed. -/
inductive Stage
  | called
  | executed
  | committed
  deriving DecidableEq

structure State (Key Task : Type) where
  now : ℤ := 0
  slots : Key → Slot Task := fun _ => {}
  tasks : Task → Option (Operation Key × Stage) := fun _ => none

inductive Action (Key Task : Type)
  /-- `check`; an eviction that it starts is the task. -/
  | check (key : Key) (task : Task)
  | upsert (task : Task) (key : Key) (grant : Grant)
  | revoke (task : Task) (key : Key)
  /-- An operation goes on to its next await, or returns. -/
  | run (task : Task)
  | tick (time : ℤ)

variable {Key Task : Type} [DecidableEq Key] [DecidableEq Task]

/-- The entry is one of another operation. -/
def isOther (task : Task) (entry : Task × Option Grant) : Bool :=
  decide (entry.1 ≠ task)

namespace Slot

variable (slot : Slot Task)

/-- The statement of `upsert`; a permanent row stays. -/
def insert (task : Task) (grant : Grant) : Slot Task :=
  let pending := slot.pending ++ [(task, some grant)]
  if slot.row.any Grant.permanent then { slot with pending := pending }
  else
    { slot with
      row := some grant
      pending := pending
      stored := some ⟨grant, some task⟩ }

/-- The statement of `revoke`. -/
def delete (task : Task) : Slot Task :=
  { slot with row := none, pending := slot.pending ++ [(task, none)] }

def commit : Slot Task := { slot with committed := slot.row }

/-- The cache step of an operation, which returns then. -/
def finish (task : Task) (effect : Option Grant) : Slot Task :=
  { slot with
    cached := cacheStep slot.cached effect
    pending := slot.pending.filter (isOther task)
    stored := slot.stored.map fun stored =>
      if stored.writer = some task then { stored with writer := none }
      else stored }

/-- The cache entry is taken out. -/
def pop : Slot Task := { slot with cached := none }

/-- A caller has called `revoke`. -/
def withdraw : Slot Task := { slot with stored := none }

end Slot

namespace State

variable (state : State Key Task)

def setSlot (key : Key) (slot : Slot Task) : State Key Task :=
  { state with slots := Function.update state.slots key slot }

def setTask (task : Task) (phase : Option (Operation Key × Stage)) : State Key Task :=
  { state with tasks := Function.update state.tasks task phase }

omit [DecidableEq Task] in
@[simp]
theorem slots_setSlot_self (key : Key) (slot : Slot Task) :
    (state.setSlot key slot).slots key = slot := by
  simp [setSlot]

omit [DecidableEq Task] in
theorem slots_setSlot_of_ne {key other : Key} (ne : other ≠ key) (slot : Slot Task) :
    (state.setSlot key slot).slots other = state.slots other := by
  simp [setSlot, ne]

/-- The statement of an operation. -/
def execute (task : Task) : Operation Key → State Key Task
  | .upsert key grant =>
    state.setSlot key ((state.slots key).insert task grant)
  | .revoke key => state.setSlot key ((state.slots key).delete task)

/-- The next part of an operation.  A commit is one of the connection. -/
def resume (task : Task) (operation : Operation Key) : Stage → State Key Task
  | .called =>
    (state.execute task operation).setTask task (some (operation, .executed))
  | .executed =>
    { state with
      slots := fun key => (state.slots key).commit
      tasks := Function.update state.tasks task (some (operation, .committed)) }
  | .committed =>
    (state.setSlot operation.key
      ((state.slots operation.key).finish task operation.effect)).setTask task none

/-- What `check` answers. -/
def checkLevel (default : TrustLevel) (key : Key) : TrustLevel :=
  match (state.slots key).cached with
  | none => default
  | some grant => if grant.expired state.now then default else grant.level

def step (state : State Key Task) : Action Key Task → Option (State Key Task)
  | .check key task =>
    match (state.slots key).cached, state.tasks task with
    | some grant, none =>
      if grant.expired state.now then
        some ((state.setSlot key (state.slots key).pop).setTask task (some (.revoke key, .called)))
      else some state
    | some grant, some _ =>
      if grant.expired state.now then none else some state
    | none, _ => some state
  | .upsert task key grant =>
    match state.tasks task with
    | none => some (state.setTask task (some (.upsert key grant, .called)))
    | some _ => none
  | .revoke task key =>
    match state.tasks task with
    | none => some ((state.setSlot key (state.slots key).withdraw).setTask task
        (some (.revoke key, .called)))
    | some _ => none
  | .run task =>
    match state.tasks task with
    | none => none
    | some (operation, stage) => some (state.resume task operation stage)
  | .tick time =>
    if state.now ≤ time then some { state with now := time } else none

end State

/-- `connect` has filled the cache with the rows that have not expired. -/
structure Connected (state : State Key Task) : Prop where
  idle : ∀ task, state.tasks task = none
  slots : ∀ key, ∃ row, state.slots key =
    { row := row, committed := row
      cached := row.filter (Grant.running state.now) }

def system (Key Task : Type) [DecidableEq Key] [DecidableEq Task] :
    TransitionSystem (State Key Task) (Action Key Task) where
  initial := Connected
  step := State.step

/-! ## What a check may rely on -/

namespace State

variable (state : State Key Task)

/-- No operation on the key is between its statement and its return. -/
def Quiet (key : Key) : Prop := ∀ task operation stage, state.tasks task = some (operation, stage) →
    operation.key = key → stage = .called

/-- The grant of an upsert that has returned stands until it expires, a caller
revokes the key, or another upsert replaces the row; cache and table agree on
the grants that run wherever no operation is in progress. -/
structure Fresh : Prop where
  level : ∀ default key grant, (state.slots key).stored = some ⟨grant, none⟩ →
    grant.expired state.now = false →
    state.checkLevel default key = grant.level
  row : ∀ key grant, (state.slots key).stored = some ⟨grant, none⟩ →
    grant.expired state.now = false →
    (state.slots key).row = some grant ∧ (state.slots key).committed = some grant
  agrees : ∀ key, state.Quiet key → (state.slots key).cached.filter (Grant.running state.now) =
      (state.slots key).row.filter (Grant.running state.now)

end State

/-- The row that a revocation deletes has expired, or a caller has called
`revoke` since it was stored. -/
def Slot.Deletable (now : ℤ) (slot : Slot Task) : Prop :=
  ∀ stored ∈ slot.stored, stored.grant.expired now = true

/-- The operation takes its cache step in its turn: the operations on the key
whose statements ran before have taken theirs, or they are revocations like
it. -/
def Slot.InTurn (slot : Slot Task) (task : Task) (effect : Option Grant) :
    Prop :=
  let before := slot.pending.takeWhile (isOther task)
  before = [] ∨ effect = none ∧ ∀ entry ∈ before, entry.2 = none

/-- The condition on the next part of an operation. -/
def State.Orderly (state : State Key Task) (task : Task) : Option (Operation Key × Stage) → Prop
  | some (.revoke key, .called) => (state.slots key).Deletable state.now
  | some (operation, .committed) =>
    (state.slots operation.key).InTurn task operation.effect
  | _ => True

/-- The evictions find expired rows, and the operations of a key take their
cache steps in the order of their statements. -/
def Admits (state : State Key Task) : Action Key Task → Prop
  | .run task => state.Orderly task (state.tasks task)
  | _ => True

instance Slot.decidableDeletable (now : ℤ) (slot : Slot Task) : Decidable (slot.Deletable now) :=
  inferInstanceAs (Decidable (∀ stored ∈ slot.stored, stored.grant.expired now = true))

instance Slot.decidableInTurn (slot : Slot Task) (task : Task)
    (effect : Option Grant) : Decidable (slot.InTurn task effect) :=
  inferInstanceAs (Decidable (slot.pending.takeWhile (isOther task) = [] ∨ effect = none ∧
        ∀ entry ∈ slot.pending.takeWhile (isOther task), entry.2 = none))

instance State.decidableOrderly (state : State Key Task) (task : Task) :
    (phase : Option (Operation Key × Stage)) → Decidable (state.Orderly task phase)
  | none => inferInstanceAs (Decidable True)
  | some (.revoke key, .called) =>
    inferInstanceAs (Decidable ((state.slots key).Deletable state.now))
  | some (.revoke _, .executed) => inferInstanceAs (Decidable True)
  | some (.revoke key, .committed) =>
    inferInstanceAs (Decidable ((state.slots key).InTurn task none))
  | some (.upsert _ _, .called) => inferInstanceAs (Decidable True)
  | some (.upsert _ _, .executed) => inferInstanceAs (Decidable True)
  | some (.upsert key grant, .committed) =>
    inferInstanceAs (Decidable ((state.slots key).InTurn task (some grant)))

instance decidableAdmits (state : State Key Task) :
    (action : Action Key Task) → Decidable (Admits state action)
  | .run task =>
    inferInstanceAs (Decidable (state.Orderly task (state.tasks task)))
  | .check _ _ => inferInstanceAs (Decidable True)
  | .upsert _ _ _ => inferInstanceAs (Decidable True)
  | .revoke _ _ => inferInstanceAs (Decidable True)
  | .tick _ => inferInstanceAs (Decidable True)

end AuthStore

end RoxabiFactory

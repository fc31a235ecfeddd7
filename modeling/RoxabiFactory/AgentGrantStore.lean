import RoxabiFactory.AgentGrants
import RoxabiFactory.TransitionSystem

/-!
# The cache of the grants

`AgentGrantStore` answers from a cache.  `grant` and `revoke` run their
statement, commit, read the rows of the agent again and put them into the
cache, with other calls running at each await in between.  The cache agrees
with the table in the end when the calls on an agent put their rows into the
cache in the order in which they have read them.
-/

namespace RoxabiFactory

namespace AgentGrants

namespace GrantStore

inductive Call
  /-- A grant, with the date that the table would give it. -/
  | grant (row : AgentGrant)
  | revoke (agentName : String) (principal : Principal) (capability : Capability)

namespace Call

def agentName : Call → String
  | .grant row => row.agentName
  | .revoke agentName _ _ => agentName

/-- The checks before the first statement. -/
def valid : Call → Bool
  | .grant row => decide (row.agentName ≠ "") &&
      (decide (row.grantedBy ≠ "") && decide (row.source ≠ ""))
  | .revoke agentName _ _ => decide (agentName ≠ "")

/-- The statement. -/
def apply : Call → List AgentGrant → List AgentGrant
  | .grant row => insertGrant row
  | .revoke agentName principal capability =>
    deleteGrant agentName principal capability

/-- `cur.rowcount > 0` after the statement of `revoke`. -/
def deletes : Call → List AgentGrant → Bool
  | .grant _, _ => false
  | .revoke agentName principal capability, rows =>
    rows.any (·.IsFor agentName principal capability)

end Call

/-- What a call returns or raises. -/
inductive Outcome
  | granted (grant : AgentGrant)
  | revoked (existed : Bool)
  | valueError
  | runtimeError
  deriving DecidableEq

/-- Which of its awaits a call has passed.  A reload is numbered by how many
of the agent have been read before. -/
inductive Stage
  | called
  | executed (deleted : Bool)
  | committed (deleted : Bool)
  | read (deleted : Bool) (grants : List AgentGrant) (number : ℕ)

structure State (Task : Type) where
  /-- The table as the connection sees it. -/
  rows : List AgentGrant
  committed : List AgentGrant
  cache : String → Option (List AgentGrant)
  tasks : Task → Option (Call × Stage) := fun _ => none
  outcomes : Task → Option Outcome := fun _ => none
  /-- How many reloads of an agent have been read. -/
  reads : String → ℕ := fun _ => 0
  /-- The number after the reload that the cache has. -/
  shown : String → ℕ := fun _ => 0

inductive Action (Task : Type)
  | call (task : Task) (call : Call)
  /-- A call goes on to its next await, or returns. -/
  | run (task : Task)

variable {Task : Type} [DecidableEq Task]

namespace State

variable (state : State Task)

def setTask (task : Task) (phase : Option (Call × Stage)) : State Task :=
  { state with tasks := Function.update state.tasks task phase }

/-- The call ends. -/
def finish (task : Task) (outcome : Outcome) : State Task :=
  { state with
    tasks := Function.update state.tasks task none
    outcomes := Function.update state.outcomes task (some outcome) }

/-- What a call makes of the reloaded grants. -/
def outcome (call : Call) (deleted : Bool) (grants : List AgentGrant) :
    Outcome :=
  match call with
  | .grant row =>
    match grants.find? fun grant =>
      decide (grant.principal = row.principal) &&
        decide (grant.capability = row.capability) with
    | some grant => .granted grant
    | none => .runtimeError
  | .revoke _ _ _ => .revoked deleted

/-- The next part of a call.  A commit is one of the connection. -/
def resume (task : Task) (call : Call) : Stage → State Task
  | .called =>
    { state with
      rows := call.apply state.rows
      tasks := Function.update state.tasks task (some (call, .executed (call.deletes state.rows))) }
  | .executed deleted =>
    { state with
      committed := state.rows
      tasks := Function.update state.tasks task (some (call, .committed deleted)) }
  | .committed deleted =>
    let agent := call.agentName
    { state with
      reads := Function.update state.reads agent (state.reads agent + 1)
      tasks := Function.update state.tasks task
        (some (call, .read deleted (agentRows agent state.rows) (state.reads agent + 1))) }
  | .read deleted grants number =>
    { state with
      cache := Function.update state.cache call.agentName (cacheEntry grants)
      shown := Function.update state.shown call.agentName number
      tasks := Function.update state.tasks task none
      outcomes := Function.update state.outcomes task (some (outcome call deleted grants)) }

def step (state : State Task) : Action Task → Option (State Task)
  | .call task call =>
    match state.tasks task with
    | none =>
      if call.valid then some (state.setTask task (some (call, .called)))
      else some (state.finish task .valueError)
    | some _ => none
  | .run task =>
    match state.tasks task with
    | none => none
    | some (call, stage) => some (state.resume task call stage)

def listGrants (agentName : String) : List AgentGrant := (state.cache agentName).getD []

def authorize (users : Option UserStore) (agentName userId : String)
    (roles : List String) : AuthDecision :=
  AgentGrants.authorize users agentName userId roles (state.listGrants agentName)

end State

/-- `connect` has filled the cache from the table. -/
structure Connected (state : State Task) : Prop where
  committed : state.committed = state.rows
  cache : ∀ agentName, state.cache agentName = cacheEntry (agentRows agentName state.rows)
  idle : ∀ task, state.tasks task = none
  reads : ∀ agentName, state.reads agentName = 0
  shown : ∀ agentName, state.shown agentName = 0

def system (Task : Type) [DecidableEq Task] : TransitionSystem (State Task) (Action Task) where
  initial := Connected
  step := State.step

/-! ## What the answers follow -/

namespace State

variable (state : State Task)

/-- Once all calls have returned, the answers are those of the table. -/
def Coherent : Prop := (∀ task, state.tasks task = none) → ∀ agentName,
      state.listGrants agentName = agentRows agentName state.committed ∧
      ∀ users userId roles, state.authorize users agentName userId roles =
        AgentGrants.authorize users agentName userId roles (agentRows agentName state.committed)

/-- A reload is not older than the one that the cache has. -/
def Newer : Option (Call × Stage) → Prop
  | some (call, .read _ _ number) => state.shown call.agentName ≤ number
  | _ => True

/-- The calls on an agent put their reloads into the cache in the order in
which they have read them. -/
def InOrder : Action Task → Prop
  | .run task => state.Newer (state.tasks task)
  | .call _ _ => True

instance : ∀ phase, Decidable (state.Newer phase)
  | some (call, .read _ _ number) =>
    inferInstanceAs (Decidable (state.shown call.agentName ≤ number))
  | some (_, .called) | some (_, .executed _) | some (_, .committed _)
  | none => inferInstanceAs (Decidable True)

instance : ∀ action, Decidable (state.InOrder action)
  | .run task => inferInstanceAs (Decidable (state.Newer (state.tasks task)))
  | .call _ _ => inferInstanceAs (Decidable True)

/-! ## The last reload of an agent -/

/-- A call on the agent has run its statement and has not read yet. -/
def Stale (agentName : String) : Prop := ∃ task call deleted,
    (state.tasks task = some (call, .executed deleted) ∨
      state.tasks task = some (call, .committed deleted)) ∧
    call.agentName = agentName

/-- The last reload of the agent has its rows, whether it waits or is in the
cache. -/
structure Latest (agentName : String) : Prop where
  waiting : ∀ task call deleted grants, state.tasks task =
      some (call, .read deleted grants (state.reads agentName)) →
    call.agentName = agentName → grants = agentRows agentName state.rows
  cached : state.shown agentName = state.reads agentName →
    state.listGrants agentName = agentRows agentName state.rows
  one : state.shown agentName = state.reads agentName ∨
    ∃ task call deleted grants, state.tasks task =
      some (call, .read deleted grants (state.reads agentName)) ∧
      call.agentName = agentName

/-- The invariant of runs in which the reloads come in order. -/
structure Sound : Prop where
  committed : state.committed = state.rows ∨
    ∃ task call deleted, state.tasks task = some (call, .executed deleted)
  bounded : ∀ task call deleted grants number,
    state.tasks task = some (call, .read deleted grants number) →
      number ≤ state.reads call.agentName
  shown_le : ∀ agentName, state.shown agentName ≤ state.reads agentName
  latest : ∀ agentName, ¬ state.Stale agentName → state.Latest agentName

end State

end GrantStore

end AgentGrants

end RoxabiFactory

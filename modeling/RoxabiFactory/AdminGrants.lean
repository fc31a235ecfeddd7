import Mathlib.Data.Finset.Sort
import Mathlib.Data.String.Basic
import RoxabiFactory.AgentGrantStore
import RoxabiFactory.StatefulActions

/-!
# The agents of a user of the dashboard

An administrator lists the agents that a user may use.  `sync_user_agents`
grants and revokes until access follows the list: the grants are given to the
platform keys that are linked to the user, or to the id of the user when none
is linked.
-/

namespace RoxabiFactory

namespace AgentGrants

/-- `PLATFORM_PREFIXES`. -/
def platformPrefixes : List String := ["tg:user:", "dc:user:", "matrix:user:"]

/-- `is_platform_key`. -/
def isPlatformKey (key : String) : Bool := platformPrefixes.any fun start =>
    PythonStr.startsWith key start && decide (start.length < key.length)

/-- A row of `platform_identities`. -/
structure Identity where
  platformKey : String
  userId : String
  canonical : isPlatformKey platformKey = true

/-- The table `platform_identities`, whose primary key is the platform key. -/
structure IdentityTable where
  rows : List Identity
  unique : (rows.map Identity.platformKey).Nodup

/-- The platform keys of a user. -/
def IdentityTable.keysOf (table : IdentityTable) (userId : String) : Finset String :=
  ((table.rows.filter fun row => decide (row.userId = userId)).map Identity.platformKey).toFinset

/-- `_warm_cache` of the user store. -/
def UserStore.warm (table : IdentityTable) : UserStore where
  keyToUser key := (table.rows.find? fun row => decide (row.platformKey = key)).map Identity.userId
  userToKeys := table.keysOf

namespace AdminGrants

/-- The stores that an administrator's request goes through. -/
structure State where
  /-- The names of `agent_store.get_all`. -/
  agents : List String
  identities : IdentityTable
  /-- The maps of the user store, which the grant store reads as well. -/
  users : UserStore
  /-- The table `agent_grants`, and the cache of it. -/
  rows : List AgentGrant
  cache : String → Option (List AgentGrant)

abbrev Request (α : Type) := Action State PyError α

/-- `authorize` without roles. -/
def State.allows (state : State) (agentName userId : String) : Bool :=
  (authorize (some state.users) agentName userId [] ((state.cache agentName).getD [])).allowed

/-- A statement on the grants of an agent, which then are read again. -/
def State.write (state : State) (call : GrantStore.Call) : State :=
  { state with
    rows := call.apply state.rows
    cache := Function.update state.cache call.agentName
      (cacheEntry (agentRows call.agentName (call.apply state.rows))) }

/-- `grant` and `revoke`. -/
def perform (call : GrantStore.Call) : Request Unit := ⟨fun state =>
    if call.valid then (.ok (), state.write call)
    else (.error .valueError, state)⟩

/-- `Principal(kind=PrincipalKind.USER, id=id)`. -/
def userPrincipal (id : String) : Request Principal :=
  if nonempty : id ≠ "" then pure ⟨.user, id, nonempty⟩
  else .raise .valueError

/-- `rewarm_identity_cache`. -/
def rewarm : Request Unit := ⟨fun state => (.ok (), { state with users := .warm state.identities })⟩

/-- `sorted(keys)`. -/
def sortKeys (keys : Finset String) : List String := keys.sort (· ≤ ·)

/-- `sorted(user_store.resolve_platform_keys(user_id))`. -/
def sortedKeys (state : State) (userId : String) : List String :=
  sortKeys (state.users.resolvePlatformKeys userId)

/-- `agents_for_user`. -/
def agentsForUser (state : State) (userId : String) : List String :=
  (state.agents.mergeSort fun first second => decide (first ≤ second)).filter
    fun agent => state.allows agent userId

/-- The agents that the user or one of the keys may use. -/
def currentAgents (state : State) (userId : String) (keys : List String) : Finset String :=
  ((userId :: keys).flatMap (agentsForUser state)).toFinset

section Requests

variable (grantedBy source : String) (now : ℤ)

/-- A `USE` grant of an agent. -/
def grantUse (agentName id : String) : Request Unit := do
  let principal ← userPrincipal id
  perform (.grant
    { agentName := agentName
      principal := principal
      capability := .use
      grantedBy := grantedBy
      source := source
      createdAt := now })

def revokeUse (agentName id : String) : Request Unit := do
  let principal ← userPrincipal id
  perform (.revoke agentName principal .use)

/-- The loop of `grant_human_platforms`. -/
def grantKeys (agentName : String) : List String → Request Unit
  | [] => pure ()
  | key :: rest => do
    grantUse grantedBy source now agentName key
    grantKeys agentName rest

/-- `grant_human_platforms`. -/
def grantHumanPlatforms (agentName userId : String) : Request Unit := do
  rewarm
  let keys ← .reads fun state => sortedKeys state userId
  if keys = [] then .raise .valueError
  else grantKeys grantedBy source now agentName keys

def grantAgent (userId : String) (keys : List String) (agentName : String) : Request Unit :=
  if keys = [] then grantUse grantedBy source now agentName userId
  else grantHumanPlatforms grantedBy source now agentName userId

/-- The loop over the agents that are missing. -/
def grantAgents (userId : String) (keys : List String) : List String → Request Unit
  | [] => pure ()
  | agentName :: rest => do
    grantAgent grantedBy source now userId keys agentName
    grantAgents userId keys rest

def revokeSubjects (agentName : String) : List String → Request Unit
  | [] => pure ()
  | subject :: rest => do
    revokeUse agentName subject
    revokeSubjects agentName rest

/-- `platform_keys or [user_id]`. -/
def subjectsOf (userId : String) (keys : List String) : List String :=
  if keys = [] then [userId] else keys

/-- The loop over the agents that are not listed. -/
def revokeAgents (userId : String) (keys : List String) : List String → Request Unit
  | [] => pure ()
  | agentName :: rest => do
    revokeSubjects agentName (subjectsOf userId keys)
    revokeAgents userId keys rest

/-- The two loops of `sync_user_agents`. -/
def exchange (userId : String) (keys missing excess : List String) :
    Request (List String) := do
  grantAgents grantedBy source now userId keys missing
  revokeAgents userId keys excess
  return missing

/-- `sync_user_agents` with a user store; it returns the agents granted. -/
def syncUserAgents (userId : String) (desired : List String) :
    Request (List String) := do
  let unknown ← .reads fun state =>
    desired.filter fun name => decide (name ∉ state.agents)
  if unknown ≠ [] then .raise .valueError
  else
    rewarm
    let keys ← .reads fun state => sortedKeys state userId
    let current ← .reads fun state => currentAgents state userId keys
    exchange grantedBy source now userId keys ((desired.toFinset \ current).sort (· ≤ ·))
      ((current \ desired.toFinset).sort (· ≤ ·))

end Requests

/-! ## Histories -/

/-- What happens to the stores. -/
inductive Event
  /-- Keys are linked and unlinked, by this store or by another one; then the
  maps of this one may be those of an earlier table. -/
  | link (identities : IdentityTable) (users : UserStore)
  | setAgents (agents : List String)
  /-- A grant or a revoke by another way. -/
  | perform (call : GrantStore.Call)
  /-- A request of an administrator, whether it returns or raises. -/
  | sync (userId : String) (desired : List String) (grantedBy source : String) (now : ℤ)

def State.step (state : State) : Event → State
  | .link identities users =>
    { state with identities := identities, users := users }
  | .setAgents agents => { state with agents := agents }
  | .perform call => ((AdminGrants.perform call).runOn state).2
  | .sync userId desired grantedBy source now =>
    ((syncUserAgents grantedBy source now userId desired).runOn state).2

/-- Histories start when the grant store has loaded its cache. -/
def system : TransitionSystem State Event where
  initial state := ∀ agentName, state.cache agentName = cacheEntry (agentRows agentName state.rows)
  step state event := some (state.step event)

end AdminGrants

end AgentGrants

end RoxabiFactory

import Mathlib.Algebra.Order.Ring.Unbundled.Rat
import RoxabiFactory.OrderedDict
import RoxabiFactory.PoolModel

/-!
# The pools of the hub

`PoolManager` maps a pool id to a `Pool` object and drops objects when they
have been idle for the TTL or when the table is full.  A dropped object lives
on as long as its processing task or a caller that has looked it up holds it,
so an object is its index in the list of all objects that were ever created,
and the table maps a pool id to such an index.

`time.monotonic()` is read several times in a call; the readings are
parameters that never go back.
-/

namespace RoxabiFactory

namespace Pool

/-- The settings of the hub that the manager reads.  `Hub.__init__` rejects a
`max_pools` that is not positive. -/
structure HubSettings where
  maxPools : Nat
  poolTtl : ℚ
  /-- The agent is registered and has `flush_session`. -/
  flushesSession : String → Bool
  hasCliPool : Bool
  maxPools_pos : 0 < maxPools

/-- A `Pool` object: the fields the manager looks at, and the state of its
processing loop. -/
structure PoolObject (Msg : Type*) where
  poolId : String
  agentName : String
  userId : String := ""
  lastActive : ℚ
  loop : PoolState Msg
  deriving DecidableEq, Repr

inductive EvictionReason
  | idle
  | lru
  | endOfSession
  deriving DecidableEq, Repr

/-- `PoolManager`, with every object it has created and the calls it has made
for the pools it removed. -/
structure ManagerState (Msg : Type*) where
  objects : List (PoolObject Msg) := []
  pools : OrderedDict String Nat := ∅
  lastEvictionCheck : ℚ := 0
  clock : ℚ
  debounceMs : Int
  cancelOnNewMessage : Bool
  removed : List (Nat × EvictionReason) := []
  flushes : List (Nat × EvictionReason) := []
  cliEvictions : List String := []

namespace ManagerState

variable {Msg : Type*}

/-- `Pool._touch`. -/
def touch (state : ManagerState Msg) (object : Nat) (now : ℚ) : ManagerState Msg :=
  { state with
    objects := state.objects.modify object fun pool =>
      { pool with lastActive := now } }

/-- `agent.flush_session` for a pool with a user id, when its agent has it. -/
def flushSession (hub : HubSettings) (state : ManagerState Msg)
    (object : Nat) (reason : EvictionReason) : ManagerState Msg :=
  match state.objects[object]? with
  | some pool =>
    if pool.userId ≠ "" ∧ hub.flushesSession pool.agentName = true then
      { state with flushes := state.flushes ++ [(object, reason)] }
    else state
  | none => state

/-- `_evict_pool_locked`. -/
def evictPoolLocked (hub : HubSettings) (state : ManagerState Msg)
    (poolId : String) (reason : EvictionReason) : ManagerState Msg :=
  match state.pools.lookup poolId with
  | none => state
  | some object =>
    let flushed := flushSession hub
      { state with
        pools := state.pools.erase poolId
        removed := state.removed ++ [(object, reason)] }
      object reason
    if hub.hasCliPool then
      { flushed with cliEvictions := flushed.cliEvictions ++ [poolId] }
    else flushed

/-- The pool is idle and its last activity exceeds the TTL. -/
def isStale (hub : HubSettings) (state : ManagerState Msg) (now : ℚ) (object : Nat) : Bool :=
  state.objects[object]?.any fun pool =>
    pool.loop.isIdle && decide (now - pool.lastActive > hub.poolTtl)

/-- `_evict_stale_pools`. -/
def evictStalePools (hub : HubSettings) (state : ManagerState Msg) (now : ℚ) : ManagerState Msg :=
  if now - state.lastEvictionCheck < hub.poolTtl / 10 then state
  else
    let stale := (state.pools.items.filter fun item =>
      state.isStale hub now item.2).map Prod.fst
    stale.foldl (fun state poolId => state.evictPoolLocked hub poolId .idle)
      { state with lastEvictionCheck := now }

/-- `_evict_lru_locked`: the entry is popped first, so
`_evict_pool_locked` no longer finds it. -/
def evictLruLocked (hub : HubSettings) (state : ManagerState Msg) : ManagerState Msg :=
  match state.pools.popOldest with
  | none => state
  | some ((poolId, object), rest) =>
    evictPoolLocked hub
      { state with
        pools := rest
        removed := state.removed ++ [(object, .lru)] }
      poolId .lru

/-- The loop `while len(self._pools) >= max_pools`, with a bound on its
rounds. -/
def enforceMaxPools (hub : HubSettings) : Nat → ManagerState Msg → ManagerState Msg
  | 0, state => state
  | rounds + 1, state =>
    if hub.maxPools ≤ state.pools.size then
      enforceMaxPools hub rounds (state.evictLruLocked hub)
    else state

/-- The end of `get_or_create_pool`: a new `Pool` under its id. -/
def createPool (state : ManagerState Msg) (poolId agentName : String)
    (created : ℚ) : ManagerState Msg × Nat :=
  let pool : PoolObject Msg :=
    { poolId := poolId
      agentName := agentName
      lastActive := created
      loop :=
        { debounceMs := state.debounceMs
          cancelOnNewMessage := state.cancelOnNewMessage } }
  ({ state with
    objects := state.objects ++ [pool]
    pools := state.pools.insert poolId state.objects.length },
    state.objects.length)

/-- `PoolManager.get_or_create_pool`, with the object it returns.  `now` is
the reading in `_evict_stale_pools`, `touched` the one in `_touch` or in
`Pool.__init__`. -/
def getOrCreatePool (hub : HubSettings) (state : ManagerState Msg)
    (poolId agentName : String) (now touched : ℚ) : ManagerState Msg × Nat :=
  let evicted := state.evictStalePools hub now
  match evicted.pools.lookup poolId with
  | some object =>
    ({ evicted.touch object touched with
      pools := evicted.pools.moveToEnd poolId }, object)
  | none =>
    (enforceMaxPools hub evicted.pools.size evicted).createPool poolId agentName touched

/-- `PoolManager.flush_pool`. -/
def flushPool (hub : HubSettings) (state : ManagerState Msg) (poolId : String) : ManagerState Msg :=
  match state.pools.lookup poolId with
  | none => state
  | some object =>
    flushSession hub
      { state with
        pools := state.pools.erase poolId
        removed := state.removed ++ [(object, .endOfSession)] }
      object .endOfSession

/-- `PoolManager.touch_pool`. -/
def touchPool (state : ManagerState Msg) (poolId : String) (now : ℚ) : ManagerState Msg :=
  match state.pools.lookup poolId with
  | none => state
  | some object =>
    { state.touch object now with
      pools := state.pools.moveToEnd poolId }

/-- Change the setting of every pool in the table. -/
def updateRegistered (state : ManagerState Msg)
    (update : PoolState Msg → PoolState Msg) : ManagerState Msg :=
  { state with
    objects := state.objects.mapIdx fun object pool =>
      if (pool.poolId, object) ∈ state.pools.items then
        { pool with loop := update pool.loop }
      else pool }

/-- `PoolManager.set_debounce_ms`. -/
def setDebounceMs (state : ManagerState Msg) (ms : Int) : ManagerState Msg :=
  { state with debounceMs := ms }.updateRegistered fun loop =>
    { loop with debounceMs := ms }

/-- `PoolManager.set_cancel_on_new_message`. -/
def setCancelOnNewMessage (state : ManagerState Msg) (enabled : Bool) : ManagerState Msg :=
  { state with cancelOnNewMessage := enabled }.updateRegistered fun loop =>
    { loop with cancelOnNewMessage := enabled }

/-- A step of the loop of one object.  `Pool.submit` touches the pool. -/
def poolStep (state : ManagerState Msg) (object : Nat) (action : Action Msg)
    (now : ℚ) : Option (ManagerState Msg) := do
  let pool ← state.objects[object]?
  let loop ← step pool.loop action
  let lastActive := match action with
    | .submit _ => now
    | _ => pool.lastActive
  return { state with
    objects := state.objects.set object { pool with loop := loop, lastActive := lastActive } }

/-- `Pool.append` takes the user id of the first message. -/
def identify (state : ManagerState Msg) (object : Nat) (userId : String) : ManagerState Msg :=
  { state with
    objects := state.objects.modify object fun pool =>
      { pool with
        userId := if pool.userId = "" then userId else pool.userId } }

end ManagerState

/-- What can happen next to the pools of the hub. -/
inductive ManagerAction (Msg : Type*)
  | getOrCreatePool (poolId agentName : String) (now touched : ℚ)
  | touchPool (poolId : String) (now : ℚ)
  | flushPool (poolId : String)
  | setDebounceMs (ms : Int)
  | setCancelOnNewMessage (enabled : Bool)
  | identify (object : Nat) (userId : String)
  | pool (object : Nat) (action : Action Msg) (now : ℚ)
  deriving DecidableEq, Repr

variable {Msg : Type*}

def ManagerAction.readings : ManagerAction Msg → List ℚ
  | .getOrCreatePool _ _ now touched => [now, touched]
  | .touchPool _ now | .pool _ _ now => [now]
  | _ => []

/-- The effect of an action. -/
def ManagerState.perform (hub : HubSettings) (state : ManagerState Msg) :
    ManagerAction Msg → Option (ManagerState Msg)
  | .getOrCreatePool poolId agentName now touched =>
    some (state.getOrCreatePool hub poolId agentName now touched).1
  | .touchPool poolId now => some (state.touchPool poolId now)
  | .flushPool poolId => some (state.flushPool hub poolId)
  | .setDebounceMs ms => some (state.setDebounceMs ms)
  | .setCancelOnNewMessage enabled =>
    some (state.setCancelOnNewMessage enabled)
  | .identify object userId => some (state.identify object userId)
  | .pool object action now => state.poolStep object action now

/-- One step of the hub's pools; the clock does not go back. -/
def managerStep (hub : HubSettings) (state : ManagerState Msg)
    (action : ManagerAction Msg) : Option (ManagerState Msg) :=
  if (state.clock :: action.readings).Pairwise (· ≤ ·) then
    (state.perform hub action).map fun after =>
      { after with clock := action.readings.getLastD state.clock }
  else none

/-- A `PoolManager` as its `__init__` makes it. -/
def managerSystem (hub : HubSettings) (Msg : Type*) :
    TransitionSystem (ManagerState Msg) (ManagerAction Msg) where
  initial state := state.objects = [] ∧ state.pools = ∅ ∧ state.lastEvictionCheck = 0 ∧
      state.removed = [] ∧ state.flushes = [] ∧ state.cliEvictions = []
  step := managerStep hub

end Pool

end RoxabiFactory

import RoxabiFactory.PoolManager

/-!
# One turn at a time for each pool id

The guard against two loops is in the `Pool` object, so two turns of one
conversation can only meet when two objects with its id are in use.  As long
as the objects that are busy are the ones in the table this cannot happen.
The TTL removes idle objects only; the LRU bound and `flush_pool` do not look.
-/

namespace RoxabiFactory

namespace Pool

variable {Msg : Type*}

namespace ManagerState

/-- The processing task of the object is not done. -/
def busy (state : ManagerState Msg) (object : Nat) : Bool :=
  state.objects[object]?.any fun pool => !pool.loop.isIdle

/-- The id that the object was created for. -/
def poolIdOf (state : ManagerState Msg) (object : Nat) : Option String :=
  state.objects[object]?.map PoolObject.poolId

/-- The object is the one that the table holds for its id. -/
def isRegistered (state : ManagerState Msg) (object : Nat) : Bool :=
  (state.poolIdOf object).any fun poolId =>
    decide (state.pools.lookup poolId = some object)

/-- The items that the LRU bound removes before a pool is created. -/
def lruVictims (hub : HubSettings) (state : ManagerState Msg) : List (String × Nat) :=
  state.pools.items.take (state.pools.size + 1 - hub.maxPools)

end ManagerState

/-- No two objects of one pool id are busy. -/
def OneTurnPerPool (state : ManagerState Msg) : Prop :=
  ∀ first second, state.poolIdOf first = state.poolIdOf second →
    state.busy first = true → state.busy second = true → first = second

/-- The condition under which busy objects stay in the table: the LRU bound
and `flush_pool` remove idle objects only, and messages are submitted to the
object that is registered for the pool id. -/
def KeepsBusyPools (hub : HubSettings) (state : ManagerState Msg) : ManagerAction Msg → Prop
  | .getOrCreatePool poolId _ now _ =>
    let evicted := state.evictStalePools hub now
    evicted.pools.lookup poolId = none →
      ∀ item ∈ evicted.lruVictims hub, evicted.busy item.2 = false
  | .flushPool poolId =>
    ∀ object ∈ state.pools.lookup poolId, state.busy object = false
  | .pool object (.submit _) _ => state.isRegistered object = true
  | _ => True

instance (hub : HubSettings) (state : ManagerState Msg) (action : ManagerAction Msg) :
    Decidable (KeepsBusyPools hub state action) := by
  unfold KeepsBusyPools
  split <;> infer_instance

/-- The busy objects are in the table. -/
def BusyRegistered (state : ManagerState Msg) : Prop := ∀ object poolId, state.busy object = true →
    state.poolIdOf object = some poolId → state.pools.lookup poolId = some object

theorem BusyRegistered.oneTurnPerPool {state : ManagerState Msg}
    (registered : BusyRegistered state) : OneTurnPerPool state := by
  intro first second sameId firstBusy secondBusy
  obtain ⟨pool, found, -⟩ := (Option.any_eq_true _ _).mp firstBusy
  have firstId : state.poolIdOf first = some pool.poolId := by
    simp [ManagerState.poolIdOf, found]
  have firstIn := registered first _ firstBusy firstId
  have secondIn := registered second _ secondBusy (sameId ▸ firstId)
  exact Option.some_inj.mp (firstIn.symm.trans secondIn)

section Steps

variable {hub : HubSettings} {state after : ManagerState Msg}

open ManagerState

/-- Objects may change as long as no idle one becomes busy, and the table as
long as the lookups of busy objects stay. -/
theorem BusyRegistered.frame (registered : BusyRegistered state)
    (objectsKept : ∀ object, after.busy object = true → state.busy object = true ∧
        after.poolIdOf object = state.poolIdOf object)
    (lookupKept : ∀ poolId object, state.busy object = true →
      state.pools.lookup poolId = some object → after.pools.lookup poolId = some object) :
    BusyRegistered after := by
  intro object poolId busyAfter idAfter
  obtain ⟨busyBefore, idEq⟩ := objectsKept object busyAfter
  exact lookupKept poolId object busyBefore (registered object poolId busyBefore (idEq ▸ idAfter))

theorem BusyRegistered.erase (registered : BusyRegistered state) {poolId : String} {object : Nat}
    (found : state.pools.lookup poolId = some object)
    (idle : state.busy object = false)
    (objectsEq : after.objects = state.objects)
    (poolsEq : after.pools = state.pools.erase poolId) :
    BusyRegistered after := by
  refine registered.frame (fun _ => by simp [busy, poolIdOf, objectsEq]) ?_
  intro other holder busyHolder held
  have different : other ≠ poolId := by
    rintro rfl
    obtain rfl := Option.some_inj.mp (found.symm.trans held)
    simp [idle] at busyHolder
  rw [poolsEq, AList.lookup_erase_ne different, held]

@[simp]
theorem flushSession_objects (object : Nat) (reason : EvictionReason) :
    (flushSession hub state object reason).objects = state.objects := by
  unfold flushSession
  split
  · split <;> rfl
  · rfl

@[simp]
theorem flushSession_pools (object : Nat) (reason : EvictionReason) :
    (flushSession hub state object reason).pools = state.pools := by
  unfold flushSession
  split
  · split <;> rfl
  · rfl

theorem evictPoolLocked_objects (poolId : String) (reason : EvictionReason) :
    (state.evictPoolLocked hub poolId reason).objects = state.objects := by
  unfold evictPoolLocked
  split
  · rfl
  · split <;> simp

theorem evictPoolLocked_pools (hub : HubSettings) {poolId : String}
    {object : Nat} (found : state.pools.lookup poolId = some object)
    (reason : EvictionReason) :
    (state.evictPoolLocked hub poolId reason).pools =
      state.pools.erase poolId := by
  simp only [evictPoolLocked, found]
  split <;> simp

/-- The entry is gone when `_evict_pool_locked` looks for it: a pool that the
LRU bound removes is neither flushed nor taken from the CLI pool. -/
theorem evictLruLocked_eq {poolId : String} {object : Nat} {rest : OrderedDict String Nat}
    (popped : state.pools.popOldest = some ((poolId, object), rest)) :
    state.evictLruLocked hub =
      { state with
        pools := rest
        removed := state.removed ++ [(object, .lru)] } := by
  obtain ⟨-, rfl⟩ := OrderedDict.lookup_of_popOldest popped
  simp [evictLruLocked, popped, evictPoolLocked]

theorem busy_congr (objectsEq : after.objects = state.objects)
    (object : Nat) : after.busy object = state.busy object := by
  simp [busy, objectsEq]

/-- One eviction of an idle pool keeps the invariant and finds no new
entries. -/
theorem BusyRegistered.evictPoolLocked (registered : BusyRegistered state)
    (hub : HubSettings) {poolId : String} (reason : EvictionReason)
    (idle : ∀ object, state.pools.lookup poolId = some object → state.busy object = false) :
    BusyRegistered (state.evictPoolLocked hub poolId reason) ∧ ∀ other object,
        (state.evictPoolLocked hub poolId reason).pools.lookup other = some object →
          state.pools.lookup other = some object := by
  cases found : state.pools.lookup poolId with
  | none => simpa [ManagerState.evictPoolLocked, found] using registered
  | some object =>
    have poolsEq := evictPoolLocked_pools hub found reason
    refine ⟨registered.erase found (idle object found)
      (evictPoolLocked_objects poolId reason) poolsEq, ?_⟩
    intro other holder held
    rw [poolsEq] at held
    exact OrderedDict.lookup_eq_of_lookup_erase held

/-- The TTL scan removes idle objects only. -/
theorem BusyRegistered.evictStale (registered : BusyRegistered state) (stale : List String)
    (idle : ∀ poolId ∈ stale, ∀ object, state.pools.lookup poolId = some object →
        state.busy object = false) :
    BusyRegistered (stale.foldl
      (fun state poolId => state.evictPoolLocked hub poolId .idle) state) := by
  induction stale generalizing state with
  | nil => exact registered
  | cons poolId stale ih =>
    obtain ⟨kept, older⟩ := registered.evictPoolLocked hub .idle (idle poolId List.mem_cons_self)
    refine ih kept fun other member object held => ?_
    rw [busy_congr (evictPoolLocked_objects poolId .idle)]
    exact idle other (List.mem_cons_of_mem _ member) object (older other object held)

theorem idle_of_isStale (state : ManagerState Msg) {now : ℚ} {object : Nat}
    (stale : state.isStale hub now object = true) :
    state.busy object = false := by
  obtain ⟨pool, found, expired⟩ := (Option.any_eq_true _ _).mp stale
  rw [Bool.and_eq_true] at expired
  simp [busy, found, expired.1]

theorem BusyRegistered.evictStalePools (registered : BusyRegistered state)
    (hub : HubSettings) (now : ℚ) : BusyRegistered (state.evictStalePools hub now) := by
  unfold ManagerState.evictStalePools
  split
  · exact registered
  · have checked : BusyRegistered { state with lastEvictionCheck := now } := registered
    refine checked.evictStale _ fun poolId member object held => ?_
    obtain ⟨⟨listed, holder⟩, filtered, rfl⟩ := List.mem_map.mp member
    obtain ⟨inItems, expired⟩ := List.mem_filter.mp filtered
    obtain rfl : holder = object := Option.some_inj.mp
      ((OrderedDict.mem_items.mp inItems).symm.trans held)
    exact idle_of_isStale state expired

theorem BusyRegistered.enforceMaxPools (rounds : Nat) (registered : BusyRegistered state)
    (idle : ∀ item ∈ state.lruVictims hub, state.busy item.2 = false) :
    BusyRegistered (enforceMaxPools hub rounds state) := by
  induction rounds generalizing state with
  | zero => exact registered
  | succ rounds ih =>
    unfold ManagerState.enforceMaxPools
    split
    · rename_i full
      cases popped : state.pools.popOldest with
      | none =>
        simp only [evictLruLocked, popped]
        exact ih registered idle
      | some result =>
        obtain ⟨⟨poolId, object⟩, rest⟩ := result
        rw [evictLruLocked_eq popped]
        have split := OrderedDict.items_of_popOldest popped
        have sizeEq := OrderedDict.size_popOldest popped
        have victims : state.lruVictims hub = (poolId, object) ::
            rest.items.take (rest.size + 1 - hub.maxPools) := by
          have count : state.pools.size + 1 - hub.maxPools =
              rest.size + 1 - hub.maxPools + 1 := by omega
          rw [lruVictims, count, split, List.take_succ_cons]
        rw [victims] at idle
        obtain ⟨found, rfl⟩ := OrderedDict.lookup_of_popOldest popped
        refine ih (registered.erase found (idle _ List.mem_cons_self) rfl rfl) ?_
        intro item member
        exact idle item (List.mem_cons_of_mem _ member)
    · exact registered

theorem BusyRegistered.of_map (registered : BusyRegistered state)
    (change : Nat → PoolObject Msg → PoolObject Msg)
    (objectsEq : ∀ object, after.objects[object]? = state.objects[object]?.map (change object))
    (sameId : ∀ object pool, (change object pool).poolId = pool.poolId)
    (sameIdle : ∀ object pool, (change object pool).loop.isIdle = pool.loop.isIdle)
    (sameLookup : ∀ poolId, after.pools.lookup poolId = state.pools.lookup poolId) :
    BusyRegistered after := by
  have sameBusy : ∀ object, after.busy object = state.busy object := by
    intro object
    cases found : state.objects[object]? <;>
      simp [busy, objectsEq, found, sameIdle]
  have sameIds : ∀ object, after.poolIdOf object = state.poolIdOf object := by
    intro object
    cases found : state.objects[object]? <;>
      simp [poolIdOf, objectsEq, found, sameId]
  exact registered.frame (fun object busyAfter =>
      ⟨sameBusy object ▸ busyAfter, sameIds object⟩)
    fun poolId object _ held => (sameLookup poolId).trans held

theorem BusyRegistered.modify (registered : BusyRegistered state)
    (object : Nat) (update : PoolObject Msg → PoolObject Msg)
    (objectsEq : after.objects = state.objects.modify object update)
    (sameId : ∀ pool, (update pool).poolId = pool.poolId)
    (sameLoop : ∀ pool, (update pool).loop = pool.loop)
    (sameLookup : ∀ poolId, after.pools.lookup poolId = state.pools.lookup poolId) :
    BusyRegistered after := by
  refine registered.of_map (fun other pool => if object = other then update pool else pool)
    ?_ ?_ ?_ sameLookup
  · intro other
    rw [objectsEq, List.getElem?_modify]
    rfl
  · intro other pool
    split
    · exact sameId pool
    · rfl
  · intro other pool
    split
    · rw [sameLoop]
    · rfl

theorem lookup_enforceMaxPools (rounds : Nat) {poolId : String} {object : Nat}
    (held : (enforceMaxPools hub rounds state).pools.lookup poolId = some object) :
    state.pools.lookup poolId = some object := by
  induction rounds generalizing state with
  | zero => exact held
  | succ rounds ih =>
    unfold enforceMaxPools at held
    split at held
    · have older := ih held
      cases popped : state.pools.popOldest with
      | none => simpa [evictLruLocked, popped] using older
      | some result =>
        obtain ⟨⟨oldest, holder⟩, rest⟩ := result
        rw [evictLruLocked_eq popped] at older
        obtain ⟨-, rfl⟩ := OrderedDict.lookup_of_popOldest popped
        exact OrderedDict.lookup_eq_of_lookup_erase older
    · exact held

theorem BusyRegistered.createPool (registered : BusyRegistered state)
    {poolId : String} (absent : state.pools.lookup poolId = none)
    (agentName : String) (created : ℚ) :
    BusyRegistered (state.createPool poolId agentName created).1 := by
  refine registered.frame (fun object busyAfter => ?_)
    fun other holder _ held => ?_
  · have old : object < state.objects.length := by
      by_contra new
      rw [not_lt] at new
      simp only [busy, ManagerState.createPool, List.getElem?_append_right new] at busyAfter
      obtain ⟨pool, found, notIdle⟩ := (Option.any_eq_true _ _).mp busyAfter
      obtain rfl := List.mem_singleton.mp (List.mem_of_getElem? found)
      simp [PoolState.isIdle] at notIdle
    simp only [busy, poolIdOf, ManagerState.createPool,
      List.getElem?_append_left old] at busyAfter ⊢
    exact ⟨busyAfter, trivial⟩
  · have different : other ≠ poolId := by
      rintro rfl
      rw [absent] at held
      cases held
    exact (AList.lookup_insert_ne different).trans held

theorem BusyRegistered.getOrCreatePool (registered : BusyRegistered state)
    {poolId agentName : String} {now touched : ℚ}
    (keeps : KeepsBusyPools hub state (.getOrCreatePool poolId agentName now touched)) :
    BusyRegistered (state.getOrCreatePool hub poolId agentName now touched).1 := by
  have swept := registered.evictStalePools hub now
  unfold ManagerState.getOrCreatePool
  cases found : (state.evictStalePools hub now).pools.lookup poolId with
  | some object =>
    simp only [found]
    exact swept.modify object _ rfl (fun _ => rfl) (fun _ => rfl)
      fun _ => OrderedDict.lookup_moveToEnd
  | none =>
    have bounded := swept.enforceMaxPools (state.evictStalePools hub now).pools.size (keeps found)
    simp only [found]
    refine bounded.createPool ?_ agentName touched
    rw [Option.eq_none_iff_forall_not_mem]
    intro object held
    rw [Option.mem_def] at held
    have older := lookup_enforceMaxPools _ held
    rw [found] at older
    cases older

theorem BusyRegistered.touchPool (registered : BusyRegistered state) (poolId : String) (now : ℚ) :
    BusyRegistered (state.touchPool poolId now) := by
  unfold ManagerState.touchPool
  split
  · exact registered
  · exact registered.modify _ _ rfl (fun _ => rfl) (fun _ => rfl)
      fun _ => OrderedDict.lookup_moveToEnd

theorem BusyRegistered.flushPool (registered : BusyRegistered state)
    {poolId : String} (keeps : KeepsBusyPools hub state (.flushPool poolId)) :
    BusyRegistered (state.flushPool hub poolId) := by
  unfold ManagerState.flushPool
  split
  · exact registered
  · rename_i object found
    exact registered.erase found (keeps object found) (flushSession_objects object .endOfSession)
      (flushSession_pools object .endOfSession)

theorem BusyRegistered.updateRegistered (registered : BusyRegistered state)
    (update : PoolState Msg → PoolState Msg)
    (sameIdle : ∀ loop, (update loop).isIdle = loop.isIdle) :
    BusyRegistered (state.updateRegistered update) := by
  refine registered.of_map (fun object pool => if (pool.poolId, object) ∈ state.pools.items then
      { pool with loop := update pool.loop } else pool) ?_ ?_ ?_ fun _ => rfl
  · intro object
    exact List.getElem?_mapIdx
  · intro object pool
    split <;> rfl
  · intro object pool
    split
    · exact sameIdle pool.loop
    · rfl

/-- The loop of a registered object may start; any other step leaves an idle
object idle. -/
theorem BusyRegistered.poolStep (registered : BusyRegistered state)
    {object : Nat} {action : Action Msg} {now : ℚ}
    (keeps : KeepsBusyPools hub state (.pool object action now))
    (stepTo : state.poolStep object action now = some after) :
    BusyRegistered after := by
  obtain ⟨pool, found, rest⟩ := Option.bind_eq_some_iff.mp stepTo
  obtain ⟨loop, loopStep, made⟩ := Option.bind_eq_some_iff.mp rest
  obtain ⟨inRange, -⟩ := List.getElem?_eq_some_iff.mp found
  cases made
  intro other poolId busyAfter idAfter
  by_cases same : other = object
  · subst same
    simp only [busy, poolIdOf, List.getElem?_set_self inRange,
      Option.any_some, Option.map_some, Option.some.injEq] at busyAfter idAfter
    subst idAfter
    by_cases submits : ∃ msg, action = .submit msg
    · obtain ⟨msg, rfl⟩ := submits
      simpa [KeepsBusyPools, isRegistered, poolIdOf, found] using keeps
    · have notIdle : pool.loop.isIdle = false := by
        by_contra idle
        rw [Bool.not_eq_false] at idle
        have still := isIdle_of_step loopStep (not_exists.mp submits) idle
        simp [still] at busyAfter
      exact registered other pool.poolId (by simp [busy, found, notIdle])
        (by simp [poolIdOf, found])
  · have different : object ≠ other := Ne.symm same
    simp only [busy, poolIdOf, List.getElem?_set_ne different]
      at busyAfter idAfter
    exact registered other poolId busyAfter idAfter

theorem BusyRegistered.next {action : ManagerAction Msg} (registered : BusyRegistered state)
    (keeps : KeepsBusyPools hub state action)
    (stepTo : managerStep hub state action = some after) :
    BusyRegistered after := by
  unfold managerStep at stepTo
  split at stepTo
  · obtain ⟨performed, effect, rfl⟩ := Option.map_eq_some_iff.mp stepTo
    suffices kept : BusyRegistered performed from kept
    cases action with
    | getOrCreatePool poolId agentName now touched =>
      cases effect
      exact registered.getOrCreatePool keeps
    | touchPool poolId now => cases effect; exact registered.touchPool _ _
    | flushPool poolId => cases effect; exact registered.flushPool keeps
    | setDebounceMs ms =>
      cases effect
      have checked : BusyRegistered { state with debounceMs := ms } :=
        registered
      exact checked.updateRegistered _ fun _ => rfl
    | setCancelOnNewMessage enabled =>
      cases effect
      have checked : BusyRegistered { state with cancelOnNewMessage := enabled } := registered
      exact checked.updateRegistered _ fun _ => rfl
    | identify object userId =>
      cases effect
      exact registered.modify _ _ rfl (fun _ => rfl) (fun _ => rfl)
        fun _ => rfl
    | pool object action now => exact registered.poolStep keeps effect
  · cases stepTo

end Steps

/-- In a run that `KeepsBusyPools` no two objects of one pool id are busy. -/
theorem oneTurnPerPool_of_reachable {hub : HubSettings} {state : ManagerState Msg}
    (reached : (managerSystem hub Msg).ReachableWithin
      (KeepsBusyPools hub) state) : OneTurnPerPool state := by
  have registered : BusyRegistered state := by
    refine reached.invariant ?_ fun _ _ _ registered keeps stepTo =>
      registered.next keeps stepTo
    rintro state ⟨noObjects, -⟩ object poolId busy
    simp [ManagerState.busy, noObjects] at busy
  exact registered.oneTurnPerPool

/-- Settings of a hub that holds at most `maxPools` pools for ten minutes. -/
def HubSettings.bounded (maxPools : Nat) (positive : 0 < maxPools) : HubSettings where
  maxPools := maxPools
  poolTtl := 600
  flushesSession := fun _ => true
  hasCliPool := true
  maxPools_pos := positive

/-- Two conversations are busy at the same time. -/
theorem oneTurnPerPool_of_two_conversations :
    ∃ state : ManagerState Nat, state.busy 0 = true ∧ state.busy 1 = true ∧
      OneTurnPerPool state := by
  have found : ∃ state : ManagerState Nat,
      (managerSystem (.bounded 2 (by decide)) Nat).ReachableWithin
        (KeepsBusyPools (.bounded 2 (by decide))) state ∧
      state.busy 0 = true ∧ state.busy 1 = true :=
    TransitionSystem.exists_reachableWithin_of_checkedRun
      { clock := 0, debounceMs := 0, cancelOnNewMessage := false }
      ⟨rfl, rfl, rfl, rfl, rfl, rfl⟩
      [.getOrCreatePool "a" "agent" 100 100, .pool 0 (.submit 1) 100,
        .getOrCreatePool "b" "agent" 101 101, .pool 1 (.submit 2) 101]
      (by decide +kernel)
  obtain ⟨state, reached, first, second⟩ := found
  exact ⟨state, first, second, oneTurnPerPool_of_reachable reached⟩

/-- The LRU bound removes a busy pool, the next message of its conversation
creates a second object, and both are busy. -/
theorem exists_two_turns_after_lru_eviction : ∃ state : ManagerState Nat,
      (managerSystem (.bounded 1 (by decide)) Nat).Reachable state ∧
        ¬ OneTurnPerPool state := by
  have found : ∃ state : ManagerState Nat,
      (managerSystem (.bounded 1 (by decide)) Nat).Reachable state ∧
        state.poolIdOf 0 = state.poolIdOf 2 ∧ state.busy 0 = true ∧ state.busy 2 = true :=
    TransitionSystem.exists_reachable_of_run
      { clock := 0, debounceMs := 0, cancelOnNewMessage := false }
      ⟨rfl, rfl, rfl, rfl, rfl, rfl⟩
      [.getOrCreatePool "a" "agent" 100 100, .pool 0 (.submit 1) 100,
        .getOrCreatePool "b" "agent" 101 101,
        .getOrCreatePool "a" "agent" 102 102, .pool 2 (.submit 2) 102]
      (by decide +kernel)
  obtain ⟨state, reached, sameId, first, second⟩ := found
  refine ⟨state, reached, fun oneTurn => ?_⟩
  exact absurd (oneTurn 0 2 sameId first second) (by decide)

end Pool

end RoxabiFactory

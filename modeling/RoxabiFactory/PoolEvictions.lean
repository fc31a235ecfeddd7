import RoxabiFactory.PoolManagerTurns

/-!
# Evictions and their hooks

A pool that is removed because it has been idle for the TTL goes through
`_evict_pool_locked`, which schedules its flush and takes its entry from the
CLI pool.  A pool that the LRU bound removes is no longer in the table when
`_evict_pool_locked` looks for it.  The removals are watched beside the
manager, with what each of them owes.
-/

namespace RoxabiFactory

namespace OrderedDict

variable {Key Value : Type*} [DecidableEq Key] {dict : OrderedDict Key Value}
variable {key : Key}

theorem kerase_eq_filter {entries : List (Σ _ : Key, Value)} (nodup : entries.NodupKeys) :
    entries.kerase key = entries.filter fun entry => decide (entry.1 ≠ key) := by
  induction entries with
  | nil => rfl
  | cons entry entries ih =>
    obtain ⟨absent, nodup⟩ := List.nodupKeys_cons.1 nodup
    by_cases same : key = entry.1
    · rw [List.kerase_cons_eq same, List.filter_cons_of_neg (by simp [same])]
      symm
      rw [List.filter_eq_self]
      intro other member
      rw [decide_eq_true_eq, same]
      intro equal
      apply absent
      rw [← equal]
      exact List.mem_keys_of_mem member
    · rw [List.kerase_cons_ne same, ih nodup, List.filter_cons_of_pos (by simpa using Ne.symm same)]

theorem items_erase : items (dict.erase key) =
    dict.items.filter fun item => decide (item.1 ≠ key) := by
  have entries : (dict.erase key).entries =
      dict.entries.filter fun entry => decide (entry.1 ≠ key) :=
    kerase_eq_filter dict.nodupKeys
  unfold items
  rw [entries, List.filter_reverse, List.filter_map]
  rfl

end OrderedDict

namespace Pool

variable {Msg : Type*}

namespace ManagerState

/-- The pool has a user id, and its agent can flush its session. -/
def needsFlush (hub : HubSettings) (state : ManagerState Msg) (object : Nat) : Bool :=
  state.objects[object]?.any fun pool =>
    decide (pool.userId ≠ "") && hub.flushesSession pool.agentName

/-- The items that the scan for idle pools leaves. -/
def survivors (hub : HubSettings) (state : ManagerState Msg) (now : ℚ) : List (String × Nat) :=
  if now - state.lastEvictionCheck < hub.poolTtl / 10 then state.pools.items
  else state.pools.items.filter fun item => !state.isStale hub now item.2

end ManagerState

/-- A pool that has been removed, with what was due at that moment. -/
structure Removal where
  object : Nat
  reason : EvictionReason
  poolId : Option String
  flushDue : Bool
  deriving DecidableEq

/-- The removal is an eviction, by the TTL or by the LRU bound. -/
def Removal.isEviction (removal : Removal) : Bool :=
  decide (removal.reason ≠ .endOfSession)

/-- The manager and the removals so far. -/
structure Watched (Msg : Type*) where
  manager : ManagerState Msg
  history : List Removal := []

def removals (hub : HubSettings) (before after : ManagerState Msg) : List Removal :=
  (after.removed.drop before.removed.length).map fun removed =>
    { object := removed.1
      reason := removed.2
      poolId := before.poolIdOf removed.1
      flushDue := before.needsFlush hub removed.1 }

def watchedSystem (hub : HubSettings) (Msg : Type*) :
    TransitionSystem (Watched Msg) (ManagerAction Msg) where
  initial watched := (managerSystem hub Msg).initial watched.manager ∧ watched.history = []
  step watched action := (managerStep hub watched.manager action).map fun after =>
    { manager := after
      history := watched.history ++ removals hub watched.manager after }

/-- Every pool is removed at most once; the flushes that were due are scheduled
and the entries of the evicted pools are taken from the CLI pool, each exactly
once. -/
structure AllHooked (hub : HubSettings) (watched : Watched Msg) : Prop where
  once : (watched.history.map Removal.object).Nodup
  flushes : watched.manager.flushes = (watched.history.filter Removal.flushDue).map fun removal =>
      (removal.object, removal.reason)
  cliEvictions : watched.manager.cliEvictions =
    if hub.hasCliPool then
      (watched.history.filter Removal.isEviction).filterMap Removal.poolId
    else []

/-- The LRU bound removes only pools that owe nothing. -/
def LruSpares (hub : HubSettings) (state : ManagerState Msg) : ManagerAction Msg → Prop
  | .getOrCreatePool poolId _ now _ =>
    let left := state.survivors hub now
    poolId ∉ left.map Prod.fst → ∀ item ∈ left.take (left.length + 1 - hub.maxPools),
        hub.hasCliPool = false ∧ state.needsFlush hub item.2 = false
  | _ => True

instance (hub : HubSettings) (state : ManagerState Msg)
    (action : ManagerAction Msg) : Decidable (LruSpares hub state action) :=
  match action with
  | .getOrCreatePool poolId _ now _ =>
    inferInstanceAs (Decidable (poolId ∉ (state.survivors hub now).map Prod.fst → ∀ item ∈
      (state.survivors hub now).take ((state.survivors hub now).length + 1 - hub.maxPools),
        hub.hasCliPool = false ∧ state.needsFlush hub item.2 = false))
  | .touchPool .. | .flushPool _ | .setDebounceMs _ | .setCancelOnNewMessage _
  | .identify .. | .pool .. => isTrue trivial

/-! ## What a call removes -/

/-- A call removes these objects from the table and runs these hooks. -/
structure Removes (hub : HubSettings) (before : ManagerState Msg)
    (gone : List (Nat × EvictionReason))
    (flushed : List (Nat × EvictionReason)) (evicted : List String)
    (after : ManagerState Msg) : Prop where
  removed : after.removed = before.removed ++ gone
  flushes : after.flushes = before.flushes ++ flushed
  cliEvictions : after.cliEvictions = before.cliEvictions ++ if hub.hasCliPool then evicted else []

section Calls

variable {hub : HubSettings} {state middle after : ManagerState Msg}

open ManagerState

theorem Removes.refl : Removes hub state [] [] [] state := by
  constructor
  · exact (List.append_nil _).symm
  · exact (List.append_nil _).symm
  · rw [ite_self, List.append_nil]

theorem Removes.trans {gone laterGone flushed laterFlushed :
      List (Nat × EvictionReason)} {evicted laterEvicted : List String}
    (first : Removes hub state gone flushed evicted middle)
    (second : Removes hub middle laterGone laterFlushed laterEvicted after) :
    Removes hub state (gone ++ laterGone) (flushed ++ laterFlushed)
      (evicted ++ laterEvicted) after := by
  constructor
  · rw [second.removed, first.removed, List.append_assoc]
  · rw [second.flushes, first.flushes, List.append_assoc]
  · rw [second.cliEvictions, first.cliEvictions, List.append_assoc]
    cases hub.hasCliPool <;> simp

theorem Removes.congr {gone flushed : List (Nat × EvictionReason)} {evicted : List String}
    (removes : Removes hub state gone flushed evicted middle)
    (removed : after.removed = middle.removed)
    (flushes : after.flushes = middle.flushes)
    (cliEvictions : after.cliEvictions = middle.cliEvictions) :
    Removes hub state gone flushed evicted after :=
  ⟨removed.trans removes.removed, flushes.trans removes.flushes,
    cliEvictions.trans removes.cliEvictions⟩

theorem needsFlush_congr (objectsEq : after.objects = state.objects) (object : Nat) :
    after.needsFlush hub object = state.needsFlush hub object := by
  unfold needsFlush
  rw [objectsEq]

theorem flushSession_flushes (object : Nat) (reason : EvictionReason) :
    (flushSession hub state object reason).flushes = state.flushes ++
      [(object, reason)].filter fun removed =>
        state.needsFlush hub removed.1 := by
  unfold flushSession needsFlush
  cases found : state.objects[object]? with
  | none => simp [found]
  | some pool =>
    dsimp only
    split
    · rename_i due
      simp [found, due]
    · rename_i notDue
      rw [not_and_or] at notDue
      rcases notDue with noUser | noAgent
      · simp [found, not_not.1 noUser]
      · simp [found, Bool.eq_false_iff.2 noAgent]

theorem flushSession_removed (object : Nat) (reason : EvictionReason) :
    (flushSession hub state object reason).removed = state.removed := by
  unfold flushSession
  split
  · split <;> rfl
  · rfl

theorem flushSession_cliEvictions (object : Nat) (reason : EvictionReason) :
    (flushSession hub state object reason).cliEvictions =
      state.cliEvictions := by
  unfold flushSession
  split
  · split <;> rfl
  · rfl

/-- `_evict_pool_locked` runs the hooks of a pool that it finds. -/
theorem removes_evictPoolLocked {poolId : String} {object : Nat}
    (found : state.pools.lookup poolId = some object)
    (reason : EvictionReason) :
    Removes hub state [(object, reason)]
      ([(object, reason)].filter fun removed => state.needsFlush hub removed.1)
      [poolId] (state.evictPoolLocked hub poolId reason) := by
  unfold evictPoolLocked
  simp only [found]
  constructor
  · split
    · exact flushSession_removed object reason
    · exact flushSession_removed object reason
  · split
    · exact flushSession_flushes object reason
    · exact flushSession_flushes object reason
  · split
    · exact congrArg (· ++ [poolId]) (flushSession_cliEvictions object reason)
    · rw [List.append_nil]
      exact flushSession_cliEvictions object reason

theorem removes_evictIdle (stale : List (String × Nat))
    (found : ∀ item ∈ stale, state.pools.lookup item.1 = some item.2)
    (distinct : (stale.map Prod.fst).Nodup) :
    let evicted := (stale.map Prod.fst).foldl
      (fun state poolId => state.evictPoolLocked hub poolId .idle) state
    let gone := stale.map fun item => (item.2, EvictionReason.idle)
    evicted.objects = state.objects ∧ evicted.pools.items = state.pools.items.filter
        (fun item => decide (item.1 ∉ stale.map Prod.fst)) ∧
      Removes hub state gone (gone.filter fun removed => state.needsFlush hub removed.1)
        (stale.map Prod.fst) evicted := by
  induction stale generalizing state with
  | nil =>
    refine ⟨rfl, ?_, Removes.refl⟩
    exact (List.filter_eq_self.2 fun _ _ => by simp).symm
  | cons item stale ih =>
    obtain ⟨poolId, object⟩ := item
    obtain ⟨absent, distinct⟩ := List.nodup_cons.1 distinct
    have isFound := found _ List.mem_cons_self
    have poolsEq := evictPoolLocked_pools hub isFound .idle
    have objectsEq := @evictPoolLocked_objects _ hub state poolId .idle
    obtain ⟨objects, items, removes⟩ := @ih (state.evictPoolLocked hub poolId .idle) (by
        intro other member
        rw [poolsEq, AList.lookup_erase_ne]
        · exact found other (List.mem_cons_of_mem _ member)
        · intro same
          exact absent (same ▸ List.mem_map_of_mem member)) distinct
    refine ⟨objects.trans objectsEq, ?_, ?_⟩
    · rw [List.map_cons, List.foldl_cons, items, poolsEq,
        OrderedDict.items_erase, List.filter_filter]
      apply List.filter_congr
      intro other _
      rw [Bool.eq_iff_iff, Bool.and_eq_true, decide_eq_true_eq,
        decide_eq_true_eq, decide_eq_true_eq, List.mem_cons, not_or, and_comm]
    · have first := @removes_evictPoolLocked _ hub _ _ _ isFound .idle
      have both := first.trans removes
      simp only [needsFlush_congr objectsEq] at both
      rw [← List.filter_append] at both
      exact both

/-- `_evict_stale_pools` leaves the survivors and hooks the others. -/
theorem removes_evictStalePools (hub : HubSettings) (state : ManagerState Msg) (now : ℚ) :
    ∃ stale : List (String × Nat), stale ⊆ state.pools.items ∧ (stale.map Prod.fst).Nodup ∧
      (state.evictStalePools hub now).objects = state.objects ∧
      (state.evictStalePools hub now).pools.items = state.survivors hub now ∧
      (∀ item ∈ state.survivors hub now, item ∉ stale) ∧
      Removes hub state (stale.map fun item => (item.2, .idle))
        ((stale.map fun item => (item.2, EvictionReason.idle)).filter
          fun removed => state.needsFlush hub removed.1)
        (stale.map Prod.fst) (state.evictStalePools hub now) := by
  unfold evictStalePools survivors
  by_cases throttled : now - state.lastEvictionCheck < hub.poolTtl / 10
  · rw [if_pos throttled, if_pos throttled]
    exact ⟨[], List.nil_subset _, List.nodup_nil, rfl, rfl,
      fun _ _ => List.not_mem_nil, Removes.refl⟩
  · rw [if_neg throttled, if_neg throttled]
    set stale := state.pools.items.filter fun item =>
      state.isStale hub now item.2 with isStale
    have sublist : stale.Sublist state.pools.items := List.filter_sublist
    have distinct : (stale.map Prod.fst).Nodup :=
      (sublist.map Prod.fst).nodup (OrderedDict.nodup_keys_items _)
    obtain ⟨objects, items, removes⟩ := @removes_evictIdle _ hub
      { state with lastEvictionCheck := now } stale
      (fun item member => OrderedDict.mem_items.1 (sublist.subset member))
      distinct
    refine ⟨stale, sublist.subset, distinct, objects, ?_, ?_,
      ⟨removes.removed, removes.flushes, removes.cliEvictions⟩⟩
    · dsimp only at items ⊢
      rw [items]
      apply List.filter_congr
      intro item member
      rw [Bool.eq_iff_iff, decide_eq_true_eq, Bool.not_eq_true', ← Bool.not_eq_true, not_iff_not]
      constructor
      · intro inStale
        obtain ⟨other, otherStale, same⟩ := List.mem_map.1 inStale
        obtain ⟨inItems, expired⟩ := List.mem_filter.1 otherStale
        have held := OrderedDict.mem_items.1 inItems
        rw [same, OrderedDict.mem_items.1 member] at held
        rw [Option.some.inj held]
        exact expired
      · intro expired
        exact List.mem_map_of_mem (List.mem_filter.2 ⟨member, expired⟩)
    · intro item survives inStale
      have expired := (List.mem_filter.1 inStale).2
      have notExpired := (List.mem_filter.1 survives).2
      rw [expired] at notExpired
      cases notExpired

theorem removes_enforceMaxPools (rounds : Nat) (enough : state.pools.size ≤ rounds) :
    (enforceMaxPools hub rounds state).objects = state.objects ∧ Removes hub state
        ((state.lruVictims hub).map fun item => (item.2, .lru)) [] []
        (enforceMaxPools hub rounds state) := by
  have positive := hub.maxPools_pos
  induction rounds generalizing state with
  | zero =>
    have none : state.pools.size + 1 - hub.maxPools = 0 := by omega
    rw [lruVictims, none]
    exact ⟨rfl, Removes.refl⟩
  | succ rounds ih =>
    unfold enforceMaxPools
    split
    · rename_i full
      cases popped : state.pools.popOldest with
      | none =>
        have empty := OrderedDict.size_of_popOldest_eq_none popped
        omega
      | some result =>
        obtain ⟨⟨poolId, object⟩, rest⟩ := result
        rw [evictLruLocked_eq popped]
        have sizeEq := OrderedDict.size_popOldest popped
        have count : state.pools.size + 1 - hub.maxPools =
            rest.size + 1 - hub.maxPools + 1 := by omega
        have victims : state.lruVictims hub = (poolId, object) ::
            rest.items.take (rest.size + 1 - hub.maxPools) := by
          rw [lruVictims, count, OrderedDict.items_of_popOldest popped, List.take_succ_cons]
        have pops : Removes hub state [(object, .lru)] [] []
            { state with
              pools := rest
              removed := state.removed ++ [(object, .lru)] } := by
          refine ⟨rfl, (List.append_nil _).symm, ?_⟩
          rw [ite_self, List.append_nil]
        obtain ⟨objects, removes⟩ := @ih
          { state with
            pools := rest
            removed := state.removed ++ [(object, .lru)] } (by
              dsimp only
              omega)
        rw [victims]
        exact ⟨objects, pops.trans removes⟩
    · rename_i room
      have none : state.pools.size + 1 - hub.maxPools = 0 := by omega
      rw [lruVictims, none]
      exact ⟨rfl, Removes.refl⟩

def lruRemoved (hub : HubSettings) (state : ManagerState Msg)
    (poolId : String) (now : ℚ) : List (String × Nat) :=
  let left := state.survivors hub now
  if poolId ∈ left.map Prod.fst then []
  else left.take (left.length + 1 - hub.maxPools)

/-- `get_or_create_pool` runs the hooks of the idle pools only. -/
theorem removes_getOrCreatePool (hub : HubSettings) (state : ManagerState Msg)
    (poolId agentName : String) (now touched : ℚ) :
    ∃ stale : List (String × Nat), stale ⊆ state.pools.items ∧ Removes hub state
        ((stale.map fun item => (item.2, EvictionReason.idle)) ++
          (lruRemoved hub state poolId now).map fun item => (item.2, .lru))
        ((stale.map fun item => (item.2, EvictionReason.idle)).filter
          fun removed => state.needsFlush hub removed.1)
        (stale.map Prod.fst)
        (state.getOrCreatePool hub poolId agentName now touched).1 := by
  obtain ⟨stale, inItems, -, -, items, -, removes⟩ := removes_evictStalePools hub state now
  refine ⟨stale, inItems, ?_⟩
  have isLeft : poolId ∈ (state.survivors hub now).map Prod.fst ↔
      ∃ object, (state.evictStalePools hub now).pools.lookup poolId =
        some object := by
    rw [← items, List.mem_map]
    constructor
    · rintro ⟨item, member, rfl⟩
      exact ⟨item.2, OrderedDict.mem_items.1 member⟩
    · rintro ⟨object, held⟩
      exact ⟨(poolId, object), OrderedDict.mem_items.2 held, rfl⟩
  unfold getOrCreatePool lruRemoved
  cases held : (state.evictStalePools hub now).pools.lookup poolId with
  | some object =>
    simp only [held]
    rw [if_pos (isLeft.2 ⟨object, held⟩), List.map_nil, List.append_nil]
    exact removes.congr rfl rfl rfl
  | none =>
    have notLeft : poolId ∉ (state.survivors hub now).map Prod.fst := by
      rw [isLeft, held]
      rintro ⟨object, ⟨⟩⟩
    obtain ⟨-, bounds⟩ := @removes_enforceMaxPools _ hub
      (state.evictStalePools hub now) _ (Nat.le_refl _)
    have both := removes.trans bounds
    have victims : (state.evictStalePools hub now).lruVictims hub = (state.survivors hub now).take
          ((state.survivors hub now).length + 1 - hub.maxPools) := by
      rw [lruVictims, ← OrderedDict.length_items, items]
    rw [victims, List.append_nil, List.append_nil] at both
    simp only [held]
    rw [if_neg notLeft]
    exact both.congr rfl rfl rfl

/-! ## Objects are removed once -/

/-- The table holds objects under their ids, and none that has been removed. -/
structure Tidy (state : ManagerState Msg) : Prop where
  registered : ∀ poolId object, state.pools.lookup poolId = some object →
    state.poolIdOf object = some poolId
  gone : ∀ removed ∈ state.removed, ∀ poolId, state.pools.lookup poolId ≠ some removed.1
  existed : ∀ removed ∈ state.removed, removed.1 < state.objects.length
  once : (state.removed.map Prod.fst).Nodup

theorem length_pos_of_poolIdOf {object : Nat} {poolId : String}
    (known : state.poolIdOf object = some poolId) :
    object < state.objects.length := by
  obtain ⟨pool, found, -⟩ := Option.map_eq_some_iff.1 known
  exact (List.getElem?_eq_some_iff.1 found).1

/-- A step that leaves the ids of the objects, the lookups and the removals. -/
theorem Tidy.frame (tidy : Tidy state)
    (ids : ∀ object, after.poolIdOf object = state.poolIdOf object)
    (lengths : after.objects.length = state.objects.length)
    (lookups : ∀ poolId, after.pools.lookup poolId = state.pools.lookup poolId)
    (removed : after.removed = state.removed) : Tidy after := by
  constructor
  · intro poolId object held
    rw [ids]
    exact tidy.registered poolId object ((lookups poolId).symm.trans held)
  · intro old member poolId held
    rw [removed] at member
    exact tidy.gone old member poolId ((lookups poolId).symm.trans held)
  · rw [removed, lengths]
    exact tidy.existed
  · rw [removed]
    exact tidy.once

theorem Tidy.erase (tidy : Tidy state) {poolId : String} {object : Nat}
    (found : state.pools.lookup poolId = some object)
    (reason : EvictionReason) (objectsEq : after.objects = state.objects)
    (poolsEq : after.pools = state.pools.erase poolId)
    (removedEq : after.removed = state.removed ++ [(object, reason)]) :
    Tidy after := by
  have ids : ∀ other, after.poolIdOf other = state.poolIdOf other := by
    intro other
    unfold poolIdOf
    rw [objectsEq]
  have older {other : String} {holder : Nat} (held : after.pools.lookup other = some holder) :
      state.pools.lookup other = some holder := by
    rw [poolsEq] at held
    exact OrderedDict.lookup_eq_of_lookup_erase held
  have isKnown := tidy.registered poolId object found
  constructor
  · intro other holder held
    rw [ids]
    exact tidy.registered other holder (older held)
  · intro removed member other held
    rw [removedEq] at member
    rcases List.mem_append.1 member with old | new
    · exact tidy.gone removed old other (older held)
    · rw [List.mem_singleton.1 new] at held
      have same := tidy.registered other object (older held)
      rw [isKnown] at same
      rw [poolsEq, ← Option.some.inj same, AList.lookup_erase] at held
      cases held
  · intro removed member
    rw [removedEq] at member
    rw [objectsEq]
    rcases List.mem_append.1 member with old | new
    · exact tidy.existed removed old
    · rw [List.mem_singleton.1 new]
      exact length_pos_of_poolIdOf isKnown
  · rw [removedEq, List.map_append, List.nodup_append]
    refine ⟨tidy.once, List.nodup_singleton _, ?_⟩
    intro first old second new same
    obtain ⟨removed, member, rfl⟩ := List.mem_map.1 old
    rw [List.map_singleton, List.mem_singleton] at new
    apply tidy.gone removed member poolId
    rw [same, new]
    exact found

theorem Tidy.evictPoolLocked (tidy : Tidy state) (hub : HubSettings)
    (poolId : String) (reason : EvictionReason) :
    Tidy (state.evictPoolLocked hub poolId reason) := by
  cases found : state.pools.lookup poolId with
  | none =>
    unfold ManagerState.evictPoolLocked
    simp only [found]
    exact tidy
  | some object =>
    exact tidy.erase found reason (evictPoolLocked_objects poolId reason)
      (evictPoolLocked_pools hub found reason)
      (removes_evictPoolLocked found reason).removed

theorem Tidy.evictStalePools (tidy : Tidy state) (hub : HubSettings)
    (now : ℚ) : Tidy (state.evictStalePools hub now) := by
  unfold ManagerState.evictStalePools
  split
  · exact tidy
  · have start : Tidy { state with lastEvictionCheck := now } :=
      tidy.frame (fun _ => rfl) rfl (fun _ => rfl) rfl
    generalize ({ state with lastEvictionCheck := now } :
      ManagerState Msg) = checked at start
    dsimp only
    generalize List.map Prod.fst _ = stale
    induction stale generalizing checked with
    | nil => exact start
    | cons poolId stale ih => exact ih _ (start.evictPoolLocked hub poolId .idle)

theorem Tidy.enforceMaxPools (tidy : Tidy state) (hub : HubSettings)
    (rounds : Nat) : Tidy (enforceMaxPools hub rounds state) := by
  induction rounds generalizing state with
  | zero => exact tidy
  | succ rounds ih =>
    unfold ManagerState.enforceMaxPools
    split
    · cases popped : state.pools.popOldest with
      | none =>
        simp only [evictLruLocked, popped]
        exact ih tidy
      | some result =>
        obtain ⟨⟨poolId, object⟩, rest⟩ := result
        obtain ⟨found, isRest⟩ := OrderedDict.lookup_of_popOldest popped
        rw [evictLruLocked_eq popped]
        apply ih
        exact tidy.erase found .lru rfl isRest rfl
    · exact tidy

/-- A new object has never been removed. -/
theorem Tidy.createPool (tidy : Tidy state) (poolId agentName : String)
    (created : ℚ) : Tidy (state.createPool poolId agentName created).1 := by
  have old {object : Nat} (inRange : object < state.objects.length) :
      (state.createPool poolId agentName created).1.poolIdOf object =
        state.poolIdOf object := by
    unfold poolIdOf ManagerState.createPool
    rw [List.getElem?_append_left inRange]
  constructor
  · intro other object held
    by_cases same : other = poolId
    · rw [same] at held ⊢
      unfold ManagerState.createPool at held
      rw [AList.lookup_insert, Option.some.injEq] at held
      unfold poolIdOf ManagerState.createPool
      rw [← held, List.getElem?_concat_length]
      rfl
    · have held : state.pools.lookup other = some object :=
        (AList.lookup_insert_ne same).symm.trans held
      have known := tidy.registered other object held
      rw [old (length_pos_of_poolIdOf known)]
      exact known
  · intro removed member other held
    by_cases same : other = poolId
    · rw [same] at held
      unfold ManagerState.createPool at held
      rw [AList.lookup_insert, Option.some.injEq] at held
      have existed := tidy.existed removed member
      omega
    · exact tidy.gone removed member other ((AList.lookup_insert_ne same).symm.trans held)
  · intro removed member
    unfold ManagerState.createPool
    rw [List.length_append]
    exact Nat.lt_succ_of_lt (tidy.existed removed member)
  · exact tidy.once

theorem Tidy.of_map (tidy : Tidy state) (change : Nat → PoolObject Msg → PoolObject Msg)
    (objectsEq : ∀ object, after.objects[object]? = state.objects[object]?.map (change object))
    (sameId : ∀ object pool, (change object pool).poolId = pool.poolId)
    (lengths : after.objects.length = state.objects.length)
    (lookups : ∀ poolId, after.pools.lookup poolId = state.pools.lookup poolId)
    (removed : after.removed = state.removed) : Tidy after := by
  refine tidy.frame ?_ lengths lookups removed
  intro object
  unfold poolIdOf
  rw [objectsEq, Option.map_map]
  congr 1
  funext pool
  exact sameId object pool

theorem Tidy.modify (tidy : Tidy state) (object : Nat) (update : PoolObject Msg → PoolObject Msg)
    (objectsEq : after.objects = state.objects.modify object update)
    (sameId : ∀ pool, (update pool).poolId = pool.poolId)
    (lookups : ∀ poolId, after.pools.lookup poolId = state.pools.lookup poolId)
    (removed : after.removed = state.removed) : Tidy after := by
  refine tidy.of_map (fun other pool => if object = other then update pool else pool)
    ?_ ?_ ?_ lookups removed
  · intro other
    rw [objectsEq, List.getElem?_modify]
    rfl
  · intro other pool
    split
    · exact sameId pool
    · rfl
  · rw [objectsEq, List.length_modify]

theorem Tidy.updateRegistered (tidy : Tidy state) (update : PoolState Msg → PoolState Msg) :
    Tidy (state.updateRegistered update) := by
  refine tidy.of_map (fun object pool => if (pool.poolId, object) ∈ state.pools.items then
      { pool with loop := update pool.loop } else pool) ?_ ?_ ?_
    (fun _ => rfl) rfl
  · intro object
    exact List.getElem?_mapIdx
  · intro object pool
    split <;> rfl
  · exact List.length_mapIdx

theorem tidy_of_step {action : ManagerAction Msg} (tidy : Tidy state)
    (steps : managerStep hub state action = some after) : Tidy after := by
  unfold managerStep at steps
  split at steps
  · obtain ⟨performed, effect, rfl⟩ := Option.map_eq_some_iff.1 steps
    suffices kept : Tidy performed from
      kept.frame (fun _ => rfl) rfl (fun _ => rfl) rfl
    cases action with
    | getOrCreatePool poolId agentName now touched =>
      cases effect
      have swept := tidy.evictStalePools hub now
      unfold ManagerState.getOrCreatePool
      dsimp only
      split
      · exact swept.modify _ _ rfl (fun _ => rfl) (fun _ => OrderedDict.lookup_moveToEnd) rfl
      · exact (swept.enforceMaxPools hub _).createPool _ _ _
    | touchPool poolId now =>
      cases effect
      unfold ManagerState.touchPool
      split
      · exact tidy
      · exact tidy.modify _ _ rfl (fun _ => rfl) (fun _ => OrderedDict.lookup_moveToEnd) rfl
    | flushPool poolId =>
      cases effect
      unfold ManagerState.flushPool
      split
      · exact tidy
      · rename_i object found
        exact tidy.erase found .endOfSession (flushSession_objects object .endOfSession)
          (flushSession_pools object .endOfSession)
          (flushSession_removed object .endOfSession)
    | setDebounceMs ms =>
      cases effect
      have start : Tidy { state with debounceMs := ms } :=
        tidy.frame (fun _ => rfl) rfl (fun _ => rfl) rfl
      exact start.updateRegistered _
    | setCancelOnNewMessage enabled =>
      cases effect
      have start : Tidy { state with cancelOnNewMessage := enabled } :=
        tidy.frame (fun _ => rfl) rfl (fun _ => rfl) rfl
      exact start.updateRegistered _
    | identify object userId =>
      cases effect
      exact tidy.modify object _ rfl (fun _ => rfl) (fun _ => rfl) rfl
    | pool object action now =>
      obtain ⟨pool, found, rest⟩ := Option.bind_eq_some_iff.1 effect
      obtain ⟨loop, -, made⟩ := Option.bind_eq_some_iff.1 rest
      cases made
      refine tidy.frame ?_ List.length_set (fun _ => rfl) rfl
      intro other
      unfold poolIdOf
      by_cases same : object = other
      · rw [← same, found, List.getElem?_set_self (List.getElem?_eq_some_iff.1 found).1]
        rfl
      · rw [List.getElem?_set_ne same]
  · cases steps

/-! ## What is due -/

def HooksRun (hub : HubSettings) (state : ManagerState Msg)
    (gone flushed : List (Nat × EvictionReason)) (evicted : List String) :
    Prop :=
  flushed = (gone.filter fun removed => state.needsFlush hub removed.1) ∧
    (hub.hasCliPool = true → evicted =
      (gone.filter fun removed => decide (removed.2 ≠ .endOfSession)).filterMap
        fun removed => state.poolIdOf removed.1)

theorem hooksRun_nil : HooksRun hub state [] [] [] := ⟨rfl, fun _ => rfl⟩

theorem evictedIds_map (tidy : Tidy state) {items : List (String × Nat)}
    (inTable : items ⊆ state.pools.items) {reason : EvictionReason}
    (evicts : reason ≠ .endOfSession) :
    ((items.map fun item => (item.2, reason)).filter
      fun removed => decide (removed.2 ≠ .endOfSession)).filterMap
        (fun removed => state.poolIdOf removed.1) = items.map Prod.fst := by
  induction items with
  | nil => rfl
  | cons item items ih =>
    have held := OrderedDict.mem_items.1 (inTable List.mem_cons_self)
    have isEviction : decide ((item.2, reason).2 ≠ .endOfSession) = true :=
      decide_eq_true evicts
    have known : state.poolIdOf (item.2, reason).1 = some item.1 := tidy.registered _ _ held
    rw [List.map_cons, List.filter_cons, if_pos isEviction, List.filterMap_cons, known,
      ih fun _ member => inTable (List.mem_cons_of_mem _ member)]
    rfl

theorem lruRemoved_subset (hub : HubSettings) (state : ManagerState Msg)
    (poolId : String) (now : ℚ) :
    lruRemoved hub state poolId now ⊆ state.pools.items := by
  have survive : state.survivors hub now ⊆ state.pools.items := by
    unfold survivors
    split
    · exact List.Subset.refl _
    · exact List.filter_subset_self _
  unfold lruRemoved
  dsimp only
  split
  · exact List.nil_subset _
  · exact List.Subset.trans (List.take_subset _ _) survive

/-- The hooks of a call run if and only if the LRU bound removes nothing that
owes something. -/
theorem hooksRun_getOrCreatePool_iff (tidy : Tidy state)
    {stale : List (String × Nat)} (inTable : stale ⊆ state.pools.items)
    (poolId agentName : String) (now touched : ℚ) :
    HooksRun hub state ((stale.map fun item => (item.2, EvictionReason.idle)) ++
          (lruRemoved hub state poolId now).map fun item => (item.2, .lru))
        ((stale.map fun item => (item.2, EvictionReason.idle)).filter
          fun removed => state.needsFlush hub removed.1)
        (stale.map Prod.fst) ↔
      LruSpares hub state (.getOrCreatePool poolId agentName now touched) := by
  have spares : LruSpares hub state (.getOrCreatePool poolId agentName now touched) ↔
        ∀ item ∈ lruRemoved hub state poolId now,
          hub.hasCliPool = false ∧ state.needsFlush hub item.2 = false := by
    unfold LruSpares lruRemoved
    dsimp only
    split
    · rename_i isLeft
      refine iff_of_true (fun notLeft => absurd isLeft notLeft) ?_
      exact fun _ absent => absurd absent List.not_mem_nil
    · rename_i notLeft
      exact imp_iff_right notLeft
  have victimsInTable := lruRemoved_subset hub state poolId now
  rw [spares]
  generalize lruRemoved hub state poolId now = victims at victimsInTable
  have noFlush : ((victims.map fun item => (item.2, EvictionReason.lru)).filter
      fun removed => state.needsFlush hub removed.1) = [] ↔
        ∀ item ∈ victims, state.needsFlush hub item.2 = false := by
    rw [List.filter_eq_nil_iff, List.forall_mem_map]
    exact forall₂_congr fun item _ => Bool.not_eq_true _ ▸ Iff.rfl
  unfold HooksRun
  rw [List.filter_append, List.filter_append, List.filterMap_append,
    evictedIds_map tidy inTable (by decide),
    evictedIds_map tidy victimsInTable (by decide), List.self_eq_append_right,
    List.self_eq_append_right, noFlush, List.map_eq_nil_iff]
  constructor
  · rintro ⟨owesNothing, noCliPool⟩ item member
    refine ⟨?_, owesNothing item member⟩
    rw [← Bool.not_eq_true]
    intro hasCliPool
    rw [noCliPool hasCliPool] at member
    cases member
  · intro spared
    refine ⟨fun item member => (spared item member).2, fun hasCliPool => ?_⟩
    rw [List.eq_nil_iff_forall_not_mem]
    intro item member
    rw [(spared item member).1] at hasCliPool
    cases hasCliPool

/-- What a step removes; the hooks run if and only if the LRU bound spares the
pools that owe something. -/
theorem exists_removes_of_step {action : ManagerAction Msg}
    (tidy : Tidy state) (steps : managerStep hub state action = some after) :
    ∃ gone flushed evicted, Removes hub state gone flushed evicted after ∧
      (HooksRun hub state gone flushed evicted ↔
        LruSpares hub state action) := by
  have nothing {other : ManagerState Msg} (removed : other.removed = state.removed)
      (flushes : other.flushes = state.flushes)
      (cliEvictions : other.cliEvictions = state.cliEvictions)
      (spares : LruSpares hub state action) :
      ∃ gone flushed evicted, Removes hub state gone flushed evicted other ∧
        (HooksRun hub state gone flushed evicted ↔ LruSpares hub state action) :=
    ⟨[], [], [], Removes.refl.congr removed flushes cliEvictions, iff_of_true hooksRun_nil spares⟩
  unfold managerStep at steps
  split at steps
  · obtain ⟨performed, effect, rfl⟩ := Option.map_eq_some_iff.1 steps
    suffices found : ∃ gone flushed evicted, Removes hub state gone flushed evicted performed ∧
          (HooksRun hub state gone flushed evicted ↔ LruSpares hub state action) by
      obtain ⟨gone, flushed, evicted, removes, exactly⟩ := found
      exact ⟨gone, flushed, evicted, removes.congr rfl rfl rfl, exactly⟩
    cases action with
    | getOrCreatePool poolId agentName now touched =>
      cases effect
      obtain ⟨stale, inTable, removes⟩ := removes_getOrCreatePool hub state
        poolId agentName now touched
      exact ⟨_, _, _, removes, hooksRun_getOrCreatePool_iff tidy inTable
        poolId agentName now touched⟩
    | flushPool poolId =>
      cases effect
      unfold ManagerState.flushPool
      split
      · exact nothing rfl rfl rfl trivial
      · rename_i object found
        refine ⟨[(object, .endOfSession)], _, [], ⟨?_, ?_, ?_⟩,
          iff_of_true ⟨rfl, fun _ => rfl⟩ trivial⟩
        · exact flushSession_removed object .endOfSession
        · exact flushSession_flushes object .endOfSession
        · rw [ite_self, List.append_nil]
          exact flushSession_cliEvictions object .endOfSession
    | touchPool poolId now =>
      cases effect
      unfold ManagerState.touchPool
      split
      · exact nothing rfl rfl rfl trivial
      · exact nothing rfl rfl rfl trivial
    | pool object action now =>
      obtain ⟨pool, found, rest⟩ := Option.bind_eq_some_iff.1 effect
      obtain ⟨loop, -, made⟩ := Option.bind_eq_some_iff.1 rest
      cases made
      exact nothing rfl rfl rfl trivial
    | _ =>
      cases effect
      exact nothing rfl rfl rfl trivial
  · cases steps

/-! ## The watched manager -/

/-- The history is that of the manager. -/
structure Matches (watched : Watched Msg) : Prop where
  tidy : Tidy watched.manager
  removed : (watched.history.map fun removal =>
    (removal.object, removal.reason)) = watched.manager.removed

theorem Matches.once {watched : Watched Msg} (isMatched : Matches watched) :
    (watched.history.map Removal.object).Nodup := by
  have objects : watched.history.map Removal.object =
      watched.manager.removed.map Prod.fst := by
    rw [← isMatched.removed, List.map_map]
    rfl
  rw [objects]
  exact isMatched.tidy.once

theorem removals_eq {gone flushed : List (Nat × EvictionReason)} {evicted : List String}
    (removes : Removes hub state gone flushed evicted after) :
    removals hub state after = gone.map fun removed =>
      { object := removed.1
        reason := removed.2
        poolId := state.poolIdOf removed.1
        flushDue := state.needsFlush hub removed.1 } := by
  unfold removals
  rw [removes.removed, List.drop_left]

theorem Matches.step {before later : Watched Msg} {action : ManagerAction Msg}
    (isMatched : Matches before)
    (steps : (watchedSystem hub Msg).step before action = some later) :
    Matches later := by
  obtain ⟨after, managerSteps, rfl⟩ := Option.map_eq_some_iff.1 steps
  obtain ⟨gone, flushed, evicted, removes, -⟩ :=
    exists_removes_of_step isMatched.tidy managerSteps
  refine ⟨tidy_of_step isMatched.tidy managerSteps, ?_⟩
  dsimp only
  rw [removals_eq removes, List.map_append, isMatched.removed, removes.removed, List.map_map]
  congr 1
  exact List.map_id gone

theorem matches_of_reachable {watched : Watched Msg}
    (reached : (watchedSystem hub Msg).Reachable watched) :
    Matches watched := by
  apply reached.invariant
  · rintro ⟨manager, history⟩ ⟨⟨noObjects, noPools, -, noRemoved, -⟩, isNew⟩
    dsimp only at noObjects noPools noRemoved isNew
    refine ⟨⟨?_, ?_, ?_, ?_⟩, ?_⟩
    · intro poolId object held
      dsimp only at held
      rw [noPools, AList.lookup_empty] at held
      cases held
    · intro removed member
      dsimp only at member
      rw [noRemoved] at member
      cases member
    · intro removed member
      dsimp only at member
      rw [noRemoved] at member
      cases member
    · dsimp only
      rw [noRemoved]
      exact List.nodup_nil
    · dsimp only
      rw [isNew, noRemoved]
      rfl
  · intro before action later isMatched _ steps
    exact isMatched.step steps

theorem allHooked_of_initial {watched : Watched Msg}
    (initially : (watchedSystem hub Msg).initial watched) :
    AllHooked hub watched := by
  obtain ⟨⟨-, -, -, -, noFlushes, noEvictions⟩, isNew⟩ := initially
  constructor
  · rw [isNew]
    exact List.nodup_nil
  · rw [isNew, noFlushes]
    rfl
  · rw [isNew, noEvictions]
    exact (ite_self []).symm

/-- From a state in which all hooks have run, a step runs the hooks of what it
removes if and only if the LRU bound spares the pools that owe something. -/
theorem allHooked_step_iff {before later : Watched Msg}
    {action : ManagerAction Msg} (isMatched : Matches before)
    (hooked : AllHooked hub before)
    (steps : (watchedSystem hub Msg).step before action = some later) :
    AllHooked hub later ↔ LruSpares hub before.manager action := by
  obtain ⟨after, managerSteps, rfl⟩ := Option.map_eq_some_iff.1 steps
  obtain ⟨gone, flushed, evicted, removes, exactly⟩ :=
    exists_removes_of_step isMatched.tidy managerSteps
  have once := (isMatched.step steps).once
  have due : ((removals hub before.manager after).filter
      Removal.flushDue).map (fun removal => (removal.object, removal.reason)) =
        gone.filter fun removed => before.manager.needsFlush hub removed.1 := by
    rw [removals_eq removes, List.filter_map, List.map_map]
    exact List.map_id _
  have ids : ((removals hub before.manager after).filter
      Removal.isEviction).filterMap Removal.poolId =
        (gone.filter fun removed => decide (removed.2 ≠ .endOfSession)).filterMap
          fun removed => before.manager.poolIdOf removed.1 := by
    rw [removals_eq removes, List.filter_map, List.filterMap_map]
    rfl
  have flushes : after.flushes = ((before.history ++ removals hub before.manager after).filter
        Removal.flushDue).map (fun removal =>
          (removal.object, removal.reason)) ↔
      flushed = gone.filter fun removed => before.manager.needsFlush hub removed.1 := by
    rw [removes.flushes, hooked.flushes, List.filter_append, List.map_append,
      due, List.append_cancel_left_eq]
  have cliEvictions : (after.cliEvictions = if hub.hasCliPool then
      ((before.history ++ removals hub before.manager after).filter
        Removal.isEviction).filterMap Removal.poolId else []) ↔
      (hub.hasCliPool = true → evicted =
        (gone.filter fun removed => decide (removed.2 ≠ .endOfSession)).filterMap
          fun removed => before.manager.poolIdOf removed.1) := by
    rw [removes.cliEvictions, hooked.cliEvictions, List.filter_append, List.filterMap_append, ids]
    cases hub.hasCliPool with
    | true =>
      rw [if_pos rfl, if_pos rfl, if_pos rfl, List.append_cancel_left_eq, imp_iff_right rfl]
    | false => exact iff_of_true rfl fun absent => by cases absent
  rw [← exactly, HooksRun, ← flushes, ← cliEvictions]
  constructor
  · intro later
    exact ⟨later.flushes, later.cliEvictions⟩
  · rintro ⟨isFlushed, isEvicted⟩
    exact ⟨once, isFlushed, isEvicted⟩

end Calls

/-- In every run in which the LRU bound spares the pools that owe something,
all hooks have run, exactly once; and a step of any run breaks this if and only
if the LRU bound does not. -/
theorem allHooked_iff_lruSpares (hub : HubSettings) (Msg : Type*) :
    (∀ watched, (watchedSystem hub Msg).ReachableWithin
        (fun watched action => LruSpares hub watched.manager action) watched →
      AllHooked hub watched) ∧
    ∀ watched action later, (watchedSystem hub Msg).Reachable watched → AllHooked hub watched →
        (watchedSystem hub Msg).step watched action = some later →
          (AllHooked hub later ↔ LruSpares hub watched.manager action) := by
  constructor
  · intro watched reached
    apply reached.invariant_of_invariant
      fun state within => matches_of_reachable within.reachable
    · exact fun state initially => allHooked_of_initial initially
    · intro before action later isMatched hooked spares steps
      exact (allHooked_step_iff isMatched hooked steps).2 spares
  · intro watched action later reached hooked steps
    exact allHooked_step_iff (matches_of_reachable reached) hooked steps

section Example

/-- A pool has been idle for the TTL. -/
theorem allHooked_of_idle_pool : ∃ watched : Watched Nat, watched.manager.flushes = [(0, .idle)] ∧
      AllHooked (.bounded 1 (by decide)) watched := by
  have found : ∃ watched : Watched Nat, (watchedSystem (.bounded 1 (by decide)) Nat).ReachableWithin
        (fun watched action => LruSpares (.bounded 1 (by decide))
          watched.manager action) watched ∧
        watched.manager.flushes = [(0, .idle)] :=
    TransitionSystem.exists_reachableWithin_of_checkedRun
      { manager := { clock := 0, debounceMs := 0, cancelOnNewMessage := false } }
      ⟨⟨rfl, rfl, rfl, rfl, rfl, rfl⟩, rfl⟩
      [.getOrCreatePool "a" "agent" 100 100, .identify 0 "user",
        .getOrCreatePool "b" "agent" 800 800]
      (by decide +kernel)
  obtain ⟨watched, reached, flushes⟩ := found
  exact ⟨watched, flushes, (allHooked_iff_lruSpares _ _).1 watched reached⟩

/-- The second conversation pushes the first one out of a full table. -/
theorem exists_eviction_without_hooks : ∃ watched : Watched Nat,
      (watchedSystem (.bounded 1 (by decide)) Nat).Reachable watched ∧
        ¬ AllHooked (.bounded 1 (by decide)) watched := by
  have found : ∃ watched : Watched Nat,
      (watchedSystem (.bounded 1 (by decide)) Nat).Reachable watched ∧
        watched.manager.cliEvictions = [] ∧ (watched.history.filter Removal.isEviction).filterMap
            Removal.poolId = ["a"] :=
    TransitionSystem.exists_reachable_of_run
      { manager := { clock := 0, debounceMs := 0, cancelOnNewMessage := false } }
      ⟨⟨rfl, rfl, rfl, rfl, rfl, rfl⟩, rfl⟩
      [.getOrCreatePool "a" "agent" 100 100, .identify 0 "user",
        .getOrCreatePool "b" "agent" 101 101]
      (by decide +kernel)
  obtain ⟨watched, reached, nothing, evicted⟩ := found
  refine ⟨watched, reached, fun hooked => ?_⟩
  have evictions := hooked.cliEvictions
  rw [nothing, evicted] at evictions
  cases evictions

end Example

end Pool

end RoxabiFactory

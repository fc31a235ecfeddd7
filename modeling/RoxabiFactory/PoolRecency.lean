import RoxabiFactory.PoolManagerTurns

/-!
# The table of pools as an LRU cache

`PoolManager` never holds more than `max_pools` pools, and its table lists them
in the order in which `get_or_create_pool` and `touch_pool` have last been
called for them.  So the LRU bound removes pools that have been used before all
those that it keeps, whatever the TTL and `flush_pool` have removed meanwhile.
-/

namespace RoxabiFactory

namespace OrderedDict

variable {Key Value : Type*} {dict : OrderedDict Key Value}

theorem keys_eq_items : dict.keys = (dict.items.map Prod.fst).reverse := by
  simp [items, AList.keys, List.keys, Function.comp_def]

variable [DecidableEq Key] {key : Key} {keys : List Key}

theorem keys_of_popOldest {oldest : Key × Value} {rest : OrderedDict Key Value}
    (popped : dict.popOldest = some (oldest, rest)) :
    dict.keys = rest.keys ++ [oldest.1] := by
  rw [keys_eq_items, items_of_popOldest popped, keys_eq_items]
  simp

theorem erase_keys_sublist (sublist : dict.keys.Sublist keys) :
    (AList.keys (dict.erase key)).Sublist keys := by
  rw [AList.keys_erase]
  exact List.erase_sublist.trans sublist

theorem insert_keys_sublist (sublist : dict.keys.Sublist keys) (value : Value) :
    (AList.keys (dict.insert key value)).Sublist (key :: keys.erase key) := by
  rw [AList.keys_insert]
  exact (sublist.erase key).cons_cons key

theorem moveToEnd_keys_sublist (sublist : dict.keys.Sublist keys) :
    (dict.moveToEnd key).keys.Sublist (key :: keys.erase key) := by
  unfold moveToEnd
  split
  · exact insert_keys_sublist sublist _
  · rename_i absent
    have notMem : key ∉ dict.keys := AList.mem_keys.not.mp (AList.lookup_eq_none.mp absent)
    have kept := sublist.erase key
    rw [List.erase_of_not_mem notMem] at kept
    exact kept.cons key

theorem size_moveToEnd : (dict.moveToEnd key).size = dict.size := by
  unfold moveToEnd
  split
  · rename_i value found
    have member : key ∈ dict.keys := AList.lookup_isSome.mp (by rw [found]; rfl)
    have nonempty := List.length_pos_of_mem member
    rw [size, AList.keys_insert, List.length_cons, List.length_erase_of_mem member, size]
    omega
  · rfl

end OrderedDict

namespace Pool

variable {Msg : Type*} {hub : HubSettings} {state after : ManagerState Msg}

/-- The pool that `get_or_create_pool` or `touch_pool` is called for. -/
def ManagerAction.used : ManagerAction Msg → Option String
  | .getOrCreatePool poolId _ _ _ | .touchPool poolId _ => some poolId
  | .flushPool _ | .setDebounceMs _ | .setCancelOnNewMessage _ | .identify _ _
  | .pool _ _ _ => none

/-- The used ids, the one that has been used last first. -/
def use (ids : List String) (action : ManagerAction Msg) : List String :=
  action.used.elim ids fun poolId => poolId :: ids.erase poolId

def lastUses (actions : List (ManagerAction Msg)) : List String := actions.foldl use []

/-- The table is within its bound and lists its ids as they have been used. -/
structure Recent (hub : HubSettings) (ids : List String) (state : ManagerState Msg) : Prop where
  bounded : state.pools.size ≤ hub.maxPools
  ordered : state.pools.keys.Sublist ids

open ManagerState

theorem keys_enforceMaxPools (rounds : Nat) (enough : state.pools.size ≤ rounds) :
    (enforceMaxPools hub rounds state).pools.keys ++ ((state.lruVictims hub).map Prod.fst).reverse =
      state.pools.keys := by
  have positive := hub.maxPools_pos
  induction rounds generalizing state with
  | zero =>
    have none : state.pools.size + 1 - hub.maxPools = 0 := by omega
    simp [lruVictims, none, enforceMaxPools]
  | succ rounds ih =>
    unfold enforceMaxPools
    split
    · rename_i full
      cases popped : state.pools.popOldest with
      | none =>
        have empty := OrderedDict.size_of_popOldest_eq_none popped
        omega
      | some result =>
        obtain ⟨⟨poolId, object⟩, rest⟩ := result
        have sizeEq := OrderedDict.size_popOldest popped
        have count : state.pools.size + 1 - hub.maxPools =
            rest.size + 1 - hub.maxPools + 1 := by omega
        have left := @ih
          { state with
            pools := rest
            removed := state.removed ++ [(object, .lru)] } (by dsimp only; omega)
        rw [evictLruLocked_eq popped, OrderedDict.keys_of_popOldest popped, ← left, lruVictims,
          count, OrderedDict.items_of_popOldest popped]
        simp [lruVictims]
    · have none : state.pools.size + 1 - hub.maxPools = 0 := by omega
      simp [lruVictims, none]

theorem size_enforceMaxPools :
    (enforceMaxPools hub state.pools.size state).pools.size < hub.maxPools := by
  have positive := hub.maxPools_pos
  have split := congrArg List.length (@keys_enforceMaxPools _ hub state _ le_rfl)
  have sizeEq := OrderedDict.length_items state.pools
  simp only [lruVictims, List.length_append, List.length_reverse, List.length_map,
    List.length_take] at split
  change _ = state.pools.size at split
  change (enforceMaxPools hub state.pools.size state).pools.keys.length < _
  omega

namespace Recent

variable {ids : List String}

theorem congr (recent : Recent hub ids state) (poolsEq : after.pools = state.pools) :
    Recent hub ids after :=
  ⟨poolsEq ▸ recent.bounded, poolsEq ▸ recent.ordered⟩

theorem erase (recent : Recent hub ids state) {poolId : String}
    (poolsEq : after.pools = state.pools.erase poolId) : Recent hub ids after where
  bounded := poolsEq ▸ OrderedDict.size_erase_le.trans recent.bounded
  ordered := poolsEq ▸ OrderedDict.erase_keys_sublist recent.ordered

theorem moveToEnd (recent : Recent hub ids state) (poolId : String)
    (poolsEq : after.pools = state.pools.moveToEnd poolId) :
    Recent hub (poolId :: ids.erase poolId) after where
  bounded := by
    rw [poolsEq, OrderedDict.size_moveToEnd]
    exact recent.bounded
  ordered := poolsEq ▸ OrderedDict.moveToEnd_keys_sublist recent.ordered

theorem evictPoolLocked (recent : Recent hub ids state) (poolId : String)
    (reason : EvictionReason) : Recent hub ids (state.evictPoolLocked hub poolId reason) := by
  cases found : state.pools.lookup poolId with
  | none => simpa [ManagerState.evictPoolLocked, found] using recent
  | some object => exact recent.erase (evictPoolLocked_pools hub found reason)

theorem evictStalePools (recent : Recent hub ids state) (now : ℚ) :
    Recent hub ids (state.evictStalePools hub now) := by
  unfold ManagerState.evictStalePools
  split
  · exact recent
  · have checked : Recent hub ids { state with lastEvictionCheck := now } := recent.congr rfl
    dsimp only
    generalize (state.pools.items.filter _).map _ = stale
    generalize { state with lastEvictionCheck := now } = swept at checked
    induction stale generalizing swept with
    | nil => exact checked
    | cons poolId stale ih => exact ih _ (checked.evictPoolLocked poolId .idle)

theorem getOrCreatePool (recent : Recent hub ids state) (poolId agentName : String)
    (now touched : ℚ) :
    Recent hub (poolId :: ids.erase poolId)
      (state.getOrCreatePool hub poolId agentName now touched).1 := by
  have swept := recent.evictStalePools now
  unfold ManagerState.getOrCreatePool
  dsimp only
  split
  · exact swept.moveToEnd poolId rfl
  · have room := @size_enforceMaxPools _ hub (state.evictStalePools hub now)
    have kept := @keys_enforceMaxPools _ hub (state.evictStalePools hub now) _ le_rfl
    refine ⟨?_, OrderedDict.insert_keys_sublist ?_ _⟩
    · change (AList.keys (AList.insert _ _ _)).length ≤ _
      rw [AList.keys_insert, List.length_cons]
      exact Nat.succ_le_of_lt (List.length_erase_le.trans_lt room)
    · refine List.Sublist.trans ?_ swept.ordered
      exact kept ▸ List.sublist_append_left _ _

theorem step (recent : Recent hub ids state) {action : ManagerAction Msg}
    (steps : managerStep hub state action = some after) :
    Recent hub (use ids action) after := by
  unfold managerStep at steps
  split at steps
  · obtain ⟨performed, effect, rfl⟩ := Option.map_eq_some_iff.1 steps
    suffices kept : Recent hub (use ids action) performed from kept.congr rfl
    cases action with
    | getOrCreatePool poolId agentName now touched =>
      cases effect
      exact recent.getOrCreatePool poolId agentName now touched
    | touchPool poolId now =>
      cases effect
      unfold ManagerState.touchPool
      split
      · rename_i absent
        refine recent.moveToEnd poolId ?_
        simp [OrderedDict.moveToEnd, absent]
      · exact recent.moveToEnd poolId rfl
    | flushPool poolId =>
      cases effect
      unfold ManagerState.flushPool
      split
      · exact recent
      · exact recent.erase (flushSession_pools _ _)
    | pool object action now =>
      obtain ⟨pool, -, rest⟩ := Option.bind_eq_some_iff.1 effect
      obtain ⟨loop, -, ⟨⟩⟩ := Option.bind_eq_some_iff.1 rest
      exact recent.congr rfl
    | setDebounceMs | setCancelOnNewMessage | identify =>
      cases effect
      exact recent.congr rfl
  · cases steps

theorem run {actions : List (ManagerAction Msg)} (recent : Recent hub ids state)
    (runs : (managerSystem hub Msg).run state actions = some after) :
    Recent hub (actions.foldl use ids) after := by
  induction actions generalizing ids state with
  | nil => exact Option.some.inj runs ▸ recent
  | cons action actions ih =>
    obtain ⟨middle, steps, rest⟩ := Option.bind_eq_some_iff.1 runs
    exact ih (recent.step steps) rest

end Recent

/-- After every run the table is within its bound, and what the LRU bound would
keep and what it would remove stand in the order of their last uses. -/
theorem lru_of_run {start : ManagerState Msg} (initially : (managerSystem hub Msg).initial start)
    {actions : List (ManagerAction Msg)}
    (runs : (managerSystem hub Msg).run start actions = some state) :
    state.pools.size ≤ hub.maxPools ∧
      ((enforceMaxPools hub state.pools.size state).pools.keys ++
        ((state.lruVictims hub).map Prod.fst).reverse).Sublist (lastUses actions) := by
  have empty : Recent hub [] start := by
    refine ⟨?_, ?_⟩ <;> rw [initially.2.1]
    · exact Nat.zero_le _
    · exact List.Sublist.refl _
  have recent := empty.run runs
  refine ⟨recent.bounded, ?_⟩
  rw [keys_enforceMaxPools _ le_rfl]
  exact recent.ordered

section Example

/-- The second conversation is the one that has not been used for longest. -/
theorem lru_of_two_conversations : ∃ state : ManagerState Nat, state.pools.keys = ["a", "b"] ∧
    state.pools.size ≤ 2 ∧ ((enforceMaxPools (.bounded 2 (by decide)) state.pools.size
      state).pools.keys ++ ((state.lruVictims (.bounded 2 (by decide))).map
        Prod.fst).reverse).Sublist ["a", "b"] := by
  let actions : List (ManagerAction Nat) := [.getOrCreatePool "a" "agent" 100 100,
    .getOrCreatePool "b" "agent" 101 101, .touchPool "a" 102]
  obtain ⟨state, runs, keys⟩ := (Option.any_eq_true _ _).mp (show ((managerSystem
    (.bounded 2 (by decide)) Nat).run { clock := 0, debounceMs := 0, cancelOnNewMessage := false }
      actions).any (fun state => decide (state.pools.keys = ["a", "b"])) = true by decide +kernel)
  exact ⟨state, of_decide_eq_true keys, lru_of_run ⟨rfl, rfl, rfl, rfl, rfl, rfl⟩ runs⟩

end Example

end Pool

end RoxabiFactory

import RoxabiFactory.AgentGrantStore

/-!
# The order of the reloads

A call reads the rows of its agent after its own statement.  So the last
reload that has been read misses no statement once every call has read, and
the cache has it when the reloads have come in order.
-/

namespace RoxabiFactory

namespace AgentGrants

theorem agentRows_insertGrant {new : AgentGrant} {other : String}
    (differ : other ≠ new.agentName) (rows : List AgentGrant) :
    agentRows other (insertGrant new rows) = agentRows other rows := by
  apply filter_insertGrant
  intro row found
  exact decide_eq_false fun own => differ (own.symm.trans found.1)

theorem agentRows_deleteGrant {agentName other : String}
    (differ : other ≠ agentName) (principal : Principal)
    (capability : Capability) (rows : List AgentGrant) :
    agentRows other (deleteGrant agentName principal capability rows) =
      agentRows other rows := by
  apply filter_deleteGrant
  intro row found
  exact decide_eq_false fun own => differ (own.symm.trans found.1)

namespace GrantStore

theorem agentRows_apply {call : Call} {other : String}
    (differ : other ≠ call.agentName) (rows : List AgentGrant) :
    agentRows other (call.apply rows) = agentRows other rows := by
  cases call with
  | grant row => exact agentRows_insertGrant differ rows
  | revoke agentName principal capability =>
    exact agentRows_deleteGrant differ principal capability rows

variable {Task : Type} [DecidableEq Task]

namespace State

variable {state after : State Task} {agentName : String} {task : Task}
variable {call : Call}

omit [DecidableEq Task] in
theorem Latest.congr (latest : state.Latest agentName)
    (rows : agentRows agentName after.rows = agentRows agentName state.rows)
    (listed : after.listGrants agentName = state.listGrants agentName)
    (reads : after.reads agentName = state.reads agentName)
    (shown : after.shown agentName = state.shown agentName)
    (reading : ∀ task call deleted grants number, call.agentName = agentName →
      (after.tasks task = some (call, .read deleted grants number) ↔
        state.tasks task = some (call, .read deleted grants number))) :
    after.Latest agentName := by
  constructor
  · intro task call deleted grants found own
    rw [reads, reading task call deleted grants _ own] at found
    rw [rows]
    exact latest.waiting task call deleted grants found own
  · intro same
    rw [shown, reads] at same
    rw [listed, rows]
    exact latest.cached same
  · rw [shown, reads]
    rcases latest.one with same | ⟨task, call, deleted, grants, found, own⟩
    · exact .inl same
    · right
      exact ⟨task, call, deleted, grants, (reading task call deleted grants _ own).2 found, own⟩

theorem tasks_eq_or {phase found : Option (Call × Stage)} {other : Task}
    (tasks : after.tasks = Function.update state.tasks task phase)
    (same : after.tasks other = found) :
    (other = task ∧ found = phase) ∨ (other ≠ task ∧ state.tasks other = found) := by
  rw [tasks] at same
  by_cases again : other = task
  · rw [again, Function.update_self] at same
    exact .inl ⟨again, same.symm⟩
  · rw [Function.update_of_ne again] at same
    exact .inr ⟨again, same⟩

/-- Only the statement, the reload and the end of a call touch its agent; a
step of another kind, or of another agent, keeps the last reload. -/
theorem Latest.of_task (latest : state.Latest agentName) {phase before : Option (Call × Stage)}
    (found : state.tasks task = before)
    (tasks : after.tasks = Function.update state.tasks task phase)
    (rows : agentRows agentName after.rows = agentRows agentName state.rows)
    (listed : after.listGrants agentName = state.listGrants agentName)
    (reads : after.reads agentName = state.reads agentName)
    (shown : after.shown agentName = state.shown agentName)
    (quiet : ∀ call deleted grants number, call.agentName = agentName →
      before ≠ some (call, .read deleted grants number) ∧
        phase ≠ some (call, .read deleted grants number)) :
    after.Latest agentName := by
  apply latest.congr rows listed reads shown
  intro other call deleted grants number own
  obtain ⟨unread, keeps⟩ := quiet call deleted grants number own
  rw [tasks]
  by_cases same : other = task
  · rw [same, Function.update_self, found]
    constructor
    · intro now
      exact absurd now keeps
    · intro then'
      exact absurd then' unread
  · rw [Function.update_of_ne same]

theorem Stale.of_task (stale : state.Stale agentName) {phase before : Option (Call × Stage)}
    (found : state.tasks task = before)
    (tasks : after.tasks = Function.update state.tasks task phase)
    (stays : ∀ call deleted, before = some (call, .executed deleted) ∨
        before = some (call, .committed deleted) →
      call.agentName = agentName → ∃ deleted, phase = some (call, .executed deleted) ∨
          phase = some (call, .committed deleted)) :
    after.Stale agentName := by
  obtain ⟨other, call, deleted, pending, own⟩ := stale
  by_cases same : other = task
  · rw [same, found] at pending
    obtain ⟨deleted, still⟩ := stays call deleted pending own
    refine ⟨task, call, deleted, ?_, own⟩
    rw [tasks, Function.update_self]
    exact still
  · refine ⟨other, call, deleted, ?_, own⟩
    rw [tasks, Function.update_of_ne same]
    exact pending

theorem Sound.execute (sound : state.Sound) (found : state.tasks task = some (call, .called)) :
    (state.resume task call .called).Sound := by
  constructor
  · right
    exact ⟨task, call, _, Function.update_self ..⟩
  · intro other second deleted grants number now
    rcases tasks_eq_or rfl now with ⟨-, same⟩ | ⟨-, before⟩
    · cases same
    · exact sound.bounded other second deleted grants number before
  · exact sound.shown_le
  · intro agentName fresh
    have differ : agentName ≠ call.agentName := by
      intro same
      apply fresh
      exact ⟨task, call, _, .inl (Function.update_self ..), same.symm⟩
    apply (sound.latest agentName _).of_task found rfl
    · exact agentRows_apply differ state.rows
    · rfl
    · rfl
    · rfl
    · intro second deleted grants number own
      constructor
      · intro same
        cases same
      · intro same
        cases same
    · intro stale
      apply fresh
      apply stale.of_task found rfl
      intro second deleted pending
      rcases pending with same | same <;> cases same

theorem Sound.commit {deleted : Bool} (sound : state.Sound)
    (found : state.tasks task = some (call, .executed deleted)) :
    (state.resume task call (.executed deleted)).Sound := by
  constructor
  · exact .inl rfl
  · intro other second again grants number now
    rcases tasks_eq_or rfl now with ⟨-, same⟩ | ⟨-, before⟩
    · cases same
    · exact sound.bounded other second again grants number before
  · exact sound.shown_le
  · intro agentName fresh
    apply (sound.latest agentName _).of_task found rfl
    · rfl
    · rfl
    · rfl
    · rfl
    · intro second again grants number own
      constructor
      · intro same
        cases same
      · intro same
        cases same
    · intro stale
      apply fresh
      apply stale.of_task found rfl
      intro second again pending own
      refine ⟨deleted, .inr ?_⟩
      rcases pending with same | same
      · cases same
        rfl
      · cases same

theorem Sound.reload {deleted : Bool} (sound : state.Sound)
    (found : state.tasks task = some (call, .committed deleted)) :
    (state.resume task call (.committed deleted)).Sound := by
  constructor
  · rcases sound.committed with same | ⟨other, second, again, pending⟩
    · exact .inl same
    · right
      refine ⟨other, second, again, ?_⟩
      have apart : other ≠ task := by
        intro same
        rw [same, found] at pending
        cases pending
      exact (Function.update_of_ne apart _ _).trans pending
  · intro other second again grants number now
    rcases tasks_eq_or rfl now with ⟨-, same⟩ | ⟨-, before⟩
    · cases same
      change _ ≤ Function.update state.reads _ _ _
      rw [Function.update_self]
    · have bound := sound.bounded other second again grants number before
      change number ≤ Function.update state.reads _ _ _
      by_cases own : second.agentName = call.agentName
      · rw [own, Function.update_self]
        rw [own] at bound
        omega
      · rw [Function.update_of_ne own]
        exact bound
  · intro agentName
    have bound := sound.shown_le agentName
    change state.shown agentName ≤ Function.update state.reads _ _ _
    by_cases own : agentName = call.agentName
    · rw [own, Function.update_self]
      rw [own] at bound
      omega
    · rw [Function.update_of_ne own]
      exact bound
  · intro agentName fresh
    by_cases own : agentName = call.agentName
    · subst own
      have reads : (state.resume task call (.committed deleted)).reads
          call.agentName = state.reads call.agentName + 1 :=
        Function.update_self ..
      constructor
      · intro other second again grants now shared
        rw [reads] at now
        rcases tasks_eq_or rfl now with ⟨-, same⟩ | ⟨-, before⟩
        · cases same
          rfl
        · have bound := sound.bounded other second again grants _ before
          rw [shared] at bound
          omega
      · intro same
        rw [reads] at same
        have bound := sound.shown_le call.agentName
        change state.shown call.agentName = _ at same
        omega
      · right
        refine ⟨task, call, deleted, agentRows call.agentName state.rows, ?_,
          rfl⟩
        rw [reads]
        exact Function.update_self ..
    · apply (sound.latest agentName _).of_task found rfl
      · rfl
      · rfl
      · exact Function.update_of_ne own _ _
      · rfl
      · intro second again grants number named
        constructor
        · intro same
          cases same
        · intro same
          cases same
          exact own named.symm
      · intro stale
        apply fresh
        apply stale.of_task found rfl
        intro second again pending named
        rcases pending with same | same
        · cases same
        · cases same
          exact absurd named.symm own

theorem Sound.show {deleted : Bool} {grants : List AgentGrant} {number : ℕ} (sound : state.Sound)
    (found : state.tasks task = some (call, .read deleted grants number))
    (inOrder : state.shown call.agentName ≤ number) :
    (state.resume task call (.read deleted grants number)).Sound := by
  have listed : (state.resume task call
      (.read deleted grants number)).listGrants call.agentName = grants := by
    change (Function.update state.cache _ _ _).getD [] = grants
    rw [Function.update_self]
    exact getD_cacheEntry grants
  have shown : (state.resume task call
      (.read deleted grants number)).shown call.agentName = number :=
    Function.update_self ..
  have bound := sound.bounded task call deleted grants number found
  constructor
  · rcases sound.committed with same | ⟨other, second, again, pending⟩
    · exact .inl same
    · right
      refine ⟨other, second, again, ?_⟩
      have apart : other ≠ task := by
        intro same
        rw [same, found] at pending
        cases pending
      exact (Function.update_of_ne apart _ _).trans pending
  · intro other second again items place now
    rcases tasks_eq_or rfl now with ⟨-, same⟩ | ⟨-, before⟩
    · cases same
    · exact sound.bounded other second again items place before
  · intro agentName
    change Function.update state.shown _ _ _ ≤ state.reads agentName
    by_cases own : agentName = call.agentName
    · rw [own, Function.update_self]
      exact bound
    · rw [Function.update_of_ne own]
      exact sound.shown_le agentName
  · intro agentName fresh
    have latest := sound.latest agentName fun stale =>
      fresh <| stale.of_task found rfl fun second again pending _ => by
        rcases pending with same | same <;> cases same
    by_cases own : agentName = call.agentName
    · subst own
      constructor
      · intro other second again items now shared
        rcases tasks_eq_or rfl now with ⟨-, same⟩ | ⟨-, before⟩
        · cases same
        · exact latest.waiting other second again items before shared
      · intro same
        rw [shown] at same
        change number = state.reads call.agentName at same
        rw [listed]
        rw [same] at found
        exact latest.waiting task call deleted grants found rfl
      · rw [shown]
        change number = state.reads call.agentName ∨ _
        rcases latest.one with same | ⟨other, second, again, items, pending, shared⟩
        · left
          omega
        · by_cases last : number = state.reads call.agentName
          · exact .inl last
          · right
            have apart : other ≠ task := by
              intro same
              rw [same, found] at pending
              cases pending
              exact last rfl
            exact ⟨other, second, again, items,
              (Function.update_of_ne apart _ _).trans pending, shared⟩
    · apply latest.of_task found rfl
      · rfl
      · change (Function.update state.cache _ _ _).getD [] = _
        rw [Function.update_of_ne own]
        rfl
      · rfl
      · exact Function.update_of_ne own _ _
      · intro second again items place named
        constructor
        · intro same
          cases same
          exact own named.symm
        · intro same
          cases same

/-- A task that has no call changes its phase, and nothing else does. -/
theorem Sound.setIdle {phase : Option (Call × Stage)} (sound : state.Sound)
    (idle : state.tasks task = none)
    (early : phase = none ∨ ∃ call, phase = some (call, .called))
    (rows : after.rows = state.rows)
    (committed : after.committed = state.committed)
    (cache : after.cache = state.cache) (reads : after.reads = state.reads)
    (shown : after.shown = state.shown)
    (tasks : after.tasks = Function.update state.tasks task phase) :
    after.Sound := by
  have unread (call : Call) (deleted : Bool) (grants : List AgentGrant)
      (number : ℕ) : phase ≠ some (call, .read deleted grants number) := by
    rcases early with rfl | ⟨call, rfl⟩
    · intro same
      cases same
    · intro same
      cases same
  constructor
  · rw [committed, rows]
    rcases sound.committed with same | ⟨other, call, deleted, pending⟩
    · exact .inl same
    · right
      refine ⟨other, call, deleted, ?_⟩
      have apart : other ≠ task := by
        intro same
        rw [same, idle] at pending
        cases pending
      rw [tasks, Function.update_of_ne apart]
      exact pending
  · intro other call deleted grants number now
    rw [reads]
    rcases tasks_eq_or tasks now with ⟨-, same⟩ | ⟨-, before⟩
    · exact absurd same.symm (unread call deleted grants number)
    · exact sound.bounded other call deleted grants number before
  · rw [shown, reads]
    exact sound.shown_le
  · intro agentName fresh
    apply (sound.latest agentName _).of_task idle tasks
    · rw [rows]
    · unfold listGrants
      rw [cache]
    · rw [reads]
    · rw [shown]
    · intro call deleted grants number own
      constructor
      · intro same
        cases same
      · exact unread call deleted grants number
    · intro stale
      apply fresh
      apply stale.of_task idle tasks
      intro call deleted pending
      rcases pending with same | same <;> cases same

theorem Sound.step {action : Action Task} (sound : state.Sound) (inOrder : state.InOrder action)
    (stepTo : state.step action = some after) : after.Sound := by
  cases action with
  | call task call =>
    unfold State.step at stepTo
    cases idle : state.tasks task with
    | some phase => simp only [idle, reduceCtorEq] at stepTo
    | none =>
      simp only [idle] at stepTo
      split at stepTo
      · cases stepTo
        exact sound.setIdle idle (.inr ⟨call, rfl⟩) rfl rfl rfl rfl rfl rfl
      · cases stepTo
        exact sound.setIdle idle (.inl rfl) rfl rfl rfl rfl rfl rfl
  | run task =>
    unfold State.step at stepTo
    cases found : state.tasks task with
    | none => simp only [found, reduceCtorEq] at stepTo
    | some phase =>
      obtain ⟨call, stage⟩ := phase
      simp only [found, Option.some.injEq] at stepTo
      subst stepTo
      cases stage with
      | called => exact sound.execute found
      | executed deleted => exact sound.commit found
      | committed deleted => exact sound.reload found
      | read deleted grants number =>
        have newer : state.Newer (state.tasks task) := inOrder
        rw [found] at newer
        exact sound.show found newer

omit [DecidableEq Task] in
theorem sound_of_connected (connected : Connected state) : state.Sound := by
  have listed (agentName : String) :
      state.listGrants agentName = agentRows agentName state.rows := by
    unfold listGrants
    rw [connected.cache]
    exact getD_cacheEntry _
  have idle (task : Task) (phase : Call × Stage) :
      state.tasks task ≠ some phase := by
    rw [connected.idle]
    exact (Option.some_ne_none phase).symm
  constructor
  · exact .inl connected.committed
  · intro task call deleted grants number found
    exact absurd found (idle task _)
  · intro agentName
    rw [connected.shown]
    exact Nat.zero_le _
  · intro agentName _
    constructor
    · intro task call deleted grants found
      exact absurd found (idle task _)
    · intro _
      exact listed agentName
    · left
      rw [connected.shown, connected.reads]

omit [DecidableEq Task] in
theorem Sound.coherent (sound : state.Sound) : state.Coherent := by
  intro idle agentName
  have none (task : Task) (phase : Call × Stage) :
      state.tasks task ≠ some phase := by
    rw [idle]
    exact (Option.some_ne_none phase).symm
  have committed : state.committed = state.rows := by
    rcases sound.committed with same | ⟨task, call, deleted, pending⟩
    · exact same
    · exact absurd pending (none task _)
  have latest := sound.latest agentName (by
    intro stale
    obtain ⟨task, call, deleted, pending, -⟩ := stale
    rcases pending with found | found
    · exact absurd found (none task _)
    · exact absurd found (none task _))
  have shown : state.shown agentName = state.reads agentName := by
    rcases latest.one with same | ⟨task, call, deleted, grants, pending, -⟩
    · exact same
    · exact absurd pending (none task _)
  have listed := latest.cached shown
  rw [committed]
  refine ⟨listed, ?_⟩
  intro users userId roles
  unfold State.authorize
  rw [listed]

end State

/-- The answers are those of the table once all calls have returned, when the
reloads of each agent come in order. -/
theorem coherent_of_reachable {state : State Task}
    (reached : (system Task).ReachableWithin State.InOrder state) :
    state.Coherent := by
  have sound : state.Sound := by
    apply reached.invariant
    · intro start connected
      exact State.sound_of_connected connected
    · intro before action next known inOrder stepTo
      exact known.step inOrder stepTo
  exact sound.coherent

section Example

def alice : Principal := ⟨.user, "tg:user:1", by decide⟩

def aliceGrant : AgentGrant := ⟨"coder", alice, .use, "root", "cli", 0⟩

/-- A store with one grant. -/
def seeded : State Bool where
  rows := [aliceGrant]
  committed := [aliceGrant]
  cache agentName := cacheEntry (agentRows agentName [aliceGrant])

theorem connected_seeded : Connected seeded where
  committed := rfl
  cache _ := rfl
  idle _ := rfl
  reads _ := rfl
  shown _ := rfl

def bob : Principal := ⟨.user, "tg:user:2", by decide⟩

/-- Bob gets a grant and has it reloaded, when the grant of Alice is revoked
completely. -/
def overtaken : List (Action Bool) :=
  [.call false (.grant ⟨"coder", bob, .use, "root", "cli", 5⟩), .run false,
    .run false, .run false, .call true (.revoke "coder" alice .use),
    .run true, .run true, .run true, .run true, .run false]

/-- Both calls take turns. -/
def inTurn : List (Action Bool) :=
  [.call false (.grant ⟨"coder", bob, .use, "root", "cli", 5⟩), .run false,
    .call true (.revoke "coder" alice .use), .run true, .run false, .run true,
    .run false, .run true, .run false, .run true]

/-- Bob has access and Alice has none. -/
theorem coherent_inTurn : ∃ state : State Bool,
      (system Bool).run seeded inTurn = some state ∧ state.Coherent := by
  have run : ∃ state : State Bool,
      (system Bool).checkedRun State.InOrder seeded inTurn = some state := by
    rw [← Option.isSome_iff_exists]
    decide
  obtain ⟨state, runs⟩ := run
  have start : (system Bool).ReachableWithin State.InOrder seeded := .start connected_seeded
  refine ⟨state, TransitionSystem.run_of_checkedRun runs, ?_⟩
  exact coherent_of_reachable (.of_checkedRun seeded start inTurn runs)

/-- The late reload brings the revoked grant of Alice back. -/
theorem exists_revoked_authorized :
    ∃ state : State Bool, (system Bool).Reachable state ∧ ¬ state.Coherent := by
  have run : ∃ state : State Bool, (system Bool).Reachable state ∧
      ((∀ task, (state.tasks task).isNone) ∧
        (state.authorize none "coder" "tg:user:1" []).allowed = true ∧
        (AgentGrants.authorize none "coder" "tg:user:1" []
          (agentRows "coder" state.committed)).allowed = false) :=
    TransitionSystem.exists_reachable_of_run seeded connected_seeded overtaken (by decide)
  obtain ⟨state, reached, idle, served, revoked⟩ := run
  refine ⟨state, reached, ?_⟩
  intro coherent
  have same := (coherent (fun task => Option.isNone_iff_eq_none.1 (idle task))
    "coder").2 none "tg:user:1" []
  rw [same, revoked] at served
  cases served

end Example

end GrantStore

end AgentGrants

end RoxabiFactory

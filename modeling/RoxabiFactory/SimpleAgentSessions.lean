import RoxabiFactory.SimpleAgent

/-!
# Session operations and the backends of turns

The session backend of the agent belongs to the backend that it was last
synced for, and the callbacks of a pool belong to the backend that was
configured when the pool was wired.  So an operation reaches the backend that
it is meant for exactly when the two have the same session backend.
-/

namespace RoxabiFactory

namespace SimpleAgent

variable {wiring : Wiring} {state after : State} {action : Action}

def TurnPoint.runningBackend : TurnPoint → Option String
  | .running backend => backend
  | .preparing | .ended => none

/-- The backend that an operation is meant for has the session backend of the
one that the agent was last synced for, or that the pool was wired for.  A
turn that changes the resolved backend syncs the agent itself. -/
def KeepsTargets (wiring : Wiring) (state : State) : Action → Prop
  | .give turn msg => (state.turns[turn]?).isSome →
      let backend := (effectiveModelConfig state.agent.config msg).backend
      wiring.providerForBackend backend ≠ none → backend = state.agent.lastResolvedBackend →
          wiring.sessionOf state.agent.syncedFor = wiring.sessionOf backend
  | .timesOut turn => ∀ entry ∈ state.turns[turn]?, ∀ backend ∈ entry.point.runningBackend,
        wiring.sessionOf state.agent.syncedFor = wiring.sessionOf backend
  | .act op pool =>
    op.targetOf wiring (state.pools pool).wiredFor =
      op.targetOf wiring ((state.pools pool).wanted state.agent)
  | _ => True

section Wiring

variable {provider : Driver} {backend : String}

theorem sessionOf_eq (found : wiring.providerForBackend backend = some provider) :
    wiring.sessionOf backend = wiring.activeSession provider backend := by
  simp [Wiring.sessionOf, found]

/-- The workspace backend is the session backend, if that one can change
directories. -/
theorem activeWorkspace_eq : wiring.activeWorkspace provider backend =
      (wiring.activeSession provider backend).filter
        Driver.workspaceAware := by
  have cliPool_aware := wiring.cliPool_aware
  have cliNatsDriver_aware := wiring.cliNatsDriver_aware
  unfold Wiring.activeWorkspace Wiring.activeSession
  split
  · rfl
  · cases cliPool : wiring.cliPool with
    | some driver =>
      obtain ⟨session, workspace⟩ := cliPool_aware driver cliPool
      simp [session, workspace, Option.filter]
    | none =>
      cases cliNats : wiring.cliNatsDriver with
      | some driver =>
        have session := cliNatsDriver_aware driver cliNats
        simp [session, Option.filter]
      | none => simp

end Wiring

/-- The callbacks of a pool belong to the backend that it was wired for. -/
def Pool.Wired (pool : Pool) (wiring : Wiring) : Prop :=
  if pool.configured then
    pool.sessionResetFn = wiring.sessionOf pool.wiredFor ∧
      pool.sessionResumeFn = wiring.sessionOf pool.wiredFor ∧
      pool.switchWorkspaceFn = (wiring.sessionOf pool.wiredFor).filter Driver.workspaceAware
  else
    pool.sessionResetFn = none ∧ pool.sessionResumeFn = none ∧ pool.switchWorkspaceFn = none

/-- What every reachable state knows of its drivers. -/
structure Synced (wiring : Wiring) (state : State) : Prop where
  agent : state.agent.sessionBackend = wiring.sessionOf state.agent.syncedFor
  pools : ∀ pool, (state.pools pool).Wired wiring

theorem Pool.Wired.configure {pool : Pool} (wired : pool.Wired wiring)
    (new : pool.configured = false) (agent : Agent) {backend : String}
    (session : agent.sessionBackend = wiring.sessionOf backend)
    (workspace : agent.workspaceBackend = (wiring.sessionOf backend).filter Driver.workspaceAware) :
    Pool.Wired
      { (pool.maybeRegisterReset agent).maybeRegisterResume agent with
        configured := true, wiredFor := backend } wiring := by
  simp only [Pool.Wired, new, Bool.false_eq_true, if_false] at wired
  obtain ⟨noReset, noResume, noSwitch⟩ := wired
  cases found : wiring.sessionOf backend with
  | none =>
    rw [found] at session
    simp [Pool.Wired, maybeRegisterReset, maybeRegisterResume, session,
      found, noReset, noResume, noSwitch]
  | some driver =>
    rw [found] at session workspace
    simp [Pool.Wired, maybeRegisterReset, maybeRegisterResume, session,
      found, workspace, registerSessionCallbacks, noReset, noResume,
      noSwitch]

theorem Synced.setPool (synced : Synced wiring state) {pool : Nat}
    {entry : Pool} (wired : entry.Wired wiring) :
    Synced wiring (state.setPool pool entry) where
  agent := synced.agent
  pools := by
    intro other
    simp only [State.setPool, Function.update_apply]
    split
    · exact wired
    · exact synced.pools other

theorem Synced.configurePool (synced : Synced wiring state) {pool : Nat}
    (new : (state.pools pool).configured = false) {provider : Driver}
    (found : wiring.providerForBackend state.agent.config.backend = some provider) :
    Synced wiring (state.configurePool wiring pool provider) := by
  let agent := state.agent.syncSessionBackends wiring provider state.agent.config.backend
  have session : agent.sessionBackend =
      wiring.sessionOf state.agent.config.backend := (sessionOf_eq found).symm
  have workspace : agent.workspaceBackend = (wiring.sessionOf state.agent.config.backend).filter
        Driver.workspaceAware := by
    rw [sessionOf_eq found]
    exact activeWorkspace_eq
  have agentSynced : Synced wiring { state with agent := agent } :=
    ⟨session, synced.pools⟩
  exact agentSynced.setPool ((synced.pools pool).configure new agent session workspace)

theorem Synced.resolve (synced : Synced wiring state) {provider : Driver} {backend : String}
    (found : wiring.providerForBackend backend = some provider) :
    Synced wiring { state with agent := state.agent.resolve wiring provider backend } := by
  unfold Agent.resolve
  split
  · have session : wiring.activeSession provider backend =
        wiring.sessionOf backend := (sessionOf_eq found).symm
    exact ⟨session, synced.pools⟩
  · exact synced

theorem Synced.giveTurn (synced : Synced wiring state) {turn pool : Nat}
    {provider : Driver} {backend : String}
    (found : wiring.providerForBackend backend = some provider) :
    Synced wiring (state.giveTurn wiring turn pool provider backend) := by
  have resolved := synced.resolve found
  have given : Synced wiring
      ({ state with agent := state.agent.resolve wiring provider backend
          }.setPool pool
        { state.pools pool with recent := some backend }) :=
    resolved.setPool (synced.pools pool)
  exact ⟨given.agent, given.pools⟩

/-- A turn links its own session backend exactly when it changes the resolved
backend or the agent has been synced for the same session backend. -/
theorem Synced.resolve_reaches (synced : Synced wiring state) {provider : Driver} {backend : String}
    (found : wiring.providerForBackend backend = some provider) :
    (state.agent.resolve wiring provider backend).sessionBackend = wiring.sessionOf backend ↔
      (backend = state.agent.lastResolvedBackend → wiring.sessionOf state.agent.syncedFor =
          wiring.sessionOf backend) := by
  unfold Agent.resolve
  split
  · rename_i transition
    simp [transition, Agent.syncSessionBackends, sessionOf_eq found]
  · rename_i same
    rw [not_not] at same
    simp [same, synced.agent]

theorem operationsReach_record {entry : Entry} : OperationsReach wiring (state.record entry).log ↔
      OperationsReach wiring state.log ∧ entry.Reaches wiring := by
  simp [OperationsReach, State.record, or_imp, forall_and]

theorem callback_eq (synced : Synced wiring state) {pool : Nat}
    (configured : (state.pools pool).configured = true) (op : SessionOp) :
    state.callback op pool =
      op.targetOf wiring (state.pools pool).wiredFor := by
  have wired := synced.pools pool
  rw [Pool.Wired, if_pos configured] at wired
  obtain ⟨resets, resumes, switches⟩ := wired
  cases op with
  | resetSession => exact resets
  | resumeSession => exact resumes
  | switchWorkspace => exact switches

/-- The step lemma: the invariant is kept, and the step reaches the right
backend exactly when it meets the condition. -/
theorem Synced.step (synced : Synced wiring state)
    (stepTo : step wiring state action = some after) :
    Synced wiring after ∧ (OperationsReach wiring after.log ↔ OperationsReach wiring state.log ∧
          KeepsTargets wiring state action) := by
  cases action with
  | configure pool =>
    simp only [SimpleAgent.step] at stepTo
    split at stepTo
    · cases stepTo
    · rename_i new
      obtain ⟨provider, found, rfl⟩ := Option.map_eq_some_iff.mp stepTo
      exact ⟨synced.configurePool (by simpa using new) found,
        (and_iff_left trivial).symm⟩
  | reload config =>
    cases stepTo
    exact ⟨⟨synced.agent, synced.pools⟩, (and_iff_left trivial).symm⟩
  | begin pool =>
    simp only [SimpleAgent.step] at stepTo
    split at stepTo <;> cases stepTo
    exact ⟨⟨synced.agent, synced.pools⟩, (and_iff_left trivial).symm⟩
  | give turn msg =>
    simp only [SimpleAgent.step] at stepTo
    split at stepTo
    · rename_i pool at'
      split at stepTo
      · rename_i unknown
        cases stepTo
        refine ⟨⟨synced.agent, synced.pools⟩, ?_⟩
        simp [KeepsTargets, unknown, State.setTurn]
      · rename_i provider found
        cases stepTo
        refine ⟨synced.giveTurn found, operationsReach_record.trans ?_⟩
        simp only [Entry.Reaches, synced.resolve_reaches found]
        simp [KeepsTargets, at', found, State.setTurn, State.setPool]
    · cases stepTo
  | ends turn =>
    simp only [SimpleAgent.step] at stepTo
    split at stepTo <;> cases stepTo
    exact ⟨⟨synced.agent, synced.pools⟩, (and_iff_left trivial).symm⟩
  | timesOut turn =>
    simp only [SimpleAgent.step] at stepTo
    split at stepTo
    · cases stepTo
    · cases stepTo
    · rename_i pool at'
      cases stepTo
      refine ⟨⟨synced.agent, synced.pools⟩, operationsReach_record.trans ?_⟩
      simp [Entry.Reaches, KeepsTargets, at', State.setTurn, TurnPoint.runningBackend]
    · rename_i pool backend at'
      cases stepTo
      refine ⟨⟨synced.agent, synced.pools⟩, operationsReach_record.trans ?_⟩
      simp [Entry.Reaches, KeepsTargets, at', State.setTurn, TurnPoint.runningBackend, synced.agent]
  | act op pool =>
    simp only [SimpleAgent.step] at stepTo
    split at stepTo
    · rename_i configured
      cases stepTo
      refine ⟨⟨synced.agent, synced.pools⟩, operationsReach_record.trans ?_⟩
      simp [Entry.Reaches, KeepsTargets, callback_eq synced configured op]
    · cases stepTo

theorem synced_of_reachable
    (reached : (system wiring).ReachableWithin (KeepsTargets wiring) state) :
    Synced wiring state ∧ OperationsReach wiring state.log := by
  have start : ∀ state, (system wiring).initial state →
      Synced wiring state ∧ OperationsReach wiring state.log := by
    rintro state ⟨config, provider, found, rfl⟩
    refine ⟨⟨(sessionOf_eq found).symm, fun pool => ?_⟩, List.forall_mem_nil _⟩
    exact ⟨rfl, rfl, rfl⟩
  refine reached.invariant start ?_
  rintro state action after ⟨synced, reach⟩ keeps stepTo
  obtain ⟨next, iff⟩ := synced.step stepTo
  exact ⟨next, iff.mpr ⟨reach, keeps⟩⟩

/-- In every run that `KeepsTargets` every session operation reaches the
session backend that it is meant for. -/
theorem operationsReach_of_reachable
    (reached : (system wiring).ReachableWithin (KeepsTargets wiring) state) :
    OperationsReach wiring state.log :=
  (synced_of_reachable reached).2

instance (wiring : Wiring) : (entry : Entry) → Decidable (entry.Reaches wiring)
  | .linked _ backend target => inferInstanceAs (Decidable (target = wiring.sessionOf backend))
  | .timedOut _ backend target => inferInstanceAs
      (Decidable (∀ running ∈ backend, target = wiring.sessionOf running))
  | .acted op _ backend target => inferInstanceAs (Decidable (target = op.targetOf wiring backend))

instance (wiring : Wiring) (log : List Entry) : Decidable (OperationsReach wiring log) :=
  inferInstanceAs (Decidable (∀ entry ∈ log, entry.Reaches wiring))

instance (wiring : Wiring) (state : State) :
    (action : Action) → Decidable (KeepsTargets wiring state action)
  | .give turn msg => inferInstanceAs (Decidable ((state.turns[turn]?).isSome →
        wiring.providerForBackend (effectiveModelConfig state.agent.config msg).backend ≠ none →
          (effectiveModelConfig state.agent.config msg).backend = state.agent.lastResolvedBackend →
            wiring.sessionOf state.agent.syncedFor = wiring.sessionOf
              (effectiveModelConfig state.agent.config msg).backend))
  | .timesOut turn => inferInstanceAs (Decidable (∀ entry ∈ state.turns[turn]?,
        ∀ backend ∈ entry.point.runningBackend, wiring.sessionOf state.agent.syncedFor =
            wiring.sessionOf backend))
  | .act op pool => inferInstanceAs (Decidable (op.targetOf wiring (state.pools pool).wiredFor =
        op.targetOf wiring ((state.pools pool).wanted state.agent)))
  | .configure _ | .reload _ | .begin _ | .ends _ => .isTrue trivial

/-- The hub with an `LlmClient` for `claude-cli` behind a circuit breaker and
an `OmpRpcDriver`. -/
def hubWiring : Wiring where
  provider := ⟨0, false, false⟩
  registry := some [("claude-cli", ⟨0, false, false⟩), ("omp-rpc", ⟨1, true, false⟩)]
  cliNatsDriver := some ⟨2, true, true⟩
  cliPool_aware := by
    rintro driver ⟨⟩
  cliNatsDriver_aware := by
    rintro driver ⟨⟩
    rfl

/-- Two pools on the configured backend. -/
theorem operationsReach_of_configured_backend : OperationsReach hubWiring
      [.linked 0 "claude-cli" (some ⟨2, true, true⟩), .linked 1 "claude-cli" (some ⟨2, true, true⟩),
        .acted .switchWorkspace 1 "claude-cli" (some ⟨2, true, true⟩),
        .timedOut 0 "claude-cli" (some ⟨2, true, true⟩)] := by
  have run : ∃ state, (system hubWiring).ReachableWithin (KeepsTargets hubWiring) state ∧
        state.log = [.linked 0 "claude-cli" (some ⟨2, true, true⟩),
            .linked 1 "claude-cli" (some ⟨2, true, true⟩),
            .acted .switchWorkspace 1 "claude-cli" (some ⟨2, true, true⟩),
            .timedOut 0 "claude-cli" (some ⟨2, true, true⟩)] :=
    TransitionSystem.exists_reachableWithin_of_checkedRun _
      ⟨⟨"claude-cli", "opus"⟩, ⟨0, false, false⟩, rfl, rfl⟩
      [.configure 0, .configure 1, .begin 0, .begin 1,
        .give 0 ⟨"telegram", none⟩, .give 1 ⟨"telegram", none⟩,
        .act .switchWorkspace 1, .timesOut 0]
      (by decide)
  obtain ⟨state, reached, logEq⟩ := run
  exact logEq ▸ operationsReach_of_reachable reached

/-- A web tab runs its turns on `omp-rpc`: after the next pool has been
configured its turn is linked on the session backend of `claude-cli`, a
time-out in the other pool resets it on `omp-rpc`, and `reset_session` of the
tab acts on `claude-cli`. -/
theorem exists_operation_misdirected : ∃ state, (system hubWiring).Reachable state ∧
      .linked 0 "omp-rpc" (some ⟨2, true, true⟩) ∈ state.log ∧
      .timedOut 1 "claude-cli" (some ⟨1, true, false⟩) ∈ state.log ∧
      .acted .resetSession 0 "omp-rpc" (some ⟨2, true, true⟩) ∈ state.log ∧
      ¬ OperationsReach hubWiring state.log :=
  TransitionSystem.exists_reachable_of_run _ ⟨⟨"claude-cli", "opus"⟩, ⟨0, false, false⟩, rfl, rfl⟩
    [.configure 0, .begin 0, .give 0 ⟨"web", some ⟨"omp-rpc", none⟩⟩,
      .ends 0, .configure 1, .begin 0,
      .give 1 ⟨"web", some ⟨"omp-rpc", none⟩⟩, .ends 1, .begin 1,
      .give 2 ⟨"telegram", none⟩, .begin 0,
      .give 3 ⟨"web", some ⟨"omp-rpc", none⟩⟩, .timesOut 2,
      .act .resetSession 0]
    (by decide)

end SimpleAgent

end RoxabiFactory

import RoxabiFactory.TransitionSystem
import Mathlib.Data.List.ReduceOption
import Mathlib.Logic.Function.Basic

/-!
# The session backend of `SimpleAgent`

One agent serves many pools.  It keeps one session backend and one workspace
backend, which `_sync_session_backends` points at the backend of a turn when
that differs from the last resolved one, and at the configured backend
whenever a pool is configured.  A pool captures its callbacks once, when it is
configured, and the reset after a time-out asks the agent.

`process` does not suspend between the choice of the model configuration and
`link_lyra_session`, so that stretch is one action.
-/

namespace RoxabiFactory

namespace SimpleAgent

/-- A provider or session backend, with the protocols that it satisfies. -/
structure Driver where
  id : Nat
  sessionAware : Bool
  workspaceAware : Bool
  deriving DecidableEq, Repr

/-- What the agent is constructed with. -/
structure Wiring where
  provider : Driver
  registry : Option (List (String × Driver)) := none
  cliPool : Option Driver := none
  cliNatsDriver : Option Driver := none
  /-- `CliPool` has all the session methods and `switch_cwd`. -/
  cliPool_aware : ∀ driver ∈ cliPool, driver.sessionAware = true ∧ driver.workspaceAware = true
  /-- `LlmClient` and `ClaudeRpcDriver` have all the session methods. -/
  cliNatsDriver_aware : ∀ driver ∈ cliNatsDriver, driver.sessionAware = true

structure ModelConfig where
  backend : String
  model : String
  deriving DecidableEq, Repr

structure WebMeta where
  harness : Option String
  model : Option String
  deriving DecidableEq, Repr

/-- The fields of an `InboundMessage` that choose the backend. -/
structure InboundMessage where
  platform : String
  webMeta : Option WebMeta
  deriving DecidableEq, Repr

/-- `effective_model_config`; an empty override counts as absent. -/
def effectiveModelConfig (base : ModelConfig) (msg : InboundMessage) :
    ModelConfig :=
  match msg.webMeta with
  | none => base
  | some overrides =>
    if msg.platform ≠ "web" then base
    else
      { backend := (overrides.harness.filter (· ≠ "")).getD base.backend
        model := (overrides.model.filter (· ≠ "")).getD base.model }

namespace Wiring

variable (wiring : Wiring)

/-- `_provider_for_backend`; `none` is the `KeyError` of the registry. -/
def providerForBackend (backend : String) : Option Driver :=
  match wiring.registry with
  | none => some wiring.provider
  | some drivers => drivers.lookup backend

/-- The session backend that `_sync_session_backends` chooses. -/
def activeSession (provider : Driver) (backend : String) : Option Driver :=
  if (backend = "omp-rpc" ∨ backend = "nats") ∧ provider.sessionAware then
    some provider
  else
    [wiring.cliPool, wiring.cliNatsDriver].reduceOption.find? Driver.sessionAware

/-- The workspace backend that `_sync_session_backends` chooses. -/
def activeWorkspace (provider : Driver) (backend : String) : Option Driver :=
  if (backend = "omp-rpc" ∨ backend = "nats") ∧ provider.sessionAware then
    if provider.workspaceAware then some provider else none
  else
    [wiring.cliPool, wiring.cliNatsDriver].reduceOption.find? Driver.workspaceAware

/-- The session backend that belongs to a backend. -/
def sessionOf (backend : String) : Option Driver :=
  (wiring.providerForBackend backend).bind fun provider =>
    wiring.activeSession provider backend

end Wiring

inductive SessionOp
  | resetSession
  | resumeSession
  | switchWorkspace
  deriving DecidableEq, Repr

/-- What an operation on a session of the backend should act on;
`switch_workspace` does nothing on a session backend that cannot change
directories. -/
def SessionOp.targetOf (op : SessionOp) (wiring : Wiring) (backend : String) : Option Driver :=
  match op with
  | .resetSession | .resumeSession => wiring.sessionOf backend
  | .switchWorkspace =>
    (wiring.sessionOf backend).filter Driver.workspaceAware

structure Agent where
  config : ModelConfig
  lastResolvedBackend : String
  sessionBackend : Option Driver
  workspaceBackend : Option Driver
  /-- History: the backend of the last `_sync_session_backends`. -/
  syncedFor : String
  deriving DecidableEq, Repr

/-- `_sync_session_backends`. -/
def Agent.syncSessionBackends (agent : Agent) (wiring : Wiring)
    (provider : Driver) (backend : String) : Agent :=
  { agent with
    sessionBackend := wiring.activeSession provider backend
    workspaceBackend := wiring.activeWorkspace provider backend
    syncedFor := backend }

/-- The backend transition in `process`. -/
def Agent.resolve (agent : Agent) (wiring : Wiring) (provider : Driver)
    (backend : String) : Agent :=
  if backend ≠ agent.lastResolvedBackend then
    { agent.syncSessionBackends wiring provider backend with
      lastResolvedBackend := backend }
  else agent

/-- The callbacks of a pool, each bound to the driver that it was made
with. -/
structure Pool where
  configured : Bool := false
  sessionResetFn : Option Driver := none
  sessionResumeFn : Option Driver := none
  switchWorkspaceFn : Option Driver := none
  /-- History: the configured backend at `configure_pool`. -/
  wiredFor : String := ""
  /-- History: the backend of the most recent turn. -/
  recent : Option String := none
  deriving DecidableEq, Repr

namespace Pool

/-- `Pool.register_session_callbacks`: each only if not already set. -/
def registerSessionCallbacks (pool : Pool) (resetFn resumeFn workspaceFn : Option Driver) : Pool :=
  { pool with
    sessionResetFn := pool.sessionResetFn <|> resetFn
    sessionResumeFn := pool.sessionResumeFn <|> resumeFn
    switchWorkspaceFn := pool.switchWorkspaceFn <|> workspaceFn }

def maybeRegisterReset (pool : Pool) (agent : Agent) : Pool :=
  match agent.sessionBackend with
  | none => pool
  | some session =>
    pool.registerSessionCallbacks (some session) none agent.workspaceBackend

def maybeRegisterResume (pool : Pool) (agent : Agent) : Pool :=
  match agent.sessionBackend with
  | none => pool
  | some session => pool.registerSessionCallbacks none (some session) none

/-- The backend that a session operation on the pool is meant for. -/
def wanted (pool : Pool) (agent : Agent) : String := pool.recent.getD agent.config.backend

end Pool

inductive TurnPoint
  /-- Before the choice of the model configuration. -/
  | preparing
  | running (backend : String)
  | ended
  deriving DecidableEq, Repr

structure Turn where
  pool : Nat
  point : TurnPoint
  deriving DecidableEq, Repr

/-- The session operations, each with the backend that it is meant for and
the driver that it has reached. -/
inductive Entry
  | linked (pool : Nat) (backend : String) (target : Option Driver)
  /-- The reset of `guarded_process_one`; no backend when the turn had not
  been given to one. -/
  | timedOut (pool : Nat) (backend : Option String) (target : Option Driver)
  | acted (op : SessionOp) (pool : Nat) (backend : String) (target : Option Driver)
  deriving DecidableEq, Repr

structure State where
  agent : Agent
  pools : Nat → Pool := fun _ => {}
  turns : List Turn := []
  log : List Entry := []

namespace State

variable (state : State)

def setPool (pool : Nat) (entry : Pool) : State :=
  { state with pools := Function.update state.pools pool entry }

def setTurn (turn pool : Nat) (point : TurnPoint) : State :=
  { state with turns := state.turns.set turn ⟨pool, point⟩ }

def record (entry : Entry) : State := { state with log := state.log ++ [entry] }

/-- `configure_pool`. -/
def configurePool (wiring : Wiring) (pool : Nat) (provider : Driver) :
    State :=
  let backend := state.agent.config.backend
  let agent := state.agent.syncSessionBackends wiring provider backend
  let entry := ((state.pools pool).maybeRegisterReset agent ).maybeRegisterResume agent
  { state with agent := agent }.setPool pool
    { entry with configured := true, wiredFor := backend }

/-- `process` from the choice of the provider to `link_lyra_session`. -/
def giveTurn (wiring : Wiring) (turn pool : Nat) (provider : Driver) (backend : String) : State :=
  let agent := state.agent.resolve wiring provider backend
  let given := { state with agent := agent }.setPool pool
    { state.pools pool with recent := some backend }
  (given.setTurn turn pool (.running backend)).record (.linked pool backend agent.sessionBackend)

def callback (op : SessionOp) (pool : Nat) : Option Driver :=
  match op with
  | .resetSession => (state.pools pool).sessionResetFn
  | .resumeSession => (state.pools pool).sessionResumeFn
  | .switchWorkspace => (state.pools pool).switchWorkspaceFn

end State

inductive Action
  | configure (pool : Nat)
  /-- `_maybe_reload_config` in any turn. -/
  | reload (config : ModelConfig)
  | begin (pool : Nat)
  | give (turn : Nat) (msg : InboundMessage)
  | ends (turn : Nat)
  | timesOut (turn : Nat)
  | act (op : SessionOp) (pool : Nat)
  deriving DecidableEq, Repr

/-- One step.  The hub configures a pool before it is used, and only once. -/
def step (wiring : Wiring) (state : State) : Action → Option State
  | .configure pool =>
    if (state.pools pool).configured then none
    else
      (wiring.providerForBackend state.agent.config.backend).map (state.configurePool wiring pool)
  | .reload config =>
    some { state with agent := { state.agent with config := config } }
  | .begin pool =>
    if (state.pools pool).configured then
      some { state with turns := state.turns ++ [⟨pool, .preparing⟩] }
    else none
  | .give turn msg =>
    match state.turns[turn]? with
    | some ⟨pool, .preparing⟩ =>
      let backend := (effectiveModelConfig state.agent.config msg).backend
      match wiring.providerForBackend backend with
      | none => some (state.setTurn turn pool .ended)
      | some provider =>
        some (state.giveTurn wiring turn pool provider backend)
    | _ => none
  | .ends turn =>
    match state.turns[turn]? with
    | none | some ⟨_, .ended⟩ => none
    | some ⟨pool, _⟩ => some (state.setTurn turn pool .ended)
  | .timesOut turn =>
    match state.turns[turn]? with
    | none | some ⟨_, .ended⟩ => none
    | some ⟨pool, .preparing⟩ =>
      some ((state.setTurn turn pool .ended).record
        (.timedOut pool none state.agent.sessionBackend))
    | some ⟨pool, .running backend⟩ =>
      some ((state.setTurn turn pool .ended).record
        (.timedOut pool (some backend) state.agent.sessionBackend))
  | .act op pool =>
    if (state.pools pool).configured then
      some (state.record (.acted op pool
        ((state.pools pool).wanted state.agent) (state.callback op pool)))
    else none

/-- The runs of an agent and its pools. -/
def system (wiring : Wiring) : TransitionSystem State Action where
  initial state := ∃ config provider, wiring.providerForBackend config.backend = some provider ∧
        state =
          { agent :=
              { config := config
                lastResolvedBackend := config.backend
                sessionBackend := wiring.activeSession provider config.backend
                workspaceBackend := wiring.activeWorkspace provider config.backend
                syncedFor := config.backend } }
  step := step wiring

/-- The operation has reached the session backend that it is meant for. -/
def Entry.Reaches (wiring : Wiring) : Entry → Prop
  | .linked _ backend target => target = wiring.sessionOf backend
  | .timedOut _ backend target => ∀ running ∈ backend, target = wiring.sessionOf running
  | .acted op _ backend target => target = op.targetOf wiring backend

/-- All session operations of the run have reached the right backend. -/
def OperationsReach (wiring : Wiring) (log : List Entry) : Prop :=
  ∀ entry ∈ log, entry.Reaches wiring

end SimpleAgent

end RoxabiFactory

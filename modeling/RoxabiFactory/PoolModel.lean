import RoxabiFactory.TransitionSystem

/-!
# The message pool and its processing loop

`Pool.submit` puts a message on the inbox and starts `process_loop` when no
task is running.  The loop is a coroutine: between two awaits it runs without
interruption, so its state is the await at which it is suspended, and one
action resumes it up to the next await.  The agent task and the inbox waiter
that the loop creates, the debounce timer, the resume callback and
`Pool.cancel` act in between, in any order.

`asyncio.wait_for` awaits `inbox.get()` in the same task and a `get` on a
queue that is not empty does not suspend, so the debouncer takes everything
that is already queued before it waits.
-/

namespace RoxabiFactory

namespace Pool

/-- How the task of `guarded_process_one` ends.  Errors of a pool turn are
answered inside and count as `finished`; `failed` is an exception that
escapes. -/
inductive TurnOutcome
  | finished
  | failed
  | cancelled
  deriving DecidableEq, Repr

/-- `agent_task`.  A cancelled task may still end in any way, so a request to
cancel it leaves no trace. -/
inductive AgentTask
  | running
  | done (outcome : TurnOutcome)
  deriving DecidableEq, Repr

/-- `inbox_waiter`, the task that runs `inbox.get()`. -/
inductive InboxWaiter (Msg : Type*)
  | pending
  | received (msg : Msg)
  deriving DecidableEq, Repr

/-- How awaiting `pool.resume_session` ends. -/
inductive ResumeResult
  | returned (accepted : Bool)
  | turnPersistError
  | raised
  | cancelled
  deriving DecidableEq, Repr

/-- The await at which `process_loop` is suspended, with the local variables
that are live there. -/
inductive LoopPoint (Msg : Type*)
  /-- The task exists and has not run yet. -/
  | created
  /-- `wait_for(inbox.get())` in `MessageDebouncer.collect`. -/
  | collecting (buffer : List Msg)
  /-- `pool.resume_session(_pending)`. -/
  | resuming (buffer : List Msg) (sessionId : String)
  /-- `await agent_task` of the mode that lets the turn finish. -/
  | awaitingAgent (batch : List Msg) (agent : AgentTask)
  /-- `asyncio.wait({agent_task, inbox_waiter})`. -/
  | racing (batch : List Msg) (agent : AgentTask) (waiter : InboxWaiter Msg)
  /-- `await inbox_waiter` after `inbox_waiter.cancel()`. -/
  | settling (batch : List Msg) (outcome : TurnOutcome)
  /-- `await agent_task` after `agent_task.cancel()`. -/
  | superseding (batch : List Msg) (newMsg : Msg) (agent : AgentTask)
  /-- `wait_for(inbox.get())` in `MessageDebouncer.drain_followups`. -/
  | draining (batch followups : List Msg)
  /-- `asyncio.shield(safe_dispatch(...))` of the cancelled notice. -/
  | replying
  | ended
  deriving DecidableEq, Repr

/-- A task running `process_loop`.  `cancelRequested` means that
`CancelledError` is thrown into it when it is resumed; `lastMsg` is the batch
that `_last_msg` was merged from. -/
structure LoopTask (Msg : Type*) where
  point : LoopPoint Msg
  cancelRequested : Bool := false
  lastMsg : Option (List Msg) := none
  deriving DecidableEq, Repr

/-- What happened to messages and batches, in order. -/
inductive PoolEvent (Msg : Type*)
  | submitted (msg : Msg)
  | resumeAttempted (sessionId : String)
  | turnStarted (batch : List Msg)
  /-- The loop is done with a batch whose turn has ended. -/
  | batchSettled (batch : List Msg) (outcome : TurnOutcome)
  /-- No agent was found and the messages were dropped. -/
  | dropped (batch : List Msg)
  | cancelReply (batch : List Msg)
  deriving DecidableEq, Repr

/-- The fields of `Pool` that the loop reads or writes, the tasks that an
ended loop has left behind, and the events so far. -/
structure PoolState (Msg : Type*) where
  inbox : List Msg := []
  currentTask : Option (LoopTask Msg) := none
  debounceMs : Int
  cancelOnNewMessage : Bool
  agentRegistered : Bool := true
  pendingSessionId : Option String := none
  strayWaiters : List (InboxWaiter Msg) := []
  strayTurns : List (List Msg × AgentTask) := []
  history : List (PoolEvent Msg) := []
  deriving DecidableEq, Repr

namespace PoolState

variable {Msg : Type*}

def record (state : PoolState Msg) (event : PoolEvent Msg) : PoolState Msg :=
  { state with history := state.history ++ [event] }

def suspend (state : PoolState Msg) (task : LoopTask Msg) : PoolState Msg :=
  { state with currentTask := some task }

/-- The `finally` clause of `process_loop`. -/
def endLoop (state : PoolState Msg) : PoolState Msg := { state with currentTask := none }

/-- `Pool.is_idle`. -/
def isIdle (state : PoolState Msg) : Bool :=
  match state.currentTask with
  | none => true
  | some task => match task.point with
    | .ended => true
    | _ => false

/-- The head of the loop in `_process_with_cancel`: create the agent task,
then wait for it alone or race it against the inbox. -/
def startTurn (state : PoolState Msg) (lastMsg : Option (List Msg))
    (batch : List Msg) : PoolState Msg :=
  (state.record (.turnStarted batch)).suspend
    { point :=
        if state.cancelOnNewMessage then .racing batch .running .pending
        else .awaitingAgent batch .running
      lastMsg := lastMsg }

/-- The part of `process_loop` after the resume: look the agent up and start
the turn, or drop the buffer and the inbox. -/
def dispatch (state : PoolState Msg) (buffer : List Msg) : PoolState Msg :=
  if state.agentRegistered then state.startTurn (some buffer) buffer
  else
    { state.record (.dropped (buffer ++ state.inbox)) with
      inbox := [] }.endLoop

/-- The part of `process_loop` after `collect`. -/
def afterCollect (state : PoolState Msg) (lastMsg : Option (List Msg))
    (buffer : List Msg) : PoolState Msg :=
  match state.pendingSessionId with
  | some sessionId =>
    ({ state with pendingSessionId := none }.record
      (.resumeAttempted sessionId)).suspend
        { point := .resuming buffer sessionId, lastMsg := lastMsg }
  | none => state.dispatch buffer

/-- The head of `process_loop`: leave when the inbox is empty, otherwise
collect.  The first `get` and the ones behind it find messages in the queue
and do not suspend. -/
def loopTop (state : PoolState Msg) (lastMsg : Option (List Msg)) : PoolState Msg :=
  if state.inbox.isEmpty then state.endLoop
  else if state.debounceMs ≤ 0 then
    { state with inbox := [] }.afterCollect lastMsg state.inbox
  else
    { state with inbox := [] }.suspend
      { point := .collecting state.inbox, lastMsg := lastMsg }

/-- The `except asyncio.CancelledError` clause of `process_loop`. -/
def onCancelled (state : PoolState Msg) (lastMsg : Option (List Msg)) : PoolState Msg :=
  match lastMsg with
  | some batch =>
    (state.record (.cancelReply batch)).suspend { point := .replying, lastMsg := lastMsg }
  | none => state.endLoop

/-- Leave `_process_with_cancel` after a turn that was not superseded, in the
mode that races: an escaped exception is not looked at. -/
def finishRace (state : PoolState Msg) (lastMsg : Option (List Msg))
    (batch : List Msg) (outcome : TurnOutcome) : PoolState Msg :=
  let settled := state.record (.batchSettled batch outcome)
  match outcome with
  | .cancelled => settled.onCancelled lastMsg
  | _ => settled.loopTop (some batch)

/-- Leave `_process_with_cancel` after a turn in the mode that lets it
finish: `await agent_task` raises what the turn raised. -/
def finishTurn (state : PoolState Msg) (lastMsg : Option (List Msg))
    (batch : List Msg) (outcome : TurnOutcome) : PoolState Msg :=
  let settled := state.record (.batchSettled batch outcome)
  match outcome with
  | .finished => settled.loopTop (some batch)
  | .failed => settled.endLoop
  | .cancelled => settled.onCancelled lastMsg

/-- `MessageDebouncer.drain_followups` up to its first suspension. -/
def drainFollowups (state : PoolState Msg) (lastMsg : Option (List Msg))
    (batch : List Msg) : PoolState Msg :=
  if state.debounceMs ≤ 0 then
    { state with inbox := [] }.startTurn lastMsg (batch ++ state.inbox)
  else
    { state with inbox := [] }.suspend
      { point := .draining batch state.inbox, lastMsg := lastMsg }

/-- The event loop resumes the task of `process_loop`; `none` when it is not
ready to run. -/
def resumeLoop (state : PoolState Msg) (task : LoopTask Msg) : Option (PoolState Msg) :=
  match task.point with
  | .created =>
    -- A task cancelled before its first step never enters the coroutine,
    -- so the `finally` clause does not run.
    if task.cancelRequested then
      some (state.suspend { point := .ended })
    else some (state.loopTop none)
  | .collecting buffer =>
    if task.cancelRequested then some (state.onCancelled task.lastMsg)
    else if state.inbox.isEmpty then none
    else some ({ state with inbox := [] }.suspend
      { task with point := .collecting (buffer ++ state.inbox) })
  | .awaitingAgent batch (.done outcome) =>
    -- A pending request replaces whatever the agent task raised.
    if task.cancelRequested then
      some ((state.record (.batchSettled batch outcome)).onCancelled task.lastMsg)
    else some (state.finishTurn task.lastMsg batch outcome)
  | .racing batch agent waiter =>
    if task.cancelRequested then
      -- `asyncio.wait` cancels neither of the tasks it waits for.
      some ({ state with
        strayWaiters := state.strayWaiters ++ [waiter]
        strayTurns := state.strayTurns ++ [(batch, agent)] }.onCancelled task.lastMsg)
    else match agent, waiter with
      | .done outcome, .received msg =>
        some ({ state with inbox := state.inbox ++ [msg] }.finishRace
          task.lastMsg batch outcome)
      | .done outcome, .pending =>
        some (state.suspend { task with point := .settling batch outcome })
      | .running, .received msg =>
        some (state.suspend { task with point := .superseding batch msg .running })
      | .running, .pending => none
  | .settling batch outcome =>
    some (state.finishRace task.lastMsg batch outcome)
  | .superseding batch msg (.done outcome) =>
    -- Only `CancelledError` is suppressed around `await agent_task`, and a
    -- pending request turns what it raised into `CancelledError`.
    if outcome = .failed ∧ task.cancelRequested = false then
      some (state.record (.batchSettled batch .failed)).endLoop
    else some (state.drainFollowups task.lastMsg (batch ++ [msg]))
  | .draining batch followups =>
    if task.cancelRequested then some (state.onCancelled task.lastMsg)
    else if state.inbox.isEmpty then none
    else some ({ state with inbox := [] }.suspend
      { task with point := .draining batch (followups ++ state.inbox) })
  | .replying => if task.cancelRequested then some state.endLoop else none
  | _ => none

/-- Every way the event loop can resume the task of `process_loop`. -/
inductive Resumes (state : PoolState Msg) : LoopTask Msg → PoolState Msg → Prop
  | neverStarted {lastMsg} : Resumes state ⟨.created, true, lastMsg⟩
        (state.suspend { point := .ended })
  | starts {lastMsg} : Resumes state ⟨.created, false, lastMsg⟩ (state.loopTop none)
  | collects {buffer lastMsg} : state.inbox ≠ [] →
      Resumes state ⟨.collecting buffer, false, lastMsg⟩ ({ state with inbox := [] }.suspend
          ⟨.collecting (buffer ++ state.inbox), false, lastMsg⟩)
  | collectCancelled {buffer lastMsg} : Resumes state ⟨.collecting buffer, true, lastMsg⟩
        (state.onCancelled lastMsg)
  | turnEnds {batch outcome lastMsg} :
      Resumes state ⟨.awaitingAgent batch (.done outcome), false, lastMsg⟩
        (state.finishTurn lastMsg batch outcome)
  | turnCancelled {batch outcome lastMsg} :
      Resumes state ⟨.awaitingAgent batch (.done outcome), true, lastMsg⟩
        ((state.record (.batchSettled batch outcome)).onCancelled lastMsg)
  | raceCancelled {batch agent waiter lastMsg} :
      Resumes state ⟨.racing batch agent waiter, true, lastMsg⟩
        ({ state with
          strayWaiters := state.strayWaiters ++ [waiter]
          strayTurns := state.strayTurns ++ [(batch, agent)] }.onCancelled lastMsg)
  | raceBoth {batch outcome msg lastMsg} : Resumes state
        ⟨.racing batch (.done outcome) (.received msg), false, lastMsg⟩
        ({ state with inbox := state.inbox ++ [msg] }.finishRace lastMsg
          batch outcome)
  | raceAgent {batch outcome lastMsg} :
      Resumes state ⟨.racing batch (.done outcome) .pending, false, lastMsg⟩
        (state.suspend ⟨.settling batch outcome, false, lastMsg⟩)
  | raceMessage {batch msg lastMsg} :
      Resumes state ⟨.racing batch .running (.received msg), false, lastMsg⟩
        (state.suspend ⟨.superseding batch msg .running, false, lastMsg⟩)
  | settles {batch outcome requested lastMsg} :
      Resumes state ⟨.settling batch outcome, requested, lastMsg⟩
        (state.finishRace lastMsg batch outcome)
  | supersededFails {batch msg lastMsg} : Resumes state
        ⟨.superseding batch msg (.done .failed), false, lastMsg⟩
        (state.record (.batchSettled batch .failed)).endLoop
  | superseded {batch msg outcome requested lastMsg} : (outcome = .failed → requested = true) →
      Resumes state ⟨.superseding batch msg (.done outcome), requested, lastMsg⟩
        (state.drainFollowups lastMsg (batch ++ [msg]))
  | drains {batch followups lastMsg} : state.inbox ≠ [] →
      Resumes state ⟨.draining batch followups, false, lastMsg⟩ ({ state with inbox := [] }.suspend
          ⟨.draining batch (followups ++ state.inbox), false, lastMsg⟩)
  | drainCancelled {batch followups lastMsg} :
      Resumes state ⟨.draining batch followups, true, lastMsg⟩ (state.onCancelled lastMsg)
  | replyCancelled {lastMsg} : Resumes state ⟨.replying, true, lastMsg⟩ state.endLoop

theorem resumes_of_resumeLoop {state after : PoolState Msg}
    {task : LoopTask Msg} (resumes : state.resumeLoop task = some after) :
    state.Resumes task after := by
  obtain ⟨point, requested, lastMsg⟩ := task
  cases point with
  | created =>
    cases requested <;> simp [resumeLoop] at resumes <;> subst resumes <;>
      constructor
  | collecting buffer =>
    cases requested
    · by_cases empty : state.inbox = [] <;>
        simp [resumeLoop, empty] at resumes
      exact resumes ▸ .collects empty
    · simp [resumeLoop] at resumes
      exact resumes ▸ .collectCancelled
  | resuming buffer sessionId => simp [resumeLoop] at resumes
  | awaitingAgent batch agent =>
    cases agent <;> cases requested <;> simp [resumeLoop] at resumes <;>
      subst resumes <;> constructor
  | racing batch agent waiter =>
    cases requested
    · cases agent <;> cases waiter <;> simp [resumeLoop] at resumes <;>
        subst resumes <;> constructor
    · simp [resumeLoop] at resumes
      exact resumes ▸ .raceCancelled
  | settling batch outcome =>
    simp [resumeLoop] at resumes
    exact resumes ▸ .settles
  | superseding batch msg agent =>
    cases agent with
    | running => simp [resumeLoop] at resumes
    | done outcome =>
      by_cases escapes : outcome = .failed ∧ requested = false
      · obtain ⟨rfl, rfl⟩ := escapes
        simp [resumeLoop] at resumes
        exact resumes ▸ .supersededFails
      · simp only [resumeLoop, if_neg escapes, Option.some.injEq]
          at resumes
        exact resumes ▸ .superseded (by simpa using escapes)
  | draining batch followups =>
    cases requested
    · by_cases empty : state.inbox = [] <;>
        simp [resumeLoop, empty] at resumes
      exact resumes ▸ .drains empty
    · simp [resumeLoop] at resumes
      exact resumes ▸ .drainCancelled
  | replying =>
    cases requested <;> simp [resumeLoop] at resumes
    exact resumes ▸ .replyCancelled
  | ended => simp [resumeLoop] at resumes

/-- The debounce window closes without a further message. -/
def closeWindow (state : PoolState Msg) (task : LoopTask Msg) : Option (PoolState Msg) :=
  if task.cancelRequested then none
  else match task.point with
    | .collecting buffer => some (state.afterCollect task.lastMsg buffer)
    | .draining batch followups =>
      some (state.startTurn task.lastMsg (batch ++ followups))
    | _ => none

/-- `pool.resume_session` returns or raises in `process_loop`. -/
def endResume (state : PoolState Msg) (task : LoopTask Msg)
    (result : ResumeResult) : Option (PoolState Msg) :=
  match task.point, result with
  | .resuming buffer _, .returned _ => some (state.dispatch buffer)
  | .resuming buffer _, .turnPersistError => some (state.dispatch buffer)
  | .resuming _ _, .raised => some state.endLoop
  | .resuming _ _, .cancelled => some (state.onCancelled task.lastMsg)
  | _, _ => none

def endAgent (state : PoolState Msg) (task : LoopTask Msg)
    (outcome : TurnOutcome) : Option (PoolState Msg) :=
  match task.point with
  | .awaitingAgent batch .running =>
    some (state.suspend { task with point := .awaitingAgent batch (.done outcome) })
  | .racing batch .running waiter =>
    some (state.suspend { task with point := .racing batch (.done outcome) waiter })
  | .superseding batch msg .running =>
    some (state.suspend { task with point := .superseding batch msg (.done outcome) })
  | _ => none

/-- The inbox waiter of the running loop takes the first message. -/
def waiterReceives (state : PoolState Msg) (task : LoopTask Msg) : Option (PoolState Msg) :=
  match task.point, state.inbox with
  | .racing batch agent .pending, msg :: rest =>
    some ({ state with inbox := rest }.suspend
      { task with point := .racing batch agent (.received msg) })
  | _, _ => none

/-- A waiter that an ended loop left behind takes the first message. -/
def strayReceives (state : PoolState Msg) (index : Nat) : Option (PoolState Msg) :=
  match state.strayWaiters[index]?, state.inbox with
  | some .pending, msg :: rest =>
    some { state with
      inbox := rest
      strayWaiters := state.strayWaiters.set index (.received msg) }
  | _, _ => none

/-- An agent task that an ended loop left behind ends. -/
def strayTurnEnds (state : PoolState Msg) (index : Nat)
    (outcome : TurnOutcome) : Option (PoolState Msg) :=
  match state.strayTurns[index]? with
  | some (batch, .running) =>
    some { state with
      strayTurns := state.strayTurns.set index (batch, .done outcome) }
  | _ => none

/-- `Pool.submit`. -/
def submit (state : PoolState Msg) (msg : Msg) : PoolState Msg :=
  let queued := { state.record (.submitted msg) with
    inbox := state.inbox ++ [msg] }
  if state.isIdle then queued.suspend { point := .created } else queued

/-- `Task.cancel` on the task of `process_loop`.  While the task awaits
another task, or the resume callback, the request is handed on to it. -/
def requestCancel (task : LoopTask Msg) : LoopTask Msg :=
  match task.point with
  | .resuming _ _ | .settling _ _ | .awaitingAgent _ .running
  | .superseding _ _ .running | .ended => task
  | _ => { task with cancelRequested := true }

/-- `Pool.cancel`. -/
def cancel (state : PoolState Msg) : PoolState Msg :=
  { state with currentTask := state.currentTask.map requestCancel }

theorem isIdle_iff {state : PoolState Msg} : state.isIdle = true ↔
      ∀ task ∈ state.currentTask, task.point = .ended := by
  unfold isIdle
  cases state.currentTask with
  | none => simp
  | some task =>
    obtain ⟨point, requested, lastMsg⟩ := task
    cases point <;> simp

end PoolState

/-- What can happen next to a pool. -/
inductive Action (Msg : Type*)
  | submit (msg : Msg)
  | cancel
  | setDebounce (ms : Int)
  | setCancelOnNewMessage (enabled : Bool)
  | setAgentRegistered (registered : Bool)
  /-- The reply-to path queues a resume on the busy pool. -/
  | queueResume (sessionId : String)
  | loopStep
  | debounceTimeout
  | resumeEnds (result : ResumeResult)
  | agentEnds (outcome : TurnOutcome)
  | waiterReceives
  | replyEnds
  | strayReceives (index : Nat)
  | strayTurnEnds (index : Nat) (outcome : TurnOutcome)
  deriving DecidableEq, Repr

variable {Msg : Type*}

def step (state : PoolState Msg) : Action Msg → Option (PoolState Msg)
  | .submit msg => some (state.submit msg)
  | .cancel => some state.cancel
  | .setDebounce ms => some { state with debounceMs := ms }
  | .setCancelOnNewMessage enabled =>
    some { state with cancelOnNewMessage := enabled }
  | .setAgentRegistered registered =>
    some { state with agentRegistered := registered }
  | .queueResume sessionId =>
    some { state with pendingSessionId := some sessionId }
  | .loopStep => state.currentTask.bind state.resumeLoop
  | .debounceTimeout => state.currentTask.bind state.closeWindow
  | .resumeEnds result =>
    state.currentTask.bind fun task => state.endResume task result
  | .agentEnds outcome =>
    state.currentTask.bind fun task => state.endAgent task outcome
  | .waiterReceives => state.currentTask.bind state.waiterReceives
  | .replyEnds => state.currentTask.bind fun task =>
    match task.point with
    | .replying => some state.endLoop
    | _ => none
  | .strayReceives index => state.strayReceives index
  | .strayTurnEnds index outcome => state.strayTurnEnds index outcome

/-- Only `submit` starts a processing task. -/
theorem isIdle_of_step {state after : PoolState Msg} {action : Action Msg}
    (stepTo : step state action = some after)
    (noSubmit : ∀ msg, action ≠ .submit msg) (idle : state.isIdle = true) :
    after.isIdle = true := by
  rw [PoolState.isIdle_iff] at idle ⊢
  cases action with
  | submit msg => exact absurd rfl (noSubmit msg)
  | cancel =>
    cases stepTo
    intro task live
    obtain ⟨earlier, running, rfl⟩ := Option.map_eq_some_iff.mp live
    obtain ⟨point, requested, lastMsg⟩ := earlier
    obtain rfl : point = .ended := idle _ running
    rfl
  | setDebounce ms | setCancelOnNewMessage enabled
  | setAgentRegistered registered | queueResume sessionId =>
    cases stepTo
    exact idle
  | strayReceives index =>
    simp only [step, PoolState.strayReceives] at stepTo
    split at stepTo <;> cases stepTo
    exact idle
  | strayTurnEnds index outcome =>
    simp only [step, PoolState.strayTurnEnds] at stepTo
    split at stepTo <;> cases stepTo
    exact idle
  | _ =>
    obtain ⟨task, running, next⟩ := Option.bind_eq_some_iff.mp stepTo
    obtain ⟨point, requested, lastMsg⟩ := task
    obtain rfl : point = .ended := idle _ running
    simp [PoolState.resumeLoop, PoolState.closeWindow, PoolState.endResume,
      PoolState.endAgent, PoolState.waiterReceives] at next

/-- A pool as `Pool.__init__` makes it. -/
def system (Msg : Type*) : TransitionSystem (PoolState Msg) (Action Msg) where
  initial state := state.inbox = [] ∧ state.currentTask = none ∧ state.strayWaiters = [] ∧
      state.strayTurns = [] ∧ state.history = []
  step := step

end Pool

end RoxabiFactory

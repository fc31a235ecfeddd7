import RoxabiFactory.PoolModel

/-!
# Where the messages of a pool are

The messages of the settled batches, of the batch the loop is working on and
of the inbox form one line.  A step of the loop only moves the borders inside
that line, with one exception: when the agent task and the inbox waiter have
both ended, the message of the waiter goes back to the end of the inbox.
Several awaits do not survive `CancelledError`, and `KeepsMessages` names the
steps that cut the line.
-/

namespace RoxabiFactory

namespace Pool

variable {Msg : Type*}

def InboxWaiter.messages : InboxWaiter Msg → List Msg
  | .pending => []
  | .received msg => [msg]

/-- The messages in the local variables of the loop and in the result of its
inbox waiter. -/
def LoopPoint.messages : LoopPoint Msg → List Msg
  | .created | .replying | .ended => []
  | .collecting buffer | .resuming buffer _ => buffer
  | .awaitingAgent batch _ | .settling batch _ => batch
  | .racing batch _ waiter => batch ++ waiter.messages
  | .superseding batch newMsg _ => batch ++ [newMsg]
  | .draining batch followups => batch ++ followups

def PoolEvent.submittedMessages : PoolEvent Msg → List Msg
  | .submitted msg => [msg]
  | _ => []

def PoolEvent.settledMessages : PoolEvent Msg → List Msg
  | .batchSettled batch _ => batch
  | _ => []

def PoolEvent.startedMessages : PoolEvent Msg → List Msg
  | .turnStarted batch => batch
  | _ => []

namespace PoolState

/-- Every message submitted so far, in order. -/
def submittedMessages (state : PoolState Msg) : List Msg :=
  state.history.flatMap PoolEvent.submittedMessages

/-- The batches whose turn has ended without being superseded, in order. -/
def settledMessages (state : PoolState Msg) : List Msg :=
  state.history.flatMap PoolEvent.settledMessages

/-- The local buffer of the live loop. -/
def held (state : PoolState Msg) : List Msg :=
  match state.currentTask with
  | none => []
  | some task => task.point.messages

/-- The tasks that earlier loops have left behind. -/
def strays (state : PoolState Msg) : List (InboxWaiter Msg) × List (List Msg × AgentTask) :=
  (state.strayWaiters, state.strayTurns)

/-- All messages that are accounted for, from the oldest to the newest. -/
def line (state : PoolState Msg) : List Msg := state.settledMessages ++ state.held ++ state.inbox

/-- `get_agent` finds nothing, and no resume comes before it. -/
def agentMissing (state : PoolState Msg) : Bool :=
  !state.agentRegistered && state.pendingSessionId.isNone

/-- The head of the loop collects without waiting and drops what it
collects. -/
def dropsAtTop (state : PoolState Msg) : Bool :=
  !state.inbox.isEmpty && decide (state.debounceMs ≤ 0) && state.agentMissing

section Fragments

variable (state : PoolState Msg) (lastMsg : Option (List Msg))
variable (buffer batch : List Msg) (outcome : TurnOutcome)

attribute [local simp] LoopPoint.messages PoolEvent.submittedMessages PoolEvent.settledMessages

@[simp]
theorem record_inbox (event : PoolEvent Msg) : (state.record event).inbox = state.inbox :=
  rfl

@[simp]
theorem dropsAtTop_record (event : PoolEvent Msg) :
    (state.record event).dropsAtTop = state.dropsAtTop :=
  rfl

@[simp]
theorem submittedMessages_record (event : PoolEvent Msg) : (state.record event).submittedMessages =
      state.submittedMessages ++ event.submittedMessages := by
  simp [record, submittedMessages]

@[simp]
theorem settledMessages_record (event : PoolEvent Msg) : (state.record event).settledMessages =
      state.settledMessages ++ event.settledMessages := by
  simp [record, settledMessages]

@[simp]
theorem settledMessages_mk (inbox : List Msg) (task : Option (LoopTask Msg))
    (ms : Int) (racing registered : Bool) (pending : Option String)
    (waiters : List (InboxWaiter Msg)) (turns : List (List Msg × AgentTask)) :
    (mk inbox task ms racing registered pending waiters turns
      state.history).settledMessages = state.settledMessages :=
  rfl

@[simp]
theorem submittedMessages_mk (inbox : List Msg) (task : Option (LoopTask Msg))
    (ms : Int) (racing registered : Bool) (pending : Option String)
    (waiters : List (InboxWaiter Msg)) (turns : List (List Msg × AgentTask)) :
    (mk inbox task ms racing registered pending waiters turns
      state.history).submittedMessages = state.submittedMessages :=
  rfl

@[simp]
theorem held_mk (inbox : List Msg) (ms : Int) (racing registered : Bool)
    (pending : Option String) (waiters : List (InboxWaiter Msg))
    (turns : List (List Msg × AgentTask)) (history : List (PoolEvent Msg)) :
    (mk inbox state.currentTask ms racing registered pending waiters turns
      history).held = state.held :=
  rfl

@[simp]
theorem held_record (event : PoolEvent Msg) : (state.record event).held = state.held :=
  rfl

@[simp]
theorem line_suspend (task : LoopTask Msg) : (state.suspend task).line =
      state.settledMessages ++ task.point.messages ++ state.inbox :=
  rfl

@[simp]
theorem line_endLoop : state.endLoop.line = state.settledMessages ++ state.inbox := by
  simp [line, held, endLoop]

@[simp]
theorem line_startTurn : (state.startTurn lastMsg batch).line =
      state.settledMessages ++ batch ++ state.inbox := by
  unfold startTurn
  split <;>
    simp [InboxWaiter.messages]

@[simp]
theorem line_onCancelled : (state.onCancelled lastMsg).line =
      state.settledMessages ++ state.inbox := by
  cases lastMsg <;>
    simp [onCancelled]

theorem line_dispatch (registered : state.agentRegistered = true) : (state.dispatch buffer).line =
      state.settledMessages ++ buffer ++ state.inbox := by
  simp [dispatch, registered]

theorem line_afterCollect (resolved : state.agentMissing = false) :
    (state.afterCollect lastMsg buffer).line =
      state.settledMessages ++ buffer ++ state.inbox := by
  unfold afterCollect
  split
  · simp
  · rename_i noResume
    exact line_dispatch state buffer (by simpa [agentMissing, noResume] using resolved)

theorem line_loopTop (resolved : state.dropsAtTop = false) : (state.loopTop lastMsg).line =
      state.settledMessages ++ state.inbox := by
  unfold loopTop
  split
  · exact state.line_endLoop
  · rename_i queued
    split
    · rename_i immediate
      have found : state.agentMissing = false := by
        simpa [dropsAtTop, queued, immediate] using resolved
      have collected := line_afterCollect { state with inbox := [] } lastMsg
        state.inbox found
      simpa using collected
    · simp

theorem line_finishRace (resolved : outcome ≠ .cancelled → state.dropsAtTop = false) :
    (state.finishRace lastMsg batch outcome).line =
      state.settledMessages ++ batch ++ state.inbox := by
  cases outcome with
  | cancelled => simp [finishRace]
  | finished | failed =>
    simp [finishRace, line_loopTop, resolved]

theorem line_finishTurn (resolved : outcome = .finished → state.dropsAtTop = false) :
    (state.finishTurn lastMsg batch outcome).line =
      state.settledMessages ++ batch ++ state.inbox := by
  cases outcome with
  | finished =>
    simp [finishTurn, line_loopTop, resolved]
  | failed | cancelled => simp [finishTurn]

theorem line_drainFollowups : (state.drainFollowups lastMsg batch).line =
      state.settledMessages ++ batch ++ state.inbox := by
  unfold drainFollowups
  split <;> simp

end Fragments

/-- What every stretch of `process_loop` between two awaits leaves alone: the
tasks of earlier loops and the submissions.  The task it suspends, if any, has
no pending `CancelledError`. -/
structure Continues (before after : PoolState Msg) : Prop where
  strays : after.strays = before.strays
  submitted : after.submittedMessages = before.submittedMessages
  fresh : ∀ task ∈ after.currentTask, task.cancelRequested = false

section Continues

variable {before after : PoolState Msg} (lastMsg : Option (List Msg))
variable (buffer batch : List Msg) (outcome : TurnOutcome)

/-- The fields that `Continues` looks at in the state before. -/
theorem Continues.congr {other : PoolState Msg} (continues : Continues before after)
    (straysEq : before.strays = other.strays)
    (submittedEq : before.submittedMessages = other.submittedMessages) :
    Continues other after :=
  ⟨continues.strays.trans straysEq, continues.submitted.trans submittedEq, continues.fresh⟩

theorem continues_endLoop : Continues before before.endLoop := ⟨rfl, rfl, by simp [endLoop]⟩

theorem continues_suspend {task : LoopTask Msg} (calm : task.cancelRequested = false) :
    Continues before (before.suspend task) :=
  ⟨rfl, rfl, by simp [suspend, calm]⟩

theorem continues_startTurn : Continues before (before.startTurn lastMsg batch) :=
  (continues_suspend rfl).congr rfl (by simp [PoolEvent.submittedMessages])

theorem continues_onCancelled :
    Continues before (before.onCancelled lastMsg) := by
  cases lastMsg with
  | none => exact continues_endLoop
  | some batch =>
    exact (continues_suspend rfl).congr rfl (by simp [PoolEvent.submittedMessages])

theorem continues_dispatch : Continues before (before.dispatch buffer) := by
  unfold dispatch
  split
  · exact continues_startTurn _ _
  · exact continues_endLoop.congr rfl
      (by simp [PoolEvent.submittedMessages, submittedMessages, record])

theorem continues_afterCollect :
    Continues before (before.afterCollect lastMsg buffer) := by
  unfold afterCollect
  split
  · exact (continues_suspend rfl).congr rfl (by simp [PoolEvent.submittedMessages])
  · exact continues_dispatch buffer

theorem continues_loopTop : Continues before (before.loopTop lastMsg) := by
  unfold loopTop
  split
  · exact continues_endLoop
  · split
    · exact (continues_afterCollect lastMsg _).congr rfl rfl
    · exact (continues_suspend rfl).congr rfl rfl

theorem continues_finishRace :
    Continues before (before.finishRace lastMsg batch outcome) := by
  have recorded : (before.record (.batchSettled batch outcome)
      ).submittedMessages = before.submittedMessages := by
    simp [PoolEvent.submittedMessages]
  cases outcome with
  | cancelled => exact (continues_onCancelled lastMsg).congr rfl recorded
  | finished | failed => exact (continues_loopTop _).congr rfl recorded

theorem continues_finishTurn :
    Continues before (before.finishTurn lastMsg batch outcome) := by
  have recorded : (before.record (.batchSettled batch outcome)
      ).submittedMessages = before.submittedMessages := by
    simp [PoolEvent.submittedMessages]
  cases outcome with
  | finished => exact (continues_loopTop _).congr rfl recorded
  | failed => exact continues_endLoop.congr rfl recorded
  | cancelled => exact (continues_onCancelled lastMsg).congr rfl recorded

theorem continues_drainFollowups :
    Continues before (before.drainFollowups lastMsg batch) := by
  unfold drainFollowups
  split
  · exact (continues_startTurn _ _).congr rfl rfl
  · exact (continues_suspend rfl).congr rfl rfl

end Continues

end PoolState

/-- The awaits at which `CancelledError` takes messages with it: the two
debounce waits, whose buffer is local, and `asyncio.wait`, which leaves the
agent task and the inbox waiter behind. -/
def LoopPoint.losesOnCancel : LoopPoint Msg → Bool
  | .collecting _ | .racing .. | .draining .. => true
  | _ => false

/-- An exception is about to escape from a turn that is being superseded; it
takes the new message with it. -/
def LoopTask.failsWhileSuperseded (task : LoopTask Msg) : Bool :=
  match task.point with
  | .superseding _ _ (.done .failed) => !task.cancelRequested
  | _ => false

/-- The loop is about to go back to its head and to drop the inbox, since no
agent resolves. -/
def PoolState.dropsOnResume (state : PoolState Msg) (task : LoopTask Msg) :
    Bool :=
  match task.point with
  | .created | .awaitingAgent _ (.done .finished) =>
    !task.cancelRequested && state.dropsAtTop
  | .racing _ (.done outcome) (.received msg) =>
    !task.cancelRequested && decide (outcome ≠ .cancelled) &&
      { state with inbox := state.inbox ++ [msg] }.dropsAtTop
  | .settling _ outcome =>
    decide (outcome ≠ .cancelled) && state.dropsAtTop
  | _ => false

def PoolState.losesMessages (state : PoolState Msg) (task : LoopTask Msg) : Action Msg → Bool
  | .cancel => task.point.losesOnCancel
  | .loopStep => task.failsWhileSuperseded || state.dropsOnResume task
  | .debounceTimeout => match task.point with
    | .collecting _ => state.agentMissing
    | _ => false
  | .resumeEnds result => match result with
    | .returned _ | .turnPersistError => !state.agentRegistered
    | .raised | .cancelled => true
  | _ => false

/-- The condition under which a step loses nothing: the pool is not cancelled
at an await of `losesOnCancel`, no exception escapes from a turn that is being
superseded or from the resume callback, and the agent resolves whenever the
loop looks it up. -/
def KeepsMessages (state : PoolState Msg) (action : Action Msg) : Prop :=
  ∀ task ∈ state.currentTask, state.losesMessages task action = false

instance (state : PoolState Msg) (action : Action Msg) :
    Decidable (KeepsMessages state action) := by
  unfold KeepsMessages
  infer_instance

/-- The messages are where they should be, no earlier loop has left a task
behind, and no `CancelledError` is on its way to an await of
`losesOnCancel`. -/
structure Kept (state : PoolState Msg) : Prop where
  line : state.line.Perm state.submittedMessages
  noStrays : state.strays = ([], [])
  spared : ∀ task ∈ state.currentTask, task.cancelRequested = true →
    task.point.losesOnCancel = false

namespace PoolState

/-- Agent and waiter have both ended, and other messages are queued behind
the one that the waiter took. -/
def overtakes (state : PoolState Msg) (task : LoopTask Msg) : Bool :=
  match task.point with
  | .racing _ (.done _) (.received _) => !state.inbox.isEmpty
  | _ => false

section Steps

variable {state after : PoolState Msg} {task : LoopTask Msg}

theorem line_of_task (running : state.currentTask = some task) : state.line =
      state.settledMessages ++ task.point.messages ++ state.inbox := by
  simp [line, held, running]

theorem Resumes.line_eq (resumes : state.Resumes task after)
    (keeps : state.losesMessages task .loopStep = false)
    (spared : task.cancelRequested = true → task.point.losesOnCancel = false) :
    after.line = state.settledMessages ++ task.point.messages ++ state.inbox ∨
      (state.overtakes task = true ∧ after.line.Perm
        (state.settledMessages ++ task.point.messages ++ state.inbox)) := by
  obtain ⟨survives, resolved⟩ := Bool.or_eq_false_iff.mp keeps
  cases resumes with
  | neverStarted | replyCancelled => left; simp [LoopPoint.messages]
  | starts =>
    left
    simp [line_loopTop state none (by simpa [dropsOnResume] using resolved),
      LoopPoint.messages]
  | collects queued | drains queued => left; simp [LoopPoint.messages]
  | @turnEnds batch outcome lastMsg =>
    left
    refine line_finishTurn state lastMsg batch outcome ?_
    rintro rfl
    simpa [dropsOnResume] using resolved
  | turnCancelled =>
    left; simp [PoolEvent.settledMessages, LoopPoint.messages]
  | @raceBoth batch outcome msg lastMsg =>
    have moved := line_finishRace { state with inbox := state.inbox ++ [msg] } lastMsg batch outcome
      (by simpa [dropsOnResume] using resolved)
    simp only [LoopPoint.messages, InboxWaiter.messages, overtakes]
    cases queued : state.inbox with
    | nil => left; simpa [queued] using moved
    | cons next rest =>
      right
      refine ⟨rfl, ?_⟩
      rw [queued] at moved
      rw [moved]
      simp only [settledMessages_mk, List.append_assoc]
      exact (List.perm_append_comm.append_left batch).append_left _
  | raceAgent | raceMessage =>
    left; simp [LoopPoint.messages, InboxWaiter.messages]
  | @settles batch outcome requested lastMsg =>
    left
    exact line_finishRace state lastMsg batch outcome (by simpa [dropsOnResume] using resolved)
  | supersededFails => simp [LoopTask.failsWhileSuperseded] at survives
  | superseded => left; simp [line_drainFollowups, LoopPoint.messages]
  | collectCancelled | raceCancelled | drainCancelled =>
    simp [LoopPoint.losesOnCancel] at spared

/-- Resuming the loop keeps the submissions and the tasks of earlier loops
when the loop is not cancelled inside `asyncio.wait`. -/
theorem Resumes.continues (resumes : state.Resumes task after)
    (spared : task.cancelRequested = true → task.point.losesOnCancel = false) :
    Continues state after := by
  cases resumes with
  | neverStarted => exact continues_suspend rfl
  | starts => exact continues_loopTop none
  | collects _ | drains _ => exact (continues_suspend rfl).congr rfl rfl
  | turnEnds => exact continues_finishTurn _ _ _
  | turnCancelled =>
    exact (continues_onCancelled _).congr rfl (by simp [PoolEvent.submittedMessages])
  | raceBoth => exact (continues_finishRace _ _ _).congr rfl rfl
  | raceAgent | raceMessage => exact continues_suspend rfl
  | settles => exact continues_finishRace _ _ _
  | supersededFails =>
    exact continues_endLoop.congr rfl (by simp [PoolEvent.submittedMessages])
  | superseded => exact continues_drainFollowups _ _
  | replyCancelled => exact continues_endLoop
  | collectCancelled | drainCancelled | raceCancelled =>
    simp [LoopPoint.losesOnCancel] at spared

theorem held_of_isIdle (idle : state.isIdle = true) : state.held = [] := by
  unfold isIdle at idle
  unfold held
  split
  · rfl
  · rename_i task running
    rw [running] at idle
    obtain ⟨point, requested, lastMsg⟩ := task
    cases point <;> simp at idle
    rfl

theorem line_submit (msg : Msg) : (state.submit msg).line = state.line ++ [msg] := by
  cases idle : state.isIdle with
  | true =>
    simp only [submit, idle, if_true, line_suspend]
    rw [line, held_of_isIdle idle]
    simp [LoopPoint.messages, PoolEvent.settledMessages]
  | false => simp [submit, idle, line, PoolEvent.settledMessages]

theorem requestCancel_point (task : LoopTask Msg) : (requestCancel task).point = task.point := by
  obtain ⟨point, requested, lastMsg⟩ := task
  unfold requestCancel
  split <;> rfl

theorem line_cancel : state.cancel.line = state.line := by
  cases running : state.currentTask <;>
    simp [cancel, line, held, running, requestCancel_point,
      settledMessages]

theorem line_closeWindow (running : state.currentTask = some task)
    (keeps : state.losesMessages task .debounceTimeout = false)
    (closes : state.closeWindow task = some after) :
    after.line = state.line := by
  obtain ⟨point, requested, lastMsg⟩ := task
  rw [line_of_task running]
  cases requested <;> simp only [closeWindow] at closes
  · cases point with
    | collecting buffer =>
      cases closes
      exact line_afterCollect state lastMsg buffer keeps
    | draining batch followups =>
      cases closes
      exact line_startTurn state lastMsg (batch ++ followups)
    | _ => cases closes
  · cases closes

theorem line_endResume (running : state.currentTask = some task) {result : ResumeResult}
    (keeps : state.losesMessages task (.resumeEnds result) = false)
    (ends : state.endResume task result = some after) :
    after.line = state.line := by
  obtain ⟨point, requested, lastMsg⟩ := task
  rw [line_of_task running]
  cases point with
  | resuming buffer sessionId =>
    cases result with
    | returned accepted | turnPersistError =>
      cases ends
      exact line_dispatch state buffer (by simpa [losesMessages] using keeps)
    | raised | cancelled => simp [losesMessages] at keeps
  | _ => cases result <;> cases ends

theorem line_endAgent (running : state.currentTask = some task) {outcome : TurnOutcome}
    (ends : state.endAgent task outcome = some after) :
    after.line = state.line := by
  obtain ⟨point, requested, lastMsg⟩ := task
  rw [line_of_task running]
  cases point with
  | awaitingAgent batch agent | racing batch agent waiter
  | superseding batch msg agent =>
    cases agent <;> cases ends
    simp [LoopPoint.messages]
  | _ => cases ends

theorem line_waiterReceives (running : state.currentTask = some task)
    (receives : state.waiterReceives task = some after) :
    after.line = state.line := by
  obtain ⟨point, requested, lastMsg⟩ := task
  rw [line_of_task running]
  unfold waiterReceives at receives
  split at receives
  · rename_i batch agent msg rest racing queued
    cases receives
    simp only at racing
    subst racing
    simp [LoopPoint.messages, InboxWaiter.messages, queued]
  · cases receives

theorem continues_closeWindow (closes : state.closeWindow task = some after) :
    Continues state after := by
  obtain ⟨point, requested, lastMsg⟩ := task
  cases requested <;> simp only [closeWindow] at closes
  · cases point with
    | collecting buffer =>
      cases closes
      exact continues_afterCollect lastMsg buffer
    | draining batch followups =>
      cases closes
      exact continues_startTurn lastMsg _
    | _ => cases closes
  · cases closes

theorem continues_endResume {result : ResumeResult}
    (ends : state.endResume task result = some after) :
    Continues state after := by
  obtain ⟨point, requested, lastMsg⟩ := task
  cases point with
  | resuming buffer sessionId =>
    cases result with
    | returned accepted | turnPersistError =>
      cases ends
      exact continues_dispatch buffer
    | raised => cases ends; exact continues_endLoop
    | cancelled => cases ends; exact continues_onCancelled lastMsg
  | _ => cases result <;> cases ends

end Steps

end PoolState

def Action.messages : Action Msg → List Msg
  | .submit msg => [msg]
  | _ => []

/-- What one step does to the line, to the submissions and to the strays.
The line is reordered only when a message overtakes. -/
structure Advances (state : PoolState Msg) (action : Action Msg)
    (after : PoolState Msg) : Prop where
  line : after.line = state.line ++ action.messages ∨
    ((∃ task ∈ state.currentTask, state.overtakes task = true) ∧
      action = .loopStep ∧ after.line.Perm state.line)
  submitted : after.submittedMessages = state.submittedMessages ++ action.messages
  strays : after.strays = state.strays
  spared : ∀ task ∈ after.currentTask, task.cancelRequested = true →
    task.point.losesOnCancel = false

section Advances

variable {state after : PoolState Msg} {action : Action Msg}

open PoolState

/-- A stretch of `process_loop` that keeps the line. -/
theorem Advances.of_continues (quiet : action.messages = []) (lineEq : after.line = state.line)
    (continues : state.Continues after) : Advances state action after where
  line := .inl (by simp [quiet, lineEq])
  submitted := by simp [quiet, continues.submitted]
  strays := continues.strays
  spared := fun task live requested => by
    simp [continues.fresh task live] at requested

theorem Advances.of_frame (quiet : action.messages = []) (lineEq : after.line = state.line)
    (submittedEq : after.submittedMessages = state.submittedMessages)
    (straysEq : after.strays = state.strays)
    (spared : ∀ task ∈ after.currentTask, task.cancelRequested = true →
      task.point.losesOnCancel = false) : Advances state action after where
  line := .inl (by simp [quiet, lineEq])
  submitted := by simp [quiet, submittedEq]
  strays := straysEq
  spared := spared

theorem advances_loopStep {task : LoopTask Msg} (kept : Kept state)
    (running : state.currentTask = some task)
    (keeps : KeepsMessages state .loopStep)
    (resumes : state.resumeLoop task = some after) :
    Advances state .loopStep after := by
  have spared := kept.spared task running
  have step := resumes_of_resumeLoop resumes
  have continues := step.continues spared
  rcases step.line_eq (keeps task running) spared with inOrder | overtaken
  · refine .of_continues rfl ?_ continues
    rw [inOrder, line_of_task running]
  · refine ⟨.inr ⟨⟨task, running, overtaken.1⟩, rfl, ?_⟩, ?_, continues.strays, ?_⟩
    · rw [line_of_task running]
      exact overtaken.2
    · simp [Action.messages, continues.submitted]
    · intro next live requested
      simp [continues.fresh next live] at requested

theorem advances_submit (kept : Kept state) (msg : Msg) :
    Advances state (.submit msg) (state.submit msg) where
  line := .inl (line_submit msg)
  submitted := by
    unfold submit
    split <;> simp [suspend, PoolEvent.submittedMessages, Action.messages]
  strays := by
    unfold submit
    split <;> rfl
  spared := by
    unfold submit
    split
    · rintro task live
      cases live
      simp
    · exact kept.spared

theorem advances_cancel (keeps : KeepsMessages state .cancel) :
    Advances state .cancel state.cancel := by
  refine .of_frame rfl line_cancel rfl rfl ?_
  intro task live requested
  obtain ⟨earlier, running, rfl⟩ := Option.map_eq_some_iff.mp live
  rw [requestCancel_point]
  exact keeps earlier running

theorem advances_endAgent {task : LoopTask Msg} (kept : Kept state)
    (running : state.currentTask = some task) {outcome : TurnOutcome}
    (ends : state.endAgent task outcome = some after) :
    Advances state (.agentEnds outcome) after := by
  have lineEq := line_endAgent running ends
  have spared := kept.spared task running
  obtain ⟨point, requested, lastMsg⟩ := task
  cases point with
  | awaitingAgent batch agent | racing batch agent waiter
  | superseding batch msg agent =>
    cases agent <;> cases ends
    refine .of_frame rfl lineEq rfl rfl ?_
    rintro next ⟨⟩
    exact spared
  | _ => cases ends

theorem advances_waiterReceives {task : LoopTask Msg} (kept : Kept state)
    (running : state.currentTask = some task)
    (receives : state.waiterReceives task = some after) :
    Advances state .waiterReceives after := by
  have lineEq := line_waiterReceives running receives
  have spared := kept.spared task running
  obtain ⟨point, requested, lastMsg⟩ := task
  unfold waiterReceives at receives
  split at receives
  · cases receives
    refine .of_frame rfl lineEq rfl rfl ?_
    rintro next ⟨⟩
    simp only at *
    subst point
    exact spared
  · cases receives

/-- The step lemma: an action within `KeepsMessages` only moves messages. -/
theorem advances_of_step (kept : Kept state) (keeps : KeepsMessages state action)
    (stepTo : step state action = some after) :
    Advances state action after := by
  cases action with
  | submit msg => cases stepTo; exact advances_submit kept msg
  | cancel => cases stepTo; exact advances_cancel keeps
  | setDebounce ms | setCancelOnNewMessage enabled
  | setAgentRegistered registered | queueResume sessionId =>
    cases stepTo
    exact .of_frame rfl rfl rfl rfl kept.spared
  | loopStep =>
    obtain ⟨task, running, resumes⟩ := Option.bind_eq_some_iff.mp stepTo
    exact advances_loopStep kept running keeps resumes
  | debounceTimeout =>
    obtain ⟨task, running, closes⟩ := Option.bind_eq_some_iff.mp stepTo
    exact .of_continues rfl (line_closeWindow running (keeps task running) closes)
      (continues_closeWindow closes)
  | resumeEnds result =>
    obtain ⟨task, running, ends⟩ := Option.bind_eq_some_iff.mp stepTo
    exact .of_continues rfl (line_endResume running (keeps task running) ends)
      (continues_endResume ends)
  | agentEnds outcome =>
    obtain ⟨task, running, ends⟩ := Option.bind_eq_some_iff.mp stepTo
    exact advances_endAgent kept running ends
  | waiterReceives =>
    obtain ⟨task, running, receives⟩ := Option.bind_eq_some_iff.mp stepTo
    exact advances_waiterReceives kept running receives
  | replyEnds =>
    obtain ⟨task, running, ends⟩ := Option.bind_eq_some_iff.mp stepTo
    obtain ⟨point, requested, lastMsg⟩ := task
    cases point <;> cases ends
    refine .of_continues rfl ?_ continues_endLoop
    simp [line_of_task running, LoopPoint.messages]
  | strayReceives index =>
    have noWaiters := congrArg Prod.fst kept.noStrays
    simp only [strays] at noWaiters
    simp [step, strayReceives, noWaiters] at stepTo
  | strayTurnEnds index outcome =>
    have noTurns := congrArg Prod.snd kept.noStrays
    simp only [strays] at noTurns
    simp [step, strayTurnEnds, noTurns] at stepTo

theorem Kept.next (kept : Kept state) (keeps : KeepsMessages state action)
    (stepTo : step state action = some after) : Kept after := by
  have advances := advances_of_step kept keeps stepTo
  refine ⟨?_, advances.strays.trans kept.noStrays, advances.spared⟩
  rw [advances.submitted]
  rcases advances.line with inOrder | ⟨_, rfl, overtaken⟩
  · rw [inOrder]
    exact kept.line.append_right _
  · simpa [Action.messages] using overtaken.trans kept.line

end Advances

open PoolState in
theorem kept_of_reachable {state : PoolState Msg}
    (reached : (system Msg).ReachableWithin KeepsMessages state) :
    Kept state := by
  refine reached.invariant ?_ fun _ _ _ kept keeps stepTo =>
    kept.next keeps stepTo
  rintro state ⟨inboxEmpty, idle, noWaiters, noTurns, fresh⟩
  refine ⟨?_, by simp [strays, noWaiters, noTurns], by simp [idle]⟩
  simp [line, held, settledMessages, submittedMessages, inboxEmpty, idle, fresh]

/-- Every submitted message is in the inbox, in the buffer of the live loop
or in a batch of a turn that the loop is done with, and no ended loop has left
a task waiting on the inbox. -/
def MessagesAccounted (state : PoolState Msg) : Prop := (state.inbox ++ state.held ++
      (state.settledMessages ++ state.strayTurns.flatMap Prod.fst)).Perm
    state.submittedMessages ∧ state.strayWaiters = []

instance [DecidableEq Msg] (state : PoolState Msg) :
    Decidable (MessagesAccounted state) := by
  unfold MessagesAccounted
  infer_instance

/-- No message is lost in a run that `KeepsMessages`. -/
theorem messagesAccounted_of_reachable {state : PoolState Msg}
    (reached : (system Msg).ReachableWithin KeepsMessages state) :
    MessagesAccounted state := by
  obtain ⟨line, noStrays, -⟩ := kept_of_reachable reached
  obtain ⟨noWaiters, noTurns⟩ := Prod.mk.inj noStrays
  refine ⟨?_, noWaiters⟩
  rw [noTurns, List.flatMap_nil, List.append_nil]
  refine .trans ?_ line
  calc
    (state.inbox ++ state.held ++ state.settledMessages).Perm
        (state.settledMessages ++ (state.inbox ++ state.held)) :=
      List.perm_append_comm
    _ |>.Perm (state.settledMessages ++ (state.held ++ state.inbox)) :=
      List.perm_append_comm.append_left _
    _ = state.line := (List.append_assoc ..).symm

/-- A turn is superseded by the second message and the merged turn ends. -/
theorem messagesAccounted_of_superseded_turn : MessagesAccounted
      ({ debounceMs := 0
         cancelOnNewMessage := true
         history := [.submitted 1, .turnStarted [1], .submitted 2, .turnStarted [1, 2],
            .batchSettled [1, 2] .finished] } : PoolState Nat) :=
  messagesAccounted_of_reachable <| .of_checkedRun { debounceMs := 0, cancelOnNewMessage := true }
    (.start ⟨rfl, rfl, rfl, rfl, rfl⟩)
    [.submit 1, .loopStep, .submit 2, .waiterReceives, .loopStep,
      .agentEnds .cancelled, .loopStep, .agentEnds .finished, .loopStep,
      .loopStep]
    (by decide)

/-- `Pool.cancel` during `asyncio.wait` leaves the inbox waiter behind; it
takes the next message, and the loop started for that message finds the inbox
empty and ends. -/
theorem exists_message_lost_after_cancel : ∃ state : PoolState Nat, (system Nat).Reachable state ∧
      state.isIdle = true ∧ 2 ∈ state.submittedMessages ∧ state.inbox = [] ∧
        2 ∉ state.history.flatMap PoolEvent.startedMessages ∧
        ¬ MessagesAccounted state :=
  TransitionSystem.exists_reachable_of_run { debounceMs := 0, cancelOnNewMessage := true }
    ⟨rfl, rfl, rfl, rfl, rfl⟩
    [.submit 1, .loopStep, .cancel, .loopStep, .replyEnds, .submit 2, .strayReceives 0, .loopStep]
    (by decide)

end Pool

end RoxabiFactory

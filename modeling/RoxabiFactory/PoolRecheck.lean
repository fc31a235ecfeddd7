import RoxabiFactory.PoolConservation

/-!
# When the loop of a pool looks at its inbox again

`Pool.submit` starts a loop only when none is live, so a message that arrives
while a loop is live depends on that loop for its processing.  A loop whose
cancellation or failure is already decided is past its last look at the
inbox.  `KeepsRechecking` describes the steps that do not leave a message
behind such a loop; one step satisfies it exactly when no message is stranded
after the step.
-/

namespace RoxabiFactory

namespace Pool

variable {Msg : Type*}

/-- What has been decided so far about the live loop takes it to another look
at the inbox. -/
def LoopTask.willRecheck (task : LoopTask Msg) : Bool :=
  match task.point with
  | .created | .collecting _ | .draining .. => !task.cancelRequested
  | .resuming .. => true
  | .awaitingAgent _ agent =>
    decide (agent = .running ∨ agent = .done .finished) && !task.cancelRequested
  | .racing _ agent _ =>
    decide (agent ≠ .done .cancelled) && !task.cancelRequested
  | .settling _ outcome => decide (outcome ≠ .cancelled)
  -- A pending request hides the exception of the superseded turn.
  | .superseding _ _ agent =>
    decide (agent ≠ .done .failed) || task.cancelRequested
  | .replying | .ended => false

/-- No message is stranded: behind a message in the inbox there is a live
loop that will look at the inbox again. -/
def Rechecked (state : PoolState Msg) : Prop := state.inbox ≠ [] →
    ∃ task, state.currentTask = some task ∧ task.willRecheck = true

/-- A request to cancel the task now reaches `process_loop` itself. -/
def LoopTask.doomedByCancel (task : LoopTask Msg) : Bool :=
  match task.point with
  | .created | .collecting _ | .racing .. | .draining .. => true
  | .awaitingAgent _ (.done _) => true
  | _ => false

/-- The outcome of the running turn would end the loop. -/
def LoopTask.doomedByOutcome (task : LoopTask Msg) (outcome : TurnOutcome) :
    Bool :=
  match task.point with
  | .awaitingAgent .. => decide (outcome ≠ .finished)
  | .racing .. => decide (outcome = .cancelled)
  | .superseding .. => decide (outcome = .failed) && !task.cancelRequested
  | _ => false

/-- The loop is about to put a message back on the inbox and to end with the
cancelled turn. -/
def LoopTask.putsBackAndEnds (task : LoopTask Msg) : Bool :=
  match task.point with
  | .racing _ (.done .cancelled) (.received _) => !task.cancelRequested
  | _ => false

/-- The action leaves a message behind a loop that will not look again. -/
def PoolState.strands (state : PoolState Msg) (task : LoopTask Msg) : Action Msg → Bool
  | .submit _ => !state.isIdle && !task.willRecheck
  | .cancel => !state.inbox.isEmpty && task.doomedByCancel
  | .loopStep => task.putsBackAndEnds
  | .agentEnds outcome =>
    !state.inbox.isEmpty && task.doomedByOutcome outcome
  | .resumeEnds result => !state.inbox.isEmpty && match result with
    | .returned _ | .turnPersistError => false
    | .raised | .cancelled => true
  | _ => false

/-- The condition under which a step strands no message: nothing is submitted
to a loop that is past its last look at the inbox, and no cancellation and no
escaping exception strikes the loop while messages are queued. -/
def KeepsRechecking (state : PoolState Msg) (action : Action Msg) : Prop :=
  ∀ task ∈ state.currentTask, state.strands task action = false

instance (state : PoolState Msg) (action : Action Msg) :
    Decidable (KeepsRechecking state action) := by
  unfold KeepsRechecking
  infer_instance

namespace PoolState

variable {state after : PoolState Msg} {task : LoopTask Msg}

theorem rechecked_of_empty (empty : state.inbox = []) : Rechecked state :=
  fun queued => absurd empty queued

theorem rechecked_iff_of_task (running : state.currentTask = some task) :
    Rechecked state ↔ state.inbox = [] ∨ task.willRecheck = true := by
  simp only [Rechecked, running, Option.some.injEq, exists_eq_left']
  exact imp_iff_not_or.trans (or_congr_left not_not)

theorem rechecked_iff_of_no_task (idle : state.currentTask = none) :
    Rechecked state ↔ state.inbox = [] := by
  simp [Rechecked, idle]

@[simp]
theorem rechecked_suspend : Rechecked (state.suspend task) ↔
      state.inbox = [] ∨ task.willRecheck = true :=
  rechecked_iff_of_task rfl

@[simp]
theorem rechecked_endLoop : Rechecked state.endLoop ↔ state.inbox = [] :=
  rechecked_iff_of_no_task rfl

section Fragments

variable (state : PoolState Msg) (lastMsg : Option (List Msg))
variable (buffer batch : List Msg) (outcome : TurnOutcome)

@[simp]
theorem rechecked_onCancelled : Rechecked (state.onCancelled lastMsg) ↔ state.inbox = [] := by
  cases lastMsg <;> simp [onCancelled, LoopTask.willRecheck]

/-- A turn that has just started is followed by another look, whatever the
mode. -/
@[simp]
theorem rechecked_startTurn : Rechecked (state.startTurn lastMsg batch) := by
  unfold startTurn
  split <;> simp [LoopTask.willRecheck]

theorem rechecked_dispatch : Rechecked (state.dispatch buffer) := by
  unfold dispatch
  split
  · exact rechecked_startTurn _ _ _
  · simp

theorem rechecked_afterCollect :
    Rechecked (state.afterCollect lastMsg buffer) := by
  unfold afterCollect
  split
  · simp [LoopTask.willRecheck]
  · exact rechecked_dispatch state buffer

theorem rechecked_loopTop : Rechecked (state.loopTop lastMsg) := by
  unfold loopTop
  split
  · simpa using ‹state.inbox.isEmpty = true›
  · split
    · exact rechecked_afterCollect _ _ _
    · simp

theorem rechecked_finishRace : Rechecked (state.finishRace lastMsg batch outcome) ↔
      state.inbox = [] ∨ outcome ≠ .cancelled := by
  cases outcome <;> simp [finishRace, rechecked_loopTop]

theorem rechecked_finishTurn : Rechecked (state.finishTurn lastMsg batch outcome) ↔
      state.inbox = [] ∨ outcome = .finished := by
  cases outcome <;> simp [finishTurn, rechecked_loopTop]

theorem rechecked_drainFollowups :
    Rechecked (state.drainFollowups lastMsg batch) := by
  unfold drainFollowups
  split <;> simp

end Fragments

/-- Resuming the loop strands a message exactly when the loop puts one back
and ends. -/
theorem Resumes.rechecked_iff (resumes : state.Resumes task after)
    (rechecked : state.inbox = [] ∨ task.willRecheck = true) :
    Rechecked after ↔ task.putsBackAndEnds = false := by
  cases resumes with
  | starts => simp [rechecked_loopTop, LoopTask.putsBackAndEnds]
  | collects _ | drains _ => simp [LoopTask.putsBackAndEnds]
  | turnEnds =>
    simpa [rechecked_finishTurn, LoopTask.putsBackAndEnds, LoopTask.willRecheck] using rechecked
  | @raceBoth batch outcome msg lastMsg =>
    cases outcome <;>
      simp [rechecked_finishRace, LoopTask.putsBackAndEnds]
  | raceMessage => simp [LoopTask.putsBackAndEnds, LoopTask.willRecheck]
  | raceAgent | settles =>
    simpa [rechecked_finishRace, LoopTask.putsBackAndEnds, LoopTask.willRecheck] using rechecked
  | superseded =>
    simp [rechecked_drainFollowups, LoopTask.putsBackAndEnds]
  | @raceCancelled batch agent waiter lastMsg =>
    have past : LoopTask.putsBackAndEnds ⟨.racing batch agent waiter, true, lastMsg⟩ = false := by
      unfold LoopTask.putsBackAndEnds
      split <;> rfl
    simpa [past, LoopTask.willRecheck] using rechecked
  | neverStarted | collectCancelled | turnCancelled | supersededFails
  | drainCancelled | replyCancelled =>
    simpa [LoopTask.putsBackAndEnds, LoopTask.willRecheck] using rechecked

theorem willRecheck_requestCancel (rechecks : task.willRecheck = true) :
    (requestCancel task).willRecheck = !task.doomedByCancel := by
  obtain ⟨point, requested, lastMsg⟩ := task
  cases point with
  | awaitingAgent batch agent =>
    cases agent with
    | running => simpa [requestCancel, LoopTask.willRecheck, LoopTask.doomedByCancel] using rechecks
    | done outcome => simp [requestCancel, LoopTask.willRecheck, LoopTask.doomedByCancel]
  | superseding batch msg agent =>
    cases agent <;> simp [requestCancel, LoopTask.willRecheck, LoopTask.doomedByCancel]
  | settling batch outcome => simpa [requestCancel, LoopTask.willRecheck,
      LoopTask.doomedByCancel] using rechecks
  | replying | ended => simp [LoopTask.willRecheck] at rechecks
  | _ => simp [requestCancel, LoopTask.willRecheck, LoopTask.doomedByCancel]

theorem rechecked_cancel (running : state.currentTask = some task) (rechecked : Rechecked state) :
    Rechecked state.cancel ↔ state.inbox = [] ∨ task.doomedByCancel = false := by
  have live : state.cancel.currentTask = some (requestCancel task) := by
    simp [cancel, running]
  rw [rechecked_iff_of_task live]
  refine or_congr_right' fun queued => ?_
  rw [willRecheck_requestCancel]
  · simp
  · exact ((rechecked_iff_of_task running).mp rechecked).resolve_left queued

theorem rechecked_endAgent (running : state.currentTask = some task)
    (rechecked : Rechecked state) {outcome : TurnOutcome}
    (ends : state.endAgent task outcome = some after) :
    Rechecked after ↔ state.inbox = [] ∨ task.doomedByOutcome outcome = false := by
  rw [rechecked_iff_of_task running] at rechecked
  obtain ⟨point, requested, lastMsg⟩ := task
  cases point with
  | awaitingAgent batch agent | racing batch agent waiter =>
    cases agent <;> cases ends
    rw [rechecked_suspend]
    refine or_congr_right' fun queued => ?_
    have calm := rechecked.resolve_left queued
    simp only [LoopTask.willRecheck, LoopTask.doomedByOutcome] at calm ⊢
    simpa using fun _ => calm
  | superseding batch msg agent =>
    cases agent <;> cases ends
    simp [LoopTask.willRecheck, LoopTask.doomedByOutcome, or_iff_not_imp_left]
  | _ => cases ends

theorem rechecked_closeWindow (closes : state.closeWindow task = some after) : Rechecked after := by
  obtain ⟨point, requested, lastMsg⟩ := task
  cases requested <;> simp only [closeWindow] at closes
  · cases point with
    | collecting buffer =>
      cases closes
      exact rechecked_afterCollect state lastMsg buffer
    | draining batch followups =>
      cases closes
      exact rechecked_startTurn state lastMsg _
    | _ => cases closes
  · cases closes

theorem rechecked_endResume {result : ResumeResult}
    (ends : state.endResume task result = some after) :
    Rechecked after ↔ state.strands task (.resumeEnds result) = false := by
  obtain ⟨point, requested, lastMsg⟩ := task
  cases point with
  | resuming buffer sessionId =>
    cases result with
    | returned accepted | turnPersistError =>
      cases ends
      simp [rechecked_dispatch, strands]
    | raised | cancelled => cases ends; simp [strands]
  | _ => cases result <;> cases ends

theorem rechecked_waiterReceives (running : state.currentTask = some task)
    (rechecked : Rechecked state)
    (receives : state.waiterReceives task = some after) :
    Rechecked after := by
  obtain ⟨point, requested, lastMsg⟩ := task
  unfold waiterReceives at receives
  split at receives
  · rename_i batch agent msg rest racing queued
    simp only at racing
    subst racing
    cases receives
    rw [rechecked_iff_of_task running, queued] at rechecked
    exact rechecked_suspend.mpr (.inr (rechecked.resolve_left (List.cons_ne_nil _ _)))
  · cases receives

theorem rechecked_submit (running : state.currentTask = some task) (msg : Msg) :
    Rechecked (state.submit msg) ↔ state.strands task (.submit msg) = false := by
  cases idle : state.isIdle with
  | true => simp [submit, strands, idle, LoopTask.willRecheck]
  | false =>
    have live : (state.submit msg).currentTask = some task := by
      simpa [submit, idle, record] using running
    rw [rechecked_iff_of_task live]
    simp [submit, strands, idle]

theorem rechecked_submit_of_no_task (idle : state.currentTask = none)
    (msg : Msg) : Rechecked (state.submit msg) := by
  have isIdle : state.isIdle = true := by simp [isIdle_iff, idle]
  simp [submit, isIdle, LoopTask.willRecheck]

end PoolState

section Steps

variable {state after : PoolState Msg} {action : Action Msg}

open PoolState

theorem keepsRechecking_iff_of_task {task : LoopTask Msg}
    (running : state.currentTask = some task) :
    KeepsRechecking state action ↔ state.strands task action = false := by
  simp [KeepsRechecking, running]

theorem Rechecked.frame (rechecked : Rechecked state)
    (taskEq : after.currentTask = state.currentTask)
    (emptied : state.inbox = [] → after.inbox = []) : Rechecked after := by
  intro queued
  rw [taskEq]
  exact rechecked fun empty => queued (emptied empty)

theorem Rechecked.strayReceives (rechecked : Rechecked state) {index : Nat}
    (receives : state.strayReceives index = some after) :
    Rechecked after := by
  unfold PoolState.strayReceives at receives
  split at receives
  · rename_i msg rest pending queued
    cases receives
    exact rechecked.frame rfl fun empty => by simp [empty] at queued
  · cases receives

theorem Rechecked.strayTurnEnds (rechecked : Rechecked state) {index : Nat} {outcome : TurnOutcome}
    (ends : state.strayTurnEnds index outcome = some after) :
    Rechecked after := by
  unfold PoolState.strayTurnEnds at ends
  split at ends
  · cases ends
    exact rechecked.frame rfl id
  · cases ends

theorem rechecked_replyEnds {task : LoopTask Msg}
    (running : state.currentTask = some task) (rechecked : Rechecked state)
    (stepTo : step state .replyEnds = some after) : Rechecked after := by
  simp only [step, running, Option.bind_some] at stepTo
  rw [rechecked_iff_of_task running] at rechecked
  obtain ⟨point, requested, lastMsg⟩ := task
  cases point <;> cases stepTo
  simpa [LoopTask.willRecheck] using rechecked

/-- A step from a state without a stranded message strands one exactly when
it violates `KeepsRechecking`. -/
theorem rechecked_after_iff (rechecked : Rechecked state)
    (stepTo : step state action = some after) :
    Rechecked after ↔ KeepsRechecking state action := by
  cases running : state.currentTask with
  | none =>
    refine iff_of_true ?_ (by simp [KeepsRechecking, running])
    cases action with
    | submit msg =>
      cases stepTo
      exact rechecked_submit_of_no_task running msg
    | cancel | setDebounce ms | setCancelOnNewMessage enabled
    | setAgentRegistered registered | queueResume sessionId =>
      cases stepTo
      exact rechecked.frame (by simp [cancel, running]) id
    | strayReceives index => exact rechecked.strayReceives stepTo
    | strayTurnEnds index outcome => exact rechecked.strayTurnEnds stepTo
    | _ => simp [step, running] at stepTo
  | some task =>
    rw [keepsRechecking_iff_of_task running]
    cases action with
    | submit msg => cases stepTo; exact rechecked_submit running msg
    | cancel =>
      cases stepTo
      simpa [strands, or_iff_not_imp_left] using
        rechecked_cancel running rechecked
    | setDebounce ms | setCancelOnNewMessage enabled
    | setAgentRegistered registered | queueResume sessionId =>
      cases stepTo
      exact iff_of_true (rechecked.frame rfl id) rfl
    | loopStep =>
      simp only [step, running, Option.bind_some] at stepTo
      exact (resumes_of_resumeLoop stepTo).rechecked_iff
        ((rechecked_iff_of_task running).mp rechecked)
    | debounceTimeout =>
      simp only [step, running, Option.bind_some] at stepTo
      exact iff_of_true (rechecked_closeWindow stepTo) rfl
    | resumeEnds result =>
      simp only [step, running, Option.bind_some] at stepTo
      exact rechecked_endResume stepTo
    | agentEnds outcome =>
      simp only [step, running, Option.bind_some] at stepTo
      simpa [strands, or_iff_not_imp_left] using
        rechecked_endAgent running rechecked stepTo
    | waiterReceives =>
      simp only [step, running, Option.bind_some] at stepTo
      exact iff_of_true (rechecked_waiterReceives running rechecked stepTo) rfl
    | replyEnds =>
      exact iff_of_true (rechecked_replyEnds running rechecked stepTo) rfl
    | strayReceives index =>
      exact iff_of_true (rechecked.strayReceives stepTo) rfl
    | strayTurnEnds index outcome =>
      exact iff_of_true (rechecked.strayTurnEnds stepTo) rfl

end Steps

/-- No message is stranded in a run that `KeepsRechecking`. -/
theorem rechecked_of_reachable {state : PoolState Msg}
    (reached : (system Msg).ReachableWithin KeepsRechecking state) :
    Rechecked state :=
  reached.invariant (fun _ ⟨inboxEmpty, _⟩ => PoolState.rechecked_of_empty inboxEmpty)
    fun _ _ _ rechecked keeps stepTo =>
      (rechecked_after_iff rechecked stepTo).mpr keeps

/-- A message that arrives during a turn of the mode that lets it finish has
the live loop behind it. -/
theorem rechecked_of_queued_message : Rechecked
      ({ inbox := [2]
         currentTask := some { point := .awaitingAgent [1] .running, lastMsg := some [1] }
         debounceMs := 0
         cancelOnNewMessage := false
         history := [.submitted 1, .turnStarted [1], .submitted 2] } :
        PoolState Nat) :=
  rechecked_of_reachable <| .of_checkedRun { debounceMs := 0, cancelOnNewMessage := false }
    (.start ⟨rfl, rfl, rfl, rfl, rfl⟩) [.submit 1, .loopStep, .submit 2]
    (by decide)

/-- An exception that `guarded_process_one` lets through ends the loop; the
message that arrived during the turn stays in the inbox of an idle pool. -/
theorem exists_message_stranded_after_failure :
    ∃ state : PoolState Nat, (system Nat).Reachable state ∧
      state.inbox = [2] ∧ state.isIdle = true ∧ ¬ Rechecked state := by
  have found : ∃ state, (system Nat).Reachable state ∧
      state.inbox = [2] ∧ state.currentTask = none :=
    TransitionSystem.exists_reachable_of_run { debounceMs := 0, cancelOnNewMessage := false }
      ⟨rfl, rfl, rfl, rfl, rfl⟩
      [.submit 1, .loopStep, .submit 2, .agentEnds .failed, .loopStep]
      (by decide)
  obtain ⟨state, reached, queued, idle⟩ := found
  refine ⟨state, reached, queued, ?_, ?_⟩
  · simp [PoolState.isIdle, idle]
  · simp [Rechecked, queued, idle]

end Pool

end RoxabiFactory

import RoxabiFactory.PoolConservation

/-!
# The order in which a pool processes its messages

The first `get`, the debouncer and the inbox waiter all take messages from
the front of the inbox, and the loop settles batches in the order in which it
collected them, so the line of `PoolConservation` starts in submission order
and stays so.  The one step that breaks it is the put-back after agent and
waiter have both ended: the message of the waiter is the oldest one, and
`put_nowait` makes it the newest.
-/

namespace RoxabiFactory

namespace Pool

variable {Msg : Type*}

/-- The condition under which a step loses nothing and does not put a message
back behind younger ones. -/
def KeepsOrder (state : PoolState Msg) (action : Action Msg) : Prop := KeepsMessages state action ∧
    (action = .loopStep → ∀ task ∈ state.currentTask, state.overtakes task = false)

instance [DecidableEq Msg] (state : PoolState Msg) (action : Action Msg) :
    Decidable (KeepsOrder state action) := by
  unfold KeepsOrder
  infer_instance

/-- The batches that were processed to the end, followed by the batch in hand
and by the inbox, are the submitted messages in submission order. -/
def ProcessedInOrder (state : PoolState Msg) : Prop :=
  state.settledMessages ++ state.held ++ state.inbox = state.submittedMessages

instance [DecidableEq Msg] (state : PoolState Msg) :
    Decidable (ProcessedInOrder state) := by
  unfold ProcessedInOrder
  infer_instance

section Steps

variable {state after : PoolState Msg} {action : Action Msg}

/-- A message is in order behind every message submitted before it. -/
theorem ProcessedInOrder.next (inOrder : ProcessedInOrder state)
    (kept : Kept state) (keeps : KeepsOrder state action)
    (stepTo : step state action = some after) : ProcessedInOrder after := by
  have advances := advances_of_step kept keeps.1 stepTo
  rcases advances.line with appended | ⟨⟨task, running, overtakes⟩, rfl, -⟩
  · calc
      after.line = state.line ++ action.messages := appended
      _ = state.submittedMessages ++ action.messages :=
        congrArg (· ++ action.messages) inOrder
      _ = after.submittedMessages := advances.submitted.symm
  · simp [keeps.2 rfl task running] at overtakes

end Steps

/-- The invariant of the runs that `KeepsOrder`. -/
structure KeptInOrder (state : PoolState Msg) : Prop extends Kept state where
  inOrder : ProcessedInOrder state

theorem keptInOrder_of_reachable {state : PoolState Msg}
    (reached : (system Msg).ReachableWithin KeepsOrder state) :
    KeptInOrder state := by
  refine reached.invariant ?_ ?_
  · intro state initially
    refine ⟨kept_of_reachable (.start initially), ?_⟩
    obtain ⟨inboxEmpty, idle, -, -, fresh⟩ := initially
    simp [ProcessedInOrder, PoolState.held, PoolState.settledMessages,
      PoolState.submittedMessages, inboxEmpty, idle, fresh]
  · intro state action after kept keeps stepTo
    exact ⟨kept.toKept.next keeps.1 stepTo, kept.inOrder.next kept.toKept keeps stepTo⟩

/-- Every run that `KeepsOrder` processes the messages in submission order,
each of them once.  In particular the settled batches are all there is when
the pool is idle and its inbox empty. -/
theorem processedInOrder_of_reachable {state : PoolState Msg}
    (reached : (system Msg).ReachableWithin KeepsOrder state) :
    ProcessedInOrder state ∧ (state.isIdle = true → state.inbox = [] →
        state.settledMessages = state.submittedMessages) := by
  have inOrder := (keptInOrder_of_reachable reached).inOrder
  refine ⟨inOrder, fun idle empty => ?_⟩
  simpa [ProcessedInOrder, PoolState.held_of_isIdle idle, empty] using inOrder

/-- The second message supersedes the first turn, the third one is processed
by the next loop. -/
theorem processedInOrder_of_superseded_turn : ProcessedInOrder
      ({ debounceMs := 0
         cancelOnNewMessage := true
         history := [.submitted 1, .turnStarted [1], .submitted 2, .turnStarted [1, 2],
            .batchSettled [1, 2] .finished, .submitted 3, .turnStarted [3],
            .batchSettled [3] .finished] } : PoolState Nat) :=
  (processedInOrder_of_reachable <| .of_checkedRun { debounceMs := 0, cancelOnNewMessage := true }
    (.start ⟨rfl, rfl, rfl, rfl, rfl⟩)
    [.submit 1, .loopStep, .submit 2, .waiterReceives, .loopStep,
      .agentEnds .cancelled, .loopStep, .agentEnds .finished, .loopStep,
      .loopStep, .submit 3, .loopStep, .agentEnds .finished, .loopStep,
      .loopStep]
    (by decide)).1

/-- Two messages arrive before the loop is resumed, and the turn ends in the
same moment: the second message is processed after the third. -/
theorem exists_message_overtaken : ∃ state : PoolState Nat,
      (system Nat).ReachableWithin (fun state action =>
        state.agentRegistered = true ∧ action ≠ .cancel) state ∧
      state.inbox = [] ∧ state.isIdle = true ∧
      state.submittedMessages = [1, 2, 3] ∧
      state.settledMessages = [1, 3, 2] ∧ ¬ ProcessedInOrder state :=
  ⟨{ debounceMs := 0
     cancelOnNewMessage := true
     history := [.submitted 1, .turnStarted [1], .submitted 2, .submitted 3,
        .batchSettled [1] .finished, .turnStarted [3, 2],
        .batchSettled [3, 2] .finished] },
    .of_checkedRun { debounceMs := 0, cancelOnNewMessage := true }
      (.start ⟨rfl, rfl, rfl, rfl, rfl⟩)
      [.submit 1, .loopStep, .submit 2, .submit 3, .waiterReceives,
        .agentEnds .finished, .loopStep, .agentEnds .finished, .loopStep,
        .loopStep]
      (by decide),
    rfl, rfl, rfl, rfl, by decide⟩

end Pool

end RoxabiFactory

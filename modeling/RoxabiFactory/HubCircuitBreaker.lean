import RoxabiFactory.CircuitBreaker
import RoxabiFactory.PythonExceptions

/-!
# The breaker of the hub

`circuit_breaker_drop` asks the breaker `claude-cli` before a message is
submitted to its pool; the outcome is recorded where the turn is executed.  A
turn that succeeds records a success, but of the ways in which a turn fails
only a `ProviderError` is recorded for this breaker.
-/

namespace RoxabiFactory

namespace HubCircuitBreaker

open ProbeLedger

/-- What interrupts a turn at one of its awaits. -/
inductive Interrupt
  | raises (exc : PyException)
  /-- `asyncio.wait_for` cancels `process_one`. -/
  | timesOut
  deriving DecidableEq

namespace Interrupt

/-- The exception that `process_one` sees. -/
def inner : Interrupt → PyException
  | raises exc => exc
  | timesOut => .cancelledError

/-- The exception that `guarded_process_one` sees. -/
def outer : Interrupt → PyException
  | raises exc => exc
  | timesOut => .timeoutError

end Interrupt

/-- How a turn goes until it ends; `reply` is what leaves the `safe_dispatch`
of its error reply. -/
inductive Turn
  /-- `_open_active_job` raises. -/
  | opens (exc : PyException)
  /-- `run_processor_pre` has replied that the command failed to prepare. -/
  | refused
  /-- At an await before the agent has answered: `append`, the system prompt,
  the processor or `agent.process`. -/
  | prepares (interrupt : Interrupt) (reply : Option PyException)
  /-- At the await of a result that is not streamed. -/
  | resolves (interrupt : Interrupt) (reply : Option PyException)
  /-- At the await of `dispatch_streaming`. -/
  | streams (interrupt : Interrupt) (reply : Option PyException)
  /-- The success is recorded; something may go wrong after that. -/
  | succeeds (later : Option (Interrupt × Option PyException))

/-- A record, with the name of its breaker. -/
abbrev Record := String × CircuitBreaker.Report

def recordCircuitSuccess : List Record := [("claude-cli", .success), ("hub", .success)]

def recordCircuitFailure (exc : PyException) : List Record := ("hub", .failure) ::
    if exc.isProviderError then [("claude-cli", .failure)] else []

/-- `isinstance(exc, _POOL_TURN_ERRORS)`. -/
def isPoolTurnErrorClass : PyException → Bool
  | .runtimeError _ | .valueError _ | .typeError _ | .keyError
  | .timeoutError | .connectionError _ | .osError _ => true
  | _ => false

/-- `is_provider_error` compares the name of the class. -/
def isProviderErrorName : PyException → Bool
  | .providerError name => name == "ProviderError"
  | _ => false

def isPoolTurnError (exc : PyException) : Bool :=
  isPoolTurnErrorClass exc || isProviderErrorName exc

/-- The `except` clauses of `guarded_process_one`. -/
def guardedExcept (exc : PyException) (reply : Option PyException) : List Record :=
  if exc = .timeoutError ∨ exc = .cancelledError then []
  else if exc.isException && isPoolTurnError exc then
    -- the reply is awaited before the failure is recorded
    if reply.isSome then [] else recordCircuitFailure exc
  else []

/-- What a turn records from the start of `guarded_process_one` to its end. -/
def guardedProcessOne : Turn → List Record
  | .opens _ | .refused => []
  | .prepares interrupt reply => guardedExcept interrupt.outer reply
  | .resolves interrupt reply =>
    (if isPoolTurnErrorClass interrupt.inner then
      recordCircuitFailure interrupt.inner
    else []) ++ guardedExcept interrupt.outer reply
  | .streams interrupt reply =>
    recordCircuitFailure interrupt.inner ++ guardedExcept interrupt.outer reply
  | .succeeds none => recordCircuitSuccess
  | .succeeds (some (interrupt, reply)) =>
    recordCircuitSuccess ++ guardedExcept interrupt.outer reply

/-- What a turn records for `claude-cli`. -/
def reports (turn : Turn) : List CircuitBreaker.Report :=
  (guardedProcessOne turn).filterMap fun record =>
    if record.1 = "claude-cli" then some record.2 else none

/-- An exact `ProviderError` leaves the turn, and its error reply is sent. -/
def ProviderFailure (interrupt : Interrupt) (reply : Option PyException) :
    Prop :=
  isProviderErrorName interrupt.outer = true ∧ reply = none

/-- The turn succeeds, or it ends by a `ProviderError` in one of the places
where that is recorded. -/
def Recorded : Turn → Prop
  | .succeeds _ => True
  | .streams interrupt reply =>
    interrupt.inner.isProviderError = true ∨ ProviderFailure interrupt reply
  | .prepares interrupt reply | .resolves interrupt reply =>
    ProviderFailure interrupt reply
  | .opens _ | .refused => False

instance (interrupt : Interrupt) (reply : Option PyException) :
    Decidable (ProviderFailure interrupt reply) :=
  inferInstanceAs (Decidable (_ ∧ _))

instance : ∀ turn, Decidable (Recorded turn)
  | .succeeds _ => .isTrue trivial
  | .streams interrupt reply => inferInstanceAs (Decidable (interrupt.inner.isProviderError = true ∨
        ProviderFailure interrupt reply))
  | .prepares interrupt reply | .resolves interrupt reply =>
    inferInstanceAs (Decidable (ProviderFailure interrupt reply))
  | .opens _ | .refused => .isFalse id

section Records

/-- Some record is for `claude-cli`. -/
def Reaches (records : List Record) : Prop := ∃ record ∈ records, record.1 = "claude-cli"

theorem reports_ne_nil_iff_reaches (turn : Turn) :
    reports turn ≠ [] ↔ Reaches (guardedProcessOne turn) := by
  constructor
  · intro some
    obtain ⟨outcome, member⟩ := List.exists_mem_of_ne_nil _ some
    obtain ⟨record, recorded, named⟩ := List.mem_filterMap.mp member
    refine ⟨record, recorded, ?_⟩
    by_contra other
    rw [if_neg other] at named
    cases named
  · rintro ⟨record, recorded, named⟩
    apply List.ne_nil_of_mem
    exact List.mem_filterMap.mpr ⟨record, recorded, if_pos named⟩

theorem reaches_append (before after : List Record) :
    Reaches (before ++ after) ↔ Reaches before ∨ Reaches after := by
  simp only [Reaches, List.mem_append, or_and_right, exists_or]

theorem not_reaches_nil : ¬ Reaches [] := by
  simp [Reaches]

theorem reaches_recordCircuitSuccess : Reaches recordCircuitSuccess := ⟨_, List.mem_cons_self, rfl⟩

theorem reaches_recordCircuitFailure_iff (exc : PyException) :
    Reaches (recordCircuitFailure exc) ↔ exc.isProviderError = true := by
  unfold recordCircuitFailure Reaches
  split <;> simp_all

theorem guardedExcept_eq_of_named {exc : PyException}
    (named : isProviderErrorName exc = true) (reply : Option PyException) :
    guardedExcept exc reply =
      if reply.isSome then [] else recordCircuitFailure exc := by
  cases exc with
  | providerError name =>
    simp [guardedExcept, PyException.isException, isPoolTurnError, named]
  | _ => cases named

theorem not_reaches_guardedExcept {exc : PyException}
    (unnamed : isProviderErrorName exc = false) (reply : Option PyException) :
    ¬ Reaches (guardedExcept exc reply) := by
  unfold guardedExcept
  split
  · exact not_reaches_nil
  · split
    · rename_i turnError
      split
      · exact not_reaches_nil
      · rw [reaches_recordCircuitFailure_iff]
        -- a subclass of `ProviderError` is no error of a pool turn
        intro provider
        cases exc with
        | providerError name =>
          simp [isPoolTurnError, isPoolTurnErrorClass, unnamed] at turnError
        | _ => cases provider
    · exact not_reaches_nil

theorem reaches_guardedExcept_iff (interrupt : Interrupt) (reply : Option PyException) :
    Reaches (guardedExcept interrupt.outer reply) ↔
      ProviderFailure interrupt reply := by
  unfold ProviderFailure
  cases named : isProviderErrorName interrupt.outer with
  | false =>
    exact iff_of_false (not_reaches_guardedExcept named reply) (by simp)
  | true =>
    rw [guardedExcept_eq_of_named named]
    have provider : interrupt.outer.isProviderError = true := by
      cases same : interrupt.outer with
      | providerError name => rfl
      | _ =>
        rw [same] at named
        cases named
    cases reply with
    | none => simp [reaches_recordCircuitFailure_iff, provider]
    | some left => simp [not_reaches_nil]

/-- A turn reports something exactly when it ends in one of the recorded
ways. -/
theorem reports_ne_nil_iff (turn : Turn) : reports turn ≠ [] ↔ Recorded turn := by
  rw [reports_ne_nil_iff_reaches]
  cases turn with
  | opens _ | refused => exact iff_of_false not_reaches_nil id
  | prepares interrupt reply => exact reaches_guardedExcept_iff interrupt reply
  | resolves interrupt reply =>
    have resolving : ¬ Reaches (if isPoolTurnErrorClass interrupt.inner then
        recordCircuitFailure interrupt.inner else []) := by
      split
      · rw [reaches_recordCircuitFailure_iff]
        cases same : interrupt.inner <;> simp_all [isPoolTurnErrorClass,
          PyException.isProviderError]
      · exact not_reaches_nil
    simp only [guardedProcessOne, reaches_append, resolving, false_or,
      reaches_guardedExcept_iff, Recorded]
  | streams interrupt reply =>
    simp only [guardedProcessOne, reaches_append,
      reaches_recordCircuitFailure_iff, reaches_guardedExcept_iff, Recorded]
  | succeeds later =>
    refine iff_of_true ?_ trivial
    cases later with
    | none => exact reaches_recordCircuitSuccess
    | some later =>
      rw [guardedProcessOne, reaches_append]
      exact .inl reaches_recordCircuitSuccess

end Records

/-- The turns of the messages that ask a new breaker `claude-cli`. -/
def hub (failureThreshold recoveryTimeout : Int) :
    TransitionSystem (State ℚ CircuitBreaker Turn CircuitBreaker.Report)
      (ProbeLedger.Action ℚ Turn) :=
  system CircuitBreaker.probeSlot reports (.create failureThreshold recoveryTimeout)

/-- The turn of a message that takes the probe ends in a recorded way. -/
def ProbesRecorded (state : State ℚ CircuitBreaker Turn CircuitBreaker.Report) :
    ProbeLedger.Action ℚ Turn → Prop
  | .enter turn => state.grants CircuitBreaker.probeSlot → Recorded turn
  | .advance _ | .tick _ => True

instance (state : State ℚ CircuitBreaker Turn CircuitBreaker.Report) :
    ∀ action, Decidable (ProbesRecorded state action)
  | .enter turn => inferInstanceAs (Decidable
      (state.grants CircuitBreaker.probeSlot → Recorded turn))
  | .advance _ | .tick _ => inferInstanceAs (Decidable True)

/-- When every turn that has the probe ends in a recorded way, every probe is
resolved by the end of its turn; and a turn that has the probe and ends in
another way has lost it. -/
theorem probesResolved_iff_recorded (failureThreshold recoveryTimeout : Int) :
    (∀ state, (hub failureThreshold recoveryTimeout).ReachableWithin ProbesRecorded state →
      ProbesResolved CircuitBreaker.probeSlot state) ∧
    ∀ (state : State ℚ CircuitBreaker Turn CircuitBreaker.Report) turn,
      state.grants CircuitBreaker.probeSlot → ¬ Recorded turn →
        ∃ after, (hub failureThreshold recoveryTimeout).run state
            [.enter turn, .advance state.running.length] = some after ∧
          ¬ ProbesResolved CircuitBreaker.probeSlot after := by
  constructor
  · intro state reached
    apply probesResolved_of_reachable
      (CircuitBreaker.valid_create failureThreshold recoveryTimeout) rfl
    refine reached.mono ?_
    intro state action recorded
    cases action with
    | enter turn => exact fun grants =>
      (reports_ne_nil_iff turn).mpr (recorded grants)
    | advance place => trivial
    | tick now => trivial
  · intro state turn grants unrecorded
    apply exists_lost_of_silent grants
    rw [← reports_ne_nil_iff] at unrecorded
    exact not_not.mp unrecorded

/-- A `ProviderError` opens the breaker, and the recovery time-out passes. -/
def recovering : List (ProbeLedger.Action ℚ Turn) :=
  [.enter (.resolves (.raises (.providerError "ProviderError")) none),
    .advance 0, .advance 0, .tick 60]

/-- The turn of the probe succeeds and is cancelled after that; two more
turns fail, and the next probe is in progress. -/
theorem probesResolved_of_successful_turn :
    ∃ state, (hub 1 60).ReachableWithin ProbesRecorded state ∧ state.breaker.probeInFlight = true ∧
      ProbesResolved CircuitBreaker.probeSlot state := by
  have found : ∃ state, (hub 1 60).ReachableWithin ProbesRecorded state ∧
      state.breaker.probeInFlight = true :=
    TransitionSystem.exists_reachableWithin_of_checkedRun
      { clock := 0, breaker := .create 1 60 } ⟨0, rfl⟩
      (recovering ++ [.enter (.succeeds (some (.raises .cancelledError, none))),
          .advance 0, .enter (.prepares .timesOut none), .advance 1,
          .enter (.streams (.raises (.providerError "ProviderAuthError")) none),
          .advance 1, .tick 120, .enter (.succeeds none)])
      (by decide +kernel)
  obtain ⟨state, reached, taken⟩ := found
  exact ⟨state, reached, taken, (probesResolved_iff_recorded 1 60).1 _ reached⟩

/-- The turn of the probe times out. -/
theorem exists_probe_lost_by_turn : ∃ state, (hub 1 60).Reachable state ∧
      ¬ ProbesResolved CircuitBreaker.probeSlot state := by
  have found : ∃ state, (hub 1 60).Reachable state ∧
      state.breaker.probeInFlight = true ∧ state.running.length = 0 :=
    TransitionSystem.exists_reachable_of_run { clock := 0, breaker := .create 1 60 } ⟨0, rfl⟩
      (recovering ++ [.enter (.resolves .timesOut none), .advance 0])
      (by decide +kernel)
  obtain ⟨state, reached, taken, idle⟩ := found
  refine ⟨state, reached, fun resolved => ?_⟩
  obtain ⟨call, member, -⟩ := resolved.running taken
  rw [List.length_eq_zero_iff.mp idle] at member
  cases member

end HubCircuitBreaker

end RoxabiFactory

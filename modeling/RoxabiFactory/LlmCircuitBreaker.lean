import RoxabiFactory.CircuitBreaker
import RoxabiFactory.CliStreamingParser
import RoxabiFactory.PythonExceptions

/-!
# The breaker around a provider

`CircuitBreakerDecorator` asks its breaker before a call and reports how the
call has ended.  `stream` reports on every result, and on the exceptions that
it names; `complete` reports only when the provider returns.  A call that is
the probe and reports nothing shuts the provider out for good.
-/

namespace RoxabiFactory

namespace LlmCircuitBreaker

open ProbeLedger

/-- How `self._inner.complete` ends. -/
inductive CompleteEnd
  | returns (ok : Bool)
  | raises (exc : PyException)
  deriving DecidableEq

/-- How the `async for` of `stream` ends. -/
inductive StreamEnd
  | exhausted
  /-- By the inner stream, or by the consumer while it waits at a `yield`. -/
  | raises (exc : PyException)
  deriving DecidableEq

/-- What a call that has been admitted meets. -/
inductive LlmCall
  | complete (ending : CompleteEnd)
  /-- With the events that the inner stream yields. -/
  | stream (events : List LlmEvent) (ending : StreamEnd)

/-- What `complete` reports. -/
def complete : CompleteEnd → List CircuitBreaker.Report
  | .returns true => [.success]
  | .returns false => [.failure]
  | .raises _ => []

/-- What `stream` reports on an event. -/
def eventReport : LlmEvent → Option CircuitBreaker.Report
  | .result isError _ _ _ _ =>
    some (if isError.truthy then .failure else .success)
  | _ => none

/-- What `stream` reports at its end, if it has not reported before. -/
def endReport : StreamEnd → List CircuitBreaker.Report
  | .exhausted => [.failure]
  | .raises exc =>
    if exc = .generatorExit ∨ exc = .cancelledError then [.release]
    else if exc.isOSError ∨ exc.isRuntimeError then [.failure]
    else []

/-- What `stream` reports; the flag is `outcome_recorded`. -/
def stream (recorded : Bool) (ending : StreamEnd) : List LlmEvent → List CircuitBreaker.Report
  | [] => if recorded then [] else endReport ending
  | event :: events =>
    match recorded, eventReport event with
    | false, some outcome => outcome :: stream true ending events
    | _, _ => stream recorded ending events

def reports : LlmCall → List CircuitBreaker.Report
  | .complete ending => complete ending
  | .stream events ending => stream false ending events

/-- The exceptions that the clauses of `stream` name. -/
def Named (exc : PyException) : Prop :=
  exc = .generatorExit ∨ exc = .cancelledError ∨ exc.isOSError = true ∨ exc.isRuntimeError = true

instance (exc : PyException) : Decidable (Named exc) := inferInstanceAs (Decidable (_ ∨ _ ∨ _ ∨ _))

/-- No exception leaves `complete`, and only a named one leaves `stream`
before it has seen a result. -/
def Handled : LlmCall → Prop
  | .complete (.returns _) => True
  | .complete (.raises _) => False
  | .stream events ending => (∃ event ∈ events, event.isResult = true) ∨
      ∀ exc, ending = .raises exc → Named exc

instance : ∀ call, Decidable (Handled call)
  | .complete (.returns _) => .isTrue trivial
  | .complete (.raises _) => .isFalse id
  | .stream events .exhausted => .isTrue (.inr (by simp))
  | .stream events (.raises exc) =>
    decidable_of_iff ((∃ event ∈ events, event.isResult = true) ∨ Named exc) (by simp [Handled])

theorem endReport_ne_nil_iff (ending : StreamEnd) :
    endReport ending ≠ [] ↔ ∀ exc, ending = .raises exc → Named exc := by
  cases ending with
  | exhausted => simp [endReport]
  | raises exc =>
    simp only [StreamEnd.raises.injEq, forall_eq', endReport, Named]
    by_cases closed : exc = .generatorExit ∨ exc = .cancelledError
    · rw [if_pos closed]
      exact iff_of_true (by simp) (by tauto)
    · rw [if_neg closed]
      by_cases failed : exc.isOSError = true ∨ exc.isRuntimeError = true
      · rw [if_pos failed]
        exact iff_of_true (by simp) (by tauto)
      · rw [if_neg failed]
        exact iff_of_false (by simp) (by tauto)

theorem isSome_eventReport (event : LlmEvent) : (eventReport event).isSome = event.isResult := by
  cases event <;> rfl

theorem stream_ne_nil_iff (ending : StreamEnd) (events : List LlmEvent) :
    stream false ending events ≠ [] ↔ (∃ event ∈ events, event.isResult = true) ∨
        ∀ exc, ending = .raises exc → Named exc := by
  induction events with
  | nil => simpa [stream] using endReport_ne_nil_iff ending
  | cons event events ih =>
    have result := isSome_eventReport event
    cases reported : eventReport event with
    | some outcome =>
      rw [reported] at result
      simp [stream, reported, ← result]
    | none =>
      rw [reported] at result
      have unfolded : stream false ending (event :: events) =
          stream false ending events := by
        simp only [stream, reported]
      rw [unfolded, ih]
      simp [← result]

/-- A call reports something exactly when it is handled. -/
theorem reports_ne_nil_iff (call : LlmCall) :
    reports call ≠ [] ↔ Handled call := by
  cases call with
  | complete ending =>
    cases ending with
    | returns ok => cases ok <;> simp [reports, complete, Handled]
    | raises exc => simp [reports, complete, Handled]
  | stream events ending => exact stream_ne_nil_iff ending events

/-- The calls of a decorator whose breaker is new. -/
def decorator (failureThreshold recoveryTimeout : Int) :
    TransitionSystem (State ℚ CircuitBreaker LlmCall CircuitBreaker.Report)
      (ProbeLedger.Action ℚ LlmCall) :=
  system CircuitBreaker.probeSlot reports (.create failureThreshold recoveryTimeout)

def ProbesHandled (state : State ℚ CircuitBreaker LlmCall CircuitBreaker.Report) :
    ProbeLedger.Action ℚ LlmCall → Prop
  | .enter call => state.grants CircuitBreaker.probeSlot → Handled call
  | .advance _ | .tick _ => True

/-- When every call that takes the probe is handled, every probe is resolved
by the end of its call; and a call that takes the probe and is not handled has
lost it at its end. -/
theorem probesResolved_iff_handled (failureThreshold recoveryTimeout : Int) :
    (∀ state, (decorator failureThreshold recoveryTimeout).ReachableWithin ProbesHandled state →
      ProbesResolved CircuitBreaker.probeSlot state) ∧
    ∀ (state : State ℚ CircuitBreaker LlmCall CircuitBreaker.Report) call,
      state.grants CircuitBreaker.probeSlot → ¬ Handled call →
        ∃ after, (decorator failureThreshold recoveryTimeout).run state
            [.enter call, .advance state.running.length] = some after ∧
          ¬ ProbesResolved CircuitBreaker.probeSlot after := by
  constructor
  · intro state reached
    apply probesResolved_of_reachable
      (CircuitBreaker.valid_create failureThreshold recoveryTimeout) rfl
    refine reached.mono ?_
    intro state action handled
    cases action with
    | enter call => exact fun grants =>
      (reports_ne_nil_iff call).mpr (handled grants)
    | advance place => trivial
    | tick now => trivial
  · intro state call grants unhandled
    apply exists_lost_of_silent grants
    rw [← reports_ne_nil_iff] at unhandled
    exact not_not.mp unhandled

instance (state : State ℚ CircuitBreaker LlmCall CircuitBreaker.Report) :
    ∀ action, Decidable (ProbesHandled state action)
  | .enter call => inferInstanceAs (Decidable
      (state.grants CircuitBreaker.probeSlot → Handled call))
  | .advance _ | .tick _ => inferInstanceAs (Decidable True)

/-- A failure opens the breaker, and the recovery time-out passes. -/
def recovering : List (ProbeLedger.Action ℚ LlmCall) :=
  [.enter (.complete (.returns false)), .advance 0, .advance 0, .tick 60]

/-- The consumer closes the stream that is the probe; the next probe is in
progress. -/
theorem probesResolved_of_closed_stream :
    ∃ state, (decorator 1 60).ReachableWithin ProbesHandled state ∧
      state.breaker.probeInFlight = true ∧
      ProbesResolved CircuitBreaker.probeSlot state := by
  have found : ∃ state, (decorator 1 60).ReachableWithin ProbesHandled state ∧
      state.breaker.probeInFlight = true :=
    TransitionSystem.exists_reachableWithin_of_checkedRun
      { clock := 0, breaker := .create 1 60 } ⟨0, rfl⟩
      (recovering ++ [.enter (.stream [.text (.str (.text "Hel"))]
          (.raises .generatorExit)), .advance 0, .advance 0,
        .enter (.complete (.returns true))])
      (by decide +kernel)
  obtain ⟨state, reached, taken⟩ := found
  exact ⟨state, reached, taken, (probesResolved_iff_handled 1 60).1 _ reached⟩

/-- The task of the probe is cancelled while `complete` waits for the
provider. -/
theorem exists_probe_lost_by_complete : ∃ state, (decorator 1 60).Reachable state ∧
      ¬ ProbesResolved CircuitBreaker.probeSlot state := by
  have found : ∃ state, (decorator 1 60).Reachable state ∧
      state.breaker.probeInFlight = true ∧ state.running.length = 0 :=
    TransitionSystem.exists_reachable_of_run { clock := 0, breaker := .create 1 60 } ⟨0, rfl⟩
      (recovering ++ [.enter (.complete (.raises .cancelledError)), .advance 0])
      (by decide +kernel)
  obtain ⟨state, reached, taken, idle⟩ := found
  refine ⟨state, reached, fun resolved => ?_⟩
  obtain ⟨call, member, -⟩ := resolved.running taken
  rw [List.length_eq_zero_iff.mp idle] at member
  cases member

end LlmCircuitBreaker

end RoxabiFactory

import Mathlib.Data.List.Infix
import RoxabiFactory.CircuitBreaker
import RoxabiFactory.PythonExceptions

/-!
# The breaker of an outbound platform

`dispatch_outbound_item` asks the breaker of the platform, delivers the item
with retries and then runs its callback.  The outcome is reported after a
delivery, on an exception that is no `Exception`, and at last, after the
callback, for a delivery that has failed.
-/

namespace RoxabiFactory

namespace OutboundCircuitBreaker

open ProbeLedger

inductive Kind
  | send
  | streaming
  | audio
  | audioStream
  | voiceStream
  | attachment
  deriving DecidableEq

/-- `_MAX_ATTEMPTS`. -/
def maxAttempts : Nat := 4

/-- What `getattr(exc, name, None)` finds. -/
inductive Attribute
  | none
  | int (value : Int)
  | other (truthy : Bool)
  deriving DecidableEq

/-- `first or second`. -/
def Attribute.or : Attribute → Attribute → Attribute
  | .int value, second => if value = 0 then second else .int value
  | .other true, _ => .other true
  | .none, second | .other false, second => second

/-- An exception of a delivery, with what `_is_transient_error` looks at. -/
structure DeliveryError where
  exc : PyException
  /-- `type(exc).__module__`. -/
  module : String := ""
  /-- `type(exc).__name__`. -/
  name : String := ""
  statusCode : Attribute := .none
  status : Attribute := .none
  deriving DecidableEq

def inModule (module top : String) : Bool :=
  module == top || (top ++ ".").toList.isPrefixOf module.toList

def hasInName (name part : String) : Bool :=
  decide (part.toList <:+: name.toList)

/-- `status == 429 or status >= 500`, for an `int`. -/
def isTransientStatus : Attribute → Bool
  | .int status => decide (status = 429 ∨ 500 ≤ status)
  | .none | .other _ => false

/-- `_is_transient_error`. -/
def isTransientError (error : DeliveryError) : Bool :=
  match error.exc with
  | .timeoutError | .connectionError _ => true
  | _ =>
    if inModule error.module "aiohttp" then true
    else if inModule error.module "aiogram" then
      if hasInName error.name "NetworkError" || hasInName error.name "ServerError" then true
      else if hasInName error.name "RetryAfter" then true
      else isTransientStatus (error.statusCode.or error.status)
    else if inModule error.module "discord" then
      if hasInName error.name "GatewayNotFound" || hasInName error.name "ConnectionClosed" then true
      else isTransientStatus error.status
    else false

/-- What an attempt meets: an exception of the adapter or of the drained
iterator, and one that interrupts the sleep before the next attempt. -/
structure Attempt where
  raised : Option DeliveryError := none
  interrupted : Option PyException := none

/-- What an item meets once it has been admitted. -/
structure Item where
  kind : Kind
  /-- The metadata of the outbound message say `_superseded`. -/
  superseded : Bool := false
  attempts : Nat → Attempt
  /-- The exception of the callback, or its cancellation. -/
  callback : Option PyException := none

/-- `_try_send`. -/
def trySend (item : Item) (attempt : Nat) : Except DeliveryError Bool :=
  match (item.attempts attempt).raised with
  | some error => .error error
  | none => .ok (item.kind ≠ .streaming || !item.superseded)

/-- How the delivery of an item ends. -/
inductive Delivery
  | returns (lastExc : Option DeliveryError)
  | raises (exc : PyException)
  deriving DecidableEq

/-- A failed attempt is followed by another one. -/
def retryPossible (item : Item) (attempt : Nat) (error : DeliveryError) :
    Bool :=
  isTransientError error && decide (attempt + 1 < maxAttempts) && item.kind == .send

/-- `_send_with_retry` from this attempt on, with this many attempts left. -/
def sendWithRetry (item : Item) : (left attempt : Nat) → List CircuitBreaker.Report × Delivery
  | 0, _ => ([], .returns none)
  | left + 1, attempt =>
    match trySend item attempt with
    | .ok sent => (if sent then [.success] else [], .returns none)
    | .error error =>
      if !error.exc.isException then ([.failure], .raises error.exc)
      else if retryPossible item attempt error then
        match (item.attempts attempt).interrupted with
        | some exc => ([], .raises exc)
        | none => sendWithRetry item left (attempt + 1)
      else ([], .returns (some error))

/-- `_handle_post_send`, up to what it reports. -/
def handlePostSend (item : Item) (lastExc : Option DeliveryError) : List CircuitBreaker.Report :=
  if item.callback.isSome then []
  else if lastExc.isSome then [.failure] else []

/-- What `dispatch_outbound_item` reports for an item that is admitted. -/
def dispatchOutboundItem (item : Item) : List CircuitBreaker.Report :=
  match sendWithRetry item maxAttempts 0 with
  | (reported, .raises _) => reported
  | (reported, .returns lastExc) => reported ++ handlePostSend item lastExc

/-- The attempt fails with an exception that is retried. -/
def Retried (item : Item) (attempt : Nat) : Prop :=
  ∃ error, (item.attempts attempt).raised = some error ∧
    error.exc.isException = true ∧ retryPossible item attempt error = true

/-- All attempts before this one are retried after a full sleep. -/
def ReachesAttempt (item : Item) (attempt : Nat) : Prop := ∀ before < attempt,
    Retried item before ∧ (item.attempts before).interrupted = none

def SupersededDrained (item : Item) : Prop := item.kind = .streaming ∧ item.superseded = true ∧
    (item.attempts 0).raised = none

def RetryInterrupted (item : Item) : Prop :=
  ∃ attempt, ReachesAttempt item attempt ∧ Retried item attempt ∧
    (item.attempts attempt).interrupted ≠ none

def CallbackFails (item : Item) : Prop := item.callback ≠ none ∧
    ∃ attempt, ReachesAttempt item attempt ∧ ¬ Retried item attempt ∧
      ∃ error, (item.attempts attempt).raised = some error ∧ error.exc.isException = true

/-- None of the three exits is taken that report nothing. -/
def Reported (item : Item) : Prop :=
  ¬ SupersededDrained item ∧ ¬ RetryInterrupted item ∧ ¬ CallbackFails item

section Attempts

variable {item : Item} {attempt : Nat}

/-- The loop does not go on after this attempt. -/
structure Stops (item : Item) (attempt : Nat) : Prop where
  reached : ReachesAttempt item attempt
  last : ¬ (Retried item attempt ∧ (item.attempts attempt).interrupted = none)

theorem Stops.le_of_reaches (stops : Stops item attempt) {other : Nat}
    (reaches : ReachesAttempt item other) : other ≤ attempt := by
  by_contra later
  exact stops.last (reaches attempt (by omega))

theorem Stops.retryInterrupted_iff (stops : Stops item attempt) : RetryInterrupted item ↔
      Retried item attempt ∧ (item.attempts attempt).interrupted ≠ none := by
  constructor
  · rintro ⟨other, reaches, retried, interrupted⟩
    rcases Nat.lt_or_eq_of_le (stops.le_of_reaches reaches) with before | rfl
    · exact absurd (stops.reached other before).2 interrupted
    · exact ⟨retried, interrupted⟩
  · rintro ⟨retried, interrupted⟩
    exact ⟨attempt, stops.reached, retried, interrupted⟩

theorem Stops.callbackFails_iff (stops : Stops item attempt) :
    CallbackFails item ↔ item.callback ≠ none ∧ ¬ Retried item attempt ∧
      ∃ error, (item.attempts attempt).raised = some error ∧ error.exc.isException = true := by
  unfold CallbackFails
  apply and_congr_right
  intro raises
  constructor
  · rintro ⟨other, reaches, final, failed⟩
    rcases Nat.lt_or_eq_of_le (stops.le_of_reaches reaches) with before | rfl
    · exact absurd (stops.reached other before).1 final
    · exact ⟨final, failed⟩
  · rintro ⟨final, failed⟩
    exact ⟨attempt, stops.reached, final, failed⟩

theorem ReachesAttempt.next (reaches : ReachesAttempt item attempt) (retried : Retried item attempt)
    (slept : (item.attempts attempt).interrupted = none) :
    ReachesAttempt item (attempt + 1) := by
  intro before earlier
  rcases Nat.lt_succ_iff_lt_or_eq.mp earlier with old | rfl
  · exact reaches before old
  · exact ⟨retried, slept⟩

theorem sendWithRetry_of_retried (retried : Retried item attempt)
    (slept : (item.attempts attempt).interrupted = none) (left : Nat) :
    sendWithRetry item (left + 1) attempt =
      sendWithRetry item left (attempt + 1) := by
  obtain ⟨error, raised, isException, possible⟩ := retried
  simp [sendWithRetry, trySend, raised, isException, possible, slept]

theorem sendWithRetry_of_stops (stops : Stops item attempt) (left : Nat) :
    sendWithRetry item (left + 1) attempt = sendWithRetry item 1 attempt := by
  unfold sendWithRetry
  split
  · rfl
  · rename_i error failed
    split
    · rfl
    · split
      · rename_i isException possible
        split
        · rfl
        · rename_i slept
          have raised : (item.attempts attempt).raised = some error := by
            unfold trySend at failed
            split at failed <;> simp_all
          exact absurd ⟨⟨error, raised, by simpa using isException, possible⟩, slept⟩
            stops.last
      · rfl

theorem exists_stop (item : Item) : ∀ left attempt,
    ReachesAttempt item attempt → attempt + (left + 1) = maxAttempts → ∃ stop, Stops item stop ∧
        sendWithRetry item (left + 1) attempt = sendWithRetry item 1 stop := by
  intro left
  induction left with
  | zero =>
    intro attempt reaches bound
    refine ⟨attempt, ⟨reaches, ?_⟩, rfl⟩
    rintro ⟨⟨error, -, -, possible⟩, -⟩
    simp only [retryPossible, Bool.and_eq_true, decide_eq_true_eq]
      at possible
    omega
  | succ left ih =>
    intro attempt reaches bound
    by_cases goesOn : Retried item attempt ∧ (item.attempts attempt).interrupted = none
    · rw [sendWithRetry_of_retried goesOn.1 goesOn.2]
      exact ih (attempt + 1) (reaches.next goesOn.1 goesOn.2) (by omega)
    · have stops : Stops item attempt := ⟨reaches, goesOn⟩
      exact ⟨attempt, stops, sendWithRetry_of_stops stops _⟩

theorem not_retried_of_streaming (streaming : item.kind = .streaming) : ¬ Retried item attempt := by
  rintro ⟨error, -, -, possible⟩
  simp [retryPossible, streaming] at possible

theorem Stops.eq_zero_of_streaming (stops : Stops item attempt)
    (streaming : item.kind = .streaming) : attempt = 0 := by
  by_contra later
  exact not_retried_of_streaming streaming (stops.reached 0 (Nat.pos_of_ne_zero later)).1

theorem not_retried_of_raised_none (fine : (item.attempts attempt).raised = none) :
    ¬ Retried item attempt := by
  rintro ⟨error, raised, -⟩
  rw [fine] at raised
  cases raised

theorem dispatchOutboundItem_eq_of_stops (stops : Stops item attempt) : dispatchOutboundItem item =
      match sendWithRetry item 1 attempt with
      | (reported, .raises _) => reported
      | (reported, .returns lastExc) =>
        reported ++ handlePostSend item lastExc := by
  obtain ⟨other, stopsThere, same⟩ :=
    exists_stop item 3 0 (by intro before none; omega) rfl
  have place : attempt = other := Nat.le_antisymm (stopsThere.le_of_reaches stops.reached)
      (stops.le_of_reaches stopsThere.reached)
  rw [dispatchOutboundItem, show maxAttempts = 3 + 1 from rfl, same, place]

end Attempts

/-- An item reports something exactly when it takes none of the three exits.
-/
theorem dispatchOutboundItem_ne_nil_iff (item : Item) :
    dispatchOutboundItem item ≠ [] ↔ Reported item := by
  obtain ⟨attempt, stops, -⟩ :=
    exists_stop item 3 0 (by intro before none; omega) rfl
  rw [dispatchOutboundItem_eq_of_stops stops, Reported,
    stops.retryInterrupted_iff, stops.callbackFails_iff]
  cases raised : (item.attempts attempt).raised with
  | none =>
    have final := not_retried_of_raised_none raised
    by_cases drained : item.kind = .streaming ∧ item.superseded = true
    · have first := stops.eq_zero_of_streaming drained.1
      have superseded : SupersededDrained item := ⟨drained.1, drained.2, first ▸ raised⟩
      refine iff_of_false (not_not.mpr ?_) fun reported =>
        reported.1 superseded
      cases item.callback <;>
        simp [sendWithRetry, trySend, raised, drained, handlePostSend]
    · have sent : trySend item attempt = .ok true := by
        by_cases streaming : item.kind = .streaming
        · have fresh : item.superseded = false := by
            simpa [streaming] using drained
          simp [trySend, raised, fresh]
        · simp [trySend, raised, streaming]
      apply iff_of_true
      · simp [sendWithRetry, sent]
      · exact ⟨fun superseded => drained ⟨superseded.1, superseded.2.1⟩,
          fun interrupted => final interrupted.1, by simp⟩
  | some error =>
    have fresh : ¬ SupersededDrained item := by
      rintro ⟨streaming, -, fine⟩
      rw [← stops.eq_zero_of_streaming streaming, raised] at fine
      cases fine
    by_cases isException : error.exc.isException = true
    · by_cases retried : Retried item attempt
      · have interrupted : (item.attempts attempt).interrupted ≠ none :=
          fun slept => stops.last ⟨retried, slept⟩
        refine iff_of_false (not_not.mpr ?_) fun reported =>
          reported.2.1 ⟨retried, interrupted⟩
        obtain ⟨other, same, -, possible⟩ := retried
        obtain rfl := Option.some.inj (raised.symm.trans same)
        obtain ⟨exc, left⟩ := Option.ne_none_iff_exists'.mp interrupted
        simp [sendWithRetry, trySend, raised, isException, possible, left]
      · have impossible : retryPossible item attempt error = false := by
          by_contra possible
          exact retried ⟨error, raised, isException, by simpa using possible⟩
        cases callback : item.callback with
        | none =>
          refine iff_of_true ?_ ⟨fresh, fun interrupted =>
            retried interrupted.1, by simp⟩
          simp [sendWithRetry, trySend, raised, isException, impossible, handlePostSend, callback]
        | some exc =>
          refine iff_of_false (not_not.mpr ?_) fun reported =>
            reported.2.2 ⟨by simp, retried, error, rfl, isException⟩
          simp [sendWithRetry, trySend, raised, isException, impossible, handlePostSend, callback]
    · have notRetried : ¬ Retried item attempt := by
        rintro ⟨other, same, fine, -⟩
        obtain rfl := Option.some.inj (raised.symm.trans same)
        exact isException fine
      refine iff_of_true ?_ ⟨fresh, fun interrupted =>
        notRetried interrupted.1, ?_⟩
      · simp [sendWithRetry, trySend, raised, isException]
      · rintro ⟨-, -, other, same, fine⟩
        obtain rfl := Option.some.inj same
        exact isException fine

instance (item : Item) : Decidable (Reported item) :=
  decidable_of_iff _ (dispatchOutboundItem_ne_nil_iff item)

/-- The items that ask the new breaker of their platform. -/
def dispatcher (failureThreshold recoveryTimeout : Int) :
    TransitionSystem (State ℚ CircuitBreaker Item CircuitBreaker.Report)
      (ProbeLedger.Action ℚ Item) :=
  system CircuitBreaker.probeSlot dispatchOutboundItem (.create failureThreshold recoveryTimeout)

/-- An item that takes the probe takes none of the three exits. -/
def ProbesReported (state : State ℚ CircuitBreaker Item CircuitBreaker.Report) :
    ProbeLedger.Action ℚ Item → Prop
  | .enter item => state.grants CircuitBreaker.probeSlot → Reported item
  | .advance _ | .tick _ => True

instance (state : State ℚ CircuitBreaker Item CircuitBreaker.Report) :
    ∀ action, Decidable (ProbesReported state action)
  | .enter item => inferInstanceAs (Decidable
      (state.grants CircuitBreaker.probeSlot → Reported item))
  | .advance _ | .tick _ => inferInstanceAs (Decidable True)

/-- When every item that has the probe takes none of the three exits, every
probe is resolved by the time its item has been handled; and an item that has
the probe and takes one of them has lost it. -/
theorem probesResolved_iff_reported (failureThreshold recoveryTimeout : Int) :
    (∀ state, (dispatcher failureThreshold recoveryTimeout).ReachableWithin ProbesReported state →
      ProbesResolved CircuitBreaker.probeSlot state) ∧
    ∀ (state : State ℚ CircuitBreaker Item CircuitBreaker.Report) item,
      state.grants CircuitBreaker.probeSlot → ¬ Reported item →
        ∃ after, (dispatcher failureThreshold recoveryTimeout).run state
            [.enter item, .advance state.running.length] = some after ∧
          ¬ ProbesResolved CircuitBreaker.probeSlot after := by
  constructor
  · intro state reached
    apply probesResolved_of_reachable
      (CircuitBreaker.valid_create failureThreshold recoveryTimeout) rfl
    refine reached.mono ?_
    intro state action reported
    cases action with
    | enter item => exact fun grants =>
      (dispatchOutboundItem_ne_nil_iff item).mpr (reported grants)
    | advance place => trivial
    | tick now => trivial
  · intro state item grants unreported
    apply exists_lost_of_silent grants
    rw [← dispatchOutboundItem_ne_nil_iff] at unreported
    exact not_not.mp unreported

/-- An item whose attempts all raise this exception. -/
def failing (kind : Kind) (exc : PyException) : Item where
  kind := kind
  attempts _ := { raised := some { exc := exc } }

/-- A delivery fails, and the recovery time-out passes. -/
def recovering : List (ProbeLedger.Action ℚ Item) :=
  [.enter (failing .audio (.valueError "ValueError")), .advance 0, .advance 0, .tick 60]

/-- The probe is sent after three time-outs; another item is cancelled, and
the next probe is in progress. -/
theorem probesResolved_of_retried_send :
    ∃ state, (dispatcher 1 60).ReachableWithin ProbesReported state ∧
      state.breaker.probeInFlight = true ∧
      ProbesResolved CircuitBreaker.probeSlot state := by
  have found : ∃ state, (dispatcher 1 60).ReachableWithin ProbesReported state ∧
      state.breaker.probeInFlight = true :=
    TransitionSystem.exists_reachableWithin_of_checkedRun
      { clock := 0, breaker := .create 1 60 } ⟨0, rfl⟩
      (recovering ++ [.enter
          { kind := .send
            attempts := fun attempt =>
              if attempt < 3 then { raised := some { exc := .timeoutError } }
              else { } },
          .advance 0, .enter (failing .streaming .cancelledError), .advance 0,
          .advance 0, .advance 0, .tick 120,
          .enter { kind := .attachment, attempts := fun _ => { } }])
      (by decide +kernel)
  obtain ⟨state, reached, taken⟩ := found
  exact ⟨state, reached, taken, (probesResolved_iff_reported 1 60).1 _ reached⟩

/-- The stream of the probe has been superseded. -/
theorem exists_probe_lost_by_superseded_stream : ∃ state, (dispatcher 1 60).Reachable state ∧
      ¬ ProbesResolved CircuitBreaker.probeSlot state := by
  have found : ∃ state, (dispatcher 1 60).Reachable state ∧
      state.breaker.probeInFlight = true ∧ state.running.length = 0 :=
    TransitionSystem.exists_reachable_of_run { clock := 0, breaker := .create 1 60 } ⟨0, rfl⟩
      (recovering ++ [.enter
          { kind := .streaming
            superseded := true
            attempts := fun _ => { } },
          .advance 0])
      (by decide +kernel)
  obtain ⟨state, reached, taken, idle⟩ := found
  refine ⟨state, reached, fun resolved => ?_⟩
  obtain ⟨call, member, -⟩ := resolved.running taken
  rw [List.length_eq_zero_iff.mp idle] at member
  cases member

end OutboundCircuitBreaker

end RoxabiFactory

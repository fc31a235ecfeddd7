import Mathlib.Tactic.Linarith
import RoxabiFactory.TransitionSystem

/-!
# The breaker of the worker-pool client

Asking `NatsCircuitBreaker.is_open` takes the probe of a half-open breaker,
and only a recorded success or failure gives it back.  Streams, routed calls
that find no worker and calls that raise record nothing.  What the registry
answers and what the transport returns are left to the environment.
-/

namespace RoxabiFactory

namespace WorkerPoolClient

def failureThreshold : Nat := 3

def recoveryTimeout : ℚ := 60

/-- `NatsCircuitBreaker`; the breaker is closed when `openUntil` is zero. -/
structure Breaker where
  failures : Nat := 0
  openUntil : ℚ := 0
  halfOpenProbe : Bool := false
  deriving DecidableEq

namespace Breaker

/-- `is_open`, with the breaker that it leaves. -/
def isOpen (breaker : Breaker) (now : ℚ) : Bool × Breaker :=
  if breaker.openUntil = 0 then (false, breaker)
  else if now < breaker.openUntil then (true, breaker)
  else if breaker.halfOpenProbe then (true, breaker)
  else (false, { breaker with halfOpenProbe := true })

def recordSuccess (breaker : Breaker) : Breaker :=
  { breaker with failures := 0, openUntil := 0, halfOpenProbe := false }

def recordFailure (breaker : Breaker) (now : ℚ) : Breaker :=
  let failures := breaker.failures + 1
  if failures ≥ failureThreshold then
    { failures := failures
      openUntil := now + recoveryTimeout
      halfOpenProbe := false }
  else { breaker with failures := failures }

/-- The recovery time-out of an opened breaker has passed. -/
def HalfOpen (breaker : Breaker) (now : ℚ) : Prop := breaker.openUntil ≠ 0 ∧ breaker.openUntil ≤ now

instance (breaker : Breaker) (now : ℚ) : Decidable (breaker.HalfOpen now) :=
  inferInstanceAs (Decidable (_ ∧ _))

end Breaker

/-- What a call in progress waits for. -/
inductive Kind
  | request
  /-- The workers after the one that is asked, and how many were asked
  before it. -/
  | routing (rest : List String) (attempt : Nat) (maxAttempts : Option Int)
  | streaming
  deriving DecidableEq

structure Call where
  kind : Kind
  /-- `is_open` gave the probe to this call. -/
  tookProbe : Bool
  deriving DecidableEq

structure State where
  clock : ℚ
  breaker : Breaker := {}
  /-- The calls in progress. -/
  calls : List Call := []
  deriving DecidableEq

inductive Action
  | request
  /-- `workers`: what `ordered_by_score` returns. -/
  | requestWithRouting (workers : List String) (maxAttempts : Option Int)
  /-- The first `__anext__` of `stream_request`. -/
  | streamRequest
  /-- `transport.call` returns an `Ok` or an `Err`. -/
  | returns (call : Nat) (ok : Bool)
  /-- An exception or a cancellation leaves the call. -/
  | raises (call : Nat)
  /-- The stream is exhausted or closed by its consumer. -/
  | streamEnds (call : Nat)
  | tick (now : ℚ)

/-- The head of the loop over the workers; `none` when the loop ends. -/
def nextAttempt (workers : List String) (attempt : Nat) (maxAttempts : Option Int) : Option Kind :=
  match workers with
  | [] => none
  | _ :: rest =>
    if maxAttempts.any fun limit => decide (limit ≤ (attempt : Int)) then none
    else some (.routing rest attempt maxAttempts)

namespace State

/-- A call asks the breaker; `kind` is what it waits for if it is admitted and
does not return at once. -/
def tryAdmit (state : State) (kind : Option Kind) : State :=
  let (isOpen, breaker) := state.breaker.isOpen state.clock
  if isOpen then { state with breaker := breaker }
  else
    { state with
      breaker := breaker
      calls := state.calls ++ kind.toList.map fun kind =>
        { kind := kind
          tookProbe := !state.breaker.halfOpenProbe && breaker.halfOpenProbe } }

/-- The result of `transport.call` is recorded. -/
def record (state : State) (ok : Bool) : State :=
  { state with
    breaker := if ok then state.breaker.recordSuccess
      else state.breaker.recordFailure state.clock }

def remove (state : State) (call : Nat) : State := { state with calls := state.calls.eraseIdx call }

def replace (state : State) (index : Nat) (call : Call) : State :=
  { state with calls := state.calls.set index call }

end State

def step (state : State) : Action → Option State
  | .request => some (state.tryAdmit (some .request))
  | .requestWithRouting workers maxAttempts =>
    some (state.tryAdmit (nextAttempt workers 0 maxAttempts))
  | .streamRequest => some (state.tryAdmit (some .streaming))
  | .returns index ok =>
    (state.calls[index]?).bind fun call =>
      match call.kind with
      | .request => some ((state.record ok).remove index)
      | .routing rest attempt maxAttempts =>
        match ok, nextAttempt rest (attempt + 1) maxAttempts with
        | false, some kind =>
          some ((state.record ok).replace index { call with kind := kind })
        | _, _ => some ((state.record ok).remove index)
      | .streaming => none
  | .raises index =>
    (state.calls[index]?).bind fun _ => some (state.remove index)
  | .streamEnds index =>
    (state.calls[index]?).bind fun call =>
      if call.kind = .streaming then some (state.remove index) else none
  | .tick now =>
    if state.clock < now then some { state with clock := now } else none

/-- The runs of one client; `time.monotonic` starts anywhere. -/
def client : TransitionSystem State Action where
  initial state := ∃ clock, state = { clock := clock }
  step := step

/-- The next call will take the probe. -/
def State.granting (state : State) : Prop :=
  state.breaker.HalfOpen state.clock ∧ state.breaker.halfOpenProbe = false

instance (state : State) : Decidable state.granting := inferInstanceAs (Decidable (_ ∧ _))

/-- The call that takes the probe is alone, reaches `transport.call` and
records what it returns; and the breaker becomes half-open when one call at
most is in progress. -/
def KeepsProbe (state : State) : Action → Prop
  | .request => state.granting → state.calls = []
  | .requestWithRouting workers maxAttempts => state.granting →
      state.calls = [] ∧ nextAttempt workers 0 maxAttempts ≠ none
  | .streamRequest => ¬ state.granting
  | .raises _ => state.breaker.halfOpenProbe = false
  | .tick now => state.breaker.HalfOpen now → state.calls.length ≤ 1
  | .returns _ _ | .streamEnds _ => True

variable {state after : State} {action : Action}

/-- The probe belongs to the only call in progress. -/
structure ProbeHeld (state : State) : Prop where
  probe : state.breaker.halfOpenProbe = true → state.breaker.HalfOpen state.clock ∧
      ∃ call, state.calls = [call] ∧ call.tookProbe = true ∧ call.kind ≠ .streaming
  single : state.breaker.HalfOpen state.clock → state.calls.length ≤ 1
  opened : state.breaker.openUntil ≠ 0 → failureThreshold ≤ state.breaker.failures

namespace ProbeHeld

theorem tryAdmit (held : ProbeHeld state) (kind : Option Kind)
    (alone : state.granting → state.calls = [])
    (records : state.granting → ∃ answered, kind = some answered ∧ answered ≠ .streaming) :
    ProbeHeld (state.tryAdmit kind) := by
  by_cases granting : state.granting
  · obtain ⟨⟨opened, passed⟩, untaken⟩ := granting
    obtain ⟨answered, rfl, answers⟩ := records ⟨⟨opened, passed⟩, untaken⟩
    have nothing := alone ⟨⟨opened, passed⟩, untaken⟩
    have admitted : state.breaker.isOpen state.clock =
        (false, { state.breaker with halfOpenProbe := true }) := by
      simp [Breaker.isOpen, opened, not_lt.mpr passed, untaken]
    simp only [State.tryAdmit, admitted, Bool.false_eq_true, if_false, nothing, untaken]
    refine ⟨fun _ => ⟨⟨opened, passed⟩, _, rfl, rfl, answers⟩,
      fun _ => Nat.le_refl 1, held.opened⟩
  · have same : (state.breaker.isOpen state.clock).2 = state.breaker := by
      unfold Breaker.isOpen
      split
      · rfl
      · split
        · rfl
        · split
          · rfl
          next opened passed taken =>
            exact absurd ⟨⟨opened, not_lt.mp passed⟩, Bool.eq_false_iff.mpr taken⟩ granting
    cases refused : (state.breaker.isOpen state.clock).1 with
    | true =>
      have kept : state.tryAdmit kind = state := by
        simp [State.tryAdmit, refused, same]
      rw [kept]
      exact held
    | false =>
      have closed : ¬ state.breaker.HalfOpen state.clock := by
        rintro ⟨opened, passed⟩
        cases probe : state.breaker.halfOpenProbe with
        | false => exact granting ⟨⟨opened, passed⟩, probe⟩
        | true =>
          simp [Breaker.isOpen, opened, not_lt.mpr passed, probe] at refused
      simp only [State.tryAdmit, refused, same, Bool.false_eq_true, if_false]
      exact ⟨fun taken => absurd (held.probe taken).1 closed,
        fun halfOpen => absurd halfOpen closed, held.opened⟩

/-- A recorded result closes the breaker, opens it for a while, or is counted
while it is closed. -/
theorem record (held : ProbeHeld state) (ok : Bool) :
    (state.record ok).breaker.halfOpenProbe = false ∧
      ¬ (state.record ok).breaker.HalfOpen state.clock ∧
      ((state.record ok).breaker.openUntil ≠ 0 →
        failureThreshold ≤ (state.record ok).breaker.failures) := by
  cases ok with
  | true => simp [State.record, Breaker.recordSuccess, Breaker.HalfOpen]
  | false =>
    simp only [State.record, Breaker.recordFailure, Bool.false_eq_true, if_false]
    by_cases opens : state.breaker.failures + 1 ≥ failureThreshold
    · rw [if_pos opens]
      refine ⟨rfl, fun halfOpen => ?_, fun _ => opens⟩
      have passed : state.clock + recoveryTimeout ≤ state.clock := halfOpen.2
      rw [recoveryTimeout] at passed
      linarith
    · have closed : state.breaker.openUntil = 0 := by
        by_contra opened
        have failures := held.opened opened
        omega
      rw [if_neg opens]
      refine ⟨?_, fun halfOpen => halfOpen.1 closed,
        fun opened => absurd closed opened⟩
      by_contra taken
      exact (held.probe (by simpa using taken)).1.1 closed

theorem recorded (held : ProbeHeld state) (ok : Bool) (calls : List Call) :
    ProbeHeld { state.record ok with calls := calls } := by
  obtain ⟨untaken, notHalfOpen, opened⟩ := held.record ok
  refine ⟨fun taken => ?_, fun halfOpen => absurd halfOpen notHalfOpen, opened⟩
  have taken' : (state.record ok).breaker.halfOpenProbe = true := taken
  simp [untaken] at taken'

theorem remove (held : ProbeHeld state)
    (untaken : state.breaker.halfOpenProbe = false) (index : Nat) :
    ProbeHeld (state.remove index) := by
  refine ⟨fun taken => ?_, fun halfOpen => ?_, held.opened⟩
  · have taken' : state.breaker.halfOpenProbe = true := taken
    simp [untaken] at taken'
  · have single := held.single halfOpen
    have fewer : (state.calls.eraseIdx index).length ≤ state.calls.length :=
      List.length_eraseIdx_le ..
    exact fewer.trans single

theorem tick (held : ProbeHeld state) {now : ℚ} (later : state.clock < now)
    (single : state.breaker.HalfOpen now → state.calls.length ≤ 1) :
    ProbeHeld { state with clock := now } := by
  refine ⟨fun taken => ?_, single, held.opened⟩
  obtain ⟨⟨opened, passed⟩, owner⟩ := held.probe taken
  exact ⟨⟨opened, passed.trans later.le⟩, owner⟩

theorem step (held : ProbeHeld state) (keeps : KeepsProbe state action)
    (stepTo : step state action = some after) : ProbeHeld after := by
  cases action with
  | request =>
    cases stepTo
    exact held.tryAdmit _ keeps fun _ => ⟨.request, rfl, by decide⟩
  | requestWithRouting workers maxAttempts =>
    cases stepTo
    refine held.tryAdmit _ (fun granting => (keeps granting).1)
      fun granting => ?_
    obtain ⟨kind, asks⟩ := Option.ne_none_iff_exists'.mp (keeps granting).2
    refine ⟨kind, asks, ?_⟩
    rintro rfl
    cases workers with
    | nil => cases asks
    | cons worker rest =>
      simp only [nextAttempt] at asks
      split at asks <;> cases asks
  | streamRequest =>
    cases stepTo
    exact held.tryAdmit _ (fun granting => absurd granting keeps)
      fun granting => absurd granting keeps
  | returns index ok =>
    obtain ⟨call, found, stepTo⟩ := Option.bind_eq_some_iff.mp stepTo
    split at stepTo
    · cases stepTo
      exact held.recorded ok _
    · split at stepTo
      · cases stepTo
        exact held.recorded false _
      · cases stepTo
        exact held.recorded _ _
    · cases stepTo
  | raises index =>
    obtain ⟨call, found, stepTo⟩ := Option.bind_eq_some_iff.mp stepTo
    cases stepTo
    exact held.remove keeps index
  | streamEnds index =>
    obtain ⟨call, found, stepTo⟩ := Option.bind_eq_some_iff.mp stepTo
    simp only [Option.ite_none_right_eq_some, Option.some.injEq] at stepTo
    obtain ⟨streaming, rfl⟩ := stepTo
    refine held.remove ?_ index
    by_contra taken
    obtain ⟨-, owner, alone, -, answers⟩ := held.probe (by simpa using taken)
    have member := List.mem_of_getElem? found
    rw [alone, List.mem_singleton] at member
    exact answers (member ▸ streaming)
  | tick now =>
    simp only [WorkerPoolClient.step, Option.ite_none_right_eq_some, Option.some.injEq] at stepTo
    obtain ⟨later, rfl⟩ := stepTo
    exact held.tick later keeps

end ProbeHeld

theorem probeHeld_of_reachable
    (reached : client.ReachableWithin KeepsProbe state) : ProbeHeld state := by
  have start : ∀ state, client.initial state → ProbeHeld state := by
    rintro _ ⟨clock, rfl⟩
    refine ⟨fun taken => ?_, fun _ => Nat.zero_le 1, fun opened => ?_⟩
    · cases taken
    · exact absurd rfl opened
  exact reached.invariant start fun _ _ _ held keeps stepTo =>
    held.step keeps stepTo

/-- What the breaker promises: a call is admitted when none is in progress and
the recovery time-out has passed, one call at most is in progress while it is
half-open, and the probe is given back by what its call records. -/
structure AdmitsAgain (state : State) : Prop where
  admitted : state.calls = [] → state.breaker.openUntil ≤ state.clock →
    (state.breaker.isOpen state.clock).1 = false
  single : state.breaker.HalfOpen state.clock → state.calls.length ≤ 1
  held : state.breaker.halfOpenProbe = true → ∃ call, state.calls = [call] ∧ call.tookProbe = true
  givenBack : ∀ action after, KeepsProbe state action →
    step state action = some after → state.breaker.halfOpenProbe = true →
      after.breaker.halfOpenProbe = false → ∃ index ok call, action = .returns index ok ∧
          state.calls[index]? = some call ∧ call.tookProbe = true

theorem State.admit_halfOpenProbe (kind : Option Kind)
    (taken : state.breaker.halfOpenProbe = true) :
    (state.tryAdmit kind).breaker.halfOpenProbe = true := by
  have kept : (state.breaker.isOpen state.clock).2.halfOpenProbe = true := by
    simp only [Breaker.isOpen, taken, if_true]
    split
    · exact taken
    · split <;> exact taken
  unfold State.tryAdmit
  split
  next isOpen breaker eq =>
    rw [eq] at kept
    split <;> exact kept

theorem admitsAgain_of_reachable (reached : client.ReachableWithin KeepsProbe state) :
    AdmitsAgain state := by
  have held := probeHeld_of_reachable reached
  refine ⟨fun idle passed => ?_, held.single, fun taken => ?_, ?_⟩
  · have untaken : state.breaker.halfOpenProbe = false := by
      by_contra taken
      obtain ⟨-, call, alone, -⟩ := held.probe (by simpa using taken)
      simp [idle] at alone
    simp only [Breaker.isOpen, not_lt.mpr passed, untaken, if_false]
    split <;> rfl
  · obtain ⟨-, call, alone, took, -⟩ := held.probe taken
    exact ⟨call, alone, took⟩
  · intro action after keeps stepTo taken given
    obtain ⟨-, owner, alone, took, -⟩ := held.probe taken
    cases action with
    | request | requestWithRouting | streamRequest =>
      cases stepTo
      simp [State.admit_halfOpenProbe _ taken] at given
    | returns index ok =>
      obtain ⟨call, found, -⟩ := Option.bind_eq_some_iff.mp stepTo
      have member := List.mem_of_getElem? found
      rw [alone, List.mem_singleton] at member
      exact ⟨index, ok, call, rfl, found, member ▸ took⟩
    | raises index =>
      have untaken : state.breaker.halfOpenProbe = false := keeps
      simp [taken] at untaken
    | streamEnds index =>
      obtain ⟨call, -, stepTo⟩ := Option.bind_eq_some_iff.mp stepTo
      simp only [Option.ite_none_right_eq_some, Option.some.injEq] at stepTo
      obtain ⟨-, rfl⟩ := stepTo
      simp [State.remove, taken] at given
    | tick now =>
      simp only [step, Option.ite_none_right_eq_some, Option.some.injEq] at stepTo
      obtain ⟨-, rfl⟩ := stepTo
      simp [taken] at given

instance decidableKeepsProbe (state : State) : ∀ action, Decidable (KeepsProbe state action)
  | .request => inferInstanceAs (Decidable (state.granting → state.calls = []))
  | .requestWithRouting workers maxAttempts => inferInstanceAs (Decidable (state.granting →
        state.calls = [] ∧ nextAttempt workers 0 maxAttempts ≠ none))
  | .streamRequest => inferInstanceAs (Decidable (¬ state.granting))
  | .raises _ => inferInstanceAs (Decidable (state.breaker.halfOpenProbe = false))
  | .tick now => inferInstanceAs (Decidable (state.breaker.HalfOpen now → state.calls.length ≤ 1))
  | .returns _ _ | .streamEnds _ => inferInstanceAs (Decidable True)

/-- Three failures open the breaker. -/
def opening : List Action := [.requestWithRouting ["a", "b", "c"] none, .returns 0 false,
    .returns 0 false, .returns 0 false]

/-- A probe that fails, and one that is in progress. -/
theorem admitsAgain_of_failed_probe : ∃ state, client.ReachableWithin KeepsProbe state ∧
      state.breaker.halfOpenProbe = true ∧ AdmitsAgain state := by
  have found : ∃ state, client.ReachableWithin KeepsProbe state ∧
      state.breaker.halfOpenProbe = true :=
    TransitionSystem.exists_reachableWithin_of_checkedRun { clock := 5 } ⟨5, rfl⟩
      (opening ++ [.streamRequest, .tick 65, .request, .request,
        .returns 0 false, .tick 125, .requestWithRouting ["a"] (some 1)])
      (by decide +kernel)
  obtain ⟨state, reached, taken⟩ := found
  exact ⟨state, reached, taken, admitsAgain_of_reachable reached⟩

/-- A routed call without a live worker takes the probe and returns: nothing
is in progress, the time-out has passed, and the next call is refused. -/
theorem exists_probe_lost : ∃ state, client.Reachable state ∧ state.calls = [] ∧
      state.breaker.openUntil ≤ state.clock ∧
      (state.breaker.isOpen state.clock).1 = true :=
  TransitionSystem.exists_reachable_of_run { clock := 5 } ⟨5, rfl⟩
    (opening ++ [.tick 65, .requestWithRouting [] none])
    (by decide +kernel)

end WorkerPoolClient

end RoxabiFactory

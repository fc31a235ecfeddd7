import Mathlib.Algebra.Order.Ring.Unbundled.Rat
import RoxabiFactory.ProbeLedger

/-!
# The circuit breaker

`CircuitBreaker` opens after a number of failures, refuses calls until the
recovery time-out has passed, and then admits one call as its probe.  Whoever
guards a service with it asks `is_open` and reports with `record_success`,
`record_failure` or `release_probe`.
-/

namespace RoxabiFactory

inductive CircuitState
  | closed
  | open
  | halfOpen
  deriving DecidableEq, Repr

structure CircuitBreaker where
  failureThreshold : Int := 5
  recoveryTimeout : Int := 60
  state : CircuitState := .closed
  failureCount : Nat := 0
  openedAt : Option ℚ := none
  probeInFlight : Bool := false
  deriving DecidableEq

namespace CircuitBreaker

/-- The end of `is_open`: claim the probe slot, if it is free. -/
def claimProbe (breaker : CircuitBreaker) : Bool × CircuitBreaker :=
  if breaker.probeInFlight then (true, breaker)
  else (false, { breaker with probeInFlight := true })

/-- `is_open`, with the breaker that it leaves. -/
def isOpen (breaker : CircuitBreaker) (now : ℚ) : Bool × CircuitBreaker :=
  match breaker.state, breaker.openedAt with
  | .closed, _ => (false, breaker)
  | .open, some openedAt =>
    if now - openedAt ≥ breaker.recoveryTimeout then
      { breaker with state := .halfOpen }.claimProbe
    else (true, breaker)
  | .open, none | .halfOpen, _ => breaker.claimProbe

def recordSuccess (breaker : CircuitBreaker) : CircuitBreaker :=
  if breaker.state ≠ .halfOpen then breaker
  else
    { breaker with
      state := .closed
      failureCount := 0
      openedAt := none
      probeInFlight := false }

def recordFailure (breaker : CircuitBreaker) (now : ℚ) : CircuitBreaker :=
  let failed :=
    { breaker with
      probeInFlight := false
      failureCount := breaker.failureCount + 1 }
  match breaker.state with
  | .halfOpen => { failed with state := .open, openedAt := some now }
  | .closed =>
    if (failed.failureCount : Int) ≥ breaker.failureThreshold then
      { failed with state := .open, openedAt := some now }
    else failed
  | .open => { failed with openedAt := some now }

def releaseProbe (breaker : CircuitBreaker) : CircuitBreaker :=
  { breaker with probeInFlight := false }

/-- The methods that resolve a probe. -/
inductive Report
  | success
  | failure
  | release
  deriving DecidableEq, Repr

def report (breaker : CircuitBreaker) (now : ℚ) : Report → CircuitBreaker
  | .success => breaker.recordSuccess
  | .failure => breaker.recordFailure now
  | .release => breaker.releaseProbe

/-- What the methods keep: an open breaker knows since when, and only a
half-open one has a probe in flight. -/
structure Valid (breaker : CircuitBreaker) : Prop where
  opened : breaker.state = .open → breaker.openedAt ≠ none
  probing : breaker.probeInFlight = true → breaker.state = .halfOpen

variable {breaker : CircuitBreaker} {now : ℚ}

theorem valid_claimProbe (halfOpen : breaker.state = .halfOpen) : breaker.claimProbe.2.Valid := by
  unfold claimProbe
  split <;> exact ⟨by simp [halfOpen], fun _ => halfOpen⟩

theorem valid_isOpen (valid : breaker.Valid) : (breaker.isOpen now).2.Valid := by
  unfold isOpen
  split
  case h_1 => exact valid
  case h_2 =>
    split
    · exact valid_claimProbe rfl
    · exact valid
  case h_3 opened never => exact absurd never (valid.opened opened)
  case h_4 halfOpen => exact valid_claimProbe halfOpen

theorem probeInFlight_claimProbe_of_refused (refused : breaker.claimProbe.1 = true) :
    breaker.claimProbe.2.probeInFlight = breaker.probeInFlight := by
  unfold claimProbe at refused ⊢
  split at refused
  · rename_i held
    simp [held]
  · cases refused

theorem probeInFlight_isOpen_of_refused (refused : (breaker.isOpen now).1 = true) :
    (breaker.isOpen now).2.probeInFlight = breaker.probeInFlight := by
  unfold isOpen at refused ⊢
  split at refused
  case h_1 => rfl
  case h_2 =>
    split at refused
    · rw [if_pos (by assumption)]
      exact probeInFlight_claimProbe_of_refused refused
    · rw [if_neg (by assumption)]
  case h_3 => exact probeInFlight_claimProbe_of_refused refused
  case h_4 => exact probeInFlight_claimProbe_of_refused refused

theorem probeInFlight_recordSuccess (valid : breaker.Valid) :
    breaker.recordSuccess.probeInFlight = false := by
  unfold recordSuccess
  split
  · rename_i elsewhere
    exact Bool.eq_false_iff.mpr fun held => elsewhere (valid.probing held)
  · rfl

theorem probeInFlight_recordFailure : (breaker.recordFailure now).probeInFlight = false := by
  unfold recordFailure
  dsimp only
  split
  · rfl
  · split <;> rfl
  · rfl

theorem probeInFlight_report (valid : breaker.Valid) (outcome : Report) :
    (breaker.report now outcome).probeInFlight = false := by
  cases outcome with
  | success => exact probeInFlight_recordSuccess valid
  | failure => exact probeInFlight_recordFailure
  | release => rfl

theorem opened_report (valid : breaker.Valid) (outcome : Report) :
    (breaker.report now outcome).state = .open → (breaker.report now outcome).openedAt ≠ none := by
  cases outcome with
  | success =>
    change breaker.recordSuccess.state = .open → breaker.recordSuccess.openedAt ≠ none
    unfold recordSuccess
    split
    · exact valid.opened
    · simp
  | failure =>
    change (breaker.recordFailure now).state = .open → (breaker.recordFailure now).openedAt ≠ none
    unfold recordFailure
    dsimp only
    split
    · simp
    · split <;> simp_all
    · simp
  | release => exact valid.opened

theorem valid_report (valid : breaker.Valid) (outcome : Report) :
    (breaker.report now outcome).Valid where
  opened := opened_report valid outcome
  probing held := by
    rw [probeInFlight_report valid outcome] at held
    cases held

def probeSlot : ProbeSlot ℚ CircuitBreaker Report where
  Valid := Valid
  held := probeInFlight
  ask := isOpen
  report := report
  valid_ask _ _ valid := valid_isOpen valid
  valid_report _ _ outcome valid := valid_report valid outcome
  held_report _ _ outcome valid := probeInFlight_report valid outcome
  held_of_refused _ _ refused := probeInFlight_isOpen_of_refused refused

/-- A new breaker. -/
def create (failureThreshold recoveryTimeout : Int) : CircuitBreaker where
  failureThreshold := failureThreshold
  recoveryTimeout := recoveryTimeout

theorem valid_create (failureThreshold recoveryTimeout : Int) :
    (create failureThreshold recoveryTimeout).Valid :=
  ⟨by rintro ⟨⟩, by rintro ⟨⟩⟩

end CircuitBreaker

end RoxabiFactory

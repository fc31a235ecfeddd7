import Mathlib.Tactic.Linarith
import RoxabiFactory.CircuitBreaker

/-!
# Runs of a circuit breaker

The callers of a breaker ask and report in any order.  A failure that leaves
the breaker open shuts it for the whole recovery time, whatever is reported
meanwhile.  A closed breaker counts every failure since it has been closed: a
success between two failures changes nothing.  What `get_status` promises is
what `is_open` does.
-/

namespace RoxabiFactory

/-- A snapshot of a breaker. -/
structure CircuitStatus where
  state : CircuitState
  failureCount : Nat
  retryAfter : Option ℚ

namespace CircuitBreaker

/-- The time left until the probe is `none` for a closed breaker. -/
def getStatus (breaker : CircuitBreaker) (now : ℚ) : CircuitStatus where
  state := breaker.state
  failureCount := breaker.failureCount
  retryAfter :=
    if breaker.state = .closed then none
    else breaker.openedAt.map fun openedAt => max 0 (breaker.recoveryTimeout - (now - openedAt))

/-- A call of one of the methods. -/
inductive Call
  | ask
  | report (outcome : Report)
  deriving DecidableEq

def serve (breaker : CircuitBreaker) (now : ℚ) : Call → CircuitBreaker
  | .ask => (breaker.isOpen now).2
  | .report outcome => breaker.report now outcome

/-- The breaker after calls at the given times. -/
def after (breaker : CircuitBreaker) (calls : List (ℚ × Call)) : CircuitBreaker :=
  calls.foldl (fun breaker call => breaker.serve call.1 call.2) breaker

variable {breaker : CircuitBreaker}

/-! ## The recovery time -/

/-- The breaker is open, and its last failure is not older than this. -/
structure OpenSince (failed : ℚ) (recoveryTimeout : Int) (breaker : CircuitBreaker) : Prop where
  timeout : breaker.recoveryTimeout = recoveryTimeout
  opened : breaker.state = .open
  since : ∃ openedAt, breaker.openedAt = some openedAt ∧ failed ≤ openedAt

theorem OpenSince.isOpen {failed now : ℚ} {recoveryTimeout : Int}
    (openSince : OpenSince failed recoveryTimeout breaker)
    (inside : now < failed + recoveryTimeout) : breaker.isOpen now = (true, breaker) := by
  obtain ⟨openedAt, openedEq, later⟩ := openSince.since
  have early : ¬ now - openedAt ≥ breaker.recoveryTimeout := by
    rw [openSince.timeout, not_le]
    linarith
  unfold CircuitBreaker.isOpen
  rw [openSince.opened, openedEq]
  exact if_neg early

theorem OpenSince.serve {failed now : ℚ} {recoveryTimeout : Int}
    (openSince : OpenSince failed recoveryTimeout breaker) (later : failed ≤ now)
    (inside : now < failed + recoveryTimeout) (call : Call) :
    OpenSince failed recoveryTimeout (breaker.serve now call) := by
  have opened := openSince.opened
  match call with
  | .ask =>
    rw [CircuitBreaker.serve, openSince.isOpen inside]
    exact openSince
  | .report .success =>
    have unchanged : breaker.recordSuccess = breaker := by simp [recordSuccess, opened]
    rw [CircuitBreaker.serve, report, unchanged]
    exact openSince
  | .report .failure =>
    refine ⟨?_, ?_, now, ?_, later⟩ <;>
      simp [CircuitBreaker.serve, report, recordFailure, opened, openSince.timeout]
  | .report .release => exact ⟨openSince.timeout, opened, openSince.since⟩

theorem OpenSince.after {failed : ℚ} {recoveryTimeout : Int} {calls : List (ℚ × Call)}
    (openSince : OpenSince failed recoveryTimeout breaker)
    (inside : ∀ call ∈ calls, failed ≤ call.1 ∧ call.1 < failed + recoveryTimeout) :
    OpenSince failed recoveryTimeout (breaker.after calls) := by
  induction calls generalizing breaker with
  | nil => exact openSince
  | cons call calls ih =>
    have first := inside call List.mem_cons_self
    exact ih (openSince.serve first.1 first.2 call.2) fun other member =>
      inside other (List.mem_cons_of_mem _ member)

theorem openSince_recordFailure {failed : ℚ}
    (opened : (breaker.recordFailure failed).state = .open) :
    OpenSince failed breaker.recoveryTimeout (breaker.recordFailure failed) := by
  unfold recordFailure at opened ⊢
  dsimp only at opened ⊢
  split at opened
  · exact ⟨rfl, rfl, failed, rfl, le_rfl⟩
  · rename_i isClosed
    split at opened
    · rename_i reached
      rw [if_pos reached]
      exact ⟨rfl, rfl, failed, rfl, le_rfl⟩
    · cases isClosed.symm.trans opened
  · exact ⟨rfl, opened, failed, rfl, le_rfl⟩

/-- A failure that leaves the breaker open shuts it: within the recovery time no
call is admitted, whatever else is asked and reported. -/
theorem refuses_until_recovery {failed now : ℚ}
    (opened : (breaker.recordFailure failed).state = .open) {calls : List (ℚ × Call)}
    (meanwhile : ∀ call ∈ calls, failed ≤ call.1 ∧ call.1 < failed + breaker.recoveryTimeout)
    (inside : now < failed + breaker.recoveryTimeout) :
    (((breaker.recordFailure failed).after calls).isOpen now).1 = true := by
  have openSince := (openSince_recordFailure opened).after meanwhile
  rw [openSince.isOpen inside]

/-! ## The threshold -/

/-- The failures among the calls. -/
def failures (calls : List (ℚ × Call)) : Nat :=
  calls.countP fun call => decide (call.2 = .report .failure)

theorem serve_of_closed (closed : breaker.state = .closed) (now : ℚ) {call : Call}
    (noFailure : call ≠ .report .failure) :
    (breaker.serve now call).state = .closed ∧
      (breaker.serve now call).failureCount = breaker.failureCount ∧
      (breaker.serve now call).failureThreshold = breaker.failureThreshold := by
  match call with
  | .ask => simp [serve, isOpen, closed]
  | .report .success => simp [serve, report, recordSuccess, closed]
  | .report .release => simp [serve, report, releaseProbe, closed]
  | .report .failure => exact absurd rfl noFailure

theorem recordFailure_of_closed (closed : breaker.state = .closed) (now : ℚ) :
    ((breaker.recordFailure now).state = .closed ↔
      (breaker.failureCount : Int) + 1 < breaker.failureThreshold) ∧
      (breaker.recordFailure now).failureCount = breaker.failureCount + 1 ∧
      (breaker.recordFailure now).failureThreshold = breaker.failureThreshold := by
  simp only [recordFailure, closed]
  split
  · rename_i reached
    push_cast at reached
    simpa using reached
  · rename_i below
    push_cast at below
    simpa [closed] using below

theorem staysClosed_iff (closed : breaker.state = .closed) (calls : List (ℚ × Call))
    (below : (breaker.failureCount : Int) < max breaker.failureThreshold 1) :
    (∀ count, (breaker.after (calls.take count)).state = .closed) ↔
      (breaker.failureCount + failures calls : Int) < max breaker.failureThreshold 1 := by
  induction calls generalizing breaker with
  | nil => simpa [failures, after, closed] using below
  | cons call calls ih =>
    have split : (∀ count, (breaker.after ((call :: calls).take count)).state = .closed) ↔
        ∀ count, ((breaker.serve call.1 call.2).after (calls.take count)).state = .closed := by
      constructor
      · exact fun all count => all (count + 1)
      · intro all count
        cases count with
        | zero => exact closed
        | succ count => exact all count
    rw [split]
    by_cases failed : call.2 = .report .failure
    · have counted : failures (call :: calls) = failures calls + 1 := by simp [failures, failed]
      obtain ⟨stays, count, threshold⟩ := recordFailure_of_closed closed call.1
      rw [failed, counted]
      change (∀ count, ((breaker.recordFailure call.1).after _).state = _) ↔ _
      by_cases more : (breaker.failureCount : Int) + 1 < breaker.failureThreshold
      · rw [ih (stays.mpr more) (by rw [count, threshold]; push_cast; omega), count, threshold]
        push_cast
        omega
      · refine iff_of_false (fun all => more (stays.mp (all 0))) ?_
        push_cast
        omega
    · have counted : failures (call :: calls) = failures calls := by simp [failures, failed]
      obtain ⟨stays, count, threshold⟩ := serve_of_closed closed call.1 failed
      rw [counted, ih stays (by rw [count, threshold]; exact below), count, threshold]

/-- A new breaker opens with the failure that reaches its threshold, and not
before; no success between the failures delays it. -/
theorem closed_iff (failureThreshold recoveryTimeout : Int) (calls : List (ℚ × Call)) :
    (∀ count, ((create failureThreshold recoveryTimeout).after (calls.take count)).state =
        .closed) ↔ (failures calls : Int) < max failureThreshold 1 := by
  have exactly := @staysClosed_iff (create failureThreshold recoveryTimeout) rfl calls
    (lt_max_of_lt_right zero_lt_one)
  simpa [create] using exactly

/-! ## The status -/

/-- What holds of a breaker after a call at this time: it knows since when it is
not closed, and it is half-open only after the recovery time. -/
structure Timed (breaker : CircuitBreaker) (now : ℚ) : Prop where
  valid : breaker.Valid
  closed : breaker.openedAt = none ↔ breaker.state = .closed
  recovered : breaker.state = .halfOpen → ∀ openedAt ∈ breaker.openedAt,
    (breaker.recoveryTimeout : ℚ) ≤ now - openedAt

namespace Timed

variable {now : ℚ}

theorem mono (timed : breaker.Timed now) {later : ℚ} (ordered : now ≤ later) :
    breaker.Timed later :=
  ⟨timed.valid, timed.closed, fun halfOpen openedAt member => by
    have earlier := timed.recovered halfOpen openedAt member
    linarith⟩

theorem create (failureThreshold recoveryTimeout : Int) (now : ℚ) :
    (create failureThreshold recoveryTimeout).Timed now :=
  ⟨valid_create _ _, iff_of_true rfl rfl, fun halfOpen => by cases halfOpen⟩

theorem claimProbe (timed : breaker.Timed now) (halfOpen : breaker.state = .halfOpen) :
    breaker.claimProbe.2.Timed now := by
  refine ⟨valid_claimProbe halfOpen, ?_, ?_⟩ <;> unfold CircuitBreaker.claimProbe <;> split
  · exact timed.closed
  · exact timed.closed
  · exact timed.recovered
  · exact timed.recovered

theorem isOpen (timed : breaker.Timed now) : (breaker.isOpen now).2.Timed now := by
  unfold CircuitBreaker.isOpen
  split
  case h_1 => exact timed
  case h_2 openedAt opened openedEq =>
    split
    · rename_i recovered
      refine claimProbe ⟨⟨by rintro ⟨⟩, fun _ => rfl⟩, ?_, ?_⟩ rfl
      · simp [openedEq]
      · simpa [openedEq] using recovered
    · exact timed
  case h_3 opened never => exact absurd never (timed.valid.opened opened)
  case h_4 halfOpen => exact timed.claimProbe halfOpen

theorem recordSuccess (timed : breaker.Timed now) : breaker.recordSuccess.Timed now := by
  refine ⟨@valid_report _ now timed.valid .success, ?_, ?_⟩ <;>
    unfold CircuitBreaker.recordSuccess <;> split
  · exact timed.closed
  · exact iff_of_true rfl rfl
  · exact timed.recovered
  · rintro ⟨⟩

theorem recordFailure (timed : breaker.Timed now) : (breaker.recordFailure now).Timed now := by
  have closed := timed.closed
  refine ⟨valid_report timed.valid .failure, ?_, ?_⟩ <;>
    unfold CircuitBreaker.recordFailure <;> dsimp only <;> split
  · simp
  · split <;> simp_all
  · simp_all
  · rintro ⟨⟩
  · split <;> simp_all
  · simp_all

theorem report (timed : breaker.Timed now) (outcome : Report) :
    (breaker.report now outcome).Timed now := by
  cases outcome with
  | success => exact timed.recordSuccess
  | failure => exact timed.recordFailure
  | release => exact ⟨valid_report timed.valid .release, timed.closed, timed.recovered⟩

theorem serve (timed : breaker.Timed now) (call : Call) : (breaker.serve now call).Timed now := by
  cases call with
  | ask => exact timed.isOpen
  | report outcome => exact timed.report outcome

theorem after (timed : breaker.Timed now) {calls : List (ℚ × Call)} {later : ℚ}
    (ordered : (now :: (calls.map Prod.fst ++ [later])).Pairwise (· ≤ ·)) :
    (breaker.after calls).Timed later := by
  induction calls generalizing breaker now with
  | nil => exact timed.mono (List.rel_of_pairwise_cons ordered List.mem_cons_self)
  | cons call calls ih =>
    obtain ⟨first, rest⟩ := List.pairwise_cons.mp ordered
    exact ih ((timed.mono (first call.1 List.mem_cons_self)).serve call.2) rest

end Timed

/-- After calls in the order of the clock, a breaker names no waiting time
exactly if it is closed, and refuses a call exactly if it names a positive one
or its probe is in flight. -/
theorem isOpen_iff_status (failureThreshold recoveryTimeout : Int) {calls : List (ℚ × Call)}
    {now : ℚ} (ordered : (calls.map Prod.fst ++ [now]).Pairwise (· ≤ ·)) :
    let breaker := (create failureThreshold recoveryTimeout).after calls
    ((breaker.getStatus now).retryAfter = none ↔ breaker.state = .closed) ∧
      ((breaker.isOpen now).1 = true ↔ breaker.probeInFlight = true ∨
        ∃ wait, (breaker.getStatus now).retryAfter = some wait ∧ 0 < wait) := by
  intro breaker
  have timed : breaker.Timed now := by
    cases calls with
    | nil => exact .create _ _ now
    | cons call calls =>
      exact ((Timed.create failureThreshold recoveryTimeout call.1).serve call.2).after ordered
  have probing := timed.valid.probing
  unfold getStatus isOpen
  cases state : breaker.state with
  | closed => simp_all
  | «open» =>
    obtain ⟨openedAt, openedEq⟩ := Option.ne_none_iff_exists'.mp (timed.valid.opened state)
    have noProbe : breaker.probeInFlight = false := by simpa [state] using probing
    simp only [openedEq]
    by_cases early : now - openedAt < breaker.recoveryTimeout
    · simp [noProbe, early.not_ge]
    · simp [noProbe, not_lt.mp early, CircuitBreaker.claimProbe]
  | halfOpen =>
    have known : breaker.openedAt ≠ none := timed.closed.not.mpr (by simp [state])
    obtain ⟨openedAt, openedEq⟩ := Option.ne_none_iff_exists'.mp known
    have recovered := timed.recovered state openedAt openedEq
    simp only [openedEq, CircuitBreaker.claimProbe]
    cases breaker.probeInFlight <;> simp_all

section Example

/-- The breaker of the default settings that has failed five times. -/
theorem refuses_after_five_failures :
    (((({ failureCount := 4 } : CircuitBreaker).recordFailure 0).after
      [(1, .ask), (2, .report .success)]).isOpen 59).1 = true :=
  refuses_until_recovery (by decide +kernel) (by decide +kernel) (by decide +kernel)

theorem refuses_after_a_success :
    (((create 1 60).after [(0, .report .failure), (1, .report .success)]).isOpen 30).1 = true :=
  (isOpen_iff_status 1 60 (by decide +kernel)).2.mpr (.inr ⟨30, by decide +kernel⟩)

end Example

end CircuitBreaker

end RoxabiFactory

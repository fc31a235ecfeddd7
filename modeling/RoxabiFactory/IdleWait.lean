import Mathlib.Algebra.BigOperators.Group.List.Basic
import Mathlib.Algebra.Order.Ring.Rat
import Mathlib.Tactic.Linarith

/-!
# Waiting for a chunk

A driver and an adapter wait for the next chunk in slices of at most five
seconds.  After a slice the adapter takes what is left of the idle time-out,
and the driver what is left of the whole stream, so that its last slice can go
on after the time-out.
-/

namespace RoxabiFactory

namespace IdleWait

/-- `LIVENESS_POLL_INTERVAL` and `_LIVENESS_POLL_SECONDS`. -/
def pollInterval : ℚ := 5

variable {Chunk : Type*}

/-- What a slice ends with. -/
inductive Turn (Chunk : Type*)
  | arrives (chunk : Chunk)
  /-- Nothing came, and the clock is that much late after the slice. -/
  | idle (alive : Bool) (late : {late : ℚ // 0 ≤ late})

inductive Outcome (Chunk : Type*)
  | chunk (chunk : Chunk)
  | unavailable
  | timedOut
  /-- The last slice has not ended. -/
  | waiting

structure Slice where
  start : ℚ
  poll : ℚ

/-- The loop of the driver's `_wait_for_chunk`; `watches` says that there is a
heartbeat subject. -/
def driverLoop (watches : Bool) (effectiveTimeout deadline : ℚ) (poll elapsedIdle now : ℚ) :
    List (Turn Chunk) → List Slice × Outcome Chunk
  | [] => ([⟨now, poll⟩], .waiting)
  | .arrives chunk :: _ => ([⟨now, poll⟩], .chunk chunk)
  | .idle alive late :: turns =>
    if watches && !alive then ([⟨now, poll⟩], .unavailable)
    else if effectiveTimeout ≤ elapsedIdle + poll then
      ([⟨now, poll⟩], .timedOut)
    else if deadline - (now + poll + late) ≤ 0 then ([⟨now, poll⟩], .timedOut)
    else
      let rest := driverLoop watches effectiveTimeout deadline
        (min pollInterval (deadline - (now + poll + late)))
        (elapsedIdle + poll) (now + poll + late) turns
      (⟨now, poll⟩ :: rest.1, rest.2)

/-- The driver's `_wait_for_chunk`. -/
def driverWaitForChunk (watches : Bool) (effectiveTimeout deadline now : ℚ)
    (turns : List (Turn Chunk)) : List Slice × Outcome Chunk :=
  driverLoop watches effectiveTimeout deadline (min pollInterval effectiveTimeout) 0 now turns

/-- The loop of the adapter's `_wait_for_chunk`. -/
def adapterLoop (watches : Bool) (chunkTimeout poll elapsedIdle : ℚ) :
    List (Turn Chunk) → List ℚ × Outcome Chunk
  | [] => ([poll], .waiting)
  | .arrives chunk :: _ => ([poll], .chunk chunk)
  | .idle alive _ :: turns =>
    if watches && !alive then ([poll], .unavailable)
    else if chunkTimeout ≤ elapsedIdle + poll then ([poll], .timedOut)
    else
      let rest := adapterLoop watches chunkTimeout
        (min pollInterval (chunkTimeout - (elapsedIdle + poll)))
        (elapsedIdle + poll) turns
      (poll :: rest.1, rest.2)

/-- The adapter's `_wait_for_chunk`. -/
def adapterWaitForChunk (watches : Bool) (chunkTimeout : ℚ)
    (turns : List (Turn Chunk)) : List ℚ × Outcome Chunk :=
  adapterLoop watches chunkTimeout (min pollInterval chunkTimeout) 0 turns

/-! ## What is promised -/

/-- A slice takes neither more than what remains of the time-out nor more than
what remains until the deadline. -/
def Fit (timeout deadline : ℚ) : ℚ → List Slice → Prop
  | _, [] => True
  | elapsed, slice :: slices =>
    slice.poll ≤ timeout - elapsed ∧ slice.poll ≤ deadline - slice.start ∧
      Fit timeout deadline (elapsed + slice.poll) slices

def delay : List (Turn Chunk) → ℚ
  | [] => 0
  | .arrives _ :: turns => delay turns
  | .idle _ late :: turns => late + delay turns

/-- The wait is bounded by its time-out, and the adapter would have waited the
same unless the deadline can come first. -/
structure Bounded (watches : Bool) (effectiveTimeout deadline now : ℚ)
    (turns : List (Turn Chunk)) : Prop where
  fit : Fit effectiveTimeout deadline 0
    (driverWaitForChunk watches effectiveTimeout deadline now turns).1
  sum_le : ((driverWaitForChunk watches effectiveTimeout deadline now
    turns).1.map (·.poll)).sum ≤ effectiveTimeout
  agrees : effectiveTimeout + delay turns ≤ deadline - now →
    ((driverWaitForChunk watches effectiveTimeout deadline now turns).1.map (·.poll),
      (driverWaitForChunk watches effectiveTimeout deadline now turns).2) =
        adapterWaitForChunk watches effectiveTimeout turns

def Turn.GoesOn (watches : Bool) : Turn Chunk → Prop
  | .arrives _ => False
  | .idle alive _ => (watches && !alive) = false

/-- After some whole slices with no end, less than a slice remains of the
time-out but more than that until the deadline. -/
def Overshoots (watches : Bool) (timeout remaining : ℚ) (turns : List (Turn Chunk)) : Prop :=
  ∃ whole : ℕ, pollInterval * whole < timeout ∧
    timeout < pollInterval * (whole + 1) ∧ whole ≤ turns.length ∧
      (∀ turn ∈ turns.take whole, turn.GoesOn watches) ∧
        timeout + delay (turns.take whole) < remaining

section Loop

variable {watches alive : Bool} {timeout deadline remaining elapsed now : ℚ}
variable {turns : List (Turn Chunk)} {late : {late : ℚ // 0 ≤ late}}

theorem overshoots_of_lt (some : 0 < timeout) (short : timeout < pollInterval) :
    Overshoots watches timeout remaining turns ↔ timeout < remaining := by
  constructor
  · rintro ⟨whole, before, -, -, -, after⟩
    cases whole with
    | zero => simpa [delay] using after
    | succ whole =>
      have : (0 : ℚ) ≤ whole := Nat.cast_nonneg _
      rw [pollInterval] at before short
      push_cast at before
      linarith
  · intro after
    exact ⟨0, by simpa using some, by simpa using short, Nat.zero_le _,
      by simp, by simpa [delay] using after⟩

theorem overshoots_idle (long : pollInterval < timeout) :
    Overshoots watches timeout remaining (.idle alive late :: turns) ↔ (watches && !alive) = false ∧
        Overshoots watches (timeout - pollInterval) (remaining - (pollInterval + late)) turns := by
  constructor
  · rintro ⟨whole, before, after, enough, goOn, later⟩
    cases whole with
    | zero =>
      simp only [Nat.cast_zero, zero_add, mul_one] at after
      exact absurd (long.trans after) (lt_irrefl _)
    | succ whole =>
      rw [List.take_succ_cons, List.forall_mem_cons] at goOn
      rw [List.take_succ_cons, delay] at later
      push_cast at before after
      refine ⟨goOn.1, whole, ?_, ?_, Nat.le_of_succ_le_succ enough, goOn.2, ?_⟩ <;> linarith
  · rintro ⟨first, whole, before, after, enough, goOn, later⟩
    refine ⟨whole + 1, ?_, ?_, Nat.succ_le_succ enough, ?_, ?_⟩
    · push_cast
      linarith
    · push_cast
      linarith
    · rw [List.take_succ_cons, List.forall_mem_cons]
      exact ⟨first, goOn⟩
    · rw [List.take_succ_cons, delay]
      linarith

theorem delay_nonneg (turns : List (Turn Chunk)) : 0 ≤ delay turns := by
  induction turns with
  | nil => exact le_rfl
  | cons turn turns ih =>
    cases turn with
    | arrives chunk => exact ih
    | idle alive late => exact add_nonneg late.2 ih

theorem not_overshoots_of_le (early : remaining ≤ timeout) :
    ¬ Overshoots watches timeout remaining turns := by
  rintro ⟨whole, -, -, -, -, later⟩
  have := delay_nonneg (turns.take whole)
  linarith

/-- The time-out is reached with a whole slice, or the first turn is the last
one. -/
theorem not_overshoots_of_ends (long : pollInterval ≤ timeout)
    (ends : timeout = pollInterval ∨ ∀ turn ∈ turns.head?, ¬ turn.GoesOn watches) :
    ¬ Overshoots watches timeout remaining turns := by
  rintro ⟨whole, before, after, enough, goOn, -⟩
  cases whole with
  | zero =>
    simp only [Nat.cast_zero, zero_add, mul_one] at after
    exact absurd (after.trans_le long) (lt_irrefl _)
  | succ whole =>
    rcases ends with rfl | ends
    · have : (0 : ℚ) ≤ whole := Nat.cast_nonneg _
      rw [pollInterval] at before
      push_cast at before
      linarith
    · cases turns with
      | nil => exact absurd enough (Nat.not_succ_le_zero _)
      | cons turn turns =>
        rw [List.take_succ_cons, List.forall_mem_cons] at goOn
        exact ends turn rfl goOn.1

theorem driverLoop_of_deadline (turns : List (Turn Chunk)) :
    (driverLoop watches timeout deadline (deadline - now) elapsed now
      turns).1 = [⟨now, deadline - now⟩] := by
  match turns with
  | [] => rfl
  | .arrives chunk :: turns => rfl
  | .idle alive late :: turns =>
    have isOver : deadline - (now + (deadline - now) + late) ≤ 0 := by
      have := late.2
      linarith
    simp only [driverLoop, if_pos isOver]
    split
    · rfl
    · split <;> rfl

theorem exists_driverLoop_eq (watches : Bool)
    (timeout deadline poll elapsed now : ℚ) (turns : List (Turn Chunk)) :
    ∃ later, (driverLoop watches timeout deadline poll elapsed now turns).1 =
      ⟨now, poll⟩ :: later := by
  match turns with
  | [] => exact ⟨[], rfl⟩
  | .arrives chunk :: turns => exact ⟨[], rfl⟩
  | .idle alive late :: turns =>
    rw [driverLoop]
    split
    · exact ⟨[], rfl⟩
    · split
      · exact ⟨[], rfl⟩
      · split
        · exact ⟨[], rfl⟩
        · exact ⟨_, rfl⟩

theorem fit_singleton {slice : Slice} : Fit timeout deadline elapsed [slice] ↔
      slice.poll ≤ timeout - elapsed ∧ slice.poll ≤ deadline - slice.start := by
  simp [Fit]

theorem fit_driverLoop_iff_of_short (unfinished : elapsed < timeout) (turns : List (Turn Chunk))
    (short : deadline - now ≤ pollInterval ∨ timeout - elapsed < pollInterval) :
    Fit timeout deadline elapsed (driverLoop watches timeout deadline
        (min pollInterval (deadline - now)) elapsed now turns).1 ↔
      ¬ Overshoots watches (timeout - elapsed) (deadline - now) turns := by
  by_cases little : timeout - elapsed < pollInterval
  · rw [overshoots_of_lt (by linarith) little, not_lt]
    rcases le_or_gt (deadline - now) pollInterval with cut | whole
    · rw [min_eq_right cut, driverLoop_of_deadline, fit_singleton]
      exact and_iff_left le_rfl
    · rw [min_eq_left whole.le]
      obtain ⟨later, slices⟩ := exists_driverLoop_eq watches timeout deadline
        pollInterval elapsed now turns
      rw [slices]
      refine iff_of_false (fun fit => ?_) (by linarith)
      exact absurd fit.1 (not_le.mpr little)
  · have cut := short.resolve_right little
    rw [min_eq_right cut, driverLoop_of_deadline, fit_singleton]
    exact iff_of_true ⟨cut.trans (not_lt.mp little), le_rfl⟩
      (not_overshoots_of_le (cut.trans (not_lt.mp little)))

theorem fit_driverLoop_iff (watches : Bool) (deadline now : ℚ)
    (unfinished : elapsed < timeout) (turns : List (Turn Chunk)) :
    Fit timeout deadline elapsed (driverLoop watches timeout deadline
        (min pollInterval (deadline - now)) elapsed now turns).1 ↔
      ¬ Overshoots watches (timeout - elapsed) (deadline - now) turns := by
  induction turns generalizing elapsed now with
  | nil =>
    by_cases short : deadline - now ≤ pollInterval ∨ timeout - elapsed < pollInterval
    · exact fit_driverLoop_iff_of_short unfinished _ short
    obtain ⟨whole, long⟩ := not_or.mp short
    rw [not_le] at whole
    rw [not_lt] at long
    rw [min_eq_left whole.le, driverLoop, fit_singleton]
    refine iff_of_true ⟨long, whole.le⟩ (not_overshoots_of_ends long (.inr ?_))
    rintro _ ⟨⟩
  | cons turn turns ih =>
    by_cases short : deadline - now ≤ pollInterval ∨ timeout - elapsed < pollInterval
    · exact fit_driverLoop_iff_of_short unfinished _ short
    obtain ⟨whole, long⟩ := not_or.mp short
    rw [not_le] at whole
    rw [not_lt] at long
    rw [min_eq_left whole.le]
    have one (slice : Slice) (isThis : slice = ⟨now, pollInterval⟩) :
        Fit timeout deadline elapsed [slice] := by
      rw [isThis, fit_singleton]
      exact ⟨long, whole.le⟩
    cases turn with
    | arrives chunk =>
      refine iff_of_true (one _ rfl) (not_overshoots_of_ends long (.inr ?_))
      rintro _ ⟨⟩ goesOn
      exact goesOn
    | idle alive late =>
      rw [driverLoop]
      by_cases lost : (watches && !alive) = true
      · rw [if_pos lost]
        refine iff_of_true (one _ rfl) (not_overshoots_of_ends long (.inr ?_))
        rintro _ ⟨⟩ goesOn
        rw [Turn.GoesOn, lost] at goesOn
        cases goesOn
      rw [if_neg lost]
      by_cases reached : timeout ≤ elapsed + pollInterval
      · rw [if_pos reached]
        exact iff_of_true (one _ rfl) (not_overshoots_of_ends long (.inl (by linarith)))
      rw [if_neg reached, overshoots_idle (by linarith),
        and_iff_right (Bool.eq_false_iff.mpr lost)]
      have elapsedEq : timeout - elapsed - pollInterval = timeout - (elapsed + pollInterval) :=
        sub_sub _ _ _
      have nowEq : deadline - now - (pollInterval + late) =
          deadline - (now + pollInterval + late) := by
        rw [sub_sub, add_assoc]
      rw [elapsedEq, nowEq]
      by_cases isOver : deadline - (now + pollInterval + late) ≤ 0
      · rw [if_pos isOver]
        refine iff_of_true (one _ rfl) (not_overshoots_of_le ?_)
        linarith
      · rw [if_neg isOver, ← ih _ (not_le.mp reached)]
        constructor
        · intro fit
          exact fit.2.2
        · intro fit
          exact ⟨long, whole.le, fit⟩

theorem sum_le_of_fit {slices : List Slice} (before : elapsed ≤ timeout)
    (fit : Fit timeout deadline elapsed slices) :
    elapsed + (slices.map (·.poll)).sum ≤ timeout := by
  induction slices generalizing elapsed with
  | nil => simpa using before
  | cons slice slices ih =>
    obtain ⟨now, -, later⟩ := fit
    have := ih (by linarith) later
    rw [List.map_cons, List.sum_cons]
    linarith

/-- A first slice that fits is that of the adapter, when the deadline comes
after the time-out. -/
theorem poll_eq_of_fit {turns : List (Turn Chunk)}
    (distant : timeout - elapsed + delay turns ≤ deadline - now)
    (fit : Fit timeout deadline elapsed (driverLoop watches timeout deadline
      (min pollInterval (deadline - now)) elapsed now turns).1) :
    min pollInterval (deadline - now) =
      min pollInterval (timeout - elapsed) := by
  obtain ⟨rest, slices⟩ := exists_driverLoop_eq watches timeout deadline
    (min pollInterval (deadline - now)) elapsed now turns
  rw [slices] at fit
  have := delay_nonneg turns
  exact le_antisymm (le_min (min_le_left _ _) fit.1) (min_le_min le_rfl (by linarith))

theorem agrees_driverLoop {turns : List (Turn Chunk)}
    (distant : timeout - elapsed + delay turns ≤ deadline - now)
    (fit : Fit timeout deadline elapsed (driverLoop watches timeout deadline
      (min pollInterval (deadline - now)) elapsed now turns).1) :
    ((driverLoop watches timeout deadline (min pollInterval (deadline - now))
        elapsed now turns).1.map (·.poll),
      (driverLoop watches timeout deadline (min pollInterval (deadline - now))
        elapsed now turns).2) =
      adapterLoop watches timeout (min pollInterval (timeout - elapsed))
        elapsed turns := by
  have samePoll := poll_eq_of_fit distant fit
  induction turns generalizing elapsed now with
  | nil => rw [samePoll]; rfl
  | cons turn turns ih =>
    cases turn with
    | arrives chunk => rw [samePoll]; rfl
    | idle alive late =>
      rw [samePoll] at fit ⊢
      rw [delay] at distant
      generalize min pollInterval (timeout - elapsed) = poll at *
      rw [driverLoop] at fit ⊢
      rw [adapterLoop]
      split
      · rfl
      · next watched =>
        rw [if_neg watched] at fit
        split
        · rfl
        · next unfinished =>
          have notOver : ¬ deadline - (now + poll + late) ≤ 0 := by
            have := delay_nonneg turns
            linarith
          rw [if_neg unfinished, if_neg notOver] at fit
          have still : timeout - (elapsed + poll) + delay turns ≤
              deadline - (now + poll + late) := by
            linarith
          rw [if_neg notOver, ← ih still fit.2.2 (poll_eq_of_fit still fit.2.2)]
          rfl

theorem bounded_of_le (short : timeout ≤ pollInterval)
    (promised : timeout ≤ deadline - now) (turns : List (Turn Chunk)) :
    Bounded watches timeout deadline now turns := by
  have one : (driverWaitForChunk watches timeout deadline now turns).1 = [⟨now, timeout⟩] ∧
      ([timeout], (driverWaitForChunk watches timeout deadline now turns).2) =
        adapterWaitForChunk watches timeout turns := by
    unfold driverWaitForChunk adapterWaitForChunk
    rw [min_eq_right short]
    match turns with
    | [] => exact ⟨rfl, rfl⟩
    | .arrives chunk :: turns => exact ⟨rfl, rfl⟩
    | .idle alive late :: turns =>
      simp only [driverLoop, adapterLoop, zero_add, le_refl, if_true]
      split <;> exact ⟨rfl, rfl⟩
  obtain ⟨slices, agrees⟩ := one
  refine ⟨?_, ?_, fun _ => ?_⟩
  · rw [slices, fit_singleton, sub_zero]
    exact ⟨le_rfl, promised⟩
  · simp [slices]
  · rw [slices]
    exact agrees

/-- The wait is bounded if and only if its time-out is at most one slice or no
last slice overshoots it. -/
theorem bounded_iff (promised : timeout ≤ deadline - now) (turns : List (Turn Chunk)) :
    Bounded watches timeout deadline now turns ↔ timeout ≤ pollInterval ∨
        ¬ Overshoots watches timeout (deadline - now) turns := by
  by_cases short : timeout ≤ pollInterval
  · exact iff_of_true (bounded_of_le short promised turns) (.inl short)
  rw [not_le] at short
  have positive : 0 < timeout := lt_trans (by norm_num [pollInterval]) short
  have sameStart : driverWaitForChunk watches timeout deadline now turns =
      driverLoop watches timeout deadline (min pollInterval (deadline - now)) 0 now turns := by
    rw [driverWaitForChunk, min_eq_left short.le, min_eq_left (short.le.trans promised)]
  have fitIff := fit_driverLoop_iff watches deadline now positive turns
  rw [← sameStart, sub_zero] at fitIff
  constructor
  · intro bounded
    exact .inr (fitIff.mp bounded.fit)
  · intro holds
    have fit := fitIff.mpr (holds.resolve_left (not_le.mpr short))
    refine ⟨fit, ?_, fun distant => ?_⟩
    · have := sum_le_of_fit positive.le fit
      rwa [zero_add] at this
    · rw [sameStart] at fit ⊢
      rw [agrees_driverLoop (by rwa [sub_zero]) fit, sub_zero]
      rfl

end Loop

section Example

/-- Two slices without a chunk, while the worker is alive. -/
def silence : List (Turn Unit) := [.idle true ⟨0, le_rfl⟩, .idle true ⟨0, le_rfl⟩]

/-- A time-out of two slices. -/
theorem bounded_iff_ten : Bounded true 10 1800 0 silence ↔
      10 ≤ pollInterval ∨ ¬ Overshoots true 10 (1800 - 0) silence :=
  bounded_iff (by norm_num) silence

/-- A time-out of seven seconds ends after ten. -/
theorem not_bounded_seven : ¬ Bounded true 7 1800 0 silence := by
  intro bounded
  have total := bounded.sum_le
  norm_num [silence, driverWaitForChunk, driverLoop, pollInterval] at total

end Example

end IdleWait

end RoxabiFactory

import RoxabiFactory.HubPipeline
import Mathlib.Data.List.Induction
import Mathlib.Data.List.Basic
import Mathlib.Data.List.TakeWhile
import Mathlib.Algebra.Order.Ring.Rat
import Mathlib.Logic.Function.Basic
import Mathlib.Tactic.Linarith

/-!
# The rate limiter

The limiter keeps the times of the accepted calls of each key, without those
that have left the window, and it forgets a key that has no times.  It still
answers as if it looked through a log of all the calls.
-/

namespace RoxabiFactory

namespace RateLimits

/-- A platform, a bot and a user. -/
abbrev Key := String × String × String

/-- `_timestamps`. -/
abbrev Timestamps := Key → Option (List ℚ)

/-- The times of a key without those that have left the window, if there are
any. -/
def prune (windowStart : ℚ) (times : Option (List ℚ)) : Option (List ℚ) := (times.map fun times =>
    times.dropWhile fun time => decide (time < windowStart)).filter
      fun times => !times.isEmpty

/-- `is_limited_by_key`, with the map that it leaves behind. -/
def isLimitedByKey (limit window : ℤ) (timestamps : Timestamps) (key : Key)
    (now : ℚ) : Bool × Timestamps :=
  let windowStart := now - window
  let pruned := prune windowStart (timestamps key)
  if pruned.any fun times => decide (limit ≤ times.length) then
    (true, Function.update timestamps key pruned)
  else
    (false, Function.update timestamps key (some (pruned.getD [] ++ [now])))

structure Call where
  key : Key
  now : ℚ

/-- What the limiter keeps, and the calls that it has answered. -/
structure Served where
  timestamps : Timestamps
  log : List (Call × Bool)

def serve (limit window : ℤ) (served : Served) (call : Call) : Served :=
  let answer := isLimitedByKey limit window served.timestamps call.key call.now
  { timestamps := answer.2
    log := served.log ++ [(call, answer.1)] }

def run (limit window : ℤ) (calls : List Call) : Served :=
  calls.foldl (serve limit window) { timestamps := fun _ => none, log := [] }

def acceptedTimes (log : List (Call × Bool)) (key : Key) : List ℚ :=
  (log.filter fun entry => !entry.2 && decide (entry.1.key = key)).map
    fun entry => entry.1.now

/-- The accepted calls of a key in the window that ends at a time. -/
def accepted (window : ℤ) (log : List (Call × Bool)) (key : Key) (stop : ℚ) : List ℚ :=
  (acceptedTimes log key).filter fun time =>
    decide (stop - window ≤ time ∧ time ≤ stop)

/-- The limiter decides by the log of the calls. -/
structure SlidingLog (limit window : ℤ) (calls : List Call) : Prop where
  limited_iff : ∀ before call after, calls = before ++ call :: after →
    ((isLimitedByKey limit window (run limit window before).timestamps call.key call.now).1 = true ↔
      (accepted window (run limit window before).log call.key call.now).length = limit)
  length_le : ∀ key stop, (accepted window (run limit window calls).log key stop).length ≤ limit
  apart : ∀ key, (run limit window (calls.filter fun call => call.key = key)).log =
      (run limit window calls).log.filter fun entry => entry.1.key = key

section Run

variable {limit window : ℤ} {calls : List Call} {call : Call} {key : Key}
variable {timestamps : Timestamps} {log : List (Call × Bool)} {now : ℚ}

theorem getD_prune (windowStart : ℚ) (times : Option (List ℚ)) : (prune windowStart times).getD [] =
      (times.getD []).dropWhile fun time => decide (time < windowStart) := by
  cases times with
  | none => rfl
  | some times =>
    unfold prune
    rw [Option.map_some, Option.getD_some]
    cases times.dropWhile fun time => decide (time < windowStart) with
    | nil => rfl
    | cons time later => rfl

theorem limited_iff (positive : 1 ≤ limit) (window : ℤ)
    (timestamps : Timestamps) (key : Key) (now : ℚ) :
    (isLimitedByKey limit window timestamps key now).1 = true ↔
      limit ≤ ((prune (now - window) (timestamps key)).getD []).length := by
  unfold isLimitedByKey
  dsimp only
  cases prune (now - window) (timestamps key) with
  | none =>
    simp
    omega
  | some times => by_cases reached : limit ≤ times.length <;> simp [reached]

theorem getD_isLimitedByKey (limit window : ℤ) (timestamps : Timestamps) (key : Key) (now : ℚ) :
    ((isLimitedByKey limit window timestamps key now).2 key).getD [] =
      (prune (now - window) (timestamps key)).getD [] ++
        if (isLimitedByKey limit window timestamps key now).1 = false then
          [now] else [] := by
  unfold isLimitedByKey
  dsimp only
  split <;> simp

/-- The limiter of the pipeline, which has no entry for an idle key either,
answers the same. -/
theorem isLimitedByKey_hubPipeline (limiter : RateLimiter)
    (sameTimes : limiter.timestamps key = (timestamps key).getD [])
    (sameWindow : limiter.window = window) :
    (limiter.isLimitedByKey now key).1 =
      (isLimitedByKey limiter.limit window timestamps key now).1 := by
  unfold RateLimiter.isLimitedByKey isLimitedByKey prune
  rw [sameTimes, sameWindow]
  dsimp only
  cases timestamps key with
  | none => simp
  | some times =>
    rw [Option.getD_some, Option.map_some]
    cases times.dropWhile fun time => decide (time < now - window) with
    | nil => simp
    | cons time later =>
      by_cases reached : limiter.limit ≤ later.length + 1 <;>
        simp [reached, Option.filter_some]

theorem isLimitedByKey_of_ne {other : Key} (differs : other ≠ key) :
    (isLimitedByKey limit window timestamps key now).2 other =
      timestamps other := by
  unfold isLimitedByKey
  dsimp only
  split <;> exact Function.update_of_ne differs _ _

theorem run_concat (calls : List Call) (call : Call) : run limit window (calls ++ [call]) =
      serve limit window (run limit window calls) call := by
  simp [run, List.foldl_append]

theorem map_log_run (limit window : ℤ) (calls : List Call) :
    (run limit window calls).log.map Prod.fst = calls := by
  induction calls using List.reverseRecOn with
  | nil => rfl
  | append_singleton calls call ih =>
    rw [run_concat, serve, List.map_append, ih]
    rfl

/-! ## What is kept of the log -/

theorem filter_eq_dropWhile {times : List ℚ} (sorted : times.Pairwise (· ≤ ·)) (windowStart : ℚ) :
    times.filter (fun time => decide (windowStart ≤ time)) =
      times.dropWhile fun time => decide (time < windowStart) := by
  induction times with
  | nil => rfl
  | cons time times ih =>
    rw [List.pairwise_cons] at sorted
    by_cases inside : windowStart ≤ time
    · rw [List.dropWhile_cons_of_neg (by simpa using inside),
        List.filter_eq_self]
      intro other member
      rw [decide_eq_true_iff]
      rcases List.mem_cons.mp member with rfl | later
      · exact inside
      · exact inside.trans (sorted.1 other later)
    · rw [List.dropWhile_cons_of_pos (by simpa using inside),
        List.filter_cons_of_neg (by simpa using inside), ih sorted.2]

/-- The times of a key are the last ones of its accepted calls.  The others had
left the window of a call that has been answered. -/
structure Kept (limit window : ℤ) (key : Key) (served : Served) : Prop where
  length_le : ((served.timestamps key).getD []).length ≤ limit
  suffix : ∃ gone, acceptedTimes served.log key = gone ++ (served.timestamps key).getD [] ∧
    ∀ time ∈ gone, ∃ entry ∈ served.log, time < entry.1.now - window

theorem acceptedTimes_concat (log : List (Call × Bool)) (call : Call) (limited : Bool) (key : Key) :
    acceptedTimes (log ++ [(call, limited)]) key = acceptedTimes log key ++
        if limited = false ∧ call.key = key then [call.now] else [] := by
  cases limited <;> by_cases same : call.key = key <;>
    simp [acceptedTimes, same]

/-- The calls are answered in the order of their times. -/
def Ordered (log : List (Call × Bool)) : Prop :=
  log.Pairwise fun first second => first.1.now ≤ second.1.now

theorem pairwise_acceptedTimes (ordered : Ordered log) (key : Key) :
    (acceptedTimes log key).Pairwise (· ≤ ·) :=
  List.pairwise_map.mpr (ordered.sublist List.filter_sublist)

/-- The accepted calls in the window of a call that is not before them are
those that are left. -/
theorem Kept.filter_eq {served : Served} (kept : Kept limit window key served)
    (ordered : Ordered served.log)
    (latest : ∀ entry ∈ served.log, entry.1.now ≤ now) :
    (acceptedTimes served.log key).filter (fun time => decide (now - window ≤ time)) =
      (prune (now - window) (served.timestamps key)).getD [] := by
  obtain ⟨gone, split, left⟩ := kept.suffix
  have sorted := pairwise_acceptedTimes ordered key
  rw [split, List.pairwise_append] at sorted
  rw [split, List.filter_append, getD_prune]
  have none : gone.filter (fun time => decide (now - window ≤ time)) = [] := by
    rw [List.filter_eq_nil_iff]
    intro time member
    obtain ⟨entry, answered, before⟩ := left time member
    have := latest entry answered
    rw [decide_eq_true_iff, not_le]
    linarith
  rw [none, List.nil_append]
  exact filter_eq_dropWhile sorted.2.1 _

theorem Kept.serve {served : Served} (kept : Kept limit window key served)
    (positive : 1 ≤ limit) (call : Call) :
    Kept limit window key (serve limit window served call) := by
  obtain ⟨length_le, gone, split, left⟩ := kept
  by_cases same : call.key = key
  · subst same
    have bound := limited_iff positive window served.timestamps call.key call.now
    have newTimes := getD_isLimitedByKey limit window served.timestamps call.key call.now
    rw [getD_prune] at bound newTimes
    generalize (served.timestamps call.key).getD [] = times at *
    have shorter : (times.dropWhile fun time =>
        decide (time < call.now - window)).length ≤ times.length :=
      (List.dropWhile_sublist _).length_le
    constructor
    · unfold RateLimits.serve
      dsimp only
      rw [newTimes]
      split
      · next accepts =>
        rw [accepts] at bound
        rw [List.length_append, List.length_singleton]
        simp only [Bool.false_eq_true, false_iff] at bound
        omega
      · rw [List.append_nil]
        omega
    · refine ⟨gone ++ times.takeWhile fun time =>
        decide (time < call.now - window), ?_, fun time member => ?_⟩
      · unfold RateLimits.serve
        dsimp only
        rw [newTimes, acceptedTimes_concat, split]
        conv_lhs =>
          rw [← List.takeWhile_append_dropWhile
            (p := fun time => decide (time < call.now - window)) (l := times)]
        simp only [and_true, List.append_assoc]
      · rcases List.mem_append.mp member with before | leaves
        · obtain ⟨entry, answered, before⟩ := left time before
          exact ⟨entry, List.mem_append_left _ answered, before⟩
        · refine ⟨_, List.mem_append_right _ List.mem_cons_self, ?_⟩
          simpa using List.mem_takeWhile_imp leaves
  · constructor
    · unfold RateLimits.serve
      dsimp only
      rw [isLimitedByKey_of_ne (Ne.symm same)]
      exact length_le
    · refine ⟨gone, ?_, fun time member => ?_⟩
      · unfold RateLimits.serve
        dsimp only
        rw [acceptedTimes_concat, if_neg (fun both => same both.2),
          List.append_nil, split, isLimitedByKey_of_ne (Ne.symm same)]
      · obtain ⟨entry, answered, before⟩ := left time member
        exact ⟨entry, List.mem_append_left _ answered, before⟩

theorem kept_run (positive : 1 ≤ limit) (window : ℤ) (key : Key) (calls : List Call) :
    Kept limit window key (run limit window calls) := by
  induction calls using List.reverseRecOn with
  | nil =>
    refine ⟨?_, [], rfl, ?_⟩
    · simp [run]
      omega
    · intro time member
      cases member
  | append_singleton calls call ih =>
    rw [run_concat]
    exact ih.serve positive call

/-! ## The answers -/

/-- No call is earlier than the one before it. -/
def InOrder (calls : List Call) : Prop := calls.Pairwise fun first second => first.now ≤ second.now

theorem ordered_log (inOrder : InOrder calls) :
    Ordered (run limit window calls).log := by
  rw [InOrder, ← map_log_run limit window calls] at inOrder
  exact (List.pairwise_map (f := Prod.fst)).mp inOrder

theorem now_le_of_mem_log (inOrder : InOrder (calls ++ [call]))
    {entry : Call × Bool} (answered : entry ∈ (run limit window calls).log) :
    entry.1.now ≤ call.now := by
  have member := List.mem_map_of_mem (f := Prod.fst) answered
  rw [map_log_run] at member
  exact (List.pairwise_append.mp inOrder).2.2 _ member _ List.mem_cons_self

theorem accepted_eq_prune (positive : 1 ≤ limit) (inOrder : InOrder (calls ++ [call])) (key : Key) :
    accepted window (run limit window calls).log key call.now = (prune (call.now - window)
        ((run limit window calls).timestamps key)).getD [] := by
  have latest (entry) (answered : entry ∈ (run limit window calls).log) :=
    now_le_of_mem_log inOrder answered
  rw [← (kept_run positive window key calls).filter_eq
    (ordered_log (List.pairwise_append.mp inOrder).1) latest, accepted]
  apply List.filter_congr
  intro time member
  obtain ⟨entry, answered, rfl⟩ := List.mem_map.mp member
  have := latest entry (List.mem_filter.mp answered).1
  simp [this]

theorem limited_iff_accepted (positive : 1 ≤ limit) (inOrder : InOrder (calls ++ [call])) :
    (isLimitedByKey limit window (run limit window calls).timestamps call.key call.now).1 = true ↔
      (accepted window (run limit window calls).log call.key call.now).length = limit := by
  have few := (kept_run positive window call.key calls).length_le
  rw [limited_iff positive window, accepted_eq_prune positive inOrder, getD_prune]
  have shorter := (List.dropWhile_sublist (l :=
    ((run limit window calls).timestamps call.key).getD []) fun time =>
      decide (time < call.now - window)).length_le
  omega

theorem accepted_concat (limited : Bool) (stop : ℚ) :
    accepted window (log ++ [(call, limited)]) key stop = accepted window log key stop ++
        if (limited = false ∧ call.key = key) ∧
          stop - window ≤ call.now ∧ call.now ≤ stop then
            [call.now] else [] := by
  unfold accepted
  rw [acceptedTimes_concat, List.filter_append]
  by_cases counted : limited = false ∧ call.key = key
  · rw [if_pos counted, List.filter_singleton]
    simp only [counted, true_and, and_self, Bool.cond_decide]
  · rw [if_neg counted, if_neg (fun both => counted both.1)]
    rfl

theorem length_accepted_le (positive : 1 ≤ limit) (inOrder : InOrder calls) (key : Key) (stop : ℚ) :
    (accepted window (run limit window calls).log key stop).length ≤
      limit := by
  induction calls using List.reverseRecOn with
  | nil =>
    simp [run, accepted, acceptedTimes]
    omega
  | append_singleton calls call ih =>
    have earlier := ih (List.pairwise_append.mp inOrder).1
    rw [run_concat, serve, accepted_concat]
    split
    · next counted =>
      obtain ⟨⟨accepts, rfl⟩, inside⟩ := counted
      -- What was in this window is still in that of the call.
      have fewer : (accepted window (run limit window calls).log call.key
          stop).length ≤ (accepted window (run limit window calls).log call.key
            call.now).length := by
        unfold accepted
        rw [← List.countP_eq_length_filter, ← List.countP_eq_length_filter]
        apply List.countP_mono_left
        intro time member contained
        obtain ⟨entry, answered, rfl⟩ := List.mem_map.mp member
        have latest := now_le_of_mem_log inOrder (List.mem_filter.mp answered).1
        simp only [decide_eq_true_eq] at contained ⊢
        refine ⟨?_, latest⟩
        linarith
      have room := (limited_iff_accepted positive inOrder).not.mp (Bool.eq_false_iff.mp accepts)
      have few := (kept_run positive window call.key calls).length_le
      have shorter := (List.dropWhile_sublist (l :=
        ((run limit window calls).timestamps call.key).getD []) fun time =>
          decide (time < call.now - window)).length_le
      rw [accepted_eq_prune positive inOrder, getD_prune] at fewer room
      rw [List.length_append, List.length_singleton]
      omega
    · rwa [List.append_nil]

theorem isLimitedByKey_congr (limit window : ℤ) (now : ℚ) {other : Timestamps}
    (same : timestamps key = other key) :
    (isLimitedByKey limit window timestamps key now).1 =
        (isLimitedByKey limit window other key now).1 ∧
      (isLimitedByKey limit window timestamps key now).2 key =
        (isLimitedByKey limit window other key now).2 key := by
  unfold isLimitedByKey
  rw [same]
  dsimp only
  split
  · exact ⟨rfl, by simp⟩
  · exact ⟨rfl, by simp⟩

theorem apart_run (key : Key) (calls : List Call) :
    (run limit window (calls.filter fun call => call.key = key)).timestamps
        key = (run limit window calls).timestamps key ∧
      (run limit window (calls.filter fun call => call.key = key)).log =
        (run limit window calls).log.filter fun entry => entry.1.key = key := by
  induction calls using List.reverseRecOn with
  | nil => exact ⟨rfl, rfl⟩
  | append_singleton calls call ih =>
    obtain ⟨times, log⟩ := ih
    rw [List.filter_append, run_concat, List.filter_singleton]
    by_cases same : call.key = key
    · subst same
      have answer := isLimitedByKey_congr limit window call.now times
      rw [decide_eq_true rfl, cond_true, run_concat]
      refine ⟨answer.2, ?_⟩
      simp [serve, log, answer.1]
    · rw [decide_eq_false same, cond_false, List.append_nil]
      constructor
      · rw [times]
        exact (isLimitedByKey_of_ne (Ne.symm same)).symm
      · simp [serve, log, same]

/-- The limiter is a sliding log. -/
theorem slidingLog_of_inOrder (positive : 1 ≤ limit) (inOrder : InOrder calls) :
    SlidingLog limit window calls where
  limited_iff before call after split := by
    rw [split, List.append_cons] at inOrder
    exact limited_iff_accepted positive (List.pairwise_append.mp inOrder).1
  length_le := length_accepted_le positive inOrder
  apart key := (apart_run key calls).2

end Run

section Example

/-- The first of three calls has left the window when the last one comes. -/
theorem slidingLog_three :
    InOrder [⟨("telegram", "bot", "user"), 0⟩, ⟨("telegram", "bot", "user"), 1⟩,
        ⟨("telegram", "bot", "user"), 12⟩] ∧
      SlidingLog 1 10 [⟨("telegram", "bot", "user"), 0⟩, ⟨("telegram", "bot", "user"), 1⟩,
        ⟨("telegram", "bot", "user"), 12⟩] := by
  have inOrder : InOrder [⟨("telegram", "bot", "user"), 0⟩,
      ⟨("telegram", "bot", "user"), 1⟩, ⟨("telegram", "bot", "user"), 12⟩] := by
    simp [InOrder]
  exact ⟨inOrder, slidingLog_of_inOrder (by decide) inOrder⟩

end Example

end RateLimits

end RoxabiFactory

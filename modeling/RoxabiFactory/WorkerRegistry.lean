import Mathlib.Data.List.Sort
import Mathlib.Data.Prod.Lex
import Mathlib.Data.String.Basic
import Mathlib.Tactic.Linarith
import RoxabiFactory.OrderedDict
import RoxabiFactory.PythonValues
import RoxabiFactory.TransitionSystem

/-!
# The registry of workers

Workers send heartbeats with their load, and requests go to the live worker
with the lowest score.  Numbers come from the bus as they are: an infinite one
cannot be converted to an integer, and an integer may be too large for the
float arithmetic of the score.  A worker that timed out keeps its entry, with a
last heartbeat at time zero.
-/

namespace RoxabiFactory

namespace WorkerRegistry

def maxWorkers : ℕ := 64

/-- The first integer that rounds to no float. -/
def floatLimit : ℕ := 2 ^ 1024 - 2 ^ 970

/-- `validate_nats_single_token`. -/
def isSingleToken (text : String) : Bool := text.toList ≠ [] && text.toList.all fun character =>
    character.isAlphanum || character == '_' || character == '-'

structure WorkerStats where
  workerId : String
  lastHeartbeat : ℚ
  vramUsedMb : ℤ := 0
  vramTotalMb : ℤ := 0
  activeRequests : ℤ := 0
  deriving DecidableEq

/-- What `__init__` gets, and `int` of a string, with `none` for its
`ValueError`. -/
structure Settings where
  hbTtl : ℚ := 15
  activeWeight : ℚ := 100
  vramWeight : ℚ := 50
  intOfText : PyStr → Option ℤ

abbrev Workers := OrderedDict String WorkerStats

/-! ## Heartbeats -/

section Heartbeats

variable (settings : Settings)

/-- `_coerce_int`. -/
def coerceInt : Json → Py ℤ
  | .null => .ok 0
  | .bool value => .ok (if value then 1 else 0)
  | .int value => .ok value
  | .float value => .ok (value.num.tdiv value.den)
  | .nonFinite name =>
    -- the `ValueError` of `NaN` is caught
    if name = "NaN" then .ok 0 else .error (.other "OverflowError")
  | .str text => .ok ((settings.intOfText text).getD 0)
  | .arr _ | .obj _ => .ok 0

/-- `payload.get(key)`. -/
def field (payload : List (PyStr × Json)) (key : String) : Json :=
  (payload.lookup (.text key)).getD .null

/-- The worker of a heartbeat that is not dropped. -/
def acceptedWorker (workers : Workers) (payload : List (PyStr × Json)) : Option String :=
  match field payload "worker_id" with
  | .str (.text workerId) =>
    if isSingleToken workerId = false then none
    else if workerId ∉ workers ∧ maxWorkers ≤ workers.size then none
    else some workerId
  | _ => none

/-- The entry that a heartbeat makes. -/
def heartbeatStats (payload : List (PyStr × Json)) (workerId : String)
    (now : ℚ) : Py WorkerStats := do
  let vramUsedMb ← coerceInt settings (field payload "vram_used_mb")
  let vramTotalMb ← coerceInt settings (field payload "vram_total_mb")
  let activeRequests ← coerceInt settings (field payload "active_requests")
  return ⟨workerId, now, vramUsedMb, vramTotalMb, activeRequests⟩

/-- `record_heartbeat`. -/
def recordHeartbeat (workers : Workers) (payload : List (PyStr × Json)) (now : ℚ) : Py Workers :=
  match acceptedWorker workers payload with
  | none => .ok workers
  | some workerId => do
    let stats ← heartbeatStats settings payload workerId now
    return workers.assign workerId stats

end Heartbeats

/-- `mark_stale`. -/
def markStale (workers : Workers) (workerId : String) : Workers :=
  match workers.lookup workerId with
  | none => workers
  | some stats => workers.assign workerId { stats with lastHeartbeat := 0 }

/-! ## Reads -/

section Reads

variable (settings : Settings)

/-- `_prune`. -/
def prune (workers : Workers) (now : ℚ) : Workers := workers.keep fun stats =>
    decide (now - stats.lastHeartbeat ≤ settings.hbTtl * 2)

/-- What `alive_workers` returns after `_prune`. -/
def aliveWorkers (workers : Workers) (now : ℚ) : List WorkerStats :=
  (workers.items.map Prod.snd).filter fun stats =>
    decide (now - stats.lastHeartbeat ≤ settings.hbTtl)

def toFloat (value : ℚ) : Py ℚ :=
  if |value| < floatLimit then .ok value
  else .error (.other "OverflowError")

/-- `score`. -/
def score (stats : WorkerStats) : Py ℚ := do
  let vramPct ←
    if 0 < stats.vramTotalMb then
      toFloat (stats.vramUsedMb / stats.vramTotalMb)
    else .ok 0
  let activeRequests ← toFloat stats.activeRequests
  return activeRequests * settings.activeWeight + vramPct * settings.vramWeight

abbrev Scored := ℚ × WorkerStats

def scored (stats : WorkerStats) : Py Scored := do
  return (← score settings stats, stats)

/-- The key that workers are sorted by. -/
def Scored.key (entry : Scored) : ℚ ×ₗ String := toLex (entry.1, entry.2.workerId)

/-- `ordered_by_score`, with the times at which the entries are pruned and
read. -/
def orderedByScore (workers : Workers) (pruned now : ℚ) :
    Py (List WorkerStats) := do
  let alive := aliveWorkers settings (prune settings workers pruned) now
  let entries ← alive.mapM (scored settings)
  return (entries.insertionSort fun first second =>
    first.key ≤ second.key).map Prod.snd

/-- The first minimum, as `min` finds it. -/
def minimum (best : Scored) (entries : List Scored) : Scored := entries.foldl (fun best entry =>
    if entry.key < best.key then entry else best) best

/-- `pick_least_loaded`. -/
def pickLeastLoaded (workers : Workers) (pruned now : ℚ) :
    Py (Option WorkerStats) := do
  let alive := aliveWorkers settings (prune settings workers pruned) now
  match ← alive.mapM (scored settings) with
  | [] => return none
  | first :: rest => return some (minimum first rest).2

end Reads

/-! ## Runs -/

/-- What has happened to the workers: heartbeats that were not dropped, and
time-outs. -/
inductive Entry
  | beat (stats : WorkerStats)
  | stale (workerId : String)
  deriving DecidableEq

def Entry.workerId : Entry → String
  | beat stats => stats.workerId
  | stale workerId => workerId

@[simp] theorem Entry.workerId_beat (stats : WorkerStats) :
    (beat stats).workerId = stats.workerId :=
  rfl

@[simp] theorem Entry.workerId_stale (workerId : String) : (stale workerId).workerId = workerId :=
  rfl

/-- The registry, with its history, the latest entry first. -/
structure State where
  clock : ℚ := 0
  workers : Workers := ∅
  history : List Entry := []

/-- A call, with the times that `time.monotonic` gives to it. -/
inductive Operation
  | recordHeartbeat (payload : List (PyStr × Json)) (now : ℚ)
  | markStale (workerId : String)
  | orderedByScore (pruned now : ℚ)
  | pickLeastLoaded (pruned now : ℚ)

namespace State

variable (settings : Settings) (state : State)

/-- The latest entry about a worker. -/
def latest (workerId : String) : Option Entry :=
  state.history.find? fun entry => entry.workerId == workerId

/-- The worker was heard of last with this heartbeat, which is recent. -/
def Fresh (now : ℚ) (stats : WorkerStats) : Prop :=
  state.latest stats.workerId = some (.beat stats) ∧ now - stats.lastHeartbeat ≤ settings.hbTtl

/-- The entry of a heartbeat that is neither dropped nor raises. -/
def beat (payload : List (PyStr × Json)) (now : ℚ) : Option Entry := do
  let workerId ← acceptedWorker state.workers payload
  let stats ← (heartbeatStats settings payload workerId now).toOption
  return .beat stats

/-- A heartbeat arrives; the registry stays as it is when it raises. -/
def heartbeat (payload : List (PyStr × Json)) (now : ℚ) : State where
  clock := now
  workers := (WorkerRegistry.recordHeartbeat settings state.workers payload
    now).toOption.getD state.workers
  history := (state.beat settings payload now).toList ++ state.history

/-- A read removes old entries, whether it raises or not. -/
def read (pruned now : ℚ) : State :=
  { state with
    clock := now
    workers := prune settings state.workers pruned }

def step : Operation → Option State
  | .recordHeartbeat payload now =>
    if state.clock ≤ now then some (state.heartbeat settings payload now)
    else none
  | .markStale workerId =>
    some { state with
      workers := WorkerRegistry.markStale state.workers workerId
      history := .stale workerId :: state.history }
  | .orderedByScore pruned now | .pickLeastLoaded pruned now =>
    if state.clock ≤ pruned ∧ pruned ≤ now then
      some (state.read settings pruned now)
    else none

/-- A number of a heartbeat is infinite. -/
def IsInfinite : Json → Prop
  | .nonFinite name => name ≠ "NaN"
  | _ => False

/-- A heartbeat that is not dropped has no infinite number. -/
def MayBeat (payload : List (PyStr × Json)) : Prop :=
  (acceptedWorker state.workers payload).isSome = true →
    ∀ key ∈ ["vram_used_mb", "vram_total_mb", "active_requests"], ¬ IsInfinite (field payload key)

/-- The numbers of a worker are in the range of floats. -/
def InRange (stats : WorkerStats) : Prop :=
  |(stats.activeRequests : ℚ)| < floatLimit ∧ (0 < stats.vramTotalMb →
      |(stats.vramUsedMb / stats.vramTotalMb : ℚ)| < floatLimit)

/-- At a read the numbers of the workers heard of lately are in the range of
floats, and the clock is past the time to live if a worker of the registry is
marked stale. -/
def MayRead (now : ℚ) : Prop := (∀ workerId stats, state.workers.lookup workerId = some stats →
    now - stats.lastHeartbeat ≤ settings.hbTtl → InRange stats) ∧
  (now ≤ settings.hbTtl → ∀ workerId ∈ state.workers,
    state.latest workerId ≠ some (.stale workerId))

def Admissible : Operation → Prop
  | .recordHeartbeat payload _ => state.MayBeat payload
  | .markStale _ => True
  | .orderedByScore _ now | .pickLeastLoaded _ now =>
    state.MayRead settings now

end State

def system (settings : Settings) : TransitionSystem State Operation where
  initial state := 0 ≤ state.clock ∧ state.workers = ∅ ∧ state.history = []
  step state operation := state.step settings operation

/-! ## Scores -/

section Scores

variable {settings : Settings} {stats : WorkerStats}

/-- The score without the limits of floats. -/
def exactScore (settings : Settings) (stats : WorkerStats) : ℚ :=
  stats.activeRequests * settings.activeWeight + (if 0 < stats.vramTotalMb then
      (stats.vramUsedMb / stats.vramTotalMb : ℚ) else 0) * settings.vramWeight

/-- What the workers are sorted by. -/
def rank (settings : Settings) (stats : WorkerStats) : ℚ ×ₗ String :=
  toLex (exactScore settings stats, stats.workerId)

theorem toFloat_of_lt {value : ℚ} (small : |value| < floatLimit) : toFloat value = .ok value :=
  if_pos small

theorem score_of_inRange (inRange : State.InRange stats) :
    score settings stats = .ok (exactScore settings stats) := by
  obtain ⟨active, vram⟩ := inRange
  unfold score exactScore
  rw [toFloat_of_lt active]
  split
  · rename_i positive
    rw [toFloat_of_lt (vram positive)]
    rfl
  · rfl

theorem mapM_scored {alive : List WorkerStats} (inRange : ∀ stats ∈ alive, State.InRange stats) :
    alive.mapM (scored settings) =
      .ok (alive.map fun stats => (exactScore settings stats, stats)) := by
  induction alive with
  | nil => rfl
  | cons stats alive ih =>
    rw [List.forall_mem_cons] at inRange
    have first : scored settings stats =
        .ok (exactScore settings stats, stats) := by
      rw [scored, score_of_inRange inRange.1]
      rfl
    rw [List.mapM_cons, first, ih inRange.2]
    rfl

end Scores

section Minimum

variable {best : Scored} {entries : List Scored}

theorem minimum_mem : minimum best entries ∈ best :: entries := by
  induction entries generalizing best with
  | nil => exact List.mem_singleton_self best
  | cons entry entries ih =>
    change minimum (if entry.key < best.key then entry else best) entries ∈ _
    split
    · exact List.mem_cons_of_mem _ ih
    · rcases List.mem_cons.mp ih with isBest | later
      · rw [isBest]
        exact List.mem_cons_self
      · exact List.mem_cons_of_mem _ (List.mem_cons_of_mem _ later)

theorem minimum_le : ∀ entry ∈ best :: entries, (minimum best entries).key ≤ entry.key := by
  induction entries generalizing best with
  | nil =>
    intro entry member
    rw [List.mem_singleton.mp member]
    exact le_refl _
  | cons next entries ih =>
    change ∀ entry ∈ best :: next :: entries, (minimum
      (if next.key < best.key then next else best) entries).key ≤ entry.key
    have first : (if next.key < best.key then next else best).key ≤
        best.key ∧ (if next.key < best.key then next else best).key ≤
          next.key := by
      split
      · rename_i less
        exact ⟨less.le, le_refl _⟩
      · rename_i notLess
        exact ⟨le_refl _, not_lt.mp notLess⟩
    generalize (if next.key < best.key then next else best) = least at first
    have below := ih least List.mem_cons_self
    intro entry member
    rcases List.mem_cons.mp member with rfl | later
    · exact below.trans first.1
    · rcases List.mem_cons.mp later with rfl | last
      · exact below.trans first.2
      · exact ih _ (List.mem_cons_of_mem _ last)

end Minimum

/-! ## Sorting -/

section Sorting

variable {settings : Settings} {alive : List WorkerStats}

/-- The live workers in the order of their scores. -/
def sortedWorkers (settings : Settings) (alive : List WorkerStats) : List WorkerStats :=
  ((alive.map fun stats => (exactScore settings stats, stats)).insertionSort
    fun first second : Scored => first.key ≤ second.key).map Prod.snd

theorem mem_sortedWorkers {stats : WorkerStats} :
    stats ∈ sortedWorkers settings alive ↔ stats ∈ alive := by
  simp [sortedWorkers, List.mem_insertionSort]

theorem key_of_mem {entry : Scored} (member : entry ∈ alive.map fun stats =>
      (exactScore settings stats, stats)) :
    entry.key = rank settings entry.2 := by
  obtain ⟨stats, -, rfl⟩ := List.mem_map.mp member
  rfl

theorem pairwise_sortedWorkers (distinct : (alive.map WorkerStats.workerId).Nodup) :
    (sortedWorkers settings alive).Pairwise fun first second =>
      rank settings first < rank settings second := by
  have sorted := List.pairwise_insertionSort (fun first second : Scored => first.key ≤ second.key)
    (alive.map fun stats => (exactScore settings stats, stats))
  have distinctScored : ((alive.map fun stats =>
      (exactScore settings stats, stats)).insertionSort
        fun first second : Scored => first.key ≤ second.key).Pairwise
          fun first second => first.2.workerId ≠ second.2.workerId := by
    rw [(List.perm_insertionSort _ _).pairwise_iff
      fun different => different.symm, List.pairwise_map]
    exact List.pairwise_map.mp distinct
  rw [sortedWorkers, List.pairwise_map]
  refine (sorted.and distinctScored).imp_of_mem ?_
  intro first second firstMember secondMember related
  rw [List.mem_insertionSort] at firstMember secondMember
  obtain ⟨below, different⟩ := related
  rw [key_of_mem firstMember, key_of_mem secondMember] at below
  refine lt_of_le_of_ne below fun same => different ?_
  exact (Prod.mk.inj (toLex.injective same)).2

theorem head?_sortedWorkers {first : WorkerStats} {rest : List WorkerStats}
    (distinct : ((first :: rest).map WorkerStats.workerId).Nodup) :
    (sortedWorkers settings (first :: rest)).head? =
      some (minimum (exactScore settings first, first)
        (rest.map fun stats => (exactScore settings stats, stats))).2 := by
  set entries : List Scored := (first :: rest).map fun stats =>
    (exactScore settings stats, stats) with isEntries
  set least := minimum (exactScore settings first, first)
    (rest.map fun stats => (exactScore settings stats, stats)) with isLeast
  have leastMember : least ∈ entries := minimum_mem
  have leastLe : ∀ entry ∈ entries, least.key ≤ entry.key := minimum_le
  have sorted := List.pairwise_insertionSort
    (fun first second : Scored => first.key ≤ second.key) entries
  change ((entries.insertionSort fun first second : Scored =>
    first.key ≤ second.key).map Prod.snd).head? = _
  have members (entry : Scored) : entry ∈ entries.insertionSort (fun first second : Scored =>
        first.key ≤ second.key) ↔ entry ∈ entries := by
    rw [List.mem_insertionSort]
  generalize entries.insertionSort (fun first second : Scored =>
    first.key ≤ second.key) = inOrder at sorted members
  cases inOrder with
  | nil => exact absurd ((members least).mpr leastMember) List.not_mem_nil
  | cons head tail =>
    have headMember := (members head).mp List.mem_cons_self
    have headLe : head.key ≤ least.key := by
      rcases List.mem_cons.mp ((members least).mpr leastMember) with
        isHead | later
      · rw [isHead]
      · exact (List.pairwise_cons.mp sorted).1 least later
    have same : head.key = least.key := headLe.antisymm (leastLe head headMember)
    rw [key_of_mem headMember, key_of_mem leastMember] at same
    have sameId : head.2.workerId = least.2.workerId := (Prod.mk.inj (toLex.injective same)).2
    have listed {entry : Scored} (member : entry ∈ entries) : entry.2 ∈ first :: rest := by
      obtain ⟨stats, alive, rfl⟩ := List.mem_map.mp member
      exact alive
    simp only [List.map_cons, List.head?_cons]
    exact congrArg some (List.inj_on_of_nodup_map distinct
      (listed headMember) (listed leastMember) sameId)

end Sorting

/-! ## The history of the registry -/

/-- The entries of the registry are those of the history, but for old ones that
are gone and for those that are marked stale. -/
structure State.Tracks (settings : Settings) (state : State) : Prop where
  bounded : state.workers.size ≤ maxWorkers
  nonneg : 0 ≤ state.clock
  named : ∀ workerId stats, state.workers.lookup workerId = some stats → stats.workerId = workerId
  past : ∀ workerId stats, state.workers.lookup workerId = some stats →
    stats.lastHeartbeat ≤ state.clock
  entry : ∀ workerId stats, state.workers.lookup workerId = some stats →
    state.latest workerId = some (.beat stats) ∨ state.latest workerId = some (.stale workerId) ∧
        stats.lastHeartbeat = 0
  kept : ∀ workerId stats, state.latest workerId = some (.beat stats) →
    state.workers.lookup workerId = some stats ∨
      settings.hbTtl < state.clock - stats.lastHeartbeat

namespace State

variable {settings : Settings} {state : State}

theorem latest_cons (entry : Entry) (clock : ℚ) (workers : Workers) (workerId : String) :
    State.latest ⟨clock, workers, entry :: state.history⟩ workerId =
      if entry.workerId = workerId then some entry
      else state.latest workerId := by
  simp only [latest, List.find?_cons]
  by_cases same : entry.workerId = workerId
  · rw [if_pos same, beq_iff_eq.mpr same]
  · rw [if_neg same, beq_eq_false_iff_ne.mpr same]

theorem tracks_of_initial (initially : (system settings).initial state) :
    state.Tracks settings := by
  obtain ⟨nonneg, empty, noHistory⟩ := initially
  have unknown (workerId : String) : state.workers.lookup workerId = none := by
    rw [empty]
    exact AList.lookup_empty workerId
  have noEntry (workerId : String) : state.latest workerId = none := by
    rw [latest, noHistory]
    rfl
  refine ⟨?_, nonneg, ?_, ?_, ?_, ?_⟩
  · rw [empty]
    exact Nat.zero_le _
  · intro workerId stats known
    rw [unknown] at known
    cases known
  · intro workerId stats known
    rw [unknown] at known
    cases known
  · intro workerId stats known
    rw [unknown] at known
    cases known
  · intro workerId stats isLatest
    rw [noEntry] at isLatest
    cases isLatest

theorem tracks_assign (tracks : state.Tracks settings) {now : ℚ}
    (later : state.clock ≤ now) {stats : WorkerStats}
    (isNow : stats.lastHeartbeat = now)
    (room : stats.workerId ∈ state.workers ∨ state.workers.size < maxWorkers) :
    State.Tracks settings ⟨now, state.workers.assign stats.workerId stats,
      .beat stats :: state.history⟩ := by
  refine ⟨?_, tracks.nonneg.trans later, ?_, ?_, ?_, ?_⟩
  · rcases room with present | room
    · rw [OrderedDict.size_assign_of_mem present]
      exact tracks.bounded
    · exact OrderedDict.size_assign_le.trans room
  · intro workerId other known
    by_cases same : workerId = stats.workerId
    · subst same
      rw [OrderedDict.lookup_assign] at known
      cases known
      rfl
    · rw [OrderedDict.lookup_assign_ne same] at known
      exact tracks.named workerId other known
  · intro workerId other known
    by_cases same : workerId = stats.workerId
    · subst same
      rw [OrderedDict.lookup_assign] at known
      cases known
      exact isNow.le
    · rw [OrderedDict.lookup_assign_ne same] at known
      exact (tracks.past workerId other known).trans later
  · intro workerId other known
    rw [latest_cons, Entry.workerId_beat]
    by_cases same : workerId = stats.workerId
    · subst same
      rw [OrderedDict.lookup_assign] at known
      cases known
      exact .inl (if_pos rfl)
    · rw [OrderedDict.lookup_assign_ne same] at known
      rw [if_neg (Ne.symm same)]
      exact tracks.entry workerId other known
  · intro workerId other isLatest
    rw [latest_cons, Entry.workerId_beat] at isLatest
    by_cases same : workerId = stats.workerId
    · subst same
      cases (if_pos rfl).symm.trans isLatest
      exact .inl OrderedDict.lookup_assign
    · rw [if_neg (Ne.symm same)] at isLatest
      rw [OrderedDict.lookup_assign_ne same]
      refine (tracks.kept workerId other isLatest).imp_right fun old => ?_
      exact old.trans_le (sub_le_sub_right later _)

theorem Tracks.later (tracks : state.Tracks settings) {now : ℚ} (later : state.clock ≤ now) :
    State.Tracks settings { state with clock := now } where
  bounded := tracks.bounded
  nonneg := tracks.nonneg.trans later
  named := tracks.named
  past workerId stats known := (tracks.past workerId stats known).trans later
  entry := tracks.entry
  kept workerId stats isLatest := (tracks.kept workerId stats isLatest).imp_right fun old =>
      old.trans_le (sub_le_sub_right later _)

theorem tracks_markStale (tracks : state.Tracks settings) (workerId : String) :
    State.Tracks settings ⟨state.clock, WorkerRegistry.markStale state.workers workerId,
      .stale workerId :: state.history⟩ := by
  have lookups (other : String) (stats : WorkerStats)
      (known : (WorkerRegistry.markStale state.workers workerId).lookup other = some stats) :
      (other ≠ workerId ∧ state.workers.lookup other = some stats) ∨
        (other = workerId ∧ stats.lastHeartbeat = 0 ∧ stats.workerId = workerId) := by
    unfold WorkerRegistry.markStale at known
    cases found : state.workers.lookup workerId with
    | none =>
      simp only [found] at known
      left
      refine ⟨?_, known⟩
      rintro rfl
      rw [found] at known
      cases known
    | some old =>
      simp only [found] at known
      by_cases same : other = workerId
      · subst same
        rw [OrderedDict.lookup_assign] at known
        cases known
        exact .inr ⟨rfl, rfl, tracks.named other old found⟩
      · rw [OrderedDict.lookup_assign_ne same] at known
        exact .inl ⟨same, known⟩
  refine ⟨?_, tracks.nonneg, ?_, ?_, ?_, ?_⟩
  · change (WorkerRegistry.markStale state.workers workerId).size ≤ _
    unfold WorkerRegistry.markStale
    cases found : state.workers.lookup workerId with
    | none => exact tracks.bounded
    | some old =>
      have present : workerId ∈ state.workers := AList.lookup_isSome.mp (by rw [found]; rfl)
      simp only []
      rw [OrderedDict.size_assign_of_mem present]
      exact tracks.bounded
  · intro other stats known
    rcases lookups other stats known with ⟨-, before⟩ | ⟨rfl, -, isNamed⟩
    · exact tracks.named other stats before
    · exact isNamed
  · intro other stats known
    rcases lookups other stats known with ⟨-, before⟩ | ⟨-, isZero, -⟩
    · exact tracks.past other stats before
    · rw [isZero]
      exact tracks.nonneg
  · intro other stats known
    rw [latest_cons, Entry.workerId_stale]
    rcases lookups other stats known with ⟨different, before⟩ | ⟨rfl, isZero, -⟩
    · rw [if_neg (Ne.symm different)]
      exact tracks.entry other stats before
    · exact .inr ⟨if_pos rfl, isZero⟩
  · intro other stats isLatest
    rw [latest_cons, Entry.workerId_stale] at isLatest
    by_cases same : other = workerId
    · cases (if_pos same.symm).symm.trans isLatest
    · rw [if_neg (Ne.symm same)] at isLatest
      refine (tracks.kept other stats isLatest).imp_left fun before => ?_
      change (WorkerRegistry.markStale state.workers workerId).lookup other = _
      unfold WorkerRegistry.markStale
      cases found : state.workers.lookup workerId with
      | none => exact before
      | some old =>
        simp only []
        rw [OrderedDict.lookup_assign_ne same]
        exact before

theorem tracks_read (tracks : state.Tracks settings) {pruned now : ℚ}
    (later : state.clock ≤ pruned) (inOrder : pruned ≤ now) :
    (state.read settings pruned now).Tracks settings := by
  have before {workerId : String} {stats : WorkerStats}
      (known : (state.read settings pruned now).workers.lookup workerId =
        some stats) : state.workers.lookup workerId = some stats := by
    simp only [read, prune, OrderedDict.lookup_keep] at known
    exact (Option.filter_eq_some_iff.mp known).1
  refine ⟨?_, (tracks.nonneg.trans later).trans inOrder, ?_, ?_, ?_, ?_⟩
  · exact (OrderedDict.size_keep_le _).trans tracks.bounded
  · exact fun workerId stats known =>
      tracks.named workerId stats (before known)
  · exact fun workerId stats known =>
      ((tracks.past workerId stats (before known)).trans later).trans inOrder
  · exact fun workerId stats known =>
      tracks.entry workerId stats (before known)
  · intro workerId stats isLatest
    have late : settings.hbTtl < state.clock - stats.lastHeartbeat →
        settings.hbTtl < now - stats.lastHeartbeat := fun old =>
      old.trans_le (sub_le_sub_right (later.trans inOrder) _)
    rcases tracks.kept workerId stats isLatest with known | old
    · by_cases recent : pruned - stats.lastHeartbeat ≤ settings.hbTtl * 2
      · left
        simp only [read, prune, OrderedDict.lookup_keep, known,
          Option.filter_some, recent, decide_true, if_true]
      · right
        have before := tracks.past workerId stats known
        change settings.hbTtl < now - stats.lastHeartbeat
        linarith
    · exact .inr (late old)

theorem heartbeat_cases (payload : List (PyStr × Json)) (now : ℚ) :
    state.heartbeat settings payload now = { state with clock := now } ∨
      ∃ stats, acceptedWorker state.workers payload = some stats.workerId ∧
        stats.lastHeartbeat = now ∧
        state.heartbeat settings payload now = ⟨now, state.workers.assign stats.workerId stats,
            .beat stats :: state.history⟩ := by
  unfold heartbeat WorkerRegistry.recordHeartbeat beat
  cases accepted : acceptedWorker state.workers payload with
  | none => exact .inl rfl
  | some workerId =>
    simp only [Option.bind_eq_bind, Option.bind_some]
    cases made : heartbeatStats settings payload workerId now with
    | error raised => exact .inl rfl
    | ok stats =>
      obtain ⟨_, -, used⟩ := Py.bind_eq_ok.mp made
      obtain ⟨_, -, total⟩ := Py.bind_eq_ok.mp used
      obtain ⟨_, -, active⟩ := Py.bind_eq_ok.mp total
      cases active
      exact .inr ⟨⟨workerId, now, _, _, _⟩, rfl, rfl, rfl⟩

theorem room_of_accepted {payload : List (PyStr × Json)} {workerId : String}
    (accepted : acceptedWorker state.workers payload = some workerId) :
    workerId ∈ state.workers ∨ state.workers.size < maxWorkers := by
  unfold acceptedWorker at accepted
  split at accepted
  · split at accepted
    · cases accepted
    · split at accepted
      · cases accepted
      · rename_i notFull
        cases accepted
        by_contra neither
        rw [not_or, not_lt] at neither
        exact notFull neither
  · cases accepted

theorem tracks_heartbeat (tracks : state.Tracks settings)
    (payload : List (PyStr × Json)) {now : ℚ} (later : state.clock ≤ now) :
    (state.heartbeat settings payload now).Tracks settings := by
  rcases heartbeat_cases payload now with unchanged | ⟨stats, accepted, isNow, assigned⟩
  · rw [unchanged]
    exact tracks.later later
  · rw [assigned]
    exact tracks_assign tracks later isNow (room_of_accepted accepted)

theorem tracks_step (tracks : state.Tracks settings) {operation : Operation}
    {after : State} (stepTo : state.step settings operation = some after) :
    after.Tracks settings := by
  cases operation with
  | recordHeartbeat payload now =>
    simp only [step] at stepTo
    split at stepTo
    · rename_i later
      cases stepTo
      exact tracks_heartbeat tracks payload later
    · cases stepTo
  | markStale workerId =>
    cases stepTo
    exact tracks_markStale tracks workerId
  | orderedByScore pruned now =>
    simp only [step] at stepTo
    split at stepTo
    · rename_i times
      cases stepTo
      exact tracks_read tracks times.1 times.2
    · cases stepTo
  | pickLeastLoaded pruned now =>
    simp only [step] at stepTo
    split at stepTo
    · rename_i times
      cases stepTo
      exact tracks_read tracks times.1 times.2
    · cases stepTo

/-! ## Reads of the registry -/

section Reads

variable {pruned now : ℚ} {stats : WorkerStats}

theorem lookup_of_mem_alive (alive : stats ∈ aliveWorkers settings
      (prune settings state.workers pruned) now) :
    (∃ workerId, state.workers.lookup workerId = some stats) ∧
      now - stats.lastHeartbeat ≤ settings.hbTtl := by
  obtain ⟨listed, recent⟩ := List.mem_filter.mp alive
  obtain ⟨⟨workerId, _⟩, item, rfl⟩ := List.mem_map.mp listed
  rw [OrderedDict.mem_items, prune, OrderedDict.lookup_keep] at item
  exact ⟨⟨workerId, (Option.filter_eq_some_iff.mp item).1⟩, of_decide_eq_true recent⟩

theorem mem_alive_iff (tracks : state.Tracks settings)
    (mayRead : state.MayRead settings now) (later : state.clock ≤ pruned)
    (inOrder : pruned ≤ now) :
    stats ∈ aliveWorkers settings (prune settings state.workers pruned) now ↔
      state.Fresh settings now stats := by
  constructor
  · intro alive
    obtain ⟨⟨workerId, known⟩, recent⟩ := lookup_of_mem_alive alive
    have isNamed := tracks.named workerId stats known
    subst isNamed
    rcases tracks.entry stats.workerId stats known with isBeat | ⟨isStale, zero⟩
    · exact ⟨isBeat, recent⟩
    · rw [zero, sub_zero] at recent
      have present : stats.workerId ∈ state.workers := AList.lookup_isSome.mp (by rw [known]; rfl)
      exact absurd isStale (mayRead.2 recent stats.workerId present)
  · rintro ⟨isLatest, recent⟩
    have known : state.workers.lookup stats.workerId = some stats := by
      rcases tracks.kept stats.workerId stats isLatest with known | old
      · exact known
      · linarith
    have before := tracks.past stats.workerId stats known
    have isKept : pruned - stats.lastHeartbeat ≤ settings.hbTtl * 2 := by
      linarith
    refine List.mem_filter.mpr ⟨List.mem_map.mpr
      ⟨(stats.workerId, stats), ?_, rfl⟩, decide_eq_true recent⟩
    rw [OrderedDict.mem_items, prune, OrderedDict.lookup_keep, known]
    simp only [Option.filter_some, isKept, decide_true, if_true]

theorem nodup_workerId (tracks : state.Tracks settings) (pruned now : ℚ) :
    ((aliveWorkers settings (prune settings state.workers pruned)
      now).map WorkerStats.workerId).Nodup := by
  have named : ((prune settings state.workers pruned).items.map Prod.snd).map WorkerStats.workerId =
        (prune settings state.workers pruned).items.map Prod.fst := by
    rw [List.map_map]
    apply List.map_congr_left
    rintro ⟨workerId, stats⟩ item
    rw [OrderedDict.mem_items, prune, OrderedDict.lookup_keep] at item
    exact tracks.named workerId stats (Option.filter_eq_some_iff.mp item).1
  have keys : ((prune settings state.workers pruned).items.map Prod.fst).Nodup := by
    rw [OrderedDict.items, List.map_reverse, List.nodup_reverse, List.map_map]
    exact (prune settings state.workers pruned).nodupKeys
  refine List.Nodup.sublist ?_ keys
  rw [← named]
  exact List.filter_sublist.map _

/-- Both reads return, and they return the workers that were heard of lately
in the order of their scores. -/
theorem reads_of_mayRead (tracks : state.Tracks settings)
    (mayRead : state.MayRead settings now) (later : state.clock ≤ pruned)
    (inOrder : pruned ≤ now) :
    ∃ ordered, orderedByScore settings state.workers pruned now = .ok ordered ∧
      (∀ stats, stats ∈ ordered ↔ state.Fresh settings now stats) ∧
      (ordered.Pairwise fun first second =>
        rank settings first < rank settings second) ∧
      pickLeastLoaded settings state.workers pruned now =
        .ok ordered.head? := by
  have distinct := nodup_workerId tracks pruned now
  have isFresh (stats : WorkerStats) :
      stats ∈ aliveWorkers settings (prune settings state.workers pruned)
        now ↔ state.Fresh settings now stats :=
    mem_alive_iff tracks mayRead later inOrder
  have inRange : ∀ stats ∈ aliveWorkers settings
      (prune settings state.workers pruned) now, InRange stats := by
    intro stats alive
    obtain ⟨⟨workerId, known⟩, recent⟩ := lookup_of_mem_alive alive
    exact mayRead.1 workerId stats known recent
  unfold orderedByScore pickLeastLoaded
  generalize aliveWorkers settings (prune settings state.workers pruned) now =
    alive at distinct isFresh inRange
  refine ⟨sortedWorkers settings alive, ?_, ?_, pairwise_sortedWorkers distinct, ?_⟩
  · simp only [mapM_scored inRange]
    rfl
  · exact fun stats => mem_sortedWorkers.trans (isFresh stats)
  · simp only [mapM_scored inRange]
    cases alive with
    | nil => rfl
    | cons first rest =>
      rw [head?_sortedWorkers distinct]
      rfl

end Reads

/-! ## Every run -/

theorem tracks_of_reachableWithin {admissible : State → Operation → Prop}
    (reached : (system settings).ReachableWithin admissible state) :
    state.Tracks settings := by
  apply reached.invariant
  · intro start initially
    exact tracks_of_initial initially
  · intro before operation after tracks _ stepTo
    exact tracks_step tracks stepTo

variable (settings) in
theorem exists_coerceInt {value : Json} (finite : ¬ IsInfinite value) :
    ∃ number, coerceInt settings value = .ok number := by
  cases value with
  | nonFinite name =>
    have isNaN : name = "NaN" := not_not.mp finite
    exact ⟨0, if_pos isNaN⟩
  | _ => exact ⟨_, rfl⟩

theorem exists_recordHeartbeat {payload : List (PyStr × Json)}
    (mayBeat : state.MayBeat payload) (now : ℚ) :
    ∃ workers, WorkerRegistry.recordHeartbeat settings state.workers payload now = .ok workers := by
  unfold WorkerRegistry.recordHeartbeat
  cases accepted : acceptedWorker state.workers payload with
  | none => exact ⟨state.workers, rfl⟩
  | some workerId =>
    have finite := mayBeat (by rw [accepted]; rfl)
    obtain ⟨vramUsedMb, isUsed⟩ := exists_coerceInt settings (finite "vram_used_mb" (by simp))
    obtain ⟨vramTotalMb, isTotal⟩ := exists_coerceInt settings (finite "vram_total_mb" (by simp))
    obtain ⟨activeRequests, isActive⟩ := exists_coerceInt settings
      (finite "active_requests" (by simp))
    refine ⟨state.workers.assign workerId
      ⟨workerId, now, vramUsedMb, vramTotalMb, activeRequests⟩, ?_⟩
    simp only [heartbeatStats, isUsed, isTotal, isActive]
    rfl

/-- The registry is bounded, and an allowed call returns, a read the workers
heard of lately by their scores. -/
structure Sound (settings : Settings) (allowed : State → Operation → Prop)
    (state : State) : Prop where
  bounded : state.workers.size ≤ maxWorkers
  beats : ∀ payload now, state.clock ≤ now → allowed state (.recordHeartbeat payload now) →
      ∃ workers, WorkerRegistry.recordHeartbeat settings state.workers payload now = .ok workers
  orders : ∀ pruned now, state.clock ≤ pruned → pruned ≤ now →
    allowed state (.orderedByScore pruned now) → ∃ ordered,
        orderedByScore settings state.workers pruned now = .ok ordered ∧
        (∀ stats, stats ∈ ordered ↔ state.Fresh settings now stats) ∧
        ordered.Pairwise fun first second =>
          rank settings first < rank settings second
  picks : ∀ pruned now, state.clock ≤ pruned → pruned ≤ now →
    allowed state (.pickLeastLoaded pruned now) → ∃ ordered,
        orderedByScore settings state.workers pruned now = .ok ordered ∧
        pickLeastLoaded settings state.workers pruned now = .ok ordered.head?

theorem sound_of_admissible
    (reached : (system settings).ReachableWithin (Admissible settings) state) :
    state.Sound settings (Admissible settings) := by
  have tracks := tracks_of_reachableWithin reached
  refine ⟨tracks.bounded, ?_, ?_, ?_⟩
  · intro payload now _ mayBeat
    exact exists_recordHeartbeat mayBeat now
  · intro pruned now later inOrder mayRead
    obtain ⟨ordered, isOrdered, isFresh, sorted, -⟩ := reads_of_mayRead tracks mayRead later inOrder
    exact ⟨ordered, isOrdered, isFresh, sorted⟩
  · intro pruned now later inOrder mayRead
    obtain ⟨ordered, isOrdered, -, -, isPicked⟩ := reads_of_mayRead tracks mayRead later inOrder
    exact ⟨ordered, isOrdered, isPicked⟩

section Example

/-- The settings of the hub. -/
def defaults : Settings where
  intOfText _ := none

def heartbeatOf (workerId : String) (activeRequests : Json) : List (PyStr × Json) :=
  [(.text "worker_id", .str (.text workerId)), (.text "active_requests", activeRequests)]

/-- Two heartbeats arrive, and the second worker is picked. -/
theorem exists_sound_run : ∃ state, State.Sound defaults (Admissible defaults) state ∧
      pickLeastLoaded defaults state.workers 30 30 =
        .ok (some ⟨"b", 22, 0, 0, 1⟩) := by
  have finite (workerId : String) (value : ℤ) (state : State) :
      state.MayBeat (heartbeatOf workerId (.int value)) := by
    intro _ key member
    simp only [List.mem_cons, List.not_mem_nil, or_false] at member
    rcases member with rfl | rfl | rfl <;> exact id
  have reached : (system defaults).ReachableWithin (Admissible defaults) {} :=
    .start ⟨le_refl 0, rfl, rfl⟩
  have runs : ((system defaults).run {} [.recordHeartbeat (heartbeatOf "a" (.int 2)) 21,
        .recordHeartbeat (heartbeatOf "b" (.int 1)) 22]).any (fun state =>
          decide (pickLeastLoaded defaults state.workers 30 30 =
            .ok (some ⟨"b", 22, 0, 0, 1⟩))) = true := by
    decide +kernel
  obtain ⟨state, ran, isPicked⟩ := (Option.any_eq_true _ _).mp runs
  refine ⟨state, sound_of_admissible (reached.of_run _ ?_ ran), of_decide_eq_true isPicked⟩
  intro operation member state
  simp only [List.mem_cons, List.not_mem_nil, or_false] at member
  rcases member with rfl | rfl
  · exact finite "a" 2 state
  · exact finite "b" 1 state

/-- An infinite number of requests raises. -/
theorem exists_not_sound : ∃ state, (system defaults).Reachable state ∧
      ¬ state.Sound defaults (fun _ _ => True) := by
  refine ⟨{}, .start ⟨le_refl 0, rfl, rfl⟩, fun sound => ?_⟩
  obtain ⟨workers, returns⟩ := sound.beats
    (heartbeatOf "a" (.nonFinite "Infinity")) 21 (by decide) trivial
  have raises : WorkerRegistry.recordHeartbeat defaults ∅
      (heartbeatOf "a" (.nonFinite "Infinity")) 21 =
        .error (.other "OverflowError") := by
    decide
  cases raises.symm.trans returns

end Example

end State

end WorkerRegistry

end RoxabiFactory

import RoxabiFactory.ActiveJobsKv
import RoxabiFactory.TimeOrder

/-!
# A job that is refused

`open` writes the entry of the job before it tries to create the index of the
pool.  When the index belongs to another job the call raises, and the entry
stays.  What the readers of the registry return is compared before and after
such a call, which runs by itself.
-/

namespace RoxabiFactory

namespace ActiveJobs

/-! ## What the registry returns -/

/-- `entries.sort(key=lambda e: e.started_at, reverse=True)`; a time with an
offset is not compared with one without. -/
def sortByStart (entries : List ActiveJobEntry) : Py (List ActiveJobEntry) :=
  if entries.all (fun entry => entry.startedAt.val.offset.isNone) ||
      entries.all (fun entry => entry.startedAt.val.offset.isSome) then
    .ok (entries.mergeSort fun entry other =>
      decide (other.startedAt.val.instant ≤ entry.startedAt.val.instant))
  else .error .typeError

namespace Bucket

/-- The entry at a key. -/
def readJob (bucket : Bucket) (key : String) : Py (Option ActiveJobEntry) :=
  match bucket.jobs key with
  | none => .ok none
  | some document => (bytesToEntry document).map some

theorem getJob_eq (bucket : Bucket) (jobId : String) :
    bucket.getJob jobId = bucket.readJob (jobKey jobId) :=
  rfl

/-- The entries at the keys that begin with `job.`. -/
def readJobs (bucket : Bucket) : List String → Py (List ActiveJobEntry)
  | [] => .ok []
  | key :: keys =>
    if "job.".toList <+: key.toList then do
      let entry ← bucket.readJob key
      let entries ← bucket.readJobs keys
      return entry.toList ++ entries
    else bucket.readJobs keys

/-- `list_all`, on the keys that `kv.keys` returns. -/
def listAll (bucket : Bucket) (keys : List String) :
    Py (List ActiveJobEntry) := do
  sortByStart (← bucket.readJobs keys)

/-- The keys of the bucket, in some order. -/
def HasKeys (bucket : Bucket) (keys : List String) : Prop :=
  ∀ key, key ∈ keys ↔ (bucket.jobs key).isSome = true

/-- `list_all` returns these jobs. -/
def Lists (bucket : Bucket) (jobs : Set ActiveJobEntry) : Prop :=
  ∃ keys entries, bucket.HasKeys keys ∧ bucket.listAll keys = .ok entries ∧
    jobs = {entry | entry ∈ entries}

/-- The readers of the registry return the same jobs from both buckets. -/
structure SameJobs (bucket other : Bucket) : Prop where
  lists : ∀ jobs, bucket.Lists jobs ↔ other.Lists jobs
  gets : ∀ jobId, bucket.getJob jobId = other.getJob jobId
  getsByPool : ∀ poolId, bucket.getByPool bucket poolId = other.getByPool other poolId

variable {bucket other : Bucket}

theorem readJobs_congr (same : ∀ key, bucket.readJob key = other.readJob key)
    (keys : List String) : bucket.readJobs keys = other.readJobs keys := by
  induction keys with
  | nil => rfl
  | cons key keys ih =>
    unfold readJobs
    rw [same key, ih]

theorem hasKeys_congr (same : ∀ key, (bucket.jobs key).isSome = (other.jobs key).isSome)
    (keys : List String) : bucket.HasKeys keys ↔ other.HasKeys keys := by
  unfold HasKeys
  simp only [same]

theorem SameJobs.of_readJob (keys : ∀ key, (bucket.jobs key).isSome = (other.jobs key).isSome)
    (entries : ∀ key, bucket.readJob key = other.readJob key)
    (index : bucket.index = other.index) : bucket.SameJobs other where
  lists jobs := by
    unfold Lists listAll
    simp only [hasKeys_congr keys, readJobs_congr entries]
  gets jobId := entries (jobKey jobId)
  getsByPool poolId := by
    unfold getByPool
    rw [index]
    simp only [getJob_eq, entries]

theorem getJob_putJob (bucket : Bucket) (entry : ActiveJobEntry) :
    (bucket.putJob entry.jobId entry).getJob entry.jobId =
      .ok (some entry) := by
  simp [getJob, putJob, Except.map]

theorem sameJobs_putJob {entry : ActiveJobEntry}
    (present : bucket.getJob entry.jobId = .ok (some entry)) :
    bucket.SameJobs (bucket.putJob entry.jobId entry) := by
  have stored : (bucket.jobs (jobKey entry.jobId)).isSome = true := by
    cases found : bucket.jobs (jobKey entry.jobId) with
    | some document => rfl
    | none =>
      rw [getJob, found] at present
      cases present
  apply SameJobs.of_readJob
  · intro key
    by_cases same : key = jobKey entry.jobId
    · subst same
      simp [stored, putJob]
    · simp [putJob, same]
  · intro key
    by_cases same : key = jobKey entry.jobId
    · subst same
      rw [← getJob_eq, ← getJob_eq, present, getJob_putJob]
    · simp [readJob, putJob, same]
  · rfl

end Bucket

/-! ## A call by itself -/

/-- The operations of a call, one after the other. -/
def Phase.runAlone : ℕ → Phase → Bucket → Bucket × Phase
  | 0, phase, bucket => (bucket, phase)
  | operations + 1, phase, bucket =>
    if phase.isFree then (bucket, phase)
    else (phase.next bucket).runAlone operations (phase.effect bucket)

/-- `open`, which has three operations at most. -/
def Bucket.openJob (bucket : Bucket) (entry : ActiveJobEntry) : Bucket × Phase :=
  (Phase.openPut entry).runAlone 3 bucket

/-- The index of the pool belongs to another job. -/
def Bucket.Occupied (bucket : Bucket) (entry : ActiveJobEntry) : Prop := entry.isSingleton = true ∧
    (bucket.index (idxKey entry.poolId)).isSome = true ∧
    bucket.winnerId entry.poolId ≠ entry.jobId

/-- The call raises `RegistryConflictError`. -/
def Phase.IsConflict : Phase → Prop
  | .conflict .. => True
  | _ => False

variable {bucket : Bucket} {entry : ActiveJobEntry}

theorem winnerId_putJob (jobId poolId : String) :
    (bucket.putJob jobId entry).winnerId poolId = bucket.winnerId poolId :=
  rfl

theorem index_putJob (jobId : String) : (bucket.putJob jobId entry).index = bucket.index :=
  rfl

/-- What the three operations of `open` come to. -/
theorem openJob_eq (bucket : Bucket) (entry : ActiveJobEntry) : bucket.openJob entry =
      if entry.isSingleton then
        if (bucket.index (idxKey entry.poolId)).isNone then
          ((bucket.putJob entry.jobId entry).putIndex entry.poolId entry.jobId, .idle)
        else if bucket.winnerId entry.poolId = entry.jobId then
          (bucket.putJob entry.jobId entry, .idle)
        else (bucket.putJob entry.jobId entry,
          .conflict entry.poolId (bucket.winnerId entry.poolId))
      else (bucket.putJob entry.jobId entry, .idle) := by
  unfold Bucket.openJob
  cases singleton : entry.isSingleton with
  | false => simp [Phase.runAlone, Phase.next, Phase.effect, Phase.isFree, singleton]
  | true =>
    cases owner : bucket.index (idxKey entry.poolId) with
    | none => simp [Phase.runAlone, Phase.next, Phase.effect, Phase.isFree,
        singleton, index_putJob, owner]
    | some jobId =>
      simp only [Phase.runAlone, Phase.isFree, Bool.false_eq_true, if_false,
        Phase.next, singleton, if_true, Phase.effect, index_putJob, owner,
        Option.isNone_some, winnerId_putJob]
      split <;> rfl

theorem openJob_of_occupied (occupied : bucket.Occupied entry) :
    bucket.openJob entry = (bucket.putJob entry.jobId entry,
      .conflict entry.poolId (bucket.winnerId entry.poolId)) := by
  obtain ⟨singleton, taken, foreign⟩ := occupied
  rw [← Option.not_isNone, Bool.not_eq_true'] at taken
  simp [openJob_eq, singleton, taken, foreign]

theorem isConflict_openJob : (bucket.openJob entry).2.IsConflict ↔ bucket.Occupied entry := by
  constructor
  · intro conflict
    rw [openJob_eq] at conflict
    split at conflict
    · rename_i singleton
      split at conflict
      · exact conflict.elim
      · rename_i taken
        split at conflict
        · exact conflict.elim
        · rename_i foreign
          rw [Option.isNone_iff_eq_none, ← ne_eq, Option.ne_none_iff_isSome] at taken
          exact ⟨singleton, taken, foreign⟩
    · exact conflict.elim
  · intro occupied
    rw [openJob_of_occupied occupied]
    trivial

/-- A refused call leaves the jobs as they were exactly when the entry was
there before. -/
theorem sameJobs_of_conflict_iff (bucket : Bucket) (entry : ActiveJobEntry) :
    ((bucket.openJob entry).2.IsConflict → bucket.SameJobs (bucket.openJob entry).1) ↔
      (bucket.Occupied entry → bucket.getJob entry.jobId = .ok (some entry)) := by
  rw [isConflict_openJob]
  apply imp_congr_right
  intro occupied
  rw [openJob_of_occupied occupied]
  constructor
  · intro same
    rw [same.gets]
    exact Bucket.getJob_putJob bucket entry
  · exact Bucket.sameJobs_putJob

/-! ## The call among the calls of the registry -/

section Calls

variable {Task : Type} [DecidableEq Task]

theorem run_calls (operations : ℕ) (state : State Task) (task : Task) : ∃ count after,
      (system Task).run state (List.replicate count (.call task)) = some after ∧ after.bucket =
          ((state.phases task).runAlone operations state.bucket).1 ∧
        after.phases task = ((state.phases task).runAlone operations state.bucket).2 := by
  induction operations generalizing state with
  | zero => exact ⟨0, state, rfl, rfl, rfl⟩
  | succ operations ih =>
    unfold Phase.runAlone
    cases free : (state.phases task).isFree with
    | true => exact ⟨0, state, rfl, rfl, rfl⟩
    | false =>
      let next := (state.perform (state.phases task)).resume task
        ((state.phases task).next state.bucket)
        ((state.phases task).acquired state.bucket)
      obtain ⟨count, after, runs, bucketEq, phaseEq⟩ := ih next
      have stepTo : state.step (.call task) = some next := by
        simp [State.step, free, next]
      have nextPhase : next.phases task = (state.phases task).next state.bucket := by
        simp [next, State.resume]
      have nextBucket : next.bucket = (state.phases task).effect state.bucket := rfl
      rw [nextPhase, nextBucket] at bucketEq phaseEq
      refine ⟨count + 1, after, ?_, bucketEq, phaseEq⟩
      rw [List.replicate_succ, TransitionSystem.run]
      change (state.step (.call task)).bind _ = _
      rw [stepTo]
      exact runs

end Calls

section Example

theorem valid_exampleStart :
    TimeFields.Valid { year := 2026, month := 1, day := 2, offset := some 0 } := by
  decide

def steeringJob (jobId : String) : ActiveJobEntry where
  jobId := jobId
  poolId := "telegram:main:1"
  status := "running"
  startedAt := ⟨_, valid_exampleStart⟩
  steerSubject := "steer"
  concurrencyMode := "steer"

/-- The pool belongs to the first job.  The second one is refused, and can be
read afterwards. -/
theorem exists_kept_entry :
    let bucket := (Bucket.openJob { } (steeringJob "first")).1
    let refused := bucket.openJob (steeringJob "second")
    refused.2.IsConflict ∧ ¬ bucket.SameJobs refused.1 := by
  dsimp only
  constructor
  · rw [isConflict_openJob]
    exact ⟨rfl, rfl, by decide⟩
  · intro same
    have unread : (Bucket.openJob { } (steeringJob "first")).1.getJob "second" = .ok none := rfl
    have read : ((Bucket.openJob { } (steeringJob "first")).1.openJob
        (steeringJob "second")).1.getJob "second" =
          .ok (some (steeringJob "second")) := rfl
    cases unread.symm.trans ((same.gets "second").trans read)

end Example

end ActiveJobs

end RoxabiFactory

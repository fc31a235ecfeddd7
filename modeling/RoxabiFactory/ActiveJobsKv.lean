import RoxabiFactory.IsoTime
import RoxabiFactory.KvKeys
import RoxabiFactory.PythonValues
import RoxabiFactory.TransitionSystem

/-!
# The registry of active jobs

A job has an entry of its own, and the jobs of a pool that take turns share an
index key, which names the job that runs.  Every call of `open`, `refresh` and
`close` is a sequence of single operations on the bucket, and the calls of any
number of clients interleave between them.
-/

namespace RoxabiFactory

namespace ActiveJobs

open Kv

structure ActiveJobEntry where
  jobId : String
  poolId : String
  status : String
  startedAt : DateTime
  steerSubject : String
  concurrencyMode : String
  workerLoc : Option String := none
  deriving DecidableEq

/-- The mode is one of `_SINGLETON_MODES`. -/
def ActiveJobEntry.isSingleton (entry : ActiveJobEntry) : Bool :=
  entry.concurrencyMode ∈ ["steer", "queue"]

/-! ## Documents -/

/-- The document of `_entry_to_bytes`. -/
def entryToBytes (entry : ActiveJobEntry) : Json := .obj [(.text "job_id", .ofString entry.jobId),
    (.text "pool_id", .ofString entry.poolId),
    (.text "status", .ofString entry.status),
    (.text "started_at", .ofString (String.ofList entry.startedAt.val.isoformat)),
    (.text "steer_subject", .ofString entry.steerSubject),
    (.text "concurrency_mode", .ofString entry.concurrencyMode),
    (.text "worker_loc", entry.workerLoc.elim .null .ofString)]

/-- `data[key]`, a text. -/
def textAt (document : Json) (key : String) : Py String :=
  match document with
  | .obj members =>
    match members.lookup (.text key) with
    | some value => value.asText.elim (.error .typeError) .ok
    | none => .error .keyError
  | _ => .error .typeError

/-- `datetime.fromisoformat`. -/
def timeOf (text : String) : Py DateTime :=
  match TimeFields.fromisoformat text.toList with
  | some time =>
    if valid : time.Valid then .ok ⟨time, valid⟩ else .error .valueError
  | none => .error .valueError

/-- `_bytes_to_entry`. -/
def bytesToEntry (document : Json) : Py ActiveJobEntry := do
  return {
    jobId := ← textAt document "job_id"
    poolId := ← textAt document "pool_id"
    status := ← textAt document "status"
    startedAt := ← timeOf (← textAt document "started_at")
    steerSubject := ← textAt document "steer_subject"
    concurrencyMode := ← textAt document "concurrency_mode"
    workerLoc := (← document.get "worker_loc" .null).asText }

@[simp]
theorem timeOf_isoformat (time : DateTime) :
    timeOf (String.ofList time.val.isoformat) = .ok time := by
  simp [timeOf, TimeFields.fromisoformat_isoformat time.property, time.property]

@[simp]
theorem bytesToEntry_entryToBytes (entry : ActiveJobEntry) :
    bytesToEntry (entryToBytes entry) = .ok entry := by
  have jobId : textAt (entryToBytes entry) "job_id" = .ok entry.jobId := rfl
  have poolId : textAt (entryToBytes entry) "pool_id" = .ok entry.poolId := rfl
  have status : textAt (entryToBytes entry) "status" = .ok entry.status := rfl
  have startedAt : textAt (entryToBytes entry) "started_at" =
      .ok (String.ofList entry.startedAt.val.isoformat) := rfl
  have steerSubject : textAt (entryToBytes entry) "steer_subject" =
      .ok entry.steerSubject := rfl
  have concurrencyMode : textAt (entryToBytes entry) "concurrency_mode" =
      .ok entry.concurrencyMode := rfl
  have workerLoc : (entryToBytes entry).get "worker_loc" .null =
      .ok (entry.workerLoc.elim .null .ofString) := rfl
  have location : (entry.workerLoc.elim Json.null Json.ofString).asText =
      entry.workerLoc := by
    cases entry.workerLoc <;> rfl
  simp only [bytesToEntry, jobId, poolId, status, startedAt, steerSubject,
    concurrencyMode, workerLoc, timeOf_isoformat, location, bind, Except.bind,
    pure, Except.pure]

/-! ## The bucket -/

/-- The bucket `factory-active-jobs`: the keys that begin with `job.` hold the
documents, those that begin with `idx.` the id of a job. -/
structure Bucket where
  jobs : String → Option Json := fun _ => none
  index : String → Option String := fun _ => none

/-- `_job_key`. -/
def jobKey (jobId : String) : String := "job." ++ kvSafePart jobId

/-- `_idx_key`. -/
def idxKey (poolId : String) : String := "idx." ++ kvSafePart poolId

theorem jobKey_eq_iff {jobId other : String} :
    jobKey jobId = jobKey other ↔ Confusable jobId other := by
  rw [jobKey, jobKey, String.append_right_inj, kvSafePart_eq_iff]

theorem idxKey_eq_iff {poolId other : String} :
    idxKey poolId = idxKey other ↔ Confusable poolId other := by
  rw [idxKey, idxKey, String.append_right_inj, kvSafePart_eq_iff]

namespace Bucket

def putJob (bucket : Bucket) (jobId : String) (entry : ActiveJobEntry) :
    Bucket :=
  { bucket with
    jobs := Function.update bucket.jobs (jobKey jobId) (some (entryToBytes entry)) }

def deleteJob (bucket : Bucket) (jobId : String) : Bucket :=
  { bucket with jobs := Function.update bucket.jobs (jobKey jobId) none }

def putIndex (bucket : Bucket) (poolId jobId : String) : Bucket :=
  { bucket with
    index := Function.update bucket.index (idxKey poolId) (some jobId) }

def deleteIndex (bucket : Bucket) (poolId : String) : Bucket :=
  { bucket with index := Function.update bucket.index (idxKey poolId) none }

/-- The entry at the key of a job. -/
def getJob (bucket : Bucket) (jobId : String) : Py (Option ActiveJobEntry) :=
  match bucket.jobs (jobKey jobId) with
  | none => .ok none
  | some document => (bytesToEntry document).map some

/-- The owner that `open` reports when it has lost the race for the index. -/
def winnerId (bucket : Bucket) (poolId : String) : String :=
  match bucket.index (idxKey poolId) with
  | none => "<unknown>"
  | some jobId => if jobId = "" then "<unknown>" else jobId

/-- `get_by_pool`, which reads the index in one state of the bucket and the
entry in a later one. -/
def getByPool (bucket later : Bucket) (poolId : String) : Py (Option ActiveJobEntry) :=
  match bucket.index (idxKey poolId) with
  | none => .ok none
  | some jobId => if jobId = "" then .ok none else later.getJob jobId

end Bucket

/-! ## Calls -/

/-- Where a call is: the operation on the bucket that comes next. -/
inductive Phase
  | idle
  /-- `RegistryConflictError`. -/
  | conflict (poolId existingJobId : String)
  | openPut (entry : ActiveJobEntry)
  | openCreate (entry : ActiveJobEntry)
  /-- The read of the index after a create that failed. -/
  | openWinner (entry : ActiveJobEntry)
  | refreshGet (jobId : String)
  | refreshPutJob (jobId : String) (entry : ActiveJobEntry)
  | refreshPutIndex (jobId : String) (entry : ActiveJobEntry)
  | closeGet (jobId : String)
  | closeGetIndex (jobId : String) (entry : ActiveJobEntry)
  | closeDeleteIndex (jobId : String) (entry : ActiveJobEntry)
  | closeDelete (jobId : String)

namespace Phase

/-- No call is in progress. -/
def isFree : Phase → Bool
  | .idle | .conflict _ _ => true
  | _ => false

/-- What the next operation does to the bucket. -/
def effect (phase : Phase) (bucket : Bucket) : Bucket :=
  match phase with
  | .openPut entry => bucket.putJob entry.jobId entry
  | .openCreate entry =>
    if (bucket.index (idxKey entry.poolId)).isNone then
      bucket.putIndex entry.poolId entry.jobId
    else bucket
  | .refreshPutJob jobId entry => bucket.putJob jobId entry
  | .refreshPutIndex jobId entry => bucket.putIndex entry.poolId jobId
  | .closeDeleteIndex _ entry => bucket.deleteIndex entry.poolId
  | .closeDelete jobId => bucket.deleteJob jobId
  | _ => bucket

/-- How the call goes on when the operation has returned. -/
def next (phase : Phase) (bucket : Bucket) : Phase :=
  match phase with
  | .openPut entry => if entry.isSingleton then .openCreate entry else .idle
  | .openCreate entry =>
    if (bucket.index (idxKey entry.poolId)).isNone then .idle
    else .openWinner entry
  | .openWinner entry =>
    if bucket.winnerId entry.poolId = entry.jobId then .idle
    else .conflict entry.poolId (bucket.winnerId entry.poolId)
  | .refreshGet jobId =>
    match bucket.getJob jobId with
    | .ok (some entry) => .refreshPutJob jobId entry
    | _ => .idle
  | .refreshPutJob jobId entry =>
    if entry.isSingleton then .refreshPutIndex jobId entry else .idle
  | .closeGet jobId =>
    match bucket.getJob jobId with
    | .ok (some entry) =>
      if entry.isSingleton then .closeGetIndex jobId entry
      else .closeDelete jobId
    | _ => .idle
  | .closeGetIndex jobId entry =>
    if bucket.index (idxKey entry.poolId) = some jobId then
      .closeDeleteIndex jobId entry
    else .closeDelete jobId
  | .closeDeleteIndex jobId _ => .closeDelete jobId
  | _ => .idle

end Phase

/-- A job that has the turn of its pool. -/
structure Lease where
  jobId : String
  poolId : String
  deriving DecidableEq

def ActiveJobEntry.lease (entry : ActiveJobEntry) : Lease := ⟨entry.jobId, entry.poolId⟩

namespace Phase

/-- The job that `open` returns for, once the operation has returned. -/
def acquired (phase : Phase) (bucket : Bucket) : Option Lease :=
  match phase with
  | .openCreate entry =>
    if (bucket.index (idxKey entry.poolId)).isNone then some entry.lease
    else none
  | .openWinner entry =>
    if bucket.winnerId entry.poolId = entry.jobId then some entry.lease
    else none
  | _ => none

/-- The job whose entry `open` has written and whose index it has not. -/
def opening : Phase → Option Lease
  | .openCreate entry | .openWinner entry => some entry.lease
  | _ => none

/-- The job whose keys the next operation deletes. -/
def closing : Phase → Option String
  | .closeDeleteIndex jobId _ | .closeDelete jobId => some jobId
  | _ => none

end Phase

structure State (Task : Type) where
  bucket : Bucket := { }
  phases : Task → Phase := fun _ => .idle
  /-- The jobs for which `open` has returned since, and which have neither been
  closed nor lost one of their keys to its expiry. -/
  leases : List Lease := []

inductive Action (Task : Type)
  | open (task : Task) (entry : ActiveJobEntry)
  | refresh (task : Task) (jobId : String)
  | close (task : Task) (jobId : String)
  /-- The next operation of a call returns. -/
  | call (task : Task)
  /-- The next operation raises, although the bucket may have done it. -/
  | fail (task : Task) (stored : Bool)
  | expireJob (key : String)
  | expireIndex (key : String)

variable {Task : Type} [DecidableEq Task]

namespace State

/-- A task without a call begins one. -/
def begin (state : State Task) (task : Task) (phase : Phase) : Option (State Task) :=
  if (state.phases task).isFree then
    some { state with phases := Function.update state.phases task phase }
  else none

/-- The jobs that still have the turn when one of them is closed. -/
def remaining (state : State Task) (closing : Option String) : List Lease :=
  state.leases.filter fun lease => some lease.jobId ≠ closing

/-- The bucket does the next operation of a call. -/
def perform (state : State Task) (phase : Phase) : State Task :=
  { state with
    bucket := phase.effect state.bucket
    leases := state.remaining phase.closing }

/-- The call goes on. -/
def resume (state : State Task) (task : Task) (phase : Phase)
    (acquired : Option Lease) : State Task :=
  { state with
    phases := Function.update state.phases task phase
    leases := acquired.toList ++ state.leases }

def step (state : State Task) : Action Task → Option (State Task)
  | .open task entry => state.begin task (.openPut entry)
  | .refresh task jobId => state.begin task (.refreshGet jobId)
  | .close task jobId =>
    State.begin { state with leases := state.remaining (some jobId) } task
      (.closeGet jobId)
  | .call task =>
    let phase := state.phases task
    if phase.isFree then none
    else some ((state.perform phase).resume task (phase.next state.bucket)
      (phase.acquired state.bucket))
  | .fail task stored =>
    let phase := state.phases task
    if phase.isFree then none
    else if stored then some ((state.perform phase).resume task .idle none)
    else some (state.resume task .idle none)
  | .expireJob key => some { state with
      bucket := { state.bucket with
        jobs := Function.update state.bucket.jobs key none }
      leases := state.leases.filter fun lease => jobKey lease.jobId ≠ key }
  | .expireIndex key => some { state with
      bucket := { state.bucket with
        index := Function.update state.bucket.index key none }
      leases := state.leases.filter fun lease => idxKey lease.poolId ≠ key }

end State

/-- The registry with clients that make any calls. -/
def system (Task : Type) [DecidableEq Task] : TransitionSystem (State Task) (Action Task) where
  initial state := state = { }
  step := State.step

end ActiveJobs

end RoxabiFactory

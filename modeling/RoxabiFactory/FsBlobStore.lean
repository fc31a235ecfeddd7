import Mathlib.Logic.Function.Basic
import RoxabiFactory.TimeOrder
import RoxabiFactory.TransitionSystem

/-!
# The blob store on the file system

Every content is one file under its hash, and the manifest keeps a row of
`blobs` for the content and a row of `blob_refs` for every ingestion.  The
tasks of one process share the connection, so each of them reads what the
others have not committed yet, and `put`, `exists` and `delete` hold the lock
from their first statement to their last step.  A statement is one step, as is
the code between two of them: the file of a new content is written in one step,
within which the process may stop after any of its system calls.
-/

namespace RoxabiFactory

namespace FsBlobStore

abbrev Bytes := List UInt8

/-- An absolute path, by its parts. -/
abbrev Path := List String

/-- `Path.resolve`, where no part is a symbolic link. -/
def resolve (path : Path) : Path := path.foldl (fun resolved part =>
    if part = "." ∨ part = "" then resolved
    else if part = ".." then resolved.dropLast
    else resolved ++ [part]) []

/-- A part that stands for itself. -/
def IsName (part : String) : Prop := part ≠ "." ∧ part ≠ "" ∧ part ≠ ".."

instance (part : String) : Decidable (IsName part) := inferInstanceAs (Decidable (_ ∧ _))

/-- `_shard_for`. -/
def shardFor (contentHash : String) : String := String.ofList (contentHash.toList.take 2)

/-- `hashlib.sha256`. -/
structure Sha256 where
  hexdigest : Bytes → String
  length_hexdigest : ∀ data, (hexdigest data).toList.length = 64
  isHex : ∀ data, ∀ digit ∈ (hexdigest data).toList, digit ∈ "0123456789abcdef".toList

end FsBlobStore

/-- What an `FsBlobStore` is made with; the root is resolved. -/
structure FsBlobStore where
  root : FsBlobStore.Path
  resolved : FsBlobStore.resolve root = root
  maxBytes : Option Nat := none
  sha256 : FsBlobStore.Sha256

namespace FsBlobStore

/-- A row of `blobs`. -/
structure BlobRow where
  contentHash : String
  mime : String
  size : Nat
  storePath : Path
  firstSeenAt : List Char
  deriving DecidableEq

/-- A row of `blob_refs`. -/
structure RefRow where
  id : Nat
  contentHash : String
  source : String
  platformRef : Option String
  platformMessageId : Option String
  filename : Option String
  ingestedAt : List Char
  deriving DecidableEq

/-- The two tables, the rows of `blob_refs` by their ids. -/
structure Manifest where
  blobs : List BlobRow := []
  refs : List RefRow := []
  /-- The last id that `AUTOINCREMENT` has given. -/
  sequence : Nat := 0
  deriving DecidableEq

namespace Manifest

/-- `_lookup_existing`. -/
def lookupExisting (manifest : Manifest) (contentHash : String) : Option BlobRow :=
  manifest.blobs.find? (·.contentHash = contentHash)

/-- `INSERT OR IGNORE INTO blobs`. -/
def insertBlob (manifest : Manifest) (row : BlobRow) : Manifest :=
  if (manifest.lookupExisting row.contentHash).isSome then manifest
  else { manifest with blobs := manifest.blobs ++ [row] }

/-- `INSERT INTO blob_refs`, which chooses the id of the row. -/
def insertRef (manifest : Manifest) (row : RefRow) : Manifest :=
  { manifest with
    refs := manifest.refs ++ [{ row with id := manifest.sequence + 1 }]
    sequence := manifest.sequence + 1 }

/-- The row of `blob_refs` with this id. -/
def findRef (manifest : Manifest) (blobRefId : Nat) : Option RefRow :=
  manifest.refs.find? (·.id = blobRefId)

/-- The first statement of `delete`: the row and its row of `blobs`. -/
def joined (manifest : Manifest) (blobRefId : Nat) :
    Option (RefRow × BlobRow) := do
  let row ← manifest.findRef blobRefId
  let blob ← manifest.lookupExisting row.contentHash
  return (row, blob)

def deleteRef (manifest : Manifest) (blobRefId : Nat) : Manifest :=
  { manifest with refs := manifest.refs.filter (·.id ≠ blobRefId) }

/-- `SELECT COUNT(*) FROM blob_refs`. -/
def countRefs (manifest : Manifest) (contentHash : String) : Nat :=
  manifest.refs.countP (·.contentHash = contentHash)

def deleteBlob (manifest : Manifest) (contentHash : String) : Manifest :=
  { manifest with
    blobs := manifest.blobs.filter (·.contentHash ≠ contentHash) }

/-- `ORDER BY ingested_at DESC LIMIT 1`; the older row comes first among
equals. -/
def latest : List RefRow → Option RefRow
  | [] => none
  | row :: rows =>
    match latest rows with
    | none => some row
    | some other =>
      if row.ingestedAt < other.ingestedAt then some other else some row

/-- The statement of `exists`. -/
def lookupLatest (manifest : Manifest) (contentHash : String) :
    Option (RefRow × BlobRow) := do
  let blob ← manifest.lookupExisting contentHash
  let row ← latest (manifest.refs.filter (·.contentHash = contentHash))
  return (row, blob)

/-- The references that a sweep removes. -/
def isStale (cutoff : List Char) (excludeSources : List String) (row : RefRow) : Bool :=
  decide (row.ingestedAt < cutoff ∧ row.source ∉ excludeSources)

end Manifest

/-- A `BlobRef` of the package. -/
structure BlobRef where
  storeKey : Path
  contentHash : String
  mime : String
  size : Nat
  filename : Option String
  source : String
  platformRef : Option String
  platformMessageId : Option String
  id : Option Nat
  createdAt : TimeFields
  deriving DecidableEq

structure OsError where
  strerror : Option String
  deriving DecidableEq

inductive BlobError
  | write (message : String)
  | notFound (message : String)
  | os (error : OsError)
  | value
  deriving DecidableEq

/-- `e.strerror or 'OSError'`. -/
def OsError.text (error : OsError) : String :=
  match error.strerror with
  | none | some "" => "OSError"
  | some text => text

/-- `content_hash[:12]`. -/
def shortHash (contentHash : String) : String := String.ofList (contentHash.toList.take 12)

/-- The arguments of `put`. -/
structure Put where
  data : Bytes
  mime : String
  source : String
  filename : Option String := none
  platformRef : Option String := none
  platformMessageId : Option String := none
  deriving DecidableEq

/-- A system call on a file. -/
inductive FileOp
  | create (path : Path)
  | append (path : Path) (data : Bytes)
  | sync (path : Path)
  | unlink (path : Path)
  deriving DecidableEq

abbrev Files := Path → Option Bytes

def FileOp.apply (files : Files) : FileOp → Files
  | .create path => Function.update files path (some [])
  | .append path data =>
    Function.update files path ((files path).map (· ++ data))
  | .sync _ => files
  | .unlink path => Function.update files path none

def applyOps (files : Files) (ops : List FileOp) : Files := ops.foldl FileOp.apply files

/-- What the system calls of `_write_blob_file` answer. -/
structure WriteAnswers where
  /-- `shard_dir.mkdir`. -/
  mkdir : Except OsError Unit := .ok ()
  /-- `os.open`, apart from an existing file. -/
  create : Except OsError Unit := .ok ()
  /-- The number of bytes that `os.write` has written. -/
  write : Except OsError Nat
  /-- The calls from `os.fsync(fd)` to the end. -/
  sync : Except OsError Unit := .ok ()
  /-- `file_path.unlink` after an error. -/
  unlink : Except OsError Unit := .ok ()

/-- The handler of an `OSError`. -/
def cleanUp (path : Path) (contentHash : String) (answers : WriteAnswers)
    (done : List FileOp) (error : OsError) :
    List FileOp × Except BlobError Unit :=
  match answers.unlink with
  | .ok () => (done ++ [.unlink path], .error (.write
      ("blob write failed for " ++ shortHash contentHash ++ "…: " ++ error.text)))
  | .error other => (done, .error (.os other))

/-- `_write_blob_file`: the calls that take effect, and how it ends. -/
def writeBlobFile (files : Files) (path : Path) (data : Bytes)
    (contentHash : String) (answers : WriteAnswers) :
    List FileOp × Except BlobError Unit :=
  match answers.mkdir with
  | .error error => ([], .error (.os error))
  | .ok () =>
    match answers.create with
    | .error error => cleanUp path contentHash answers [] error
    | .ok () =>
      if (files path).isSome then
        -- `FileExistsError`: the existing file is trusted
        ([], .ok ())
      else
        match answers.write with
        | .error error =>
          cleanUp path contentHash answers [.create path] error
        | .ok count =>
          let written := [.create path, .append path (data.take count)]
          match answers.sync with
          | .error error =>
            cleanUp path contentHash answers written error
          | .ok () => (written ++ [.sync path], .ok ())

/-- A sweep whose snapshot has been taken. -/
structure Sweep where
  cutoff : UtcTime
  excludeSources : List String
  /-- The ids that are still to be deleted. -/
  staleIds : List Nat
  refsDeleted : Nat := 0
  filesUnlinked : Nat := 0
  remainingBefore : Nat := 0
  /-- The references of the snapshot. -/
  seen : List RefRow
  /-- The references that its deletions have removed. -/
  removed : List RefRow := []
  deriving DecidableEq

/-- A call of `delete`, from outside or from a sweep. -/
structure Delete where
  blobRefId : Nat
  sweep : Option Sweep := none

/-- What `store_path`, `mime` and `size` are in `put`. -/
structure Stored where
  storePath : Path
  mime : String
  size : Nat

/-- An operation that waits for the lock. -/
inductive Job
  | put (request : Put)
  | exists (contentHash : String)
  | delete (job : Delete)

/-- The next step of a task, by the operation that it runs. -/
inductive Phase
  | idle
  | acquire (job : Job)
  | putLookup (request : Put) (now : UtcTime)
  | putWrite (request : Put) (now : UtcTime)
  | putInsertBlob (request : Put) (now : UtcTime)
  | putReread (request : Put) (now : UtcTime)
  | putInsertRef (request : Put) (now : UtcTime) (stored : Stored)
  | putCommit (request : Put) (now : UtcTime) (stored : Stored) (id : Nat)
  | existsSelect (contentHash : String)
  | deleteSelect (job : Delete)
  | deleteRef (job : Delete) (blob : BlobRow)
  | deleteCount (job : Delete) (blob : BlobRow)
  | deleteBlob (job : Delete) (blob : BlobRow)
  | deleteCommit (job : Delete) (blob : BlobRow) (dropFile : Bool)
  | deleteUnlink (job : Delete) (blob : BlobRow)
  | sweepSelect (cutoff : UtcTime) (excludeSources : List String)
  | sweepProbe (sweep : Sweep) (blobRefId : Nat)
  | sweepCount (sweep : Sweep) (blobRefId : Nat) (contentHash : String)

def Phase.holdsLock : Phase → Bool
  | .putLookup .. | .putWrite .. | .putInsertBlob .. | .putReread ..
  | .putInsertRef .. | .putCommit .. | .existsSelect .. | .deleteSelect ..
  | .deleteRef .. | .deleteCount .. | .deleteBlob .. | .deleteCommit ..
  | .deleteUnlink .. => true
  | _ => false

structure State where
  files : Files := fun _ => none
  /-- What a connection that is opened anew reads. -/
  committed : Manifest := { }
  /-- What the connection of the process reads. -/
  working : Manifest := { }
  locked : Option Nat := none
  phases : Nat → Phase := fun _ => .idle
  /-- The contents that were passed to `put`. -/
  contents : List Bytes := []

/-- What an operation returns or raises; a sweep returns its two counts. -/
inductive Result
  | ref (ref : BlobRef)
  | absent
  | deleted
  | swept (refsDeleted filesUnlinked : Nat) (sweep : Sweep)
  | raised (error : BlobError)
  deriving DecidableEq

inductive Action
  | put (task : Nat) (request : Put)
  | exists (task : Nat) (contentHash : String)
  | delete (task : Nat) (blobRefId : Nat)
  | sweepOlderThan (task : Nat) (cutoff : UtcTime) (excludeSources : List String)
  /-- The task enters `async with lock`; `put` reads the clock. -/
  | acquire (task : Nat) (now : UtcTime)
  /-- The statement that the task has sent runs. -/
  | query (task : Nat)
  | writeFile (task : Nat) (answers : WriteAnswers)
  /-- The `unlink` of `delete`. -/
  | unlinkFile (task : Nat) (answer : Except OsError Unit)
  /-- The process stops, and the store is opened again. -/
  | stop
  /-- The process stops while it writes a file, after so many calls. -/
  | stopInWrite (task : Nat) (answers : WriteAnswers) (calls : Nat)

variable (store : FsBlobStore)

/-- Where the file of a content is. -/
def blobPath (contentHash : String) : Path := store.root ++ [shardFor contentHash, contentHash]

/-- `_safe_resolve_in_root`. -/
def safeResolveInRoot (candidate : Path) : Option Path :=
  if store.root <+: resolve candidate then some (resolve candidate) else none

/-- `FsBlobStore.get`. -/
def get (state : State) (storeKey : Path) : Except BlobError Bytes :=
  match store.safeResolveInRoot storeKey with
  | none => .error (.notFound "blob not found")
  | some resolved =>
    match state.files resolved with
    | none => .error (.notFound "blob not found")
    | some content => .ok content

namespace State

def enter (state : State) (task : Nat) (phase : Phase) : State :=
  { state with phases := Function.update state.phases task phase }

/-- The task leaves the lock. -/
def release (state : State) (task : Nat) (phase : Phase) : State :=
  { state.enter task phase with locked := none }

/-- The store after the process has stopped. -/
def recovered (state : State) : State :=
  { state with
    working := state.committed
    locked := none
    phases := fun _ => .idle }

end State

/-- The head of the loop in `sweep_older_than`. -/
def Sweep.next (sweep : Sweep) : Phase × Option Result :=
  match sweep.staleIds with
  | [] => (.idle, some (.swept sweep.refsDeleted sweep.filesUnlinked sweep))
  | blobRefId :: rest =>
    (.sweepProbe { sweep with staleIds := rest } blobRefId, none)

/-- The sweep goes on after its deletion has returned. -/
def Sweep.counted (sweep : Sweep) : Sweep :=
  { sweep with
    refsDeleted := sweep.refsDeleted + 1
    filesUnlinked :=
      if sweep.remainingBefore = 1 then sweep.filesUnlinked + 1
      else sweep.filesUnlinked }

/-- `delete` returns. -/
def Delete.return (job : Delete) : Phase × Option Result :=
  match job.sweep with
  | none => (.idle, some .deleted)
  | some sweep => sweep.counted.next

/-- The sweep keeps the references that its deletion removes. -/
def Delete.removing (job : Delete) (rows : List RefRow) : Delete :=
  { job with sweep := job.sweep.map fun sweep =>
      { sweep with removed := sweep.removed ++ rows } }

/-- A call that the check of `max_bytes` lets through waits for the lock. -/
def callPut (state : State) (task : Nat) (request : Put) : State × Option Result :=
  if store.maxBytes.any (fun bound => decide (bound < request.data.length)) then
    (state, some (.raised (.write
      ("blob size " ++ toString request.data.length ++ " exceeds max_bytes=" ++
        toString (store.maxBytes.getD 0)))))
  else
    ({ state.enter task (.acquire (.put request)) with
        contents := state.contents ++ [request.data] }, none)

def acquired (now : UtcTime) : Job → Phase
  | .put request => .putLookup request now
  | .exists contentHash => .existsSelect contentHash
  | .delete job => .deleteSelect job

/-- The reference that `put` returns. -/
def putRef (request : Put) (now : UtcTime) (stored : Stored) (id : Nat) : BlobRef where
  storeKey := stored.storePath
  contentHash := store.sha256.hexdigest request.data
  mime := stored.mime
  size := stored.size
  filename := request.filename
  source := request.source
  platformRef := request.platformRef
  platformMessageId := request.platformMessageId
  id := some id
  createdAt := now

/-- The reference that `exists` returns. -/
def existsRef (contentHash : String) (row : RefRow) (blob : BlobRow) :
    Result :=
  match TimeFields.fromisoformat row.ingestedAt with
  | none => .raised .value
  | some createdAt => .ref {
      storeKey := blob.storePath
      contentHash := contentHash
      mime := blob.mime
      size := blob.size
      filename := row.filename
      source := row.source
      platformRef := row.platformRef
      platformMessageId := row.platformMessageId
      id := none
      createdAt := createdAt }

/-- The row of `blobs` that `put` inserts. -/
def newBlob (request : Put) (now : UtcTime) : BlobRow where
  contentHash := store.sha256.hexdigest request.data
  mime := request.mime
  size := request.data.length
  storePath := store.blobPath (store.sha256.hexdigest request.data)
  firstSeenAt := now.val.isoformat

/-- The row of `blob_refs` that `put` inserts. -/
def newRef (request : Put) (now : UtcTime) : RefRow where
  id := 0
  contentHash := store.sha256.hexdigest request.data
  source := request.source
  platformRef := request.platformRef
  platformMessageId := request.platformMessageId
  filename := request.filename
  ingestedAt := now.val.isoformat

def BlobRow.stored (row : BlobRow) : Stored := ⟨row.storePath, row.mime, row.size⟩

/-- A statement runs, and its task goes on to the next one. -/
def query (state : State) (task : Nat) : Option (State × Option Result) :=
  let working := state.working
  match state.phases task with
  | .putLookup request now =>
    match working.lookupExisting (store.sha256.hexdigest request.data) with
    | none => some (state.enter task (.putWrite request now), none)
    | some row =>
      some (state.enter task (.putInsertRef request now row.stored), none)
  | .putInsertBlob request now =>
    some ({ state.enter task (.putReread request now) with
      working := working.insertBlob (store.newBlob request now) }, none)
  | .putReread request now =>
    let canonical := working.lookupExisting (store.sha256.hexdigest request.data)
    some (state.enter task (.putInsertRef request now
      (canonical.getD (store.newBlob request now)).stored), none)
  | .putInsertRef request now stored =>
    some ({ state.enter task (.putCommit request now stored (working.sequence + 1)) with
      working := working.insertRef (store.newRef request now) }, none)
  | .putCommit request now stored id =>
    some ({ state.release task .idle with committed := working },
      some (.ref (store.putRef request now stored id)))
  | .existsSelect contentHash =>
    some (state.release task .idle,
      match working.lookupLatest contentHash with
      | none => some .absent
      | some (row, blob) => some (existsRef contentHash row blob))
  | .deleteSelect job =>
    match working.joined job.blobRefId with
    | none => some (state.release task job.return.1, job.return.2)
    | some (_, blob) => some (state.enter task (.deleteRef job blob), none)
  | .deleteRef job blob =>
    let rows := working.refs.filter (·.id = job.blobRefId)
    some ({ state.enter task (.deleteCount (job.removing rows) blob) with
      working := working.deleteRef job.blobRefId }, none)
  | .deleteCount job blob =>
    if working.countRefs blob.contentHash = 0 then
      some (state.enter task (.deleteBlob job blob), none)
    else some (state.enter task (.deleteCommit job blob false), none)
  | .deleteBlob job blob =>
    some ({ state.enter task (.deleteCommit job blob true) with
      working := working.deleteBlob blob.contentHash }, none)
  | .deleteCommit job blob true =>
    some ({ state.enter task (.deleteUnlink job blob) with
      committed := working }, none)
  | .deleteCommit job _ false =>
    some ({ state.release task job.return.1 with committed := working },
      job.return.2)
  | .sweepSelect cutoff excludeSources =>
    let stale := working.refs.filter (Manifest.isStale cutoff.val.isoformat excludeSources)
    let sweep : Sweep :=
      { cutoff := cutoff, excludeSources := excludeSources,
        staleIds := stale.map (·.id), seen := working.refs }
    some (state.enter task sweep.next.1, sweep.next.2)
  | .sweepProbe sweep blobRefId =>
    match working.findRef blobRefId with
    | none => some (state.enter task sweep.next.1, sweep.next.2)
    | some row =>
      some (state.enter task (.sweepCount sweep blobRefId row.contentHash), none)
  | .sweepCount sweep blobRefId contentHash =>
    let probed := { sweep with remainingBefore := working.countRefs contentHash }
    some (state.enter task (.acquire (.delete
      { blobRefId := blobRefId, sweep := some probed })), none)
  | .idle | .acquire .. | .putWrite .. | .deleteUnlink .. => none

/-- What a step does, and what the operation that it ends returns. -/
def advance (state : State) : Action → Option (State × Option Result)
  | .put task request =>
    match state.phases task with
    | .idle => some (store.callPut state task request)
    | _ => none
  | .exists task contentHash =>
    match state.phases task with
    | .idle =>
      some (state.enter task (.acquire (.exists contentHash)), none)
    | _ => none
  | .delete task blobRefId =>
    match state.phases task with
    | .idle => some (state.enter task (.acquire (.delete { blobRefId := blobRefId })), none)
    | _ => none
  | .sweepOlderThan task cutoff excludeSources =>
    match state.phases task with
    | .idle =>
      some (state.enter task (.sweepSelect cutoff excludeSources), none)
    | _ => none
  | .acquire task now =>
    match state.locked, state.phases task with
    | none, .acquire job => some ({ state.enter task (acquired now job) with
        locked := some task }, none)
    | _, _ => none
  | .query task => query store state task
  | .writeFile task answers =>
    match state.phases task with
    | .putWrite request now =>
      let contentHash := store.sha256.hexdigest request.data
      let (ops, outcome) := writeBlobFile state.files
        (store.blobPath contentHash) request.data contentHash answers
      let written := { state with files := applyOps state.files ops }
      match outcome with
      | .ok () =>
        some (written.enter task (.putInsertBlob request now), none)
      | .error error =>
        some (written.release task .idle, some (.raised error))
    | _ => none
  | .unlinkFile task answer =>
    match state.phases task with
    | .deleteUnlink job blob =>
      match store.safeResolveInRoot blob.storePath, answer with
      | none, _ => some (state.release task job.return.1, job.return.2)
      | some path, .ok () =>
        some ({ state.release task job.return.1 with
          files := FileOp.apply state.files (.unlink path) },
          job.return.2)
      | some _, .error error =>
        some (state.release task .idle, some (.raised (.write ("unlink failed for content_hash=" ++
            shortHash blob.contentHash ++ "…: " ++ error.text))))
    | _ => none
  | .stop => some (state.recovered, none)
  | .stopInWrite task answers calls =>
    match state.phases task with
    | .putWrite request _ =>
      let contentHash := store.sha256.hexdigest request.data
      let (ops, _) := writeBlobFile state.files
        (store.blobPath contentHash) request.data contentHash answers
      some ({ state.recovered with
        files := applyOps state.files (ops.take calls) }, none)
    | _ => none

/-- The runs of the store, from an empty directory on. -/
def system : TransitionSystem State Action where
  initial := fun state => state = { }
  step := fun state action => (store.advance state action).map Prod.fst

end FsBlobStore

end RoxabiFactory

import RoxabiFactory.BlobCrashConsistency
import RoxabiFactory.SharedBlobRoot
import RoxabiFactory.SqliteStatements

/-!
# Blob operations that fail

`put` and `delete` send their statements over one connection and commit at the
end.  An operation that fails in between does not roll back, so what it has
changed is committed by the next operation that commits.
-/

namespace RoxabiFactory

namespace FsBlobStore

open SqliteConnection SqliteStatements

variable (store : FsBlobStore)

/-- What the connection is asked in a phase; a step on a file asks nothing. -/
def Phase.statement : Phase → Statement Manifest
  | .putInsertBlob request now =>
    .modify fun manifest => manifest.insertBlob (store.newBlob request now)
  | .putInsertRef request now _ =>
    .modify fun manifest => manifest.insertRef (store.newRef request now)
  | .deleteRef job _ =>
    .modify fun manifest => manifest.deleteRef job.blobRefId
  | .deleteBlob _ blob =>
    .modify fun manifest => manifest.deleteBlob blob.contentHash
  | .putCommit .. | .deleteCommit .. => .commit
  | _ => .read

/-- A call of `put`, which reads the clock when it has the lock, or of
`delete`. -/
inductive Operation
  | put (request : Put) (now : UtcTime)
  | delete (blobRefId : Nat)

namespace Operation

/-- The check of `max_bytes`. -/
def tooLarge : Operation → Bool
  | put request _ =>
    store.maxBytes.any fun bound => decide (bound < request.data.length)
  | delete _ => false

/-- The phase in which an operation has the lock. -/
def first : Operation → Phase
  | put request now => .putLookup request now
  | delete blobRefId => .deleteSelect { blobRefId := blobRefId }

/-- The phases of an operation that nothing disturbs. -/
def phases (manifest : Manifest) : Operation → List Phase
  | put request now =>
    match manifest.lookupExisting (store.sha256.hexdigest request.data) with
    | some row =>
      [.putLookup request now, .putInsertRef request now row.stored,
        .putCommit request now row.stored (manifest.sequence + 1)]
    | none =>
      let stored := (store.newBlob request now).stored
      [.putLookup request now, .putWrite request now,
        .putInsertBlob request now, .putReread request now,
        .putInsertRef request now stored,
        .putCommit request now stored (manifest.sequence + 1)]
  | delete blobRefId =>
    let job : Delete := { blobRefId := blobRefId }
    match manifest.joined blobRefId with
    | none => [.deleteSelect job]
    | some (_, blob) =>
      if (manifest.deleteRef blobRefId).countRefs blob.contentHash = 0 then
        [.deleteSelect job, .deleteRef job blob, .deleteCount job blob,
          .deleteBlob job blob, .deleteCommit job blob true,
          .deleteUnlink job blob]
      else
        [.deleteSelect job, .deleteRef job blob, .deleteCount job blob,
          .deleteCommit job blob false]

def statements (manifest : Manifest) (operation : Operation) : List (Statement Manifest) :=
  (operation.phases store manifest).map (Phase.statement store)

/-- An operation, with the step that fails in it. -/
def call (failure : Option Failure) (operation : Operation) (db : SqliteConnection Manifest) :
    SqliteConnection Manifest × SqliteStatements.Ending :=
  if operation.tooLarge store then (db, .raised false)
  else
    Program.call { unguarded := operation.statements store db.current } failure db

end Operation

/-! ## The phases are those of the store -/

/-- The step of a task, when no call on a file fails. -/
def Phase.step (task : Nat) : Phase → Action
  | .putWrite request _ => .writeFile task { write := .ok request.data.length }
  | .deleteUnlink .. => .unlinkFile task (.ok ())
  | _ => .query task

/-- The phases that a task goes through in a number of steps. -/
def goThrough (task : Nat) : Nat → State → List Phase × State
  | 0, state => ([], state)
  | steps + 1, state =>
    match store.advance state ((state.phases task).step task) with
    | none => ([], state)
    | some (next, _) =>
      (state.phases task :: (goThrough task steps next).1, (goThrough task steps next).2)

/-- The connection has the manifests of the state. -/
def State.Reads (state : State) (db : SqliteConnection Manifest) : Prop :=
  db.current = state.working ∧ db.committed = state.committed

variable {store}

theorem phases_enter (state : State) (task : Nat) (phase : Phase) :
    (state.enter task phase).phases task = phase := by
  simp [State.enter]

theorem reads_of_read {state next : State} {phase : Phase}
    {db : SqliteConnection Manifest} (reads : state.Reads db)
    (isRead : phase.statement store = .read)
    (working : next.working = state.working)
    (committed : next.committed = state.committed) :
    ∃ after, (phase.statement store).exec db = some after ∧
      next.Reads after := by
  rw [isRead]
  exact ⟨db, rfl, reads.1.trans working.symm, reads.2.trans committed.symm⟩

theorem Manifest.insertBlob_of_absent {manifest : Manifest} {row : BlobRow}
    (absent : manifest.lookupExisting row.contentHash = none) :
    manifest.insertBlob row = { manifest with blobs := manifest.blobs ++ [row] } := by
  rw [Manifest.insertBlob, absent]
  rfl

theorem Manifest.insertBlob_of_known {manifest : Manifest} {row : BlobRow} {blob : BlobRow}
    (known : manifest.lookupExisting row.contentHash = some blob) :
    manifest.insertBlob row = manifest := by
  rw [Manifest.insertBlob, known]
  rfl

theorem Manifest.lookupExisting_insertBlob {manifest : Manifest} {row : BlobRow}
    (absent : manifest.lookupExisting row.contentHash = none) :
    (manifest.insertBlob row).lookupExisting row.contentHash = some row := by
  rw [insertBlob_of_absent absent]
  rw [Manifest.lookupExisting] at absent
  simp [Manifest.lookupExisting, List.find?_append, absent]

theorem reads_query {state next : State} {task : Nat} {result : Option Result}
    {db : SqliteConnection Manifest} (reads : state.Reads db)
    (steps : query store state task = some (next, result)) :
    ∃ after, ((state.phases task).statement store).exec db = some after ∧
      next.Reads after := by
  dsimp only [query] at steps
  split at steps
  case h_2 request now here =>
      cases steps
      rw [here]
      refine ⟨_, rfl, ?_, reads.2⟩
      rw [← reads.1]
      rfl
  case h_4 request now stored here =>
      cases steps
      rw [here]
      refine ⟨_, rfl, ?_, reads.2⟩
      rw [← reads.1]
      rfl
  case h_5 request now stored id here =>
      cases steps
      rw [here]
      exact ⟨_, rfl, reads.1, reads.1⟩
  case h_8 job blob here =>
      cases steps
      rw [here]
      refine ⟨_, rfl, ?_, reads.2⟩
      rw [← reads.1]
      rfl
  case h_10 job blob here =>
      cases steps
      rw [here]
      refine ⟨_, rfl, ?_, reads.2⟩
      rw [← reads.1]
      rfl
  case h_11 job blob here =>
      cases steps
      rw [here]
      exact ⟨_, rfl, reads.1, reads.1⟩
  case h_12 job blob here =>
      cases steps
      rw [here]
      exact ⟨_, rfl, reads.1, reads.1⟩
  case h_16 | h_17 | h_18 | h_19 => cases steps
  all_goals
    rename_i here
    rw [here]
    repeat' split at steps
    all_goals
      cases steps
      exact reads_of_read reads rfl rfl rfl

theorem writeBlobFile_ok (files : Files) (path : Path) (data : Bytes)
    (contentHash : String) (count : Nat) :
    (writeBlobFile files path data contentHash { write := .ok count }).2 =
      .ok () := by
  unfold writeBlobFile
  by_cases known : (files path).isSome = true
  · simp [known]
  · simp [known]

theorem reads_advance {state next : State} {task : Nat}
    {result : Option Result} {db : SqliteConnection Manifest}
    (reads : state.Reads db)
    (steps : store.advance state ((state.phases task).step task) = some (next, result)) :
    ∃ after, ((state.phases task).statement store).exec db = some after ∧
      next.Reads after := by
  cases here : state.phases task
  case putWrite request now =>
      simp only [Phase.step, advance, here, writeBlobFile_ok] at steps
      cases steps
      exact reads_of_read reads rfl rfl rfl
  case deleteUnlink job blob =>
      simp only [Phase.step, advance, here] at steps
      split at steps
      · cases steps
        exact reads_of_read reads rfl rfl rfl
      · cases steps
        exact reads_of_read reads rfl rfl rfl
      · rename_i failed
        cases failed
  all_goals
    rw [here] at steps
    rw [← here]
    exact reads_query reads steps

theorem reads_goThrough {task : Nat} {steps : Nat} {state : State}
    {db : SqliteConnection Manifest} (reads : state.Reads db) :
    (goThrough store task steps state).2.Reads
      (afterData db ((goThrough store task steps state).1.map (Phase.statement store))) := by
  induction steps generalizing state db with
  | zero => exact reads
  | succ steps ih =>
    rw [goThrough]
    cases taken : store.advance state ((state.phases task).step task) with
    | none => exact reads
    | some outcome =>
      obtain ⟨next, result⟩ := outcome
      obtain ⟨after, executed, nextReads⟩ := reads_advance reads taken
      have first : afterData db (((state.phases task :: (goThrough store task steps next).1).map
            (Phase.statement store))) =
          afterData after ((goThrough store task steps next).1.map (Phase.statement store)) := by
        simp [afterData, executed]
      change State.Reads _ (afterData db (List.map _ (_ :: _)))
      rw [first]
      exact ih nextReads

theorem goThrough_phases (operation : Operation) {state : State}
    {task : Nat} (here : state.phases task = operation.first) :
    (goThrough store task (operation.phases store state.working).length
      state).1 = operation.phases store state.working := by
  cases operation with
  | put request now =>
    simp only [Operation.phases, Operation.first] at here ⊢
    cases found : state.working.lookupExisting (store.sha256.hexdigest request.data) with
    | some row =>
      simp [goThrough, here, Phase.step, advance, query, found, State.enter]
    | none =>
      have absent : state.working.lookupExisting
          (store.newBlob request now).contentHash = none := found
      have reread : (state.working.insertBlob (store.newBlob request now)).lookupExisting
          (store.sha256.hexdigest request.data) = some (store.newBlob request now) :=
        Manifest.lookupExisting_insertBlob absent
      have sequence : (state.working.insertBlob (store.newBlob request now)).sequence =
            state.working.sequence := by
        rw [Manifest.insertBlob_of_absent absent]
      simp [goThrough, here, Phase.step, advance, query, found,
        State.enter, writeBlobFile_ok, reread, sequence]
  | delete blobRefId =>
    simp only [Operation.phases, Operation.first] at here ⊢
    cases found : state.working.joined blobRefId with
    | none =>
      simp [goThrough, here, Phase.step, advance, query, found]
    | some pair =>
      obtain ⟨row, blob⟩ := pair
      by_cases last : (state.working.deleteRef blobRefId).countRefs blob.contentHash = 0
      · cases placed : store.safeResolveInRoot blob.storePath with
        | none =>
          simp [goThrough, here, Phase.step, advance, query, found,
            State.enter, last, Delete.removing, placed]
        | some path =>
          simp [goThrough, here, Phase.step, advance, query, found,
            State.enter, last, Delete.removing, placed]
      · simp [goThrough, here, Phase.step, advance, query, found,
          State.enter, last, Delete.removing]

/-! ## What a failure leaves -/

theorem isPlain_statement (phase : Phase) : (phase.statement store).isPlain = true := by
  cases phase <;> rfl

theorem arePlain_statements (operation : Operation) (manifest : Manifest) :
    ∀ statement ∈ operation.statements store manifest, statement.isPlain = true := by
  intro statement member
  obtain ⟨phase, -, rfl⟩ := List.mem_map.mp member
  exact isPlain_statement phase

namespace Manifest

theorem sequence_insertBlob (manifest : Manifest) (row : BlobRow) :
    (manifest.insertBlob row).sequence = manifest.sequence := by
  unfold insertBlob
  split <;> rfl

theorem insertRef_ne {manifest before : Manifest} {row : RefRow}
    (sequence : manifest.sequence = before.sequence) :
    manifest.insertRef row ≠ before := by
  intro same
  have given : manifest.sequence + 1 = before.sequence :=
    congrArg Manifest.sequence same
  omega

theorem insertBlob_ne {manifest : Manifest} {row : BlobRow}
    (absent : manifest.lookupExisting row.contentHash = none) :
    manifest.insertBlob row ≠ manifest := by
  intro same
  rw [insertBlob_of_absent absent] at same
  have blobs : manifest.blobs ++ [row] = manifest.blobs :=
    congrArg Manifest.blobs same
  simp at blobs

theorem deleteRef_ne {manifest after : Manifest} {blobRefId : Nat} {found : RefRow × BlobRow}
    (joined : manifest.joined blobRefId = some found)
    (refs : after.refs = (manifest.deleteRef blobRefId).refs) :
    after ≠ manifest := by
  obtain ⟨row, blob⟩ := found
  obtain ⟨⟨stored, named⟩, -⟩ := of_joined joined
  rintro rfl
  have kept : row ∈ after.refs.filter (·.id ≠ blobRefId) := by
    change after.refs = after.refs.filter (·.id ≠ blobRefId) at refs
    rw [← refs]
    exact stored
  simp [named] at kept

end Manifest

theorem effects_ne {operation : Operation} {manifest : Manifest}
    {position : Nat} (writes : ((operation.phases store manifest).take
      position).any Phase.isWrite = true) :
    effects ((operation.statements store manifest).take position) manifest ≠
      manifest := by
  cases operation with
  | put request now =>
    cases found : manifest.lookupExisting (store.sha256.hexdigest request.data) with
    | some row =>
      rw [Operation.statements]
      simp only [Operation.phases, found] at writes ⊢
      rcases position with _ | _ | _ | position
      · cases writes
      · cases writes
      · exact Manifest.insertRef_ne rfl
      · rw [List.take_of_length_le (by simp)]
        exact Manifest.insertRef_ne rfl
    | none =>
      have inserted : manifest.insertBlob (store.newBlob request now) ≠
          manifest :=
        Manifest.insertBlob_ne found
      have sequence := Manifest.sequence_insertBlob manifest (store.newBlob request now)
      rw [Operation.statements]
      simp only [Operation.phases, found] at writes ⊢
      rcases position with _ | _ | _ | _ | _ | _ | position
      · cases writes
      · cases writes
      · cases writes
      · exact inserted
      · exact inserted
      · exact Manifest.insertRef_ne sequence
      · rw [List.take_of_length_le (by simp)]
        exact Manifest.insertRef_ne sequence
  | delete blobRefId =>
    cases found : manifest.joined blobRefId with
    | none =>
      simp only [Operation.phases, found] at writes
      rcases position with _ | position
      · cases writes
      · rw [List.take_of_length_le (by simp)] at writes
        cases writes
    | some pair =>
      obtain ⟨row, blob⟩ := pair
      rw [Operation.statements]
      simp only [Operation.phases, found] at writes ⊢
      split at writes
      · rename_i last
        rw [if_pos last]
        rcases position with _ | _ | _ | _ | _ | _ | position
        · cases writes
        · cases writes
        · exact Manifest.deleteRef_ne found rfl
        · exact Manifest.deleteRef_ne found rfl
        · exact Manifest.deleteRef_ne found rfl
        · exact Manifest.deleteRef_ne found rfl
        · rw [List.take_of_length_le (by simp)]
          exact Manifest.deleteRef_ne found rfl
      · rename_i last
        rw [if_neg last]
        rcases position with _ | _ | _ | _ | position
        · cases writes
        · cases writes
        · exact Manifest.deleteRef_ne found rfl
        · exact Manifest.deleteRef_ne found rfl
        · rw [List.take_of_length_le (by simp)]
          exact Manifest.deleteRef_ne found rfl

theorem afterData_of_no_write {operation : Operation}
    {db : SqliteConnection Manifest} {position : Nat}
    (reads : ((operation.phases store db.current).take position).any Phase.isWrite = false) :
    afterData db ((operation.statements store db.current).take position) =
      db := by
  rw [Operation.statements]
  cases operation with
  | put request now =>
    cases found : db.current.lookupExisting (store.sha256.hexdigest request.data) with
    | some row =>
      simp only [Operation.phases, found] at reads ⊢
      rcases position with _ | _ | position
      · rfl
      · rfl
      · cases reads
    | none =>
      simp only [Operation.phases, found] at reads ⊢
      rcases position with _ | _ | _ | position
      · rfl
      · rfl
      · rfl
      · cases reads
  | delete blobRefId =>
    cases found : db.current.joined blobRefId with
    | none =>
      simp only [Operation.phases, found] at reads ⊢
      rcases position with _ | position
      · rfl
      · rw [List.take_of_length_le (by simp)]
        rfl
    | some pair =>
      simp only [Operation.phases, found] at reads ⊢
      split at reads
      · rename_i last
        rw [if_pos last]
        rcases position with _ | _ | position
        · rfl
        · rfl
        · cases reads
      · rename_i last
        rw [if_neg last]
        rcases position with _ | _ | position
        · rfl
        · rfl
        · cases reads

/-- Before its last phase, an operation has not committed, or it has committed
what it reads. -/
theorem committed_afterData_of_commit {operation : Operation}
    {db : SqliteConnection Manifest} {position : Nat}
    (early : position < (operation.phases store db.current).length)
    (commits : ((operation.phases store db.current).take position).any Phase.isCommit = true) :
    ((operation.phases store db.current).take position).any Phase.isWrite = true ∧
      (afterData db ((operation.statements store db.current).take position)).committed =
      effects ((operation.statements store db.current).take position)
        db.current := by
  rw [Operation.statements]
  cases operation with
  | put request now =>
    cases found : db.current.lookupExisting (store.sha256.hexdigest request.data) with
    | some row =>
      simp only [Operation.phases, found] at commits early ⊢
      rcases position with _ | _ | _ | position
      · cases commits
      · cases commits
      · cases commits
      · simp at early
        omega
    | none =>
      simp only [Operation.phases, found] at commits early ⊢
      rcases position with _ | _ | _ | _ | _ | _ | position
      · cases commits
      · cases commits
      · cases commits
      · cases commits
      · cases commits
      · cases commits
      · simp at early
        omega
  | delete blobRefId =>
    cases found : db.current.joined blobRefId with
    | none =>
      simp only [Operation.phases, found] at commits early ⊢
      rcases position with _ | position
      · cases commits
      · rw [List.take_of_length_le (by simp)] at commits
        cases commits
    | some pair =>
      simp only [Operation.phases, found] at commits early ⊢
      split at commits
      · rename_i last
        rw [if_pos last] at early ⊢
        rcases position with _ | _ | _ | _ | _ | _ | position
        · cases commits
        · cases commits
        · cases commits
        · cases commits
        · cases commits
        · exact ⟨rfl, rfl⟩
        · simp at early
          omega
      · rename_i last
        rw [if_neg last] at early ⊢
        rcases position with _ | _ | _ | _ | position
        · cases commits
        · cases commits
        · cases commits
        · cases commits
        · simp at early
          omega

/-! ## Later operations -/

/-- The failure leaves what the later operations commit as it would be
without the failed operation. -/
def LeavesManifest (store : FsBlobStore) (db after : SqliteConnection Manifest) : Prop :=
  ∀ later : List Operation, (serve (Operation.call store none) later after).map (·.committed) =
      (serve (Operation.call store none) later db).map (·.committed)

namespace Operation

theorem call_none {operation : Operation} (fits : operation.tooLarge store = false)
    (db : SqliteConnection Manifest) :
    operation.call store none db =
      (afterData db (operation.statements store db.current), .returned) := by
  rw [call, fits]
  exact call_plain (arePlain_statements operation db.current) db

theorem agree_serve {db after : SqliteConnection Manifest}
    (agree : Agree after db) (later : List Operation) :
    (serve (call store none) later after).map (·.committed) =
      (serve (call store none) later db).map (·.committed) := by
  induction later generalizing db after with
  | nil => exact congrArg some agree.2
  | cons operation later ih =>
    cases fits : operation.tooLarge store with
    | true =>
      have refused : ∀ db, operation.call store none db = (db, .raised false) := by
        intro db
        rw [call, fits]
        rfl
      simp only [serve, refused]
    | false =>
      simp only [serve, call_none fits]
      rw [agree.1]
      exact ih (agree.afterData (arePlain_statements operation db.current))

/-- The manifest that `put` commits. -/
theorem committed_put (request : Put) (now : UtcTime) (db : SqliteConnection Manifest) :
    (afterData db ((put request now).statements store db.current)).committed =
      (db.current.insertBlob (store.newBlob request now)).insertRef (store.newRef request now) := by
  rw [statements]
  cases found : db.current.lookupExisting (store.sha256.hexdigest request.data) with
  | some row =>
    have known : db.current.insertBlob (store.newBlob request now) =
        db.current :=
      Manifest.insertBlob_of_known found
    rw [known]
    simp only [phases, found]
    rfl
  | none =>
    simp only [phases, found]
    rfl

end Operation

theorem Manifest.insertRef_injective {first second : Manifest} {row : RefRow}
    (same : first.insertRef row = second.insertRef row) : first = second := by
  obtain ⟨blobs, refs, sequence⟩ := first
  simp only [insertRef, Manifest.mk.injEq] at same
  obtain ⟨rfl, refsEq, sequenceEq⟩ := same
  obtain rfl : sequence = second.sequence := by omega
  rw [List.append_left_inj] at refsEq
  rw [refsEq]

theorem Manifest.eq_of_insertBlob_known {known absent : Manifest}
    {row other : BlobRow} {blob : BlobRow}
    (contentHash : other.contentHash = row.contentHash)
    (found : known.lookupExisting row.contentHash = some blob)
    (missing : absent.lookupExisting row.contentHash = none)
    (same : known.insertBlob row = absent.insertBlob row)
    (sameOther : known.insertBlob other = absent.insertBlob other) :
    other = row := by
  rw [insertBlob_of_known found, insertBlob_of_absent missing] at same
  rw [insertBlob_of_known (contentHash ▸ found),
    insertBlob_of_absent (contentHash ▸ missing)] at sameOther
  have rows : absent.blobs ++ [other] = absent.blobs ++ [row] :=
    congrArg Manifest.blobs (sameOther.symm.trans same)
  simpa using rows

theorem Manifest.eq_of_insertBlob {first second : Manifest}
    {row other : BlobRow} (contentHash : other.contentHash = row.contentHash)
    (differs : other ≠ row)
    (same : first.insertBlob row = second.insertBlob row)
    (sameOther : first.insertBlob other = second.insertBlob other) :
    first = second := by
  cases firstFound : first.lookupExisting row.contentHash with
  | some blob =>
    cases secondFound : second.lookupExisting row.contentHash with
    | some secondBlob =>
      rw [insertBlob_of_known firstFound, insertBlob_of_known secondFound] at same
      exact same
    | none =>
      exact absurd (eq_of_insertBlob_known contentHash firstFound
        secondFound same sameOther) differs
  | none =>
    cases secondFound : second.lookupExisting row.contentHash with
    | some blob =>
      exact absurd (eq_of_insertBlob_known contentHash secondFound
        firstFound same.symm sameOther.symm) differs
    | none =>
      rw [insertBlob_of_absent firstFound, insertBlob_of_absent secondFound] at same
      obtain ⟨blobs, refs, sequence⟩ := first
      simp only [Manifest.mk.injEq, List.append_left_inj] at same
      obtain ⟨rfl, rfl, rfl⟩ := same
      rfl

/-- An empty content, which every store accepts. -/
def emptyPut (mime : String) : Put where
  data := []
  mime := mime
  source := ""

theorem fits_emptyPut (mime : String) (now : UtcTime) :
    (Operation.put (emptyPut mime) now).tooLarge store = false := by
  rw [Operation.tooLarge]
  cases store.maxBytes with
  | none => rfl
  | some bound => simp [emptyPut]

theorem leavesManifest_iff {db after : SqliteConnection Manifest} :
    LeavesManifest store db after ↔ Agree after db := by
  constructor
  · intro leaves
    have committed : after.committed = db.committed := Option.some.inj (leaves [])
    have puts : ∀ mime : String, after.current.insertBlob
            (store.newBlob (emptyPut mime) exampleInstant) =
          db.current.insertBlob (store.newBlob (emptyPut mime) exampleInstant) := by
      intro mime
      have later := leaves [.put (emptyPut mime) exampleInstant]
      simp only [serve, Operation.call_none (fits_emptyPut mime _),
        Option.map_some, Option.some.injEq, Operation.committed_put] at later
      exact Manifest.insertRef_injective later
    refine ⟨?_, committed⟩
    refine Manifest.eq_of_insertBlob ?_ ?_ (puts "") (puts "text/plain")
    · rfl
    · intro same
      have mimes : "text/plain" = "" := congrArg BlobRow.mime same
      simp at mimes
  · intro agree later
    exact Operation.agree_serve agree later

/-! ## Failures -/

/-- No write of the operation is left in the transaction, or committed. -/
def Operation.Harmless (store : FsBlobStore) (operation : Operation)
    (failure : Failure) (db : SqliteConnection Manifest) : Prop :=
  let phases := operation.phases store db.current
  operation.tooLarge store = true ∨ phases.length ≤ failure.position ∨
    match failure.fault with
    | .refused | .rejected | .interrupted false =>
      (phases.take failure.position).any Phase.isWrite = false
    | .interrupted true =>
      (phases.take (failure.position + 1)).any Phase.isWrite = false
    | .abandoned =>
      (phases.take failure.position).any Phase.isCommit = false ∧ db.current = db.committed

/-- The connection agrees exactly before the first write. -/
theorem agree_afterData_iff {operation : Operation}
    {db : SqliteConnection Manifest} (position : Nat) :
    Agree (afterData db ((operation.statements store db.current).take position)) db ↔
      ((operation.phases store db.current).take position).any Phase.isWrite =
        false := by
  constructor
  · intro agree
    by_contra writes
    apply effects_ne (Bool.eq_true_of_not_eq_false writes)
    rw [← current_afterData]
    · exact agree.1
    · intro statement member
      exact arePlain_statements operation db.current statement (List.mem_of_mem_take member)
  · intro reads
    rw [afterData_of_no_write reads]
    exact ⟨rfl, rfl⟩

theorem agree_opened_iff {operation : Operation} {db : SqliteConnection Manifest} {position : Nat}
    (early : position < (operation.phases store db.current).length) :
    Agree (opened (afterData db ((operation.statements store db.current).take position)).committed)
        db ↔
      ((operation.phases store db.current).take position).any
          Phase.isCommit = false ∧ db.current = db.committed := by
  cases commits : ((operation.phases store db.current).take position).any Phase.isCommit with
  | true =>
    obtain ⟨writes, committed⟩ := committed_afterData_of_commit early commits
    refine iff_of_false ?_ (by simp)
    intro agree
    exact effects_ne writes (committed.symm.trans agree.1)
  | false =>
    have committed : (afterData db ((operation.statements store
        db.current).take position)).committed = db.committed := by
      refine (committed_afterData ?_ db).1
      intro statement member
      rw [Operation.statements, ← List.map_take] at member
      obtain ⟨phase, taken, rfl⟩ := List.mem_map.mp member
      have goesOn := List.any_eq_false.mp commits phase taken
      cases phase with
      | putCommit | deleteCommit => exact absurd rfl goesOn
      | _ => rfl
    constructor
    · intro agree
      exact ⟨rfl, agree.1.symm.trans committed⟩
    · rintro ⟨-, settled⟩
      exact ⟨committed.trans settled.symm, committed⟩

/-- A failed operation leaves the manifest exactly when it fails before its
first write, or SQLite rolls back what no other operation has left. -/
theorem failed_leavesManifest_iff (store : FsBlobStore) (operation : Operation) (failure : Failure)
    (db : SqliteConnection Manifest) :
    ((operation.call store (some failure) db).2 ≠ .returned → LeavesManifest store db
          (operation.call store (some failure) db).1) ↔
      operation.Harmless store failure db := by
  have plain : ∀ statement ∈ operation.statements store db.current, statement.isPlain = true :=
    arePlain_statements operation db.current
  have lengths : (operation.statements store db.current).length =
      (operation.phases store db.current).length :=
    List.length_map _
  rw [leavesManifest_iff, Operation.Harmless, Operation.call]
  cases fits : operation.tooLarge store with
  | true =>
    refine iff_of_true (fun _ => ⟨rfl, rfl⟩) (.inl rfl)
  | false =>
    simp only [Bool.false_eq_true, if_false, false_or]
    by_cases late : (operation.phases store db.current).length ≤ failure.position
    · rw [call_late plain failure (lengths.trans_le late)]
      exact iff_of_true (fun raised => absurd rfl raised) (.inl late)
    · have early : failure.position < (operation.statements store db.current).length := by
        omega
      rw [call_fault plain failure early]
      simp only [late, false_or, ne_eq, reduceCtorEq, not_false_eq_true, forall_const]
      obtain ⟨position, fault, rollback⟩ := failure
      dsimp only at early late ⊢
      cases fault with
      | refused => exact agree_afterData_iff position
      | rejected =>
        refine Iff.trans ?_ (agree_afterData_iff position)
        cases (operation.statements store db.current)[position] <;> rfl
      | abandoned =>
        exact agree_opened_iff (Nat.lt_of_not_le late)
      | interrupted executed =>
        cases executed with
        | false => exact agree_afterData_iff position
        | true =>
          refine Iff.trans ?_ (agree_afterData_iff (position + 1))
          rw [afterData_take_succ db early]
          rfl

section Example

/-- The reference of a `put` is refused after its row of `blobs` was inserted,
and the `put` of another content commits that row. -/
theorem exists_row_of_failed_put :
    let failed := (Operation.put { data := abc, mime := "", source := "" }
      exampleInstant).call exampleStore (some ⟨4, .refused, none⟩) (opened { })
    failed.2 = .raised true ∧ ¬ LeavesManifest exampleStore (opened { }) failed.1 ∧
      ((serve (Operation.call exampleStore none) [.put (emptyPut "") exampleInstant] failed.1).map
          (·.committed.blobs.length)) = some 2 := by
  refine ⟨by decide, ?_, by decide⟩
  intro leaves
  have agree := (leavesManifest_iff.mp leaves).1
  have rows := congrArg (·.blobs.length) agree
  revert rows
  decide

end Example

end FsBlobStore

end RoxabiFactory

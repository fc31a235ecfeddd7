import Mathlib.Data.Fintype.Basic
import RoxabiFactory.BlobManifestRefinement

/-!
# Processes that share a blob root

Every process has its own lock and its own connection.  SQLite admits one
writing transaction at a time; the process that has it reads what it has
written, and the others read what is committed.  The commit of a deletion and
its `unlink` are separate steps, and a `put` of another process may take the
file between them.
-/

namespace RoxabiFactory

namespace FsBlobStore

/-- The tasks of a process and its lock. -/
structure Process where
  locked : Option Nat := none
  phases : Nat → Phase := fun _ => .idle

structure SharedState (Name : Type) where
  files : Files := fun _ => none
  committed : Manifest := { }
  /-- The process that has the writing transaction, and what it reads. -/
  writer : Option (Name × Manifest) := none
  processes : Name → Process := fun _ => { }
  contents : List Bytes := []

/-- The statement begins a writing transaction, or it is within one. -/
def Phase.isWrite : Phase → Bool
  | .putInsertBlob .. | .putInsertRef .. | .deleteRef .. | .deleteBlob .. =>
    true
  | _ => false

def Phase.isCommit : Phase → Bool
  | .putCommit .. | .deleteCommit .. => true
  | _ => false

/-- The statement that the action runs. -/
def State.statement (state : State) : Action → Phase
  | .query task => state.phases task
  | _ => .idle

def State.endsTransaction (state : State) (action : Action) : Bool :=
  match action with
  | .stop | .stopInWrite .. => true
  | _ => (state.statement action).isCommit

section Processes

variable {Name : Type} [DecidableEq Name]

namespace SharedState

/-- What the connection of a process reads. -/
def reads (state : SharedState Name) (process : Name) : Manifest :=
  match state.writer with
  | none => state.committed
  | some (owner, manifest) =>
    if owner = process then manifest else state.committed

/-- The store as one process sees it. -/
def view (state : SharedState Name) (process : Name) : State where
  files := state.files
  committed := state.committed
  working := state.reads process
  locked := (state.processes process).locked
  phases := (state.processes process).phases
  contents := state.contents

/-- Another process has the writing transaction. -/
def isBusy (state : SharedState Name) (process : Name) : Bool :=
  state.writer.any fun owned => decide (owned.1 ≠ process)

/-- What is kept of a step of a process. -/
def update (state : SharedState Name) (process : Name) (action : Action)
    (after : State) : SharedState Name where
  files := after.files
  committed := after.committed
  writer :=
    if ((state.view process).statement action).isWrite then
      some (process, after.working)
    else if (state.view process).endsTransaction action then
      if state.isBusy process then state.writer else none
    else state.writer
  processes := Function.update state.processes process
    { locked := after.locked, phases := after.phases }
  contents := after.contents

end SharedState

variable (store : FsBlobStore)

/-- A process takes a step; a statement that writes waits for the transaction
of another process. -/
def sharedStep (state : SharedState Name) (action : Name × Action) : Option (SharedState Name) :=
  let own := state.view action.1
  if (own.statement action.2).isWrite ∧ state.isBusy action.1 then none
  else (store.advance own action.2).map fun (after, _) =>
    state.update action.1 action.2 after

/-- The runs of the processes, from an empty root on. -/
def sharedSystem (Name : Type) [DecidableEq Name] :
    TransitionSystem (SharedState Name) (Name × Action) where
  initial := fun state => state = { }
  step := sharedStep store

/-- Every committed row has its file. -/
def SharedState.Complete (state : SharedState Name) : Prop := ∀ row ∈ state.committed.blobs,
    (state.files (store.blobPath row.contentHash)).isSome

/-- The content that a task is going to insert a row for, since it has found
or created the file. -/
def Phase.inserting : Phase → Option Bytes
  | .putInsertBlob request _ => some request.data
  | _ => none

/-- The content whose file a task is going to unlink. -/
def Phase.unlinking : Phase → Option String
  | .deleteUnlink _ blob => some blob.contentHash
  | _ => none

/-- No process has a row for the content, or is going to insert one. -/
def SharedState.Unclaimed (state : SharedState Name) (contentHash : String) :
    Prop :=
  (∀ row ∈ state.committed.blobs, row.contentHash ≠ contentHash) ∧
    (∀ owned ∈ state.writer, ∀ row ∈ owned.2.blobs, row.contentHash ≠ contentHash) ∧
    ∀ process, ∀ data ∈ (state.view process).holder.inserting,
      store.sha256.hexdigest data ≠ contentHash

/-- No fault, and a file is unlinked only when no process has taken it for a
content again. -/
def SharedKept (state : SharedState Name) (action : Name × Action) : Prop :=
  action.2.Succeeds (state.view action.1).holder ∧
    match action.2 with
    | .unlinkFile _ _ => ∀ contentHash ∈ (state.view action.1).holder.unlinking,
        state.Unclaimed store contentHash
    | _ => True

variable {store}

/-- Every row of the manifest names its file, which is there. -/
def Backed (store : FsBlobStore) (files : Files) (manifest : Manifest) : Prop :=
  ∀ row ∈ manifest.blobs, row.Placed store ∧ (files (store.blobPath row.contentHash)).isSome

/-- The holder of a lock is right about the file of its content. -/
def HolderBacked (store : FsBlobStore) (files : Files) : Phase → Prop
  | .putInsertBlob request _ =>
    (files (store.blobPath (store.sha256.hexdigest request.data))).isSome
  | .deleteRef _ blob | .deleteCount _ blob | .deleteBlob _ blob
  | .deleteCommit _ blob _ | .deleteUnlink _ blob => blob.Placed store
  | _ => True

theorem Backed.empty (files : Files) : Backed store files { } := by
  intro row member
  simp at member

inductive FilesStep (store : FsBlobStore) (action : Action) (holder : Phase)
    (before after : Files) : Prop
  | keeps (kept : ∀ path, (before path).isSome → (after path).isSome)
  | unlinks (task : Nat) (answer : Except OsError Unit) (acts : action = .unlinkFile task answer)
      (contentHash : String) (unlinking : contentHash ∈ holder.unlinking)
      (removed : after = Function.update before (store.blobPath contentHash) none)

theorem Backed.filesStep {action : Action} {holder : Phase}
    {before after : Files} {manifest : Manifest}
    (backed : Backed store before manifest)
    (step : FilesStep store action holder before after)
    (unused : ∀ contentHash ∈ holder.unlinking, ∀ task answer, action = .unlinkFile task answer →
        ∀ row ∈ manifest.blobs, row.contentHash ≠ contentHash) :
    Backed store after manifest := by
  intro row member
  obtain ⟨placed, present⟩ := backed row member
  refine ⟨placed, ?_⟩
  cases step with
  | keeps kept => exact kept _ present
  | unlinks task answer acts contentHash unlinking removed =>
    have different := unused contentHash unlinking task answer acts row member
    rw [removed, Function.update_of_ne (fun paths => different (blobPath_injective paths))]
    exact present

theorem HolderBacked.filesStep {action : Action} {holder other : Phase}
    {before after : Files} (backed : HolderBacked store before other)
    (step : FilesStep store action holder before after)
    (unused : ∀ contentHash ∈ holder.unlinking, ∀ task answer,
      action = .unlinkFile task answer → ∀ data ∈ other.inserting,
        store.sha256.hexdigest data ≠ contentHash) :
    HolderBacked store after other := by
  cases other with
  | putInsertBlob request now =>
    cases step with
    | keeps kept => exact kept _ backed
    | unlinks task answer acts contentHash unlinking removed =>
      have different := unused contentHash unlinking task answer acts request.data rfl
      simp only [HolderBacked, removed]
      rw [Function.update_of_ne (fun paths => different (blobPath_injective paths))]
      exact backed
  | _ => exact backed

theorem putFile_of_succeeds {files : Files} {request : Put}
    {answers : WriteAnswers} {ops : List FileOp}
    {outcome : Except BlobError Unit}
    (made : answers.mkdir = .ok ()) (created : answers.create = .ok ())
    (synced : answers.sync = .ok ())
    (written : answers.write = .ok request.data.length)
    (runs : store.putFile files request answers = (ops, outcome)) :
    outcome = .ok () ∧ (∀ path, (files path).isSome → (applyOps files ops path).isSome) := by
  have run := writeRun_of_writeBlobFile runs
  simp only [putFile, writeBlobFile, made, created, written, synced] at runs
  split at runs
  · obtain ⟨rfl, rfl⟩ := Prod.mk.inj runs
    exact ⟨rfl, fun _ present => present⟩
  case isFalse absent =>
    obtain ⟨rfl, rfl⟩ := Prod.mk.inj runs
    refine ⟨rfl, fun path present => ?_⟩
    by_cases same : path = store.blobPath (store.sha256.hexdigest request.data)
    · rw [same]
      exact run.isSome_of_ok
    · have other := run.applyOps_take_of_ne same 3
      rw [List.take_of_length_le run.length_le] at other
      rw [other]
      exact present

theorem CoreStep.backed {action : Action} {before after : Core}
    (step : CoreStep store action before after)
    (succeeds : action.Succeeds before.holder)
    (working : Backed store before.files before.working)
    (committed : Backed store before.files before.committed)
    (holder : HolderBacked store before.files before.holder)
    (unused : ∀ contentHash ∈ before.holder.unlinking, ∀ task answer,
      action = .unlinkFile task answer → ∀ row,
        row ∈ before.working.blobs ∨ row ∈ before.committed.blobs → row.contentHash ≠ contentHash) :
    FilesStep store action before.holder before.files after.files ∧
      Backed store after.files after.working ∧
      Backed store after.files after.committed ∧
      HolderBacked store after.files after.holder := by
  have same : FilesStep store action before.holder before.files before.files :=
    .keeps fun _ present => present
  cases step with
  | acquire task now job =>
    refine ⟨same, working, committed, ?_⟩
    cases job <;> trivial
  | written task request now answers ops files first second runs =>
    obtain ⟨made, created, synced, wrote⟩ := succeeds
    obtain ⟨-, kept⟩ := putFile_of_succeeds made created synced (wrote request rfl) runs
    have inPlace := WriteRun.isSome_of_ok (writeRun_of_writeBlobFile runs)
    have keeps : FilesStep store (.writeFile task answers)
        (.putWrite request now) files (applyOps files ops) := .keeps kept
    refine ⟨keeps, ?_, ?_, inPlace⟩
    · exact working.filesStep keeps (by rintro contentHash ⟨⟩)
    · exact committed.filesStep keeps (by rintro contentHash ⟨⟩)
  | writeFailed task request now answers ops error files first second runs =>
    obtain ⟨made, created, synced, wrote⟩ := succeeds
    obtain ⟨absurd, -⟩ := putFile_of_succeeds made created synced (wrote request rfl) runs
    cases absurd
  | insertBlob task request now =>
    refine ⟨same, ?_, committed, trivial⟩
    intro row member
    rcases Manifest.mem_blobs_insertBlob member with known | rfl
    · exact working row known
    · exact ⟨⟨rfl, request.data, rfl⟩, holder⟩
  | deleteFound task job row blob files first second found =>
    refine ⟨same, working, committed, ?_⟩
    exact (working blob (Manifest.of_joined found).2.1).1
  | deleteBlob task job blob =>
    refine ⟨same, ?_, committed, holder⟩
    exact fun row member => working row (List.mem_of_mem_filter member)
  | commit | deleteCommitKeep => exact ⟨same, working, working, trivial⟩
  | deleteCommitDrop => exact ⟨same, working, working, holder⟩
  | unlinked task job blob path files first second inRoot =>
    obtain rfl : store.blobPath blob.contentHash = path := by
      rw [safeResolveInRoot_of_placed holder] at inRoot
      exact Option.some.inj inRoot
    have removes : FilesStep store (.unlinkFile task (.ok ())) (.deleteUnlink job blob) files
        (Function.update files (store.blobPath blob.contentHash) none) :=
      .unlinks task (.ok ()) rfl blob.contentHash rfl rfl
    refine ⟨removes, ?_, ?_, trivial⟩
    · apply working.filesStep removes
      intro contentHash unlinking other answer acts row member
      exact unused contentHash unlinking other answer acts row (.inl member)
    · apply committed.filesStep removes
      intro contentHash unlinking other answer acts row member
      exact unused contentHash unlinking other answer acts row (.inr member)
  | unlinkFailed => cases succeeds
  | stop => exact succeeds.elim
  | stopInWrite => exact succeeds.elim
  | deleteRef | countNone | countSome =>
    exact ⟨same, working, committed, holder⟩
  | lookupNew | lookupOld | reread | insertRef | select | deleteAbsent
  | unlinkSkipped => exact ⟨same, working, committed, trivial⟩

/-- Every process has its files, and its lock is held as its phases say. -/
structure SharedState.Sound (store : FsBlobStore) (state : SharedState Name) : Prop where
  discipline : ∀ process, (state.view process).LockDiscipline
  working : ∀ process, Backed store state.files (state.reads process)
  committed : Backed store state.files state.committed
  holder : ∀ process, HolderBacked store state.files (state.view process).holder

theorem SharedState.Sound.initial : SharedState.Sound store ({ } : SharedState Name) := by
  refine ⟨fun process => ⟨?_, ?_⟩, fun process => .empty _, .empty _,
    fun process => trivial⟩
  · intro task holds
    simp [SharedState.view, Phase.holdsLock] at holds
  · intro task locked
    simp [SharedState.view] at locked

section Update

variable {state : SharedState Name} {process : Name} {action : Action}
variable {after : State}

theorem SharedState.holder_update_of_ne {other : Name} (different : other ≠ process) :
    ((state.update process action after).view other).holder = (state.view other).holder := by
  simp [SharedState.update, SharedState.view, State.holder, Function.update_of_ne different]

theorem SharedState.holder_update_self : ((state.update process action after).view process).holder =
      after.holder := by
  simp [SharedState.update, SharedState.view, State.holder]

theorem SharedState.reads_update (other : Name) :
    (state.update process action after).reads other = after.working ∨
      (state.update process action after).reads other = after.committed ∨
      ∃ owned ∈ state.writer, (state.update process action after).reads other = owned.2 := by
  have kept : ∀ writer : Option (Name × Manifest), writer = state.writer →
      ∀ manifest, (match writer with
        | none => after.committed
        | some (owner, manifest) =>
          if owner = other then manifest else after.committed) = manifest →
        manifest = after.committed ∨ ∃ owned ∈ state.writer, manifest = owned.2 := by
    rintro writer rfl manifest rfl
    cases owned : state.writer with
    | none => exact .inl rfl
    | some pair =>
      by_cases this : pair.1 = other
      · exact .inr ⟨pair, rfl, if_pos this⟩
      · exact .inl (if_neg this)
  simp only [SharedState.reads, SharedState.update]
  split_ifs
  · by_cases this : process = other
    · exact .inl (if_pos this)
    · exact .inr (.inl (if_neg this))
  · exact .inr (kept _ rfl _ rfl)
  · exact .inr (.inl rfl)
  · exact .inr (kept _ rfl _ rfl)

end Update

theorem SharedState.Sound.step {state after : SharedState Name}
    {action : Name × Action} (sound : state.Sound store)
    (kept : SharedKept store state action)
    (stepTo : sharedStep store state action = some after) :
    after.Sound store := by
  obtain ⟨process, action⟩ := action
  obtain ⟨succeeds, unclaimed⟩ := kept
  simp only [sharedStep] at stepTo
  split at stepTo
  · cases stepTo
  obtain ⟨⟨own, result⟩, advances, rfl⟩ := Option.map_eq_some_iff.mp stepTo
  have unused : ∀ contentHash ∈ (state.view process).holder.unlinking,
      ∀ task answer, action = .unlinkFile task answer →
        state.Unclaimed store contentHash := by
    rintro contentHash unlinking task answer rfl
    exact unclaimed contentHash unlinking
  have unread : ∀ other, ∀ contentHash ∈ (state.view process).holder.unlinking,
      ∀ task answer, action = .unlinkFile task answer →
        ∀ row ∈ (state.reads other).blobs, row.contentHash ≠ contentHash := by
    intro other contentHash unlinking task answer acts row member
    obtain ⟨committed, written, -⟩ := unused contentHash unlinking task answer acts
    simp only [SharedState.reads] at member
    split at member
    · exact committed row member
    case h_2 owner manifest owned =>
      split at member
      · exact written (owner, manifest) owned row member
      · exact committed row member
  obtain ⟨changes, discipline⟩ := advance_core (sound.discipline process) advances
  have effect : FilesStep store action (state.view process).holder state.files own.files ∧
        Backed store own.files own.working ∧
        Backed store own.files own.committed ∧
        HolderBacked store own.files own.holder := by
    rcases changes with same | step
    · have files : own.files = state.files := congrArg Core.files same
      have working : own.working = state.reads process :=
        congrArg Core.working same
      have committed : own.committed = state.committed :=
        congrArg Core.committed same
      have holder : own.holder = (state.view process).holder :=
        congrArg Core.holder same
      rw [files, working, committed, holder]
      exact ⟨.keeps fun _ present => present, sound.working process,
        sound.committed, sound.holder process⟩
    · apply step.backed succeeds (sound.working process) sound.committed (sound.holder process)
      intro contentHash unlinking task answer acts row member
      rcases member with read | committed
      · exact unread process contentHash unlinking task answer acts row read
      · exact (unused contentHash unlinking task answer acts).1 row committed
  obtain ⟨files, working, committed, holder⟩ := effect
  refine ⟨?_, ?_, committed, ?_⟩
  · intro other
    by_cases same : other = process
    · subst same
      apply discipline.of_eq <;> simp [SharedState.update, SharedState.view]
    · apply (sound.discipline other).of_eq <;>
        simp [SharedState.update, SharedState.view, Function.update_of_ne same]
  · intro other
    rcases @SharedState.reads_update Name _ state process action own other with
      same | same | ⟨owned, writes, same⟩
    · rw [same]
      exact working
    · rw [same]
      exact committed
    · rw [same]
      have reads : state.reads owned.1 = owned.2 := by
        simp [SharedState.reads, Option.mem_def.mp writes]
      rw [← reads]
      exact (sound.working owned.1).filesStep files (unread owned.1)
  · intro other
    by_cases same : other = process
    · rw [same, SharedState.holder_update_self]
      exact holder
    · rw [SharedState.holder_update_of_ne same]
      apply (sound.holder other).filesStep files
      intro contentHash unlinking task answer acts data inserts
      exact (unused contentHash unlinking task answer acts).2.2 other data inserts

/-- Processes that share a root keep the file of every committed row, as long
as no file is unlinked that a process has taken for a content again. -/
theorem complete_of_reachable (store : FsBlobStore) (Name : Type)
    [DecidableEq Name] {state : SharedState Name}
    (reached : (sharedSystem store Name).ReachableWithin (SharedKept store) state) :
    state.Complete store := by
  have sound : state.Sound store := by
    apply reached.invariant
    · intro initial initially
      obtain rfl : initial = { } := initially
      exact .initial
    · intro before action after sound kept stepTo
      exact sound.step kept stepTo
  intro row member
  exact (sound.committed row member).2

instance [Fintype Name] (state : SharedState Name) (contentHash : String) :
    Decidable (state.Unclaimed store contentHash) :=
  inferInstanceAs (Decidable ((∀ row ∈ state.committed.blobs, _) ∧
    (∀ owned ∈ state.writer, ∀ row ∈ owned.2.blobs, _) ∧
      ∀ process, ∀ data ∈ (state.view process).holder.inserting, _))

instance [Fintype Name] (state : SharedState Name) (action : Name × Action) :
    Decidable (SharedKept store state action) :=
  match action with
  | (_, .unlinkFile _ _) => inferInstanceAs (Decidable
      (_ ∧ ∀ contentHash ∈ (state.view _).holder.unlinking, _))
  | (_, .writeFile _ _) | (_, .put _ _) | (_, .exists _ _) | (_, .delete _ _)
  | (_, .sweepOlderThan _ _ _) | (_, .acquire _ _) | (_, .query _) | (_, .stop)
  | (_, .stopInWrite _ _ _) => inferInstanceAs (Decidable (_ ∧ True))

end Processes

section Example

def Process.hasReturned (process : Process) : Bool :=
  match process.phases 1 with
  | .idle => process.locked.isNone
  | _ => false

/-- A process puts the three bytes. -/
def putBy (process : Fin 2) : List (Fin 2 × Action) :=
  let actions : List Action := putAbc ++
    [.writeFile 1 { write := .ok 3 }] ++ insertRows ++ [.query 1]
  actions.map fun action => (process, action)

/-- A process deletes the reference, up to the commit. -/
def deleteBy (process : Fin 2) : List (Fin 2 × Action) :=
  let actions : List Action := [.delete 1 1, .acquire 1 exampleInstant,
    .query 1, .query 1, .query 1, .query 1, .query 1]
  actions.map fun action => (process, action)

/-- The file is created again after it has been unlinked. -/
theorem complete_of_put_after_unlink : ∃ state : SharedState (Fin 2),
      (sharedSystem exampleStore (Fin 2)).ReachableWithin (SharedKept exampleStore) state ∧
      state.committed.blobs.length = 1 ∧ state.Complete exampleStore := by
  have run : ∃ state : SharedState (Fin 2), (sharedSystem exampleStore (Fin 2)).ReachableWithin
        (SharedKept exampleStore) state ∧ state.committed.blobs.length = 1 :=
    TransitionSystem.exists_reachableWithin_of_checkedRun { } rfl
      (putBy 0 ++ deleteBy 0 ++ [(0, .unlinkFile 1 (.ok ()))] ++ putBy 1)
      (by decide)
  obtain ⟨state, reached, stored⟩ := run
  exact ⟨state, reached, stored, complete_of_reachable exampleStore (Fin 2) reached⟩

/-- A `put` takes the file between the commit of a deletion and its `unlink`:
both return, and the row is there without its file. -/
theorem exists_row_without_file : ∃ state : SharedState (Fin 2),
      (sharedSystem exampleStore (Fin 2)).Reachable state ∧
      (state.processes 0).hasReturned = true ∧
      (state.processes 1).hasReturned = true ∧
      ∃ row ∈ state.committed.blobs, state.files (exampleStore.blobPath row.contentHash) = none :=
  TransitionSystem.exists_reachable_of_run { } rfl
    (putBy 0 ++ deleteBy 0 ++ putBy 1 ++ [(0, .unlinkFile 1 (.ok ()))])
    (by decide)

end Example

end FsBlobStore

end RoxabiFactory

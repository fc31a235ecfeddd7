import RoxabiFactory.SharedBlobRoot

/-!
# The reconciler of the blob root

The script reads the paths of the manifest once, lists the files, reads the
clock, and then looks at one file after another while the store goes on.  A
file has an age, which says nothing about its row: an old orphan that `put`
adopts is still old.
-/

namespace RoxabiFactory

namespace FsBlobStore

namespace Reconcile

/-- `RACE_GUARD_SECONDS`, in microseconds. -/
def raceGuard : Nat := 3600000000

/-- A file in the tree, by its number among all that were created, with the
time of its creation. -/
structure Inode where
  number : Nat
  mtime : Nat
  deriving DecidableEq

/-- What a run of `reconcile` knows. -/
structure Run where
  dbPaths : List Path
  /-- The files that the walk has found. -/
  found : List (Path × Inode)
  now : Nat
  filesRemoved : Nat := 0
  bytesReclaimed : Nat := 0
  unlinkErrors : List Path := []
  deriving DecidableEq

/-- The next step of the script. -/
inductive Phase
  | idle
  | walk (dbPaths : List Path)
  | readClock (dbPaths : List Path) (found : List (Path × Inode))
  /-- The head of the loop. -/
  | loop (run : Run) (rest : List Path)
  /-- `size = f.stat().st_size`. -/
  | size (run : Run) (path : Path) (rest : List Path)
  | unlink (run : Run) (path : Path) (size : Nat) (rest : List Path)
  | done (run : Run)
  /-- An `OSError` of `stat` has left the loop. -/
  | failed (run : Run)
  deriving DecidableEq

structure State where
  store : FsBlobStore.State
  /-- The inodes of the files, for the paths where there is one. -/
  inodes : Path → Inode := fun _ => ⟨0, 0⟩
  nextNumber : Nat := 0
  clock : Nat := 0
  /-- The paths at which a file has ever been. -/
  known : List Path := []
  phase : Phase := .idle

/-- `all(c in "0123456789abcdefABCDEF" for c in name)`. -/
def isHexName (name : String) : Bool := name.toList.all fun letter =>
    "0123456789abcdefABCDEF".toList.contains letter

/-- The files that `collect_disk_files` returns, with their inodes. -/
def collectDiskFiles (root : Path) (state : State) : List (Path × Inode) :=
  (state.known.filter fun path =>
    (state.store.files path).isSome && root.isPrefixOf path &&
      isHexName (path.getLastD "")).map fun path => (path, state.inodes path)

/-- `collect_db_paths`. -/
def collectDbPaths (state : State) : List Path :=
  state.store.committed.blobs.map fun row => resolve row.storePath

/-- The path whose file an action of the store may create. -/
def touched (store : FsBlobStore) (holder : FsBlobStore.Phase) : FsBlobStore.Action → Option Path
  | .writeFile _ _ | .stopInWrite _ _ _ =>
    holder.writing.map fun request =>
      store.blobPath (store.sha256.hexdigest request.data)
  | _ => none

/-- A file that was not there before has a new inode. -/
def State.afterStore (store : FsBlobStore) (state : State)
    (action : FsBlobStore.Action) (after : FsBlobStore.State) : State :=
  { state with
    store := after
    inodes := fun path =>
      if (state.store.files path).isNone ∧ (after.files path).isSome then
        ⟨state.nextNumber, state.clock⟩
      else state.inodes path
    nextNumber := state.nextNumber + 1
    known :=
      match touched store state.store.holder action with
      | none => state.known
      | some path => state.known.insert path }

inductive Action
  /-- A step of the running store. -/
  | store (action : FsBlobStore.Action)
  /-- The time goes on. -/
  | tick (microseconds : Nat)
  | readManifest
  | walk
  | readClock
  /-- `f.stat().st_mtime` and the two conditions of the loop. -/
  | check
  | size
  | unlink (answer : Except OsError Unit)

/-- The loop goes on with the next file. -/
def loopPhase (run : Run) : List Path → Phase
  | [] => .done run
  | path :: rest => .loop run (path :: rest)

/-- `dry_run` is off. -/
def step (store : FsBlobStore) (state : State) : Action → Option State
  | .store action =>
    (store.advance state.store action).map fun (after, _) =>
      state.afterStore store action after
  | .tick microseconds =>
    some { state with clock := state.clock + microseconds }
  | .readManifest =>
    match state.phase with
    | .idle => some { state with phase := .walk (collectDbPaths state) }
    | _ => none
  | .walk =>
    match state.phase with
    | .walk dbPaths => some { state with
        phase := .readClock dbPaths (collectDiskFiles store.root state) }
    | _ => none
  | .readClock =>
    match state.phase with
    | .readClock dbPaths found => some { state with
        phase := loopPhase { dbPaths := dbPaths, found := found, now := state.clock }
          (found.map Prod.fst) }
    | _ => none
  | .check =>
    match state.phase with
    | .loop run (path :: rest) => some { state with
        phase :=
          if (state.store.files path).isNone then .failed run
          else if run.now < (state.inodes path).mtime + raceGuard then
            loopPhase run rest
          else if path ∈ run.dbPaths then loopPhase run rest
          else .size run path rest }
    | _ => none
  | .size =>
    match state.phase with
    | .size run path rest => some { state with
        phase :=
          match state.store.files path with
          | none => .failed run
          | some content => .unlink run path content.length rest }
    | _ => none
  | .unlink answer =>
    match state.phase with
    | .unlink run path size rest =>
      match state.store.files path, answer with
      | some _, .ok () => some { state with
          store := { state.store with
            files := Function.update state.store.files path none }
          phase := loopPhase { run with
            filesRemoved := run.filesRemoved + 1
            bytesReclaimed := run.bytesReclaimed + size } rest }
      | _, _ => some { state with
          phase := loopPhase { run with
            unlinkErrors := run.unlinkErrors ++ [path] } rest }
    | _ => none

/-- A run begins with a store at rest: the manifest is sound and every row has
its file, but there may be other files. -/
structure Starts (store : FsBlobStore) (state : State) : Prop where
  sound : state.store.Sound store
  backed : Backed store state.store.files state.store.committed
  idle : ∀ task, state.store.phases task = .idle
  free : state.store.locked = none
  known : ∀ path, (state.store.files path).isSome → path ∈ state.known
  distinct : state.known.Nodup
  numbered : ∀ path, (state.inodes path).number < state.nextNumber
  phase : state.phase = .idle

def system (store : FsBlobStore) : TransitionSystem State Action where
  initial := Starts store
  step := step store

/-- No row is committed or written for the path, and no `put` has found or
created its file to insert one. -/
def Unclaimed (store : FsBlobStore) (state : FsBlobStore.State) (path : Path) :
    Prop :=
  (∀ row ∈ state.committed.blobs, store.blobPath row.contentHash ≠ path) ∧
    (∀ row ∈ state.working.blobs, store.blobPath row.contentHash ≠ path) ∧
    ∀ data ∈ state.holder.inserting, store.blobPath (store.sha256.hexdigest data) ≠ path

/-- The file that the next `stat` looks at. -/
def Phase.examined : Phase → Option Path
  | .loop _ (path :: _) | .size _ path _ => some path
  | _ => none

/-- The file that the next step unlinks. -/
def Phase.unlinking : Phase → Option Path
  | .unlink _ path _ _ => some path
  | _ => none

/-- The store has no faults, the files that the script looks at are still
there, and the one that it unlinks has not been taken by a `put`. -/
def Kept (store : FsBlobStore) (state : State) : Action → Prop
  | .store action => action.Succeeds state.store.holder
  | .check | .size =>
    ∀ path ∈ state.phase.examined, (state.store.files path).isSome
  | .unlink answer => answer = .ok () ∧
      ∀ path ∈ state.phase.unlinking, Unclaimed store state.store path
  | .tick _ | .readManifest | .walk | .readClock => True

variable {store : FsBlobStore}

/-- The file that had this inode is not there any more. -/
def Gone (state : State) (path : Path) (inode : Inode) : Prop :=
  (state.store.files path).isSome → state.inodes path ≠ inode

/-- The run and the files that it has not yet dealt with. -/
def Phase.pending : Phase → Option (Run × List Path)
  | .loop run rest => some (run, rest)
  | .size run path rest | .unlink run path _ rest => some (run, path :: rest)
  | .done run | .failed run => some (run, [])
  | _ => none

/-- The files that the walk has found. -/
def Phase.found : Phase → List (Path × Inode)
  | .readClock _ found => found
  | .loop run _ | .size run _ _ | .unlink run _ _ _ | .done run
  | .failed run => run.found
  | _ => []

@[simp]
theorem pending_loopPhase (run : Run) (rest : List Path) :
    (loopPhase run rest).pending = some (run, rest) := by
  cases rest <;> rfl

@[simp]
theorem found_loopPhase (run : Run) (rest : List Path) :
    (loopPhase run rest).found = run.found := by
  cases rest <;> rfl

theorem found_of_pending {phase : Phase} {run : Run} {pending : List Path}
    (runs : phase.pending = some (run, pending)) : phase.found = run.found := by
  cases phase <;>
    simp only [Phase.pending, Option.some.injEq, Prod.mk.injEq, reduceCtorEq]
      at runs
  all_goals
    obtain ⟨rfl, -⟩ := runs
    rfl

theorem loopPhase_ne_failed (run : Run) (rest : List Path) (other : Run) :
    loopPhase run rest ≠ .failed other := by
  cases rest <;> rintro ⟨⟩

/-- The file is still to be dealt with, or it may stay, or it is gone. -/
def Settled (state : State) (run : Run) (pending : List Path) (path : Path)
    (inode : Inode) : Prop :=
  path ∈ pending ∨ path ∈ run.dbPaths ∨ run.now < inode.mtime + raceGuard ∨ Gone state path inode

structure Sound (store : FsBlobStore) (state : State) : Prop where
  core : state.store.Sound store
  working : Backed store state.store.files state.store.working
  committed : Backed store state.store.files state.store.committed
  holder : HolderBacked store state.store.files state.store.holder
  known : ∀ path, (state.store.files path).isSome → path ∈ state.known
  numbered : ∀ path, (state.inodes path).number < state.nextNumber
  found : ∀ entry ∈ state.phase.found, entry.2.number < state.nextNumber
  settled : ∀ run pending, state.phase.pending = some (run, pending) →
    ∀ entry ∈ run.found, Settled state run pending entry.1 entry.2
  continues : ∀ run, state.phase ≠ .failed run

theorem Sound.initial {state : State} (starts : Starts store state) :
    Sound store state := by
  have clean : state.store.working = state.store.committed := by
    have holder := starts.sound.core.holder
    have idle : state.store.core.holder = .idle := by
      simp [FsBlobStore.State.core, FsBlobStore.State.holder, starts.free]
    rw [idle] at holder
    exact holder
  refine ⟨starts.sound, ?_, starts.backed, ?_, starts.known, starts.numbered, ?_, ?_, ?_⟩
  · rw [clean]
    exact starts.backed
  · simp [FsBlobStore.State.holder, starts.free, HolderBacked]
  · simp [starts.phase, Phase.found]
  · simp [starts.phase, Phase.pending]
  · simp [starts.phase]

/-- A path has a file after a step of the store only if it had one before or
the step has created it. -/
theorem isSome_or_touched {action : FsBlobStore.Action} {before after : Core}
    (step : CoreStep store action before after) {path : Path}
    (present : (after.files path).isSome) :
    (before.files path).isSome ∨ touched store before.holder action = some path := by
  have written : ∀ (files : Files) (request : Put) (answers : WriteAnswers)
      (ops : List FileOp) (outcome : Except BlobError Unit) (calls : Nat),
      store.putFile files request answers = (ops, outcome) →
      (applyOps files (ops.take calls) path).isSome →
      (files path).isSome ∨ some (store.blobPath
        (store.sha256.hexdigest request.data)) = some path := by
    intro files request answers ops outcome calls runs there
    by_cases same : path = store.blobPath (store.sha256.hexdigest request.data)
    · exact .inr (congrArg some same.symm)
    · rw [(writeRun_of_writeBlobFile runs).applyOps_take_of_ne same] at there
      exact .inl there
  cases step with
  | written task request now answers ops files working committed runs =>
    apply written files request answers ops _ 3 runs
    rwa [List.take_of_length_le (writeRun_of_writeBlobFile runs).length_le]
  | writeFailed task request now answers ops error files working committed runs =>
    apply written files request answers ops _ 3 runs
    rwa [List.take_of_length_le (writeRun_of_writeBlobFile runs).length_le]
  | stopInWrite task request now answers calls files working committed =>
    exact written files request answers _ _ calls rfl present
  | unlinked task job blob other files working committed inRoot =>
    left
    by_cases same : path = other
    · simp [same] at present
    · simpa only [Function.update_of_ne same] using present
  | _ => exact .inl present

theorem Gone.afterStore {state : State} {action : FsBlobStore.Action}
    {after : FsBlobStore.State} {path : Path} {inode : Inode}
    (gone : Gone state path inode) (numbered : inode.number < state.nextNumber) :
    Gone (state.afterStore store action after) path inode := by
  intro present same
  simp only [State.afterStore] at present same
  split at same
  · rw [← same] at numbered
    exact absurd numbered (Nat.lt_irrefl _)
  case isFalse known =>
    have before : (state.store.files path).isSome := by
      by_contra none
      exact known ⟨by simpa using none, present⟩
    exact gone before same

theorem Sound.afterStore {state : State} {action : FsBlobStore.Action}
    {after : FsBlobStore.State} {result : Option Result}
    (sound : Sound store state) (succeeds : action.Succeeds state.store.holder)
    (stepTo : store.advance state.store action = some (after, result)) :
    Sound store (state.afterStore store action after) := by
  have core := sound.core.advance stepTo
  obtain ⟨changes, -⟩ := advance_core sound.core.discipline stepTo
  have effect : Backed store after.files after.working ∧ Backed store after.files after.committed ∧
      HolderBacked store after.files after.holder := by
    rcases changes with same | step
    · have files : after.files = state.store.files := congrArg Core.files same
      have working : after.working = state.store.working :=
        congrArg Core.working same
      have committed : after.committed = state.store.committed :=
        congrArg Core.committed same
      have holder : after.holder = state.store.holder :=
        congrArg Core.holder same
      rw [files, working, committed, holder]
      exact ⟨sound.working, sound.committed, sound.holder⟩
    · apply (step.backed succeeds sound.working sound.committed sound.holder _).2
      -- the holder that unlinks has found no row for the content
      intro contentHash unlinking task answer acts row member
      have known := sound.core.core.holder
      cases holder : state.store.core.holder with
      | deleteUnlink job blob =>
        rw [holder] at known unlinking
        obtain rfl := Option.some.inj (Option.mem_def.mp unlinking)
        obtain ⟨clean, -, unused⟩ := known
        rw [← clean, or_self] at member
        exact unused row member
      | _ =>
        rw [holder] at unlinking
        cases unlinking
  obtain ⟨working, committed, holder⟩ := effect
  refine ⟨core, working, committed, holder, ?_, ?_, ?_, ?_, sound.continues⟩
  · intro path present
    have known : (state.store.files path).isSome ∨
        touched store state.store.holder action = some path := by
      rcases changes with same | step
      · have files : after.files = state.store.files := congrArg Core.files same
        exact .inl (files ▸ present)
      · exact isSome_or_touched step present
    simp only [State.afterStore]
    rcases known with before | created
    · split
      · exact sound.known path before
      · exact List.mem_insert_of_mem (sound.known path before)
    · rw [created]
      exact List.mem_insert_self
  · intro path
    simp only [State.afterStore]
    split
    · exact Nat.lt_succ_self _
    · exact Nat.lt_succ_of_lt (sound.numbered path)
  · intro entry member
    exact Nat.lt_succ_of_lt (sound.found entry member)
  · intro run pending runs entry member
    have numbered : entry.2.number < state.nextNumber := by
      apply sound.found
      have listed : state.phase.found = run.found := found_of_pending runs
      rw [listed]
      exact member
    rcases sound.settled run pending runs entry member with
      waits | named | young | gone
    · exact .inl waits
    · exact .inr (.inl named)
    · exact .inr (.inr (.inl young))
    · exact .inr (.inr (.inr (gone.afterStore numbered)))

/-- A step of the script that changes no file and settles what it has looked
at. -/
theorem Sound.advance {state : State} {phase : Phase} (sound : Sound store state)
    (found : ∀ entry ∈ phase.found, entry.2.number < state.nextNumber)
    (settled : ∀ run pending, phase.pending = some (run, pending) →
      ∀ entry ∈ run.found, Settled state run pending entry.1 entry.2)
    (continues : ∀ run, phase ≠ .failed run) :
    Sound store { state with phase := phase } :=
  ⟨sound.core, sound.working, sound.committed, sound.holder, sound.known,
    sound.numbered, found, settled, continues⟩

theorem Sound.next {state : State} {run after : Run} {path : Path}
    {rest : List Path} (sound : Sound store state)
    (pending : state.phase.pending = some (run, path :: rest))
    (same : after.found = run.found ∧ after.dbPaths = run.dbPaths ∧ after.now = run.now)
    (first : ∀ inode, (path, inode) ∈ run.found →
      path ∈ run.dbPaths ∨ run.now < inode.mtime + raceGuard ∨ Gone state path inode) :
    Sound store { state with phase := loopPhase after rest } := by
  obtain ⟨found, dbPaths, now⟩ := same
  apply sound.advance
  · rw [found_loopPhase, found, ← found_of_pending pending]
    exact sound.found
  · intro other remaining runs entry member
    obtain ⟨rfl, rfl⟩ := Prod.mk.inj (Option.some.inj
      ((pending_loopPhase after rest).symm.trans runs))
    rw [found] at member
    have settled := sound.settled run _ pending entry member
    simp only [Settled, dbPaths, now] at settled ⊢
    rcases settled with waits | settled
    · rcases List.mem_cons.mp waits with same | later
      · obtain ⟨known, inode⟩ := entry
        obtain rfl : known = path := same
        exact .inr (first inode member)
      · exact .inl later
    · exact .inr settled
  · exact loopPhase_ne_failed after rest

theorem collectDiskFiles_numbered {root : Path} {state : State}
    (numbered : ∀ path, (state.inodes path).number < state.nextNumber) :
    ∀ entry ∈ collectDiskFiles root state, entry.2.number < state.nextNumber := by
  intro entry member
  obtain ⟨path, -, rfl⟩ := List.mem_map.mp member
  exact numbered path

theorem Sound.check {state after : State} (sound : Sound store state)
    (kept : Kept store state .check) (stepTo : step store state .check = some after) :
    Sound store after := by
  simp only [step] at stepTo
  cases phase : state.phase with
  | loop run pending =>
    cases pending with
    | nil => simp [phase] at stepTo
    | cons path rest =>
      simp only [phase, Option.some.injEq] at stepTo
      subst stepTo
      have present : (state.store.files path).isSome := by
        apply kept
        rw [phase]
        rfl
      have there : ¬ (state.store.files path).isNone = true := by
        obtain ⟨content, stored⟩ := Option.isSome_iff_exists.mp present
        simp [stored]
      have pending : state.phase.pending = some (run, path :: rest) := by
        rw [phase, Phase.pending]
      rw [if_neg there]
      by_cases young : run.now < (state.inodes path).mtime + raceGuard
      · rw [if_pos young]
        apply sound.next pending ⟨rfl, rfl, rfl⟩
        intro inode member
        by_cases same : state.inodes path = inode
        · exact .inr (.inl (same ▸ young))
        · exact .inr (.inr fun _ => same)
      · rw [if_neg young]
        by_cases named : path ∈ run.dbPaths
        · rw [if_pos named]
          exact sound.next pending ⟨rfl, rfl, rfl⟩ fun _ _ => .inl named
        · rw [if_neg named]
          apply sound.advance
          · rw [Phase.found, ← found_of_pending pending]
            exact sound.found
          · intro other remaining runs
            obtain ⟨rfl, rfl⟩ := Prod.mk.inj (Option.some.inj runs)
            exact sound.settled _ _ pending
          · rintro other ⟨⟩
  | _ => simp [phase] at stepTo

theorem Sound.size {state after : State} (sound : Sound store state)
    (kept : Kept store state .size) (stepTo : step store state .size = some after) :
    Sound store after := by
  simp only [step] at stepTo
  cases phase : state.phase with
  | size run path rest =>
    simp only [phase, Option.some.injEq] at stepTo
    subst stepTo
    have present : (state.store.files path).isSome := by
      apply kept
      rw [phase]
      rfl
    obtain ⟨content, stored⟩ := Option.isSome_iff_exists.mp present
    have pending : state.phase.pending = some (run, path :: rest) := by
      rw [phase, Phase.pending]
    simp only [stored]
    apply sound.advance
    · rw [Phase.found, ← found_of_pending pending]
      exact sound.found
    · intro other remaining runs
      obtain ⟨rfl, rfl⟩ := Prod.mk.inj (Option.some.inj runs)
      exact sound.settled _ _ pending
    · rintro other ⟨⟩
  | _ => simp [phase] at stepTo

theorem backed_remove {files : Files} {manifest : Manifest} {path : Path}
    (backed : Backed store files manifest)
    (unclaimed : ∀ row ∈ manifest.blobs, store.blobPath row.contentHash ≠ path) :
    Backed store (Function.update files path none) manifest := by
  intro row member
  obtain ⟨placed, present⟩ := backed row member
  rw [Function.update_of_ne (unclaimed row member)]
  exact ⟨placed, present⟩

theorem holderBacked_remove {files : Files} {holder : FsBlobStore.Phase}
    {path : Path} (backed : HolderBacked store files holder)
    (unclaimed : ∀ data ∈ holder.inserting, store.blobPath (store.sha256.hexdigest data) ≠ path) :
    HolderBacked store (Function.update files path none) holder := by
  cases holder with
  | putInsertBlob request now =>
    simp only [HolderBacked]
    rw [Function.update_of_ne (unclaimed request.data rfl)]
    exact backed
  | _ => exact backed

theorem Sound.remove {state : State} {path : Path} (sound : Sound store state)
    (unclaimed : Unclaimed store state.store path) :
    Sound store { state with store := { state.store with
      files := Function.update state.store.files path none } } := by
  obtain ⟨committed, working, inserting⟩ := unclaimed
  have before : ∀ other, (Function.update state.store.files path none other).isSome →
        (state.store.files other).isSome := by
    intro other present
    by_cases same : other = path
    · simp [same] at present
    · rwa [Function.update_of_ne same] at present
  refine ⟨⟨sound.core.discipline.of_eq rfl rfl, sound.core.core.working,
    sound.core.core.committed, sound.core.core.holder⟩, ?_, ?_, ?_, ?_,
    sound.numbered, sound.found, ?_, sound.continues⟩
  · exact backed_remove sound.working working
  · exact backed_remove sound.committed committed
  · exact holderBacked_remove sound.holder inserting
  · exact fun other present => sound.known other (before other present)
  · intro run pending runs entry member
    rcases sound.settled run pending runs entry member with
      waits | named | young | gone
    · exact .inl waits
    · exact .inr (.inl named)
    · exact .inr (.inr (.inl young))
    · exact .inr (.inr (.inr fun present => gone (before _ present)))

theorem Sound.unlink {state after : State} {answer : Except OsError Unit}
    (sound : Sound store state) (kept : Kept store state (.unlink answer))
    (stepTo : step store state (.unlink answer) = some after) :
    Sound store after := by
  obtain ⟨rfl, unclaimed⟩ := kept
  simp only [step] at stepTo
  cases phase : state.phase with
  | unlink run path size rest =>
    simp only [phase] at stepTo
    have free : Unclaimed store state.store path := by
      apply unclaimed
      rw [phase]
      rfl
    have pending : state.phase.pending = some (run, path :: rest) := by
      rw [phase, Phase.pending]
    cases stored : state.store.files path with
    | none =>
      simp only [stored, Option.some.injEq] at stepTo
      subst stepTo
      apply sound.next pending
      · exact ⟨rfl, rfl, rfl⟩
      · intro inode member
        refine .inr (.inr fun present => ?_)
        simp [stored] at present
    | some content =>
      simp only [stored, Option.some.injEq] at stepTo
      subst stepTo
      apply (sound.remove free).next pending
      · exact ⟨rfl, rfl, rfl⟩
      · intro inode member
        refine .inr (.inr fun present => ?_)
        simp at present
  | _ => simp [phase] at stepTo

theorem Sound.step {state after : State} {action : Action}
    (sound : Sound store state) (kept : Kept store state action)
    (stepTo : step store state action = some after) : Sound store after := by
  cases action with
  | store action =>
    obtain ⟨⟨other, result⟩, advances, rfl⟩ := Option.map_eq_some_iff.mp stepTo
    exact sound.afterStore kept advances
  | tick microseconds =>
    obtain rfl := Option.some.inj stepTo
    exact ⟨sound.core, sound.working, sound.committed, sound.holder,
      sound.known, sound.numbered, sound.found, sound.settled,
      sound.continues⟩
  | readManifest =>
    simp only [Reconcile.step] at stepTo
    split at stepTo
    · obtain rfl := Option.some.inj stepTo
      apply sound.advance
      · simp [Phase.found]
      · rintro run pending ⟨⟩
      · rintro run ⟨⟩
    · cases stepTo
  | walk =>
    simp only [Reconcile.step] at stepTo
    split at stepTo
    · obtain rfl := Option.some.inj stepTo
      apply sound.advance
      · exact collectDiskFiles_numbered sound.numbered
      · rintro run pending ⟨⟩
      · rintro run ⟨⟩
    · cases stepTo
  | readClock =>
    simp only [Reconcile.step] at stepTo
    split at stepTo
    case h_1 dbPaths found phase =>
      obtain rfl := Option.some.inj stepTo
      apply sound.advance
      · rw [found_loopPhase]
        have numbered := sound.found
        rw [phase] at numbered
        exact numbered
      · intro run pending runs entry member
        obtain ⟨rfl, rfl⟩ := Prod.mk.inj (Option.some.inj ((pending_loopPhase _ _).symm.trans runs))
        exact .inl (List.mem_map_of_mem member)
      · exact loopPhase_ne_failed _ _
    case h_2 => cases stepTo
  | check => exact sound.check kept stepTo
  | size => exact sound.size kept stepTo
  | unlink answer => exact sound.unlink kept stepTo

theorem sound_of_reachable {state : State}
    (reached : (system store).ReachableWithin (Kept store) state) :
    Sound store state := by
  apply reached.invariant
  · exact fun initial starts => .initial starts
  · exact fun before action after sound kept stepTo => sound.step kept stepTo

/-- While the script removes no file that has been taken for a content again,
every committed row has its file; the walk lists every file with such a name;
the run does not fail; and when it is done, each file that it has found, that
no row named at its start and that was old enough, is gone. -/
theorem reconciled_of_reachable (store : FsBlobStore) {state : State}
    (reached : (system store).ReachableWithin (Kept store) state) :
    (∀ row ∈ state.store.committed.blobs, (state.store.files row.storePath).isSome) ∧
    (∀ path, store.root <+: path → isHexName (path.getLastD "") = true →
      (state.store.files path).isSome →
        (path, state.inodes path) ∈ collectDiskFiles store.root state) ∧
    (∀ run, state.phase ≠ .failed run) ∧
    ∀ run, state.phase = .done run → ∀ path inode, (path, inode) ∈ run.found →
      path ∉ run.dbPaths → inode.mtime + raceGuard ≤ run.now →
        Gone state path inode := by
  have sound := sound_of_reachable reached
  refine ⟨?_, ?_, sound.continues, ?_⟩
  · intro row member
    obtain ⟨⟨path, -⟩, present⟩ := sound.committed row member
    rw [path]
    exact present
  · intro path inRoot hex present
    apply List.mem_map.mpr
    refine ⟨path, List.mem_filter.mpr ⟨sound.known path present, ?_⟩, rfl⟩
    simp only [present, hex, List.isPrefixOf_iff_prefix.mpr inRoot, Bool.and_self]
  · intro run phase path inode found unnamed old
    have pending : state.phase.pending = some (run, []) := by
      rw [phase, Phase.pending]
    rcases sound.settled run [] pending (path, inode) found with
      waits | named | young | gone
    · simp at waits
    · exact absurd named unnamed
    · simp only at young
      omega
    · exact gone

instance (state : FsBlobStore.State) (path : Path) : Decidable (Unclaimed store state path) :=
  inferInstanceAs (Decidable ((∀ row ∈ state.committed.blobs, _) ∧
    (∀ row ∈ state.working.blobs, _) ∧ ∀ data ∈ state.holder.inserting, _))

instance (state : State) (action : Action) : Decidable (Kept store state action) :=
  match action with
  | .store action =>
    inferInstanceAs (Decidable (action.Succeeds state.store.holder))
  | .check | .size =>
    inferInstanceAs (Decidable (∀ path ∈ state.phase.examined, _))
  | .unlink _ =>
    inferInstanceAs (Decidable (_ ∧ ∀ path ∈ state.phase.unlinking, _))
  | .tick _ | .readManifest | .walk | .readClock => isTrue trivial

section Example

def examplePath (data : Bytes) : Path := exampleStore.blobPath (exampleSha256.hexdigest data)

/-- A root with one file that has no row, two hours old. -/
def orphaned (data : Bytes) : State where
  store := { files := Function.update (fun _ => none) (examplePath data) (some abc) }
  nextNumber := 1
  clock := 2 * raceGuard
  known := [examplePath data]

theorem starts_orphaned (data : Bytes) :
    Starts exampleStore (orphaned data) := by
  have initial := @FsBlobStore.State.Sound.initial exampleStore
  refine ⟨⟨initial.discipline.of_eq rfl rfl, initial.core.working,
    initial.core.committed, initial.core.holder⟩, .empty _, fun _ => rfl, rfl,
    ?_, by simp [orphaned], by simp [orphaned], rfl⟩
  intro path present
  by_cases same : path = examplePath data
  · simp [orphaned, same]
  · simp only [orphaned, Function.update_of_ne same] at present
    cases present

/-- The orphan is removed. -/
theorem gone_of_orphan :
    ∃ state run, (system exampleStore).ReachableWithin (Kept exampleStore) state ∧
      state.phase = .done run ∧ run.filesRemoved = 1 ∧
      Gone state (examplePath abc) ⟨0, 0⟩ := by
  let run : Run :=
    { dbPaths := [], found := [(examplePath abc, ⟨0, 0⟩)], now := 2 * raceGuard,
      filesRemoved := 1, bytesReclaimed := 3 }
  have runs : ∃ state, (system exampleStore).ReachableWithin (Kept exampleStore) state ∧
        state.phase = .done run :=
    TransitionSystem.exists_reachableWithin_of_checkedRun (orphaned abc) (starts_orphaned abc)
      [.readManifest, .walk, .readClock, .check, .size, .unlink (.ok ())]
      (by decide +kernel)
  obtain ⟨state, reached, done⟩ := runs
  obtain ⟨-, -, -, gone⟩ := reconciled_of_reachable exampleStore reached
  exact ⟨state, run, reached, done, rfl,
    gone run done (examplePath abc) ⟨0, 0⟩ (by simp [run]) (by simp [run])
      (by simp [run]; decide)⟩

def Phase.isDone : Phase → Bool
  | .done _ => true
  | _ => false

def Phase.isFailed : Phase → Bool
  | .failed _ => true
  | _ => false

/-- A `put` of the three bytes that runs to its end. -/
def putStored : List Action :=
  let actions : List FsBlobStore.Action := putAbc ++
    [.writeFile 1 { write := .ok 3 }] ++ insertRows ++ [.query 1]
  actions.map .store

def deleteStored : List Action :=
  let actions : List FsBlobStore.Action := [.delete 1 1,
    .acquire 1 exampleInstant, .query 1, .query 1, .query 1, .query 1,
    .query 1, .unlinkFile 1 (.ok ())]
  actions.map .store

/-- A `put` that adopts the orphan after the manifest has been read commits a
row, and the script removes the file; or a file that the walk has found is
deleted, and the script fails before it comes to the orphan. -/
theorem exists_row_without_file_or_orphan : (∃ state, (system exampleStore).Reachable state ∧
      state.phase.isDone = true ∧ state.store.locked = none ∧
      ∃ row ∈ state.store.committed.blobs, state.store.files row.storePath = none) ∧
    ∃ state, (system exampleStore).Reachable state ∧ state.phase.isFailed = true ∧
      (state.store.files (examplePath [])).isSome ∧
      state.store.committed.blobs = [] := by
  constructor
  · exact TransitionSystem.exists_reachable_of_run (orphaned abc) (starts_orphaned abc)
      ([.readManifest] ++ putStored ++ [.walk, .readClock, .check, .size, .unlink (.ok ())])
      (by decide +kernel)
  · exact TransitionSystem.exists_reachable_of_run (orphaned []) (starts_orphaned [])
      (putStored ++ [.readManifest, .walk] ++ deleteStored ++ [.readClock, .check])
      (by decide +kernel)

end Example

end Reconcile

end FsBlobStore

end RoxabiFactory

import RoxabiFactory.FsBlobStore

/-!
# The steps of the task that holds the lock

The files and the two manifests are changed only by the task that holds the
lock, or by the end of the process, and what such a step does depends on the
files, the manifests and the phase of that task alone.
-/

namespace RoxabiFactory

namespace FsBlobStore

/-- The part of a state that the holder of the lock reads and changes. -/
structure Core where
  files : Files
  working : Manifest
  committed : Manifest
  /-- The phase of the holder, idle when the lock is free. -/
  holder : Phase

namespace State

/-- The phase of the task that holds the lock. -/
def holder (state : State) : Phase :=
  match state.locked with
  | none => .idle
  | some task => state.phases task

def core (state : State) : Core where
  files := state.files
  working := state.working
  committed := state.committed
  holder := state.holder

/-- The lock is held by the task whose phase says so. -/
structure LockDiscipline (state : State) : Prop where
  locked : ∀ task, (state.phases task).holdsLock = true → state.locked = some task
  holds : ∀ task, state.locked = some task → (state.phases task).holdsLock = true

theorem holder_of_locked {state : State} {task : Nat} (locked : state.locked = some task) :
    state.holder = state.phases task := by
  simp [holder, locked]

theorem holder_enter_self {state : State} {task : Nat} {phase : Phase}
    (locked : state.locked = some task) :
    (state.enter task phase).holder = phase := by
  simp [holder, enter, locked]

theorem holder_enter_other {state : State} {task : Nat} {phase : Phase}
    (free : state.locked ≠ some task) :
    (state.enter task phase).holder = state.holder := by
  simp only [holder, enter]
  cases locked : state.locked with
  | none => rfl
  | some other =>
    have different : other ≠ task := by
      rintro rfl
      exact free locked
    simp [Function.update_of_ne different]

@[simp]
theorem holder_release (state : State) (task : Nat) (phase : Phase) :
    (state.release task phase).holder = .idle := by
  simp [holder, release]

@[simp]
theorem holder_recovered (state : State) : state.recovered.holder = .idle := by
  simp [holder, recovered]

theorem LockDiscipline.free {state : State} (discipline : state.LockDiscipline)
    {task : Nat} (waits : (state.phases task).holdsLock = false) :
    state.locked ≠ some task := by
  intro locked
  simp [discipline.holds task locked] at waits

theorem LockDiscipline.enter_other {state : State}
    (discipline : state.LockDiscipline) {task : Nat} {phase : Phase}
    (waits : (state.phases task).holdsLock = false)
    (stillWaits : phase.holdsLock = false) :
    (state.enter task phase).LockDiscipline := by
  have free := discipline.free waits
  constructor
  · intro other holdsAfter
    by_cases same : other = task
    · subst same
      simp [enter, stillWaits] at holdsAfter
    · simp only [enter, Function.update_of_ne same] at holdsAfter
      exact discipline.locked other holdsAfter
  · intro other locked
    have different : other ≠ task := by
      rintro rfl
      exact free locked
    simp only [enter, Function.update_of_ne different]
    exact discipline.holds other locked

theorem LockDiscipline.enter_self {state : State}
    (discipline : state.LockDiscipline) {task : Nat} {phase : Phase}
    (locked : state.locked = some task) (stillHolds : phase.holdsLock = true) :
    (state.enter task phase).LockDiscipline := by
  constructor
  · intro other holdsAfter
    by_cases same : other = task
    · exact same ▸ locked
    · simp only [enter, Function.update_of_ne same] at holdsAfter
      exact discipline.locked other holdsAfter
  · intro other lockedAfter
    obtain rfl : task = other := Option.some.inj (locked.symm.trans lockedAfter)
    simpa [enter] using stillHolds

theorem LockDiscipline.release {state : State}
    (discipline : state.LockDiscipline) {task : Nat} {phase : Phase}
    (locked : state.locked = some task) (leaves : phase.holdsLock = false) :
    (state.release task phase).LockDiscipline := by
  constructor
  · intro other holdsAfter
    by_cases same : other = task
    · subst same
      simp [State.release, enter, leaves] at holdsAfter
    · simp only [State.release, enter, Function.update_of_ne same]
        at holdsAfter
      have lockedOther := discipline.locked other holdsAfter
      exact absurd (Option.some.inj (lockedOther.symm.trans locked)) same
  · intro other lockedAfter
    simp [State.release] at lockedAfter

theorem LockDiscipline.recovered (state : State) :
    state.recovered.LockDiscipline := by
  constructor
  · intro task holdsAfter
    simp [State.recovered, Phase.holdsLock] at holdsAfter
  · intro task lockedAfter
    simp [State.recovered] at lockedAfter

theorem LockDiscipline.of_eq {first second : State}
    (discipline : first.LockDiscipline) (sameLock : second.locked = first.locked)
    (samePhases : second.phases = first.phases) : second.LockDiscipline := by
  constructor
  · rw [sameLock, samePhases]
    exact discipline.locked
  · rw [sameLock, samePhases]
    exact discipline.holds

end State

@[simp]
theorem Sweep.holdsLock_next (sweep : Sweep) : sweep.next.1.holdsLock = false := by
  cases remaining : sweep.staleIds <;>
    simp [Sweep.next, remaining, Phase.holdsLock]

@[simp]
theorem Delete.holdsLock_return (job : Delete) : job.return.1.holdsLock = false := by
  cases calledBy : job.sweep with
  | none => simp [Delete.return, calledBy, Phase.holdsLock]
  | some sweep => rw [Delete.return, calledBy, Sweep.holdsLock_next]

theorem holdsLock_acquired (now : UtcTime) (job : Job) : (acquired now job).holdsLock = true := by
  cases job <;> rfl

variable (store : FsBlobStore)

/-- The calls that `_write_blob_file` makes for a `put`, and how it ends. -/
def putFile (files : Files) (request : Put) (answers : WriteAnswers) :
    List FileOp × Except BlobError Unit :=
  let contentHash := store.sha256.hexdigest request.data
  writeBlobFile files (store.blobPath contentHash) request.data contentHash answers

/-- What the steps do that change more than the phase of a task which does
not hold the lock. -/
inductive CoreStep : Action → Core → Core → Prop
  | acquire (task : Nat) (now : UtcTime) (job : Job)
      (files : Files) (working committed : Manifest) :
      CoreStep (.acquire task now) ⟨files, working, committed, .idle⟩
        ⟨files, working, committed, acquired now job⟩
  | lookupNew (task : Nat) (request : Put) (now : UtcTime)
      (files : Files) (working committed : Manifest)
      (absent : working.lookupExisting (store.sha256.hexdigest request.data) = none) :
      CoreStep (.query task) ⟨files, working, committed, .putLookup request now⟩
        ⟨files, working, committed, .putWrite request now⟩
  | lookupOld (task : Nat) (request : Put) (now : UtcTime) (blob : BlobRow)
      (files : Files) (working committed : Manifest)
      (found : working.lookupExisting (store.sha256.hexdigest request.data) = some blob) :
      CoreStep (.query task) ⟨files, working, committed, .putLookup request now⟩
        ⟨files, working, committed, .putInsertRef request now blob.stored⟩
  | written (task : Nat) (request : Put) (now : UtcTime)
      (answers : WriteAnswers) (ops : List FileOp)
      (files : Files) (working committed : Manifest)
      (runs : store.putFile files request answers = (ops, .ok ())) :
      CoreStep (.writeFile task answers) ⟨files, working, committed, .putWrite request now⟩
        ⟨applyOps files ops, working, committed, .putInsertBlob request now⟩
  | writeFailed (task : Nat) (request : Put) (now : UtcTime)
      (answers : WriteAnswers) (ops : List FileOp) (error : BlobError)
      (files : Files) (working committed : Manifest)
      (runs : store.putFile files request answers = (ops, .error error)) :
      CoreStep (.writeFile task answers) ⟨files, working, committed, .putWrite request now⟩
        ⟨applyOps files ops, working, committed, .idle⟩
  | insertBlob (task : Nat) (request : Put) (now : UtcTime)
      (files : Files) (working committed : Manifest) :
      CoreStep (.query task) ⟨files, working, committed, .putInsertBlob request now⟩
        ⟨files, working.insertBlob (store.newBlob request now), committed, .putReread request now⟩
  | reread (task : Nat) (request : Put) (now : UtcTime)
      (files : Files) (working committed : Manifest) :
      CoreStep (.query task) ⟨files, working, committed, .putReread request now⟩
        ⟨files, working, committed, .putInsertRef request now
          ((working.lookupExisting (store.sha256.hexdigest request.data)).getD
            (store.newBlob request now)).stored⟩
  | insertRef (task : Nat) (request : Put) (now : UtcTime) (stored : Stored)
      (files : Files) (working committed : Manifest) :
      CoreStep (.query task) ⟨files, working, committed, .putInsertRef request now stored⟩
        ⟨files, working.insertRef (store.newRef request now), committed,
          .putCommit request now stored (working.sequence + 1)⟩
  | commit (task : Nat) (request : Put) (now : UtcTime) (stored : Stored)
      (id : Nat) (files : Files) (working committed : Manifest) :
      CoreStep (.query task) ⟨files, working, committed, .putCommit request now stored id⟩
        ⟨files, working, working, .idle⟩
  | select (task : Nat) (contentHash : String) (files : Files) (working committed : Manifest) :
      CoreStep (.query task) ⟨files, working, committed, .existsSelect contentHash⟩
        ⟨files, working, committed, .idle⟩
  | deleteAbsent (task : Nat) (job : Delete) (files : Files) (working committed : Manifest)
      (absent : working.joined job.blobRefId = none) :
      CoreStep (.query task) ⟨files, working, committed, .deleteSelect job⟩
        ⟨files, working, committed, .idle⟩
  | deleteFound (task : Nat) (job : Delete) (row : RefRow) (blob : BlobRow)
      (files : Files) (working committed : Manifest)
      (found : working.joined job.blobRefId = some (row, blob)) :
      CoreStep (.query task) ⟨files, working, committed, .deleteSelect job⟩
        ⟨files, working, committed, .deleteRef job blob⟩
  | deleteRef (task : Nat) (job : Delete) (blob : BlobRow)
      (files : Files) (working committed : Manifest) :
      CoreStep (.query task) ⟨files, working, committed, .deleteRef job blob⟩
        ⟨files, working.deleteRef job.blobRefId, committed, .deleteCount
          (job.removing (working.refs.filter (·.id = job.blobRefId))) blob⟩
  | countNone (task : Nat) (job : Delete) (blob : BlobRow)
      (files : Files) (working committed : Manifest)
      (last : working.countRefs blob.contentHash = 0) :
      CoreStep (.query task) ⟨files, working, committed, .deleteCount job blob⟩
        ⟨files, working, committed, .deleteBlob job blob⟩
  | countSome (task : Nat) (job : Delete) (blob : BlobRow)
      (files : Files) (working committed : Manifest)
      (shared : working.countRefs blob.contentHash ≠ 0) :
      CoreStep (.query task) ⟨files, working, committed, .deleteCount job blob⟩
        ⟨files, working, committed, .deleteCommit job blob false⟩
  | deleteBlob (task : Nat) (job : Delete) (blob : BlobRow)
      (files : Files) (working committed : Manifest) :
      CoreStep (.query task) ⟨files, working, committed, .deleteBlob job blob⟩
        ⟨files, working.deleteBlob blob.contentHash, committed, .deleteCommit job blob true⟩
  | deleteCommitDrop (task : Nat) (job : Delete) (blob : BlobRow)
      (files : Files) (working committed : Manifest) :
      CoreStep (.query task) ⟨files, working, committed, .deleteCommit job blob true⟩
        ⟨files, working, working, .deleteUnlink job blob⟩
  | deleteCommitKeep (task : Nat) (job : Delete) (blob : BlobRow)
      (files : Files) (working committed : Manifest) :
      CoreStep (.query task) ⟨files, working, committed, .deleteCommit job blob false⟩
        ⟨files, working, working, .idle⟩
  | unlinked (task : Nat) (job : Delete) (blob : BlobRow) (path : Path)
      (files : Files) (working committed : Manifest)
      (inRoot : store.safeResolveInRoot blob.storePath = some path) :
      CoreStep (.unlinkFile task (.ok ())) ⟨files, working, committed, .deleteUnlink job blob⟩
        ⟨Function.update files path none, working, committed, .idle⟩
  | unlinkSkipped (task : Nat) (job : Delete) (blob : BlobRow) (answer : Except OsError Unit)
      (files : Files) (working committed : Manifest)
      (outside : store.safeResolveInRoot blob.storePath = none) :
      CoreStep (.unlinkFile task answer) ⟨files, working, committed, .deleteUnlink job blob⟩
        ⟨files, working, committed, .idle⟩
  | unlinkFailed (task : Nat) (job : Delete) (blob : BlobRow) (error : OsError)
      (files : Files) (working committed : Manifest) :
      CoreStep (.unlinkFile task (.error error)) ⟨files, working, committed, .deleteUnlink job blob⟩
        ⟨files, working, committed, .idle⟩
  | stop (files : Files) (working committed : Manifest) (holder : Phase) :
      CoreStep .stop ⟨files, working, committed, holder⟩ ⟨files, committed, committed, .idle⟩
  | stopInWrite (task : Nat) (request : Put) (now : UtcTime) (answers : WriteAnswers) (calls : Nat)
      (files : Files) (working committed : Manifest) :
      CoreStep (.stopInWrite task answers calls) ⟨files, working, committed, .putWrite request now⟩
        ⟨applyOps files ((store.putFile files request answers).1.take calls),
          committed, committed, .idle⟩

variable {store}

theorem core_of_phase {state : State} (discipline : state.LockDiscipline)
    {task : Nat} {phase : Phase} (runs : state.phases task = phase)
    (holds : phase.holdsLock = true) :
    state.locked = some task ∧
      state.core = ⟨state.files, state.working, state.committed, phase⟩ := by
  have locked := discipline.locked task (runs ▸ holds)
  exact ⟨locked, by simp [State.core, State.holder_of_locked locked, runs]⟩

theorem CoreStep.of_holder {state after : State} {action : Action} {phase next : Phase}
    (core : state.core = ⟨state.files, state.working, state.committed, phase⟩)
    (holder : after.holder = next)
    (step : CoreStep store action ⟨state.files, state.working, state.committed, phase⟩
      ⟨after.files, after.working, after.committed, next⟩) :
    CoreStep store action state.core after.core := by
  rw [core, State.core, holder]
  exact step

theorem enter_other {state : State} {task : Nat} {phase : Phase} (discipline : state.LockDiscipline)
    (waits : (state.phases task).holdsLock = false)
    (stillWaits : phase.holdsLock = false) :
    (state.enter task phase).core = state.core ∧ (state.enter task phase).LockDiscipline := by
  constructor
  · simp only [State.core, State.holder_enter_other (discipline.free waits)]
    rfl
  · exact discipline.enter_other waits stillWaits

/-- A statement changes the core as one of the steps says, or it is one of a
sweep, which changes nothing of the core. -/
theorem query_core {state after : State} {task : Nat} {result : Option Result}
    (discipline : state.LockDiscipline)
    (stepTo : store.query state task = some (after, result)) :
    (after.core = state.core ∨ CoreStep store (.query task) state.core after.core) ∧
      after.LockDiscipline := by
  cases runs : state.phases task with
  | idle => simp [query, runs] at stepTo
  | acquire job => simp [query, runs] at stepTo
  | putWrite request now => simp [query, runs] at stepTo
  | deleteUnlink job blob => simp [query, runs] at stepTo
  | putLookup request now =>
    obtain ⟨locked, core⟩ := core_of_phase discipline runs rfl
    simp only [query, runs] at stepTo
    cases found : state.working.lookupExisting (store.sha256.hexdigest request.data) with
    | none =>
      simp only [found, Option.some.injEq, Prod.mk.injEq] at stepTo
      obtain ⟨rfl, -⟩ := stepTo
      exact ⟨.inr (.of_holder core (State.holder_enter_self locked)
        (.lookupNew _ _ _ _ _ _ found)), discipline.enter_self locked rfl⟩
    | some blob =>
      simp only [found, Option.some.injEq, Prod.mk.injEq] at stepTo
      obtain ⟨rfl, -⟩ := stepTo
      exact ⟨.inr (.of_holder core (State.holder_enter_self locked)
        (.lookupOld _ _ _ _ _ _ _ found)),
        discipline.enter_self locked rfl⟩
  | putInsertBlob request now =>
    obtain ⟨locked, core⟩ := core_of_phase discipline runs rfl
    simp only [query, runs, Option.some.injEq, Prod.mk.injEq] at stepTo
    obtain ⟨rfl, -⟩ := stepTo
    exact ⟨.inr (.of_holder core (@State.holder_enter_self state _ _ locked)
        (.insertBlob _ _ _ _ _ _)),
      (discipline.enter_self locked rfl).of_eq rfl rfl⟩
  | putReread request now =>
    obtain ⟨locked, core⟩ := core_of_phase discipline runs rfl
    simp only [query, runs, Option.some.injEq, Prod.mk.injEq] at stepTo
    obtain ⟨rfl, -⟩ := stepTo
    exact ⟨.inr (.of_holder core (State.holder_enter_self locked)
      (.reread _ _ _ _ _ _)), discipline.enter_self locked rfl⟩
  | putInsertRef request now stored =>
    obtain ⟨locked, core⟩ := core_of_phase discipline runs rfl
    simp only [query, runs, Option.some.injEq, Prod.mk.injEq] at stepTo
    obtain ⟨rfl, -⟩ := stepTo
    exact ⟨.inr (.of_holder core (@State.holder_enter_self state _ _ locked)
        (.insertRef _ _ _ _ _ _ _)),
      (discipline.enter_self locked rfl).of_eq rfl rfl⟩
  | putCommit request now stored id =>
    obtain ⟨locked, core⟩ := core_of_phase discipline runs rfl
    simp only [query, runs, Option.some.injEq, Prod.mk.injEq] at stepTo
    obtain ⟨rfl, -⟩ := stepTo
    exact ⟨.inr (.of_holder core (State.holder_release state task .idle) (.commit _ _ _ _ _ _ _ _)),
      (discipline.release locked rfl).of_eq rfl rfl⟩
  | existsSelect contentHash =>
    obtain ⟨locked, core⟩ := core_of_phase discipline runs rfl
    simp only [query, runs, Option.some.injEq, Prod.mk.injEq] at stepTo
    obtain ⟨rfl, -⟩ := stepTo
    exact ⟨.inr (.of_holder core (State.holder_release state task .idle)
      (.select _ _ _ _ _)), discipline.release locked rfl⟩
  | deleteSelect job =>
    obtain ⟨locked, core⟩ := core_of_phase discipline runs rfl
    simp only [query, runs] at stepTo
    cases found : state.working.joined job.blobRefId with
    | none =>
      simp only [found, Option.some.injEq, Prod.mk.injEq] at stepTo
      obtain ⟨rfl, -⟩ := stepTo
      exact ⟨.inr (.of_holder core (State.holder_release state task job.return.1)
          (.deleteAbsent _ _ _ _ _ found)),
        discipline.release locked job.holdsLock_return⟩
    | some joined =>
      simp only [found, Option.some.injEq, Prod.mk.injEq] at stepTo
      obtain ⟨rfl, -⟩ := stepTo
      exact ⟨.inr (.of_holder core (State.holder_enter_self locked)
        (.deleteFound _ _ _ _ _ _ _ found)),
        discipline.enter_self locked rfl⟩
  | deleteRef job blob =>
    obtain ⟨locked, core⟩ := core_of_phase discipline runs rfl
    simp only [query, runs, Option.some.injEq, Prod.mk.injEq] at stepTo
    obtain ⟨rfl, -⟩ := stepTo
    exact ⟨.inr (.of_holder core (@State.holder_enter_self state _ _ locked)
        (.deleteRef _ _ _ _ _ _)),
      (discipline.enter_self locked rfl).of_eq rfl rfl⟩
  | deleteCount job blob =>
    obtain ⟨locked, core⟩ := core_of_phase discipline runs rfl
    simp only [query, runs] at stepTo
    by_cases last : state.working.countRefs blob.contentHash = 0
    · simp only [if_pos last, Option.some.injEq, Prod.mk.injEq] at stepTo
      obtain ⟨rfl, -⟩ := stepTo
      exact ⟨.inr (.of_holder core (State.holder_enter_self locked)
        (.countNone _ _ _ _ _ _ last)), discipline.enter_self locked rfl⟩
    · simp only [if_neg last, Option.some.injEq, Prod.mk.injEq] at stepTo
      obtain ⟨rfl, -⟩ := stepTo
      exact ⟨.inr (.of_holder core (State.holder_enter_self locked)
        (.countSome _ _ _ _ _ _ last)), discipline.enter_self locked rfl⟩
  | deleteBlob job blob =>
    obtain ⟨locked, core⟩ := core_of_phase discipline runs rfl
    simp only [query, runs, Option.some.injEq, Prod.mk.injEq] at stepTo
    obtain ⟨rfl, -⟩ := stepTo
    exact ⟨.inr (.of_holder core (@State.holder_enter_self state _ _ locked)
        (.deleteBlob _ _ _ _ _ _)),
      (discipline.enter_self locked rfl).of_eq rfl rfl⟩
  | deleteCommit job blob dropFile =>
    obtain ⟨locked, core⟩ := core_of_phase discipline runs rfl
    cases dropFile with
    | true =>
      simp only [query, runs, Option.some.injEq, Prod.mk.injEq] at stepTo
      obtain ⟨rfl, -⟩ := stepTo
      exact ⟨.inr (.of_holder core (@State.holder_enter_self state _ _ locked)
          (.deleteCommitDrop _ _ _ _ _ _)),
        (discipline.enter_self locked rfl).of_eq rfl rfl⟩
    | false =>
      simp only [query, runs, Option.some.injEq, Prod.mk.injEq] at stepTo
      obtain ⟨rfl, -⟩ := stepTo
      exact ⟨.inr (.of_holder core (State.holder_release state task job.return.1)
          (.deleteCommitKeep _ _ _ _ _ _)),
        (discipline.release locked job.holdsLock_return).of_eq rfl rfl⟩
  | sweepSelect cutoff excludeSources =>
    simp only [query, runs, Option.some.injEq, Prod.mk.injEq] at stepTo
    obtain ⟨rfl, -⟩ := stepTo
    obtain ⟨same, disciplined⟩ := @enter_other state task _ discipline
      (by simp [runs, Phase.holdsLock]) (Sweep.holdsLock_next _)
    exact ⟨.inl same, disciplined⟩
  | sweepProbe sweep blobRefId =>
    have waits : (state.phases task).holdsLock = false := by
      simp [runs, Phase.holdsLock]
    simp only [query, runs] at stepTo
    cases found : state.working.findRef blobRefId with
    | none =>
      simp only [found, Option.some.injEq, Prod.mk.injEq] at stepTo
      obtain ⟨rfl, -⟩ := stepTo
      obtain ⟨same, disciplined⟩ := enter_other discipline waits sweep.holdsLock_next
      exact ⟨.inl same, disciplined⟩
    | some row =>
      simp only [found, Option.some.injEq, Prod.mk.injEq] at stepTo
      obtain ⟨rfl, -⟩ := stepTo
      obtain ⟨same, disciplined⟩ := @enter_other state task
        (.sweepCount sweep blobRefId row.contentHash) discipline waits rfl
      exact ⟨.inl same, disciplined⟩
  | sweepCount sweep blobRefId contentHash =>
    simp only [query, runs, Option.some.injEq, Prod.mk.injEq] at stepTo
    obtain ⟨rfl, -⟩ := stepTo
    obtain ⟨same, disciplined⟩ := @enter_other state task (.acquire _)
      discipline (by simp [runs, Phase.holdsLock]) rfl
    exact ⟨.inl same, disciplined⟩

theorem call_other {state : State} {task : Nat} {phase : Phase}
    (discipline : state.LockDiscipline) (runs : state.phases task = .idle)
    (waits : phase.holdsLock = false) :
    (state.enter task phase).core = state.core ∧ (state.enter task phase).LockDiscipline :=
  enter_other discipline (by simp [runs, Phase.holdsLock]) waits

theorem callPut_core {state : State} {task : Nat} {request : Put}
    (discipline : state.LockDiscipline) (runs : state.phases task = .idle) :
    (store.callPut state task request).1.core = state.core ∧
      (store.callPut state task request).1.LockDiscipline := by
  simp only [callPut]
  split
  · exact ⟨rfl, discipline⟩
  · obtain ⟨same, disciplined⟩ := @call_other state task
      (.acquire (.put request)) discipline runs rfl
    exact ⟨same, disciplined.of_eq rfl rfl⟩

theorem acquire_core {state : State} {task : Nat}
    (discipline : state.LockDiscipline) (free : state.locked = none)
    (now : UtcTime) (job : Job) :
    let after : State := { state.enter task (acquired now job) with locked := some task }
    (after.core = state.core ∨ CoreStep store (.acquire task now) state.core after.core) ∧
      after.LockDiscipline := by
  have core : state.core = ⟨state.files, state.working, state.committed, .idle⟩ := by
    simp [State.core, State.holder, free]
  refine ⟨.inr (.of_holder core ?_ (.acquire task now job _ _ _)), ?_, ?_⟩
  · simp [State.holder, State.enter]
  · intro other holdsAfter
    by_cases same : other = task
    · rw [same]
    · simp only [State.enter, Function.update_of_ne same] at holdsAfter
      have locked := discipline.locked other holdsAfter
      simp [free] at locked
  · intro other lockedAfter
    obtain rfl := Option.some.inj lockedAfter
    simpa [State.enter] using holdsLock_acquired now job

theorem advance_core {state after : State} {action : Action}
    {result : Option Result} (discipline : state.LockDiscipline)
    (stepTo : store.advance state action = some (after, result)) :
    (after.core = state.core ∨ CoreStep store action state.core after.core) ∧
      after.LockDiscipline := by
  cases action with
  | put task request =>
    cases runs : state.phases task <;> simp only [advance, runs] at stepTo
    case idle =>
      obtain ⟨same, disciplined⟩ := @callPut_core store state task request discipline runs
      rw [Option.some.inj stepTo] at same disciplined
      exact ⟨.inl same, disciplined⟩
    all_goals cases stepTo
  | «exists» task contentHash =>
    cases runs : state.phases task <;> simp only [advance, runs] at stepTo
    case idle =>
      obtain ⟨rfl, -⟩ := Prod.mk.inj (Option.some.inj stepTo)
      obtain ⟨same, disciplined⟩ := @call_other state task
        (.acquire (.exists contentHash)) discipline runs rfl
      exact ⟨.inl same, disciplined⟩
    all_goals cases stepTo
  | delete task blobRefId =>
    cases runs : state.phases task <;> simp only [advance, runs] at stepTo
    case idle =>
      obtain ⟨rfl, -⟩ := Prod.mk.inj (Option.some.inj stepTo)
      obtain ⟨same, disciplined⟩ := @call_other state task
        (.acquire (.delete { blobRefId := blobRefId })) discipline runs rfl
      exact ⟨.inl same, disciplined⟩
    all_goals cases stepTo
  | sweepOlderThan task cutoff excludeSources =>
    cases runs : state.phases task <;> simp only [advance, runs] at stepTo
    case idle =>
      obtain ⟨rfl, -⟩ := Prod.mk.inj (Option.some.inj stepTo)
      obtain ⟨same, disciplined⟩ := @call_other state task
        (.sweepSelect cutoff excludeSources) discipline runs rfl
      exact ⟨.inl same, disciplined⟩
    all_goals cases stepTo
  | acquire task now =>
    cases locked : state.locked with
    | some other => simp [advance, locked] at stepTo
    | none =>
      cases runs : state.phases task <;>
        simp only [advance, locked, runs] at stepTo
      case acquire job =>
        obtain ⟨rfl, -⟩ := Prod.mk.inj (Option.some.inj stepTo)
        exact acquire_core discipline locked now job
      all_goals cases stepTo
  | query task => exact query_core discipline stepTo
  | writeFile task answers =>
    cases runs : state.phases task <;> simp only [advance, runs] at stepTo
    case putWrite request now =>
      obtain ⟨locked, core⟩ := core_of_phase discipline runs rfl
      cases ends : store.putFile state.files request answers with
      | mk ops outcome =>
        have calls := ends
        simp only [putFile] at calls
        simp only [calls] at stepTo
        cases outcome with
        | ok value =>
          obtain ⟨rfl, -⟩ := Prod.mk.inj (Option.some.inj stepTo)
          exact ⟨.inr (.of_holder core
              (@State.holder_enter_self { state with
                files := applyOps state.files ops } _ _ locked)
              (.written _ _ _ _ _ _ _ _ ends)),
            (discipline.enter_self locked rfl).of_eq rfl rfl⟩
        | error error =>
          obtain ⟨rfl, -⟩ := Prod.mk.inj (Option.some.inj stepTo)
          exact ⟨.inr (.of_holder core
              (State.holder_release { state with
                files := applyOps state.files ops } task .idle)
              (.writeFailed _ _ _ _ _ _ _ _ _ ends)),
            (discipline.release locked rfl).of_eq rfl rfl⟩
    all_goals cases stepTo
  | unlinkFile task answer =>
    cases runs : state.phases task <;> simp only [advance, runs] at stepTo
    case deleteUnlink job blob =>
      obtain ⟨locked, core⟩ := core_of_phase discipline runs rfl
      have returned := discipline.release locked job.holdsLock_return
      have holder := State.holder_release state task job.return.1
      cases inRoot : store.safeResolveInRoot blob.storePath with
      | none =>
        simp only [inRoot] at stepTo
        obtain ⟨rfl, -⟩ := Prod.mk.inj (Option.some.inj stepTo)
        exact ⟨.inr (.of_holder core holder (.unlinkSkipped _ _ _ _ _ _ _ inRoot)), returned⟩
      | some path =>
        cases answer with
        | ok value =>
          simp only [inRoot] at stepTo
          obtain ⟨rfl, -⟩ := Prod.mk.inj (Option.some.inj stepTo)
          exact ⟨.inr (.of_holder core holder (.unlinked _ _ _ _ _ _ _ inRoot)),
            returned.of_eq rfl rfl⟩
        | error error =>
          simp only [inRoot] at stepTo
          obtain ⟨rfl, -⟩ := Prod.mk.inj (Option.some.inj stepTo)
          exact ⟨.inr (.of_holder core (State.holder_release state task .idle)
              (.unlinkFailed _ _ _ _ _ _ _)),
            discipline.release locked rfl⟩
    all_goals cases stepTo
  | stop =>
    obtain ⟨rfl, -⟩ := Prod.mk.inj (Option.some.inj stepTo)
    refine ⟨.inr ?_, .recovered state⟩
    simp only [State.core, State.holder_recovered]
    apply CoreStep.stop
  | stopInWrite task answers calls =>
    cases runs : state.phases task <;> simp only [advance, runs] at stepTo
    case putWrite request now =>
      obtain ⟨locked, core⟩ := core_of_phase discipline runs rfl
      obtain ⟨rfl, -⟩ := Prod.mk.inj (Option.some.inj stepTo)
      exact ⟨.inr (.of_holder core (State.holder_recovered state) (.stopInWrite _ _ _ _ _ _ _ _)),
        (State.LockDiscipline.recovered state).of_eq rfl rfl⟩
    all_goals cases stepTo

end FsBlobStore

end RoxabiFactory

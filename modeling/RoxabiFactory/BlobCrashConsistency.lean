import RoxabiFactory.BlobFiles
import RoxabiFactory.BlobStoreTasks

/-!
# Crash consistency of the blob store

A file is created under its final name before its row is committed, and a
later `put` trusts a file that it finds.  What `exists` and `put` return can
be read back as it was put in every run in which no file is left partial:
`os.write` writes all bytes, or its failure is cleaned up, and the process
does not stop before that.
-/

namespace RoxabiFactory

namespace FsBlobStore

variable {store : FsBlobStore}

/-- The contents that `put` accepts have different digests. -/
def CollisionFree (store : FsBlobStore) (state : State) : Action → Prop
  | .put _ request => ∀ data ∈ state.contents,
      store.sha256.hexdigest data = store.sha256.hexdigest request.data → data = request.data
  | _ => True

/-- The arguments of a `put` that is due to write its file. -/
def Phase.writing : Phase → Option Put
  | .putWrite request _ => some request
  | _ => none

/-- A write of the file is finished, after at most three calls, or the process
stops within it, so that the file is not left partial. -/
def WritesWhole (store : FsBlobStore) (core : Core) : Action → Prop
  | .writeFile _ answers => ∀ request ∈ core.holder.writing, WholeAfter core.files
        (store.blobPath (store.sha256.hexdigest request.data)) request.data
        answers 3
  | .stopInWrite _ answers calls => ∀ request ∈ core.holder.writing, WholeAfter core.files
        (store.blobPath (store.sha256.hexdigest request.data)) request.data
        answers calls
  | _ => True

/-- The runs in which no file is left partial. -/
def Kept (store : FsBlobStore) (state : State) (action : Action) : Prop :=
  CollisionFree store state action ∧ WritesWhole store state.core action

/-- Every file holds its content, and every row has its file. -/
structure Core.FilesWhole (store : FsBlobStore) (contents : List Bytes) (core : Core) : Prop where
  whole : ∀ contentHash content, core.files (store.blobPath contentHash) = some content →
      content ∈ contents ∧ store.sha256.hexdigest content = contentHash
  present : ∀ row, row ∈ core.working.blobs ∨ row ∈ core.committed.blobs →
    (core.files (store.blobPath row.contentHash)).isSome
  inserting : ∀ request now, core.holder = .putInsertBlob request now → (core.files (store.blobPath
      (store.sha256.hexdigest request.data))).isSome

section Steps

variable {contents : List Bytes}

theorem Core.FilesWhole.of_manifests {before after : Core}
    (whole : before.FilesWhole store contents)
    (files : after.files = before.files)
    (rows : ∀ row, row ∈ after.working.blobs ∨ row ∈ after.committed.blobs →
      row ∈ before.working.blobs ∨ row ∈ before.committed.blobs)
    (holder : ∀ request now, after.holder ≠ .putInsertBlob request now) :
    after.FilesWhole store contents := by
  constructor
  · rw [files]
    exact whole.whole
  · intro row member
    rw [files]
    exact whole.present row (rows row member)
  · intro request now inserting
    exact absurd inserting (holder request now)

theorem Core.FilesWhole.of_written {before after : Core} {data : Bytes}
    (whole : before.FilesWhole store contents) (known : data ∈ contents)
    (others : ∀ path, path ≠ store.blobPath (store.sha256.hexdigest data) →
      after.files path = before.files path)
    (written :
      let path := store.blobPath (store.sha256.hexdigest data)
      after.files path = before.files path ∨ after.files path = none ∨ after.files path = some data)
    (absent : ∀ row, row ∈ after.working.blobs ∨ row ∈ after.committed.blobs →
      row.contentHash ≠ store.sha256.hexdigest data)
    (rows : ∀ row, row ∈ after.working.blobs ∨ row ∈ after.committed.blobs →
      row ∈ before.working.blobs ∨ row ∈ before.committed.blobs)
    (inserting : ∀ request now, after.holder = .putInsertBlob request now →
      (after.files (store.blobPath (store.sha256.hexdigest request.data))).isSome) :
    after.FilesWhole store contents := by
  constructor
  · intro contentHash content stored
    by_cases same : contentHash = store.sha256.hexdigest data
    · subst same
      rcases written with old | gone | new
      · exact whole.whole _ _ (old ▸ stored)
      · simp [gone] at stored
      · obtain rfl : data = content := Option.some.inj (new.symm.trans stored)
        exact ⟨known, rfl⟩
    · rw [others _ (fun paths => same (blobPath_injective paths))] at stored
      exact whole.whole _ _ stored
  · intro row member
    have different := absent row member
    rw [others _ (fun paths => different (blobPath_injective paths))]
    exact whole.present row (rows row member)
  · exact inserting

theorem Core.FilesWhole.of_writeFile {files : Files} {working committed : Manifest}
    {request : Put} {now : UtcTime} {answers : WriteAnswers}
    {ops : List FileOp} {outcome : Except BlobError Unit} {after : Core}
    (whole : Core.FilesWhole store contents ⟨files, working, committed, .putWrite request now⟩)
    (known : request.data ∈ contents)
    (holder : HolderSound store working committed (.putWrite request now))
    (runs : store.putFile files request answers = (ops, outcome))
    {calls : Nat} (settled : WholeAfter files
      (store.blobPath (store.sha256.hexdigest request.data)) request.data
      answers calls)
    (afterFiles : after.files = applyOps files (ops.take calls))
    (afterManifests : after.working = working ∧ after.committed = committed)
    (inserting : ∀ request now, after.holder = .putInsertBlob request now →
      (after.files (store.blobPath (store.sha256.hexdigest request.data))).isSome) :
    after.FilesWhole store contents := by
  obtain ⟨clean, absent⟩ := holder
  have unknown := Manifest.lookupExisting_eq_none_iff.mp absent
  have run := writeRun_of_writeBlobFile runs
  apply whole.of_written known
  · intro path different
    rw [afterFiles]
    exact run.applyOps_take_of_ne different calls
  · simp only [afterFiles]
    exact run.whole_of_settled settled
  · intro row member
    rw [afterManifests.1, afterManifests.2, ← clean, or_self] at member
    exact unknown row member
  · intro row member
    rwa [afterManifests.1, afterManifests.2] at member
  · exact inserting

theorem CoreStep.filesWhole {action : Action} {before after : Core}
    (step : CoreStep store action before after)
    (sound : before.Sound store) (whole : before.FilesWhole store contents)
    (known : ∀ data, before.holder.putting = some data → data ∈ contents)
    (kept : WritesWhole store before action) :
    after.FilesWhole store contents := by
  have afterSound := step.sound sound
  cases step with
  | acquire task now job =>
    apply whole.of_manifests
    · rfl
    · exact fun _ member => member
    · intro request now
      cases job <;> simp [acquired]
  | written task request now answers ops files working committed runs =>
    have inPlace := WriteRun.isSome_of_ok (writeRun_of_writeBlobFile runs)
    have few := (writeRun_of_writeBlobFile runs).length_le
    apply whole.of_writeFile (known _ rfl) sound.holder runs (kept request rfl)
    · simp [List.take_of_length_le few]
    · exact ⟨rfl, rfl⟩
    · intro other later inserting
      obtain ⟨rfl, -⟩ := Phase.putInsertBlob.inj inserting
      exact inPlace
  | writeFailed task request now answers ops error files working committed runs =>
    have few := (writeRun_of_writeBlobFile runs).length_le
    apply whole.of_writeFile (known _ rfl) sound.holder runs (kept request rfl)
    · simp [List.take_of_length_le few]
    · exact ⟨rfl, rfl⟩
    · rintro other later ⟨⟩
  | stopInWrite task request now answers calls files working committed =>
    have clean := sound.holder.1
    simp only at clean
    subst clean
    apply whole.of_writeFile (known _ rfl) sound.holder
      (@Prod.mk.eta _ _ (store.putFile files request answers)).symm
      (kept request rfl)
    · rfl
    · exact ⟨rfl, rfl⟩
    · rintro other later ⟨⟩
  | insertBlob task request now files working committed =>
    constructor
    · exact whole.whole
    · intro row member
      simp only [Manifest.insertBlob] at member
      split at member
      · exact whole.present row member
      · simp only [List.mem_append, List.mem_singleton] at member
        rcases member with (stored | rfl) | stored
        · exact whole.present row (.inl stored)
        · exact whole.inserting request now rfl
        · exact whole.present row (.inr stored)
    · rintro other later ⟨⟩
  | commit | deleteCommitDrop | deleteCommitKeep =>
    apply whole.of_manifests
    · rfl
    · intro row member
      exact .inl (or_self_iff.mp member)
    · rintro request now ⟨⟩
  | deleteBlob task job blob =>
    apply whole.of_manifests
    · rfl
    · intro row member
      exact member.imp List.mem_of_mem_filter id
    · rintro request now ⟨⟩
  | stop =>
    apply whole.of_manifests
    · rfl
    · intro row member
      exact .inr (or_self_iff.mp member)
    · rintro request now ⟨⟩
  | unlinked task job blob path files working committed inRoot =>
    obtain ⟨clean, placed, unused⟩ := sound.holder
    obtain rfl : store.blobPath blob.contentHash = path := by
      rw [safeResolveInRoot_of_placed placed] at inRoot
      exact Option.some.inj inRoot
    constructor
    · intro contentHash content stored
      by_cases same : contentHash = blob.contentHash
      · simp [same] at stored
      · have elsewhere : store.blobPath contentHash ≠ store.blobPath blob.contentHash :=
          fun paths => same (blobPath_injective paths)
        simp only [Function.update_of_ne elsewhere] at stored
        exact whole.whole _ _ stored
    · intro row member
      have different : row.contentHash ≠ blob.contentHash := by
        simp only at clean
        rw [← clean, or_self] at member
        exact unused row member
      have elsewhere : store.blobPath row.contentHash ≠ store.blobPath blob.contentHash :=
        fun paths => different (blobPath_injective paths)
      simp only [Function.update_of_ne elsewhere]
      exact whole.present row member
    · rintro request now ⟨⟩
  | lookupNew | lookupOld | reread | insertRef | select | deleteAbsent
  | deleteFound | deleteRef | countNone | countSome | unlinkSkipped
  | unlinkFailed =>
    apply whole.of_manifests
    · rfl
    · exact fun _ member => member
    · rintro request now ⟨⟩

end Steps

/-- The invariant of the runs in which no file is left partial. -/
structure State.Whole (store : FsBlobStore) (state : State) : Prop where
  sound : state.Sound store
  accepted : state.Accepted
  distinct : ∀ first ∈ state.contents, ∀ second ∈ state.contents,
    store.sha256.hexdigest first = store.sha256.hexdigest second →
      first = second
  files : state.core.FilesWhole store state.contents

theorem Core.FilesWhole.mono {contents more : List Bytes} {core : Core}
    (whole : core.FilesWhole store contents)
    (grown : ∀ data ∈ contents, data ∈ more) : core.FilesWhole store more := by
  refine ⟨?_, whole.present, whole.inserting⟩
  intro contentHash content stored
  obtain ⟨known, named⟩ := whole.whole contentHash content stored
  exact ⟨grown content known, named⟩

theorem State.Whole.initial : State.Whole store { } := by
  refine ⟨.initial, ?_, ?_, ?_, ?_, ?_⟩
  · rintro task data ⟨⟩
  · rintro first ⟨⟩
  · rintro contentHash content ⟨⟩
  · rintro row (⟨⟨⟩⟩ | ⟨⟨⟩⟩)
  · rintro request now ⟨⟩

theorem State.Accepted.holder {state : State} (accepted : state.Accepted)
    {data : Bytes} (puts : state.holder.putting = some data) :
    data ∈ state.contents := by
  cases locked : state.locked with
  | none => simp [State.holder, locked, Phase.putting] at puts
  | some task =>
    rw [State.holder_of_locked locked] at puts
    exact accepted task data puts

theorem State.Whole.advance {state after : State} {action : Action}
    {result : Option Result} (whole : state.Whole store)
    (kept : Kept store state action)
    (stepTo : store.advance state action = some (after, result)) :
    after.Whole store := by
  obtain ⟨sound, accepted, distinct, files⟩ := whole
  have grown : ∀ data ∈ state.contents, data ∈ after.contents := by
    rcases advance_contents stepTo with same | ⟨task, request, -, more⟩
    · rw [same]
      exact fun _ member => member
    · rw [more]
      exact fun _ member => List.mem_append_left _ member
  refine ⟨sound.advance stepTo, accepted.advance sound.core.working stepTo, ?_, ?_⟩
  · rcases advance_contents stepTo with same | ⟨task, request, rfl, more⟩
    · rw [same]
      exact distinct
    · have free := kept.1
      intro first firstMember second secondMember same
      rw [more, List.mem_append, List.mem_singleton] at firstMember
      rw [more, List.mem_append, List.mem_singleton] at secondMember
      rcases firstMember with first_mem | rfl <;>
        rcases secondMember with second_mem | rfl
      · exact distinct first first_mem second second_mem same
      · exact free first first_mem same
      · exact (free second second_mem same.symm).symm
      · rfl
  · apply Core.FilesWhole.mono _ grown
    obtain ⟨same | step, -⟩ := advance_core sound.discipline stepTo
    · rw [same]
      exact files
    · exact step.filesWhole sound.core files (fun _ puts => accepted.holder puts) kept.2

theorem whole_of_reachable {state : State}
    (reached : store.system.ReachableWithin (Kept store) state) :
    state.Whole store := by
  apply reached.invariant
  · intro initial initially
    obtain rfl : initial = { } := initially
    exact .initial
  · intro before action after whole kept stepTo
    obtain ⟨result, advances⟩ := system_step stepTo
    exact whole.advance kept advances

theorem State.Whole.get_stored {state : State} (whole : state.Whole store) {blob : BlobRow}
    (stored : blob ∈ state.working.blobs ∨ blob ∈ state.committed.blobs)
    {data : Bytes} (known : data ∈ state.contents)
    (named : store.sha256.hexdigest data = blob.contentHash) :
    store.get state blob.storePath = .ok data := by
  have placed : blob.Placed store := by
    rcases stored with working | committed
    · exact whole.sound.core.working.placed blob working
    · exact whole.sound.core.committed.placed blob committed
  obtain ⟨content, present⟩ := Option.isSome_iff_exists.mp (whole.files.present blob stored)
  obtain ⟨other, same⟩ := whole.files.whole _ _ present
  obtain rfl := whole.distinct content other data known (same.trans named.symm)
  exact get_of_placed placed present

theorem ref_ne_next (sweep : Sweep) (ref : BlobRef) : sweep.next.2 ≠ some (.ref ref) := by
  cases remaining : sweep.staleIds <;> simp [Sweep.next, remaining]

theorem ref_ne_return (job : Delete) (ref : BlobRef) : job.return.2 ≠ some (.ref ref) := by
  cases calledBy : job.sweep with
  | none => simp [Delete.return, calledBy]
  | some sweep =>
    simp only [Delete.return, calledBy]
    exact ref_ne_next _ ref

/-- A reference is returned for a row of `blobs`, which is still there, and
the files are the same. -/
theorem exists_row_of_ref {state after : State} {action : Action}
    {ref : BlobRef} (sound : state.Sound store)
    (stepTo : store.advance state action = some (after, some (.ref ref))) :
    after.files = state.files ∧ ∃ blob ∈ state.working.blobs,
      blob.contentHash = ref.contentHash ∧ blob.storePath = ref.storeKey := by
  cases action with
  | put task request =>
    cases runs : state.phases task <;> simp only [advance, runs] at stepTo
    case idle =>
      simp only [callPut] at stepTo
      split at stepTo <;> cases stepTo
    all_goals cases stepTo
  | acquire task now =>
    simp only [advance] at stepTo
    split at stepTo <;> cases stepTo
  | writeFile task answers =>
    simp only [advance] at stepTo
    split at stepTo
    · split at stepTo <;> cases stepTo
    · cases stepTo
  | unlinkFile task answer =>
    simp only [advance] at stepTo
    split at stepTo
    · split at stepTo
      · exact absurd (Prod.mk.inj (Option.some.inj stepTo)).2 (ref_ne_return _ ref)
      · exact absurd (Prod.mk.inj (Option.some.inj stepTo)).2 (ref_ne_return _ ref)
      · cases stepTo
    · cases stepTo
  | stop => cases stepTo
  | query task =>
    simp only [advance] at stepTo
    cases runs : state.phases task with
    | putCommit request now stored id =>
      obtain ⟨-, core⟩ := core_of_phase sound.discipline runs rfl
      have holder := sound.core.holder
      simp only [core] at holder
      obtain ⟨blob, present, named, same⟩ := holder
      simp only [query, runs] at stepTo
      obtain ⟨rfl, returned⟩ := Prod.mk.inj (Option.some.inj stepTo)
      obtain rfl := Result.ref.inj (Option.some.inj returned)
      refine ⟨rfl, blob, present, named, ?_⟩
      rw [putRef, ← same, BlobRow.stored]
    | existsSelect contentHash =>
      simp only [query, runs] at stepTo
      obtain ⟨rfl, returned⟩ := Prod.mk.inj (Option.some.inj stepTo)
      cases found : state.working.lookupLatest contentHash with
      | none => simp [found] at returned
      | some joined =>
        obtain ⟨row, blob⟩ := joined
        obtain ⟨-, present, named⟩ := Manifest.of_lookupLatest found
        simp only [found, existsRef, Option.some.injEq] at returned
        split at returned
        · cases returned
        · obtain rfl := Result.ref.inj returned
          exact ⟨rfl, blob, present, named, rfl⟩
    | deleteSelect job =>
      simp only [query, runs] at stepTo
      split at stepTo
      · exact absurd (Prod.mk.inj (Option.some.inj stepTo)).2 (ref_ne_return job ref)
      · cases stepTo
    | deleteCommit job blob dropFile =>
      cases dropFile with
      | true => simp [query, runs] at stepTo
      | false =>
        simp only [query, runs] at stepTo
        exact absurd (Prod.mk.inj (Option.some.inj stepTo)).2 (ref_ne_return job ref)
    | sweepSelect cutoff excludeSources =>
      simp only [query, runs] at stepTo
      exact absurd (Prod.mk.inj (Option.some.inj stepTo)).2 (ref_ne_next _ ref)
    | sweepProbe sweep blobRefId =>
      simp only [query, runs] at stepTo
      split at stepTo
      · exact absurd (Prod.mk.inj (Option.some.inj stepTo)).2 (ref_ne_next _ ref)
      · cases stepTo
    | _ =>
      simp only [query, runs] at stepTo
      try split at stepTo
      all_goals cases stepTo
  | _ =>
    simp only [advance] at stepTo
    split at stepTo <;> cases stepTo

/-- In a run in which no file is left partial, what `put` and `exists` return
is read back as it was put, as is every row of the manifest, also of the one
that a crash leaves, and a file that `put` adopts is whole. -/
theorem served_of_reachable (store : FsBlobStore) {state : State}
    (reached : store.system.ReachableWithin (Kept store) state) :
    (∀ action after ref, store.advance state action = some (after, some (.ref ref)) →
        (∃ data ∈ state.contents, store.sha256.hexdigest data = ref.contentHash) ∧
        ∀ data ∈ state.contents, store.sha256.hexdigest data = ref.contentHash →
            store.get after ref.storeKey = .ok data) ∧
      (∀ blob, blob ∈ state.working.blobs ∨ blob ∈ state.committed.blobs → ∀ data ∈ state.contents,
          store.sha256.hexdigest data = blob.contentHash →
            store.get state blob.storePath = .ok data) ∧
      ∀ task request now content, state.phases task = .putWrite request now → state.files
              (store.blobPath (store.sha256.hexdigest request.data)) =
            some content →
          content = request.data := by
  have whole := whole_of_reachable reached
  refine ⟨?_, ?_, ?_⟩
  · intro action after ref stepTo
    obtain ⟨files, blob, present, hashed, path⟩ :=
      exists_row_of_ref whole.sound stepTo
    constructor
    · obtain ⟨content, stored⟩ :=
        Option.isSome_iff_exists.mp (whole.files.present blob (.inl present))
      obtain ⟨known, same⟩ := whole.files.whole _ _ stored
      exact ⟨content, known, same.trans hashed⟩
    · intro data known named
      have read := whole.get_stored (.inl present) known (named.trans hashed.symm)
      rw [← path]
      simpa only [get, files] using read
  · intro blob stored data known named
    exact whole.get_stored stored known named
  · intro task request now content writing stored
    obtain ⟨known, same⟩ := whole.files.whole _ _ stored
    have puts : (state.phases task).putting = some request.data := by
      rw [writing, Phase.putting]
    exact whole.distinct content known request.data (whole.accepted task request.data puts) same

instance (store : FsBlobStore) (state : State) (action : Action) :
    Decidable (CollisionFree store state action) :=
  match action with
  | .put _ _ => inferInstanceAs (Decidable (∀ data ∈ state.contents, _))
  | .exists _ _ | .delete _ _ | .sweepOlderThan _ _ _ | .acquire _ _
  | .query _ | .writeFile _ _ | .unlinkFile _ _ | .stop
  | .stopInWrite _ _ _ => isTrue trivial

instance (files : Files) (path : Path) (answers : WriteAnswers) :
    Decidable (Creates files path answers) :=
  inferInstanceAs (Decidable (_ ∧ _ ∧ _))

instance (files : Files) (path : Path) (data : Bytes) (answers : WriteAnswers) (calls : Nat) :
    Decidable (WholeAfter files path data answers calls) :=
  inferInstanceAs (Decidable (_ → _ ∨ _ ∨ ∃ settled ∈ _, settled ≤ calls))

instance (store : FsBlobStore) (core : Core) (action : Action) :
    Decidable (WritesWhole store core action) :=
  match action with
  | .writeFile _ _ =>
    inferInstanceAs (Decidable (∀ request ∈ core.holder.writing, _))
  | .stopInWrite _ _ _ =>
    inferInstanceAs (Decidable (∀ request ∈ core.holder.writing, _))
  | .put _ _ | .exists _ _ | .delete _ _ | .sweepOlderThan _ _ _
  | .acquire _ _ | .query _ | .unlinkFile _ _ | .stop => isTrue trivial

instance (store : FsBlobStore) (state : State) (action : Action) :
    Decidable (Kept store state action) :=
  inferInstanceAs (Decidable (_ ∧ _))

/-- The next statement returns a reference to `data`, and `get` reads
`content` for it. -/
def returnsRef (store : FsBlobStore) (task : Nat) (data content : Bytes) (state : State) : Bool :=
  match store.advance state (.query task) with
  | some (after, some (.ref ref)) =>
    decide (data ∈ state.contents ∧ store.sha256.hexdigest data = ref.contentHash ∧
        store.get after ref.storeKey = .ok content)
  | _ => false

theorem exists_of_returnsRef {task : Nat} {data content : Bytes} {state : State}
    (returns : returnsRef store task data content state = true) :
    ∃ after ref, store.advance state (.query task) = some (after, some (.ref ref)) ∧
        data ∈ state.contents ∧
        store.sha256.hexdigest data = ref.contentHash ∧
        store.get after ref.storeKey = .ok content := by
  unfold returnsRef at returns
  split at returns
  case h_1 after ref advances =>
    exact ⟨after, ref, advances, of_decide_eq_true returns⟩
  case h_2 => cases returns

section Example

/-- Three bytes, and the digest that SHA-256 gives them. -/
def abc : Bytes := [97, 98, 99]

def exampleSha256 : Sha256 where
  hexdigest data :=
    if data = abc then
      "ba7816bf8f01cfea414140de5dae2223b00361a396177a9cb410ff61f20015ad"
    else "0000000000000000000000000000000000000000000000000000000000000000"
  length_hexdigest data := by split <;> decide
  isHex data := by split <;> simp

def exampleStore : FsBlobStore where
  root := ["srv", "blobs"]
  resolved := by decide
  sha256 := exampleSha256

theorem exampleInstant_valid : TimeFields.Valid
      { year := 2026, month := 1, day := 2, offset := some 0 } ∧
    (some 0 : Option Int) = some 0 := by
  decide

def exampleInstant : UtcTime := ⟨{ year := 2026, month := 1, day := 2, offset := some 0 },
    exampleInstant_valid⟩

/-- A `put` of the three bytes, up to the write of the file. -/
def putAbc : List Action := [.put 1 { data := abc, mime := "text/plain", source := "test" },
    .acquire 1 exampleInstant, .query 1]

/-- The statements of `put` before it commits. -/
def insertRows : List Action := [.query 1, .query 1, .query 1]

/-- A reference that `put` returns after a crash between the write and the
commit is read back. -/
theorem served_of_put_after_crash : ∃ state after ref,
      exampleStore.system.ReachableWithin (Kept exampleStore) state ∧
        exampleStore.advance state (.query 1) = some (after, some (.ref ref)) ∧
        exampleStore.get after ref.storeKey = .ok abc := by
  have run : ∃ state, exampleStore.system.ReachableWithin (Kept exampleStore) state ∧
        returnsRef exampleStore 1 abc abc state = true :=
    TransitionSystem.exists_reachableWithin_of_checkedRun { } rfl
      (putAbc ++ [.stopInWrite 1 { write := .ok 3 } 2] ++ putAbc ++
        [.writeFile 1 { write := .ok 3 }] ++ insertRows)
      (by decide)
  obtain ⟨state, reached, returns⟩ := run
  obtain ⟨after, ref, advances, known, named, -⟩ :=
    exists_of_returnsRef returns
  exact ⟨state, after, ref, reached, advances,
    ((served_of_reachable exampleStore reached).1 _ _ _ advances).2 abc known named⟩

/-- The process stops between the creation of the file and its write, or
`os.write` writes one byte of three, and a reference to the three bytes reads
back as what is there. -/
theorem exists_partial_served : (∃ state after ref, exampleStore.system.Reachable state ∧
      exampleStore.advance state (.query 1) = some (after, some (.ref ref)) ∧
      abc ∈ state.contents ∧
      exampleStore.sha256.hexdigest abc = ref.contentHash ∧
      exampleStore.get after ref.storeKey = .ok []) ∧
    ∃ state after ref, exampleStore.system.Reachable state ∧
      exampleStore.advance state (.query 1) = some (after, some (.ref ref)) ∧
      abc ∈ state.contents ∧
      exampleStore.sha256.hexdigest abc = ref.contentHash ∧
      exampleStore.get after ref.storeKey = .ok [97] := by
  constructor
  · have run : ∃ state, exampleStore.system.Reachable state ∧
        returnsRef exampleStore 1 abc [] state = true :=
      TransitionSystem.exists_reachable_of_run { } rfl
        (putAbc ++ [.stopInWrite 1 { write := .ok 3 } 1] ++ putAbc ++
          [.writeFile 1 { write := .ok 3 }] ++ insertRows)
        (by decide)
    obtain ⟨state, reached, returns⟩ := run
    obtain ⟨after, ref, advances⟩ := exists_of_returnsRef returns
    exact ⟨state, after, ref, reached, advances⟩
  · have run : ∃ state, exampleStore.system.Reachable state ∧
        returnsRef exampleStore 1 abc [97] state = true :=
      TransitionSystem.exists_reachable_of_run { } rfl
        (putAbc ++ [.writeFile 1 { write := .ok 1 }] ++ insertRows)
        (by decide)
    obtain ⟨state, reached, returns⟩ := run
    obtain ⟨after, ref, advances⟩ := exists_of_returnsRef returns
    exact ⟨state, after, ref, reached, advances⟩

end Example

end FsBlobStore

end RoxabiFactory

import RoxabiFactory.BlobCrashConsistency

/-!
# The manifest describes the files

Without faults a content has a file when, and only when, it has a reference,
but for the contents that the holder of the lock is working on: `put` writes
the file before the rows, and `delete` unlinks it after them.  A sweep removes
the references of its snapshot that are older than the cutoff.
-/

namespace RoxabiFactory

namespace FsBlobStore

variable {store : FsBlobStore}

/-- No system call fails or is short, and the process does not stop. -/
def Action.Succeeds (holder : Phase) : Action → Prop
  | .writeFile _ answers => answers.mkdir = .ok () ∧ answers.create = .ok () ∧
      answers.sync = .ok () ∧ ∀ request ∈ holder.writing, answers.write = .ok request.data.length
  | .unlinkFile _ answer => answer = .ok ()
  | .stop | .stopInWrite .. => False
  | _ => True

/-- The runs without faults. -/
def FaultFree (store : FsBlobStore) (state : State) (action : Action) : Prop :=
  CollisionFree store state action ∧ action.Succeeds state.holder

theorem FaultFree.continues {state : State} {action : Action}
    (free : FaultFree store state action) : action.Continues := by
  obtain ⟨-, succeeds⟩ := free
  cases action
  case stop => exact succeeds
  case stopInWrite => exact succeeds
  all_goals trivial

theorem FaultFree.kept {state : State} {action : Action}
    (free : FaultFree store state action) : Kept store state action := by
  obtain ⟨distinct, succeeds⟩ := free
  refine ⟨distinct, ?_⟩
  cases action with
  | writeFile task answers =>
    intro request writing creates
    obtain ⟨-, -, synced, written⟩ := succeeds
    refine .inr (.inr ⟨2, ?_, by omega⟩)
    simp [WriteAnswers.settledAfter, written request writing, synced]
  | stop => exact succeeds.elim
  | stopInWrite task answers calls => exact succeeds.elim
  | _ => trivial

/-- The content that an operation is changing: `put` has created its file and
not yet inserted its reference, or `delete` has removed a reference, and it may
have been the last one. -/
def Phase.changing (store : FsBlobStore) : Phase → Option String
  | .putInsertBlob request _ | .putReread request _
  | .putInsertRef request _ _ => some (store.sha256.hexdigest request.data)
  | .deleteCount _ blob | .deleteBlob _ blob | .deleteCommit _ blob true
  | .deleteUnlink _ blob => some blob.contentHash
  | _ => none

/-- A content that is not being changed has a reference if it has a file or a
row. -/
structure Core.Settled (store : FsBlobStore) (core : Core) : Prop where
  files : ∀ contentHash, core.holder.changing store ≠ some contentHash →
    (core.files (store.blobPath contentHash)).isSome →
      ∃ row ∈ core.working.refs, row.contentHash = contentHash
  rows : ∀ blob ∈ core.working.blobs, core.holder.changing store ≠ some blob.contentHash →
      ∃ row ∈ core.working.refs, row.contentHash = blob.contentHash

/-- A step that keeps the files, the rows and the references, and that changes
no content less than before. -/
theorem Core.Settled.of_same {before after : Core}
    (settled : before.Settled store) (files : after.files = before.files)
    (blobs : ∀ blob ∈ after.working.blobs, blob ∈ before.working.blobs)
    (refs : after.working.refs = before.working.refs)
    (changing : ∀ contentHash, after.holder.changing store ≠ some contentHash →
        before.holder.changing store ≠ some contentHash) :
    after.Settled store := by
  constructor
  · intro contentHash unchanged present
    rw [refs]
    exact settled.files contentHash (changing _ unchanged) (files ▸ present)
  · intro blob stored unchanged
    rw [refs]
    exact settled.rows blob (blobs blob stored) (changing _ unchanged)

theorem Core.Settled.of_file {before after : Core} {contentHash : String}
    (settled : before.Settled store)
    (others : ∀ path, path ≠ store.blobPath contentHash → after.files path = before.files path)
    (this : after.holder.changing store = some contentHash ∨
      after.files (store.blobPath contentHash) = none ∨ after.files = before.files ∧
          before.holder.changing store ≠ some contentHash)
    (working : after.working = before.working)
    (unused : ∀ blob ∈ before.working.blobs, blob.contentHash ≠ contentHash)
    (changing : ∀ other, other ≠ contentHash → before.holder.changing store ≠ some other) :
    after.Settled store := by
  constructor
  · intro other unchanged present
    rw [working]
    by_cases same : other = contentHash
    · subst same
      rcases this with changed | gone | ⟨files, before⟩
      · exact absurd changed unchanged
      · simp [gone] at present
      · exact settled.files other before (files ▸ present)
    · rw [others _ (fun paths => same (blobPath_injective paths))] at present
      exact settled.files other (changing other same) present
  · intro blob stored unchanged
    rw [working] at stored ⊢
    exact settled.rows blob stored (changing _ (unused blob stored))

theorem CoreStep.settled {action : Action} {before after : Core}
    (step : CoreStep store action before after)
    (sound : before.Sound store) (settled : before.Settled store)
    (succeeds : action.Succeeds before.holder) : after.Settled store := by
  have holder := sound.holder
  cases step with
  | acquire task now job =>
    apply settled.of_same
    · rfl
    · exact fun _ member => member
    · rfl
    · rintro contentHash - ⟨⟩
  | lookupNew task request now files working committed absent =>
    apply settled.of_same
    · rfl
    · exact fun _ member => member
    · rfl
    · rintro contentHash - ⟨⟩
  | lookupOld | reread =>
    apply settled.of_same
    · rfl
    · exact fun _ member => member
    · rfl
    · intro contentHash unchanged
      first | exact unchanged | rintro ⟨⟩
  | written task request now answers ops files working committed runs =>
    have run := writeRun_of_writeBlobFile runs
    have few := run.length_le
    have unused := Manifest.lookupExisting_eq_none_iff.mp holder.2
    apply settled.of_file
    · intro path different
      have same := run.applyOps_take_of_ne different 3
      rwa [List.take_of_length_le few] at same
    · exact .inl rfl
    · rfl
    · exact unused
    · rintro other different ⟨⟩
  | writeFailed task request now answers ops error files working committed runs =>
    have run := writeRun_of_writeBlobFile runs
    have few := run.length_le
    have unused := Manifest.lookupExisting_eq_none_iff.mp holder.2
    obtain ⟨-, -, synced, written⟩ := succeeds
    apply settled.of_file
    · intro path different
      have same := run.applyOps_take_of_ne different 3
      rwa [List.take_of_length_le few] at same
    · right
      cases run with
      | refused => exact .inr ⟨rfl, by rintro ⟨⟩⟩
      | removed => exact .inl (by simp [applyOps, FileOp.apply])
      | failed creates refused noWrite =>
        simp [written request rfl] at noWrite
      | failedLeft creates refused noWrite =>
        simp [written request rfl] at noWrite
      | unsynced creates count wrote refused noSync =>
        simp [synced] at noSync
      | unsyncedLeft creates count wrote refused noSync =>
        simp [synced] at noSync
    · rfl
    · exact unused
    · rintro other different ⟨⟩
  | insertBlob task request now files working committed =>
    constructor
    · intro contentHash unchanged present
      rw [Manifest.refs_insertBlob]
      exact settled.files contentHash unchanged present
    · intro blob stored unchanged
      rw [Manifest.refs_insertBlob]
      rcases Manifest.mem_blobs_insertBlob stored with known | rfl
      · exact settled.rows blob known unchanged
      · exact absurd rfl unchanged
  | insertRef task request now stored files working committed =>
    have inserted : ∃ row ∈ (working.insertRef (store.newRef request now)).refs,
        row.contentHash = store.sha256.hexdigest request.data :=
      ⟨_, List.mem_append_right _ List.mem_cons_self, rfl⟩
    have known : ∀ contentHash, (∃ row ∈ working.refs, row.contentHash = contentHash) →
          ∃ row ∈ (working.insertRef (store.newRef request now)).refs,
            row.contentHash = contentHash := by
      rintro contentHash ⟨row, member, named⟩
      exact ⟨row, List.mem_append_left _ member, named⟩
    constructor
    · intro contentHash _ present
      by_cases this : store.sha256.hexdigest request.data = contentHash
      · exact this ▸ inserted
      · apply known
        exact settled.files contentHash (fun same => this (Option.some.inj same)) present
    · intro blob present _
      by_cases this : store.sha256.hexdigest request.data = blob.contentHash
      · exact this ▸ inserted
      · apply known
        exact settled.rows blob present (fun same => this (Option.some.inj same))
  | deleteRef task job blob files working committed =>
    obtain ⟨-, -, named⟩ := holder
    have known : ∀ contentHash, contentHash ≠ blob.contentHash →
        (∃ row ∈ working.refs, row.contentHash = contentHash) →
          ∃ row ∈ (working.deleteRef job.blobRefId).refs, row.contentHash = contentHash := by
      rintro contentHash different ⟨row, member, rfl⟩
      refine ⟨row, List.mem_filter.mpr ⟨member, ?_⟩, rfl⟩
      simpa using fun same => different (named row member same)
    constructor
    · intro contentHash unchanged present
      apply known contentHash
      · rintro rfl
        exact unchanged rfl
      · exact settled.files contentHash (by rintro ⟨⟩) present
    · intro other stored unchanged
      apply known other.contentHash
      · intro same
        exact unchanged (congrArg some same.symm)
      · exact settled.rows other stored (by rintro ⟨⟩)
  | countSome task job blob files working committed shared =>
    have used : ∃ row ∈ working.refs, row.contentHash = blob.contentHash := by
      by_contra none
      apply shared
      apply Manifest.countRefs_eq_zero_iff.mpr
      intro row member same
      exact none ⟨row, member, same⟩
    constructor
    · intro contentHash _ present
      by_cases this : blob.contentHash = contentHash
      · exact this ▸ used
      · exact settled.files contentHash (fun same => this (Option.some.inj same)) present
    · intro other stored _
      by_cases this : blob.contentHash = other.contentHash
      · exact this ▸ used
      · exact settled.rows other stored (fun same => this (Option.some.inj same))
  | unlinked task job blob path files working committed inRoot =>
    obtain ⟨-, placed, unused⟩ := holder
    obtain rfl : store.blobPath blob.contentHash = path := by
      rw [safeResolveInRoot_of_placed placed] at inRoot
      exact Option.some.inj inRoot
    apply settled.of_file
    · intro other different
      exact Function.update_of_ne different _ _
    · exact .inr (.inl (Function.update_self _ _ _))
    · rfl
    · exact unused
    · intro other different same
      exact different (Option.some.inj same).symm
  | unlinkSkipped task job blob answer files working committed outside =>
    obtain ⟨-, placed, -⟩ := holder
    simp [safeResolveInRoot_of_placed placed] at outside
  | unlinkFailed => cases succeeds
  | stop => exact succeeds.elim
  | stopInWrite => exact succeeds.elim
  | deleteBlob =>
    apply settled.of_same
    · rfl
    · exact fun _ member => List.mem_of_mem_filter member
    · rfl
    · exact fun _ unchanged => unchanged
  | countNone | deleteCommitDrop =>
    apply settled.of_same
    · rfl
    · exact fun _ member => member
    · rfl
    · exact fun _ unchanged => unchanged
  | commit | select | deleteAbsent | deleteFound | deleteCommitKeep =>
    apply settled.of_same
    · rfl
    · exact fun _ member => member
    · rfl
    · rintro contentHash - ⟨⟩

/-- The sweep would remove the reference. -/
def Sweep.Stale (sweep : Sweep) (row : RefRow) : Prop :=
  Manifest.isStale sweep.cutoff.val.isoformat sweep.excludeSources row = true

/-- What holds of a sweep that has these ids still to delete. -/
structure Sweep.OnTrack (working : Manifest) (sweep : Sweep) (pending : List Nat) : Prop where
  bounded : ∀ blobRefId ∈ pending, blobRefId ≤ working.sequence
  seen : ∀ row ∈ sweep.seen, row.id ≤ working.sequence
  stale : ∀ row ∈ working.refs, row.id ∈ pending → sweep.Stale row
  removed : ∀ row ∈ sweep.removed, sweep.Stale row
  gone : ∀ row ∈ sweep.seen, sweep.Stale row → row.id ∈ pending ∨
    ∀ other ∈ working.refs, other.id ≠ row.id
  dated : ∀ row, row ∈ sweep.seen ∨ row ∈ sweep.removed →
    ∃ time : UtcTime, row.ingestedAt = time.val.isoformat

namespace Sweep.OnTrack

variable {working workingAfter : Manifest} {sweep after : Sweep}
variable {pending later : List Nat}

/-- New references do not concern the sweep, since their ids are new. -/
theorem mono (onTrack : OnTrack working sweep pending) (grows : working.RefsGrow workingAfter) :
    OnTrack workingAfter sweep pending := by
  have more := grows.sequence
  constructor
  · intro blobRefId member
    have := onTrack.bounded blobRefId member
    omega
  · intro row member
    have := onTrack.seen row member
    omega
  · intro row member waits
    rcases grows.refs row member with known | new
    · exact onTrack.stale row known waits
    · have := onTrack.bounded row.id waits
      omega
  · exact onTrack.removed
  · intro row member stale
    rcases onTrack.gone row member stale with waits | gone
    · exact .inl waits
    · refine .inr fun other otherMember same => ?_
      rcases grows.refs other otherMember with known | new
      · exact gone other known same
      · have := onTrack.seen row member
        omega
  · exact onTrack.dated

theorem goes (onTrack : OnTrack working sweep pending) (wellFormed : working.WellFormed store)
    (grows : working.RefsGrow workingAfter)
    (goes : Sweep.Goes working workingAfter sweep pending after later) :
    OnTrack workingAfter after later := by
  have grown := onTrack.mono grows
  have same : ∀ row, after.Stale row ↔ sweep.Stale row := by
    intro row
    rw [Stale, Stale, goes.same.cutoff, goes.same.excludeSources]
  constructor
  · exact fun blobRefId member => grown.bounded blobRefId (goes.kept _ member)
  · rw [goes.same.seen]
    exact grown.seen
  · intro row member waits
    exact (same row).mpr (grown.stale row member (goes.kept _ waits))
  · intro row member
    rcases goes.removed row member with earlier | ⟨present, waits⟩
    · exact (same row).mpr (onTrack.removed row earlier)
    · exact (same row).mpr (onTrack.stale row present waits)
  · intro row member stale
    rw [goes.same.seen] at member
    rcases grown.gone row member ((same row).mp stale) with waits | gone
    · exact goes.gone row.id waits
    · exact .inr gone
  · rw [goes.same.seen]
    rintro row (seen | removed)
    · exact onTrack.dated row (.inl seen)
    · rcases goes.removed row removed with earlier | ⟨present, -⟩
      · exact onTrack.dated row (.inr earlier)
      · exact wellFormed.dated row present

theorem starts (wellFormed : working.WellFormed store) (grows : working.RefsGrow workingAfter)
    (starts : Sweep.Starts working sweep pending) :
    OnTrack workingAfter sweep pending := by
  have now : OnTrack working sweep pending := by
    have listed : ∀ blobRefId, blobRefId ∈ pending ↔
        ∃ row ∈ working.refs, sweep.Stale row ∧ row.id = blobRefId := by
      intro blobRefId
      rw [starts.stale]
      simp [Stale, and_assoc]
    constructor
    · intro blobRefId member
      obtain ⟨row, present, -, rfl⟩ := (listed blobRefId).mp member
      exact wellFormed.numbered row present
    · intro row member
      exact wellFormed.numbered row (starts.seen ▸ member)
    · intro row member waits
      obtain ⟨other, present, stale, same⟩ := (listed row.id).mp waits
      obtain rfl := List.inj_on_of_nodup_map wellFormed.uniqueRefs present member same
      exact stale
    · intro row member
      simp [starts.removed] at member
    · intro row member stale
      exact .inl ((listed row.id).mpr ⟨row, starts.seen ▸ member, stale, rfl⟩)
    · rw [starts.seen, starts.removed]
      rintro row (seen | ⟨⟨⟩⟩)
      exact wellFormed.dated row seen
  exact now.mono grows

end Sweep.OnTrack

/-- The invariant of the runs without faults. -/
structure State.Refined (store : FsBlobStore) (state : State) : Prop where
  whole : state.Whole store
  settled : state.core.Settled store
  sweeps : ∀ task sweep pending, (state.phases task).sweeping = some (sweep, pending) →
      sweep.OnTrack state.working pending

theorem TaskStep.onTrack {state after : State} {result : Option Result}
    {task : Nat} {next : Phase} (step : TaskStep state after result task next)
    (wellFormed : state.working.WellFormed store)
    (sweeps : ∀ task sweep pending, (state.phases task).sweeping = some (sweep, pending) →
        sweep.OnTrack state.working pending)
    {sweep : Sweep} {pending : List Nat}
    (runs : sweepAfter next result = some (sweep, pending)) :
    sweep.OnTrack after.working pending := by
  rcases step.sweeping sweep pending runs with
    ⟨before, earlier, ran, goes⟩ | starts
  · exact (sweeps task before earlier ran).goes wellFormed step.refs goes
  · exact .starts wellFormed step.refs starts

theorem State.Refined.initial : State.Refined store { } := by
  refine ⟨.initial, ⟨?_, ?_⟩, ?_⟩
  · rintro contentHash unchanged ⟨⟩
  · rintro blob ⟨⟩
  · rintro task sweep pending ⟨⟩

theorem State.Refined.advance {state after : State} {action : Action}
    {result : Option Result} (refined : state.Refined store)
    (free : FaultFree store state action)
    (stepTo : store.advance state action = some (after, result)) :
    after.Refined store := by
  obtain ⟨whole, settled, sweeps⟩ := refined
  refine ⟨whole.advance free.kept stepTo, ?_, ?_⟩
  · obtain ⟨same | step, -⟩ := advance_core whole.sound.discipline stepTo
    · rw [same]
      exact settled
    · exact step.settled whole.sound.core settled free.2
  · intro other sweep pending runs
    obtain ⟨task, next, step⟩ := advance_task whole.sound.core.working free.continues stepTo
    rw [step.phases] at runs
    by_cases same : other = task
    · subst same
      rw [Function.update_self] at runs
      cases result with
      | none => exact step.onTrack whole.sound.core.working sweeps runs
      | some value => simp [step.ends value rfl, Phase.sweeping] at runs
    · rw [Function.update_of_ne same] at runs
      exact (sweeps other sweep pending runs).mono step.refs

theorem refined_of_reachable {state : State}
    (reached : store.system.ReachableWithin (FaultFree store) state) :
    state.Refined store := by
  apply reached.invariant
  · intro initial initially
    obtain rfl : initial = { } := initially
    exact .initial
  · intro before action after refined free stepTo
    obtain ⟨result, advances⟩ := system_step stepTo
    exact refined.advance free advances

/-- The reference was ingested before the cutoff, and its source is not
excluded. -/
def RefRow.ExpiresBefore (row : RefRow) (cutoff : UtcTime) (excludeSources : List String) : Prop :=
  ∃ time : UtcTime, row.ingestedAt = time.val.isoformat ∧
    time.val.instant < cutoff.val.instant ∧ row.source ∉ excludeSources

theorem Sweep.stale_iff {sweep : Sweep} {row : RefRow}
    (dated : ∃ time : UtcTime, row.ingestedAt = time.val.isoformat) :
    sweep.Stale row ↔ row.ExpiresBefore sweep.cutoff sweep.excludeSources := by
  obtain ⟨time, same⟩ := dated
  rw [Stale, Manifest.isStale, decide_eq_true_eq, same, UtcTime.isoformat_lt_iff]
  constructor
  · rintro ⟨earlier, included⟩
    exact ⟨time, same, earlier, included⟩
  · rintro ⟨other, text, earlier, included⟩
    have instants : time.val.instant < sweep.cutoff.val.instant := by
      rw [← UtcTime.isoformat_lt_iff, ← same, text, UtcTime.isoformat_lt_iff]
      exact earlier
    exact ⟨instants, included⟩

theorem Manifest.WellFormed.countP_le_one {manifest : Manifest}
    (wellFormed : manifest.WellFormed store) (contentHash : String) :
    manifest.blobs.countP (·.contentHash = contentHash) ≤ 1 := by
  have once := List.nodup_iff_count_le_one.mp wellFormed.uniqueBlobs contentHash
  rw [List.count, List.countP_map] at once
  simpa [Function.comp_def, beq_eq_decide] using once

/-- A content that is not being changed has a file, a row and a reference, or
none of them. -/
theorem State.Refined.file_iff {state : State} (refined : state.Refined store)
    {contentHash : String}
    (unchanged : state.holder.changing store ≠ some contentHash) :
    ((state.files (store.blobPath contentHash)).isSome ↔
      ∃ row ∈ state.working.refs, row.contentHash = contentHash) ∧
    state.working.blobs.countP (·.contentHash = contentHash) =
      if (state.files (store.blobPath contentHash)).isSome then 1 else 0 := by
  obtain ⟨whole, settled, -⟩ := refined
  have wellFormed : state.working.WellFormed store := whole.sound.core.working
  have stored : (∃ row ∈ state.working.refs, row.contentHash = contentHash) →
      ∃ blob ∈ state.working.blobs, blob.contentHash = contentHash := by
    rintro ⟨row, member, rfl⟩
    exact wellFormed.stored row member
  have present : (∃ blob ∈ state.working.blobs, blob.contentHash = contentHash) →
      (state.files (store.blobPath contentHash)).isSome := by
    rintro ⟨blob, member, rfl⟩
    exact whole.files.present blob (.inl member)
  have referenced := settled.files contentHash unchanged
  refine ⟨⟨referenced, fun used => present (stored used)⟩, ?_⟩
  split
  case isTrue there =>
    obtain ⟨blob, member, named⟩ := stored (referenced there)
    have some : 0 < state.working.blobs.countP (·.contentHash = contentHash) :=
      List.countP_pos_iff.mpr ⟨blob, member, by simpa using named⟩
    have := wellFormed.countP_le_one contentHash
    omega
  case isFalse absent =>
    apply List.countP_eq_zero.mpr
    intro blob member named
    exact absent (present ⟨blob, member, by simpa using named⟩)

/-- In a run without faults every content but the one that is being changed has
a file and one row of `blobs` when it has a reference, and none otherwise; every
reference is read back as it was put; what is committed is what is known
whenever the lock is free; and a sweep removes the references that are older
than the cutoff, and no others. -/
theorem manifest_describes_files (store : FsBlobStore) {state : State}
    (reached : store.system.ReachableWithin (FaultFree store) state) :
    (∀ contentHash, state.holder.changing store ≠ some contentHash →
      ((state.files (store.blobPath contentHash)).isSome ↔
        ∃ row ∈ state.working.refs, row.contentHash = contentHash) ∧
      state.working.blobs.countP (·.contentHash = contentHash) =
        if (state.files (store.blobPath contentHash)).isSome then 1 else 0) ∧
    (∀ row ∈ state.working.refs, ∃ blob data,
      state.working.lookupExisting row.contentHash = some blob ∧ data ∈ state.contents ∧
        store.sha256.hexdigest data = row.contentHash ∧
        store.get state blob.storePath = .ok data ∧
        ∀ other ∈ state.contents, store.sha256.hexdigest other = row.contentHash → other = data) ∧
    (state.locked = none → state.committed = state.working) ∧
    ∀ action after deleted unlinked sweep, store.advance state action =
          some (after, some (.swept deleted unlinked sweep)) →
        (∀ row ∈ sweep.removed, row.ExpiresBefore sweep.cutoff sweep.excludeSources) ∧
        ∀ row ∈ sweep.seen, row.ExpiresBefore sweep.cutoff sweep.excludeSources →
            ∀ other ∈ after.working.refs, other.id ≠ row.id := by
  have refined := refined_of_reachable reached
  obtain ⟨whole, settled, sweeps⟩ := refined_of_reachable reached
  have wellFormed : state.working.WellFormed store := whole.sound.core.working
  refine ⟨fun contentHash => refined.file_iff, ?_, ?_, ?_⟩
  · intro row member
    obtain ⟨blob, stored, named⟩ := wellFormed.stored row member
    obtain ⟨content, present⟩ :=
      Option.isSome_iff_exists.mp (whole.files.present blob (.inl stored))
    obtain ⟨known, same⟩ := whole.files.whole _ _ present
    refine ⟨blob, content, named ▸ wellFormed.lookupExisting_eq stored, known,
      same.trans named, whole.get_stored (.inl stored) known same, ?_⟩
    intro other otherKnown otherSame
    exact whole.distinct other otherKnown content known (otherSame.trans (same.trans named).symm)
  · intro free
    have holder := whole.sound.core.holder
    have idle : state.core.holder = .idle := by
      simp [State.core, State.holder, free]
    rw [idle] at holder
    exact holder.symm
  · intro action after deleted unlinked sweep stepTo
    by_cases continues : action.Continues
    · obtain ⟨task, next, step⟩ := advance_task wellFormed continues stepTo
      have onTrack : sweep.OnTrack after.working [] := step.onTrack wellFormed sweeps rfl
      constructor
      · intro row member
        exact (Sweep.stale_iff (onTrack.dated row (.inr member))).mp (onTrack.removed row member)
      · intro row member expires
        have stale := (Sweep.stale_iff (onTrack.dated row (.inl member))).mpr expires
        rcases onTrack.gone row member stale with waits | gone
        · simp at waits
        · exact gone
    · obtain ⟨-, -, none⟩ := advance_stopped continues stepTo
      cases none

instance (holder : Phase) (action : Action) : Decidable (action.Succeeds holder) :=
  match action with
  | .writeFile _ _ => inferInstanceAs (Decidable (_ ∧ _ ∧ _ ∧ ∀ request ∈ holder.writing, _))
  | .unlinkFile _ answer => inferInstanceAs (Decidable (answer = .ok ()))
  | .stop | .stopInWrite _ _ _ => isFalse id
  | .put _ _ | .exists _ _ | .delete _ _ | .sweepOlderThan _ _ _
  | .acquire _ _ | .query _ => isTrue trivial

instance (store : FsBlobStore) (state : State) (action : Action) :
    Decidable (FaultFree store state action) :=
  inferInstanceAs (Decidable (_ ∧ _))

section Example

theorem nextInstant_valid : TimeFields.Valid
      { year := 2026, month := 1, day := 3, offset := some 0 } ∧
    (some 0 : Option Int) = some 0 := by
  decide

def nextInstant : UtcTime := ⟨{ year := 2026, month := 1, day := 3, offset := some 0 },
    nextInstant_valid⟩

/-- The next statement of the second task ends a sweep that has removed this
many references, and the content of the example has so many left. -/
def endsSweep (removed left : Nat) (state : State) : Bool :=
  match exampleStore.advance state (.query 2) with
  | some (after, some (.swept _ _ sweep)) => decide (sweep.removed.length = removed ∧
        after.working.refs.length = left ∧
        (after.files (exampleStore.blobPath (exampleSha256.hexdigest abc))).isSome)
  | _ => false

theorem exists_of_endsSweep {removed left : Nat} {state : State}
    (ends : endsSweep removed left state = true) :
    ∃ after deleted unlinked sweep, exampleStore.advance state (.query 2) =
          some (after, some (.swept deleted unlinked sweep)) ∧
        sweep.removed.length = removed ∧ after.working.refs.length = left ∧
        (after.files (exampleStore.blobPath (exampleSha256.hexdigest abc))).isSome := by
  unfold endsSweep at ends
  split at ends
  case h_1 after deleted unlinked sweep advances =>
    exact ⟨after, deleted, unlinked, sweep, advances, of_decide_eq_true ends⟩
  case h_2 => cases ends

/-- One of two references is older than the cutoff and not excluded. -/
theorem gone_of_two_refs : ∃ state after deleted unlinked sweep,
      exampleStore.system.ReachableWithin (FaultFree exampleStore) state ∧
        exampleStore.advance state (.query 2) = some (after, some (.swept deleted unlinked sweep)) ∧
        sweep.removed.length = 1 ∧ after.working.refs.length = 1 ∧
        ∀ row ∈ sweep.seen, row.ExpiresBefore sweep.cutoff sweep.excludeSources →
            ∀ other ∈ after.working.refs, other.id ≠ row.id := by
  have run : ∃ state, exampleStore.system.ReachableWithin (FaultFree exampleStore) state ∧
        endsSweep 1 1 state = true :=
    TransitionSystem.exists_reachableWithin_of_checkedRun { } rfl
      (putAbc ++ [.writeFile 1 { write := .ok 3 }] ++ insertRows ++ [.query 1,
          .put 1 { data := abc, mime := "text/plain", source := "kept" },
          .acquire 1 exampleInstant, .query 1, .query 1, .query 1,
          .sweepOlderThan 2 nextInstant ["kept"], .query 2, .query 2, .query 2,
          .acquire 2 nextInstant, .query 2, .query 2, .query 2])
      (by decide)
  obtain ⟨state, reached, ends⟩ := run
  obtain ⟨after, deleted, unlinked, sweep, advances, removed, left, -⟩ :=
    exists_of_endsSweep ends
  obtain ⟨-, -, -, sweeps⟩ := manifest_describes_files exampleStore reached
  exact ⟨state, after, deleted, unlinked, sweep, reached, advances, removed, left,
    (sweeps _ _ _ _ _ advances).2⟩

/-- A sweep completes while `put` has written its file and not yet inserted
its rows: the file is there and the manifest has no reference. -/
theorem exists_file_without_ref : ∃ state after deleted unlinked sweep,
      exampleStore.system.ReachableWithin (FaultFree exampleStore) state ∧
        exampleStore.advance state (.query 2) = some (after, some (.swept deleted unlinked sweep)) ∧
        (after.files (exampleStore.blobPath (exampleStore.sha256.hexdigest abc))).isSome ∧
        after.working.refs = [] := by
  have run : ∃ state, exampleStore.system.ReachableWithin (FaultFree exampleStore) state ∧
        endsSweep 0 0 state = true :=
    TransitionSystem.exists_reachableWithin_of_checkedRun { } rfl
      (putAbc ++ [.writeFile 1 { write := .ok 3 }, .sweepOlderThan 2 nextInstant []])
      (by decide)
  obtain ⟨state, reached, ends⟩ := run
  obtain ⟨after, deleted, unlinked, sweep, advances, -, left, file⟩ :=
    exists_of_endsSweep ends
  exact ⟨state, after, deleted, unlinked, sweep, reached, advances, file,
    List.eq_nil_of_length_eq_zero left⟩

end Example

end FsBlobStore

end RoxabiFactory

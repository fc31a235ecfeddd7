import Mathlib.Data.List.Nodup
import RoxabiFactory.BlobStoreSteps

/-!
# The manifest of the blob store

The operations on the two tables keep them well formed, and the task that
holds the lock knows of the manifest what its earlier statements have read.
This holds in every run, whatever the system calls answer and wherever the
process stops.
-/

namespace RoxabiFactory

namespace FsBlobStore

namespace Manifest

variable {manifest : Manifest} {contentHash : String} {blobRefId : Nat}

theorem lookupExisting_eq_none_iff : manifest.lookupExisting contentHash = none ↔
      ∀ row ∈ manifest.blobs, row.contentHash ≠ contentHash := by
  simp [lookupExisting, List.find?_eq_none]

theorem of_lookupExisting {blob : BlobRow}
    (found : manifest.lookupExisting contentHash = some blob) :
    blob ∈ manifest.blobs ∧ blob.contentHash = contentHash :=
  ⟨List.mem_of_find?_eq_some found, by simpa using List.find?_some found⟩

theorem exists_lookupExisting {blob : BlobRow} (stored : blob ∈ manifest.blobs)
    (named : blob.contentHash = contentHash) :
    ∃ found, manifest.lookupExisting contentHash = some found := by
  rw [← Option.isSome_iff_exists, Option.isSome_iff_ne_none]
  intro absent
  exact lookupExisting_eq_none_iff.mp absent blob stored named

theorem of_findRef {row : RefRow} (found : manifest.findRef blobRefId = some row) :
    row ∈ manifest.refs ∧ row.id = blobRefId :=
  ⟨List.mem_of_find?_eq_some found, by simpa using List.find?_some found⟩

theorem findRef_eq_none_iff : manifest.findRef blobRefId = none ↔
      ∀ row ∈ manifest.refs, row.id ≠ blobRefId := by
  simp [findRef, List.find?_eq_none]

theorem of_joined {row : RefRow} {blob : BlobRow}
    (found : manifest.joined blobRefId = some (row, blob)) :
    (row ∈ manifest.refs ∧ row.id = blobRefId) ∧
      blob ∈ manifest.blobs ∧ blob.contentHash = row.contentHash := by
  obtain ⟨ref, foundRef, rest⟩ := Option.bind_eq_some_iff.mp found
  obtain ⟨other, foundBlob, same⟩ := Option.bind_eq_some_iff.mp rest
  obtain ⟨rfl, rfl⟩ := Prod.mk.inj (Option.some.inj same)
  exact ⟨of_findRef foundRef, of_lookupExisting foundBlob⟩

theorem countRefs_eq_zero_iff : manifest.countRefs contentHash = 0 ↔
      ∀ row ∈ manifest.refs, row.contentHash ≠ contentHash := by
  simp [countRefs, List.countP_eq_zero]

@[simp]
theorem refs_insertBlob (row : BlobRow) : (manifest.insertBlob row).refs = manifest.refs := by
  simp only [insertBlob]
  split <;> rfl

theorem mem_blobs_insertBlob {row blob : BlobRow}
    (member : blob ∈ (manifest.insertBlob row).blobs) :
    blob ∈ manifest.blobs ∨ blob = row := by
  simp only [insertBlob] at member
  split at member
  · exact .inl member
  · exact (List.mem_append.mp member).imp id List.mem_singleton.mp

theorem mem_of_latest {rows : List RefRow} {row : RefRow}
    (found : latest rows = some row) : row ∈ rows := by
  induction rows with
  | nil => simp [latest] at found
  | cons first rows ih =>
    cases rest : latest rows with
    | none =>
      simp only [latest, rest, Option.some.injEq] at found
      exact found ▸ List.mem_cons_self
    | some other =>
      simp only [latest, rest] at found
      split at found
      · exact List.mem_cons_of_mem _ (ih (rest.trans found))
      · exact Option.some.inj found ▸ List.mem_cons_self

theorem of_lookupLatest {row : RefRow} {blob : BlobRow}
    (found : manifest.lookupLatest contentHash = some (row, blob)) :
    (row ∈ manifest.refs ∧ row.contentHash = contentHash) ∧
      blob ∈ manifest.blobs ∧ blob.contentHash = contentHash := by
  obtain ⟨other, foundBlob, rest⟩ := Option.bind_eq_some_iff.mp found
  obtain ⟨ref, foundRef, same⟩ := Option.bind_eq_some_iff.mp rest
  obtain ⟨rfl, rfl⟩ := Prod.mk.inj (Option.some.inj same)
  have member := mem_of_latest foundRef
  simp only [List.mem_filter, decide_eq_true_eq] at member
  exact ⟨member, of_lookupExisting foundBlob⟩

end Manifest

/-- The row is about a content and names its file. -/
def BlobRow.Placed (store : FsBlobStore) (row : BlobRow) : Prop :=
  row.storePath = store.blobPath row.contentHash ∧
    ∃ data, row.contentHash = store.sha256.hexdigest data

/-- A manifest in which every row of `blobs` names the file of its content and
every reference has its row. -/
structure Manifest.WellFormed (store : FsBlobStore) (manifest : Manifest) : Prop where
  uniqueBlobs : (manifest.blobs.map (·.contentHash)).Nodup
  placed : ∀ row ∈ manifest.blobs, row.Placed store
  uniqueRefs : (manifest.refs.map (·.id)).Nodup
  numbered : ∀ row ∈ manifest.refs, row.id ≤ manifest.sequence
  stored : ∀ row ∈ manifest.refs, ∃ blob ∈ manifest.blobs, blob.contentHash = row.contentHash
  dated : ∀ row ∈ manifest.refs, ∃ time : UtcTime, row.ingestedAt = time.val.isoformat

namespace Manifest.WellFormed

variable {store : FsBlobStore} {manifest : Manifest}

theorem empty : WellFormed store { } := by
  constructor <;> simp

theorem insertBlob (wellFormed : manifest.WellFormed store) {row : BlobRow}
    (placed : row.Placed store) : (manifest.insertBlob row).WellFormed store := by
  simp only [Manifest.insertBlob]
  split
  · exact wellFormed
  case isFalse absent =>
    have unknown : ∀ other ∈ manifest.blobs,
        other.contentHash ≠ row.contentHash := by
      apply lookupExisting_eq_none_iff.mp
      simpa using absent
    constructor
    · simp only [List.map_append, List.map_cons, List.map_nil]
      apply List.nodup_append.mpr
      refine ⟨wellFormed.uniqueBlobs, by simp, ?_⟩
      intro known member new newMember
      obtain ⟨other, stored, rfl⟩ := List.mem_map.mp member
      obtain rfl := List.mem_singleton.mp newMember
      exact unknown other stored
    · intro other member
      rcases List.mem_append.mp member with known | new
      · exact wellFormed.placed other known
      · obtain rfl := List.mem_singleton.mp new
        exact placed
    · exact wellFormed.uniqueRefs
    · exact wellFormed.numbered
    · intro ref member
      obtain ⟨blob, stored, same⟩ := wellFormed.stored ref member
      exact ⟨blob, List.mem_append_left _ stored, same⟩
    · exact wellFormed.dated

theorem insertRef (wellFormed : manifest.WellFormed store) {row : RefRow}
    (stored : ∃ blob ∈ manifest.blobs, blob.contentHash = row.contentHash)
    (dated : ∃ time : UtcTime, row.ingestedAt = time.val.isoformat) :
    (manifest.insertRef row).WellFormed store := by
  constructor
  · exact wellFormed.uniqueBlobs
  · exact wellFormed.placed
  · simp only [Manifest.insertRef, List.map_append, List.map_cons, List.map_nil]
    apply List.nodup_append.mpr
    refine ⟨wellFormed.uniqueRefs, by simp, ?_⟩
    intro known member new newMember
    obtain ⟨other, present, rfl⟩ := List.mem_map.mp member
    obtain rfl := List.mem_singleton.mp newMember
    have := wellFormed.numbered other present
    omega
  · intro other member
    rcases List.mem_append.mp member with known | new
    · have := wellFormed.numbered other known
      simp only [Manifest.insertRef]
      omega
    · obtain rfl := List.mem_singleton.mp new
      simp [Manifest.insertRef]
  · intro other member
    rcases List.mem_append.mp member with known | new
    · exact wellFormed.stored other known
    · obtain rfl := List.mem_singleton.mp new
      exact stored
  · intro other member
    rcases List.mem_append.mp member with known | new
    · exact wellFormed.dated other known
    · obtain rfl := List.mem_singleton.mp new
      exact dated

theorem deleteRef (wellFormed : manifest.WellFormed store) (blobRefId : Nat) :
    (manifest.deleteRef blobRefId).WellFormed store := by
  have kept : ∀ row ∈ (manifest.deleteRef blobRefId).refs,
      row ∈ manifest.refs := fun _ member => List.mem_of_mem_filter member
  constructor
  · exact wellFormed.uniqueBlobs
  · exact wellFormed.placed
  · exact wellFormed.uniqueRefs.sublist (List.filter_sublist.map _)
  · exact fun row member => wellFormed.numbered row (kept row member)
  · exact fun row member => wellFormed.stored row (kept row member)
  · exact fun row member => wellFormed.dated row (kept row member)

theorem deleteBlob (wellFormed : manifest.WellFormed store) {contentHash : String}
    (unused : ∀ row ∈ manifest.refs, row.contentHash ≠ contentHash) :
    (manifest.deleteBlob contentHash).WellFormed store := by
  constructor
  · exact wellFormed.uniqueBlobs.sublist (List.filter_sublist.map _)
  · exact fun row member =>
      wellFormed.placed row (List.mem_of_mem_filter member)
  · exact wellFormed.uniqueRefs
  · exact wellFormed.numbered
  · intro ref member
    obtain ⟨blob, stored, same⟩ := wellFormed.stored ref member
    refine ⟨blob, List.mem_filter.mpr ⟨stored, ?_⟩, same⟩
    simpa [same] using unused ref member
  · exact wellFormed.dated

theorem lookupExisting_eq (wellFormed : manifest.WellFormed store)
    {blob : BlobRow} (stored : blob ∈ manifest.blobs) :
    manifest.lookupExisting blob.contentHash = some blob := by
  obtain ⟨found, lookup⟩ := exists_lookupExisting stored rfl
  obtain ⟨present, same⟩ := of_lookupExisting lookup
  rw [lookup, List.inj_on_of_nodup_map wellFormed.uniqueBlobs present stored same]

theorem findRef_eq (wellFormed : manifest.WellFormed store) {row : RefRow}
    (present : row ∈ manifest.refs) : manifest.findRef row.id = some row := by
  cases found : manifest.findRef row.id with
  | none => exact absurd rfl (findRef_eq_none_iff.mp found row present)
  | some other =>
    obtain ⟨member, same⟩ := of_findRef found
    rw [List.inj_on_of_nodup_map wellFormed.uniqueRefs member present same]

end Manifest.WellFormed

variable (store : FsBlobStore)

/-- What the holder of the lock has read of the manifest. -/
def HolderSound (working committed : Manifest) : Phase → Prop
  | .putWrite request _ | .putInsertBlob request _ =>
    working = committed ∧ working.lookupExisting (store.sha256.hexdigest request.data) = none
  | .putReread request _ =>
    ∃ blob ∈ working.blobs, blob.contentHash = store.sha256.hexdigest request.data
  | .putInsertRef request _ stored | .putCommit request _ stored _ =>
    ∃ blob ∈ working.blobs, blob.contentHash = store.sha256.hexdigest request.data ∧
        blob.stored = stored
  | .deleteRef job blob => working = committed ∧ blob ∈ working.blobs ∧
      ∀ row ∈ working.refs, row.id = job.blobRefId → row.contentHash = blob.contentHash
  | .deleteCount _ blob => blob ∈ working.blobs
  | .deleteBlob _ blob => blob ∈ working.blobs ∧
      ∀ row ∈ working.refs, row.contentHash ≠ blob.contentHash
  | .deleteCommit _ blob true => blob.Placed store ∧
      ∀ row ∈ working.blobs, row.contentHash ≠ blob.contentHash
  | .deleteCommit _ _ false => True
  | .deleteUnlink _ blob => working = committed ∧ blob.Placed store ∧
      ∀ row ∈ working.blobs, row.contentHash ≠ blob.contentHash
  | _ => working = committed

/-- Both manifests are well formed, and the holder is right about them. -/
structure Core.Sound (core : Core) : Prop where
  working : core.working.WellFormed store
  committed : core.committed.WellFormed store
  holder : HolderSound store core.working core.committed core.holder

variable {store}

theorem holderSound_acquired {manifest : Manifest} (now : UtcTime) (job : Job) :
    HolderSound store manifest manifest (acquired now job) := by
  cases job <;> rfl

/-- The row that `put` has just inserted, or the one that was there. -/
theorem exists_insertBlob (manifest : Manifest) (row : BlobRow) :
    ∃ blob ∈ (manifest.insertBlob row).blobs, blob.contentHash = row.contentHash := by
  simp only [Manifest.insertBlob]
  split
  case isTrue known =>
    obtain ⟨found, lookup⟩ := Option.isSome_iff_exists.mp known
    exact ⟨found, Manifest.of_lookupExisting lookup⟩
  case isFalse => exact ⟨row, by simp, rfl⟩

theorem CoreStep.sound {action : Action} {before after : Core}
    (step : CoreStep store action before after) (sound : before.Sound store) :
    after.Sound store := by
  obtain ⟨working, committed, holder⟩ := sound
  cases step with
  | acquire task now job =>
    have clean : _ = _ := holder
    exact ⟨working, committed, by
      simp only at clean
      subst clean
      exact holderSound_acquired now job⟩
  | lookupNew task request now files first second absent =>
    exact ⟨working, committed, holder, absent⟩
  | lookupOld task request now blob files first second found =>
    obtain ⟨stored, named⟩ := Manifest.of_lookupExisting found
    exact ⟨working, committed, blob, stored, named, rfl⟩
  | written => exact ⟨working, committed, holder⟩
  | writeFailed => exact ⟨working, committed, holder.1⟩
  | insertBlob task request now =>
    exact ⟨working.insertBlob ⟨rfl, request.data, rfl⟩, committed,
      exists_insertBlob _ (store.newBlob request now)⟩
  | reread task request now =>
    obtain ⟨blob, stored, named⟩ := holder
    obtain ⟨found, lookup⟩ := Manifest.exists_lookupExisting stored named
    obtain ⟨present, same⟩ := Manifest.of_lookupExisting lookup
    exact ⟨working, committed, found, present, same, by
      simp only [lookup, Option.getD_some]⟩
  | insertRef task request now stored =>
    obtain ⟨blob, present, named, same⟩ := holder
    exact ⟨working.insertRef ⟨blob, present, named⟩ ⟨now, rfl⟩, committed,
      blob, present, named, same⟩
  | commit => exact ⟨working, working, rfl⟩
  | select => exact ⟨working, committed, holder⟩
  | deleteAbsent => exact ⟨working, committed, holder⟩
  | deleteFound task job row blob files first second found =>
    obtain ⟨⟨present, numbered⟩, stored, named⟩ := Manifest.of_joined found
    refine ⟨working, committed, holder, stored, ?_⟩
    intro other member same
    obtain rfl := List.inj_on_of_nodup_map working.uniqueRefs member present
      (same.trans numbered.symm)
    exact named.symm
  | deleteRef task job blob =>
    exact ⟨working.deleteRef job.blobRefId, committed, holder.2.1⟩
  | countNone task job blob files first second last =>
    exact ⟨working, committed, holder, Manifest.countRefs_eq_zero_iff.mp last⟩
  | countSome => exact ⟨working, committed, trivial⟩
  | deleteBlob task job blob =>
    refine ⟨working.deleteBlob holder.2, committed, working.placed blob holder.1, ?_⟩
    intro row member
    simpa using (List.mem_filter.mp member).2
  | deleteCommitDrop => exact ⟨working, working, rfl, holder⟩
  | deleteCommitKeep => exact ⟨working, working, rfl⟩
  | unlinked => exact ⟨working, committed, holder.1⟩
  | unlinkSkipped => exact ⟨working, committed, holder.1⟩
  | unlinkFailed => exact ⟨working, committed, holder.1⟩
  | stop => exact ⟨committed, committed, rfl⟩
  | stopInWrite => exact ⟨committed, committed, rfl⟩

/-- The lock is held as the phases say, and the manifests are sound. -/
structure State.Sound (store : FsBlobStore) (state : State) : Prop where
  discipline : state.LockDiscipline
  core : state.core.Sound store

theorem State.Sound.initial : State.Sound store { } := by
  refine ⟨⟨?_, ?_⟩, .empty, .empty, rfl⟩
  · intro task holds
    simp [Phase.holdsLock] at holds
  · intro task locked
    simp at locked

theorem State.Sound.advance {state after : State} {action : Action}
    {result : Option Result} (sound : state.Sound store)
    (stepTo : store.advance state action = some (after, result)) :
    after.Sound store := by
  obtain ⟨same | step, discipline⟩ := advance_core sound.discipline stepTo
  · exact ⟨discipline, same ▸ sound.core⟩
  · exact ⟨discipline, step.sound sound.core⟩

/-- A step of the transition system is one of `advance`. -/
theorem system_step {state after : State} {action : Action}
    (stepTo : store.system.step state action = some after) :
    ∃ result, store.advance state action = some (after, result) := by
  obtain ⟨⟨other, result⟩, advances, rfl⟩ := Option.map_eq_some_iff.mp stepTo
  exact ⟨result, advances⟩

end FsBlobStore

end RoxabiFactory

import Mathlib.Data.Fintype.Basic
import RoxabiFactory.ActiveJobsKv

/-!
# One active job for a pool

The job whose `open` has returned keeps the index of its pool, as long as no
late operation of another call writes or deletes its keys.  Nothing in the
registry prevents such an operation: `refresh` and `close` look at the bucket
first and act on what they have seen.
-/

namespace RoxabiFactory

namespace ActiveJobs

open Kv

variable {Task : Type}

namespace State

/-- The property holds for the jobs that have a turn, and for those that `open`
has written an entry for. -/
def ForClaims (state : State Task) (property : Lease → Prop) : Prop :=
  (∀ lease ∈ state.leases, property lease) ∧
    ∀ task, ∀ lease ∈ (state.phases task).opening, property lease

/-- The next operation of a call does not touch what another job holds. -/
def Undisturbed (state : State Task) : Phase → Prop
  | .openPut entry => state.ForClaims fun lease =>
    Confusable lease.jobId entry.jobId → entry.lease = lease
  | .refreshPutJob jobId entry => state.ForClaims fun lease =>
    Confusable lease.jobId jobId → entry.lease = lease
  | .refreshPutIndex jobId entry | .closeDeleteIndex jobId entry =>
    ∀ lease ∈ state.leases, Confusable lease.poolId entry.poolId → lease.jobId = jobId
  | .closeDelete jobId =>
    (∀ lease ∈ state.leases, Confusable lease.jobId jobId → lease.jobId = jobId) ∧
      ∀ task, ∀ lease ∈ (state.phases task).opening, ¬ Confusable lease.jobId jobId
  | _ => True

/-- No entry expires while its `open` is in progress, the ids of jobs are
proper, and no operation touches what another job holds. -/
def Kept (state : State Task) : Action Task → Prop
  | .open _ entry => entry.isSingleton = true → entry.jobId ≠ "" ∧ entry.jobId ≠ "<unknown>"
  | .call task => state.Undisturbed (state.phases task)
  | .fail task stored =>
    stored = true → state.Undisturbed (state.phases task)
  | .expireJob key => ∀ task, ∀ lease ∈ (state.phases task).opening, jobKey lease.jobId ≠ key
  | .refresh _ _ | .close _ _ | .expireIndex _ => True

end State

/-- The bucket has an entry of the job at its key. -/
def Bucket.Names (bucket : Bucket) (lease : Lease) : Prop := ∃ entry : ActiveJobEntry,
    bucket.jobs (jobKey lease.jobId) = some (entryToBytes entry) ∧ entry.lease = lease

/-- The job has the index of its pool. -/
def Bucket.Owned (bucket : Bucket) (lease : Lease) : Prop :=
  bucket.index (idxKey lease.poolId) = some lease.jobId

/-- The id names a job. -/
def Lease.Proper (lease : Lease) : Prop := lease.jobId ≠ "" ∧ lease.jobId ≠ "<unknown>"

/-- The call will be an `open` with a proper id. -/
def Phase.Proper : Phase → Prop
  | .openPut entry => entry.isSingleton = true → entry.lease.Proper
  | _ => True

structure Sound (state : State Task) : Prop where
  owned : ∀ lease ∈ state.leases, state.bucket.Owned lease
  claims : state.ForClaims fun lease =>
    state.bucket.Names lease ∧ lease.Proper
  proper : ∀ task, (state.phases task).Proper

theorem Bucket.Names.putJob {bucket : Bucket} {lease : Lease} {jobId : String}
    {entry : ActiveJobEntry} (names : bucket.Names lease)
    (undisturbed : Confusable lease.jobId jobId → entry.lease = lease) :
    (bucket.putJob jobId entry).Names lease := by
  by_cases confusable : Confusable lease.jobId jobId
  · refine ⟨entry, ?_, undisturbed confusable⟩
    simp only [Bucket.putJob, jobKey_eq_iff.mpr confusable, Function.update_self]
  · obtain ⟨stored, found, same⟩ := names
    refine ⟨stored, ?_, same⟩
    have otherKey : jobKey lease.jobId ≠ jobKey jobId :=
      fun sameKey => confusable (jobKey_eq_iff.mp sameKey)
    exact (Function.update_of_ne otherKey _ _).trans found

theorem Bucket.Names.deleteJob {bucket : Bucket} {lease : Lease}
    {jobId : String} (names : bucket.Names lease)
    (other : ¬ Confusable lease.jobId jobId) :
    (bucket.deleteJob jobId).Names lease := by
  obtain ⟨stored, found, same⟩ := names
  refine ⟨stored, ?_, same⟩
  have otherKey : jobKey lease.jobId ≠ jobKey jobId :=
    fun sameKey => other (jobKey_eq_iff.mp sameKey)
  exact (Function.update_of_ne otherKey _ _).trans found

theorem Bucket.Owned.putIndex {bucket : Bucket} {lease : Lease}
    {poolId jobId : String} (owned : bucket.Owned lease)
    (undisturbed : Confusable lease.poolId poolId → lease.jobId = jobId) :
    (bucket.putIndex poolId jobId).Owned lease := by
  by_cases confusable : Confusable lease.poolId poolId
  · rw [Bucket.Owned, idxKey_eq_iff.mpr confusable, undisturbed confusable]
    exact Function.update_self _ _ _
  · have otherKey : idxKey lease.poolId ≠ idxKey poolId :=
      fun sameKey => confusable (idxKey_eq_iff.mp sameKey)
    exact (Function.update_of_ne otherKey _ _).trans owned

theorem Bucket.Owned.deleteIndex {bucket : Bucket} {lease : Lease}
    {poolId : String} (owned : bucket.Owned lease)
    (other : ¬ Confusable lease.poolId poolId) :
    (bucket.deleteIndex poolId).Owned lease := by
  have otherKey : idxKey lease.poolId ≠ idxKey poolId :=
    fun sameKey => other (idxKey_eq_iff.mp sameKey)
  exact (Function.update_of_ne otherKey _ _).trans owned

theorem State.mem_remaining {state : State Task} {closing : Option String} {lease : Lease} :
    lease ∈ state.remaining closing ↔
      lease ∈ state.leases ∧ some lease.jobId ≠ closing := by
  simp [State.remaining]

/-- An operation that does not touch what another job holds keeps the entries
of the jobs that it does not close. -/
theorem Sound.claims_perform {state : State Task} (sound : Sound state)
    {phase : Phase} (undisturbed : state.Undisturbed phase) :
    (state.perform phase).ForClaims fun lease =>
      (phase.effect state.bucket).Names lease ∧ lease.Proper := by
  have kept : ∀ lease ∈ state.remaining phase.closing, lease ∈ state.leases :=
    fun lease member => (State.mem_remaining.mp member).1
  have unchanged (same : (phase.effect state.bucket).jobs = state.bucket.jobs) :
      (state.perform phase).ForClaims fun lease =>
        (phase.effect state.bucket).Names lease ∧ lease.Proper := by
    simp only [Bucket.Names, same]
    exact ⟨fun lease member => sound.claims.1 lease (kept lease member), sound.claims.2⟩
  have written (jobId : String) (entry : ActiveJobEntry)
      (writes : phase.effect state.bucket = state.bucket.putJob jobId entry)
      (apart : state.ForClaims fun lease =>
        Confusable lease.jobId jobId → entry.lease = lease) :
      (state.perform phase).ForClaims fun lease =>
        (phase.effect state.bucket).Names lease ∧ lease.Proper := by
    rw [writes]
    constructor
    · intro lease member
      obtain ⟨names, proper⟩ := sound.claims.1 lease (kept lease member)
      exact ⟨names.putJob (apart.1 lease (kept lease member)), proper⟩
    · intro task lease member
      obtain ⟨names, proper⟩ := sound.claims.2 task lease member
      exact ⟨names.putJob (apart.2 task lease member), proper⟩
  cases phase with
  | openPut entry => exact written entry.jobId entry rfl undisturbed
  | refreshPutJob jobId entry => exact written jobId entry rfl undisturbed
  | openCreate entry =>
    apply unchanged
    simp only [Phase.effect]
    split <;> rfl
  | closeDelete jobId =>
    constructor
    · intro lease member
      obtain ⟨held, other⟩ := State.mem_remaining.mp member
      obtain ⟨names, proper⟩ := sound.claims.1 lease held
      refine ⟨names.deleteJob fun confusable => ?_, proper⟩
      exact other (congrArg some (undisturbed.1 lease held confusable))
    · intro task lease member
      obtain ⟨names, proper⟩ := sound.claims.2 task lease member
      exact ⟨names.deleteJob (undisturbed.2 task lease member), proper⟩
  | _ => exact unchanged rfl

theorem Sound.owned_perform {state : State Task} (sound : Sound state)
    {phase : Phase} (undisturbed : state.Undisturbed phase) :
    ∀ lease ∈ (state.perform phase).leases, (phase.effect state.bucket).Owned lease := by
  intro lease member
  obtain ⟨held, other⟩ := State.mem_remaining.mp member
  have owned := sound.owned lease held
  cases phase with
  | openCreate entry =>
    simp only [Phase.effect]
    split
    case isTrue absent =>
      -- the key of a job that has its turn is not absent
      apply owned.putIndex
      intro confusable
      rw [Bucket.Owned, idxKey_eq_iff.mpr confusable] at owned
      simp [owned] at absent
    case isFalse => exact owned
  | refreshPutIndex jobId entry =>
    exact owned.putIndex (undisturbed lease held)
  | closeDeleteIndex jobId entry =>
    apply owned.deleteIndex
    intro confusable
    exact other (congrArg some (undisturbed lease held confusable))
  | _ => exact owned

/-- The job that `open` returns for has its index and its entry. -/
theorem Sound.acquired {state : State Task} (sound : Sound state) {task : Task} {lease : Lease}
    (acquires : (state.phases task).acquired state.bucket = some lease) :
    lease ∈ (state.phases task).opening ∧
      ((state.phases task).effect state.bucket).Owned lease := by
  cases phase : state.phases task with
  | openCreate entry =>
    simp only [phase, Phase.acquired] at acquires
    split at acquires
    case isTrue absent =>
      obtain rfl := Option.some.inj acquires
      refine ⟨rfl, ?_⟩
      simp only [Phase.effect, absent, if_true]
      exact Function.update_self _ _ _
    case isFalse => cases acquires
  | openWinner entry =>
    simp only [phase, Phase.acquired] at acquires
    split at acquires
    case isTrue winner =>
      obtain rfl := Option.some.inj acquires
      refine ⟨rfl, ?_⟩
      obtain ⟨-, -, proper⟩ := sound.claims.2 task entry.lease (by rw [phase]; rfl)
      simp only [Bucket.winnerId] at winner
      cases index : state.bucket.index (idxKey entry.poolId) with
      | none =>
        rw [index] at winner
        exact absurd winner.symm proper
      | some jobId =>
        simp only [index] at winner
        split at winner
        · exact absurd winner.symm proper
        · exact index.trans (congrArg some winner)
    case isFalse => cases acquires
  | _ => simp [phase, Phase.acquired] at acquires

theorem Sound.opening_next {state : State Task} (sound : Sound state) {task : Task} {lease : Lease}
    (opens : ((state.phases task).next state.bucket).opening = some lease) :
    ((state.phases task).effect state.bucket).Names lease ∧ lease.Proper ∨
      lease ∈ (state.phases task).opening := by
  cases phase : state.phases task with
  | openPut entry =>
    simp only [phase, Phase.next] at opens
    split at opens
    case isTrue singleton =>
      obtain rfl := Option.some.inj opens
      left
      have proper := sound.proper task
      rw [phase] at proper
      exact ⟨⟨entry, Function.update_self _ _ _, rfl⟩, proper singleton⟩
    case isFalse => cases opens
  | openCreate entry =>
    simp only [phase, Phase.next] at opens
    split at opens
    · cases opens
    · exact .inr opens
  | _ =>
    simp only [phase, Phase.next] at opens
    repeat' split at opens
    all_goals cases opens

theorem Phase.next_proper (phase : Phase) (bucket : Bucket) : (phase.next bucket).Proper := by
  cases phase with
  | _ =>
    simp only [Phase.next]
    repeat' split
    all_goals trivial

theorem Sound.drop {state : State Task} (sound : Sound state)
    {leases : List Lease} (fewer : ∀ lease ∈ leases, lease ∈ state.leases) :
    Sound { state with leases := leases } :=
  ⟨fun lease member => sound.owned lease (fewer lease member),
    ⟨fun lease member => sound.claims.1 lease (fewer lease member), sound.claims.2⟩, sound.proper⟩

theorem Sound.expireJob {state : State Task} {key : String} (sound : Sound state)
    (kept : ∀ task, ∀ lease ∈ (state.phases task).opening, jobKey lease.jobId ≠ key) :
    Sound { state with
      bucket := { state.bucket with
        jobs := Function.update state.bucket.jobs key none }
      leases := state.leases.filter fun lease => jobKey lease.jobId ≠ key } := by
  have named : ∀ lease : Lease, state.bucket.Names lease → jobKey lease.jobId ≠ key →
        Bucket.Names { state.bucket with
          jobs := Function.update state.bucket.jobs key none } lease := by
    intro lease names other
    obtain ⟨stored, found, same⟩ := names
    exact ⟨stored, (Function.update_of_ne other _ _).trans found, same⟩
  refine ⟨?_, ⟨?_, ?_⟩, sound.proper⟩
  · intro lease member
    exact sound.owned lease (List.mem_filter.mp member).1
  · intro lease member
    obtain ⟨held, other⟩ := List.mem_filter.mp member
    obtain ⟨names, proper⟩ := sound.claims.1 lease held
    exact ⟨named lease names (by simpa using other), proper⟩
  · intro task lease opening
    obtain ⟨names, proper⟩ := sound.claims.2 task lease opening
    exact ⟨named lease names (kept task lease opening), proper⟩

theorem Sound.expireIndex {state : State Task} {key : String} (sound : Sound state) :
    Sound { state with
      bucket := { state.bucket with
        index := Function.update state.bucket.index key none }
      leases := state.leases.filter fun lease =>
        idxKey lease.poolId ≠ key } := by
  refine ⟨?_, ⟨?_, sound.claims.2⟩, sound.proper⟩
  · intro lease member
    obtain ⟨held, other⟩ := List.mem_filter.mp member
    have otherKey : idxKey lease.poolId ≠ key := by simpa using other
    exact (Function.update_of_ne otherKey _ _).trans (sound.owned lease held)
  · intro lease member
    exact sound.claims.1 lease (List.mem_filter.mp member).1

variable [DecidableEq Task]

/-- A call goes on from a state in which the other calls and the jobs that have
a turn are as they should be. -/
theorem Sound.resume {state : State Task} {task : Task} {phase : Phase} {acquired : Option Lease}
    (owned : ∀ lease ∈ state.leases, state.bucket.Owned lease)
    (claims : state.ForClaims fun lease =>
      state.bucket.Names lease ∧ lease.Proper)
    (proper : ∀ task, (state.phases task).Proper)
    (acquires : ∀ lease ∈ acquired, state.bucket.Owned lease ∧
      state.bucket.Names lease ∧ lease.Proper)
    (opens : ∀ lease ∈ phase.opening, state.bucket.Names lease ∧ lease.Proper)
    (properPhase : phase.Proper) :
    Sound (state.resume task phase acquired) := by
  have member : ∀ lease ∈ acquired.toList ++ state.leases,
      lease ∈ acquired ∨ lease ∈ state.leases := by
    intro lease member
    rcases List.mem_append.mp member with new | held
    · exact .inl (Option.mem_toList.mp new)
    · exact .inr held
  refine ⟨?_, ⟨?_, ?_⟩, ?_⟩
  · intro lease present
    rcases member lease present with new | held
    · exact (acquires lease new).1
    · exact owned lease held
  · intro lease present
    rcases member lease present with new | held
    · exact (acquires lease new).2
    · exact claims.1 lease held
  · intro other lease opening
    simp only [State.resume] at opening
    by_cases same : other = task
    · rw [same, Function.update_self] at opening
      exact opens lease opening
    · rw [Function.update_of_ne same] at opening
      exact claims.2 other lease opening
  · intro other
    simp only [State.resume]
    by_cases same : other = task
    · rw [same, Function.update_self]
      exact properPhase
    · rw [Function.update_of_ne same]
      exact proper other

theorem Sound.begin {state after : State Task} {task : Task} {phase : Phase}
    (sound : Sound state) (starts : phase.opening = none)
    (proper : phase.Proper) (stepTo : state.begin task phase = some after) :
    Sound after := by
  unfold State.begin at stepTo
  split at stepTo
  · obtain rfl := Option.some.inj stepTo
    have resumed : Sound (state.resume task phase none) := by
      apply Sound.resume sound.owned sound.claims sound.proper
      · simp
      · simp [starts]
      · exact proper
    exact resumed
  · cases stepTo

theorem Sound.call {state after : State Task} {task : Task}
    (sound : Sound state) (kept : state.Kept (.call task))
    (stepTo : state.step (.call task) = some after) : Sound after := by
  simp only [State.step] at stepTo
  split at stepTo
  · cases stepTo
  · obtain rfl := Option.some.inj stepTo
    have claims := sound.claims_perform kept
    apply Sound.resume (sound.owned_perform kept) claims sound.proper
    · intro lease acquires
      obtain ⟨opening, owned⟩ := sound.acquired acquires
      exact ⟨owned, claims.2 task lease opening⟩
    · intro lease opens
      rcases sound.opening_next opens with written | opening
      · exact written
      · exact claims.2 task lease opening
    · exact Phase.next_proper _ _

theorem Sound.fail {state after : State Task} {task : Task} {stored : Bool}
    (sound : Sound state) (kept : state.Kept (.fail task stored))
    (stepTo : state.step (.fail task stored) = some after) : Sound after := by
  simp only [State.step] at stepTo
  split at stepTo
  · cases stepTo
  · split at stepTo
    case isTrue effected =>
      obtain rfl := Option.some.inj stepTo
      apply Sound.resume (sound.owned_perform (kept effected))
        (sound.claims_perform (kept effected)) sound.proper
      · simp
      · simp [Phase.opening]
      · trivial
    case isFalse =>
      obtain rfl := Option.some.inj stepTo
      apply Sound.resume sound.owned sound.claims sound.proper
      · simp
      · simp [Phase.opening]
      · trivial

theorem Sound.step {state after : State Task} {action : Action Task}
    (sound : Sound state) (kept : state.Kept action)
    (stepTo : state.step action = some after) : Sound after := by
  cases action with
  | «open» task entry =>
    have proper : (Phase.openPut entry).Proper := kept
    exact sound.begin rfl proper stepTo
  | refresh task jobId =>
    have proper : (Phase.refreshGet jobId).Proper := trivial
    exact sound.begin rfl proper stepTo
  | close task jobId =>
    have proper : (Phase.closeGet jobId).Proper := trivial
    have fewer : ∀ lease ∈ state.remaining (some jobId), lease ∈ state.leases :=
      fun lease member => (State.mem_remaining.mp member).1
    exact (sound.drop fewer).begin rfl proper stepTo
  | call task => exact sound.call kept stepTo
  | fail task stored => exact sound.fail kept stepTo
  | expireJob key =>
    obtain rfl := Option.some.inj stepTo
    exact sound.expireJob kept
  | expireIndex key =>
    obtain rfl := Option.some.inj stepTo
    exact sound.expireIndex

theorem sound_of_reachable {state : State Task}
    (reached : (system Task).ReachableWithin State.Kept state) :
    Sound state := by
  apply reached.invariant
  · rintro initial rfl
    exact ⟨by simp, ⟨by simp, by simp [Phase.opening]⟩, fun _ => trivial⟩
  · exact fun before action after sound kept stepTo => sound.step kept stepTo

/-- As long as no operation touches what another job holds, the index of the
pool names the job that has been opened for it, and `get_by_pool` returns the
entry of that job, even when it reads the index in one such state and the entry
in another. -/
theorem owned_of_reachable (Task : Type) [DecidableEq Task] {state later : State Task}
    (reached : (system Task).ReachableWithin State.Kept state)
    (laterReached : (system Task).ReachableWithin State.Kept later)
    {lease : Lease} (member : lease ∈ state.leases)
    (still : lease ∈ later.leases) :
    state.bucket.index (idxKey lease.poolId) = some lease.jobId ∧
      ∃ entry, state.bucket.getByPool later.bucket lease.poolId = .ok (some entry) ∧
        entry.jobId = lease.jobId ∧ entry.poolId = lease.poolId := by
  have owned := (sound_of_reachable reached).owned lease member
  obtain ⟨⟨entry, found, same⟩, proper, -⟩ := (sound_of_reachable laterReached).claims.1 lease still
  refine ⟨owned, entry, ?_, congrArg Lease.jobId same,
    congrArg Lease.poolId same⟩
  rw [Bucket.Owned] at owned
  simp only [Bucket.getByPool, owned, if_neg proper, Bucket.getJob, found,
    bytesToEntry_entryToBytes]
  rfl

instance [Fintype Task] (state : State Task) (property : Lease → Prop)
    [DecidablePred property] : Decidable (state.ForClaims property) :=
  inferInstanceAs (Decidable ((∀ lease ∈ state.leases, property lease) ∧
    ∀ task, ∀ lease ∈ (state.phases task).opening, property lease))

instance [Fintype Task] (state : State Task) (phase : Phase) :
    Decidable (state.Undisturbed phase) :=
  match phase with
  | .openPut _ | .refreshPutJob _ _ =>
    inferInstanceAs (Decidable (state.ForClaims _))
  | .refreshPutIndex _ _ | .closeDeleteIndex _ _ =>
    inferInstanceAs (Decidable (∀ lease ∈ state.leases, _))
  | .closeDelete _ =>
    inferInstanceAs (Decidable ((∀ lease ∈ state.leases, _) ∧
      ∀ task, ∀ lease ∈ (state.phases task).opening, _))
  | .idle | .conflict _ _ | .openCreate _ | .openWinner _ | .refreshGet _
  | .closeGet _ | .closeGetIndex _ _ => isTrue trivial

instance [Fintype Task] (state : State Task) (action : Action Task) :
    Decidable (state.Kept action) :=
  match action with
  | .open _ _ => inferInstanceAs (Decidable (_ → _ ∧ _))
  | .call task =>
    inferInstanceAs (Decidable (state.Undisturbed (state.phases task)))
  | .fail _ _ => inferInstanceAs (Decidable (_ → state.Undisturbed _))
  | .expireJob _ => inferInstanceAs (Decidable (∀ task, ∀ lease ∈ (state.phases task).opening, _))
  | .refresh _ _ | .close _ _ | .expireIndex _ => isTrue trivial

section Example

theorem startTime_valid : TimeFields.Valid
    { year := 2026, month := 3, day := 1, offset := some 0 } := by
  decide

def exampleJob (jobId : String) : ActiveJobEntry where
  jobId := jobId
  poolId := "telegram:lyra:1"
  status := "open"
  startedAt := ⟨_, startTime_valid⟩
  steerSubject := "factory.job.steer"
  concurrencyMode := "queue"

def openJob (jobId : String) : List (Action (Fin 2)) :=
  [.open 0 (exampleJob jobId), .call 0, .call 0]

/-- A job that is refreshed keeps its pool. -/
theorem owned_of_refresh : ∃ state later : State (Fin 2), ∃ lease : Lease,
      state.bucket.index (idxKey lease.poolId) = some lease.jobId ∧
        ∃ entry, state.bucket.getByPool later.bucket lease.poolId = .ok (some entry) ∧
          entry.jobId = lease.jobId ∧ entry.poolId = lease.poolId := by
  have opened : ∃ state : State (Fin 2), (system (Fin 2)).ReachableWithin State.Kept state ∧
        (exampleJob "a").lease ∈ state.leases :=
    TransitionSystem.exists_reachableWithin_of_checkedRun { } rfl (openJob "a") (by decide)
  have refreshed : ∃ state : State (Fin 2), (system (Fin 2)).ReachableWithin State.Kept state ∧
        (exampleJob "a").lease ∈ state.leases :=
    TransitionSystem.exists_reachableWithin_of_checkedRun { } rfl
      (openJob "a" ++ [.refresh 1 "a", .call 1, .call 1, .call 1])
      (by decide)
  obtain ⟨state, reached, member⟩ := opened
  obtain ⟨later, laterReached, still⟩ := refreshed
  exact ⟨state, later, _, owned_of_reachable (Fin 2) reached laterReached member still⟩

/-- A refresh that has read its entry before the job was closed takes the index
from the next job, and a close that has read the index before it expired
deletes the index of the next job. -/
theorem exists_lease_without_index : (∃ state : State (Fin 2), (system (Fin 2)).Reachable state ∧
      ∃ lease ∈ state.leases, lease.jobId = "b" ∧
        state.bucket.index (idxKey lease.poolId) = some "a") ∧
    ∃ state : State (Fin 2), (system (Fin 2)).Reachable state ∧
      ∃ lease ∈ state.leases, lease.jobId = "b" ∧
        state.bucket.index (idxKey lease.poolId) = none := by
  constructor
  · exact TransitionSystem.exists_reachable_of_run { } rfl
      (openJob "a" ++ [.refresh 1 "a", .call 1, .close 0 "a", .call 0, .call 0,
        .call 0, .call 0] ++ openJob "b" ++ [.call 1, .call 1])
      (by decide)
  · exact TransitionSystem.exists_reachable_of_run { } rfl
      (openJob "a" ++ [.close 1 "a", .call 1, .call 1,
        .expireIndex (idxKey (exampleJob "a").poolId)] ++ openJob "b" ++
        [.call 1])
      (by decide)

end Example

end ActiveJobs

end RoxabiFactory

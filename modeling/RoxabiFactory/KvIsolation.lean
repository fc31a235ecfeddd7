import RoxabiFactory.ActiveJobsKv

/-!
# Isolation of the identifiers in the key-value buckets

An identifier is found under its own key, and under the key of every identifier
that is confusable with it.  Over a set of identifiers the stores keep the
conversations apart exactly when no two of them are confusable.
-/

namespace RoxabiFactory

open Kv

namespace MessageIndex

/-- Sessions are resolved for the message that they were stored for, over all
sequences of events on a set of messages. -/
def Isolates (messages : Set (String × String)) : Prop :=
  ∀ events, Within messages events → ∀ message ∈ messages, ∀ sessionId,
    resolve (after events) message.1 message.2 = some sessionId →
      lastUpserted message.1 message.2 events = some sessionId

theorem isolates_iff {messages : Set (String × String)} : Isolates messages ↔
      ∀ first ∈ messages, ∀ second ∈ messages,
        Confusable (joined first.1 first.2) (joined second.1 second.2) →
          first = second := by
  constructor
  · intro isolates first firstMember second secondMember confusable
    by_contra different
    let events : List Event := [.upsert second.1 (some second.2) "other",
      .upsert first.1 (some first.2) "own"]
    have within : Within messages events := by
      intro poolId platformMsgId sessionId member
      simp only [events, List.mem_cons, Event.upsert.injEq, Option.some.injEq,
        List.not_mem_nil, or_false] at member
      rcases member with ⟨rfl, rfl, -⟩ | ⟨rfl, rfl, -⟩
      · exact secondMember
      · exact firstMember
    have last := isolates events within first firstMember "other" (resolve_of_confusable confusable)
    simp only [events, lastUpserted] at last
    split at last
    case isTrue same =>
      exact different (Prod.ext same.1.symm (Option.some.inj same.2).symm)
    case isFalse => simp at last
  · intro distinct events within message member sessionId resolved
    apply lastUpserted_of_stored _ within (stored_of_resolve resolved)
    exact fun other known confusable => distinct other known message member confusable

end MessageIndex

namespace ActiveJobs

variable {Task : Type} [DecidableEq Task]

/-- Only entries of the set are opened. -/
def OpensWithin (entries : Set ActiveJobEntry) (_ : State Task) : Action Task → Prop
  | .open _ entry => entry ∈ entries
  | _ => True

/-- What a call has in hand comes from an entry of the set. -/
def Phase.Traced (entries : Set ActiveJobEntry) : Phase → Prop
  | .openPut entry => entry ∈ entries
  | .openCreate entry | .openWinner entry =>
    entry ∈ entries ∧ entry.isSingleton = true
  | .refreshPutJob jobId entry =>
    entry ∈ entries ∧ Confusable jobId entry.jobId
  | .refreshPutIndex jobId entry =>
    entry ∈ entries ∧ Confusable jobId entry.jobId ∧ entry.isSingleton = true
  | _ => True

/-- Every key has been written for an entry of the set. -/
structure Bucket.Traced (entries : Set ActiveJobEntry) (bucket : Bucket) : Prop where
  jobs : ∀ key document, bucket.jobs key = some document → ∃ entry ∈ entries,
      key = jobKey entry.jobId ∧ document = entryToBytes entry
  index : ∀ key jobId, bucket.index key = some jobId → ∃ entry ∈ entries, entry.isSingleton = true ∧
      key = idxKey entry.poolId ∧ Confusable jobId entry.jobId

variable {entries : Set ActiveJobEntry} {bucket : Bucket}

theorem Bucket.Traced.putJob (traced : bucket.Traced entries) {jobId : String}
    {entry : ActiveJobEntry} (member : entry ∈ entries)
    (named : Confusable jobId entry.jobId) :
    (bucket.putJob jobId entry).Traced entries := by
  refine ⟨?_, traced.index⟩
  intro key document stored
  by_cases same : key = jobKey jobId
  · subst same
    simp only [Bucket.putJob, Function.update_self] at stored
    exact ⟨entry, member, jobKey_eq_iff.mpr named, (Option.some.inj stored).symm⟩
  · exact traced.jobs key document ((Function.update_of_ne same _ _).symm.trans stored)

theorem Bucket.Traced.putIndex (traced : bucket.Traced entries)
    {jobId : String} {entry : ActiveJobEntry} (member : entry ∈ entries)
    (singleton : entry.isSingleton = true)
    (named : Confusable jobId entry.jobId) :
    (bucket.putIndex entry.poolId jobId).Traced entries := by
  refine ⟨traced.jobs, ?_⟩
  intro key other stored
  by_cases same : key = idxKey entry.poolId
  · subst same
    simp only [Bucket.putIndex, Function.update_self, Option.some.injEq]
      at stored
    subst stored
    exact ⟨entry, member, singleton, rfl, named⟩
  · exact traced.index key other ((Function.update_of_ne same _ _).symm.trans stored)

theorem Bucket.Traced.removeJob (traced : bucket.Traced entries) (key : String) :
    Bucket.Traced entries { bucket with jobs := Function.update bucket.jobs key none } := by
  refine ⟨?_, traced.index⟩
  intro other document stored
  by_cases same : other = key
  · simp [same] at stored
  · exact traced.jobs other document ((Function.update_of_ne same _ _).symm.trans stored)

theorem Bucket.Traced.removeIndex (traced : bucket.Traced entries) (key : String) :
    Bucket.Traced entries { bucket with index := Function.update bucket.index key none } := by
  refine ⟨traced.jobs, ?_⟩
  intro other jobId stored
  by_cases same : other = key
  · simp [same] at stored
  · exact traced.index other jobId ((Function.update_of_ne same _ _).symm.trans stored)

/-- The entry that is found for a job is one of the set, and has a confusable
id. -/
theorem Bucket.Traced.getJob (traced : bucket.Traced entries) {jobId : String}
    {entry : ActiveJobEntry} (found : bucket.getJob jobId = .ok (some entry)) :
    entry ∈ entries ∧ Confusable jobId entry.jobId := by
  simp only [Bucket.getJob] at found
  cases stored : bucket.jobs (jobKey jobId) with
  | none => simp [stored] at found
  | some document =>
    obtain ⟨known, member, sameKey, rfl⟩ := traced.jobs _ _ stored
    simp only [stored, bytesToEntry_entryToBytes, Except.map,
      Except.ok.injEq, Option.some.injEq] at found
    subst found
    exact ⟨member, jobKey_eq_iff.mp sameKey⟩

theorem Bucket.Traced.effect (traced : bucket.Traced entries) {phase : Phase}
    (origin : phase.Traced entries) : (phase.effect bucket).Traced entries := by
  cases phase with
  | openPut entry => exact traced.putJob origin (.refl _)
  | openCreate entry =>
    simp only [Phase.effect]
    split
    · exact traced.putIndex origin.1 origin.2 (.refl _)
    · exact traced
  | refreshPutJob jobId entry => exact traced.putJob origin.1 origin.2
  | refreshPutIndex jobId entry =>
    exact traced.putIndex origin.1 origin.2.2 origin.2.1
  | closeDeleteIndex jobId entry => exact traced.removeIndex _
  | closeDelete jobId => exact traced.removeJob _
  | _ => exact traced

theorem Bucket.Traced.next (traced : bucket.Traced entries) {phase : Phase}
    (origin : phase.Traced entries) : (phase.next bucket).Traced entries := by
  cases phase with
  | openPut entry =>
    simp only [Phase.next]
    split
    case isTrue singleton => exact ⟨origin, singleton⟩
    case isFalse => trivial
  | openCreate entry =>
    simp only [Phase.next]
    split
    · trivial
    · exact origin
  | refreshGet jobId =>
    simp only [Phase.next]
    split
    case h_1 entry found => exact traced.getJob found
    case h_2 => trivial
  | refreshPutJob jobId entry =>
    simp only [Phase.next]
    split
    case isTrue singleton => exact ⟨origin.1, origin.2, singleton⟩
    case isFalse => trivial
  | _ =>
    simp only [Phase.next]
    repeat' split
    all_goals trivial

theorem traced_of_reachable {state : State Task}
    (reached : (system Task).ReachableWithin (OpensWithin entries) state) :
    state.bucket.Traced entries ∧ ∀ task, (state.phases task).Traced entries := by
  apply reached.invariant
  · rintro initial rfl
    exact ⟨⟨fun _ _ stored => (by cases stored),
      fun _ _ stored => (by cases stored)⟩, fun _ => trivial⟩
  · rintro before action after ⟨traced, phases⟩ within stepTo
    have resumes : ∀ task (phase : Phase), phase.Traced entries → ∀ other,
        (Function.update before.phases task phase other).Traced entries := by
      intro task phase origin other
      by_cases same : other = task
      · rw [same, Function.update_self]
        exact origin
      · rw [Function.update_of_ne same]
        exact phases other
    have begins : ∀ (leases : List Lease) task (phase : Phase), phase.Traced entries →
          State.begin { before with leases := leases } task phase =
            some after →
          after.bucket.Traced entries ∧ ∀ task, (after.phases task).Traced entries := by
      intro leases task phase origin started
      unfold State.begin at started
      split at started
      · obtain rfl := Option.some.inj started
        exact ⟨traced, resumes task phase origin⟩
      · cases started
    cases action with
    | «open» task entry =>
      exact begins before.leases task (.openPut entry) within stepTo
    | refresh task jobId =>
      exact begins before.leases task (.refreshGet jobId) trivial stepTo
    | close task jobId =>
      exact begins _ task (.closeGet jobId) trivial stepTo
    | call task =>
      simp only [system, State.step] at stepTo
      split at stepTo
      · cases stepTo
      · obtain rfl := Option.some.inj stepTo
        exact ⟨traced.effect (phases task), resumes task _ (traced.next (phases task))⟩
    | fail task stored =>
      simp only [system, State.step] at stepTo
      split at stepTo
      · cases stepTo
      · split at stepTo
        · obtain rfl := Option.some.inj stepTo
          exact ⟨traced.effect (phases task), resumes task .idle trivial⟩
        · obtain rfl := Option.some.inj stepTo
          exact ⟨traced, resumes task .idle trivial⟩
    | expireJob key =>
      obtain rfl := Option.some.inj stepTo
      exact ⟨traced.removeJob key, phases⟩
    | expireIndex key =>
      obtain rfl := Option.some.inj stepTo
      exact ⟨traced.removeIndex key, phases⟩

/-- `get_by_pool` returns only entries of the pool that it is asked for, in all
runs in which entries of the set are opened. -/
def Isolates (entries : Set ActiveJobEntry) (pools : Set String) : Prop :=
  ∀ state later : State Nat, (system Nat).ReachableWithin (OpensWithin entries) state →
      (system Nat).ReachableWithin (OpensWithin entries) later → ∀ poolId ∈ pools, ∀ entry,
          state.bucket.getByPool later.bucket poolId = .ok (some entry) → entry.poolId = poolId

/-- The job that the index names comes from an entry whose pool is confusable
with the one that is asked for. -/
theorem Bucket.Traced.getByPool {later : Bucket} {poolId : String}
    {entry : ActiveJobEntry} (traced : bucket.Traced entries)
    (laterTraced : later.Traced entries)
    (found : bucket.getByPool later poolId = .ok (some entry)) :
    entry ∈ entries ∧ ∃ first ∈ entries, first.isSingleton = true ∧
      first.jobId ≠ "" ∧ Confusable first.jobId entry.jobId ∧
        Confusable first.poolId poolId := by
  simp only [Bucket.getByPool] at found
  cases stored : bucket.index (idxKey poolId) with
  | none => simp [stored] at found
  | some jobId =>
    obtain ⟨first, member, singleton, sameKey, named⟩ := traced.index _ _ stored
    simp only [stored] at found
    split at found
    case isTrue => cases found
    case isFalse proper =>
      obtain ⟨entryMember, entryNamed⟩ := laterTraced.getJob found
      refine ⟨entryMember, first, member, singleton, ?_,
        named.symm.trans entryNamed, (idxKey_eq_iff.mp sameKey).symm⟩
      intro empty
      rw [empty] at named
      exact proper named.eq_empty

/-- One client opens an entry, and another one writes an entry for a job with a
confusable id. -/
theorem exists_getByPool_of_confusable {first second : ActiveJobEntry}
    (firstMember : first ∈ entries) (secondMember : second ∈ entries)
    (singleton : first.isSingleton = true) (proper : first.jobId ≠ "")
    (sameJob : Confusable first.jobId second.jobId) {poolId : String}
    (samePool : Confusable first.poolId poolId) :
    ∃ state : State Nat, (system Nat).ReachableWithin (OpensWithin entries) state ∧
        state.bucket.getByPool state.bucket poolId = .ok (some second) := by
  let bucket : Bucket := ((Bucket.putJob { } first.jobId first).putIndex first.poolId
      first.jobId).putJob second.jobId second
  let actions : List (Action Nat) := [.open 0 first, .call 0, .call 0, .open 1 second, .call 1]
  have run : ∃ state, (system Nat).run { } actions = some state ∧ state.bucket = bucket := by
    simp only [actions, TransitionSystem.run, system, State.step, State.begin,
      State.resume, State.perform, Phase.isFree, Phase.next, Phase.effect,
      singleton, Bucket.putJob, Function.update_self,
      Function.update_of_ne Nat.one_ne_zero, if_true, if_false,
      Option.bind_some, Option.isNone_none, Bool.false_eq_true,
      Option.some.injEq, exists_eq_left']
    rfl
  obtain ⟨state, runs, same⟩ := run
  have reached : (system Nat).ReachableWithin (OpensWithin entries) state := by
    refine TransitionSystem.ReachableWithin.of_run (.start rfl) actions ?_ runs
    intro action member before
    simp only [actions, List.mem_cons, List.not_mem_nil, or_false] at member
    rcases member with rfl | rfl | rfl | rfl | rfl
    · exact firstMember
    · trivial
    · trivial
    · exact secondMember
    · trivial
  refine ⟨state, reached, ?_⟩
  have owner : bucket.index (idxKey poolId) = some first.jobId := by
    rw [← idxKey_eq_iff.mpr samePool]
    exact Function.update_self _ _ _
  have stored : bucket.jobs (jobKey first.jobId) =
      some (entryToBytes second) := by
    rw [jobKey_eq_iff.mpr sameJob]
    exact Function.update_self _ _ _
  rw [same]
  simp only [Bucket.getByPool, owner, if_neg proper, Bucket.getJob, stored,
    bytesToEntry_entryToBytes]
  rfl

/-- The registry keeps the pools apart exactly when two entries whose ids are
confusable are of the pool that the first of them, or a pool confusable with
its own, is asked for. -/
theorem isolates_iff {pools : Set String} : Isolates entries pools ↔
      ∀ first ∈ entries, first.isSingleton = true → first.jobId ≠ "" →
        ∀ second ∈ entries, Confusable first.jobId second.jobId →
          ∀ poolId ∈ pools, Confusable first.poolId poolId → second.poolId = poolId := by
  constructor
  · intro isolates first firstMember singleton proper second secondMember
      sameJob poolId poolMember samePool
    obtain ⟨state, reached, found⟩ := exists_getByPool_of_confusable
      firstMember secondMember singleton proper sameJob samePool
    exact isolates state state reached reached poolId poolMember second found
  · intro apart state later reached laterReached poolId poolMember entry found
    obtain ⟨member, first, firstMember, singleton, proper, sameJob, samePool⟩ :=
      (traced_of_reachable reached).1.getByPool (traced_of_reachable laterReached).1 found
    exact apart first firstMember singleton proper entry member sameJob poolId poolMember samePool

end ActiveJobs

/-- Keys are shared by confusable texts only, and by all of them; the index of
messages and the registry of jobs keep the conversations of a set of
identifiers apart exactly when they are not confusable. -/
theorem isolated_iff (poolId platformMsgId otherPool otherMsg : String)
    (messages : Set (String × String)) (entries : Set ActiveJobs.ActiveJobEntry)
    (pools : Set String) :
    (MessageIndex.key poolId platformMsgId = MessageIndex.key otherPool otherMsg ↔
        Confusable (poolId ++ "=" ++ platformMsgId) (otherPool ++ "=" ++ otherMsg)) ∧
    (ActiveJobs.idxKey poolId = ActiveJobs.idxKey otherPool ↔ Confusable poolId otherPool) ∧
    (MessageIndex.Isolates messages ↔
        ∀ first ∈ messages, ∀ second ∈ messages,
          Confusable (first.1 ++ "=" ++ first.2) (second.1 ++ "=" ++ second.2) →
            first = second) ∧
    (ActiveJobs.Isolates entries pools ↔
        ∀ first ∈ entries, first.isSingleton = true → first.jobId ≠ "" →
          ∀ second ∈ entries, Confusable first.jobId second.jobId →
            ∀ pool ∈ pools, Confusable first.poolId pool → second.poolId = pool) :=
  ⟨MessageIndex.key_eq_iff, ActiveJobs.idxKey_eq_iff, MessageIndex.isolates_iff,
    ActiveJobs.isolates_iff⟩

section Example

theorem sampleTime_valid : TimeFields.Valid
    { year := 2026, month := 3, day := 2, offset := some 0 } := by
  decide

def sampleJob : ActiveJobs.ActiveJobEntry where
  jobId := "a"
  poolId := "telegram:lyra:1"
  status := "open"
  startedAt := ⟨_, sampleTime_valid⟩
  steerSubject := "factory.job.steer"
  concurrencyMode := "queue"

def openSample : List (ActiveJobs.Action (Fin 1)) := [.open 0 sampleJob, .call 0, .call 0]

/-- A message of another pool takes the place of a message in the index, two
messages have one text when their parts are joined, and the job of a pool is
returned for another one. -/
theorem exists_shared_keys : (∃ events,
      MessageIndex.resolve (MessageIndex.after events) "telegram:lyra:1" "7" = some "other" ∧
        MessageIndex.lastUpserted "telegram:lyra:1" "7" events = some "own") ∧
    MessageIndex.key "telegram:lyra:1=7" "8" = MessageIndex.key "telegram:lyra:1" "7=8" ∧
    ∃ state : ActiveJobs.State (Fin 1), (ActiveJobs.system (Fin 1)).Reachable state ∧
        (state.bucket.getByPool state.bucket "telegram:lyra_1").toOption =
          some (some sampleJob) := by
  refine ⟨⟨[.upsert "telegram_lyra:1" (some "7") "other",
    .upsert "telegram:lyra:1" (some "7") "own"], by decide +kernel,
    by decide +kernel⟩, by decide +kernel, ?_⟩
  exact TransitionSystem.exists_reachable_of_run { } rfl openSample (by decide +kernel)

end Example

end RoxabiFactory

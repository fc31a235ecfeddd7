import RoxabiFactory.BlobManifest

/-!
# The steps of the tasks of the blob store

A step changes the phase of one task.  A `put` keeps its content, and a sweep
goes through the references of its snapshot: it lets an id go when no
reference has it any more.
-/

namespace RoxabiFactory

namespace FsBlobStore

/-- The content that a task puts. -/
def Phase.putting : Phase → Option Bytes
  | .acquire (.put request) | .putLookup request _ | .putWrite request _
  | .putInsertBlob request _ | .putReread request _ | .putInsertRef request _ _
  | .putCommit request _ _ _ => some request.data
  | _ => none

/-- The sweep of a deletion, with the ids that are still to be deleted. -/
def Delete.pending (job : Delete) (current : List Nat) : Option (Sweep × List Nat) :=
  job.sweep.map fun sweep => (sweep, current ++ sweep.staleIds)

/-- The sweep that a task runs, with the ids that are still to be deleted. -/
def Phase.sweeping : Phase → Option (Sweep × List Nat)
  | .sweepProbe sweep blobRefId | .sweepCount sweep blobRefId _ =>
    some (sweep, blobRefId :: sweep.staleIds)
  | .acquire (.delete job) | .deleteSelect job | .deleteRef job _ =>
    job.pending [job.blobRefId]
  | .deleteCount job _ | .deleteBlob job _ | .deleteCommit job _ _
  | .deleteUnlink job _ => job.pending []
  | _ => none

/-- The sweep of a task after a step, which may have returned. -/
def sweepAfter (next : Phase) (result : Option Result) : Option (Sweep × List Nat) :=
  match result with
  | some (.swept _ _ sweep) => some (sweep, [])
  | _ => next.sweeping

@[simp]
theorem sweepAfter_none (next : Phase) : sweepAfter next none = next.sweeping := rfl

theorem Sweep.sweepAfter_next (sweep : Sweep) : sweepAfter sweep.next.1 sweep.next.2 =
      some ({ sweep with staleIds := sweep.staleIds.tail }, sweep.staleIds) := by
  cases remaining : sweep.staleIds with
  | nil =>
    simp only [Sweep.next, remaining, sweepAfter, List.tail_nil]
    rw [← remaining]
  | cons blobRefId rest =>
    simp [Sweep.next, remaining, sweepAfter, Phase.sweeping]

/-- What stays of a sweep from one step to the next. -/
structure Sweep.Same (before after : Sweep) : Prop where
  cutoff : after.cutoff = before.cutoff
  excludeSources : after.excludeSources = before.excludeSources
  seen : after.seen = before.seen

/-- The sweep lets go of ids that no reference has, and what it has removed
is the reference of an id that it still had. -/
structure Sweep.Goes (working workingAfter : Manifest) (before : Sweep)
    (earlier : List Nat) (after : Sweep) (pending : List Nat) : Prop where
  same : before.Same after
  removed : ∀ row ∈ after.removed, row ∈ before.removed ∨ row ∈ working.refs ∧ row.id ∈ earlier
  kept : ∀ blobRefId ∈ pending, blobRefId ∈ earlier
  gone : ∀ blobRefId ∈ earlier, blobRefId ∈ pending ∨ ∀ row ∈ workingAfter.refs, row.id ≠ blobRefId

structure Sweep.Starts (working : Manifest) (sweep : Sweep) (pending : List Nat) : Prop where
  seen : sweep.seen = working.refs
  removed : sweep.removed = []
  stale : pending = (working.refs.filter
    (Manifest.isStale sweep.cutoff.val.isoformat sweep.excludeSources)).map (·.id)

theorem Sweep.Goes.refl (working workingAfter : Manifest) (sweep : Sweep) (pending : List Nat) :
    Sweep.Goes working workingAfter sweep pending sweep pending :=
  ⟨⟨rfl, rfl, rfl⟩, fun _ member => .inl member, fun _ member => member,
    fun _ member => .inl member⟩

/-- The references that a step adds have new ids. -/
structure Manifest.RefsGrow (before after : Manifest) : Prop where
  sequence : before.sequence ≤ after.sequence
  refs : ∀ row ∈ after.refs, row ∈ before.refs ∨ before.sequence < row.id

theorem Manifest.RefsGrow.refl (manifest : Manifest) : manifest.RefsGrow manifest :=
  ⟨Nat.le_refl _, fun _ member => .inl member⟩

structure TaskStep (state after : State) (result : Option Result) (task : Nat)
    (next : Phase) : Prop where
  phases : after.phases = Function.update state.phases task next
  ends : ∀ value, result = some value → next = .idle
  contents : ∀ data ∈ state.contents, data ∈ after.contents
  putting : ∀ data, next.putting = some data →
    (state.phases task).putting = some data ∨ data ∈ after.contents
  refs : state.working.RefsGrow after.working
  sweeping : ∀ sweep pending, sweepAfter next result = some (sweep, pending) → (∃ before earlier,
      (state.phases task).sweeping = some (before, earlier) ∧
        Sweep.Goes state.working after.working before earlier sweep pending) ∨
      Sweep.Starts state.working sweep pending

theorem TaskStep.unswept {state after : State} {result : Option Result} {task : Nat} {next : Phase}
    (phases : after.phases = Function.update state.phases task next)
    (ends : ∀ value, result = some value → next = .idle)
    (contents : ∀ data ∈ state.contents, data ∈ after.contents)
    (putting : ∀ data, next.putting = some data →
      (state.phases task).putting = some data ∨ data ∈ after.contents)
    (refs : state.working.RefsGrow after.working)
    (none : sweepAfter next result = none) :
    TaskStep state after result task next := by
  refine ⟨phases, ends, contents, putting, refs, ?_⟩
  intro sweep pending sweeps
  simp [none] at sweeps

theorem TaskStep.keeping {state after : State} {task : Nat} {next : Phase}
    (phases : after.phases = Function.update state.phases task next)
    (contents : after.contents = state.contents)
    (putting : next.putting = none)
    (refs : state.working.RefsGrow after.working)
    (same : next.sweeping = (state.phases task).sweeping) :
    TaskStep state after none task next := by
  refine ⟨phases, by rintro value ⟨⟩, ?_, ?_, refs, ?_⟩
  · rw [contents]
    exact fun _ member => member
  · intro data puts
    simp [putting] at puts
  · intro sweep pending sweeps
    exact .inl ⟨sweep, pending, same ▸ sweeps, .refl _ _ _ _⟩

@[simp]
theorem Sweep.putting_next (sweep : Sweep) : sweep.next.1.putting = none := by
  cases remaining : sweep.staleIds <;>
    simp [Sweep.next, remaining, Phase.putting]

@[simp]
theorem Delete.putting_return (job : Delete) : job.return.1.putting = none := by
  cases calledBy : job.sweep with
  | none => simp [Delete.return, calledBy, Phase.putting]
  | some sweep => rw [Delete.return, calledBy, Sweep.putting_next]

theorem Delete.sweepAfter_return (job : Delete) :
    sweepAfter job.return.1 job.return.2 = job.sweep.map fun sweep =>
      ({ sweep.counted with staleIds := sweep.staleIds.tail },
        sweep.staleIds) := by
  cases calledBy : job.sweep with
  | none => simp [Delete.return, calledBy, sweepAfter, Phase.sweeping]
  | some sweep =>
    rw [Delete.return, calledBy, Sweep.sweepAfter_next]
    rfl

theorem Sweep.ends_next (sweep : Sweep) {value : Result}
    (returns : sweep.next.2 = some value) : sweep.next.1 = .idle := by
  cases remaining : sweep.staleIds with
  | nil => simp [Sweep.next, remaining]
  | cons blobRefId rest => simp [Sweep.next, remaining] at returns

theorem Delete.ends_return (job : Delete) {value : Result}
    (returns : job.return.2 = some value) : job.return.1 = .idle := by
  cases calledBy : job.sweep with
  | none => simp [Delete.return, calledBy]
  | some sweep =>
    simp only [Delete.return, calledBy] at returns ⊢
    exact Sweep.ends_next _ returns

theorem TaskStep.returning {state after : State} {task : Nat} {job : Delete} {current : List Nat}
    (phases : after.phases = Function.update state.phases task job.return.1)
    (contents : after.contents = state.contents)
    (refs : state.working.RefsGrow after.working)
    (runs : (state.phases task).sweeping = job.pending current)
    (gone : ∀ blobRefId ∈ current, ∀ row ∈ after.working.refs, row.id ≠ blobRefId) :
    TaskStep state after job.return.2 task job.return.1 := by
  refine ⟨phases, fun _ => job.ends_return, ?_, ?_, refs, ?_⟩
  · rw [contents]
    exact fun _ member => member
  · intro data puts
    simp at puts
  · intro sweep pending sweeps
    rw [Delete.sweepAfter_return] at sweeps
    obtain ⟨before, calledBy, same⟩ := Option.map_eq_some_iff.mp sweeps
    obtain ⟨rfl, rfl⟩ := Prod.mk.inj same
    refine .inl ⟨before, current ++ before.staleIds, ?_, ?_⟩
    · rw [runs, Delete.pending, calledBy]
      rfl
    · refine ⟨⟨rfl, rfl, rfl⟩, fun _ member => .inl member, ?_, ?_⟩
      · exact fun _ member => List.mem_append_right _ member
      · intro blobRefId member
        rcases List.mem_append.mp member with deleted | later
        · exact .inr (gone blobRefId deleted)
        · exact .inl later

theorem Manifest.RefsGrow.insertRef (manifest : Manifest) (row : RefRow) :
    manifest.RefsGrow (manifest.insertRef row) := by
  constructor
  · simp [Manifest.insertRef]
  · intro other member
    rcases List.mem_append.mp member with known | new
    · exact .inl known
    · obtain rfl := List.mem_singleton.mp new
      exact .inr (Nat.lt_succ_self _)

theorem Manifest.RefsGrow.deleteRef (manifest : Manifest) (blobRefId : Nat) :
    manifest.RefsGrow (manifest.deleteRef blobRefId) :=
  ⟨Nat.le_refl _, fun _ member => .inl (List.mem_of_mem_filter member)⟩

theorem Manifest.RefsGrow.of_refs {before after : Manifest}
    (refs : after.refs = before.refs) (sequence : after.sequence = before.sequence) :
    before.RefsGrow after :=
  ⟨sequence ▸ Nat.le_refl _, fun _ member => .inl (refs ▸ member)⟩

theorem Manifest.RefsGrow.insertBlob (manifest : Manifest) (row : BlobRow) :
    manifest.RefsGrow (manifest.insertBlob row) := by
  simp only [Manifest.insertBlob]
  split
  · exact .refl manifest
  · exact .of_refs rfl rfl

variable {store : FsBlobStore}

/-- A reference without its row is not in a well-formed manifest, so a
deletion that finds nothing has an id that is gone. -/
theorem gone_of_joined {manifest : Manifest}
    (wellFormed : manifest.WellFormed store) {blobRefId : Nat}
    (absent : manifest.joined blobRefId = none) :
    ∀ row ∈ manifest.refs, row.id ≠ blobRefId := by
  intro row member same
  obtain ⟨blob, stored, named⟩ := wellFormed.stored row member
  have found := wellFormed.findRef_eq member
  have lookup := wellFormed.lookupExisting_eq stored
  rw [named] at lookup
  rw [same] at found
  simp [Manifest.joined, found, lookup] at absent

theorem query_task {state after : State} {task : Nat} {result : Option Result}
    (wellFormed : state.working.WellFormed store)
    (stepTo : store.query state task = some (after, result)) :
    ∃ next, TaskStep state after result task next := by
  have same : ∀ data ∈ state.contents, data ∈ state.contents :=
    fun _ member => member
  cases runs : state.phases task with
  | idle => simp [query, runs] at stepTo
  | acquire job => simp [query, runs] at stepTo
  | putWrite request now => simp [query, runs] at stepTo
  | deleteUnlink job blob => simp [query, runs] at stepTo
  | putLookup request now =>
    simp only [query, runs] at stepTo
    split at stepTo <;> obtain ⟨rfl, rfl⟩ := Prod.mk.inj (Option.some.inj stepTo)
    all_goals
      exact ⟨_, .unswept rfl (by rintro value ⟨⟩) same
        (fun data puts => .inl (runs ▸ puts)) (.refl _) rfl⟩
  | putInsertBlob request now =>
    simp only [query, runs] at stepTo
    obtain ⟨rfl, rfl⟩ := Prod.mk.inj (Option.some.inj stepTo)
    exact ⟨_, .unswept rfl (by rintro value ⟨⟩) same
      (fun data puts => .inl (runs ▸ puts)) (.insertBlob _ _) rfl⟩
  | putReread request now =>
    simp only [query, runs] at stepTo
    obtain ⟨rfl, rfl⟩ := Prod.mk.inj (Option.some.inj stepTo)
    exact ⟨_, .unswept rfl (by rintro value ⟨⟩) same
      (fun data puts => .inl (runs ▸ puts)) (.refl _) rfl⟩
  | putInsertRef request now stored =>
    simp only [query, runs] at stepTo
    obtain ⟨rfl, rfl⟩ := Prod.mk.inj (Option.some.inj stepTo)
    exact ⟨_, .unswept rfl (by rintro value ⟨⟩) same
      (fun data puts => .inl (runs ▸ puts)) (.insertRef _ _) rfl⟩
  | putCommit request now stored id =>
    simp only [query, runs] at stepTo
    obtain ⟨rfl, rfl⟩ := Prod.mk.inj (Option.some.inj stepTo)
    exact ⟨.idle, .unswept rfl (fun _ _ => rfl) same (by rintro data ⟨⟩)
      (.refl _) rfl⟩
  | existsSelect contentHash =>
    simp only [query, runs] at stepTo
    obtain ⟨rfl, rfl⟩ := Prod.mk.inj (Option.some.inj stepTo)
    refine ⟨.idle, .unswept rfl (fun _ _ => rfl) same (by rintro data ⟨⟩)
      (.refl _) ?_⟩
    split
    · rfl
    · simp only [existsRef]
      split <;> rfl
  | deleteSelect job =>
    simp only [query, runs] at stepTo
    cases found : state.working.joined job.blobRefId with
    | none =>
      simp only [found] at stepTo
      obtain ⟨rfl, rfl⟩ := Prod.mk.inj (Option.some.inj stepTo)
      refine ⟨_, @TaskStep.returning state _ task job [job.blobRefId] rfl rfl
        (.refl _) (by rw [runs, Phase.sweeping]) ?_⟩
      intro blobRefId member
      obtain rfl := List.mem_singleton.mp member
      exact gone_of_joined wellFormed found
    | some joined =>
      simp only [found] at stepTo
      obtain ⟨rfl, rfl⟩ := Prod.mk.inj (Option.some.inj stepTo)
      exact ⟨_, .keeping rfl rfl rfl (.refl _) (by rw [runs]; rfl)⟩
  | deleteRef job blob =>
    simp only [query, runs] at stepTo
    obtain ⟨rfl, rfl⟩ := Prod.mk.inj (Option.some.inj stepTo)
    refine ⟨_, rfl, by rintro value ⟨⟩, same, by rintro data ⟨⟩,
      .deleteRef _ _, ?_⟩
    intro sweep pending sweeps
    rw [runs]
    simp only [sweepAfter_none, Phase.sweeping, Delete.pending, Delete.removing,
      Option.map_map, Option.map_eq_some_iff, Function.comp_apply,
      List.nil_append, Prod.mk.injEq] at sweeps
    obtain ⟨before, calledBy, rfl, rfl⟩ := sweeps
    refine .inl ⟨before, job.blobRefId :: before.staleIds, ?_, ⟨rfl, rfl, rfl⟩, ?_, ?_, ?_⟩
    · simp [Phase.sweeping, Delete.pending, calledBy]
    · intro row member
      rcases List.mem_append.mp member with earlier | removed
      · exact .inl earlier
      · obtain ⟨present, current⟩ := List.mem_filter.mp removed
        exact .inr ⟨present, by simp [of_decide_eq_true current]⟩
    · exact fun _ member => List.mem_cons_of_mem _ member
    · intro blobRefId member
      rcases List.mem_cons.mp member with rfl | later
      · refine .inr fun row present => ?_
        simpa using (List.mem_filter.mp present).2
      · exact .inl later
  | deleteCount job blob =>
    simp only [query, runs] at stepTo
    split at stepTo <;> obtain ⟨rfl, rfl⟩ := Prod.mk.inj (Option.some.inj stepTo)
    all_goals
      exact ⟨_, .keeping rfl rfl rfl (.refl _) (by rw [runs]; rfl)⟩
  | deleteBlob job blob =>
    simp only [query, runs] at stepTo
    obtain ⟨rfl, rfl⟩ := Prod.mk.inj (Option.some.inj stepTo)
    exact ⟨_, .keeping rfl rfl rfl (.of_refs rfl rfl) (by rw [runs]; rfl)⟩
  | deleteCommit job blob dropFile =>
    cases dropFile with
    | true =>
      simp only [query, runs] at stepTo
      obtain ⟨rfl, rfl⟩ := Prod.mk.inj (Option.some.inj stepTo)
      exact ⟨_, .keeping rfl rfl rfl (.refl _) (by rw [runs]; rfl)⟩
    | false =>
      simp only [query, runs] at stepTo
      obtain ⟨rfl, rfl⟩ := Prod.mk.inj (Option.some.inj stepTo)
      exact ⟨_, @TaskStep.returning state _ task job [] rfl rfl (.refl _)
        (by rw [runs, Phase.sweeping]) (by simp)⟩
  | sweepSelect cutoff excludeSources =>
    simp only [query, runs] at stepTo
    obtain ⟨rfl, rfl⟩ := Prod.mk.inj (Option.some.inj stepTo)
    refine ⟨_, rfl, fun _ => Sweep.ends_next _, same, by simp, .refl _, ?_⟩
    intro sweep pending sweeps
    rw [Sweep.sweepAfter_next] at sweeps
    obtain ⟨rfl, rfl⟩ := Prod.mk.inj (Option.some.inj sweeps)
    exact .inr ⟨rfl, rfl, rfl⟩
  | sweepProbe sweep blobRefId =>
    simp only [query, runs] at stepTo
    cases found : state.working.findRef blobRefId with
    | none =>
      simp only [found] at stepTo
      obtain ⟨rfl, rfl⟩ := Prod.mk.inj (Option.some.inj stepTo)
      refine ⟨_, rfl, fun _ => Sweep.ends_next _, same, by simp, .refl _, ?_⟩
      intro later pending sweeps
      rw [Sweep.sweepAfter_next] at sweeps
      obtain ⟨rfl, rfl⟩ := Prod.mk.inj (Option.some.inj sweeps)
      refine .inl ⟨sweep, blobRefId :: sweep.staleIds, by rw [runs]; rfl,
        ⟨rfl, rfl, rfl⟩, fun _ member => .inl member,
        fun _ member => List.mem_cons_of_mem _ member, ?_⟩
      intro other member
      rcases List.mem_cons.mp member with rfl | rest
      · exact .inr (Manifest.findRef_eq_none_iff.mp found)
      · exact .inl rest
    | some row =>
      simp only [found] at stepTo
      obtain ⟨rfl, rfl⟩ := Prod.mk.inj (Option.some.inj stepTo)
      exact ⟨_, .keeping rfl rfl rfl (.refl _) (by rw [runs]; rfl)⟩
  | sweepCount sweep blobRefId contentHash =>
    simp only [query, runs] at stepTo
    obtain ⟨rfl, rfl⟩ := Prod.mk.inj (Option.some.inj stepTo)
    refine ⟨_, rfl, by rintro value ⟨⟩, same, by rintro data ⟨⟩, .refl _, ?_⟩
    intro later pending sweeps
    simp only [sweepAfter_none, Phase.sweeping, Delete.pending, Option.map_some,
      Option.some.injEq, Prod.mk.injEq] at sweeps
    obtain ⟨rfl, rfl⟩ := sweeps
    exact .inl ⟨sweep, blobRefId :: sweep.staleIds, by rw [runs]; rfl,
      ⟨rfl, rfl, rfl⟩, fun _ member => .inl member, fun _ member => member,
      fun _ member => .inl member⟩

/-- The process goes on. -/
def Action.Continues : Action → Prop
  | .stop | .stopInWrite .. => False
  | _ => True

theorem TaskStep.call {state : State} {task : Nat} {next : Phase}
    (putting : next.putting = none) (unswept : next.sweeping = none) :
    TaskStep state (state.enter task next) none task next := by
  refine .unswept rfl (by rintro value ⟨⟩) (fun _ member => member) ?_
    (.refl _) unswept
  intro data puts
  simp [putting] at puts

theorem advance_task {state after : State} {action : Action}
    {result : Option Result} (wellFormed : state.working.WellFormed store)
    (continues : action.Continues)
    (stepTo : store.advance state action = some (after, result)) :
    ∃ task next, TaskStep state after result task next := by
  have same : ∀ data ∈ state.contents, data ∈ state.contents :=
    fun _ member => member
  cases action with
  | put task request =>
    cases runs : state.phases task <;> simp only [advance, runs] at stepTo
    case idle =>
      simp only [callPut] at stepTo
      split at stepTo
      · obtain ⟨rfl, rfl⟩ := Prod.mk.inj (Option.some.inj stepTo)
        refine ⟨task, .idle, .unswept ?_ (fun _ _ => rfl) same (by rintro data ⟨⟩) (.refl _) rfl⟩
        rw [← runs, Function.update_eq_self]
      · obtain ⟨rfl, rfl⟩ := Prod.mk.inj (Option.some.inj stepTo)
        refine ⟨task, _, .unswept rfl (by rintro value ⟨⟩) ?_ ?_ (.refl _)
          rfl⟩
        · exact fun _ member => List.mem_append_left _ member
        · intro data puts
          obtain rfl := Option.some.inj puts
          exact .inr (by simp)
    all_goals cases stepTo
  | «exists» task contentHash =>
    cases runs : state.phases task <;> simp only [advance, runs] at stepTo
    case idle =>
      obtain ⟨rfl, rfl⟩ := Prod.mk.inj (Option.some.inj stepTo)
      exact ⟨task, _, .call rfl rfl⟩
    all_goals cases stepTo
  | delete task blobRefId =>
    cases runs : state.phases task <;> simp only [advance, runs] at stepTo
    case idle =>
      obtain ⟨rfl, rfl⟩ := Prod.mk.inj (Option.some.inj stepTo)
      exact ⟨task, _, .call rfl rfl⟩
    all_goals cases stepTo
  | sweepOlderThan task cutoff excludeSources =>
    cases runs : state.phases task <;> simp only [advance, runs] at stepTo
    case idle =>
      obtain ⟨rfl, rfl⟩ := Prod.mk.inj (Option.some.inj stepTo)
      exact ⟨task, _, .call rfl rfl⟩
    all_goals cases stepTo
  | acquire task now =>
    cases locked : state.locked with
    | some other => simp [advance, locked] at stepTo
    | none =>
      cases runs : state.phases task <;>
        simp only [advance, locked, runs] at stepTo
      case acquire job =>
        obtain ⟨rfl, rfl⟩ := Prod.mk.inj (Option.some.inj stepTo)
        cases job with
        | put request =>
          exact ⟨task, _, .unswept rfl (by rintro value ⟨⟩) same
            (fun data puts => .inl (runs ▸ puts)) (.refl _) rfl⟩
        | «exists» contentHash =>
          exact ⟨task, _, .unswept rfl (by rintro value ⟨⟩) same
            (by rintro data ⟨⟩) (.refl _) rfl⟩
        | delete job =>
          exact ⟨task, _, .keeping rfl rfl rfl (.refl _) (by rw [runs]; rfl)⟩
      all_goals cases stepTo
  | query task => exact ⟨task, query_task wellFormed stepTo⟩
  | writeFile task answers =>
    cases runs : state.phases task <;> simp only [advance, runs] at stepTo
    case putWrite request now =>
      split at stepTo
      · obtain ⟨rfl, rfl⟩ := Prod.mk.inj (Option.some.inj stepTo)
        exact ⟨task, _, .unswept rfl (by rintro value ⟨⟩) same
          (fun data puts => .inl (runs ▸ puts)) (.refl _) rfl⟩
      · obtain ⟨rfl, rfl⟩ := Prod.mk.inj (Option.some.inj stepTo)
        exact ⟨task, .idle, .unswept rfl (fun _ _ => rfl) same (by rintro data ⟨⟩) (.refl _) rfl⟩
    all_goals cases stepTo
  | unlinkFile task answer =>
    cases runs : state.phases task <;> simp only [advance, runs] at stepTo
    case deleteUnlink job blob =>
      have sweeping : (state.phases task).sweeping = job.pending [] := by
        rw [runs, Phase.sweeping]
      split at stepTo
      · obtain ⟨rfl, rfl⟩ := Prod.mk.inj (Option.some.inj stepTo)
        exact ⟨task, _, .returning rfl rfl (.refl _) sweeping (by simp)⟩
      · obtain ⟨rfl, rfl⟩ := Prod.mk.inj (Option.some.inj stepTo)
        exact ⟨task, _, .returning rfl rfl (.refl _) sweeping (by simp)⟩
      · obtain ⟨rfl, rfl⟩ := Prod.mk.inj (Option.some.inj stepTo)
        exact ⟨task, .idle, .unswept rfl (fun _ _ => rfl) same (by rintro data ⟨⟩) (.refl _) rfl⟩
    all_goals cases stepTo
  | stop => exact continues.elim
  | stopInWrite task answers calls => exact continues.elim

theorem advance_stopped {state after : State} {action : Action}
    {result : Option Result} (stops : ¬ action.Continues)
    (stepTo : store.advance state action = some (after, result)) :
    after.phases = (fun _ => .idle) ∧ after.contents = state.contents ∧ result = none := by
  cases action with
  | stop =>
    obtain ⟨rfl, rfl⟩ := Prod.mk.inj (Option.some.inj stepTo)
    exact ⟨rfl, rfl, rfl⟩
  | stopInWrite task answers calls =>
    cases runs : state.phases task <;> simp only [advance, runs] at stepTo
    case putWrite request now =>
      obtain ⟨rfl, rfl⟩ := Prod.mk.inj (Option.some.inj stepTo)
      exact ⟨rfl, rfl, rfl⟩
    all_goals cases stepTo
  | _ => exact absurd trivial stops

theorem query_contents {state after : State} {task : Nat} {result : Option Result}
    (stepTo : store.query state task = some (after, result)) :
    after.contents = state.contents := by
  cases runs : state.phases task with
  | deleteCommit job blob dropFile =>
    cases dropFile <;> simp only [query, runs] at stepTo <;>
      obtain ⟨rfl, -⟩ := Prod.mk.inj (Option.some.inj stepTo) <;> rfl
  | _ =>
    simp only [query, runs] at stepTo
    try split at stepTo
    all_goals
      first
      | cases stepTo; done
      | obtain ⟨rfl, -⟩ := Prod.mk.inj (Option.some.inj stepTo); rfl

/-- Only `put` adds a content. -/
theorem advance_contents {state after : State} {action : Action} {result : Option Result}
    (stepTo : store.advance state action = some (after, result)) :
    after.contents = state.contents ∨ ∃ task request, action = .put task request ∧
        after.contents = state.contents ++ [request.data] := by
  cases action with
  | put task request =>
    cases runs : state.phases task <;> simp only [advance, runs] at stepTo
    case idle =>
      simp only [callPut] at stepTo
      split at stepTo <;>
        obtain ⟨rfl, -⟩ := Prod.mk.inj (Option.some.inj stepTo)
      · exact .inl rfl
      · exact .inr ⟨task, request, rfl, rfl⟩
    all_goals cases stepTo
  | query task => exact .inl (query_contents stepTo)
  | stop =>
    obtain ⟨rfl, -⟩ := Prod.mk.inj (Option.some.inj stepTo)
    exact .inl rfl
  | acquire task now =>
    simp only [advance] at stepTo
    split at stepTo
    · obtain ⟨rfl, -⟩ := Prod.mk.inj (Option.some.inj stepTo)
      exact .inl rfl
    · cases stepTo
  | _ =>
    left
    simp only [advance] at stepTo
    split at stepTo
    · try split at stepTo
      all_goals
        obtain ⟨rfl, -⟩ := Prod.mk.inj (Option.some.inj stepTo)
        rfl
    · cases stepTo

/-- The tasks put contents that were passed to `put`. -/
def State.Accepted (state : State) : Prop := ∀ task data, (state.phases task).putting = some data →
    data ∈ state.contents

theorem State.Accepted.advance {state after : State} {action : Action}
    {result : Option Result} (accepted : state.Accepted)
    (wellFormed : state.working.WellFormed store)
    (stepTo : store.advance state action = some (after, result)) :
    after.Accepted := by
  intro other data puts
  by_cases continues : action.Continues
  · obtain ⟨task, next, step⟩ := advance_task wellFormed continues stepTo
    rw [step.phases] at puts
    by_cases same : other = task
    · subst same
      rw [Function.update_self] at puts
      rcases step.putting data puts with before | new
      · exact step.contents data (accepted other data before)
      · exact new
    · rw [Function.update_of_ne same] at puts
      exact step.contents data (accepted other data puts)
  · obtain ⟨idle, -, -⟩ := advance_stopped continues stepTo
    simp [idle, Phase.putting] at puts

end FsBlobStore

end RoxabiFactory

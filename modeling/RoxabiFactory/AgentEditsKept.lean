import RoxabiFactory.AgentEdits

/-!
# No edit of an agent is lost without overlap

While no two requests overlap on an agent, the row that is being stored is made
of the row that is cached, so it keeps every field that its request does not
set.  Overlapping requests each write the old values of the other.
-/

namespace RoxabiFactory

namespace Agents

/-! ## The row of a request -/

section Prepare

variable {edit : Edit} {now : String} {cached : Option AgentRow}
variable {row : AgentRow}

theorem prepare_cases (prepared : edit.prepare now cached = some row) :
    (∃ request createdAt, edit = .create request createdAt ∧ cached = none ∧
      createRow request createdAt = .ok row) ∨
    (∃ request old, edit = .patch request ∧ cached = some old ∧
      patchRow request old now = .ok row) ∨
    ∃ storeKey bytes old, edit = .soul storeKey bytes ∧ cached = some old ∧
      row = soulRow storeKey bytes old now := by
  have ok_of_toOption {result : Py AgentRow}
      (found : result.toOption = some row) : result = .ok row := by
    cases result with
    | error raised => cases found
    | ok value => rw [Option.some.inj found]
  cases edit with
  | create request createdAt =>
    cases cached with
    | none => exact .inl ⟨request, createdAt, rfl, rfl, ok_of_toOption prepared⟩
    | some old => cases prepared
  | patch request =>
    cases cached with
    | none => cases prepared
    | some old =>
      exact .inr (.inl ⟨request, old, rfl, rfl, ok_of_toOption prepared⟩)
  | soul storeKey bytes =>
    cases cached with
    | none => cases prepared
    | some old =>
      rw [Edit.prepare] at prepared
      split at prepared
      · cases prepared
      · exact .inr (.inr ⟨storeKey, bytes, old, rfl, rfl, (Option.some.inj prepared).symm⟩)

theorem createRow_eq_ok {request : CreateRequest} {createdAt : String}
    (created : createRow request createdAt = .ok row) :
    row.name = request.name ∧ row.IsLoaded := by
  unfold createRow at created
  obtain ⟨soulMeta, -, rest⟩ := Py.bind_eq_ok.1 created
  cases rest
  refine ⟨rfl, ?_, ?_, ?_, ?_⟩ <;> simp

theorem get_cached_of_prepare (prepared : edit.prepare now cached = some row)
    {α : Type} (field : Field α) :
    some ((row.cached now).get field) = (edit.sets now field).or (cached.map (·.get field)) := by
  rcases prepare_cases prepared with ⟨request, createdAt, rfl, rfl, created⟩ |
    ⟨request, old, rfl, rfl, patched⟩ | ⟨storeKey, bytes, old, rfl, rfl, rfl⟩
  · rw [Edit.sets, created]
    rfl
  · have same : row.cached now = row := by
      obtain ⟨soulMeta, named, headed, -, -, -, rfl⟩ := patchRow_eq_ok patched
      rfl
    rw [same, get_patchRow patched, Edit.sets]
    cases request.sets now field <;> rfl
  · have same : (soulRow storeKey bytes old now).cached now =
        soulRow storeKey bytes old now := rfl
    rw [same, get_soulRow, Edit.sets]
    cases soulSets storeKey bytes now field <;> rfl

/-- The row is one that is read back as it is, and has the name of the
agent. -/
theorem loaded_of_prepare (prepared : edit.prepare now cached = some row)
    (loaded : ∀ old, cached = some old → old.IsLoaded) : row.IsLoaded := by
  rcases prepare_cases prepared with ⟨request, createdAt, rfl, rfl, created⟩ |
    ⟨request, old, rfl, rfl, patched⟩ | ⟨storeKey, bytes, old, rfl, rfl, rfl⟩
  · exact (createRow_eq_ok created).2
  · exact IsLoaded.patchRow (loaded old rfl) patched
  · exact ⟨(loaded old rfl).maxTurns, (loaded old rfl).permissionsJson,
      (loaded old rfl).fallbackLanguage, (loaded old rfl).effort⟩

theorem name_of_prepare {name : String} (prepared : edit.prepare now cached = some row)
    (named : ∀ old, cached = some old → old.name = name)
    (creation : ∀ request createdAt, edit = .create request createdAt →
      request.name = name) : row.name = name := by
  rcases prepare_cases prepared with ⟨request, createdAt, rfl, rfl, created⟩ |
    ⟨request, old, rfl, rfl, patched⟩ | ⟨storeKey, bytes, old, rfl, rfl, rfl⟩
  · exact (createRow_eq_ok created).1.trans (creation request createdAt rfl)
  · obtain ⟨soulMeta, headed, tagged, -, -, -, rfl⟩ := patchRow_eq_ok patched
    exact named old rfl
  · exact named old rfl

theorem fromDbRow_of_prepare {stored : Option AgentRow}
    (prepared : edit.prepare now cached = some row)
    (loaded : ∀ old, cached = some old → old.IsLoaded)
    (same : stored.map AgentRow.fromDbRow = cached) :
    (upsertAgent stored (row.values now)).fromDbRow = row.cached now := by
  have fresh := loaded_of_prepare prepared loaded
  subst same
  cases stored with
  | none => exact fromDbRow_values fresh now
  | some old =>
    apply fromDbRow_upsertAgent fresh
    rcases prepare_cases prepared with ⟨request, createdAt, rfl, none, -⟩ |
      ⟨request, found, rfl, read, patched⟩ |
      ⟨storeKey, bytes, found, rfl, read, rfl⟩
    · cases none
    · cases read
      exact rewrites_patchRow patched
    · cases read
      exact rewrites_soulRow storeKey bytes old.fromDbRow now

end Prepare

/-! ## What holds while no requests overlap -/

/-- What a request relies on while it waits. -/
def Stage.Fits {Task : Type} (state : EditState Task) : Stage → Prop
  | .storing _ _ => True
  | .submitted write =>
    write.edit.prepare write.now (state.cache write.row.name) = some write.row ∧
      (state.table write.row.name).map AgentRow.fromDbRow = state.cache write.row.name
  | .executed write | .committed write =>
    write.edit.prepare write.now (state.cache write.row.name) = some write.row ∧
      (state.table write.row.name).map AgentRow.fromDbRow = some (write.row.cached write.now)

namespace EditState

section Sound

variable {Task : Type} {start : AgentTable} {state after : EditState Task}

/-- The value of a field is what the accepted requests have set. -/
def FieldsKept (start : AgentTable) (state : EditState Task) (name : String) :
    Prop :=
  ∀ {α : Type} (field : Field α), (state.cache name).map (·.get field) =
    (lastSet state.accepted name field).or ((start.row name).map (·.fromDbRow.get field))

/-- An agent has been created as often as it has come to exist. -/
def CreatedOnce (start : AgentTable) (state : EditState Task) (name : String) : Prop :=
  creates state.accepted name + (start.row name).isSome.toNat = (state.cache name).isSome.toNat

structure Sound (start : AgentTable) (state : EditState Task) : Prop where
  loaded : ∀ name row, state.cache name = some row → row.name = name ∧ row.IsLoaded
  idle : ∀ name, state.Idle name → (state.table name).map AgentRow.fromDbRow = state.cache name
  single : ∀ one other write later, state.writing one = some write →
    state.writing other = some later → write.row.name = later.row.name → one = other
  fits : ∀ task stage, state.tasks task = some stage → stage.Fits state
  fields : ∀ name, state.FieldsKept start name
  created : ∀ name, state.CreatedOnce start name

theorem not_idle {name : String} {task : Task} {write : Write}
    (writing : state.writing task = some write)
    (same : write.row.name = name) : ¬ state.Idle name := by
  intro idle
  have apart := idle task
  rw [writing] at apart
  exact of_decide_eq_true apart same

theorem writing_of_tasks {task : Task} (same : after.tasks task = state.tasks task) :
    after.writing task = state.writing task := by
  unfold writing
  rw [same]

theorem fits_congr {stage : Stage} (fits : stage.Fits state)
    (same : ∀ write, stage.write? = some write →
      after.cache write.row.name = state.cache write.row.name ∧
        after.table write.row.name = state.table write.row.name) :
    stage.Fits after := by
  cases stage with
  | storing name bytes => trivial
  | submitted write =>
    obtain ⟨cache, table⟩ := same write rfl
    rw [Stage.Fits, cache, table]
    exact fits
  | executed write =>
    obtain ⟨cache, table⟩ := same write rfl
    rw [Stage.Fits, cache, table]
    exact fits
  | committed write =>
    obtain ⟨cache, table⟩ := same write rfl
    rw [Stage.Fits, cache, table]
    exact fits

theorem writing_eq_some {task : Task} {stage : Stage} {write : Write}
    (found : state.tasks task = some stage) (own : stage.write? = some write) :
    state.writing task = some write := by
  unfold writing
  rw [found]
  exact own

theorem Sound.loaded_of_cached (sound : state.Sound start) {name : String}
    (row : AgentRow) (cached : state.cache name = some row) : row.IsLoaded :=
  (sound.loaded name row cached).2

theorem Sound.apart {task : Task} {write : Write} (sound : state.Sound start)
    (writing : state.writing task = some write) :
    ∀ other, other ≠ task → ∀ later, state.writing other = some later →
      later.row.name ≠ write.row.name :=
  fun other apart later writes same =>
    apart (sound.single other task later write writes writing same)

/-- What a step of one task leaves to show when it concerns one agent, of which
no other task stores a row. -/
structure Local (task : Task) (name : String) (start : AgentTable)
    (state after : EditState Task) : Prop where
  tasks : ∀ other, other ≠ task → after.tasks other = state.tasks other
  cache : ∀ other, other ≠ name → after.cache other = state.cache other
  table : ∀ other, other ≠ name → after.table other = state.table other
  lastSet : ∀ other, other ≠ name → ∀ {α : Type} (field : Field α),
    lastSet after.accepted other field = lastSet state.accepted other field
  creates : ∀ other, other ≠ name → creates after.accepted other = creates state.accepted other
  apart : ∀ other, other ≠ task → ∀ write, state.writing other = some write → write.row.name ≠ name
  before : ∀ write, state.writing task = some write → write.row.name = name
  own : ∀ write, after.writing task = some write → write.row.name = name
  loaded : ∀ row, after.cache name = some row → row.name = name ∧ row.IsLoaded
  idle : after.writing task = none → (after.table name).map AgentRow.fromDbRow = after.cache name
  fits : ∀ stage, after.tasks task = some stage → stage.Fits after
  fields : after.FieldsKept start name
  created : after.CreatedOnce start name

theorem Sound.of_local {task : Task} {name : String}
    (sound : state.Sound start) (step : Local task name start state after) :
    after.Sound start := by
  have elsewhere {other : Task} (differs : other ≠ task) :
      after.writing other = state.writing other :=
    writing_of_tasks (step.tasks other differs)
  constructor
  · intro other row cached
    by_cases same : other = name
    · subst same
      exact step.loaded row cached
    · rw [step.cache other same] at cached
      exact sound.loaded other row cached
  · intro other idle
    by_cases same : other = name
    · subst same
      apply step.idle
      rw [← Option.not_isSome_iff_eq_none]
      intro writes
      obtain ⟨write, writing⟩ := Option.isSome_iff_exists.1 writes
      exact not_idle writing (step.own write writing) idle
    · rw [step.table other same, step.cache other same]
      apply sound.idle
      intro busy
      by_cases own : busy = task
      · subst own
        cases writing : state.writing busy with
        | none => rfl
        | some write =>
          apply decide_eq_true
          rw [step.before write writing]
          exact Ne.symm same
      · rw [← elsewhere own]
        exact idle busy
  · intro one other write later writes continues same
    by_cases first : one = task
    · by_cases second : other = task
      · exact first.trans second.symm
      · subst first
        rw [elsewhere second] at continues
        have named := step.own write writes
        exact absurd (same.symm.trans named) (step.apart other second later continues)
    · rw [elsewhere first] at writes
      by_cases second : other = task
      · subst second
        have named := step.own later continues
        exact absurd (same.trans named) (step.apart one first write writes)
      · rw [elsewhere second] at continues
        exact sound.single one other write later writes continues same
  · intro other stage found
    by_cases own : other = task
    · subst own
      exact step.fits stage found
    · rw [step.tasks other own] at found
      apply fits_congr (sound.fits other stage found)
      intro write stores
      have differs := step.apart other own write (writing_eq_some found stores)
      exact ⟨step.cache _ differs, step.table _ differs⟩
  · intro other
    by_cases same : other = name
    · subst same
      exact step.fields
    · intro field
      rw [step.cache other same, step.lastSet other same]
      exact sound.fields other field
  · intro other
    by_cases same : other = name
    · subst same
      exact step.created
    · unfold CreatedOnce
      rw [step.creates other same, step.cache other same]
      exact sound.created other

theorem Sound.of_silent {task : Task} (sound : state.Sound start)
    (tasks : ∀ other, other ≠ task → after.tasks other = state.tasks other)
    (cache : after.cache = state.cache) (table : after.table = state.table)
    (accepted : after.accepted = state.accepted)
    (silent : state.writing task = none) (quiet : after.writing task = none) :
    after.Sound start := by
  have unchanged (other : Task) : after.writing other = state.writing other := by
    by_cases same : other = task
    · rw [same, quiet, silent]
    · exact writing_of_tasks (tasks other same)
  constructor
  · rw [cache]
    exact sound.loaded
  · intro name idle
    rw [cache, table]
    apply sound.idle
    intro other
    rw [← unchanged other]
    exact idle other
  · intro one other write later
    rw [unchanged, unchanged]
    exact sound.single one other write later
  · intro other stage found
    by_cases same : other = task
    · subst same
      have none : stage.write? = none := by
        rw [writing, found] at quiet
        exact quiet
      cases stage with
      | storing name bytes => trivial
      | submitted write => cases none
      | executed write => cases none
      | committed write => cases none
    · rw [tasks other same] at found
      apply fits_congr (sound.fits other stage found)
      intro write _
      rw [cache, table]
      exact ⟨rfl, rfl⟩
  · intro name α field
    rw [cache, accepted]
    exact sound.fields name field
  · intro name
    unfold CreatedOnce
    rw [cache, accepted]
    exact sound.created name

end Sound

/-! ## Steps -/

section Steps

variable {Task : Type} [DecidableEq Task] {start : AgentTable}
variable {state : EditState Task} {task : Task}

theorem tasks_setTask (stage : Option Stage) : (state.setTask task stage).tasks task = stage :=
  Function.update_self ..

theorem tasks_setTask_of_ne {other : Task} (apart : other ≠ task) (stage : Option Stage) :
    (state.setTask task stage).tasks other = state.tasks other :=
  Function.update_of_ne apart _ _

theorem writing_setTask (stage : Option Stage) :
    (state.setTask task stage).writing task = stage.bind Stage.write? := by
  unfold writing
  rw [tasks_setTask]

theorem Sound.setTask {stage : Option Stage} (sound : state.Sound start)
    (silent : state.writing task = none)
    (quiet : stage.bind Stage.write? = none) :
    (state.setTask task stage).Sound start := by
  apply sound.of_silent
  · exact fun other apart => tasks_setTask_of_ne apart stage
  · rfl
  · rfl
  · rfl
  · exact silent
  · exact (writing_setTask stage).trans quiet

theorem Sound.submit {name : String} {edit : Edit} {now : String}
    (sound : state.Sound start) (silent : state.writing task = none)
    (idle : state.Idle name)
    (creation : ∀ request createdAt, edit = .create request createdAt → request.name = name) :
    (state.submit task name edit now).Sound start := by
  unfold EditState.submit
  cases prepared : edit.prepare now (state.cache name) with
  | none => exact sound.setTask silent rfl
  | some row =>
    have named : row.name = name := name_of_prepare prepared
      (fun old cached => (sound.loaded name old cached).1) creation
    have fresh : (state.setTask task (some (.submitted ⟨row, edit, now⟩))).writing task =
          some ⟨row, edit, now⟩ := writing_setTask _
    suffices step : Local task name start state _ from
      sound.of_local step
    constructor
    · exact fun other apart => tasks_setTask_of_ne apart _
    · exact fun _ _ => rfl
    · exact fun _ _ => rfl
    · exact fun _ _ _ _ => rfl
    · exact fun _ _ => rfl
    · intro other _ write writes same
      exact not_idle writes same idle
    · intro write writes
      rw [silent] at writes
      cases writes
    · intro write writes
      cases fresh.symm.trans writes
      exact named
    · exact sound.loaded name
    · intro none
      cases fresh.symm.trans none
    · intro stage found
      cases (tasks_setTask _).symm.trans found
      rw [Stage.Fits, named]
      exact ⟨prepared, sound.idle name idle⟩
    · exact sound.fields name
    · exact sound.created name

theorem Sound.execute {write : Write} (sound : state.Sound start)
    (found : state.tasks task = some (.submitted write)) :
    (state.executeWrite task write).Sound start := by
  have writing : state.writing task = some write := writing_eq_some found rfl
  obtain ⟨prepared, same⟩ := sound.fits task _ found
  have later : (state.executeWrite task write).tasks task =
      some (.executed write) := Function.update_self ..
  have table : (state.executeWrite task write).table write.row.name =
      some (upsertAgent (state.table write.row.name)
        (write.row.values write.now)) := Function.update_self ..
  suffices step : Local task write.row.name start state _ from
    sound.of_local step
  constructor
  · exact fun other apart => Function.update_of_ne apart _ _
  · exact fun _ _ => rfl
  · exact fun other apart => Function.update_of_ne apart _ _
  · exact fun _ _ _ _ => rfl
  · exact fun _ _ => rfl
  · exact sound.apart writing
  · intro other writes
    cases writing.symm.trans writes
    rfl
  · intro other writes
    cases (writing_eq_some later rfl).symm.trans writes
    rfl
  · exact sound.loaded write.row.name
  · intro none
    cases (writing_eq_some later rfl).symm.trans none
  · intro stage executed
    cases later.symm.trans executed
    refine ⟨prepared, ?_⟩
    rw [table]
    exact congrArg some (fromDbRow_of_prepare prepared
      (fun old cached => sound.loaded_of_cached old cached) same)
  · exact sound.fields write.row.name
  · exact sound.created write.row.name

theorem Sound.commit {write : Write} (sound : state.Sound start)
    (found : state.tasks task = some (.executed write)) :
    (state.setTask task (some (.committed write))).Sound start := by
  have writing : state.writing task = some write := writing_eq_some found rfl
  have later : (state.setTask task (some (.committed write))).writing task =
      some write := writing_setTask _
  suffices step : Local task write.row.name start state _ from
    sound.of_local step
  constructor
  · exact fun other apart => tasks_setTask_of_ne apart _
  · exact fun _ _ => rfl
  · exact fun _ _ => rfl
  · exact fun _ _ _ _ => rfl
  · exact fun _ _ => rfl
  · exact sound.apart writing
  · intro other writes
    cases writing.symm.trans writes
    rfl
  · intro other writes
    cases later.symm.trans writes
    rfl
  · exact sound.loaded write.row.name
  · intro none
    cases later.symm.trans none
  · intro stage committed
    cases (tasks_setTask _).symm.trans committed
    exact sound.fits task _ found
  · exact sound.fields write.row.name
  · exact sound.created write.row.name

theorem lastSet_cons {α : Type} (request : Accepted) (rest : List Accepted)
    (name : String) (field : Field α) :
    lastSet (request :: rest) name field =
      (if request.name = name then request.edit.sets request.now field
        else none).or (lastSet rest name field) := by
  unfold lastSet
  rw [List.findSome?_cons]
  cases (if request.name = name then request.edit.sets request.now field
    else none) <;> rfl

theorem isSome_of_prepare {edit : Edit} {now : String} {cached : Option AgentRow} {row : AgentRow}
    (prepared : edit.prepare now cached = some row) :
    edit.isCreate.toNat + cached.isSome.toNat = 1 := by
  rcases prepare_cases prepared with ⟨request, createdAt, rfl, rfl, -⟩ |
    ⟨request, old, rfl, rfl, -⟩ | ⟨storeKey, bytes, old, rfl, rfl, -⟩
  · rfl
  · rfl
  · rfl

theorem Sound.finish {write : Write} (sound : state.Sound start)
    (found : state.tasks task = some (.committed write)) :
    (state.finishWrite task write).Sound start := by
  have writing : state.writing task = some write := writing_eq_some found rfl
  obtain ⟨prepared, stored⟩ := sound.fits task _ found
  have later : (state.finishWrite task write).writing task = none := by
    change (Function.update state.tasks task none task).bind Stage.write? = none
    rw [Function.update_self]
    rfl
  have cached : (state.finishWrite task write).cache write.row.name =
      some (write.row.cached write.now) := Function.update_self ..
  suffices step : Local task write.row.name start state _ from
    sound.of_local step
  constructor
  · exact fun other apart => Function.update_of_ne apart _ _
  · exact fun other apart => Function.update_of_ne apart _ _
  · exact fun _ _ => rfl
  · intro other apart α field
    exact (lastSet_cons _ _ _ _).trans (by rw [if_neg (Ne.symm apart)]; rfl)
  · intro other apart
    apply List.countP_cons_of_neg
    simpa using fun same => absurd same (Ne.symm apart)
  · exact sound.apart writing
  · intro other writes
    cases writing.symm.trans writes
    rfl
  · intro other writes
    cases later.symm.trans writes
  · intro row own
    cases cached.symm.trans own
    have fresh := loaded_of_prepare prepared fun old read =>
      sound.loaded_of_cached old read
    exact ⟨rfl, fresh.maxTurns, fresh.permissionsJson, fresh.fallbackLanguage, fresh.effort⟩
  · intro _
    rw [cached]
    exact stored
  · intro stage none
    cases (Function.update_self ..).symm.trans none
  · intro α field
    rw [cached, Option.map_some, get_cached_of_prepare prepared, sound.fields write.row.name field]
    exact (Option.or_assoc ..).symm.trans (congrArg (Option.or · _)
      ((lastSet_cons _ _ _ _).trans (by rw [if_pos rfl])).symm)
  · have once := sound.created write.row.name
    have exists_row := isSome_of_prepare prepared
    unfold CreatedOnce at once ⊢
    have counted : creates (state.finishWrite task write).accepted write.row.name =
        creates state.accepted write.row.name + write.edit.isCreate.toNat := by
      unfold creates finishWrite
      rw [List.countP_cons]
      cases write.edit.isCreate <;> simp
    rw [counted, cached]
    simp only [Option.isSome_some, Bool.toNat_true]
    omega

theorem Sound.step {action : EditAction Task} {after : EditState Task}
    (sound : state.Sound start) (alone : state.Alone action)
    (steps : state.step action = some after) : after.Sound start := by
  have silent {task : Task} (none : state.tasks task = none) :
      state.writing task = Option.none := by
    unfold writing
    rw [none]
    rfl
  cases action with
  | create task request createdAt now =>
    simp only [EditState.step] at steps
    cases free : state.tasks task with
    | none =>
      rw [free] at steps
      cases steps
      apply sound.submit (silent free) alone
      intro other created same
      cases same
      rfl
    | some stage =>
      rw [free] at steps
      cases steps
  | patch task name request now =>
    simp only [EditState.step] at steps
    cases free : state.tasks task with
    | none =>
      rw [free] at steps
      cases steps
      apply sound.submit (silent free) alone
      intro other created same
      cases same
    | some stage =>
      rw [free] at steps
      cases steps
  | soulPut task name bytes =>
    simp only [EditState.step] at steps
    cases free : state.tasks task with
    | none =>
      rw [free] at steps
      cases steps
      apply sound.setTask (silent free)
      cases state.cache name <;> rfl
    | some stage =>
      rw [free] at steps
      cases steps
  | stored task storeKey now =>
    simp only [EditState.step] at steps
    cases found : state.tasks task with
    | none =>
      rw [found] at steps
      cases steps
    | some stage =>
      cases stage with
      | storing name bytes =>
        rw [found] at steps
        cases steps
        have idle : state.Idle name := by
          simp only [Alone, found] at alone
          exact alone
        apply sound.submit _ idle
        · intro other created same
          cases same
        · unfold writing
          rw [found]
          rfl
      | submitted write => simp only [found, reduceCtorEq] at steps
      | executed write => simp only [found, reduceCtorEq] at steps
      | committed write => simp only [found, reduceCtorEq] at steps
  | failed task =>
    simp only [EditState.step] at steps
    cases found : state.tasks task with
    | none =>
      rw [found] at steps
      cases steps
    | some stage =>
      cases stage with
      | storing name bytes =>
        rw [found] at steps
        cases steps
        apply sound.setTask
        · unfold writing
          rw [found]
          rfl
        · rfl
      | submitted write => simp only [found, reduceCtorEq] at steps
      | executed write => simp only [found, reduceCtorEq] at steps
      | committed write => simp only [found, reduceCtorEq] at steps
  | execute task =>
    simp only [EditState.step] at steps
    cases found : state.tasks task with
    | none =>
      rw [found] at steps
      cases steps
    | some stage =>
      cases stage with
      | storing name bytes => simp only [found, reduceCtorEq] at steps
      | submitted write =>
        rw [found] at steps
        cases steps
        exact sound.execute found
      | executed write => simp only [found, reduceCtorEq] at steps
      | committed write => simp only [found, reduceCtorEq] at steps
  | commit task =>
    simp only [EditState.step] at steps
    cases found : state.tasks task with
    | none =>
      rw [found] at steps
      cases steps
    | some stage =>
      cases stage with
      | storing name bytes => simp only [found, reduceCtorEq] at steps
      | submitted write => simp only [found, reduceCtorEq] at steps
      | executed write =>
        rw [found] at steps
        cases steps
        exact sound.commit found
      | committed write => simp only [found, reduceCtorEq] at steps
  | finish task =>
    simp only [EditState.step] at steps
    cases found : state.tasks task with
    | none =>
      rw [found] at steps
      cases steps
    | some stage =>
      cases stage with
      | storing name bytes => simp only [found, reduceCtorEq] at steps
      | submitted write => simp only [found, reduceCtorEq] at steps
      | executed write => simp only [found, reduceCtorEq] at steps
      | committed write =>
        rw [found] at steps
        cases steps
        exact sound.finish found

theorem sound_of_initial
    (initially : (editSystem Task start).initial state) : state.Sound start := by
  obtain ⟨table, cache, tasks, accepted⟩ := initially
  constructor
  · intro name row cached
    rw [cache] at cached
    obtain ⟨stored, found, rfl⟩ := Option.map_eq_some_iff.1 cached
    exact ⟨start.named name stored found, isLoaded_fromDbRow stored⟩
  · intro name _
    rw [table, cache]
  · intro one other write later writes
    rw [writing, tasks] at writes
    cases writes
  · intro task stage found
    rw [tasks] at found
    cases found
  · intro name α field
    rw [cache, accepted, Option.map_map]
    rfl
  · intro name
    unfold CreatedOnce
    rw [cache, accepted, Option.isSome_map]
    exact Nat.zero_add _

/-- When no requests overlap on an agent, each field of it has the value of the
last request that has set it, and it has been created at most once. -/
theorem editsKept_of_reachable (reached : (editSystem Task start).ReachableWithin Alone state)
    (answered : ∀ task, state.tasks task = none) : state.Kept start := by
  have sound : state.Sound start := by
    apply reached.invariant
    · exact fun _ initially => sound_of_initial initially
    · exact fun _ _ _ sound alone steps => sound.step alone steps
  constructor
  · intro name α field
    exact sound.fields name field
  · intro name α field
    have idle : state.Idle name := by
      intro task
      rw [writing, answered]
      rfl
    rw [← sound.fields name field, ← sound.idle name idle, Option.map_map]
    rfl
  · intro name
    have once := sound.created name
    unfold CreatedOnce at once
    cases exists_row : (state.cache name).isSome <;>
      rw [exists_row] at once <;>
      simp only [Bool.toNat_true, Bool.toNat_false] at once <;> omega

end Steps

section Example

/-- An agent of the table. -/
def lyra : AgentRow where
  name := "lyra"
  backend := "claude-cli"
  model := "sonnet"
  createdAt := "2026-01-01"
  updatedAt := "2026-01-01"

def exampleRows (name : String) : Option AgentRow :=
  if name = "lyra" then some lyra else none

theorem named_exampleRows (name : String) (found : AgentRow)
    (row : exampleRows name = some found) : found.name = name := by
  unfold exampleRows at row
  split at row
  · rename_i same
    rw [← Option.some.inj row, same]
    rfl
  · cases row

def exampleTable : AgentTable where
  row := exampleRows
  named := named_exampleRows

/-- A state with the loaded cache. -/
def loaded : EditState Bool where
  cache name := (exampleTable.row name).map AgentRow.fromDbRow
  table := exampleTable.row
  tasks _ := none
  accepted := []

theorem initial_loaded : (editSystem Bool exampleTable).initial loaded :=
  ⟨rfl, fun _ => rfl, fun _ => rfl, rfl⟩

/-- A patch of the model and one of the backend, one after the other. -/
def inTurn : List (EditAction Bool) :=
  [.patch true "lyra" { model := some "opus" } "t1", .execute true, .commit true, .finish true,
    .patch false "lyra" { backend := some .ompRpc } "t2", .execute false,
    .commit false, .finish false]

/-- The same patches, both of which read the row at first. -/
def overlapping : List (EditAction Bool) := [.patch true "lyra" { model := some "opus" } "t1",
    .patch false "lyra" { backend := some .ompRpc } "t2", .execute true,
    .execute false, .commit true, .commit false, .finish true, .finish false]

/-- Both patches are kept. -/
theorem kept_inTurn : ∃ state : EditState Bool,
    (editSystem Bool exampleTable).run loaded inTurn = some state ∧
      state.Kept exampleTable := by
  have run : ∃ state : EditState Bool,
      (editSystem Bool exampleTable).checkedRun Alone loaded inTurn =
        some state ∧ ∀ task, (state.tasks task).isNone := by
    have runs : ((editSystem Bool exampleTable).checkedRun Alone loaded
        inTurn).any (fun state => decide (∀ task, (state.tasks task).isNone)) =
          true := by
      decide
    obtain ⟨state, found, idle⟩ := (Option.any_eq_true _ _).1 runs
    exact ⟨state, found, of_decide_eq_true idle⟩
  obtain ⟨state, runs, idle⟩ := run
  have start : (editSystem Bool exampleTable).ReachableWithin Alone loaded := .start initial_loaded
  refine ⟨state, TransitionSystem.run_of_checkedRun runs, ?_⟩
  exact editsKept_of_reachable (.of_checkedRun loaded start inTurn runs)
    fun task => Option.isNone_iff_eq_none.1 (idle task)

/-- The second patch writes the old model back. -/
theorem exists_lost_edit : ∃ state : EditState Bool,
    (editSystem Bool exampleTable).Reachable state ∧
      (∀ task, state.tasks task = none) ∧ ¬ state.Kept exampleTable := by
  have run : ∃ state : EditState Bool, (editSystem Bool exampleTable).Reachable state ∧
        ((∀ task, (state.tasks task).isNone) ∧
          (state.cache "lyra").map AgentRow.model = some "sonnet" ∧
          lastSet state.accepted "lyra" Field.model = some "opus") :=
    TransitionSystem.exists_reachable_of_run loaded initial_loaded overlapping (by decide)
  obtain ⟨state, reached, idle, model, accepted⟩ := run
  refine ⟨state, reached, fun task => Option.isNone_iff_eq_none.1 (idle task), ?_⟩
  intro kept
  have last := kept.cached "lyra" Field.model
  rw [accepted] at last
  have same : some "sonnet" = some "opus" := model.symm.trans last
  exact absurd same (by decide)

end Example

end EditState

end Agents

end RoxabiFactory

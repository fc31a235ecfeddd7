import RoxabiFactory.CliPoolWellFormed

/-!
# Running turns, the idle reaper and drain

The reaper spares an entry whose lock is held, and `drain` waits for the
locks of the registered entries.  A blocking turn holds the lock until it is
over, so neither of them overlooks it while its entry is registered.  A
streaming turn releases the lock before its answer is read, and from then on
it is protected only by the time of its last message; and the reaper goes on
with the list that it has made before its first `await`, whatever has started
on the pools of the list in between.
-/

namespace RoxabiFactory

namespace CliPool

/-- The pools that the rest of a sweep is going to kill. -/
def AfterKill.listed : AfterKill → List String
  | sweep _ rest => rest.map Prod.fst
  | _ => []

/-- The pools that the task is going to kill in its sweep. -/
def Task.listed : Task → List String
  | sweeping rest | onReap rest => rest.map Prod.fst
  | kill poolId _ (.sweep _ rest) => poolId :: rest.map Prod.fst
  | killWait _ next | unlink _ next | killed next => next.listed
  | _ => []

/-- The process whose output a streaming turn reads without the lock. -/
def Task.iterates : Task → Option Nat
  | staleCheck _ process true | streaming process _ => some process
  | _ => none

/-- No streaming turn is being read when the reaper finds its entry inactive
for longer than the TTL, or when `drain` finds no lock held; `drain` finds
every running turn on a registered entry; and no message is written to a
process that a sweep in progress is going to kill. -/
def TurnsShown (settings : Settings) (state : State) : Action → Prop
  | .sweep =>
    ∀ item ∈ state.entries.items, (state.processes item.2).alive = true →
        (state.processes item.2).lock = none → state.clock - (state.processes item.2).lastActivity >
              settings.idleTtl →
            ∀ task < state.started, (state.tasks task).iterates ≠ some item.2
  | .drainCheck =>
    (∀ item ∈ state.entries.items, (state.processes item.2).lock = none) →
        ∀ task < state.started, (state.tasks task).iterates = none ∧
          ((state.tasks task).runsOn.all fun process =>
            decide (state.Registered process)) = true
  | .resume task _ =>
    match state.tasks task with
    | .acquire _ process | .lockWait _ process =>
      (state.processes process).lock = none → (state.processes process).alive = true →
          ∀ other < state.started, ∀ poolId ∈ (state.tasks other).listed,
              state.entries.lookup poolId ≠ some process
    | _ => True
  | _ => True

instance (settings : Settings) (state : State) (action : Action) :
    Decidable (TurnsShown settings state action) := by
  unfold TurnsShown
  casesm Action
  case resume task outcome =>
    dsimp only
    generalize state.tasks task = point
    casesm Task <;> dsimp only <;> infer_instance
  all_goals dsimp only; infer_instance

/-- No turn runs on a live process that a sweep in progress is going to kill,
and nothing has been overlooked so far. -/
structure Spared (state : State) : Prop where
  listed : ∀ task, ∀ poolId ∈ (state.tasks task).listed, ∀ process,
    state.entries.lookup poolId = some process → (state.processes process).alive = true →
        ∀ other, (state.tasks other).runsOn ≠ some process
  reaped : state.reaped = []
  drainedOver : state.drainedOver = []

theorem Task.mentions_of_runsOn {point : Task} {process : Nat}
    (runs : point.runsOn = some process) : point.Mentions process := by
  cases point with
  | writing _ _ | reading _ _ _ | streaming _ _ => exact .inl runs
  | staleCheck call other live =>
    cases live
    · cases runs
    · exact .inl runs
  | _ => cases runs

theorem Task.iterates_or_lockOf {point : Task} {process : Nat}
    (runs : point.runsOn = some process) :
    point.iterates = some process ∨ point.lockOf = some process := by
  cases point with
  | writing _ _ | reading _ _ _ => exact .inr runs
  | streaming _ _ => exact .inl runs
  | staleCheck call other live =>
    cases live
    · cases runs
    · exact .inl runs
  | _ => cases runs

namespace Spared

variable {state after : State} {task process : Nat} {point before : Task}
variable {call : TurnCall} {settings : Settings} {next : AfterKill}
variable {outcome : Outcome}

theorem congr (spared : Spared state) (tasks : after.tasks = state.tasks)
    (processes : after.processes = state.processes)
    (entries : after.entries = state.entries)
    (reaped : after.reaped = state.reaped)
    (drainedOver : after.drainedOver = state.drainedOver) : Spared after where
  listed := by rw [tasks, processes, entries]; exact spared.listed
  reaped := reaped.trans spared.reaped
  drainedOver := drainedOver.trans spared.drainedOver

theorem move (spared : Spared state) (reached : state.tasks task = before)
    (runs : ∀ process, point.runsOn = some process → before.runsOn = some process)
    (lists : ∀ poolId ∈ point.listed, poolId ∈ before.listed) :
    Spared (state.setTask task point) := by
  subst reached
  refine ⟨fun sweeper poolId member process found alive other => ?_,
    spared.reaped, spared.drainedOver⟩
  have listed : poolId ∈ (state.tasks sweeper).listed := by
    by_cases same : sweeper = task
    · subst same
      rw [State.setTask_tasks_self] at member
      exact lists poolId member
    · rwa [State.setTask_tasks_of_ne same] at member
  have idle := spared.listed sweeper poolId listed process found alive other
  by_cases same : other = task
  · subst same
    rw [State.setTask_tasks_self]
    exact fun running => idle (runs process running)
  · rwa [State.setTask_tasks_of_ne same]

theorem modify (spared : Spared state) {change : Process → Process}
    (alive : (change (state.processes process)).alive = true →
      (state.processes process).alive = true) :
    Spared (state.modify process change) := by
  refine ⟨fun sweeper poolId member other found lives => ?_, spared.reaped, spared.drainedOver⟩
  refine spared.listed sweeper poolId member other found ?_
  by_cases same : other = process
  · subst same
    rw [State.modify_processes_self] at lives
    exact alive lives
  · rwa [State.modify_processes_of_ne same] at lives

theorem unlock (spared : Spared state) : Spared (state.unlock task process) := spared.modify id

theorem unlinkPromptFile (spared : Spared state) : Spared (state.unlinkPromptFile process) :=
  spared.modify id

theorem dropEntry (spared : Spared state) (poolId : String)
    (preserve : Bool) : Spared (state.dropEntry poolId preserve) :=
  ⟨fun sweeper pool member process found =>
    spared.listed sweeper pool member process (OrderedDict.lookup_eq_of_lookup_erase found),
    spared.reaped, spared.drainedOver⟩

theorem deliver (spared : Spared state) (turn : Nat) (sources : List Nat)
    (contents : List Delivered) :
    Spared (state.deliver turn sources contents) :=
  spared.congr rfl rfl rfl rfl rfl

theorem moveIdle (spared : Spared state) (runs : point.runsOn = none)
    (lists : point.listed = []) : Spared (state.setTask task point) :=
  spared.move rfl (by rw [runs]; rintro _ ⟨⟩)
    (by rw [lists]; rintro _ ⟨⟩)

theorem attempt (spared : Spared state) :
    Spared (state.attempt task call) := by
  unfold State.attempt
  split
  · exact spared.moveIdle rfl rfl
  · dsimp only
    split
    · exact spared.moveIdle rfl rfl
    · split
      · exact spared.moveIdle rfl rfl
      · exact spared.moveIdle rfl rfl

theorem spawn (spared : Spared state) (wf : WellFormed state) :
    Spared (state.spawn task call) := by
  have grown : Spared { state.addProcess (state.newProcess call) with
      resumeSessionIds := (state.addProcess
        (state.newProcess call)).resumeSessionIds.erase call.poolId } := by
    refine ⟨fun sweeper poolId member process found alive => ?_, spared.reaped, spared.drainedOver⟩
    refine spared.listed sweeper poolId member process found ?_
    rwa [State.addProcess_processes_of_ne _
      (Nat.ne_of_lt (wf.entry poolId process found).1)] at alive
  refine grown.moveIdle ?_ ?_
  · split <;> rfl
  · split <;> rfl

/-- A message is written to a process that no sweep is going to kill. -/
theorem enter (spared : Spared state) (unlisted : (state.processes process).alive = true →
      ∀ other, ∀ poolId ∈ (state.tasks other).listed, state.entries.lookup poolId ≠ some process) :
    Spared (state.enter task call process) := by
  unfold State.enter
  split
  · rename_i alive
    have quiet := unlisted alive
    have written : Spared (state.modify process fun entry =>
        { entry with
          lock := some task
          unanswered := entry.unanswered ++ [task]
          turnCount :=
            if call.streaming then entry.turnCount + 1 else entry.turnCount
          lastActivity :=
            if call.streaming then state.clock
            else entry.lastActivity }) :=
      spared.modify id
    refine ⟨fun sweeper poolId member other found lives third => ?_,
      spared.reaped, spared.drainedOver⟩
    have listed : poolId ∈ (state.tasks sweeper).listed := by
      by_cases same : sweeper = task
      · rw [same, State.setTask_tasks_self] at member
        cases member
      · rwa [State.setTask_tasks_of_ne same] at member
    by_cases same : third = task
    · rw [same, State.setTask_tasks_self]
      rintro ⟨⟩
      exact quiet sweeper poolId listed found
    · rw [State.setTask_tasks_of_ne same]
      exact written.listed sweeper poolId listed other found lives third
  · exact spared.moveIdle rfl rfl

theorem register (spared : Spared state)
    (idle : ∀ other, (state.tasks other).runsOn ≠ some process) :
    Spared (state.register process) := by
  have touched : Spared (state.modify process fun entry =>
      { entry with lastActivity := state.clock }) :=
    spared.modify id
  refine ⟨fun sweeper poolId member other found lives => ?_, spared.reaped, spared.drainedOver⟩
  by_cases same : poolId = (state.processes process).poolId
  · subst same
    rw [State.register, OrderedDict.lookup_assign, Option.some.injEq] at found
    subst found
    exact idle
  · rw [State.register, OrderedDict.lookup_assign_ne same] at found
    exact touched.listed sweeper poolId member other found lives

theorem revive (spared : Spared state) (unregistered : ∀ poolId,
      state.entries.lookup poolId ≠ some process) :
    Spared (state.modify process fun entry =>
      { entry with alive := true }) := by
  refine ⟨fun sweeper poolId member other found lives => ?_, spared.reaped, spared.drainedOver⟩
  have different : other ≠ process := by
    rintro rfl
    exact unregistered poolId found
  rw [State.modify_processes_of_ne different] at lives
  exact spared.listed sweeper poolId member other found lives

theorem iterate (spared : Spared state) {live : Bool}
    (runs : live = true → (state.tasks task).runsOn = some process) :
    Spared (state.iterate task call process live) := by
  unfold State.iterate
  refine (spared.move rfl ?_ ?_).unlock
  · cases live with
    | false => split <;> rintro _ ⟨⟩
    | true =>
      rw [runs rfl]
      split <;> exact fun _ => id
  · cases live <;> split <;> rintro _ ⟨⟩

theorem cleanup (spared : Spared state) {otherwise : State}
    (lists : ∀ poolId, (Task.kill poolId false next).listed = [])
    (sparedOtherwise : Spared otherwise) :
    Spared (state.cleanup task process next otherwise) := by
  unfold State.cleanup
  split
  · exact spared.moveIdle rfl (lists _)
  · exact sparedOtherwise

theorem finishRead (spared : Spared state) {result : CliResult} {sources : List Nat} :
    Spared (state.finishRead task call process result sources) := by
  unfold State.finishRead
  split
  · exact spared.moveIdle rfl rfl
  · exact spared.moveIdle rfl rfl
  · exact Spared.deliver (modify (unlock (spared.moveIdle rfl rfl)) id) _ _ _
  · exact spared.moveIdle rfl rfl

theorem afterKill (spared : Spared state) (reached : state.tasks task = .killed next) :
    Spared (state.afterKill settings task next) := by
  unfold State.afterKill
  split
  · exact spared.moveIdle rfl rfl
  · exact spared.moveIdle rfl rfl
  · exact (spared.moveIdle rfl rfl).congr rfl rfl rfl rfl rfl
  · exact (spared.moveIdle rfl rfl).congr rfl rfl rfl rfl rfl
  · exact spared.moveIdle rfl rfl
  · exact (spared.moveIdle rfl rfl).unlock
  · exact spared.moveIdle rfl rfl
  · exact Spared.deliver (unlock (spared.moveIdle rfl rfl)) _ _ _
  · exact spared.iterate (by simp)
  · split
    · exact spared.move reached (by simp) fun _ => id
    · exact spared.move reached (by simp) fun _ => id
  · exact spared.moveIdle rfl rfl

theorem interrupted_eq_nil (spared : Spared state) {poolId : String} {preserve : Bool}
    (reached : state.tasks task = .kill poolId preserve next)
    (found : state.entries.lookup poolId = some process)
    (alive : (state.processes process).alive = true) :
    state.interrupted process next = [] := by
  unfold State.interrupted
  split
  · rename_i idle rest
    have quiet := spared.listed task poolId (by simp [reached, Task.listed]) process found alive
    rw [State.turnsOn, List.filter_eq_nil_iff]
    intro other _ runs
    obtain ⟨ran, running, same⟩ := (Option.any_eq_true _ _).mp runs
    exact quiet other (of_decide_eq_true same ▸ running)
  · rfl

theorem kill (spared : Spared state) {poolId : String} {preserve : Bool}
    (reached : state.tasks task = .kill poolId preserve next) :
    Spared (state.kill task poolId preserve next) := by
  have dropped := spared.dropEntry poolId preserve
  have lists : ∀ pool ∈ next.listed,
      pool ∈ (Task.kill poolId preserve next).listed := by
    intro pool member
    cases next with
    | sweep idle rest => exact List.mem_cons_of_mem _ member
    | _ => cases member
  unfold State.kill
  split
  · exact dropped.move reached (by simp) lists
  · rename_i victim found
    split
    · rename_i alive
      have waiting : Spared ((state.dropEntry poolId preserve).setTask task
          (.killWait victim next)) :=
        dropped.move reached (by simp) lists
      refine waiting.congr rfl rfl rfl ?_ rfl
      rw [spared.interrupted_eq_nil reached found alive, List.append_nil]
      rfl
    · exact dropped.move reached (by simp) lists

theorem resumeReading (spared : Spared state) {reading : BlockingReader}
    (reached : state.tasks task = .reading call process reading)
    (stepTo : state.resumeReading settings task call process reading outcome =
      some after) : Spared after := by
  rcases State.resumeReading_cases stepTo with
    ⟨output, -, -, rfl⟩ | ⟨output, -, -, rfl⟩ | ⟨-, -, rfl⟩ | ⟨-, -, -, rfl⟩ | rfl
  · refine Spared.modify (Spared.modify (spared.move reached ?_ ?_) id) id
    · unfold BlockingReader.next
      split <;> simp
    · unfold BlockingReader.next
      split <;> rintro _ ⟨⟩
  · exact Spared.modify (spared.moveIdle rfl rfl) id
  · exact spared.moveIdle rfl rfl
  · exact spared.moveIdle rfl rfl
  · exact spared.move reached (by simp) (by rintro _ ⟨⟩)

theorem resumeStreaming (spared : Spared state) {reading : StreamReader}
    (reached : state.tasks task = .streaming process reading)
    (stepTo : state.resumeStreaming settings task process reading outcome =
      some after) : Spared after := by
  rcases State.resumeStreaming_cases stepTo with
    ⟨output, -, -, rfl⟩ | ⟨-, -, rfl⟩ | ⟨-, -, rfl⟩ | ⟨-, -, rfl⟩ | rfl
  · refine Spared.deliver (Spared.modify (Spared.modify (spared.move reached ?_ ?_) id) id) _ _ _
    · unfold StreamReader.next
      split
      · simp
      · split <;> simp
    · unfold StreamReader.next
      split
      · rintro _ ⟨⟩
      · split <;> rintro _ ⟨⟩
  · exact Spared.modify (spared.moveIdle rfl rfl) id
  · exact spared.moveIdle rfl rfl
  · exact spared.cleanup (fun _ => rfl) (spared.moveIdle rfl rfl)
  · exact spared.move reached (by simp) (by rintro _ ⟨⟩)

theorem resumeWriting (spared : Spared state) (reached : state.tasks task = .writing call process)
    (stepTo : state.resumeWriting task call process outcome = some after) :
    Spared after := by
  have runs : (state.tasks task).runsOn = some process := by simp [reached]
  unfold State.resumeWriting at stepTo
  split at stepTo
  · cases stepTo
    split
    · exact spared.iterate fun _ => runs
    · exact spared.move reached (by simp) (by rintro _ ⟨⟩)
  · cases stepTo
    split
    · exact spared.cleanup (fun _ => rfl) (spared.iterate fun _ => runs)
    · exact spared.moveIdle rfl rfl
  · cases stepTo
    split
    · exact (spared.moveIdle rfl rfl).unlock
    · exact spared.moveIdle rfl rfl
  · cases stepTo

theorem unlisted_of_turnsShown (wf : WellFormed state)
    (shown : TurnsShown settings state (.resume task outcome))
    (reached : state.tasks task = .acquire call process ∨ state.tasks task = .lockWait call process)
    (free : (state.processes process).lock = none)
    (alive : (state.processes process).alive = true) :
    ∀ other, ∀ poolId ∈ (state.tasks other).listed,
      state.entries.lookup poolId ≠ some process := by
  have unlisted : ∀ other < state.started, ∀ poolId ∈ (state.tasks other).listed,
        state.entries.lookup poolId ≠ some process := by
    rcases reached with reached | reached <;>
      simpa [TurnsShown, reached, free, alive] using shown
  intro other poolId member
  refine unlisted other (wf.lt_started fun gone => ?_) poolId member
  rw [gone] at member
  cases member

theorem resumes (spared : Spared state) (wf : WellFormed state)
    (shown : TurnsShown settings state (.resume task outcome))
    (step : state.Resumes settings task outcome after) : Spared after := by
  cases step with
  | attempt reached => exact spared.attempt
  | spawn reached => exact spared.spawn wf
  | @execReady call process reached =>
    have untouched := wf.fresh task process (by simp [reached])
    have moved : Spared (state.setTask task (.spawnProbe call process)) := spared.moveIdle rfl rfl
    exact moved.revive untouched.entries
  | execFailed reached _ | stderrRead reached =>
    exact (spared.moveIdle rfl rfl).unlinkPromptFile
  | probeExited reached _ => exact spared.moveIdle rfl rfl
  | @probeAlive call process reached _ =>
    have untouched := wf.fresh task process (by simp [reached])
    have moved : Spared (state.setTask task (.acquire call process)) := spared.moveIdle rfl rfl
    refine moved.register fun other => ?_
    by_cases same : other = task
    · rw [same, State.setTask_tasks_self]
      nofun
    · rw [State.setTask_tasks_of_ne same]
      intro runs
      exact untouched.others other same (Task.mentions_of_runsOn runs)
  | enter reached free =>
    exact spared.enter (unlisted_of_turnsShown wf shown reached free)
  | wait reached => exact spared.moveIdle rfl rfl
  | writing reached stepTo => exact spared.resumeWriting reached stepTo
  | reading reached stepTo => exact spared.resumeReading reached stepTo
  | terminated reached => exact spared.moveIdle rfl rfl
  | finishRead reached => exact spared.finishRead
  | @notStale _ _ live reached =>
    cases live
    · exact spared.moveIdle rfl rfl
    · exact spared.move reached (by simp) (by rintro _ ⟨⟩)
  | stale reached _ => exact spared.moveIdle rfl rfl
  | streaming reached stepTo => exact spared.resumeStreaming reached stepTo
  | kill reached => exact spared.kill reached
  | killWait reached _ => exact spared.move reached (by simp) fun _ => id
  | unlink reached =>
    exact Spared.unlinkPromptFile (spared.move reached (by simp) fun _ => id)
  | killed reached => exact spared.afterKill reached
  | @sweeping rest reached =>
    unfold State.sweepNext
    split
    · exact spared.moveIdle rfl rfl
    · exact spared.move reached (by simp) fun _ => id
  | onReap reached => exact spared.move reached (by simp) fun _ => id
  | @stopping rest reached =>
    unfold State.stopNext
    split <;> exact spared.moveIdle rfl rfl

theorem start (spared : Spared state) (runs : point.runsOn = none)
    (lists : point.listed = []) : Spared (state.start point) :=
  (spared.moveIdle runs lists).congr rfl rfl rfl rfl rfl

/-- No turn runs on a process whose lock is free, unless it is being
streamed. -/
theorem idle_of_unlocked (wf : WellFormed state) (free : (state.processes process).lock = none)
    (unread : ∀ other < state.started, (state.tasks other).iterates ≠ some process) (other : Nat) :
    (state.tasks other).runsOn ≠ some process := by
  intro runs
  have active : other < state.started := wf.lt_started fun gone => by
    rw [gone] at runs
    cases runs
  rcases Task.iterates_or_lockOf runs with streamed | holds
  · exact unread other active streamed
  · rw [wf.lock other process holds] at free
    cases free

theorem sweep (spared : Spared state) (wf : WellFormed state)
    (shown : TurnsShown settings state .sweep) :
    Spared (state.start (.sweeping (state.chosen settings))) := by
  have quiet : ∀ poolId ∈ (state.chosen settings).map Prod.fst,
      ∀ process, state.entries.lookup poolId = some process →
        (state.processes process).alive = true →
          ∀ other, (state.tasks other).runsOn ≠ some process := by
    intro poolId member process found alive
    obtain ⟨⟨_, chosen⟩, listed, rfl⟩ := List.mem_map.mp member
    obtain ⟨item, old⟩ := List.mem_filter.mp listed
    obtain rfl : chosen = process :=
      Option.some.inj ((OrderedDict.mem_items.mp item).symm.trans found)
    simp only [alive, Bool.not_true, Bool.false_or, Bool.and_eq_true,
      decide_eq_true_eq, Option.isNone_iff_eq_none] at old
    exact idle_of_unlocked wf old.2 (shown _ item alive old.2 old.1)
  refine ⟨fun sweeper poolId member process found alive other => ?_,
    spared.reaped, spared.drainedOver⟩
  have idle : (state.tasks other).runsOn ≠ some process := by
    by_cases same : sweeper = state.started
    · refine quiet poolId ?_ process found alive other
      rw [same] at member
      simpa [State.start, State.setTask, Task.listed] using member
    · refine spared.listed sweeper poolId ?_ process found alive other
      simpa [State.start, State.setTask, same] using member
  by_cases same : other = state.started
  · simp [State.start, State.setTask, same]
  · simpa [State.start, State.setTask, same] using idle

theorem drainCheck (spared : Spared state) (wf : WellFormed state)
    (shown : TurnsShown settings state .drainCheck) :
    Spared state.drainCheck := by
  unfold State.drainCheck
  split
  · rename_i free
    have unlocked : ∀ item ∈ state.entries.items, (state.processes item.2).lock = none := by
      simpa using free
    have visible := shown unlocked
    refine ⟨spared.listed, spared.reaped, ?_⟩
    have none : state.turnsOn (fun _ => true) = [] := by
      rw [State.turnsOn, List.filter_eq_nil_iff]
      intro other started runs
      obtain ⟨process, running, -⟩ := (Option.any_eq_true _ _).mp runs
      have seen := visible other (List.mem_range.mp started)
      rw [running, Option.all_some] at seen
      have registered := of_decide_eq_true seen.2
      refine idle_of_unlocked wf (unlocked _
        (OrderedDict.mem_items.mpr registered)) ?_ other running
      intro third active
      rw [(visible third active).1]
      rintro ⟨⟩
    exact (congrArg (state.drainedOver ++ ·) none).trans (by simpa using spared.drainedOver)
  · exact spared

theorem cancel (spared : Spared state) : Spared (state.cancel task) := by
  unfold State.cancel
  dsimp only
  split
  · rename_i rest reached
    exact spared.move reached (by simp) fun _ => id
  · split
    · exact (spared.moveIdle rfl rfl).unlock
    · exact spared.moveIdle rfl rfl

theorem stop (spared : Spared state) : Spared state.stop := by
  unfold State.stop
  dsimp only
  split
  · exact spared.start rfl rfl
  · split
    · exact spared.cancel
    · exact spared.cancel.start rfl rfl

theorem perform (spared : Spared state) (wf : WellFormed state)
    {action : Action} (shown : TurnsShown settings state action)
    (stepTo : perform settings state action = some after) :
    Spared after := by
  cases action with
  | send call | reset poolId | switchCwd poolId cwd =>
    obtain rfl := Option.some.inj stepTo
    exact spared.start rfl rfl
  | resumeDirect poolId sessionId =>
    obtain rfl := Option.some.inj stepTo
    unfold State.resumeDirect
    dsimp only
    split <;> exact spared.start rfl rfl
  | syncEvict poolId preserve =>
    obtain rfl := Option.some.inj stepTo
    unfold State.syncEvictEntry
    split
    · exact spared.congr rfl rfl rfl rfl rfl
    · exact spared.dropEntry poolId preserve
  | sweep =>
    unfold CliPool.perform at stepTo
    dsimp only at stepTo
    split at stepTo
    · obtain rfl := Option.some.inj stepTo
      exact (spared.sweep wf shown).congr rfl rfl rfl rfl rfl
    · cases stepTo
  | drainCheck =>
    obtain rfl := Option.some.inj stepTo
    exact spared.drainCheck wf shown
  | stop =>
    obtain rfl := Option.some.inj stepTo
    exact spared.stop
  | resume task outcome =>
    exact spared.resumes wf shown (State.resume_resumes stepTo)
  | cancel task =>
    obtain rfl := Option.some.inj stepTo
    exact spared.cancel
  | aclose task =>
    unfold CliPool.perform at stepTo
    dsimp only at stepTo
    split at stepTo
    · obtain rfl := Option.some.inj stepTo
      exact spared.cleanup (fun _ => rfl) (spared.moveIdle rfl rfl)
    · cases stepTo
  | exit process =>
    unfold CliPool.perform at stepTo
    dsimp only at stepTo
    split at stepTo
    · obtain rfl := Option.some.inj stepTo
      exact spared.modify fun live => absurd live Bool.false_ne_true
    · cases stepTo
  | closeStdout process =>
    obtain rfl := Option.some.inj stepTo
    exact spared.modify id
  | emit process line =>
    unfold CliPool.perform State.emit at stepTo
    dsimp only at stepTo
    split at stepTo
    · split at stepTo
      · obtain rfl := Option.some.inj stepTo
        exact spared.modify id
      · cases stepTo
    · cases stepTo
  | clock now =>
    obtain rfl := Option.some.inj stepTo
    exact spared.congr rfl rfl rfl rfl rfl

theorem step (spared : Spared state) (wf : WellFormed state)
    {action : Action} (shown : TurnsShown settings state action)
    (stepTo : step settings state action = some after) : Spared after := by
  obtain ⟨performed, performs, rfl⟩ := step_eq_some stepTo
  exact (spared.perform wf shown performs).congr rfl rfl rfl rfl rfl

end Spared

/-- In every run that shows the turns, the reaper kills no live process on
which a turn runs, and `drain` finds nothing in flight only when no turn
runs. -/
theorem spared_of_reachable {settings : Settings} {state : State}
    (reached : (poolSystem settings).ReachableWithin (TurnsShown settings) state) :
    state.reaped = [] ∧ state.drainedOver = [] := by
  have start : ∀ state, (poolSystem settings).initial state →
      Spared state := by
    intro state initially
    rw [show state = { clock := state.clock } from initially]
    exact
      { listed := fun _ _ member => by cases member
        reaped := rfl
        drainedOver := rfl }
  have spared : Spared state := reached.invariant_of_invariant wellFormed_of_reachableWithin start
      fun _ _ _ wf spared shown stepTo => spared.step wf shown stepTo
  exact ⟨spared.reaped, spared.drainedOver⟩

/-- A blocking turn that takes longer than the TTL survives a sweep, and the
process is killed by a sweep after the turn. -/
theorem spared_of_long_blocking_turn :
    ∃ state, (poolSystem .ascii).ReachableWithin (TurnsShown .ascii) state ∧
      (state.processes 0).alive = false ∧ state.deliveries.length = 1 ∧
      state.reaped = [] ∧ state.drainedOver = [] := by
  have found : ∃ state, (poolSystem .ascii).ReachableWithin (TurnsShown .ascii) state ∧
      (state.processes 0).alive = false ∧ state.deliveries.length = 1 :=
    TransitionSystem.exists_reachableWithin_of_checkedRun {} rfl
      (spawnAndWrite { streaming := false, poolId := "p" } 0 ++
        [.clock 2000, .sweep, .resume 1 .ready, .drainCheck,
          .emit 0 (.json (.obj [(.text "type", .ofString "result")])),
          .resume 0 .line, .resume 0 .ready, .drainCheck,
          .clock 4000, .sweep, .resume 2 .ready, .resume 2 .ready, .exit 0])
      (by decide +kernel)
  obtain ⟨state, reached, killed, delivered⟩ := found
  have spared := spared_of_reachable reached
  exact ⟨state, reached, killed, delivered, spared.1, spared.2⟩

/-- A streaming turn that is still being read after the TTL: `drain` does not
see it, and the reaper kills its process. -/
theorem exists_streaming_turn_reaped : ∃ state, (poolSystem .ascii).Reachable state ∧
      (state.tasks 0).runsOn = some 0 ∧ state.drainedOver = [0] ∧
      state.reaped = [0] :=
  TransitionSystem.exists_reachable_of_run {} rfl
    (spawnAndWrite { streaming := true, poolId := "p" } 0 ++
      [.drainCheck, .clock 2000, .sweep, .resume 1 .ready, .resume 1 .ready])
    (by decide +kernel)

end CliPool

end RoxabiFactory

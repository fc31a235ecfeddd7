import RoxabiFactory.CliPoolWellFormed

/-!
# The owners of the CLI subprocesses

Between its start and its registration a process belongs to the spawn that
has started it, and between its removal from the entries and its exit to the
kill that ends it; otherwise it should be the registered process of its pool.
The same holds for the file with its system prompt.

A spawn looks at the entries before its first `await` and registers its
process after the last one, so two spawns for one pool make two processes.  An
operation that is cancelled while it spawns or kills abandons what it owns.  A
dead entry is replaced without a kill, which leaves its prompt file behind.
-/

namespace RoxabiFactory

namespace CliPool

/-- The process that the task starts or ends. -/
def Task.owns : Task → Option Nat
  | spawnExec _ process | spawnProbe _ process | spawnStderr _ process
  | killWait process _ | unlink process _ => some process
  | _ => none

/-- The process that the task has started or is about to start, and has not
registered. -/
def Task.launches : Task → Option Nat
  | spawnExec _ process | spawnProbe _ process => some process
  | _ => none

/-- The process that the task knows to be dead. -/
def Task.buries : Task → Option Nat
  | spawnExec _ process | spawnStderr _ process | unlink process _ =>
    some process
  | _ => none

/-- The process is dead, and its prompt file does not exist. -/
def State.gone (state : State) (process : Nat) : Bool :=
  !(state.processes process).alive && !(state.processes process).promptFile

/-- A process is spawned only when no other operation launches a process of
its pool or kills one that is still alive, when no live process is registered
for the pool, and when its command can be built once its prompt file exists;
it replaces no entry with a prompt file.  An operation that owns a process is
not cancelled before the process and its prompt file are gone, and only such
entries are evicted. -/
def KeepsOwners (state : State) : Action → Prop
  | .resume task outcome =>
    match state.tasks task, outcome with
    | .spawn call, _ =>
      (∀ other < state.started, ((state.tasks other).launches.all fun process =>
          decide ((state.processes process).poolId ≠ call.poolId)) = true ∧
        ((state.tasks other).victim.all fun process =>
          !(state.processes process).alive ||
            decide ((state.processes process).poolId ≠ call.poolId)) =
          true) ∧
      ((state.entries.lookup call.poolId).all fun process =>
        !(state.processes process).alive) = true ∧
      ((state.newProcess call).promptFile = true →
        State.commandBuilds (state.newProcess call) = true)
    | .spawnProbe _ process, .timedOut =>
      ((state.entries.lookup (state.processes process).poolId).all
        fun replaced => !(state.processes replaced).promptFile) = true
    | _, _ => True
  | .cancel task => (state.tasks task).owns.all state.gone = true
  | .stop =>
    (state.reaper.all fun reaper =>
      (state.tasks reaper).owns.all state.gone) = true
  | .syncEvict poolId _ =>
    (state.entries.lookup poolId).all state.gone = true
  | _ => True

instance (state : State) (action : Action) :
    Decidable (KeepsOwners state action) := by
  unfold KeepsOwners
  casesm Action
  case resume task outcome =>
    dsimp only
    generalize state.tasks task = point
    casesm Task <;> casesm Outcome <;> dsimp only <;> infer_instance
  all_goals dsimp only; infer_instance

/-- The process is the registered one of its pool, or it belongs to a spawn
or a kill in progress. -/
def HasOwner (state : State) (process : Nat) : Prop := state.Registered process ∨
    ∃ task, (state.tasks task).owns = some process

/-- At most one process is alive for each pool, and every live process and
every prompt file has an owner. -/
structure ProcessesOwned (state : State) : Prop where
  unique : ∀ first second, (state.processes first).alive = true →
    (state.processes second).alive = true →
      (state.processes first).poolId = (state.processes second).poolId →
        first = second
  process : ∀ process, (state.processes process).alive = true → HasOwner state process
  promptFile : ∀ process, (state.processes process).promptFile = true → HasOwner state process

/-- The invariant behind `ProcessesOwned`: no other process of the pool is
alive while one is launched. -/
structure Owners (state : State) : Prop extends ProcessesOwned state where
  launch : ∀ task launched, (state.tasks task).launches = some launched →
    ∀ process, (state.processes process).alive = true →
      (state.processes process).poolId = (state.processes launched).poolId → process = launched
  launchUnique : ∀ first second firstProcess secondProcess,
    (state.tasks first).launches = some firstProcess →
      (state.tasks second).launches = some secondProcess → (state.processes firstProcess).poolId =
          (state.processes secondProcess).poolId → first = second
  buried : ∀ task process, (state.tasks task).buries = some process →
    (state.processes process).alive = false

theorem Task.spawning_of_launches {point : Task} {process : Nat}
    (launches : point.launches = some process) :
    point.spawning = some process := by
  cases point with
  | spawnExec _ _ | spawnProbe _ _ => exact launches
  | _ => cases launches

theorem Task.owns_of_launches {point : Task} {process : Nat}
    (launches : point.launches = some process) :
    point.owns = some process := by
  cases point with
  | spawnExec _ _ | spawnProbe _ _ => exact launches
  | _ => cases launches

theorem Task.owns_of_buries {point : Task} {process : Nat} (buries : point.buries = some process) :
    point.owns = some process := by
  cases point with
  | spawnExec _ _ | spawnStderr _ _ | unlink _ _ => exact buries
  | _ => cases buries

theorem Task.mentions_of_owns {point : Task} {process : Nat}
    (owns : point.owns = some process) : point.Mentions process := by
  cases point with
  | spawnExec _ _ | spawnProbe _ _ | spawnStderr _ _ => exact .inl owns
  | killWait _ _ | unlink _ _ => exact .inr owns
  | _ => cases owns

theorem State.gone_of_alive {state : State} {process : Nat}
    (alive : (state.processes process).alive = true) :
    state.gone process = false := by
  simp [State.gone, alive]

theorem State.gone_of_promptFile {state : State} {process : Nat}
    (existing : (state.processes process).promptFile = true) :
    state.gone process = false := by
  simp [State.gone, existing]

namespace Owners

variable {state after : State} {task process : Nat} {point before : Task}
variable {call : TurnCall} {settings : Settings} {next : AfterKill}
variable {outcome : Outcome}

/-- Nothing comes to life or is launched, and every process that is not gone
keeps an owner. -/
theorem transfer (owners : Owners state) (poolId : ∀ process, (after.processes process).poolId =
      (state.processes process).poolId)
    (alive : ∀ process, (after.processes process).alive = true →
      (state.processes process).alive = true)
    (promptFile : ∀ process, (after.processes process).promptFile = true →
      (state.processes process).promptFile = true)
    (owner : ∀ process, HasOwner state process →
      state.gone process = false → HasOwner after process)
    (launches : ∀ task process, (after.tasks task).launches = some process →
      (state.tasks task).launches = some process)
    (buries : ∀ task process, (after.tasks task).buries = some process →
      (state.processes process).alive = false) : Owners after where
  unique first second firstAlive secondAlive := by
    rw [poolId, poolId]
    exact owners.unique first second (alive first firstAlive) (alive second secondAlive)
  process process live :=
    have lived := alive process live
    owner process (owners.process process lived) (State.gone_of_alive lived)
  promptFile process existing :=
    have existed := promptFile process existing
    owner process (owners.promptFile process existed) (State.gone_of_promptFile existed)
  launch task launched launching process live := by
    rw [poolId, poolId]
    exact owners.launch task launched (launches task launched launching)
      process (alive process live)
  launchUnique first second firstProcess secondProcess firstLaunches
      secondLaunches := by
    rw [poolId, poolId]
    exact owners.launchUnique first second firstProcess secondProcess
      (launches first firstProcess firstLaunches)
      (launches second secondProcess secondLaunches)
  buried task process buriesProcess := by
    rw [← Bool.not_eq_true]
    intro live
    have dead := buries task process buriesProcess
    rw [alive process live] at dead
    cases dead

theorem congr (owners : Owners state) (tasks : after.tasks = state.tasks)
    (processes : after.processes = state.processes)
    (entries : after.entries = state.entries) : Owners after := by
  refine owners.transfer (by simp [processes]) (by simp [processes])
    (by simp [processes]) (fun process owner _ => ?_) (by simp [tasks])
    (by rw [tasks]; exact owners.buried)
  rw [HasOwner, State.Registered, tasks, processes, entries]
  exact owner

/-- A task goes on with the process it owns, or after that process has been
registered or is gone. -/
theorem move (owners : Owners state) (kept : ∀ process, (state.tasks task).owns = some process →
      point.owns = some process ∨ state.Registered process ∨ state.gone process = true)
    (launches : ∀ process, point.launches = some process →
      (state.tasks task).launches = some process)
    (buries : ∀ process, point.buries = some process → (state.processes process).alive = false) :
    Owners (state.setTask task point) := by
  refine owners.transfer (fun _ => rfl) (fun _ => id) (fun _ => id) ?_
    (fun other process => ?_) fun other process => ?_
  · rintro process (registered | ⟨other, owned⟩) needed
    · exact .inl registered
    · by_cases same : other = task
      · subst same
        rcases kept process owned with owns | registered | gone
        · exact .inr ⟨other, by rw [State.setTask_tasks_self, owns]⟩
        · exact .inl registered
        · rw [gone] at needed
          cases needed
      · exact .inr ⟨other, by rw [State.setTask_tasks_of_ne same, owned]⟩
  · by_cases same : other = task
    · rw [same, State.setTask_tasks_self]
      exact launches process
    · rw [State.setTask_tasks_of_ne same]
      exact id
  · by_cases same : other = task
    · rw [same, State.setTask_tasks_self]
      exact buries process
    · rw [State.setTask_tasks_of_ne same]
      exact owners.buried other process

/-- A task goes on without a process, once the one it owned is gone. -/
theorem abandon (owners : Owners state) (gone : (state.tasks task).owns.all state.gone = true)
    (owns : point.owns = none) : Owners (state.setTask task point) := by
  refine owners.move (fun process owned => .inr (.inr ?_))
    (fun process launches => ?_) fun process buries => ?_
  · simpa [owned] using gone
  · rw [Task.owns_of_launches launches] at owns
    cases owns
  · rw [Task.owns_of_buries buries] at owns
    cases owns

theorem moveFree (owners : Owners state)
    (free : (state.tasks task).owns = none) (owns : point.owns = none) :
    Owners (state.setTask task point) :=
  owners.abandon (by rw [free]; rfl) owns

theorem modify (owners : Owners state) {change : Process → Process}
    (poolId : (change (state.processes process)).poolId = (state.processes process).poolId)
    (alive : (change (state.processes process)).alive = true →
      (state.processes process).alive = true)
    (promptFile : (change (state.processes process)).promptFile = true →
      (state.processes process).promptFile = true) :
    Owners (state.modify process change) := by
  have pools : ∀ other, ((state.modify process change).processes
      other).poolId = (state.processes other).poolId := by
    intro other
    by_cases same : other = process
    · rw [same, State.modify_processes_self, poolId]
    · rw [State.modify_processes_of_ne same]
  refine owners.transfer pools (fun other => ?_) (fun other => ?_) ?_ (fun _ _ => id) owners.buried
  · by_cases same : other = process
    · rw [same, State.modify_processes_self]
      exact alive
    · rw [State.modify_processes_of_ne same]
      exact id
  · by_cases same : other = process
    · rw [same, State.modify_processes_self]
      exact promptFile
    · rw [State.modify_processes_of_ne same]
      exact id
  · rintro other (registered | owned) -
    · left
      rw [State.Registered, pools]
      exact registered
    · exact .inr owned

theorem unlock (owners : Owners state) : Owners (state.unlock task process) :=
  owners.modify rfl id id

theorem deliver (owners : Owners state) (turn : Nat) (sources : List Nat)
    (contents : List Delivered) :
    Owners (state.deliver turn sources contents) :=
  owners.congr rfl rfl rfl

theorem attempt (owners : Owners state) (free : (state.tasks task).owns = none) :
    Owners (state.attempt task call) := by
  unfold State.attempt
  split
  · exact owners.moveFree free rfl
  · dsimp only
    split
    · exact owners.moveFree free rfl
    · split
      · exact owners.moveFree free rfl
      · exact owners.moveFree free rfl

theorem iterate (owners : Owners state) (free : (state.tasks task).owns = none) (live : Bool) :
    Owners (state.iterate task call process live) := by
  unfold State.iterate
  refine (owners.moveFree free ?_).unlock
  cases live <;> split <;> rfl

theorem cleanup (owners : Owners state) {otherwise : State} (free : (state.tasks task).owns = none)
    (ownersOtherwise : Owners otherwise) :
    Owners (state.cleanup task process next otherwise) := by
  unfold State.cleanup
  split
  · exact owners.moveFree free rfl
  · exact ownersOtherwise

theorem finishRead (owners : Owners state) {result : CliResult}
    {sources : List Nat} (free : (state.tasks task).owns = none) :
    Owners (state.finishRead task call process result sources) := by
  unfold State.finishRead
  split
  · exact owners.moveFree free rfl
  · exact owners.moveFree free rfl
  · exact Owners.deliver (modify (unlock (owners.moveFree free rfl)) rfl id id) _ _ _
  · exact owners.moveFree free rfl

theorem afterKill (owners : Owners state) (free : (state.tasks task).owns = none) :
    Owners (state.afterKill settings task next) := by
  unfold State.afterKill
  split
  · exact owners.moveFree free rfl
  · exact owners.moveFree free rfl
  · exact (owners.moveFree free rfl).congr rfl rfl rfl
  · exact (owners.moveFree free rfl).congr rfl rfl rfl
  · exact owners.moveFree free rfl
  · exact (owners.moveFree free rfl).unlock
  · exact owners.moveFree free rfl
  · exact Owners.deliver (unlock (owners.moveFree free rfl)) _ _ _
  · exact owners.iterate free false
  · refine owners.moveFree free ?_
    split <;> rfl
  · exact owners.moveFree free rfl

theorem enter (owners : Owners state) (free : (state.tasks task).owns = none) :
    Owners (state.enter task call process) := by
  unfold State.enter
  split
  · exact Owners.moveFree (owners.modify rfl id id) free rfl
  · exact owners.moveFree free rfl

theorem resumeReading (owners : Owners state) {reading : BlockingReader}
    (free : (state.tasks task).owns = none)
    (stepTo : state.resumeReading settings task call process reading outcome =
      some after) : Owners after := by
  rcases State.resumeReading_cases stepTo with
    ⟨output, -, -, rfl⟩ | ⟨output, -, -, rfl⟩ | ⟨-, -, rfl⟩ | ⟨-, -, -, rfl⟩ | rfl
  · refine modify (modify (owners.moveFree free ?_) rfl id id) rfl id id
    unfold BlockingReader.next
    split <;> rfl
  · exact modify (owners.moveFree free rfl) rfl id id
  all_goals exact owners.moveFree free rfl

theorem resumeStreaming (owners : Owners state) {reading : StreamReader}
    (free : (state.tasks task).owns = none)
    (stepTo : state.resumeStreaming settings task process reading outcome =
      some after) : Owners after := by
  rcases State.resumeStreaming_cases stepTo with
    ⟨output, -, -, rfl⟩ | ⟨-, -, rfl⟩ | ⟨-, -, rfl⟩ | ⟨-, -, rfl⟩ | rfl
  · refine Owners.deliver (modify (modify (owners.moveFree free ?_)
      rfl id id) rfl id id) _ _ _
    unfold StreamReader.next
    split
    · rfl
    · split <;> rfl
  · exact modify (owners.moveFree free rfl) rfl id id
  · exact owners.moveFree free rfl
  · exact owners.cleanup free (owners.moveFree free rfl)
  · exact owners.moveFree free rfl

theorem resumeWriting (owners : Owners state) (free : (state.tasks task).owns = none)
    (stepTo : state.resumeWriting task call process outcome = some after) :
    Owners after := by
  unfold State.resumeWriting at stepTo
  split at stepTo
  · cases stepTo
    split
    · exact owners.iterate free true
    · exact owners.moveFree free rfl
  · cases stepTo
    split
    · exact owners.cleanup free (owners.iterate free false)
    · exact owners.moveFree free rfl
  · cases stepTo
    split
    · exact (owners.moveFree free rfl).unlock
    · exact owners.moveFree free rfl
  · cases stepTo

/-- A task that owned no process takes the registered one of a pool out of
the entries. -/
theorem take (owners : Owners state) {poolId : String} {preserve : Bool}
    (free : (state.tasks task).owns = none)
    (found : state.entries.lookup poolId = some process)
    (owns : point.owns = some process) (launches : point.launches = none)
    (buries : point.buries = some process → (state.processes process).alive = false) :
    Owners ((state.dropEntry poolId preserve).setTask task point) := by
  refine owners.transfer (fun _ => rfl) (fun _ => id) (fun _ => id) ?_
    (fun other launched => ?_) fun other buried => ?_
  · rintro other (registered | ⟨third, owned⟩) -
    · by_cases same : (state.processes other).poolId = poolId
      · rw [State.Registered, same, found, Option.some.injEq] at registered
        subst registered
        exact .inr ⟨task, by rw [State.setTask_tasks_self, owns]⟩
      · exact .inl ((AList.lookup_erase_ne same).trans registered)
    · have different : third ≠ task := by
        rintro rfl
        rw [free] at owned
        cases owned
      exact .inr ⟨third, by
        rw [State.setTask_tasks_of_ne different]
        exact owned⟩
  · by_cases same : other = task
    · rw [same, State.setTask_tasks_self, launches]
      nofun
    · rw [State.setTask_tasks_of_ne same]
      exact id
  · by_cases same : other = task
    · rw [same, State.setTask_tasks_self]
      intro buriesOther
      have owned := Task.owns_of_buries buriesOther
      rw [owns, Option.some.injEq] at owned
      subst owned
      exact buries buriesOther
    · rw [State.setTask_tasks_of_ne same]
      exact owners.buried other buried

theorem dropEntry (owners : Owners state) {poolId : String} {preserve : Bool}
    (gone : (state.entries.lookup poolId).all state.gone = true) :
    Owners (state.dropEntry poolId preserve) := by
  refine owners.transfer (fun _ => rfl) (fun _ => id) (fun _ => id) ?_ (fun _ _ => id) owners.buried
  rintro other (registered | owned) needed
  · by_cases same : (state.processes other).poolId = poolId
    · rw [State.Registered, same] at registered
      simp [registered, needed] at gone
    · exact .inl ((AList.lookup_erase_ne same).trans registered)
  · exact .inr owned

theorem kill (owners : Owners state) {poolId : String} {preserve : Bool}
    (free : (state.tasks task).owns = none) :
    Owners (state.kill task poolId preserve next) := by
  unfold State.kill
  split
  · rename_i missing
    have dropped : Owners (state.dropEntry poolId preserve) := owners.dropEntry (by simp [missing])
    exact dropped.moveFree free rfl
  · rename_i victim found
    split
    · exact (owners.take free found rfl rfl (fun buries => by
        cases buries)).congr rfl rfl rfl
    · rename_i dead
      exact owners.take free found rfl rfl fun _ => Bool.not_eq_true _ ▸ dead

/-- A task removes the prompt file of the dead process that it owns, and is
done with it. -/
theorem unlinkPromptFile (owners : Owners state) (buries : (state.tasks task).buries = some process)
    (owns : point.owns = none) :
    Owners ((state.setTask task point).unlinkPromptFile process) := by
  have dead := owners.buried task process buries
  have removed : Owners (state.unlinkPromptFile process) := owners.modify rfl id nofun
  refine removed.abandon ?_ owns
  rw [State.unlinkPromptFile, State.modify_tasks, Task.owns_of_buries buries]
  simp [State.gone, dead]

theorem sweepNext (owners : Owners state)
    (free : (state.tasks task).owns = none) (rest : List (String × Nat)) :
    Owners (state.sweepNext task rest) := by
  unfold State.sweepNext
  split
  · exact owners.moveFree free rfl
  · exact owners.moveFree free rfl

theorem stopNext (owners : Owners state)
    (free : (state.tasks task).owns = none) (rest : List String) :
    Owners (state.stopNext task rest) := by
  unfold State.stopNext
  split
  · exact owners.moveFree free rfl
  · exact owners.moveFree free rfl

theorem start (owners : Owners state) (wf : WellFormed state)
    (owns : point.owns = none) : Owners (state.start point) := by
  refine (owners.moveFree ?_ owns).congr rfl rfl rfl
  rw [wf.idle state.started (Nat.le_refl _)]
  rfl

theorem not_alive_of_keepsOwners (owners : Owners state)
    (wf : WellFormed state) (reached : state.tasks task = .spawn call)
    (keeps : KeepsOwners state (.resume task outcome))
    (alive : (state.processes process).alive = true) :
    (state.processes process).poolId ≠ call.poolId := by
  simp only [KeepsOwners, reached] at keeps
  obtain ⟨others, entry, -⟩ := keeps
  intro pool
  rcases owners.process process alive with registered | ⟨other, owned⟩
  · rw [State.Registered, pool] at registered
    simp [registered, alive] at entry
  · have active : other < state.started := wf.lt_started fun gone => by
      rw [gone] at owned
      cases owned
    have allowed := others other active
    cases point : state.tasks other with
    | spawnExec _ _ | spawnProbe _ _ =>
      obtain rfl : _ = process := by simpa [point, Task.owns] using owned
      simp [point, Task.launches, pool] at allowed
    | killWait _ _ =>
      obtain rfl : _ = process := by simpa [point, Task.owns] using owned
      simp [point, Task.victim, alive, pool] at allowed
    | spawnStderr _ _ | unlink _ _ =>
      obtain rfl : _ = process := by simpa [point, Task.owns] using owned
      have dead := owners.buried other _ (by rw [point]; rfl)
      rw [dead] at alive
      cases alive
    | _ => simp [point, Task.owns] at owned

theorem spawn (owners : Owners state) (wf : WellFormed state)
    (reached : state.tasks task = .spawn call)
    (keeps : KeepsOwners state (.resume task outcome)) :
    Owners (state.spawn task call) := by
  have silent : ∀ process, (state.processes process).alive = true →
      (state.processes process).poolId ≠ call.poolId :=
    fun process => owners.not_alive_of_keepsOwners wf reached keeps
  simp only [KeepsOwners, reached] at keeps
  obtain ⟨others, -, builds⟩ := keeps
  have known : ∀ {other process},
      (state.tasks other).owns = some process → process ≠ state.spawned :=
    fun owned =>
      Nat.ne_of_lt (wf.mentioned _ _ (Task.mentions_of_owns owned))
  have old : ∀ {process}, ((state.spawn task call).processes process).alive = true →
        process ≠ state.spawned ∧ (state.processes process).alive = true := by
    intro process alive
    have different : process ≠ state.spawned := by
      rintro rfl
      rw [spawn_processes_new] at alive
      cases alive
    exact ⟨different, spawn_processes_of_ne different ▸ alive⟩
  have owner : ∀ process, process ≠ state.spawned →
      HasOwner state process → HasOwner (state.spawn task call) process := by
    rintro process different (registered | ⟨other, owned⟩)
    · left
      rw [State.Registered, spawn_processes_of_ne different]
      exact registered
    · have different : other ≠ task := by
        rintro rfl
        rw [reached] at owned
        cases owned
      exact .inr ⟨other, by rw [spawn_tasks_of_ne different, owned]⟩
  have launched : ∀ {process}, ((state.spawn task call).tasks task).launches = some process →
        process = state.spawned := by
    intro process launches
    rw [spawn_tasks_self] at launches
    split at launches
    · exact (Option.some.inj launches).symm
    · cases launches
  have elsewhere : ∀ {other process}, other ≠ task →
      ((state.spawn task call).tasks other).launches = some process → process ≠ state.spawned ∧
          (state.tasks other).launches = some process ∧
            (state.processes process).poolId ≠ call.poolId := by
    intro other process different launches
    rw [spawn_tasks_of_ne different] at launches
    have active : other < state.started := wf.lt_started fun gone => by
      rw [gone] at launches
      cases launches
    refine ⟨known (Task.owns_of_launches launches), launches, ?_⟩
    simpa [launches] using (others other active).1
  exact
    { unique := fun first second firstAlive secondAlive => by
        obtain ⟨firstOld, firstAlive⟩ := old firstAlive
        obtain ⟨secondOld, secondAlive⟩ := old secondAlive
        rw [spawn_processes_of_ne firstOld, spawn_processes_of_ne secondOld]
        exact owners.unique first second firstAlive secondAlive
      process := fun process alive => by
        obtain ⟨different, alive⟩ := old alive
        exact owner process different (owners.process process alive)
      promptFile := fun process existing => by
        by_cases new : process = state.spawned
        · subst new
          rw [spawn_processes_new] at existing
          exact .inr ⟨task, by
            rw [spawn_tasks_self, if_pos (builds existing)]
            rfl⟩
        · rw [spawn_processes_of_ne new] at existing
          exact owner process new (owners.promptFile process existing)
      launch := fun other process launches third alive => by
        obtain ⟨isOld, wasAlive⟩ := old alive
        rw [spawn_processes_of_ne isOld]
        by_cases same : other = task
        · rw [same] at launches
          rw [launched launches, spawn_processes_new]
          exact fun pool => absurd pool (silent third wasAlive)
        · obtain ⟨different, before, -⟩ := elsewhere same launches
          rw [spawn_processes_of_ne different]
          exact owners.launch other process before third wasAlive
      launchUnique := fun first second firstProcess secondProcess
          firstLaunches secondLaunches pools => by
        by_cases isFirst : first = task
        · by_cases isSecond : second = task
          · rw [isFirst, isSecond]
          · obtain ⟨different, -, pool⟩ := elsewhere isSecond secondLaunches
            subst isFirst
            rw [launched firstLaunches, spawn_processes_new,
              spawn_processes_of_ne different] at pools
            exact absurd pools.symm pool
        · obtain ⟨different, before, pool⟩ := elsewhere isFirst firstLaunches
          by_cases isSecond : second = task
          · subst isSecond
            rw [launched secondLaunches, spawn_processes_new,
              spawn_processes_of_ne different] at pools
            exact absurd pools pool
          · obtain ⟨differentSecond, beforeSecond, -⟩ :=
              elsewhere isSecond secondLaunches
            rw [spawn_processes_of_ne different, spawn_processes_of_ne differentSecond] at pools
            exact owners.launchUnique first second _ _ before beforeSecond pools
      buried := fun other process buries => by
        by_cases same : other = task
        · subst same
          have buriesNew : process = state.spawned := by
            rw [spawn_tasks_self] at buries
            split at buries
            · exact (Option.some.inj buries).symm
            · cases buries
          rw [buriesNew, spawn_processes_new]
          rfl
        · rw [spawn_tasks_of_ne same] at buries
          rw [spawn_processes_of_ne (known (Task.owns_of_buries buries))]
          exact owners.buried other process buries }

theorem execReady (owners : Owners state) (wf : WellFormed state)
    (reached : state.tasks task = .spawnExec call process) :
    Owners ((state.setTask task (.spawnProbe call process)).modify process
      fun entry => { entry with alive := true }) := by
  have launches : (state.tasks task).launches = some process := by
    rw [reached]
    rfl
  have moved : Owners (state.setTask task (.spawnProbe call process)) :=
    owners.move (fun other owned => .inl (by rw [← owned, reached]; rfl))
      (fun other launching => by rw [← launching, reached]; rfl)
      fun _ launching => by cases launching
  have elsewhere : ∀ other, other ≠ task →
      ((state.setTask task (.spawnProbe call process)).tasks other).buries ≠
        some process := by
    intro other different buries
    rw [State.setTask_tasks_of_ne different] at buries
    exact (wf.fresh task process (Task.spawning_of_launches launches)).others
      other different (Task.mentions_of_owns (Task.owns_of_buries buries))
  revert moved elsewhere
  generalize grown : state.setTask task (.spawnProbe call process) = probing
  intro moved elsewhere
  have self : probing.tasks task = .spawnProbe call process := by
    rw [← grown, State.setTask_tasks_self]
  have launching : (probing.tasks task).launches = some process := by
    rw [self]
    rfl
  have pools : ∀ other, ((probing.modify process fun entry =>
      { entry with alive := true }).processes other).poolId =
        (probing.processes other).poolId := by
    intro other
    by_cases same : other = process
    · rw [same, State.modify_processes_self]
    · rw [State.modify_processes_of_ne same]
  have lived : ∀ {other}, other ≠ process → ((probing.modify process fun entry =>
        { entry with alive := true }).processes other).alive = true →
          (probing.processes other).alive = true := by
    intro other different
    rw [State.modify_processes_of_ne different]
    exact id
  have alone : ∀ other, ((probing.modify process fun entry =>
      { entry with alive := true }).processes other).alive = true →
        (probing.processes other).poolId = (probing.processes process).poolId →
          other = process := by
    intro other alive pool
    by_contra different
    exact different (moved.launch task process launching other (lived different alive) pool)
  have owner : ∀ other, HasOwner probing other → HasOwner (probing.modify process fun entry =>
        { entry with alive := true }) other := by
    rintro other (registered | owned)
    · left
      rw [State.Registered, pools]
      exact registered
    · exact .inr owned
  exact
    { unique := fun first second firstAlive secondAlive => by
        rw [pools, pools]
        intro pool
        by_cases isFirst : first = process
        · subst isFirst
          exact (alone second secondAlive pool.symm).symm
        · by_cases isSecond : second = process
          · subst isSecond
            exact alone first firstAlive pool
          · exact moved.unique first second (lived isFirst firstAlive)
              (lived isSecond secondAlive) pool
      process := fun other alive => by
        by_cases same : other = process
        · exact .inr ⟨task, by rw [State.modify_tasks, self, same]; rfl⟩
        · exact owner other (moved.process other (lived same alive))
      promptFile := fun other existing => by
        refine owner other (moved.promptFile other ?_)
        by_cases same : other = process
        · subst same
          rwa [State.modify_processes_self] at existing
        · rwa [State.modify_processes_of_ne same] at existing
      launch := fun other launched launches third alive => by
        rw [pools, pools]
        intro pool
        by_cases same : third = process
        · subst same
          have isTask := moved.launchUnique other task launched third launches launching pool.symm
          rw [isTask, State.modify_tasks, launching] at launches
          exact Option.some.inj launches
        · exact moved.launch other launched launches third (lived same alive) pool
      launchUnique := fun first second firstProcess secondProcess => by
        rw [pools, pools]
        exact moved.launchUnique first second firstProcess secondProcess
      buried := fun other buried buries => by
        by_cases same : buried = process
        · subst same
          by_cases isTask : other = task
          · rw [isTask, State.modify_tasks, self] at buries
            cases buries
          · exact absurd buries (elsewhere other isTask)
        · rw [State.modify_processes_of_ne same]
          exact moved.buried other buried buries }

theorem assign (owners : Owners state)
    (replaced : (state.entries.lookup (state.processes process).poolId).all state.gone = true) :
    Owners { state with
      entries := state.entries.assign (state.processes process).poolId
        process } := by
  refine owners.transfer (fun _ => rfl) (fun _ => id) (fun _ => id) ?_ (fun _ _ => id) owners.buried
  rintro other (registered | owned) needed
  · by_cases same : (state.processes other).poolId = (state.processes process).poolId
    · rw [State.Registered, same] at registered
      simp [registered, needed] at replaced
    · exact .inl ((OrderedDict.lookup_assign_ne same).trans registered)
  · exact .inr owned

theorem probeAlive (owners : Owners state) (wf : WellFormed state)
    (reached : state.tasks task = .spawnProbe call process)
    (replaced : ∀ other, state.entries.lookup (state.processes process).poolId = some other →
        (state.processes other).promptFile = false) :
    Owners ((state.setTask task (.acquire call process)).register process) := by
  have launches : (state.tasks task).launches = some process := by
    rw [reached]
    rfl
  have gone : (state.entries.lookup (state.processes process).poolId).all state.gone = true := by
    rw [Option.all_eq_true]
    intro other found
    have dead : (state.processes other).alive = false := by
      rw [← Bool.not_eq_true]
      intro alive
      obtain rfl := owners.launch task process launches other alive (wf.entry _ other found).2
      exact (wf.fresh task other (Task.spawning_of_launches launches)).entries _ found
    simp [State.gone, dead, replaced other found]
  have moved : Owners (State.setTask { state with
      entries := state.entries.assign (state.processes process).poolId
        process } task (.acquire call process)) := by
    refine (owners.assign gone).move (fun other owned => .inr (.inl ?_))
      (fun _ launches => by cases launches) fun _ buries => by cases buries
    obtain rfl : process = other := by
      rw [reached] at owned
      exact Option.some.inj owned
    exact OrderedDict.lookup_assign
  have touched : Owners (State.modify (State.setTask { state with
      entries := state.entries.assign (state.processes process).poolId
        process } task (.acquire call process)) process fun entry =>
          { entry with lastActivity := state.clock }) :=
    moved.modify rfl id id
  exact touched

/-- Every step of a task that keeps the owners. -/
theorem resumes (owners : Owners state) (wf : WellFormed state)
    (keeps : KeepsOwners state (.resume task outcome))
    (step : state.Resumes settings task outcome after) : Owners after := by
  cases step with
  | attempt reached => exact owners.attempt (by rw [reached]; rfl)
  | spawn reached => exact owners.spawn wf reached keeps
  | execReady reached => exact owners.execReady wf reached
  | execFailed reached _ | stderrRead reached =>
    exact owners.unlinkPromptFile (by rw [reached]; rfl) rfl
  | probeExited reached dead =>
    refine owners.move (fun other owned => .inl ?_)
      (fun _ launches => by cases launches) fun other buries => ?_
    · rw [← owned, reached]
      rfl
    · obtain rfl := Option.some.inj buries
      exact dead
  | probeAlive reached expired =>
    subst expired
    simp only [KeepsOwners, reached] at keeps
    exact owners.probeAlive wf reached fun other found => by
      simpa [found] using keeps
  | enter reached free =>
    refine owners.enter ?_
    rcases reached with reached | reached <;> rw [reached] <;> rfl
  | wait reached => exact owners.moveFree (by rw [reached]; rfl) rfl
  | writing reached stepTo =>
    exact owners.resumeWriting (by rw [reached]; rfl) stepTo
  | reading reached stepTo =>
    exact owners.resumeReading (by rw [reached]; rfl) stepTo
  | terminated reached => exact owners.moveFree (by rw [reached]; rfl) rfl
  | finishRead reached => exact owners.finishRead (by rw [reached]; rfl)
  | @notStale _ _ live reached =>
    refine owners.moveFree (by rw [reached]; rfl) ?_
    cases live <;> rfl
  | stale reached _ => exact owners.moveFree (by rw [reached]; rfl) rfl
  | streaming reached stepTo =>
    exact owners.resumeStreaming (by rw [reached]; rfl) stepTo
  | kill reached => exact owners.kill (by rw [reached]; rfl)
  | killWait reached dead =>
    refine owners.move (fun other owned => .inl ?_)
      (fun _ launches => by cases launches) fun other buries => ?_
    · rw [← owned, reached]
      rfl
    · obtain rfl := Option.some.inj buries
      exact dead
  | unlink reached =>
    exact owners.unlinkPromptFile (by rw [reached]; rfl) rfl
  | killed reached => exact owners.afterKill (by rw [reached]; rfl)
  | @sweeping rest reached =>
    exact owners.sweepNext (by rw [reached]; rfl) rest
  | onReap reached => exact owners.moveFree (by rw [reached]; rfl) rfl
  | @stopping rest reached =>
    exact owners.stopNext (by rw [reached]; rfl) rest

theorem cancel (owners : Owners state) (gone : (state.tasks task).owns.all state.gone = true) :
    Owners (state.cancel task) := by
  unfold State.cancel
  dsimp only
  split
  · exact owners.abandon gone rfl
  · split
    · exact (owners.abandon gone rfl).unlock
    · exact owners.abandon gone rfl

theorem stop (owners : Owners state) (wf : WellFormed state)
    (keeps : KeepsOwners state .stop) : Owners state.stop := by
  unfold State.stop
  dsimp only
  split
  · exact owners.start wf rfl
  · rename_i reaper known
    have gone : (state.tasks reaper).owns.all state.gone = true := by
      simpa [KeepsOwners, known] using keeps
    split
    · exact owners.cancel gone
    · exact (owners.cancel gone).start (wf.cancel reaper) rfl

theorem syncEvictEntry (owners : Owners state) {poolId : String} (preserve : Bool)
    (gone : (state.entries.lookup poolId).all state.gone = true) :
    Owners (state.syncEvictEntry poolId preserve) := by
  unfold State.syncEvictEntry
  split
  · exact owners.congr rfl rfl rfl
  · exact owners.dropEntry gone

theorem perform (owners : Owners state) (wf : WellFormed state)
    {action : Action} (keeps : KeepsOwners state action)
    (stepTo : perform settings state action = some after) :
    Owners after := by
  cases action with
  | send call | reset poolId | switchCwd poolId cwd =>
    obtain rfl := Option.some.inj stepTo
    exact owners.start wf rfl
  | resumeDirect poolId sessionId =>
    obtain rfl := Option.some.inj stepTo
    unfold State.resumeDirect
    dsimp only
    split
    · exact owners.start wf rfl
    · exact owners.start wf rfl
  | syncEvict poolId preserve =>
    obtain rfl := Option.some.inj stepTo
    exact owners.syncEvictEntry preserve keeps
  | sweep =>
    unfold CliPool.perform at stepTo
    dsimp only at stepTo
    split at stepTo
    · obtain rfl := Option.some.inj stepTo
      exact (owners.start wf rfl).congr rfl rfl rfl
    · cases stepTo
  | drainCheck =>
    obtain rfl := Option.some.inj stepTo
    unfold State.drainCheck
    split
    · exact owners.congr rfl rfl rfl
    · exact owners
  | stop =>
    obtain rfl := Option.some.inj stepTo
    exact owners.stop wf keeps
  | resume task outcome =>
    exact owners.resumes wf keeps (State.resume_resumes stepTo)
  | cancel task =>
    obtain rfl := Option.some.inj stepTo
    exact owners.cancel keeps
  | aclose task =>
    unfold CliPool.perform at stepTo
    dsimp only at stepTo
    split at stepTo
    · rename_i process reading reached
      have free : (state.tasks task).owns = none := by
        rw [reached]
        rfl
      obtain rfl := Option.some.inj stepTo
      exact owners.cleanup free (owners.moveFree free rfl)
    · cases stepTo
  | exit process =>
    unfold CliPool.perform at stepTo
    dsimp only at stepTo
    split at stepTo
    · obtain rfl := Option.some.inj stepTo
      exact owners.modify rfl (fun live => absurd live Bool.false_ne_true) id
    · cases stepTo
  | closeStdout process =>
    obtain rfl := Option.some.inj stepTo
    exact owners.modify rfl id id
  | emit process line =>
    unfold CliPool.perform State.emit at stepTo
    dsimp only at stepTo
    split at stepTo
    · split at stepTo
      · obtain rfl := Option.some.inj stepTo
        exact owners.modify rfl id id
      · cases stepTo
    · cases stepTo
  | clock now =>
    obtain rfl := Option.some.inj stepTo
    exact owners.congr rfl rfl rfl

theorem step (owners : Owners state) (wf : WellFormed state)
    {action : Action} (keeps : KeepsOwners state action)
    (stepTo : step settings state action = some after) : Owners after := by
  obtain ⟨performed, performs, rfl⟩ := step_eq_some stepTo
  exact (owners.perform wf keeps performs).congr rfl rfl rfl

end Owners

/-- In every run that keeps the owners, at most one process is alive for each
pool, and the registered process of a pool is the only one that is alive or
has a prompt file, but for those of a spawn or a kill in progress. -/
theorem processesOwned_of_reachable {settings : Settings} {state : State}
    (reached : (poolSystem settings).ReachableWithin KeepsOwners state) :
    ProcessesOwned state ∧ ∀ process, (∀ task, (state.tasks task).owns ≠ some process) →
        (state.processes process).alive = true ∨ (state.processes process).promptFile = true →
            state.Registered process := by
  have start : ∀ state, (poolSystem settings).initial state →
      Owners state := by
    intro state initially
    rw [show state = { clock := state.clock } from initially]
    exact
      { unique := nofun
        process := nofun
        promptFile := nofun
        launch := nofun
        launchUnique := nofun
        buried := nofun }
  have owners : Owners state := reached.invariant_of_invariant wellFormed_of_reachableWithin start
      fun _ _ _ wf owners keeps stepTo => owners.step wf keeps stepTo
  refine ⟨owners.toProcessesOwned, fun process free needed => ?_⟩
  have owner : HasOwner state process :=
    needed.elim (owners.process process) (owners.promptFile process)
  exact owner.resolve_right fun ⟨task, owns⟩ => free task owns

/-- A second turn with another system prompt replaces the process of the
first. -/
theorem processesOwned_of_replaced_process :
    ∃ state, (poolSystem .ascii).ReachableWithin KeepsOwners state ∧
      (state.processes 0).promptFile = false ∧
      (state.processes 1).promptFile = true ∧ ProcessesOwned state := by
  have found : ∃ state, (poolSystem .ascii).ReachableWithin KeepsOwners state ∧
      (state.processes 0).promptFile = false ∧
      (state.processes 1).promptFile = true :=
    TransitionSystem.exists_reachableWithin_of_checkedRun {} rfl (spawnAndWrite
          { streaming := false, poolId := "p", systemPrompt := .text "s" } 0 ++
        [.emit 0 (.json (.obj [(.text "type", .ofString "result")])),
          .resume 0 .line, .resume 0 .ready,
          .send { streaming := false, poolId := "p", systemPrompt := .text "t" },
          .resume 1 .ready, .resume 1 .ready, .exit 0, .resume 1 .ready,
          .resume 1 .ready, .resume 1 .ready, .resume 1 .ready,
          .resume 1 .ready, .resume 1 .timedOut])
      (by decide)
  obtain ⟨state, reached, removed, kept⟩ := found
  exact ⟨state, reached, removed, kept, (processesOwned_of_reachable reached).1⟩

/-- Two turns that find no entry each spawn a process; the second one takes
the place of the first in the entries. -/
theorem exists_process_without_owner : ∃ state, (poolSystem .ascii).Reachable state ∧
      (state.processes 0).poolId = (state.processes 1).poolId ∧
      (state.processes 0).alive = true ∧ (state.processes 1).alive = true ∧
      (state.processes 0).promptFile = true ∧ ¬ HasOwner state 0 := by
  have found : ∃ state, (poolSystem .ascii).Reachable state ∧
      (state.processes 0).poolId = (state.processes 1).poolId ∧
      (state.processes 0).alive = true ∧ (state.processes 1).alive = true ∧
      (state.processes 0).promptFile = true ∧ ¬ state.Registered 0 ∧
      ∀ task < state.started, (state.tasks task).owns ≠ some 0 :=
    TransitionSystem.exists_reachable_of_run {} rfl
      [.send { streaming := false, poolId := "p", systemPrompt := .text "s" },
        .resume 0 .ready, .resume 0 .ready,
        .send { streaming := true, poolId := "p", systemPrompt := .text "s" },
        .resume 1 .ready, .resume 1 .ready,
        .resume 0 .ready, .resume 1 .ready,
        .resume 0 .timedOut, .resume 0 .ready,
        .resume 1 .timedOut, .resume 1 .ready]
      (by decide)
  obtain ⟨state, reached, pools, first, second, file, gone, free⟩ := found
  refine ⟨state, reached, pools, first, second, file, ?_⟩
  rintro (registered | ⟨task, owns⟩)
  · exact gone registered
  · have wf := wellFormed_of_reachableWithin state reached
    refine free task (wf.lt_started fun gone => ?_) owns
    rw [gone] at owns
    cases owns

end CliPool

end RoxabiFactory

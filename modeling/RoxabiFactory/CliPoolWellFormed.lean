import RoxabiFactory.CliPoolSteps

/-!
# Well-formed states of the pool of CLI subprocesses

In every reachable state a task that relies on the lock of a process holds
it, tasks and entries refer to processes that exist, and nothing else refers
to a process that is still being spawned.
-/

namespace RoxabiFactory

namespace CliPool

/-- Only the task refers to the process, and no message has been written to
it. -/
structure Untouched (state : State) (task process : Nat) : Prop where
  others : ∀ other, other ≠ task → ¬ (state.tasks other).Mentions process
  entries : ∀ poolId, state.entries.lookup poolId ≠ some process
  unanswered : (state.processes process).unanswered = []
  stdout : (state.processes process).stdout = []

structure WellFormed (state : State) : Prop where
  idle : ∀ task, state.started ≤ task → state.tasks task = .done
  lock : ∀ task process, (state.tasks task).lockOf = some process →
    (state.processes process).lock = some task
  mentioned : ∀ task process, (state.tasks task).Mentions process → process < state.spawned
  entry : ∀ poolId process, state.entries.lookup poolId = some process →
      process < state.spawned ∧ (state.processes process).poolId = poolId
  fresh : ∀ task process, (state.tasks task).spawning = some process → Untouched state task process

theorem Task.mentions_of_spawning {point : Task} {process : Nat}
    (spawns : point.spawning = some process) : point.Mentions process := by
  cases point with
  | spawnExec _ _ | spawnProbe _ _ | spawnStderr _ _ => exact .inl spawns
  | _ => cases spawns

theorem Task.mentions_of_lockOf {point : Task} {process : Nat}
    (holds : point.lockOf = some process) : point.Mentions process := by
  have later : ∀ next : AfterKill, next.lockOf = some process →
      next.process = some process := by
    intro next holds
    cases next with
    | retry _ _ | returnResult _ _ _ | endWrite _ _ => exact holds
    | _ => cases holds
  cases point with
  | writing _ _ | reading _ _ _ | terminated _ _ _ | finishRead _ _ _ _ =>
    exact .inl holds
  | kill _ _ next | killWait _ next | unlink _ next | killed next =>
    exact .inl (later next holds)
  | _ => cases holds

namespace WellFormed

variable {state : State} {task process : Nat} {point : Task}

theorem initially {clock : ℚ} : WellFormed { clock := clock } where
  idle _ _ := rfl
  lock _ _ holds := by cases holds
  mentioned _ _ mentions := by rcases mentions with ⟨⟨⟩⟩ | ⟨⟨⟩⟩
  entry _ _ found := by cases found
  fresh _ _ spawns := by cases spawns

/-- The invariant looks at the processes, the tasks and the entries only. -/
theorem congr {after : State} (wf : WellFormed state) (tasks : after.tasks = state.tasks)
    (processes : after.processes = state.processes)
    (entries : after.entries = state.entries)
    (started : after.started = state.started)
    (spawned : after.spawned = state.spawned) : WellFormed after where
  idle := by rw [tasks, started]; exact wf.idle
  lock := by rw [tasks, processes]; exact wf.lock
  mentioned := by rw [tasks, spawned]; exact wf.mentioned
  entry := by rw [entries, spawned, processes]; exact wf.entry
  fresh task process := by
    rw [tasks]
    intro spawns
    have untouched := wf.fresh task process spawns
    exact
      { others := by rw [tasks]; exact untouched.others
        entries := by rw [entries]; exact untouched.entries
        unanswered := by rw [processes]; exact untouched.unanswered
        stdout := by rw [processes]; exact untouched.stdout }

theorem lt_started (wf : WellFormed state)
    (active : state.tasks task ≠ .done) : task < state.started := by
  by_contra beyond
  exact active (wf.idle task (Nat.le_of_not_lt beyond))

/-- A process that a task may refer to. -/
def Usable (state : State) (task process : Nat) : Prop := process < state.spawned ∧
    ∀ other, other ≠ task → (state.tasks other).spawning ≠ some process

theorem usable_of_mentions (wf : WellFormed state)
    (mentions : (state.tasks task).Mentions process) :
    Usable state task process :=
  ⟨wf.mentioned task process mentions, fun other different spawns =>
    (wf.fresh other process spawns).others task different.symm mentions⟩

theorem usable_of_entry (wf : WellFormed state) {poolId : String}
    (found : state.entries.lookup poolId = some process) :
    Usable state task process :=
  ⟨(wf.entry poolId process found).1, fun other _ spawns =>
    (wf.fresh other process spawns).entries poolId found⟩

theorem setTask (wf : WellFormed state) (existing : task < state.started)
    (lock : ∀ process, point.lockOf = some process → (state.processes process).lock = some task)
    (mentions : ∀ process, point.Mentions process → Usable state task process)
    (spawns : ∀ process, point.spawning = some process → Untouched state task process) :
    WellFormed (state.setTask task point) where
  idle other beyond := by
    have different : other ≠ task := fun same =>
      absurd (same ▸ beyond) (Nat.not_le.mpr existing)
    rw [State.setTask_tasks_of_ne different]
    exact wf.idle other beyond
  lock other process := by
    by_cases same : other = task
    · rw [same, State.setTask_tasks_self]
      exact lock process
    · rw [State.setTask_tasks_of_ne same]
      exact wf.lock other process
  mentioned other process := by
    by_cases same : other = task
    · rw [same, State.setTask_tasks_self]
      exact fun mention => (mentions process mention).1
    · rw [State.setTask_tasks_of_ne same]
      exact wf.mentioned other process
  entry := wf.entry
  fresh other process := by
    by_cases same : other = task
    · rw [same, State.setTask_tasks_self]
      intro spawning
      have untouched := spawns process spawning
      exact
        { others := fun third different => by
            rw [State.setTask_tasks_of_ne different]
            exact untouched.others third different
          entries := untouched.entries
          unanswered := untouched.unanswered
          stdout := untouched.stdout }
    · rw [State.setTask_tasks_of_ne same]
      intro spawning
      have untouched := wf.fresh other process spawning
      exact
        { others := fun third different => by
            by_cases actor : third = task
            · rw [actor, State.setTask_tasks_self]
              exact fun mention =>
                (mentions process mention).2 other same spawning
            · rw [State.setTask_tasks_of_ne actor]
              exact untouched.others third different
          entries := untouched.entries
          unanswered := untouched.unanswered
          stdout := untouched.stdout }

theorem move (wf : WellFormed state) {before : Task}
    (reached : state.tasks task = before) (active : before ≠ .done)
    (lock : ∀ process, point.lockOf = some process → before.lockOf = some process)
    (mentions : ∀ process, point.Mentions process → before.Mentions process)
    (spawns : ∀ process, point.spawning = some process → before.spawning = some process) :
    WellFormed (state.setTask task point) := by
  subst reached
  exact wf.setTask (wf.lt_started active)
    (fun process holds => wf.lock task process (lock process holds))
    (fun process mention => wf.usable_of_mentions (mentions process mention))
    (fun process spawning => wf.fresh task process (spawns process spawning))

theorem modify (wf : WellFormed state) {change : Process → Process}
    (poolId : (change (state.processes process)).poolId = (state.processes process).poolId)
    (lock : ∀ task, (state.tasks task).lockOf = some process →
      (change (state.processes process)).lock = some task)
    (untouched : ∀ task, (state.tasks task).spawning = some process →
      (change (state.processes process)).unanswered = [] ∧
        (change (state.processes process)).stdout = []) :
    WellFormed (state.modify process change) where
  idle := wf.idle
  lock task other holds := by
    by_cases same : other = process
    · subst same
      rw [State.modify_processes_self]
      exact lock task holds
    · rw [State.modify_processes_of_ne same]
      exact wf.lock task other holds
  mentioned := wf.mentioned
  entry pool other found := by
    refine ⟨(wf.entry pool other found).1, ?_⟩
    by_cases same : other = process
    · subst same
      rw [State.modify_processes_self, poolId]
      exact (wf.entry pool other found).2
    · rw [State.modify_processes_of_ne same]
      exact (wf.entry pool other found).2
  fresh task other spawns := by
    have before := wf.fresh task other spawns
    have empty : ((state.modify process change).processes other).unanswered =
        [] ∧ ((state.modify process change).processes other).stdout = [] := by
      by_cases same : other = process
      · subst same
        rw [State.modify_processes_self]
        exact untouched task spawns
      · rw [State.modify_processes_of_ne same]
        exact ⟨before.unanswered, before.stdout⟩
    exact ⟨before.others, before.entries, empty.1, empty.2⟩

theorem modify_of_lock (wf : WellFormed state) {change : Process → Process}
    (poolId : (change (state.processes process)).poolId = (state.processes process).poolId)
    (lock : (change (state.processes process)).lock = (state.processes process).lock)
    (unanswered : (state.processes process).unanswered = [] →
      (change (state.processes process)).unanswered = [])
    (stdout : (state.processes process).stdout = [] →
      (change (state.processes process)).stdout = []) :
    WellFormed (state.modify process change) :=
  wf.modify poolId (fun task holds => lock.trans (wf.lock task process holds))
    fun task spawns =>
      ⟨unanswered (wf.fresh task process spawns).unanswered,
        stdout (wf.fresh task process spawns).stdout⟩

theorem unlock (wf : WellFormed state) (released : (state.tasks task).lockOf ≠ some process) :
    WellFormed (state.unlock task process) := by
  refine wf.modify rfl (fun other holds => ?_) fun other spawns =>
    ⟨(wf.fresh other process spawns).unanswered, (wf.fresh other process spawns).stdout⟩
  have held := wf.lock other process holds
  have different : other ≠ task := by
    rintro rfl
    exact released holds
  simp [held, different]

theorem unlinkPromptFile (wf : WellFormed state) : WellFormed (state.unlinkPromptFile process) :=
  wf.modify_of_lock rfl rfl id id

theorem updateSessionId (wf : WellFormed state) (sessionId : Json) :
    WellFormed (state.updateSessionId process sessionId) :=
  wf.modify_of_lock rfl rfl id id

theorem popLine (wf : WellFormed state) : WellFormed (state.popLine process) :=
  wf.modify_of_lock rfl rfl id fun empty => by simp [empty]

theorem deliver (wf : WellFormed state) (turn : Nat) (sources : List Nat)
    (contents : List Delivered) :
    WellFormed (state.deliver turn sources contents) :=
  wf.congr rfl rfl rfl rfl rfl

theorem dropEntry (wf : WellFormed state) (poolId : String)
    (preserve : Bool) : WellFormed (state.dropEntry poolId preserve) where
  idle := wf.idle
  lock := wf.lock
  mentioned := wf.mentioned
  entry pool process found := wf.entry pool process (OrderedDict.lookup_eq_of_lookup_erase found)
  fresh task process spawns :=
    have untouched := wf.fresh task process spawns
    ⟨untouched.others,
      fun pool found => untouched.entries pool (OrderedDict.lookup_eq_of_lookup_erase found),
      untouched.unanswered, untouched.stdout⟩

theorem start (wf : WellFormed state) (lock : ∀ process, point.lockOf ≠ some process)
    (mentions : ∀ process, ¬ point.Mentions process) :
    WellFormed (state.start point) := by
  have idle : state.tasks state.started = .done := wf.idle _ (Nat.le_refl _)
  have grown : WellFormed { state with started := state.started + 1 } :=
    { idle := fun task beyond => wf.idle task (Nat.le_of_succ_le beyond)
      lock := wf.lock
      mentioned := wf.mentioned
      entry := wf.entry
      fresh := fun task process spawns =>
        have untouched := wf.fresh task process spawns
        ⟨untouched.others, untouched.entries, untouched.unanswered, untouched.stdout⟩ }
  exact (grown.setTask (Nat.lt_succ_self state.started)
    (fun process holds => absurd holds (lock process))
    (fun process mention => absurd mention (mentions process))
    fun process spawning => absurd (Task.mentions_of_spawning spawning)
      (mentions process)).congr rfl rfl rfl rfl rfl

variable {call : TurnCall} {settings : Settings} {next : AfterKill}

theorem attempt (wf : WellFormed state) (reached : state.tasks task = .attempt call) :
    WellFormed (state.attempt task call) := by
  unfold State.attempt
  split
  · exact wf.move reached (by simp) (by simp) (by simp) (by simp)
  · rename_i process found
    dsimp only
    split
    · exact wf.move reached (by simp) (by simp) (by simp) (by simp)
    · split
      · exact wf.move reached (by simp) (by simp) (by simp) (by simp)
      · exact wf.setTask (wf.lt_started (by simp [reached])) (by simp)
          (by simpa using wf.usable_of_entry found) (by simp)

theorem addProcess (wf : WellFormed state) (created : Process) :
    WellFormed (state.addProcess created) where
  idle := wf.idle
  lock other process holds := by
    rw [State.addProcess_processes_of_ne created (Nat.ne_of_lt
      (wf.mentioned other process (Task.mentions_of_lockOf holds)))]
    exact wf.lock other process holds
  mentioned other process mention := Nat.lt_succ_of_lt (wf.mentioned other process mention)
  entry poolId process found := by
    have known := wf.entry poolId process found
    rw [State.addProcess_processes_of_ne created (Nat.ne_of_lt known.1)]
    exact ⟨Nat.lt_succ_of_lt known.1, known.2⟩
  fresh other process spawns := by
    have untouched := wf.fresh other process spawns
    have same := State.addProcess_processes_of_ne created (Nat.ne_of_lt
      (wf.mentioned other process (Task.mentions_of_spawning spawns)))
    exact
      { others := untouched.others
        entries := untouched.entries
        unanswered := by rw [same]; exact untouched.unanswered
        stdout := by rw [same]; exact untouched.stdout }

theorem untouched_addProcess (wf : WellFormed state) {created : Process}
    (unanswered : created.unanswered = []) (stdout : created.stdout = []) :
    Untouched (state.addProcess created) task state.spawned where
  others other _ mention := Nat.lt_irrefl _ (wf.mentioned other state.spawned mention)
  entries poolId found := Nat.lt_irrefl _ (wf.entry poolId state.spawned found).1
  unanswered := by rw [State.addProcess_processes_self, unanswered]
  stdout := by rw [State.addProcess_processes_self, stdout]

theorem spawn (wf : WellFormed state) (reached : state.tasks task = .spawn call) :
    WellFormed (state.spawn task call) := by
  have grown : WellFormed { state.addProcess (state.newProcess call) with
      resumeSessionIds := (state.addProcess
        (state.newProcess call)).resumeSessionIds.erase call.poolId } :=
    (wf.addProcess _).congr rfl rfl rfl rfl rfl
  have untouched : Untouched (state.addProcess (state.newProcess call)) task
      state.spawned :=
    wf.untouched_addProcess rfl rfl
  unfold State.spawn
  dsimp only
  refine grown.setTask (wf.lt_started (by simp [reached])) ?_ ?_ ?_
  · split <;> simp
  · split
    · rintro process (⟨⟨⟩⟩ | ⟨⟨⟩⟩)
      exact ⟨Nat.lt_succ_self _, fun other different spawns =>
        untouched.others other different (Task.mentions_of_spawning spawns)⟩
    · simp
  · split
    · rintro process ⟨⟩
      exact ⟨untouched.others, untouched.entries, untouched.unanswered, untouched.stdout⟩
    · simp

theorem enter (wf : WellFormed state) (mentions : (state.tasks task).Mentions process)
    (free : (state.processes process).lock = none)
    (settled : (state.tasks task).spawning ≠ some process) :
    WellFormed (state.enter task call process) := by
  have existing : task < state.started := wf.lt_started fun gone => by
    simp [gone] at mentions
  have usable := wf.usable_of_mentions mentions
  unfold State.enter
  split
  · have written : WellFormed (state.modify process fun entry =>
        { entry with
          lock := some task
          unanswered := entry.unanswered ++ [task]
          turnCount :=
            if call.streaming then entry.turnCount + 1 else entry.turnCount
          lastActivity :=
            if call.streaming then state.clock
            else entry.lastActivity }) := by
      refine wf.modify rfl (fun other holds => ?_) fun other spawns => ?_
      · rw [wf.lock other process holds] at free
        cases free
      · by_cases same : other = task
        · exact absurd (same ▸ spawns) settled
        · exact absurd spawns (usable.2 other same)
    refine written.setTask existing (by simp) ?_ (by simp)
    rintro other (⟨⟨⟩⟩ | ⟨⟨⟩⟩)
    exact usable
  · exact wf.setTask existing (by simp) (by simp) (by simp)

theorem iterate (wf : WellFormed state)
    (mentions : (state.tasks task).Mentions process) (live : Bool) :
    WellFormed (state.iterate task call process live) := by
  have existing : task < state.started := wf.lt_started fun gone => by
    simp [gone] at mentions
  have usable := wf.usable_of_mentions mentions
  unfold State.iterate
  refine (wf.setTask existing ?_ ?_ ?_).unlock ?_
  all_goals
    split
    · simp [usable]
    · cases live <;> simp [usable]

theorem cleanup (wf : WellFormed state) {before : Task} {otherwise : State}
    (reached : state.tasks task = before) (active : before ≠ .done)
    (lock : ∀ other, next.lockOf = some other → before.lockOf = some other)
    (mentions : ∀ other, next.process = some other → before.Mentions other)
    (wfOtherwise : WellFormed otherwise) :
    WellFormed (state.cleanup task process next otherwise) := by
  unfold State.cleanup
  split
  · exact wf.move reached active (by simpa using lock)
      (by simpa using mentions) (by simp)
  · exact wfOtherwise

theorem finishRead (wf : WellFormed state) {result : CliResult} {sources : List Nat}
    (reached : state.tasks task = .finishRead call process result sources) :
    WellFormed (state.finishRead task call process result sources) := by
  unfold State.finishRead
  split
  · exact wf.move reached (by simp) (by simp) (by simp) (by simp)
  · exact wf.move reached (by simp) (by simp) (by simp) (by simp)
  · refine WellFormed.deliver (modify_of_lock (unlock ?_ ?_) rfl rfl id id)
      _ _ _
    · exact wf.move reached (by simp) (by simp) (by simp) (by simp)
    · simp
  · exact wf.move reached (by simp) (by simp) (by simp) (by simp)

theorem afterKill (wf : WellFormed state) (reached : state.tasks task = .killed next) :
    WellFormed (state.afterKill settings task next) := by
  unfold State.afterKill
  split
  · exact wf.move reached (by simp) (by simp) (by simp) (by simp)
  · exact wf.move reached (by simp) (by simp) (by simp) (by simp)
  · exact (wf.move reached (by simp) (by simp) (by simp) (by simp)).congr
      rfl rfl rfl rfl rfl
  · exact (wf.move reached (by simp) (by simp) (by simp) (by simp)).congr
      rfl rfl rfl rfl rfl
  · exact wf.move reached (by simp) (by simp) (by simp) (by simp)
  · refine (wf.move reached ?_ ?_ ?_ ?_).unlock ?_ <;> simp
  · exact wf.move reached (by simp) (by simp) (by simp) (by simp)
  · refine WellFormed.deliver (WellFormed.unlock (wf.move reached ?_ ?_ ?_ ?_) ?_) _ _ _ <;> simp
  · exact wf.iterate (by simp [reached]) false
  · split
    · exact wf.move reached (by simp) (by simp) (by simp) (by simp)
    · exact wf.move reached (by simp) (by simp) (by simp) (by simp)
  · exact wf.move reached (by simp) (by simp) (by simp) (by simp)

theorem kill (wf : WellFormed state) {poolId : String} {preserve : Bool}
    (reached : state.tasks task = .kill poolId preserve next) :
    WellFormed (state.kill task poolId preserve next) := by
  have existing : task < state.started := wf.lt_started (by simp [reached])
  have dropped := wf.dropEntry poolId preserve
  have holds : ∀ process, next.lockOf = some process → (state.processes process).lock = some task :=
    fun process held => wf.lock task process (by simpa [reached] using held)
  have own : ∀ process, next.process = some process → Usable state task process :=
    fun process used =>
      wf.usable_of_mentions (by rw [reached]; exact .inl used)
  unfold State.kill
  split
  · exact dropped.move reached (by simp) (by simp) (by simp) (by simp)
  · rename_i victim found
    have usable : Usable state task victim := wf.usable_of_entry found
    split
    · have waiting : WellFormed ((state.dropEntry poolId preserve).setTask task
            (.killWait victim next)) := by
        refine dropped.setTask existing holds ?_ (by simp)
        rintro process (used | ⟨⟨⟩⟩)
        · exact own process used
        · exact usable
      exact waiting.congr rfl rfl rfl rfl rfl
    · refine dropped.setTask existing holds ?_ (by simp)
      rintro process (used | ⟨⟨⟩⟩)
      · exact own process used
      · exact usable

variable {outcome : Outcome} {after : State}

theorem resumeReading (wf : WellFormed state) {reading : BlockingReader}
    (reached : state.tasks task = .reading call process reading)
    (stepTo : state.resumeReading settings task call process reading outcome =
      some after) : WellFormed after := by
  have goesOn : ∀ point : Task, point.lockOf = some process →
      point.process = some process → point.victim = none →
      point.spawning = none → WellFormed (state.setTask task point) :=
    fun point lock used victim spawning => wf.move reached (by simp)
      (fun other holds => lock.symm.trans holds)
      (fun other mention => .inl (mention.elim (used.symm.trans ·)
        fun killed => by rw [victim] at killed; cases killed))
      fun other spawns => by rw [spawning] at spawns; cases spawns
  rcases State.resumeReading_cases stepTo with
    ⟨output, -, -, rfl⟩ | ⟨output, -, -, rfl⟩ | ⟨-, -, rfl⟩ | ⟨-, -, -, rfl⟩ | rfl
  · refine ((goesOn _ ?_ ?_ ?_ ?_).popLine).updateSessionId _
    all_goals
      unfold BlockingReader.next
      split <;> rfl
  · exact (goesOn _ rfl rfl rfl rfl).popLine
  all_goals exact goesOn _ rfl rfl rfl rfl

theorem resumeStreaming (wf : WellFormed state) {reading : StreamReader}
    (reached : state.tasks task = .streaming process reading)
    (stepTo : state.resumeStreaming settings task process reading outcome =
      some after) : WellFormed after := by
  have gone : WellFormed (state.setTask task .done) :=
    wf.move reached (by simp) (by simp) (by simp) (by simp)
  have streams : ∀ reading : StreamReader,
      WellFormed (state.setTask task (.streaming process reading)) :=
    fun _ => wf.move reached (by simp) (by simp) (by simp) (by simp)
  rcases State.resumeStreaming_cases stepTo with
    ⟨output, -, -, rfl⟩ | ⟨-, -, rfl⟩ | ⟨-, -, rfl⟩ | ⟨-, -, rfl⟩ | rfl
  · refine WellFormed.deliver (WellFormed.updateSessionId (WellFormed.popLine ?_) _) _ _ _
    unfold StreamReader.next
    split
    · exact gone
    · split
      · exact gone
      · exact streams _
  · exact gone.popLine
  · exact gone
  · exact wf.cleanup reached (by simp) (by simp) (by simp) gone
  · exact streams _

theorem resumeWriting (wf : WellFormed state) (reached : state.tasks task = .writing call process)
    (stepTo : state.resumeWriting task call process outcome = some after) :
    WellFormed after := by
  have mentions : (state.tasks task).Mentions process := by simp [reached]
  unfold State.resumeWriting at stepTo
  split at stepTo
  · cases stepTo
    split
    · exact wf.iterate mentions true
    · exact wf.move reached (by simp) (by simp) (by simp) (by simp)
  · cases stepTo
    split
    · exact wf.cleanup reached (by simp) (by simp) (by simp)
        (wf.iterate mentions false)
    · exact wf.move reached (by simp) (by simp) (by simp) (by simp)
  · cases stepTo
    split
    · refine (wf.move reached ?_ ?_ ?_ ?_).unlock ?_ <;> simp
    · exact wf.move reached (by simp) (by simp) (by simp) (by simp)
  · cases stepTo

theorem register (wf : WellFormed state) (mentions : (state.tasks task).Mentions process)
    (settled : (state.tasks task).spawning ≠ some process) :
    WellFormed (state.register process) := by
  have usable := wf.usable_of_mentions mentions
  have notSpawned : ∀ other, (state.tasks other).spawning ≠ some process := by
    intro other
    by_cases same : other = task
    · exact same ▸ settled
    · exact usable.2 other same
  have touched : WellFormed (state.modify process fun entry =>
      { entry with lastActivity := state.clock }) :=
    wf.modify_of_lock rfl rfl id id
  exact
    { idle := touched.idle
      lock := touched.lock
      mentioned := touched.mentioned
      entry := fun poolId other found => by
        by_cases same : poolId = (state.processes process).poolId
        · subst same
          rw [State.register, OrderedDict.lookup_assign, Option.some.injEq] at found
          subst found
          exact ⟨usable.1, by simp [State.register]⟩
        · rw [State.register, OrderedDict.lookup_assign_ne same] at found
          exact touched.entry poolId other found
      fresh := fun other third spawns => by
        have untouched := touched.fresh other third spawns
        refine ⟨untouched.others, fun poolId found => ?_, untouched.unanswered, untouched.stdout⟩
        by_cases same : poolId = (state.processes process).poolId
        · subst same
          rw [State.register, OrderedDict.lookup_assign, Option.some.injEq] at found
          exact notSpawned other (found ▸ spawns)
        · rw [State.register, OrderedDict.lookup_assign_ne same] at found
          exact untouched.entries poolId found }

/-- Every step of a task keeps the state well-formed. -/
theorem resumes (wf : WellFormed state) (step : state.Resumes settings task outcome after) :
    WellFormed after := by
  cases step with
  | attempt reached => exact wf.attempt reached
  | spawn reached => exact wf.spawn reached
  | execReady reached =>
    exact (wf.move reached (by simp) (by simp) (by simp)
      (by simp)).modify_of_lock rfl rfl id id
  | execFailed reached _ | stderrRead reached =>
    exact (wf.move reached (by simp) (by simp) (by simp)
      (by simp)).unlinkPromptFile
  | probeExited reached _ =>
    exact wf.move reached (by simp) (by simp) (by simp) (by simp)
  | @probeAlive call process reached _ =>
    have moved : WellFormed (state.setTask task (.acquire call process)) :=
      wf.move reached (by simp) (by simp) (by simp) (by simp)
    have asks : (state.setTask task (.acquire call process)).tasks task = .acquire call process :=
      State.setTask_tasks_self
    exact moved.register (by rw [asks]; exact .inl rfl) (by simp)
  | enter reached free =>
    rcases reached with reached | reached
    · exact wf.enter (by simp [reached]) free (by simp [reached])
    · exact wf.enter (by simp [reached]) free (by simp [reached])
  | wait reached =>
    exact wf.move reached (by simp) (by simp) (by simp) (by simp)
  | writing reached stepTo => exact wf.resumeWriting reached stepTo
  | reading reached stepTo => exact wf.resumeReading reached stepTo
  | terminated reached =>
    exact wf.move reached (by simp) (by simp) (by simp) (by simp)
  | finishRead reached => exact wf.finishRead reached
  | @notStale _ _ live reached =>
    cases live
    · exact wf.move reached (by simp) (by simp) (by simp) (by simp)
    · exact wf.move reached (by simp) (by simp) (by simp) (by simp)
  | stale reached _ =>
    exact wf.move reached (by simp) (by simp) (by simp) (by simp)
  | streaming reached stepTo => exact wf.resumeStreaming reached stepTo
  | kill reached => exact wf.kill reached
  | killWait reached _ =>
    exact wf.move reached (by simp) (by simp) (by simp) (by simp)
  | @unlink process next reached =>
    have moved : WellFormed (state.setTask task (.killed next)) := by
      refine wf.move reached (by simp) (by simp) ?_ (by simp)
      rintro other (used | ⟨⟨⟩⟩)
      exact .inl used
    exact moved.unlinkPromptFile
  | killed reached => exact wf.afterKill reached
  | @sweeping rest reached =>
    unfold State.sweepNext
    split
    · exact wf.move reached (by simp) (by simp) (by simp) (by simp)
    · exact wf.move reached (by simp) (by simp) (by simp) (by simp)
  | onReap reached =>
    exact wf.move reached (by simp) (by simp) (by simp) (by simp)
  | @stopping rest reached =>
    unfold State.stopNext
    split
    · exact wf.move reached (by simp) (by simp) (by simp) (by simp)
    · exact wf.move reached (by simp) (by simp) (by simp) (by simp)

theorem syncEvictEntry (wf : WellFormed state) (poolId : String) (preserve : Bool) :
    WellFormed (state.syncEvictEntry poolId preserve) := by
  unfold State.syncEvictEntry
  split
  · exact wf.congr rfl rfl rfl rfl rfl
  · exact wf.dropEntry poolId preserve

theorem cancel (wf : WellFormed state) (task : Nat) :
    WellFormed (state.cancel task) := by
  have gone : WellFormed (state.setTask task .done) := by
    by_cases active : state.tasks task = .done
    · refine wf.congr ?_ rfl rfl rfl rfl
      rw [← active]
      exact Function.update_eq_self ..
    · exact wf.move rfl active (by simp) (by simp) (by simp)
  unfold State.cancel
  dsimp only
  split
  · rename_i rest reached
    exact wf.move reached (by simp) (by simp) (by simp) (by simp)
  · split
    · exact gone.unlock (by simp)
    · exact gone

theorem resumeDirect (wf : WellFormed state) (poolId sessionId : String) :
    WellFormed (state.resumeDirect poolId sessionId) := by
  unfold State.resumeDirect
  dsimp only
  split
  · exact wf.start (by simp) (by simp)
  · exact wf.start (by simp) (by simp)

theorem stop (wf : WellFormed state) : WellFormed state.stop := by
  unfold State.stop
  dsimp only
  split
  · exact wf.start (by simp) (by simp)
  · split
    · exact wf.cancel _
    · exact (wf.cancel _).start (by simp) (by simp)

theorem drainCheck (wf : WellFormed state) : WellFormed state.drainCheck := by
  unfold State.drainCheck
  split
  · exact wf.congr rfl rfl rfl rfl rfl
  · exact wf

theorem emit (wf : WellFormed state) {line : StdoutLine}
    (stepTo : state.emit process line = some after) : WellFormed after := by
  unfold State.emit at stepTo
  dsimp only at stepTo
  split at stepTo
  · rename_i turn later queued
    split at stepTo
    · obtain rfl := Option.some.inj stepTo
      refine wf.modify rfl (fun other holds => wf.lock other process holds)
        fun other spawns => ?_
      have empty := (wf.fresh other process spawns).unanswered
      rw [queued] at empty
      cases empty
    · cases stepTo
  · cases stepTo

theorem perform (wf : WellFormed state) {action : Action}
    (stepTo : perform settings state action = some after) :
    WellFormed after := by
  cases action with
  | send call | reset poolId | switchCwd poolId cwd =>
    obtain rfl := Option.some.inj stepTo
    exact wf.start (by simp) (by simp)
  | resumeDirect poolId sessionId =>
    obtain rfl := Option.some.inj stepTo
    exact wf.resumeDirect poolId sessionId
  | syncEvict poolId preserve =>
    obtain rfl := Option.some.inj stepTo
    exact wf.syncEvictEntry poolId preserve
  | sweep =>
    unfold CliPool.perform at stepTo
    dsimp only at stepTo
    split at stepTo
    · obtain rfl := Option.some.inj stepTo
      exact (wf.start (by simp) (by simp)).congr rfl rfl rfl rfl rfl
    · cases stepTo
  | drainCheck =>
    obtain rfl := Option.some.inj stepTo
    exact wf.drainCheck
  | stop =>
    obtain rfl := Option.some.inj stepTo
    exact wf.stop
  | resume task outcome => exact wf.resumes (State.resume_resumes stepTo)
  | cancel task =>
    obtain rfl := Option.some.inj stepTo
    exact wf.cancel task
  | aclose task =>
    unfold CliPool.perform at stepTo
    dsimp only at stepTo
    split at stepTo
    · rename_i process reading reached
      obtain rfl := Option.some.inj stepTo
      exact wf.cleanup reached (by simp) (by simp) (by simp)
        (wf.move reached (by simp) (by simp) (by simp) (by simp))
    · cases stepTo
  | exit process =>
    unfold CliPool.perform at stepTo
    dsimp only at stepTo
    split at stepTo
    · obtain rfl := Option.some.inj stepTo
      exact wf.modify_of_lock rfl rfl id id
    · cases stepTo
  | closeStdout process =>
    obtain rfl := Option.some.inj stepTo
    exact wf.modify_of_lock rfl rfl id id
  | emit process line => exact wf.emit stepTo
  | clock now =>
    obtain rfl := Option.some.inj stepTo
    exact wf.congr rfl rfl rfl rfl rfl

end WellFormed

theorem wellFormed_step {settings : Settings} {state after : State}
    {action : Action} (wf : WellFormed state)
    (stepTo : step settings state action = some after) :
    WellFormed after := by
  obtain ⟨performed, performs, rfl⟩ := step_eq_some stepTo
  exact (wf.perform performs).congr rfl rfl rfl rfl rfl

theorem wellFormed_of_reachableWithin {settings : Settings}
    {admissible : State → Action → Prop} (state : State)
    (reached : (poolSystem settings).ReachableWithin admissible state) :
    WellFormed state := by
  have start : ∀ state, (poolSystem settings).initial state →
      WellFormed state := by
    intro state initially
    rw [show state = { clock := state.clock } from initially]
    exact .initially
  exact reached.invariant start fun _ _ _ wf _ stepTo =>
    wellFormed_step wf stepTo

end CliPool

end RoxabiFactory

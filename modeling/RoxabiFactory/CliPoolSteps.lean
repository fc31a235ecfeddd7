import RoxabiFactory.CliPoolModel

/-!
# The steps of the pool of CLI subprocesses

What a step of a task can do, by the point that the task has reached.  The
invariants of the pool are proved by cases on these steps.
-/

namespace RoxabiFactory

namespace CliPool

namespace State

section Inversion

variable {settings : Settings} {state after : State} {task process : Nat}
variable {outcome : Outcome}

theorem resumeReading_cases {call : TurnCall} {reading : BlockingReader}
    (stepTo : state.resumeReading settings task call process reading outcome = some after) :
    (∃ output, outcome = .line ∧ (state.processes process).stdout.head? = some output ∧
      after = ((state.setTask task (reading.next call process
        output)).popLine process).updateSessionId process
          (reading.reader.reportedSession output.line)) ∨
    (∃ output, outcome = .tooLong ∧ (state.processes process).stdout.head? = some output ∧
      after = (state.setTask task (.finishRead call process (CliNonStreaming.readError .valueError)
        (reading.sources ++ [output.turn]))).popLine process) ∨
    ((state.processes process).stdout = [] ∧ ((state.processes process).stdoutClosed = true ∨
        (state.processes process).alive = false) ∧
      after = state.setTask task (.terminated call process reading.sources)) ∨
    ((state.processes process).stdout = [] ∧ outcome = .timedOut ∧
      settings.maxIdleRetries ≤ reading.idleRetries + 1 ∧
      after = state.setTask task (.finishRead call process
        { error := .ofString "Timeout: no output" } reading.sources)) ∨
    after = state.setTask task (.reading call process
      { reading with idleRetries := reading.idleRetries + 1 }) := by
  unfold resumeReading at stepTo
  dsimp only at stepTo
  split at stepTo
  · obtain ⟨output, next, rfl⟩ := Option.map_eq_some_iff.mp stepTo
    exact .inl ⟨output, rfl, next, rfl⟩
  · obtain ⟨output, next, rfl⟩ := Option.map_eq_some_iff.mp stepTo
    exact .inr (.inl ⟨output, rfl, next, rfl⟩)
  · split at stepTo
    · rename_i ended
      exact .inr (.inr (.inl ⟨List.isEmpty_iff.mp ended.1, .inl ended.2,
        (Option.some.inj stepTo).symm⟩))
    · cases stepTo
  · split at stepTo
    · rename_i empty
      have silent := List.isEmpty_iff.mp empty
      obtain rfl := Option.some.inj stepTo
      split
      · rename_i dead
        exact .inr (.inr (.inl ⟨silent, .inr dead, rfl⟩))
      · split
        · rename_i exhausted
          exact .inr (.inr (.inr (.inl ⟨silent, rfl, exhausted, rfl⟩)))
        · exact .inr (.inr (.inr (.inr rfl)))
    · cases stepTo
  · cases stepTo

theorem resumeStreaming_cases {reading : StreamReader}
    (stepTo : state.resumeStreaming settings task process reading outcome = some after) :
    (∃ output, outcome = .line ∧ (state.processes process).stdout.head? = some output ∧
      after = (((state.setTask task (reading.next settings.tools process
        output)).popLine process).updateSessionId process
          ((reading.read settings.tools output.line).sessionId.getD
            .null)).deliver task (reading.sources ++ [output.turn])
              ((reading.read settings.tools output.line).events.map .event)) ∨
    (outcome = .tooLong ∧ (state.processes process).stdout ≠ [] ∧
      after = (state.setTask task .done).popLine process) ∨
    ((state.processes process).stdout = [] ∧ ((state.processes process).stdoutClosed = true ∨
        (state.processes process).alive = false) ∧
      after = state.setTask task .done) ∨
    (outcome = .timedOut ∧
      settings.maxIdleRetries ≤ reading.idleRetries + 1 ∧
      after = state.cleanup task process (.endIterator process) (state.setTask task .done)) ∨
    after = state.setTask task (.streaming process
      { reading with idleRetries := reading.idleRetries + 1 }) := by
  unfold resumeStreaming at stepTo
  dsimp only at stepTo
  split at stepTo
  · obtain ⟨output, next, rfl⟩ := Option.map_eq_some_iff.mp stepTo
    exact .inl ⟨output, rfl, next, rfl⟩
  · obtain ⟨output, next, rfl⟩ := Option.map_eq_some_iff.mp stepTo
    refine .inr (.inl ⟨rfl, fun empty => ?_, rfl⟩)
    simp [empty] at next
  · split at stepTo
    · rename_i ended
      exact .inr (.inr (.inl ⟨List.isEmpty_iff.mp ended.1, .inl ended.2,
        (Option.some.inj stepTo).symm⟩))
    · cases stepTo
  · split at stepTo
    · rename_i empty
      have silent := List.isEmpty_iff.mp empty
      split at stepTo
      · rename_i dead
        exact .inr (.inr (.inl ⟨silent, .inr dead, (Option.some.inj stepTo).symm⟩))
      · split at stepTo
        · rename_i exhausted
          exact .inr (.inr (.inr (.inl ⟨rfl, exhausted, (Option.some.inj stepTo).symm⟩)))
        · exact .inr (.inr (.inr (.inr (Option.some.inj stepTo).symm)))
    · cases stepTo
  · cases stepTo

end Inversion

/-- The steps of a task by the point it has reached. -/
inductive Resumes (settings : Settings) (state : State) (task : Nat)
    (outcome : Outcome) : State → Prop
  | attempt {call : TurnCall} (reached : state.tasks task = .attempt call) :
      Resumes settings state task outcome (state.attempt task call)
  | spawn {call : TurnCall} (reached : state.tasks task = .spawn call) :
      Resumes settings state task outcome (state.spawn task call)
  | execReady {call : TurnCall} {process : Nat}
      (reached : state.tasks task = .spawnExec call process) :
      Resumes settings state task outcome
        ((state.setTask task (.spawnProbe call process)).modify process
          fun entry => { entry with alive := true })
  | execFailed {call : TurnCall} {process : Nat}
      (reached : state.tasks task = .spawnExec call process)
      (fails : outcome ≠ .ready) :
      Resumes settings state task outcome ((state.setTask task .done).unlinkPromptFile process)
  | probeExited {call : TurnCall} {process : Nat}
      (reached : state.tasks task = .spawnProbe call process)
      (dead : (state.processes process).alive = false) :
      Resumes settings state task outcome (state.setTask task (.spawnStderr call process))
  | probeAlive {call : TurnCall} {process : Nat}
      (reached : state.tasks task = .spawnProbe call process)
      (expired : outcome = .timedOut) :
      Resumes settings state task outcome
        ((state.setTask task (.acquire call process)).register process)
  | stderrRead {call : TurnCall} {process : Nat}
      (reached : state.tasks task = .spawnStderr call process) :
      Resumes settings state task outcome ((state.setTask task .done).unlinkPromptFile process)
  | enter {call : TurnCall} {process : Nat} (reached : state.tasks task = .acquire call process ∨
        state.tasks task = .lockWait call process)
      (free : (state.processes process).lock = none) :
      Resumes settings state task outcome (state.enter task call process)
  | wait {call : TurnCall} {process : Nat} (reached : state.tasks task = .acquire call process) :
      Resumes settings state task outcome (state.setTask task (.lockWait call process))
  | writing {call : TurnCall} {process : Nat} {after : State}
      (reached : state.tasks task = .writing call process)
      (stepTo : state.resumeWriting task call process outcome = some after) :
      Resumes settings state task outcome after
  | reading {call : TurnCall} {process : Nat} {reading : BlockingReader} {after : State}
      (reached : state.tasks task = .reading call process reading)
      (stepTo : state.resumeReading settings task call process reading outcome = some after) :
      Resumes settings state task outcome after
  | terminated {call : TurnCall} {process : Nat} {sources : List Nat}
      (reached : state.tasks task = .terminated call process sources) :
      Resumes settings state task outcome (state.setTask task (.finishRead call process
          { error := .ofString "Process terminated unexpectedly" } sources))
  | finishRead {call : TurnCall} {process : Nat} {result : CliResult} {sources : List Nat}
      (reached : state.tasks task = .finishRead call process result sources) :
      Resumes settings state task outcome (state.finishRead task call process result sources)
  | notStale {call : TurnCall} {process : Nat} {live : Bool}
      (reached : state.tasks task = .staleCheck call process live) :
      Resumes settings state task outcome
        (state.setTask task (if live then .streaming process {} else .done))
  | stale {call : TurnCall} {process : Nat} {live : Bool}
      (reached : state.tasks task = .staleCheck call process live)
      (dead : (state.processes process).alive = false) :
      Resumes settings state task outcome (state.setTask task
          (.kill call.poolId false (.retryStreaming call)))
  | streaming {process : Nat} {reading : StreamReader} {after : State}
      (reached : state.tasks task = .streaming process reading)
      (stepTo : state.resumeStreaming settings task process reading outcome = some after) :
      Resumes settings state task outcome after
  | kill {poolId : String} {preserve : Bool} {next : AfterKill}
      (reached : state.tasks task = .kill poolId preserve next) :
      Resumes settings state task outcome (state.kill task poolId preserve next)
  | killWait {process : Nat} {next : AfterKill}
      (reached : state.tasks task = .killWait process next)
      (dead : (state.processes process).alive = false) :
      Resumes settings state task outcome (state.setTask task (.unlink process next))
  | unlink {process : Nat} {next : AfterKill} (reached : state.tasks task = .unlink process next) :
      Resumes settings state task outcome
        ((state.setTask task (.killed next)).unlinkPromptFile process)
  | killed {next : AfterKill} (reached : state.tasks task = .killed next) :
      Resumes settings state task outcome (state.afterKill settings task next)
  | sweeping {rest : List (String × Nat)} (reached : state.tasks task = .sweeping rest) :
      Resumes settings state task outcome (state.sweepNext task rest)
  | onReap {rest : List (String × Nat)} (reached : state.tasks task = .onReap rest) :
      Resumes settings state task outcome (state.setTask task (.sweeping rest))
  | stopping {rest : List String} (reached : state.tasks task = .stopping rest) :
      Resumes settings state task outcome (state.stopNext task rest)

theorem resumeSpawn_resumes {settings : Settings} {state after : State}
    {task : Nat} {outcome : Outcome}
    (stepTo : state.resumeSpawn task (state.tasks task) outcome =
      some after) : Resumes settings state task outcome after := by
  unfold resumeSpawn at stepTo
  split at stepTo
  · obtain rfl := Option.some.inj stepTo
    exact .execReady ‹_›
  · obtain rfl := Option.some.inj stepTo
    exact .execFailed ‹_› nofun
  · obtain rfl := Option.some.inj stepTo
    exact .probeAlive ‹_› rfl
  · split at stepTo
    · cases stepTo
    · rename_i dead
      obtain rfl := Option.some.inj stepTo
      exact .probeExited ‹_› (Bool.not_eq_true _ ▸ dead)
  · obtain rfl := Option.some.inj stepTo
    exact .stderrRead ‹_›
  · cases stepTo

theorem resume_resumes {settings : Settings} {state after : State} {task : Nat} {outcome : Outcome}
    (stepTo : state.resume settings task outcome = some after) :
    Resumes settings state task outcome after := by
  unfold resume at stepTo
  split at stepTo
  · exact Option.some.inj stepTo ▸ .attempt ‹_›
  · exact Option.some.inj stepTo ▸ .spawn ‹_›
  · split at stepTo
    · exact Option.some.inj stepTo ▸ .enter (.inl ‹_›) ‹_›
    · exact Option.some.inj stepTo ▸ .wait ‹_›
  · split at stepTo
    · exact Option.some.inj stepTo ▸ .enter (.inr ‹_›) ‹_›
    · cases stepTo
  · exact .writing ‹_› stepTo
  · exact .reading ‹_› stepTo
  · exact Option.some.inj stepTo ▸ .terminated ‹_›
  · exact Option.some.inj stepTo ▸ .finishRead ‹_›
  · obtain rfl := Option.some.inj stepTo
    split
    · exact .notStale ‹_›
    · rename_i dead
      exact .stale ‹_› (Bool.not_eq_true _ ▸ dead)
  · exact .streaming ‹_› stepTo
  · exact Option.some.inj stepTo ▸ .kill ‹_›
  · split at stepTo
    · cases stepTo
    · rename_i dead
      exact Option.some.inj stepTo ▸ .killWait ‹_› (Bool.not_eq_true _ ▸ dead)
  · exact Option.some.inj stepTo ▸ .unlink ‹_›
  · exact Option.some.inj stepTo ▸ .killed ‹_›
  · exact Option.some.inj stepTo ▸ .sweeping ‹_›
  · exact Option.some.inj stepTo ▸ .onReap ‹_›
  · exact Option.some.inj stepTo ▸ .stopping ‹_›
  · exact resumeSpawn_resumes stepTo

end State

section Spawn

variable {state : State} {task other process : Nat} {call : TurnCall}

theorem spawn_processes_new :
    (state.spawn task call).processes state.spawned = state.newProcess call :=
  State.addProcess_processes_self ..

theorem spawn_processes_of_ne (different : process ≠ state.spawned) :
    (state.spawn task call).processes process = state.processes process :=
  State.addProcess_processes_of_ne _ different

theorem spawn_tasks_self : (state.spawn task call).tasks task =
      if State.commandBuilds (state.newProcess call) then
        .spawnExec call state.spawned
      else .done :=
  Function.update_self ..

theorem spawn_tasks_of_ne (different : other ≠ task) :
    (state.spawn task call).tasks other = state.tasks other :=
  Function.update_of_ne different ..

end Spawn

/-- A step is what its action does, with the actor of the action running
until its next `await`. -/
theorem step_eq_some {settings : Settings} {state after : State}
    {action : Action} (stepTo : step settings state action = some after) :
    ∃ performed, perform settings state action = some performed ∧
      after = { performed with
        running := (action.actor state).filter fun task =>
          !(performed.tasks task).awaits } := by
  unfold step at stepTo
  split at stepTo
  · obtain ⟨performed, performs, rfl⟩ := Option.map_eq_some_iff.mp stepTo
    exact ⟨performed, performs, rfl⟩
  · cases stepTo

/-- The actions of a new turn that spawns its process and writes its message
without interruption. -/
def spawnAndWrite (call : TurnCall) (task : Nat) : List Action :=
  [.send call, .resume task .ready, .resume task .ready, .resume task .ready,
    .resume task .timedOut, .resume task .ready, .resume task .ready]

end CliPool

end RoxabiFactory

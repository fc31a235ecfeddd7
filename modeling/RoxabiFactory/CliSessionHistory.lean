import RoxabiFactory.CliPoolWellFormed

/-!
# The history of the sessions of CLI subprocesses

The session that a process has reported is kept in its entry, and `_kill`
moves it to the table from which the next spawn takes it.  The session is lost
whenever an entry disappears without `_kill`, or with a `_kill` that discards
the session although nobody has asked for it; and the session that a spawn
has taken from the table is in no entry until the new process reports one.

The history of the pool is tracked beside its state: the session that the
next process of a pool ought to resume, and what the spawns have resumed.
-/

namespace RoxabiFactory

namespace CliPool

/-- The session ends after the kill because of a reset, a switch of the
directory, a requested resume, a change of the prompt or the model, or a
rejected resume. -/
def AfterKill.discards : AfterKill → Bool
  | finish | storeCwd _ _ | storeResume _ _ | respawn _ | retry _ _
  | retryStreaming _ => true
  | _ => false

/-- A session id in a line; it is saved if the entry has it. -/
structure Report where
  process : Nat
  sessionId : Json
  saved : Bool

/-- The session id that a blocking turn reads from a line; it gives it to the
entry with the result only. -/
def BlockingReader.report (reading : BlockingReader) (process : Nat)
    (line : StdoutLine) : Option Report :=
  let recorded := reading.reader.reportedSession line
  if recorded.truthy then some ⟨process, recorded, true⟩
  else match reading.reader.readLine line with
    | .ok (reader, none) =>
      if reader.sessionId.truthy ∧ reader.sessionId ≠ reading.reader.sessionId then
        some ⟨process, reader.sessionId, false⟩
      else none
    | _ => none

/-- The session id that a streaming turn reads from a line, if it is not the
one that the turn has already. -/
def StreamReader.report (reading : StreamReader) (tools : PythonText)
    (process : Nat) (line : StdoutLine) : Option Report :=
  (reading.read tools line).sessionId.bind fun sessionId =>
    if sessionId.truthy ∧ some sessionId ≠ reading.parser.sessionId then
      some ⟨process, sessionId, true⟩
    else none

/-- The session id that a turn reads from the next line. -/
def State.report (settings : Settings) (state : State) (task : Nat) : Option Report :=
  match state.tasks task with
  | .reading _ process reading =>
    (state.processes process).stdout.head?.bind fun output =>
      reading.report process output.line
  | .streaming process reading =>
    (state.processes process).stdout.head?.bind fun output =>
      reading.report settings.tools process output.line
  | _ => none

/-- What a step does to the sessions of the pools. -/
inductive SessionEvent
  | nothing
  | discards (poolId : String)
  | reports (report : Report)
  | spawns (poolId : String) (resumed : Option Json)

def SessionEvent.ofReport : Option Report → SessionEvent
  | some report => reports report
  | none => nothing

def State.sessionEvent (settings : Settings) (state : State) : Action → SessionEvent
  | .resume task outcome =>
    match state.tasks task, outcome with
    | .spawn call, _ =>
      if State.commandBuilds (state.newProcess call) then
        .spawns call.poolId (state.newProcess call).resumedFrom
      else .nothing
    | .kill poolId _ next, _ =>
      if next.discards then .discards poolId else .nothing
    | .killed (.storeResume poolId _), _ => .discards poolId
    | _, .line => .ofReport (state.report settings task)
    | _, _ => .nothing
  | .syncEvict poolId false => .discards poolId
  | _ => .nothing

/-- The next step of the task concerns no session, unless a spawn ends. -/
def Task.staysQuiet : Task → Bool
  | spawn _ | reading _ _ _ | streaming _ _ | kill _ _ _
  | killed (.storeResume _ _) => false
  | _ => true

theorem sessionEvent_of_staysQuiet {settings : Settings} {state : State}
    {task : Nat} {outcome : Outcome}
    (quiet : (state.tasks task).staysQuiet = true) :
    state.sessionEvent settings (.resume task outcome) = .nothing := by
  have silent : state.report settings task = none := by
    unfold State.report
    split
    · rename_i reached
      rw [reached] at quiet
      cases quiet
    · rename_i reached
      rw [reached] at quiet
      cases quiet
    · rfl
  unfold State.sessionEvent
  dsimp only
  split
  · rename_i reached
    rw [reached] at quiet
    cases quiet
  · rename_i reached
    rw [reached] at quiet
    cases quiet
  · rename_i reached
    rw [reached] at quiet
    cases quiet
  · rw [silent]
    rfl
  · rfl

structure SessionSpawn where
  due : Option Json
  resumed : Option Json

/-- A state with the latest session that a process of each pool has reported
since the last one was discarded, the processes whose entries do not have the
session that they have reported, and the spawns. -/
structure Tracked where
  state : State
  reported : String → Option Json := fun _ => none
  unsaved : Nat → Bool := fun _ => false
  spawns : List SessionSpawn := []

namespace Tracked

def record (tracked : Tracked) : SessionEvent → Tracked
  | .nothing => tracked
  | .discards poolId =>
    { tracked with reported := Function.update tracked.reported poolId none }
  | .reports report =>
    { tracked with
      reported := Function.update tracked.reported (tracked.state.processes report.process).poolId
        (some report.sessionId)
      unsaved := Function.update tracked.unsaved report.process !report.saved }
  | .spawns poolId resumed =>
    { tracked with
      spawns := tracked.spawns ++ [⟨tracked.reported poolId, resumed⟩] }

def step (settings : Settings) (tracked : Tracked) (action : Action) : Option Tracked :=
  (CliPool.step settings tracked.state action).map fun after =>
    { tracked.record (tracked.state.sessionEvent settings action) with
      state := after }

/-- The entry of the pool has its latest session, and not only the session
that its process has been started with. -/
def entrySaved (tracked : Tracked) (poolId : String) : Bool :=
  (tracked.state.entries.lookup poolId).all fun process =>
    let entry := tracked.state.processes process
    !tracked.unsaved process && (entry.sessionId.isSome || entry.resumedFrom.isNone)

/-- No session is known by the entry of the pool only. -/
def entryEmpty (tracked : Tracked) (poolId : String) : Bool :=
  (tracked.state.entries.lookup poolId).all fun process =>
    let entry := tracked.state.processes process
    !tracked.unsaved process && entry.sessionId.isNone && entry.resumedFrom.isNone

/-- The spawn of the task has taken no session that is still due. -/
def spawnIdle (tracked : Tracked) (task : Nat) : Bool :=
  (tracked.state.tasks task).spawning.all fun process =>
    let entry := tracked.state.processes process
    entry.resumedFrom.isNone || (tracked.reported entry.poolId).isNone

/-- What the next line says about the session is said by the registered
process of the pool, or is known; and a streaming turn does not repeat an
older session than the one in the entry. -/
def readsCurrent (settings : Settings) (tracked : Tracked) (task : Nat) :
    Prop :=
  match tracked.state.report settings task with
  | some report =>
    tracked.state.Registered report.process ∨
      tracked.reported (tracked.state.processes report.process).poolId = some report.sessionId
  | none =>
    match tracked.state.tasks task with
    | .streaming process reading =>
      tracked.state.Registered process → ∀ sessionId ∈ reading.parser.sessionId,
          (tracked.state.processes process).sessionId = some sessionId
    | _ => True

end Tracked

def trackedSystem (settings : Settings) : TransitionSystem Tracked Action where
  initial tracked := tracked = { state := { clock := tracked.state.clock } }
  step := Tracked.step settings

/-- While a session is due, a process is spawned only in the place of an entry
that knows of no session, when no other spawn has taken the session, and with
a command that can be built; the spawn does not fail after it has taken the
session; and an entry that knows the session is removed only by a kill or an
eviction that moves it to the table.  What is read about the session is read
from the registered process. -/
def SessionsKept (settings : Settings) (tracked : Tracked) : Action → Prop
  | .resume task outcome =>
    match tracked.state.tasks task, outcome with
    | .spawn call, _ =>
      (tracked.reported call.poolId).isSome = true → tracked.entryEmpty call.poolId = true ∧
        (∀ other < tracked.state.started, ((tracked.state.tasks other).spawning.all fun process =>
            (tracked.state.processes process).resumedFrom.isNone ||
              decide ((tracked.state.processes process).poolId ≠ call.poolId)) = true) ∧
        State.commandBuilds (tracked.state.newProcess call) = true
    | .spawnExec _ _, .ready => True
    | .spawnExec _ _, _ | .spawnStderr _ _, _ =>
      tracked.spawnIdle task = true
    | .spawnProbe _ process, .timedOut =>
      (tracked.reported (tracked.state.processes process).poolId).isSome = true →
        tracked.entryEmpty (tracked.state.processes process).poolId = true
    | .kill poolId preserve next, _ =>
      next.discards = false → (tracked.reported poolId).isSome = true →
          (preserve = true → tracked.entrySaved poolId = true) ∧
          (preserve = false → tracked.entryEmpty poolId = true ∧
            tracked.state.resumeSessionIds.lookup poolId = none)
    | .reading _ _ _, .line | .streaming _ _, .line =>
      tracked.readsCurrent settings task
    | _, _ => True
  | .cancel task => tracked.spawnIdle task = true
  | .stop => tracked.state.reaper.all tracked.spawnIdle = true
  | .syncEvict poolId preserve =>
    preserve = true → (tracked.reported poolId).isSome = true → tracked.entrySaved poolId = true
  | _ => True

instance (settings : Settings) (tracked : Tracked) (task : Nat) :
    Decidable (tracked.readsCurrent settings task) := by
  unfold Tracked.readsCurrent
  split
  · infer_instance
  · split <;> infer_instance

instance (settings : Settings) (tracked : Tracked) (action : Action) :
    Decidable (SessionsKept settings tracked action) := by
  unfold SessionsKept
  casesm Action
  case resume task outcome =>
    dsimp only
    generalize tracked.state.tasks task = point
    casesm Task <;> casesm Outcome <;> dsimp only <;> infer_instance
  all_goals dsimp only; infer_instance

/-- The pool has the session for the next process, or the next process has
been started with it. -/
def Tracked.Carries (tracked : Tracked) (poolId : String) (sessionId : Json) :
    Prop :=
  (∃ process, tracked.state.entries.lookup poolId = some process ∧ (tracked.unsaved process = true ∨
      (tracked.state.processes process).sessionId = some sessionId ∨
      (tracked.state.processes process).sessionId = none ∧
        (tracked.state.processes process).resumedFrom = some sessionId)) ∨
  tracked.state.resumeSessionIds.lookup poolId = some sessionId ∨
  ∃ task process, (tracked.state.tasks task).spawning = some process ∧
    (tracked.state.processes process).poolId = poolId ∧
    (tracked.state.processes process).resumedFrom = some sessionId

structure Continued (tracked : Tracked) : Prop where
  carries : ∀ poolId sessionId, tracked.reported poolId = some sessionId →
    tracked.Carries poolId sessionId
  entry : ∀ poolId process sessionId, tracked.state.entries.lookup poolId = some process →
      (tracked.state.processes process).sessionId = some sessionId →
        tracked.unsaved process = false →
          ∀ due, tracked.reported poolId = some due → due = sessionId
  fresh : ∀ task process, (tracked.state.tasks task).spawning = some process →
    (tracked.state.processes process).sessionId = none
  spawns : ∀ spawn ∈ tracked.spawns, ∀ sessionId,
    spawn.due = some sessionId → spawn.resumed = some sessionId

/-- The step concerns no session. -/
structure SameSessions (state after : State) : Prop where
  entries : after.entries = state.entries
  table : after.resumeSessionIds = state.resumeSessionIds
  poolId : ∀ process, (after.processes process).poolId = (state.processes process).poolId
  sessionId : ∀ process, (after.processes process).sessionId = (state.processes process).sessionId
  resumedFrom : ∀ process, (after.processes process).resumedFrom =
    (state.processes process).resumedFrom
  spawning : ∀ task, (after.tasks task).spawning = (state.tasks task).spawning

namespace SameSessions

variable {state after middle : State} {task process : Nat} {point : Task}
variable {call : TurnCall} {settings : Settings} {next : AfterKill}
variable {outcome : Outcome}

theorem trans (first : SameSessions state middle)
    (second : SameSessions middle after) : SameSessions state after where
  entries := second.entries.trans first.entries
  table := second.table.trans first.table
  poolId process := (second.poolId process).trans (first.poolId process)
  sessionId process := (second.sessionId process).trans (first.sessionId process)
  resumedFrom process := (second.resumedFrom process).trans (first.resumedFrom process)
  spawning task := (second.spawning task).trans (first.spawning task)

theorem setTask (spawning : point.spawning = (state.tasks task).spawning) :
    SameSessions state (state.setTask task point) where
  entries := rfl
  table := rfl
  poolId _ := rfl
  sessionId _ := rfl
  resumedFrom _ := rfl
  spawning other := by
    by_cases same : other = task
    · rw [same, State.setTask_tasks_self, spawning]
    · rw [State.setTask_tasks_of_ne same]

theorem move (free : (state.tasks task).spawning = none) (spawning : point.spawning = none) :
    SameSessions state (state.setTask task point) :=
  setTask (spawning.trans free.symm)

theorem modify {change : Process → Process} (poolId : (change (state.processes process)).poolId =
      (state.processes process).poolId)
    (sessionId : (change (state.processes process)).sessionId = (state.processes process).sessionId)
    (resumedFrom : (change (state.processes process)).resumedFrom =
      (state.processes process).resumedFrom) :
    SameSessions state (state.modify process change) := by
  refine ⟨rfl, rfl, ?_, ?_, ?_, fun _ => rfl⟩
  all_goals
    intro other
    by_cases same : other = process
    · rw [same, State.modify_processes_self]
      assumption
    · rw [State.modify_processes_of_ne same]

theorem unlock : SameSessions state (state.unlock task process) := modify rfl rfl rfl

theorem deliver (turn : Nat) (sources : List Nat) (contents : List Delivered) :
    SameSessions state (state.deliver turn sources contents) :=
  ⟨rfl, rfl, fun _ => rfl, fun _ => rfl, fun _ => rfl, fun _ => rfl⟩

theorem attempt (free : (state.tasks task).spawning = none) :
    SameSessions state (state.attempt task call) := by
  unfold State.attempt
  split
  · exact move free rfl
  · dsimp only
    split
    · exact move free rfl
    · split
      · exact move free rfl
      · exact move free rfl

theorem enter (free : (state.tasks task).spawning = none) :
    SameSessions state (state.enter task call process) := by
  unfold State.enter
  split
  · exact trans (modify rfl rfl rfl) (move free rfl)
  · exact move free rfl

theorem iterate (free : (state.tasks task).spawning = none) (live : Bool) :
    SameSessions state (state.iterate task call process live) := by
  unfold State.iterate
  refine (move free ?_).trans unlock
  cases live <;> split <;> rfl

theorem cleanup {otherwise : State} (free : (state.tasks task).spawning = none)
    (same : SameSessions state otherwise) :
    SameSessions state (state.cleanup task process next otherwise) := by
  unfold State.cleanup
  split
  · exact move free rfl
  · exact same

theorem finishRead {result : CliResult} {sources : List Nat}
    (free : (state.tasks task).spawning = none) :
    SameSessions state (state.finishRead task call process result sources) := by
  unfold State.finishRead
  split
  · exact move free rfl
  · exact move free rfl
  · have gone : SameSessions state (state.setTask task .done) := move free rfl
    exact (gone.trans unlock).trans ((modify rfl rfl rfl).trans (deliver _ _ _))
  · exact move free rfl

theorem resumeWriting (free : (state.tasks task).spawning = none)
    (stepTo : state.resumeWriting task call process outcome = some after) :
    SameSessions state after := by
  unfold State.resumeWriting at stepTo
  split at stepTo
  · cases stepTo
    split
    · exact iterate free true
    · exact move free rfl
  · cases stepTo
    split
    · exact cleanup free (iterate free false)
    · exact move free rfl
  · cases stepTo
    split
    · exact (move free rfl).trans unlock
    · exact move free rfl
  · cases stepTo

theorem resumeReading {reading : BlockingReader}
    (free : (state.tasks task).spawning = none) (noLine : outcome ≠ .line)
    (stepTo : state.resumeReading settings task call process reading outcome =
      some after) : SameSessions state after := by
  rcases State.resumeReading_cases stepTo with
    ⟨_, isLine, -, -⟩ | ⟨output, -, -, rfl⟩ | ⟨-, -, rfl⟩ | ⟨-, -, -, rfl⟩ |
      rfl
  · exact absurd isLine noLine
  · exact (move free rfl).trans (modify rfl rfl rfl)
  all_goals exact move free rfl

theorem resumeStreaming {reading : StreamReader}
    (free : (state.tasks task).spawning = none) (noLine : outcome ≠ .line)
    (stepTo : state.resumeStreaming settings task process reading outcome =
      some after) : SameSessions state after := by
  rcases State.resumeStreaming_cases stepTo with
    ⟨_, isLine, -, -⟩ | ⟨-, -, rfl⟩ | ⟨-, -, rfl⟩ | ⟨-, -, rfl⟩ | rfl
  · exact absurd isLine noLine
  · exact (move free rfl).trans (modify rfl rfl rfl)
  · exact move free rfl
  · exact cleanup free (move free rfl)
  · exact move free rfl

theorem afterKill (free : (state.tasks task).spawning = none)
    (noResume : ∀ poolId sessionId, next ≠ .storeResume poolId sessionId) :
    SameSessions state (state.afterKill settings task next) := by
  unfold State.afterKill
  split
  · exact move free rfl
  · exact move free rfl
  · exact (move free rfl).trans ⟨rfl, rfl, fun _ => rfl, fun _ => rfl, fun _ => rfl, fun _ => rfl⟩
  · exact absurd rfl (noResume _ _)
  · exact move free rfl
  · exact (move free rfl).trans unlock
  · exact move free rfl
  · exact ((move free rfl).trans unlock).trans (deliver _ _ _)
  · exact iterate free false
  · refine move free ?_
    split <;> rfl
  · exact move free rfl

theorem updateSessionId (same : SameSessions state after) (process : Nat) (sessionId : Json) :
    SameSessions (state.updateSessionId process sessionId)
      (after.updateSessionId process sessionId) := by
  refine ⟨same.entries, same.table, ?_, ?_, ?_, same.spawning⟩
  all_goals
    intro other
    by_cases isProcess : other = process
    · subst isProcess
      simp [State.updateSessionId, same.poolId, same.sessionId, same.resumedFrom]
    · simp only [State.updateSessionId, State.modify_processes_of_ne isProcess,
        same.poolId, same.sessionId, same.resumedFrom]

end SameSessions

end CliPool

end RoxabiFactory

import Mathlib.Tactic.CasesM
import RoxabiFactory.CliProcess
import RoxabiFactory.OrderedDict
import RoxabiFactory.TransitionSystem

/-!
# The pool of CLI subprocesses

`CliPool` keeps one subprocess for each pool id.  The operations on it are
asynchronous: an operation runs without interruption until its next `await`,
and between two of them any other operation may run, a subprocess may write a
line or exit, and the operation itself may be cancelled.  While the task named
by `running` is at a point that is not an `await`, nothing else happens.
`asyncio.Lock` serves its waiters in order; here any of them may be next.
-/

namespace RoxabiFactory

namespace CliPool

/-- The state of a pool, with the history of deliveries and of the turns that
the reaper and `drain` have overlooked. -/
structure State where
  processes : Nat → Process := fun _ => {}
  spawned : Nat := 0
  tasks : Nat → Task := fun _ => .done
  started : Nat := 0
  running : Option Nat := none
  entries : OrderedDict String Nat := ∅
  cwdOverrides : OrderedDict String String := ∅
  resumeSessionIds : OrderedDict String Json := ∅
  /-- The task of the last sweep. -/
  reaper : Option Nat := none
  /-- `time.time()`. -/
  clock : ℚ := 0
  deliveries : List Delivery := []
  /-- The turns that ran on a live process when the reaper killed it. -/
  reaped : List Nat := []
  /-- The turns that ran when `drain` found nothing in flight. -/
  drainedOver : List Nat := []

namespace State

def setTask (state : State) (task : Nat) (point : Task) : State :=
  { state with tasks := Function.update state.tasks task point }

/-- Change the entry or the process. -/
def modify (state : State) (process : Nat) (change : Process → Process) :
    State :=
  { state with
    processes := Function.update state.processes process (change (state.processes process)) }

section Updates

variable {state : State} {task other process : Nat} {point : Task}
variable {change : Process → Process}

@[simp]
theorem setTask_tasks_self : (state.setTask task point).tasks task = point :=
  Function.update_self ..

theorem setTask_tasks_of_ne (different : other ≠ task) :
    (state.setTask task point).tasks other = state.tasks other :=
  Function.update_of_ne different ..

@[simp]
theorem setTask_processes : (state.setTask task point).processes = state.processes :=
  rfl

@[simp]
theorem setTask_entries : (state.setTask task point).entries = state.entries :=
  rfl

@[simp]
theorem modify_processes_self : (state.modify process change).processes process =
      change (state.processes process) :=
  Function.update_self ..

theorem modify_processes_of_ne (different : other ≠ process) :
    (state.modify process change).processes other = state.processes other :=
  Function.update_of_ne different ..

@[simp]
theorem modify_tasks : (state.modify process change).tasks = state.tasks :=
  rfl

@[simp]
theorem modify_entries : (state.modify process change).entries = state.entries :=
  rfl

end Updates

/-- Release the lock of the process if the task holds it. -/
def unlock (state : State) (task process : Nat) : State := state.modify process fun entry =>
    { entry with lock := if entry.lock = some task then none else entry.lock }

/-- `Path(entry.prompt_file).unlink(missing_ok=True)`. -/
def unlinkPromptFile (state : State) (process : Nat) : State :=
  state.modify process fun entry => { entry with promptFile := false }

/-- `update_session_id`. -/
def updateSessionId (state : State) (process : Nat) (sessionId : Json) :
    State :=
  state.modify process fun entry =>
    { entry with
      sessionId := if sessionId.truthy then some sessionId
        else entry.sessionId }

def popLine (state : State) (process : Nat) : State :=
  state.modify process fun entry => { entry with stdout := entry.stdout.tail }

def deliver (state : State) (turn : Nat) (sources : List Nat) (contents : List Delivered) : State :=
  { state with
    deliveries := state.deliveries ++ contents.map fun content => ⟨turn, sources, content⟩ }

/-- The entry is the registered one of its pool. -/
def Registered (state : State) (process : Nat) : Prop :=
  state.entries.lookup (state.processes process).poolId = some process

instance (state : State) (process : Nat) : Decidable (state.Registered process) :=
  inferInstanceAs (Decidable (_ = _))

/-- The turns that run on a process that satisfies the test. -/
def turnsOn (state : State) (test : Nat → Bool) : List Nat :=
  (List.range state.started).filter fun task =>
    (state.tasks task).runsOn.any test

/-- The first part of `_kill`: the entry and the overrides of the pool are
dropped, and its session is kept for the next process or discarded. -/
def dropEntry (state : State) (poolId : String) (preserve : Bool) : State :=
  let sessionId := (state.entries.lookup poolId).bind fun process =>
    (state.processes process).sessionId
  { state with
    entries := state.entries.erase poolId
    cwdOverrides := state.cwdOverrides.erase poolId
    resumeSessionIds :=
      if preserve then
        match sessionId with
        | some sessionId => state.resumeSessionIds.assign poolId sessionId
        | none => state.resumeSessionIds
      else state.resumeSessionIds.erase poolId }

/-- `_sync_evict_entry`. -/
def syncEvictEntry (state : State) (poolId : String) (preserve : Bool) :
    State :=
  match state.entries.lookup poolId with
  | none => { state with cwdOverrides := state.cwdOverrides.erase poolId }
  | some _ => state.dropEntry poolId preserve

/-- The start of an attempt: the entry is looked up, and the process is
spawned when there is none and replaced when it does not fit. -/
def attempt (state : State) (task : Nat) (call : TurnCall) : State :=
  match state.entries.lookup call.poolId with
  | none => state.setTask task (.spawn call)
  | some process =>
    let entry := state.processes process
    if entry.alive = false then state.setTask task (.spawn call)
    else if entry.systemPrompt ≠ call.systemPrompt ∨
        (call.streaming = true ∧ entry.modelConfig ≠ call.modelConfig) then
      state.setTask task (.kill call.poolId false (.respawn call))
    else state.setTask task (.acquire call process)

/-- The process as `_spawn` describes it, with its prompt file. -/
def newProcess (state : State) (call : TurnCall) : Process :=
  { poolId := call.poolId
    systemPrompt := call.systemPrompt
    modelConfig := call.modelConfig
    cwd := (state.cwdOverrides.lookup call.poolId).or call.modelConfig.cwd
    resumedFrom := state.resumeSessionIds.lookup call.poolId
    promptFile := (Json.str call.systemPrompt).truthy }

def addProcess (state : State) (process : Process) : State :=
  { state with
    processes := Function.update state.processes state.spawned process
    spawned := state.spawned + 1 }

@[simp]
theorem addProcess_processes_self (state : State) (created : Process) :
    (state.addProcess created).processes state.spawned = created :=
  Function.update_self ..

theorem addProcess_processes_of_ne {state : State} {process : Nat}
    (created : Process) (different : process ≠ state.spawned) :
    (state.addProcess created).processes process = state.processes process :=
  Function.update_of_ne different ..

/-- The command can be built: the system prompt can be encoded, and the
session id is a string. -/
def commandBuilds (process : Process) : Bool := (match process.systemPrompt with
    | .text _ => true
    | .loneSurrogate _ => false) &&
  process.resumedFrom.all fun
    | .str _ => true
    | _ => false

/-- `_spawn` up to `create_subprocess_exec`.  An exception while the command
is built leaves the prompt file behind. -/
def spawn (state : State) (task : Nat) (call : TurnCall) : State :=
  let created := state.newProcess call
  let grown := state.addProcess created
  { grown with
    resumeSessionIds := grown.resumeSessionIds.erase call.poolId }.setTask task
        (if commandBuilds created then .spawnExec call state.spawned
          else .done)

/-- `_spawn` registers the process. -/
def register (state : State) (process : Nat) : State :=
  { state.modify process fun entry =>
      { entry with lastActivity := state.clock } with
    entries := state.entries.assign (state.processes process).poolId process }

/-- The turn has the lock: unless the process is dead, it writes its
message. -/
def enter (state : State) (task : Nat) (call : TurnCall) (process : Nat) :
    State :=
  if (state.processes process).alive = true then
    (state.modify process fun entry =>
      { entry with
        lock := some task
        unanswered := entry.unanswered ++ [task]
        turnCount :=
          if call.streaming then entry.turnCount + 1 else entry.turnCount
        lastActivity :=
          if call.streaming then state.clock
          else entry.lastActivity }).setTask task (.writing call process)
  else state.setTask task .done

/-- The rest of `send_streaming` after the lock has been released. -/
def iterate (state : State) (task : Nat) (call : TurnCall) (process : Nat) (live : Bool) : State :=
  let entry := state.processes process
  (state.setTask task (if call.retried = false ∧ entry.resumedFrom.isSome ∧ entry.turnCount = 1 then
      .staleCheck call process live
    else if live then .streaming process {}
    else .done)).unlock task process

/-- `_cleanup` of a streaming turn: kill the process if it is still
registered. -/
def cleanup (state : State) (task process : Nat) (next : AfterKill) (otherwise : State) : State :=
  if state.Registered process then
    state.setTask task (.kill (state.processes process).poolId false next)
  else otherwise

/-- What `send` does with the result of a turn. -/
inductive ResultUse
  | kill
  | retry
  | return

/-- The tests of `send` on the error of a result. -/
def resultUse (call : TurnCall) (entry : Process) (result : CliResult) :
    Py ResultUse := do
  if result.ok then return .return
  if (← result.error.contains "Timeout") || (← result.error.contains "terminated") then
    return .kill
  if call.retried = false ∧ entry.resumedFrom.isSome ∧ entry.turnCount = 0 then
    if ← result.error.contains "No conversation found" then return .retry
  return .return

/-- `send` after `send_and_read`. -/
def finishRead (state : State) (task : Nat) (call : TurnCall)
    (process : Nat) (result : CliResult) (sources : List Nat) : State :=
  match resultUse call (state.processes process) result with
  | .ok .kill =>
    state.setTask task (.kill call.poolId true (.returnResult process result sources))
  | .ok .retry =>
    state.setTask task (.kill call.poolId false (.retry call process))
  | .ok .return =>
    (((state.setTask task .done).unlock task process).modify process
      fun entry =>
        { entry with
          turnCount := entry.turnCount + 1
          lastActivity := state.clock }).deliver task sources [.result result]
  | .error raised =>
    let failed : CliResult := { error := .ofString ("Send failed: " ++ raised.name) }
    state.setTask task (.kill call.poolId true (.returnResult process failed sources))

/-- The end of `_kill`: the operation goes on. -/
def afterKill (settings : Settings) (state : State) (task : Nat) : AfterKill → State
  | .finish | .endIterator _ => state.setTask task .done
  | .storeCwd poolId cwd =>
    { state with
      cwdOverrides := state.cwdOverrides.assign poolId cwd }.setTask task .done
  | .storeResume poolId sessionId =>
    { state with
      resumeSessionIds := state.resumeSessionIds.assign poolId
        (.ofString sessionId) }.setTask task .done
  | .respawn call => state.setTask task (.spawn call)
  | .retry call process =>
    (state.setTask task (.attempt { call with retried := true })).unlock
      task process
  | .retryStreaming call =>
    state.setTask task (.attempt { call with retried := true })
  | .returnResult process result sources =>
    ((state.setTask task .done).unlock task process).deliver task sources [.result result]
  | .endWrite call process => state.iterate task call process false
  | .sweep idle rest =>
    state.setTask task (if idle && settings.hasOnReap then .onReap rest else .sweeping rest)
  | .stop rest => state.setTask task (.stopping rest)

/-- The turns that a kill interrupts when the reaper kills. -/
def interrupted (state : State) (process : Nat) : AfterKill → List Nat
  | .sweep _ _ => state.turnsOn (· = process)
  | _ => []

/-- `_kill` up to its wait for the process. -/
def kill (state : State) (task : Nat) (poolId : String) (preserve : Bool)
    (next : AfterKill) : State :=
  match state.entries.lookup poolId with
  | none => (state.dropEntry poolId preserve).setTask task (.killed next)
  | some process =>
    if (state.processes process).alive = true then
      { (state.dropEntry poolId preserve).setTask task (.killWait process next) with
        reaped := state.reaped ++ state.interrupted process next }
    else
      (state.dropEntry poolId preserve).setTask task (.unlink process next)

/-- The pools that the idle reaper kills in this sweep. -/
def chosen (settings : Settings) (state : State) : List (String × Nat) :=
  state.entries.items.filter fun item =>
    let entry := state.processes item.2
    !entry.alive || (decide (state.clock - entry.lastActivity > settings.idleTtl) &&
        entry.lock.isNone)

/-- A blocking turn waits for a line. -/
def resumeReading (settings : Settings) (state : State) (task : Nat)
    (call : TurnCall) (process : Nat) (reading : BlockingReader)
    (outcome : Outcome) : Option State :=
  let entry := state.processes process
  match outcome with
  | .line => entry.stdout.head?.map fun output =>
    ((state.setTask task (reading.next call process output)).popLine
      process).updateSessionId process (reading.reader.reportedSession output.line)
  | .tooLong => entry.stdout.head?.map fun output =>
    (state.setTask task (.finishRead call process (CliNonStreaming.readError .valueError)
      (reading.sources ++ [output.turn]))).popLine process
  | .eof =>
    if entry.stdout.isEmpty ∧ entry.stdoutClosed then
      some (state.setTask task (.terminated call process reading.sources))
    else none
  | .timedOut =>
    if entry.stdout.isEmpty then
      some (state.setTask task (if entry.alive = false then
          .terminated call process reading.sources
        else if settings.maxIdleRetries ≤ reading.idleRetries + 1 then
          .finishRead call process { error := .ofString "Timeout: no output" } reading.sources
        else
          .reading call process { reading with idleRetries := reading.idleRetries + 1 }))
    else none
  | _ => none

/-- The consumer of a streaming turn waits for a line. -/
def resumeStreaming (settings : Settings) (state : State) (task : Nat)
    (process : Nat) (reading : StreamReader) (outcome : Outcome) :
    Option State :=
  let entry := state.processes process
  match outcome with
  | .line => entry.stdout.head?.map fun output =>
    let read := reading.read settings.tools output.line
    (((state.setTask task (reading.next settings.tools process
      output)).popLine process).updateSessionId process (read.sessionId.getD .null)).deliver task
          (reading.sources ++ [output.turn]) (read.events.map .event)
  | .tooLong => entry.stdout.head?.map fun _ =>
    (state.setTask task .done).popLine process
  | .eof =>
    if entry.stdout.isEmpty ∧ entry.stdoutClosed then
      some (state.setTask task .done)
    else none
  | .timedOut =>
    if entry.stdout.isEmpty then
      if entry.alive = false then some (state.setTask task .done)
      else if settings.maxIdleRetries ≤ reading.idleRetries + 1 then
        some (state.cleanup task process (.endIterator process) (state.setTask task .done))
      else
        some (state.setTask task (.streaming process
          { reading with idleRetries := reading.idleRetries + 1 }))
    else none
  | _ => none

/-- The message of a turn has been written. -/
def resumeWriting (state : State) (task : Nat) (call : TurnCall)
    (process : Nat) : Outcome → Option State
  | .ready =>
    some (if call.streaming then state.iterate task call process true
      else state.setTask task (.reading call process {}))
  | .timedOut =>
    some (if call.streaming then
        state.cleanup task process (.endWrite call process) (state.iterate task call process false)
      else state.setTask task (.finishRead call process
        { error := .ofString "Timeout writing to subprocess stdin" } []))
  | .raises raised =>
    let failed : CliResult := { error := .ofString ("Send failed: " ++ raised.name) }
    some (if call.streaming then
        (state.setTask task .done).unlock task process
      else state.setTask task (.kill call.poolId true (.returnResult process failed [])))
  | _ => none

/-- `_spawn` after one of its waits. -/
def resumeSpawn (state : State) (task : Nat) : Task → Outcome → Option State
  | .spawnExec call process, .ready =>
    some ((state.setTask task (.spawnProbe call process)).modify process
      fun entry => { entry with alive := true })
  | .spawnExec _ process, .raises _ =>
    some ((state.setTask task .done).unlinkPromptFile process)
  | .spawnProbe call process, .timedOut =>
    some ((state.setTask task (.acquire call process)).register process)
  | .spawnProbe call process, .ready =>
    if (state.processes process).alive = true then none
    else some (state.setTask task (.spawnStderr call process))
  | .spawnStderr _ process, .ready =>
    some ((state.setTask task .done).unlinkPromptFile process)
  | _, _ => none

/-- The loop over the pools that a sweep has chosen. -/
def sweepNext (state : State) (task : Nat) : List (String × Nat) → State
  | [] => state.setTask task .done
  | (poolId, process) :: rest =>
    state.setTask task (.kill poolId true (.sweep (state.processes process).alive rest))

/-- The loop of `stop`. -/
def stopNext (state : State) (task : Nat) : List String → State
  | [] => state.setTask task .done
  | poolId :: rest => state.setTask task (.kill poolId true (.stop rest))

/-- A task goes on from the point it has reached. -/
def resume (settings : Settings) (state : State) (task : Nat) (outcome : Outcome) : Option State :=
  match state.tasks task, outcome with
  | .attempt call, .ready => some (state.attempt task call)
  | .spawn call, .ready => some (state.spawn task call)
  | .acquire call process, .ready =>
    if (state.processes process).lock = none then
      some (state.enter task call process)
    else some (state.setTask task (.lockWait call process))
  | .lockWait call process, .ready =>
    if (state.processes process).lock = none then
      some (state.enter task call process)
    else none
  | .writing call process, outcome =>
    state.resumeWriting task call process outcome
  | .reading call process reading, outcome =>
    state.resumeReading settings task call process reading outcome
  | .terminated call process sources, .ready =>
    some (state.setTask task (.finishRead call process
      { error := .ofString "Process terminated unexpectedly" } sources))
  | .finishRead call process result sources, .ready =>
    some (state.finishRead task call process result sources)
  | .staleCheck call process live, .ready =>
    some (if (state.processes process).alive = true then
        state.setTask task (if live then .streaming process {} else .done)
      else state.setTask task (.kill call.poolId false (.retryStreaming call)))
  | .streaming process reading, outcome =>
    state.resumeStreaming settings task process reading outcome
  | .kill poolId preserve next, .ready =>
    some (state.kill task poolId preserve next)
  | .killWait process next, .ready =>
    if (state.processes process).alive = true then none
    else some (state.setTask task (.unlink process next))
  | .unlink process next, .ready =>
    some ((state.setTask task (.killed next)).unlinkPromptFile process)
  | .killed next, .ready => some (state.afterKill settings task next)
  | .sweeping rest, .ready => some (state.sweepNext task rest)
  | .onReap rest, .ready => some (state.setTask task (.sweeping rest))
  | .stopping rest, .ready => some (state.stopNext task rest)
  | point, outcome => state.resumeSpawn task point outcome

/-- `CancelledError` at an `await`.  The reaper swallows it while it waits
for its callback. -/
def cancel (state : State) (task : Nat) : State :=
  let point := state.tasks task
  match point with
  | .onReap rest => state.setTask task (.sweeping rest)
  | _ =>
    match point.lockOf with
    | some process => (state.setTask task .done).unlock task process
    | none => state.setTask task .done

/-- A new operation. -/
def start (state : State) (point : Task) : State :=
  { state.setTask state.started point with started := state.started + 1 }

/-- The reaper is not in the middle of a sweep. -/
def reaperSleeps (state : State) : Bool :=
  match state.reaper with
  | none => true
  | some task => match state.tasks task with
    | .done => true
    | _ => false

def reaperCallsBack (state : State) : Bool :=
  match state.reaper with
  | none => false
  | some task => match state.tasks task with
    | .onReap _ => true
    | _ => false

/-- `SESSION_ID_RE` matches. -/
def isSessionId (sessionId : String) : Bool :=
  let characters := sessionId.toList
  let characters :=
    if characters.getLast? = some '\n' then characters.dropLast
    else characters
  characters.length = 36 && (characters.zipIdx.all fun (character, index) =>
      if index ∈ [8, 13, 18, 23] then character = '-'
      else character.isDigit || ('a' ≤ character && character ≤ 'f'))

/-- `resume_direct` up to its call of `_kill`. -/
def resumeDirect (state : State) (poolId sessionId : String) : State :=
  let alreadyOnSession := (state.entries.lookup poolId).any fun process =>
    let entry := state.processes process
    entry.alive && entry.sessionId.any fun current =>
      current.isText sessionId
  if !isSessionId sessionId || alreadyOnSession then state.start .done
  else state.start (.kill poolId false (.storeResume poolId sessionId))

/-- `stop`: it cancels the reaper and waits for its end, which does not come
when the reaper swallows the cancellation. -/
def stop (state : State) : State :=
  let pools := state.entries.items.map Prod.fst
  match state.reaper with
  | none => state.start (.stopping pools)
  | some reaper =>
    if state.reaperCallsBack then state.cancel reaper
    else (state.cancel reaper).start (.stopping pools)

/-- A check of `drain`. -/
def drainCheck (state : State) : State :=
  if state.entries.items.all fun item =>
      (state.processes item.2).lock.isNone then
    { state with
      drainedOver := state.drainedOver ++ state.turnsOn fun _ => true }
  else state

/-- The subprocess writes the next line of its current answer. -/
def emit (state : State) (process : Nat) (line : StdoutLine) : Option State :=
  let entry := state.processes process
  match entry.unanswered with
  | turn :: later =>
    if entry.alive = true ∧ entry.stdoutClosed = false then
      some (state.modify process fun entry =>
        { entry with
          stdout := entry.stdout ++ [⟨turn, line⟩]
          unanswered := if line.isResult then later
            else entry.unanswered })
    else none
  | [] => none

end State

/-- What can happen next to the pool. -/
inductive Action
  /-- A call of `send` or `send_streaming`. -/
  | send (call : TurnCall)
  | reset (poolId : String)
  | switchCwd (poolId cwd : String)
  | resumeDirect (poolId sessionId : String)
  | syncEvict (poolId : String) (preserve : Bool)
  /-- The idle reaper wakes up. -/
  | sweep
  | drainCheck
  | stop
  | resume (task : Nat) (outcome : Outcome)
  | cancel (task : Nat)
  /-- The consumer of a streaming turn closes the iterator. -/
  | aclose (task : Nat)
  | exit (process : Nat)
  | closeStdout (process : Nat)
  | emit (process : Nat) (line : StdoutLine)
  | clock (now : ℚ)

/-- What an action does between two points. -/
def perform (settings : Settings) (state : State) : Action → Option State
  | .send call => some (state.start (.attempt { call with retried := false }))
  | .reset poolId => some (state.start (.kill poolId false .finish))
  | .switchCwd poolId cwd =>
    some (state.start (.kill poolId false (.storeCwd poolId cwd)))
  | .resumeDirect poolId sessionId =>
    some (state.resumeDirect poolId sessionId)
  | .syncEvict poolId preserve => some (state.syncEvictEntry poolId preserve)
  | .sweep =>
    if state.reaperSleeps then
      some { state.start (.sweeping (state.chosen settings)) with
        reaper := some state.started }
    else none
  | .drainCheck => some state.drainCheck
  | .stop => some state.stop
  | .resume task outcome => state.resume settings task outcome
  | .cancel task => some (state.cancel task)
  | .aclose task =>
    match state.tasks task with
    | .streaming process _ =>
      some (state.cleanup task process (.endIterator process) (state.setTask task .done))
    | _ => none
  | .exit process =>
    if (state.processes process).alive = true then
      some (state.modify process fun entry => { entry with alive := false })
    else none
  | .closeStdout process =>
    some (state.modify process fun entry =>
      { entry with stdoutClosed := true })
  | .emit process line => state.emit process line
  | .clock now => some { state with clock := now }

/-- The task that an action lets run. -/
def Action.actor (state : State) : Action → Option Nat
  | send _ | reset _ | switchCwd _ _ | resumeDirect _ _ | sweep =>
    some state.started
  | stop => if state.reaperCallsBack then state.reaper else some state.started
  | resume task _ | cancel task | aclose task => some task
  | _ => none

/-- Nothing interrupts a task before its next `await`. -/
def Action.enabled (state : State) (action : Action) : Bool :=
  match state.running, action with
  | none, _ => true
  | some running, resume task _ => decide (task = running)
  | some _, _ => false

def step (settings : Settings) (state : State) (action : Action) : Option State :=
  if action.enabled state then
    (perform settings state action).map fun after =>
      { after with
        running := (action.actor state).filter fun task =>
          !(after.tasks task).awaits }
  else none

/-- A pool as its `__init__` makes it. -/
def poolSystem (settings : Settings) : TransitionSystem State Action where
  initial state := state = { clock := state.clock }
  step := step settings

end CliPool

end RoxabiFactory

import RoxabiFactory.CliNonStreaming

/-!
# Subprocesses and the operations on them

The entries of `CliPool`, and the points between which its asynchronous
operations run without interruption.  Processes are numbered in the order in
which they are spawned, and turns by the tasks of `send` and
`send_streaming`.  A subprocess answers the messages on its stdin one after
the other, each with lines that end with a result; a line carries the turn
whose message it answers.
-/

namespace RoxabiFactory

namespace CliPool

/-- `ModelConfig`. -/
structure ModelConfig where
  backend : String := "claude-cli"
  model : String := ""
  maxTurns : Option Int := none
  tools : List String := []
  cwd : Option String := none
  skipPermissions : Bool := false
  streaming : Bool := true
  effort : Option String := none
  deriving DecidableEq, Repr

/-- The arguments of `send` and `send_streaming`. -/
structure TurnCall where
  streaming : Bool
  poolId : String
  systemPrompt : PyStr := .text ""
  modelConfig : ModelConfig := {}
  /-- `_attempt` is 1. -/
  retried : Bool := false

/-- A line of stdout, with the turn that it answers. -/
structure OutputLine where
  turn : Nat
  line : StdoutLine

/-- A subprocess with its entry. -/
structure Process where
  poolId : String := ""
  systemPrompt : PyStr := .text ""
  modelConfig : ModelConfig := {}
  /-- `none` is the default directory. -/
  cwd : Option String := none
  resumedFrom : Option Json := none
  /-- The temporary file with the system prompt exists. -/
  promptFile : Bool := false
  alive : Bool := false
  sessionId : Option Json := none
  turnCount : Nat := 0
  lastActivity : ℚ := 0
  /-- The task that holds `_lock`. -/
  lock : Option Nat := none
  /-- The turns whose answers are not complete yet. -/
  unanswered : List Nat := []
  /-- What has been written to stdout and has not been read. -/
  stdout : List OutputLine := []
  stdoutClosed : Bool := false

structure BlockingReader where
  reader : CliNonStreaming := {}
  idleRetries : Nat := 0
  sources : List Nat := []

/-- The iterator of a streaming turn. -/
structure StreamReader where
  parser : CliStreamingParser := {}
  idleRetries : Nat := 0
  sources : List Nat := []

/-- What an operation does after `_kill`. -/
inductive AfterKill
  /-- The end of `reset`. -/
  | finish
  /-- The end of `switch_cwd`. -/
  | storeCwd (poolId cwd : String)
  /-- The end of `resume_direct`. -/
  | storeResume (poolId sessionId : String)
  | respawn (call : TurnCall)
  /-- The second attempt of `send`, which still holds the lock. -/
  | retry (call : TurnCall) (process : Nat)
  /-- The second attempt of `send_streaming`. -/
  | retryStreaming (call : TurnCall)
  /-- `send` returns. -/
  | returnResult (process : Nat) (result : CliResult) (sources : List Nat)
  /-- The end of `_cleanup` of a streaming turn. -/
  | endIterator (process : Nat)
  /-- The end of `_cleanup` when stdin has not been drained in time. -/
  | endWrite (call : TurnCall) (process : Nat)
  /-- The next pool of a sweep. -/
  | sweep (idle : Bool) (rest : List (String × Nat))
  /-- The next pool of `stop`. -/
  | stop (rest : List String)

/-- The point that an operation has reached. -/
inductive Task
  | done
  /-- The start of an attempt of `send` or `send_streaming`. -/
  | attempt (call : TurnCall)
  /-- The start of `_spawn`. -/
  | spawn (call : TurnCall)
  /-- Waits for `create_subprocess_exec`. -/
  | spawnExec (call : TurnCall) (process : Nat)
  /-- Waits for an early exit of the process. -/
  | spawnProbe (call : TurnCall) (process : Nat)
  /-- Reads the stderr of a process that has exited early. -/
  | spawnStderr (call : TurnCall) (process : Nat)
  /-- Asks for the lock of the process. -/
  | acquire (call : TurnCall) (process : Nat)
  /-- Waits for the lock of the process. -/
  | lockWait (call : TurnCall) (process : Nat)
  /-- Has written the message and waits for `drain`. -/
  | writing (call : TurnCall) (process : Nat)
  | reading (call : TurnCall) (process : Nat) (reader : BlockingReader)
  /-- The output has ended; reads stderr. -/
  | terminated (call : TurnCall) (process : Nat) (sources : List Nat)
  /-- A blocking turn has its result. -/
  | finishRead (call : TurnCall) (process : Nat) (result : CliResult) (sources : List Nat)
  /-- The delay of the stale resume guard; the iterator may be done. -/
  | staleCheck (call : TurnCall) (process : Nat) (live : Bool)
  /-- The iterator is being consumed. -/
  | streaming (process : Nat) (reader : StreamReader)
  /-- The start of `_kill`. -/
  | kill (poolId : String) (preserve : Bool) (next : AfterKill)
  /-- Waits for the exit of the process. -/
  | killWait (process : Nat) (next : AfterKill)
  /-- Removes the prompt file of the process. -/
  | unlink (process : Nat) (next : AfterKill)
  /-- `_kill` returns. -/
  | killed (next : AfterKill)
  /-- The loop of the idle reaper over the entries it has chosen. -/
  | sweeping (rest : List (String × Nat))
  /-- Waits for `_on_reap`. -/
  | onReap (rest : List (String × Nat))
  /-- The loop of `stop`. -/
  | stopping (rest : List String)

/-- The point of a blocking turn after it has read a line. -/
def BlockingReader.next (reading : BlockingReader) (call : TurnCall)
    (process : Nat) (output : OutputLine) : Task :=
  let sources := reading.sources ++ [output.turn]
  match reading.reader.readLine output.line with
  | .error raised =>
    .finishRead call process (CliNonStreaming.readError raised) sources
  | .ok (_, some result) => .finishRead call process result sources
  | .ok (reader, none) =>
    .reading call process { reader := reader, sources := sources }

/-- What a line brings to the consumer of a streaming turn. -/
structure StreamRead where
  /-- The parser after the line, unless it raises. -/
  parser : Option CliStreamingParser := none
  sessionId : Option Json := none
  events : List LlmEvent := []

/-- Parse a line.  The iterator looks at the done flag of the parser before
the events that are pending. -/
def StreamReader.read (reading : StreamReader) (tools : PythonText)
    (line : StdoutLine) : StreamRead :=
  match reading.parser.parseLine tools line with
  | .error _ => {}
  | .ok (parser, events) =>
    { parser := some parser
      sessionId := parser.sessionId
      events := if parser.done then events.take 1 else events }

/-- The point of a streaming turn after it has read a line. -/
def StreamReader.next (reading : StreamReader) (tools : PythonText)
    (process : Nat) (output : OutputLine) : Task :=
  match (reading.read tools output.line).parser with
  | none => .done
  | some parser =>
    if parser.done then .done
    else .streaming process { parser := parser, sources := reading.sources ++ [output.turn] }

/-- The task waits, or is over. -/
def Task.awaits : Task → Bool
  | done | spawnExec .. | spawnProbe .. | spawnStderr .. | lockWait ..
  | writing .. | reading .. | terminated .. | staleCheck .. | streaming ..
  | killWait .. | onReap .. => true
  | _ => false

/-- The process whose lock the operation still holds. -/
@[simp]
def AfterKill.lockOf : AfterKill → Option Nat
  | retry _ process | returnResult process _ _ | endWrite _ process =>
    some process
  | _ => none

@[simp]
def Task.lockOf : Task → Option Nat
  | writing _ process | reading _ process _ | terminated _ process _
  | finishRead _ process _ _ => some process
  | kill _ _ next | killWait _ next | unlink _ next | killed next =>
    next.lockOf
  | _ => none

/-- The process that a turn uses until it is over. -/
@[simp]
def AfterKill.process : AfterKill → Option Nat
  | retry _ process | returnResult process _ _ | endIterator process
  | endWrite _ process => some process
  | _ => none

/-- The process that the operation spawns, waits for or uses. -/
@[simp]
def Task.process : Task → Option Nat
  | spawnExec _ process | spawnProbe _ process | spawnStderr _ process
  | acquire _ process | lockWait _ process | writing _ process
  | reading _ process _ | terminated _ process _ | finishRead _ process _ _
  | staleCheck _ process _ | streaming process _ => some process
  | kill _ _ next | killWait _ next | unlink _ next | killed next =>
    next.process
  | _ => none

/-- The process that a kill in progress ends. -/
@[simp]
def Task.victim : Task → Option Nat
  | killWait process _ | unlink process _ => some process
  | _ => none

/-- The process that a spawn in progress starts. -/
@[simp]
def Task.spawning : Task → Option Nat
  | spawnExec _ process | spawnProbe _ process | spawnStderr _ process =>
    some process
  | _ => none

/-- The task refers to the process. -/
@[simp]
def Task.Mentions (point : Task) (process : Nat) : Prop :=
  point.process = some process ∨ point.victim = some process

/-- The process on which a turn runs: its message has been written, and its
result or the end of the output has not been read. -/
@[simp]
def Task.runsOn : Task → Option Nat
  | writing _ process | reading _ process _ | staleCheck _ process true
  | streaming process _ => some process
  | _ => none

/-- What an `await` brings. -/
inductive Outcome
  /-- The operation goes on, or what it waited for is there. -/
  | ready
  /-- Its time-out expires. -/
  | timedOut
  | raises (raised : PyError)
  /-- The next line of stdout. -/
  | line
  /-- The next line of stdout is longer than the buffer. -/
  | tooLong
  /-- The end of stdout. -/
  | eof

/-- What a turn delivers to its caller. -/
inductive Delivered
  | event (event : LlmEvent)
  | result (result : CliResult)

/-- A delivery to the caller of a turn, with the turns answered by the lines
that have been read for it. -/
structure Delivery where
  turn : Nat
  sources : List Nat
  content : Delivered

structure Settings where
  tools : PythonText
  idleTtl : ℚ := 1200
  maxIdleRetries : Nat := 3
  /-- The pool has an `on_reap` callback. -/
  hasOnReap : Bool := false

/-- The defaults of `CliPoolDeps`. -/
def Settings.ascii : Settings where
  tools := .ascii

end CliPool

end RoxabiFactory

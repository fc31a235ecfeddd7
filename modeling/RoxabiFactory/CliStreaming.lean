import RoxabiFactory.CliStreamingParser

/-!
# The streaming iterator over a CLI subprocess

`StreamingIterator.__anext__` reads lines until one of them has events, or
until the turn is over: the parser is done, stdout ends, the process dies, or
it stays silent for too long.  In the last three cases the iterator ends
without a result event.  What the reads of stdout bring is a list; a process
whose list is exhausted stays alive and silent.

`StreamingIterator.stream` is what a consumer gets that asks for events until
the iterator ends; `stream_next` relates it to single calls of `__anext__`.
-/

namespace RoxabiFactory

/-- What `wait_for(proc.stdout.readline(), timeout)` brings. -/
inductive StdoutRead
  | line (line : StdoutLine)
  | eof (detail : String)
  /-- The time-out expires and the process is alive. -/
  | timedOut
  /-- The time-out expires and the process is dead. -/
  | died (detail : String)
  /-- `readline` raises, for instance on a line over the buffer limit. -/
  | raises (raised : PyError)

structure StreamingIterator where
  parser : CliStreamingParser := {}
  pending : List LlmEvent := []
  done : Bool := false
  idleRetries : Nat := 0
  maxIdleRetries : Nat
  hasStdout : Bool := true
  /-- `pool_reset_fn` has been called. -/
  killed : Bool := false
  reads : List StdoutRead

/-- How a call of `__anext__` ends. -/
inductive Next
  | event (event : LlmEvent)
  | stop
  | raises (raised : PyError)

/-- How an iteration ends. -/
inductive Ending
  | stopped
  | raised (raised : PyError)
  deriving DecidableEq, Repr

namespace StreamingIterator

/-- `_cleanup`. -/
def cleanup (iterator : StreamingIterator) : StreamingIterator :=
  { iterator with
    killed := iterator.killed || !iterator.done
    done := true }

/-- The process is gone. -/
def terminated (iterator : StreamingIterator) (detail : String) :
    StreamingIterator :=
  { iterator with
    parser := { iterator.parser with
      error := some (.ofString ("Process terminated unexpectedly " ++ detail)) }
    done := true }

variable (tools : PythonText)

/-- The loop of `__anext__`. -/
def readLoop : List StdoutRead → StreamingIterator → Next × StreamingIterator
  | [], iterator => (.stop, { iterator with reads := [] }.cleanup)
  | .timedOut :: reads, iterator =>
    let retried := { iterator with
      idleRetries := iterator.idleRetries + 1
      reads := reads }
    if retried.maxIdleRetries ≤ retried.idleRetries then
      (.stop, retried.cleanup)
    else readLoop reads retried
  | .died detail :: reads, iterator | .eof detail :: reads, iterator =>
    (.stop, { iterator with reads := reads }.terminated detail)
  | .raises raised :: reads, iterator =>
    (.raises raised, { iterator with reads := reads })
  | .line line :: reads, iterator =>
    let active := { iterator with idleRetries := 0, reads := reads }
    match active.parser.parseLine tools line with
    | .error raised => (.raises raised, active)
    | .ok (parser, events) =>
      let parsed := { active with
        parser := parser
        done := active.done || parser.done }
      match events with
      | [] => readLoop reads parsed
      | event :: pending => (.event event, { parsed with pending := pending })

/-- `__anext__`. -/
def next (iterator : StreamingIterator) : Next × StreamingIterator :=
  if iterator.done || iterator.parser.done then
    (.stop, { iterator with done := true })
  else match iterator.pending with
    | event :: pending =>
      (.event event, { iterator with pending := pending })
    | [] =>
      if iterator.hasStdout then readLoop tools iterator.reads iterator
      else (.stop, { iterator with done := true })

/-- The events that the reads bring to a consumer, and how it ends. -/
def streamReads (parser : CliStreamingParser) (maxIdleRetries : Nat) :
    Nat → List StdoutRead → List LlmEvent × Ending
  | _, [] | _, .died _ :: _ | _, .eof _ :: _ => ([], .stopped)
  | _, .raises raised :: _ => ([], .raised raised)
  | idleRetries, .timedOut :: reads =>
    if maxIdleRetries ≤ idleRetries + 1 then ([], .stopped)
    else streamReads parser maxIdleRetries (idleRetries + 1) reads
  | _, .line line :: reads =>
    match parser.parseLine tools line with
    | .error raised => ([], .raised raised)
    | .ok (parser, events) =>
      if parser.done then
        -- `__anext__` looks at the done flag before the pending events.
        (events.take 1, .stopped)
      else
        let rest := streamReads parser maxIdleRetries 0 reads
        (events ++ rest.1, rest.2)

/-- Everything a consumer gets from the iterator. -/
def stream (iterator : StreamingIterator) : List LlmEvent × Ending :=
  if iterator.done || iterator.parser.done then ([], .stopped)
  else
    let rest :=
      if iterator.hasStdout then
        streamReads tools iterator.parser iterator.maxIdleRetries
          iterator.idleRetries iterator.reads
      else ([], .stopped)
    (iterator.pending ++ rest.1, rest.2)

/-- A call of `__anext__` takes the next step of the stream. -/
def TakesNext (stream : List LlmEvent × Ending) : Next × StreamingIterator → Prop
  | (.event event, after) =>
    stream = (event :: (after.stream tools).1, (after.stream tools).2)
  | (.stop, _) => stream = ([], .stopped)
  | (.raises raised, _) => stream = ([], .raised raised)

variable {iterator : StreamingIterator}

theorem takesNext_readLoop (reads : List StdoutRead)
    (running : iterator.done = false) (piped : iterator.hasStdout = true)
    (parsing : iterator.parser.done = false) :
    TakesNext tools (streamReads tools iterator.parser
        iterator.maxIdleRetries iterator.idleRetries reads)
      (readLoop tools reads iterator) := by
  induction reads generalizing iterator with
  | nil => rfl
  | cons read reads ih =>
    cases read with
    | timedOut =>
      unfold readLoop streamReads
      dsimp only
      split
      · rfl
      · exact ih running piped parsing
    | died detail | eof detail | raises raised => rfl
    | line line =>
      have endings := CliStreamingParser.parseLine_ensures tools parsing line
      unfold readLoop streamReads
      dsimp only
      cases parsed : iterator.parser.parseLine tools line with
      | error raised => rfl
      | ok result =>
        obtain ⟨parser, events⟩ := result
        rcases endings _ parsed with
          ⟨⟨still, -⟩, -⟩ | ⟨⟨gone, event, rfl, -⟩, -⟩
        · have parsing := still.trans parsing
          dsimp only at parsing
          cases events with
          | nil =>
            simpa [parsing, running] using @ih
              { iterator with
                parser := parser
                idleRetries := 0
                reads := reads
                done := false } rfl piped parsing
          | cons event pending =>
            simp [TakesNext, stream, parsing, running, piped]
        · dsimp only at gone
          simp [TakesNext, stream, gone]

theorem stream_next (iterator : StreamingIterator) :
    TakesNext tools (iterator.stream tools) (iterator.next tools) := by
  unfold stream next
  split
  · rfl
  · rename_i running
    rw [Bool.or_eq_true, not_or, Bool.not_eq_true, Bool.not_eq_true]
      at running
    cases queued : iterator.pending with
    | cons event pending =>
      simp [TakesNext, stream, running.1, running.2]
    | nil =>
      split
      · exact takesNext_readLoop tools iterator.reads running.1 ‹_› running.2
      · rfl

/-- What a consumer gets from a number of calls of `__anext__`, and how the
iterator ends within them. -/
def collect : Nat → StreamingIterator → List LlmEvent × Option Ending
  | 0, _ => ([], none)
  | calls + 1, iterator =>
    match iterator.next tools with
    | (.event event, after) => ((event :: (collect calls after).1), (collect calls after).2)
    | (.stop, _) => ([], some .stopped)
    | (.raises raised, _) => ([], some (.raised raised))

/-- A consumer that calls `__anext__` again and again gets the whole stream, and
the iterator ends with the call after the last event. -/
theorem collect_stream (more : Nat) (iterator : StreamingIterator) :
    collect tools ((iterator.stream tools).1.length + 1 + more) iterator =
      ((iterator.stream tools).1, some (iterator.stream tools).2) := by
  generalize events : (iterator.stream tools).1 = expected
  induction expected generalizing iterator with
  | nil =>
    have taken := stream_next tools iterator
    rw [Nat.add_right_comm, collect]
    generalize iterator.next tools = called at taken
    match called with
    | (.event event, after) =>
      rw [TakesNext] at taken
      simp [taken] at events
    | (.stop, _) | (.raises raised, _) =>
      rw [TakesNext] at taken
      rw [taken]
  | cons event expected ih =>
    have taken := stream_next tools iterator
    rw [List.length_cons, Nat.add_right_comm, collect]
    generalize iterator.next tools = called at taken
    match called with
    | (.event first, after) =>
      rw [TakesNext] at taken
      rw [taken] at events
      obtain ⟨rfl, rest⟩ := List.cons.inj events
      dsimp only
      rw [ih after rest, taken]
    | (.stop, _) | (.raises raised, _) =>
      rw [TakesNext] at taken
      simp [taken] at events

end StreamingIterator

end RoxabiFactory

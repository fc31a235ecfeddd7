import RoxabiFactory.StreamingPublish
import RoxabiFactory.TransitionSystem

/-!
# The driver's side of a streaming job

`ClaudeRpcDriver.stream` subscribes to the progress and to the result of a
job, starts one task for each subscription, and takes from the queue which
both tasks fill.  It stops at the first result it takes.  The progress task
waits `timeout_s` for each message, the result task waits `timeout_s` once,
and the generator waits `timeout_s` for each entry of the queue.

Timers fire when they are due and no time passes while a task of the driver
can go on: the event loop is not blocked.  A message of the job is published
less than `timeout_s` after the one before, the first one after the envelope.
-/

namespace RoxabiFactory

namespace ClaudeJobCodec

/-- The keys of `KNOWN_CODES`. -/
def registeredCodes : List String :=
  ["transport.timeout", "transport.no_responders", "transport.parse",
    "transport.contract_mismatch", "transport.slow_consumer",
    "transport.error", "transport.payload_too_large", "pool.circuit_open",
    "pool.no_live_workers", "worker.crash", "worker.validation",
    "worker.internal", "worker.capacity", "worker.busy", "cli.auth",
    "cli.session_lost", "cli.parse", "llm.rate_limit",
    "llm.context_too_long", "llm.model_unavailable", "llm.no_responders",
    "llm.lifecycle_rejected", "voice.engine_unavailable",
    "voice.audio_invalid", "image.engine_unavailable",
    "image.prompt_rejected", "stream.error"]

/-- `_validate_worker_error`. -/
def validateWorkerError (error : WorkerError) : WorkerError :=
  if error.code ∈ registeredCodes then error
  else { error with code := "worker.internal" }

def decodeProgress (progress : JobProgress) : Option LlmEvent :=
  if progress.eventType = "text" then
    some (.text (.ofString (progress.partialText.getD "")))
  else if progress.eventType = "tool_use" then
    some (.toolUse (.ofString (progress.toolName.getD "")) (.ofString (progress.toolId.getD ""))
      (progress.toolInput.getD (.obj [])))
  else none

def progressToTerminal : JobResult → LlmEvent
  | .error error =>
    let validated := validateWorkerError error
    .result (.bool true) (.int 0) (some validated.message) none (some validated)
  | .success data =>
    .result (.bool false) (.int 0) none (data.lookup "session_id") none

end ClaudeJobCodec

namespace ClaudeRpcDriver

open ClaudeJobCodec

/-- The result that stands for one that pydantic rejects. -/
def malformedResult : JobResult := .error ⟨"transport.parse", "malformed result", false⟩

/-- The event of the handler of `TimeoutError`. -/
def timedOutEvent : LlmEvent :=
  .result (.bool true) (.int 0) (some "claude request timed out") none none

/-- An entry of the queue; `none` is data that pydantic rejects. -/
inductive Entry
  | progress (data : Option JobProgress)
  | result (data : Option JobResult)

def progressEvent (data : Option JobProgress) : Option LlmEvent := data.bind decodeProgress

/-- The event that ends the stream for a result message. -/
def terminalEvent (data : Option JobResult) : LlmEvent :=
  progressToTerminal (data.getD malformedResult)

def Entry.event : Entry → Option LlmEvent
  | progress data => progressEvent data
  | result data => some (terminalEvent data)

/-- Where the generator is suspended. -/
inductive Consumer
  /-- In `_publish_envelope`. -/
  | submitting
  /-- In `wait_for(queue.get(), timeout_s)`. -/
  | waiting (since : ℚ)
  /-- At the `yield` of an event that is not the last. -/
  | yielding
  /-- In `_persist_session`. -/
  | persisting (data : List (String × Json))
  | ended
  | raised
  deriving DecidableEq

structure State where
  progressSub : List (Option JobProgress) := []
  resultSub : Option (Option JobResult) := none
  queue : List Entry := []
  /-- Since when `_pump_progress` waits, unless it has returned. -/
  progressPump : Option ℚ := some 0
  /-- Since when `_pump_result` waits, unless it has returned. -/
  resultPump : Option ℚ := some 0
  consumer : Consumer := .submitting
  /-- The events yielded. -/
  out : List LlmEvent := []
  clock : ℚ := 0
  /-- What the worker has published, and when it did so last. -/
  published : List (Option JobProgress) := []
  finished : Option (Option JobResult) := none
  lastArrival : ℚ := 0

inductive Action
  | publishProgress (data : Option JobProgress)
  | publishResult (data : Option JobResult)
  | tick (now : ℚ)
  | submitted
  | submitRaises (timedOut : Bool)
  | pumpProgress
  | progressExpires
  | pumpResult
  | resultExpires
  /-- `linked`: the pool has a linked session and the publisher is set. -/
  | consume (linked : Bool)
  | consumeExpires
  | resume
  | persisted
  | persistRaises (timedOut : Bool)

/-- The generator still runs; its `finally` clause cancels both tasks. -/
def State.alive (state : State) : Bool :=
  match state.consumer with
  | .ended | .raised => false
  | _ => true

/-- A task of the driver has what it waits for. -/
def State.ready (state : State) : Bool := state.alive &&
    (state.progressPump.isSome && !state.progressSub.isEmpty ||
      state.resultPump.isSome && state.resultSub.isSome ||
      match state.consumer with
      | .waiting _ => !state.queue.isEmpty
      | _ => false)

/-- The moments at which a timer of the driver fires. -/
def State.deadlines (timeout : ℚ) (state : State) : List ℚ :=
  if state.alive then
    (state.progressPump.toList ++ state.resultPump.toList ++
      match state.consumer with
      | .waiting since => [since]
      | _ => []).map (· + timeout)
  else []

/-- The generator leaves the `try` through an exception. -/
def State.raise (state : State) (timedOut : Bool) : State :=
  if timedOut then
    { state with consumer := .ended, out := state.out ++ [timedOutEvent] }
  else { state with consumer := .raised }

/-- `not session_id` does not hold for the result's session id. -/
def hasSession (data : List (String × Json)) : Bool :=
  ((data.lookup "session_id").getD .null).truthy

/-- The body of the `while` loop for an entry of the queue. -/
def State.handle (linked : Bool) (state : State) : Entry → State
  | .progress data =>
    match progressEvent data with
    | some event =>
      { state with consumer := .yielding, out := state.out ++ [event] }
    | none => { state with consumer := .waiting state.clock }
  | .result (some (.success data)) =>
    if linked && hasSession data then
      { state with consumer := .persisting data }
    else
      { state with
        consumer := .ended
        out := state.out ++ [terminalEvent (some (.success data))] }
  | .result data =>
    { state with
      consumer := .ended
      out := state.out ++ [terminalEvent data] }

def step (timeout : ℚ) (state : State) : Action → Option State
  | .publishProgress data =>
    if state.finished.isNone ∧ state.clock < state.lastArrival + timeout then
      some { state with
        progressSub := state.progressSub ++ [data]
        published := state.published ++ [data]
        lastArrival := state.clock }
    else none
  | .publishResult data =>
    if state.finished.isNone ∧ state.clock < state.lastArrival + timeout then
      some { state with
        resultSub := some data
        finished := some data
        lastArrival := state.clock }
    else none
  | .tick now =>
    if state.clock < now ∧ state.ready = false ∧
        ∀ deadline ∈ state.deadlines timeout, now ≤ deadline then
      some { state with clock := now }
    else none
  | .submitted =>
    if state.consumer = .submitting then
      some { state with
        consumer := .waiting state.clock
        lastArrival :=
          if state.published.isEmpty then state.clock
          else state.lastArrival }
    else none
  | .submitRaises timedOut =>
    if state.consumer = .submitting then some (state.raise timedOut)
    else none
  | .pumpProgress =>
    match state.progressPump, state.progressSub with
    | some _, data :: rest =>
      if state.alive then
        some { state with
          progressSub := rest
          queue := state.queue ++ [.progress data]
          progressPump := some state.clock }
      else none
    | _, _ => none
  | .progressExpires =>
    match state.progressPump with
    | some since =>
      if state.alive ∧ since + timeout ≤ state.clock then
        some { state with progressPump := none }
      else none
    | none => none
  | .pumpResult =>
    match state.resultPump, state.resultSub with
    | some _, some data =>
      if state.alive then
        some { state with
          resultSub := none
          queue := state.queue ++ [.result data]
          resultPump := none }
      else none
    | _, _ => none
  | .resultExpires =>
    match state.resultPump with
    | some since =>
      if state.alive ∧ since + timeout ≤ state.clock then
        some { state with resultPump := none }
      else none
    | none => none
  | .consume linked =>
    match state.consumer, state.queue with
    | .waiting _, entry :: rest =>
      some (({ state with queue := rest } : State).handle linked entry)
    | _, _ => none
  | .consumeExpires =>
    match state.consumer with
    | .waiting since =>
      if since + timeout ≤ state.clock then some (state.raise true)
      else none
    | _ => none
  | .resume =>
    if state.consumer = .yielding then
      some { state with consumer := .waiting state.clock }
    else none
  | .persisted =>
    match state.consumer with
    | .persisting data =>
      some { state with
        consumer := .ended
        out := state.out ++ [terminalEvent (some (.success data))] }
    | _ => none
  | .persistRaises timedOut =>
    match state.consumer with
    | .persisting _ => some (state.raise timedOut)
    | _ => none

/-- The runs of one call of `stream`. -/
def driver (timeout : ℚ) : TransitionSystem State Action where
  initial state := state = {}
  step := step timeout

/-- The steps of the generator, of its caller and of its two tasks. -/
def Action.ofDriver : Action → Bool
  | .publishProgress _ | .publishResult _ | .tick _ => false
  | _ => true

/-- The events that the worker's messages stand for. -/
def State.expected (state : State) : List LlmEvent := state.published.filterMap progressEvent ++
    state.finished.toList.map terminalEvent

end ClaudeRpcDriver

end RoxabiFactory

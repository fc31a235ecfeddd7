import RoxabiFactory.CliStreaming

/-!
# Publishing a streaming turn as a job

`publish_streaming_job` publishes the text and the tool calls of a turn as
progress and its result event as the job's result.  When the iterator ends
without a result event it publishes a success with an empty text, although
the iterator ends so exactly when the turn was cut short.  An exception on
the way is caught in `_run_job` and published as an error.
-/

namespace RoxabiFactory

/-- `JobProgress` as `make_progress` fills it. -/
structure JobProgress where
  step : String
  eventType : String
  partialText : Option String := none
  toolName : Option String := none
  toolId : Option String := none
  toolInput : Option Json := none
  /-- `detail["resumed"]`. -/
  resumed : Option Bool := none

/-- `JobResult`; the model validator ties the error to the status. -/
inductive JobResult
  | success (data : List (String × Json))
  | error (error : WorkerError)

/-- `isinstance(event, TextLlmEvent)`. -/
def LlmEvent.isText : LlmEvent → Bool
  | .text _ => true
  | _ => false

def JobResult.isSuccess : JobResult → Bool
  | success _ => true
  | error _ => false

/-- The result event does not report an error. -/
def LlmEvent.isSuccess : LlmEvent → Bool
  | .result isError _ _ _ workerError =>
    !isError.truthy && workerError.isNone
  | _ => false

/-- The session id of a result event can be put into a job result. -/
def LlmEvent.sessionEncodable : LlmEvent → Bool
  | .result _ _ _ sessionId _ =>
    sessionId.all fun session => !session.truthy || session.encodable
  | _ => true

namespace StreamingPublish

variable (tools : PythonText)

/-- A field of type `str | None`. -/
def optionalText : Json → Py (Option String)
  | .null => .ok none
  | .str (.text characters) => .ok (some characters)
  | _ => .error .validationError

/-- A field of type `dict[str, Any] | None`. -/
def optionalDict : Json → Py (Option Json)
  | .null => .ok none
  | .obj members =>
    if (Json.obj members).encodable then .ok (some (.obj members))
    else .error .serializationError
  | _ => .error .validationError

/-- The progress message of an event, if there is one. -/
def progressOf (resumed : Option Bool) : LlmEvent → Py (Option JobProgress)
  | .text text => do
    let partialText ← optionalText text
    return some
      { step := "text"
        eventType := "text"
        partialText := partialText
        resumed := resumed }
  | .toolUse toolName toolId input => do
    let toolName ← optionalText toolName
    let toolId ← optionalText toolId
    let toolInput ← optionalDict input
    return some
      { step := "tool"
        eventType := "tool_use"
        toolName := toolName
        toolId := toolId
        toolInput := toolInput }
  | _ => .ok none

/-- `_publish_terminal`; `null` is `None`, and values that are falsy are left
out of the data. -/
def publishTerminal (isError text sessionId : Json)
    (workerError : Option WorkerError) (resumed : Option Bool) :
    Py JobResult :=
  if isError.truthy || workerError.isSome then
    .ok (.error (workerError.getD
      ⟨"worker.internal", tools.sanitize "LLM generation failed", true⟩))
  else
    let data := [("result", text), ("session_id", sessionId)].filter
      fun field => field.2.truthy
    if data.all fun field => field.2.encodable then
      .ok (.success (data ++ resumed.toList.map fun resumed => ("resumed", .bool resumed)))
    else .error .serializationError

/-- What `publish_streaming_job` has published and what it has got from the
iterator. -/
structure Published where
  progress : List JobProgress := []
  delivered : List LlmEvent := []
  outcome : Py JobResult

/-- The loop of `publish_streaming_job`. -/
def publishEvents (resumed : Option Bool) : Bool → List LlmEvent → Ending → Published
  | _, [], .stopped =>
    { outcome := publishTerminal tools (.bool false) (.ofString "") .null none none }
  | _, [], .raised raised => { outcome := .error raised }
  | first, event :: events, ending =>
    match event with
    | .result isError _ _ sessionId workerError =>
      { delivered := [event]
        outcome := publishTerminal tools isError .null (sessionId.getD .null) workerError
          (if first then resumed else none) }
    | _ =>
      match progressOf (if first then resumed else none) event with
      | .error raised => { delivered := [event], outcome := .error raised }
      | .ok progress =>
        let rest := publishEvents resumed (first && !event.isText) events ending
        { progress := progress.toList ++ rest.progress
          delivered := event :: rest.delivered
          outcome := rest.outcome }

/-- `publish_streaming_job`. -/
def publishStreamingJob (resumed : Option Bool) (iterator : StreamingIterator) : Published :=
  let stream := iterator.stream tools
  publishEvents tools resumed true stream.1 stream.2

/-- `classify_exception` of the clipool worker. -/
def classifyException (raised : PyError) : WorkerError :=
  if raised = .timeoutError then
    ⟨"cli.session_lost", tools.sanitize ("CLI session timed out: " ++ raised.name), true⟩
  else if raised.isValueError then
    ⟨"cli.parse", tools.sanitize ("CLI parse/decode error: " ++ raised.name), false⟩
  else
    ⟨"worker.crash", tools.sanitize ("Unhandled worker exception: " ++ raised.name), true⟩

/-- `publish_job_failure`. -/
def publishJobFailure (raised : PyError) : JobResult := .error (classifyException tools raised)

inductive StdinWrite
  | written
  /-- The process has no stdin. -/
  | missing
  /-- `drain` does not return within `stdin_drain_timeout`. -/
  | timedOut
  | raises (raised : PyError)

/-- A streaming turn of the clipool worker. -/
structure CliTurn where
  stdin : StdinWrite := .written
  hasStdout : Bool := true
  maxIdleRetries : Nat := 3
  reads : List StdoutRead
  resumed : Option Bool := none

/-- `send_and_read_stream`. -/
def sendAndReadStream (turn : CliTurn) : Py StreamingIterator :=
  let iterator : StreamingIterator :=
    { maxIdleRetries := turn.maxIdleRetries
      hasStdout := turn.hasStdout
      reads := turn.reads }
  match turn.stdin with
  | .written => .ok iterator
  | .missing => .ok { iterator with done := true }
  | .timedOut => .ok iterator.cleanup
  | .raises raised => .error raised

/-- The streaming branch of `_run_job`, with its `except` clause. -/
def runStreaming (turn : CliTurn) : Published :=
  match sendAndReadStream turn with
  | .ok iterator => publishStreamingJob tools turn.resumed iterator
  | .error raised => { outcome := .error raised }

/-- The `JobResult` of the turn. -/
def jobResult (turn : CliTurn) : JobResult :=
  match (runStreaming tools turn).outcome with
  | .ok result => result
  | .error raised => publishJobFailure tools raised

/-- How a turn ends: silently, with an exception, or with a result event. -/
inductive TurnEnd
  | silent
  | raised
  | result (event : LlmEvent)

def publishable (event : LlmEvent) : Bool :=
  match progressOf none event with
  | .ok _ => true
  | .error _ => false

def readsEnd (maxIdleRetries : Nat) : CliStreamingParser → Nat → List StdoutRead → TurnEnd
  | _, _, [] | _, _, .died _ :: _ | _, _, .eof _ :: _ => .silent
  | _, _, .raises _ :: _ => .raised
  | parser, idleRetries, .timedOut :: reads =>
    if maxIdleRetries ≤ idleRetries + 1 then .silent
    else readsEnd maxIdleRetries parser (idleRetries + 1) reads
  | parser, _, .line line :: reads =>
    match parser.parseLine tools line with
    | .error _ => .raised
    | .ok (parser, events) =>
      match events.find? LlmEvent.isResult with
      | some event => .result event
      | none =>
        if events.all publishable then
          readsEnd maxIdleRetries parser 0 reads
        else .raised

def CliTurn.turnEnd (turn : CliTurn) : TurnEnd :=
  match turn.stdin with
  | .written =>
    if turn.hasStdout then
      readsEnd tools turn.maxIdleRetries {} 0 turn.reads
    else .silent
  | .missing | .timedOut => .silent
  | .raises _ => .raised

/-- The message was not written, or the output ended, the process died or it
stayed silent before the turn was over. -/
def CliTurn.CutShort (turn : CliTurn) : Prop :=
  match turn.stdin with
  | .written => turn.turnEnd tools = .silent
  | _ => True

/-- The result that was published is a success. -/
def Published.succeeds (published : Published) : Bool :=
  match published.outcome with
  | .ok result => result.isSuccess
  | .error _ => false

/-- The iterator has brought a result event without an error. -/
def Published.DeliversSuccess (published : Published) : Prop :=
  ∃ event ∈ published.delivered, event.isSuccess = true

/-- The job is a success exactly when the iterator has brought a result event
without an error, and a turn that was cut short is an error. -/
def FaithfulOutcome (turn : CliTurn) : Prop := ((jobResult tools turn).isSuccess = true ↔
    (runStreaming tools turn).DeliversSuccess) ∧
  (turn.CutShort tools → (jobResult tools turn).isSuccess = false)

/-- What the end of a turn means for the job. -/
def EndsAs (published : Published) : TurnEnd → Prop
  | .silent => published.succeeds = true ∧ ¬ published.DeliversSuccess
  | .raised => published.succeeds = false ∧ ¬ published.DeliversSuccess
  | .result event =>
    published.succeeds = (event.isSuccess && event.sessionEncodable) ∧
      (published.DeliversSuccess ↔ event.isSuccess = true)

section Publishing

variable {tools} {resumed : Option Bool} {event : LlmEvent}

theorem isSuccess_of_progress (progress : event.isResult = false) : event.isSuccess = false := by
  cases event <;> first | rfl | cases progress

/-- The flag in `detail` does not decide whether a message is valid. -/
theorem progressOf_isOk (resumed : Option Bool) (event : LlmEvent) :
    (∃ progress, progressOf resumed event = .ok progress) ↔ publishable event = true := by
  unfold publishable
  cases event with
  | text text =>
    cases valid : optionalText text <;>
      simp [progressOf, valid, bind, Except.bind, pure, Except.pure]
  | toolUse toolName toolId input =>
    simp only [progressOf]
    split <;> simp_all
  | _ => simp [progressOf]

theorem publishEvents_of_ok (progress : event.isResult = false)
    {first : Bool} {message : Option JobProgress}
    (made : progressOf (if first then resumed else none) event = .ok message)
    (events : List LlmEvent) (ending : Ending) :
    publishEvents tools resumed first (event :: events) ending =
      let rest := publishEvents tools resumed (first && !event.isText) events ending
      { progress := message.toList ++ rest.progress
        delivered := event :: rest.delivered
        outcome := rest.outcome } := by
  cases event with
  | result => cases progress
  | _ => simp only [publishEvents, made]

theorem publishEvents_of_error (progress : event.isResult = false) {first : Bool} {raised : PyError}
    (made : progressOf (if first then resumed else none) event = .error raised)
    (events : List LlmEvent) (ending : Ending) :
    publishEvents tools resumed first (event :: events) ending =
      { delivered := [event], outcome := .error raised } := by
  cases event with
  | result => cases progress
  | _ => simp only [publishEvents, made]

theorem endsAs_progress {turnEnd : TurnEnd}
    (progress : event.isResult = false) (valid : publishable event = true)
    {first : Bool} {events : List LlmEvent} {ending : Ending}
    (endsAs : EndsAs (publishEvents tools resumed (first && !event.isText) events ending) turnEnd) :
    EndsAs (publishEvents tools resumed first (event :: events) ending)
      turnEnd := by
  obtain ⟨message, made⟩ := (progressOf_isOk (if first then resumed else none) event).mpr valid
  rw [publishEvents_of_ok progress made]
  cases turnEnd <;>
    simpa [EndsAs, Published.succeeds, Published.DeliversSuccess,
      isSuccess_of_progress progress] using endsAs

theorem endsAs_invalid (progress : event.isResult = false)
    (invalid : publishable event = false) (first : Bool)
    (events : List LlmEvent) (ending : Ending) :
    EndsAs (publishEvents tools resumed first (event :: events) ending)
      .raised := by
  have notOk := (progressOf_isOk (if first then resumed else none)
    event).not.mpr (by simp [invalid])
  cases made : progressOf (if first then resumed else none) event with
  | ok message => exact absurd ⟨message, made⟩ notOk
  | error raised =>
    rw [publishEvents_of_error progress made]
    simp [EndsAs, Published.succeeds, Published.DeliversSuccess, isSuccess_of_progress progress]

theorem endsAs_silent (first : Bool) :
    EndsAs (publishEvents tools resumed first [] .stopped) .silent :=
  ⟨rfl, by simp [Published.DeliversSuccess, publishEvents]⟩

theorem endsAs_raised (first : Bool) (raised : PyError) :
    EndsAs (publishEvents tools resumed first [] (.raised raised))
      .raised :=
  ⟨rfl, by simp [Published.DeliversSuccess, publishEvents]⟩

theorem endsAs_result {result : LlmEvent} (isResult : result.isResult = true)
    (first : Bool) (ending : Ending) :
    EndsAs (publishEvents tools resumed first [result] ending) (.result result) := by
  cases result with
  | result isError durationMs errorText sessionId workerError =>
    refine ⟨?_, by simp [Published.DeliversSuccess, publishEvents]⟩
    simp only [Published.succeeds, publishEvents, publishTerminal,
      LlmEvent.isSuccess, LlmEvent.sessionEncodable]
    cases isError.truthy <;> cases workerError <;> try rfl
    cases sessionId with
    | none => rfl
    | some session =>
      cases truthy : session.truthy <;>
        cases encodable : session.encodable <;>
        simp [truthy, encodable, JobResult.isSuccess]
  | _ => cases isResult

theorem endsAs_quiet {events : List LlmEvent}
    (quiet : ∀ event ∈ events, event.isResult = false) {first : Bool}
    {rest : List LlmEvent} {ending : Ending} {turnEnd : TurnEnd}
    (endsAs : ∀ first, EndsAs (publishEvents tools resumed first rest ending) turnEnd) :
    EndsAs (publishEvents tools resumed first (events ++ rest) ending)
      (if events.all publishable then turnEnd else .raised) := by
  induction events generalizing first with
  | nil => exact endsAs first
  | cons event events ih =>
    have progress := quiet event List.mem_cons_self
    have later := fun other member =>
      quiet other (List.mem_cons_of_mem event member)
    cases valid : publishable event with
    | false =>
      simpa [valid] using endsAs_invalid progress valid first (events ++ rest) ending
    | true =>
      simpa [valid] using endsAs_progress progress valid (ih later)

theorem endsAs_readsEnd {parser : CliStreamingParser}
    (parsing : parser.done = false) (maxIdleRetries idleRetries : Nat)
    (reads : List StdoutRead) (first : Bool) :
    EndsAs (publishEvents tools resumed first
        (StreamingIterator.streamReads tools parser maxIdleRetries idleRetries reads).1
        (StreamingIterator.streamReads tools parser maxIdleRetries idleRetries reads).2)
      (readsEnd tools maxIdleRetries parser idleRetries reads) := by
  induction reads generalizing parser idleRetries first with
  | nil => exact endsAs_silent first
  | cons read reads ih =>
    cases read with
    | died detail | eof detail => exact endsAs_silent first
    | raises raised => exact endsAs_raised first raised
    | timedOut =>
      unfold StreamingIterator.streamReads readsEnd
      split
      · exact endsAs_silent first
      · exact ih parsing _ first
    | line line =>
      have endings := CliStreamingParser.parseLine_ensures tools parsing line
      unfold StreamingIterator.streamReads readsEnd
      cases parsed : parser.parseLine tools line with
      | error raised => exact endsAs_raised first raised
      | ok result =>
        obtain ⟨next, events⟩ := result
        rcases endings _ parsed with
          ⟨⟨still, quiet⟩, -⟩ | ⟨ends, -⟩
        · have noResult : events.find? LlmEvent.isResult = none := by
            simpa [List.find?_eq_none] using quiet
          have parsing := still.trans parsing
          dsimp only at parsing
          simpa [noResult, parsing] using
            endsAs_quiet quiet fun first => ih parsing 0 first
        · obtain ⟨gone, event, rfl, isResult⟩ := ends
          dsimp only at gone
          simpa [gone, isResult] using
            endsAs_result isResult first .stopped

theorem endsAs_turnEnd (turn : CliTurn) :
    EndsAs (runStreaming tools turn) (turn.turnEnd tools) := by
  unfold runStreaming sendAndReadStream CliTurn.turnEnd
  cases turn.stdin with
  | raises raised => exact ⟨rfl, by simp [Published.DeliversSuccess]⟩
  | missing | timedOut => exact @endsAs_silent tools turn.resumed true
  | written =>
    cases piped : turn.hasStdout with
    | false =>
      simpa [publishStreamingJob, StreamingIterator.stream, piped] using
        @endsAs_silent tools turn.resumed true
    | true =>
      simpa [publishStreamingJob, StreamingIterator.stream, piped] using
        endsAs_readsEnd rfl turn.maxIdleRetries 0 turn.reads true

theorem isSuccess_jobResult (turn : CliTurn) : (jobResult tools turn).isSuccess =
      (runStreaming tools turn).succeeds := by
  unfold jobResult Published.succeeds
  cases (runStreaming tools turn).outcome <;> rfl

theorem not_cutShort_of_result {turn : CliTurn} (ends : turn.turnEnd tools = .result event) :
    ¬ turn.CutShort tools := by
  unfold CliTurn.CutShort
  cases written : turn.stdin with
  | written => simp [ends]
  | _ => simp [CliTurn.turnEnd, written] at ends

end Publishing

/-- The turn ends with an exception or with a result event, whose session id
can be published when it is a success. -/
def CliTurn.ReportsItsEnd (turn : CliTurn) : Prop :=
  match turn.turnEnd tools with
  | .silent => False
  | .raised => True
  | .result event =>
    event.isSuccess = true → event.sessionEncodable = true

/-- A job is faithful exactly when the iterator does not end silently and the
session id of a successful result can be published. -/
theorem faithfulOutcome_iff (turn : CliTurn) :
    FaithfulOutcome tools turn ↔ turn.ReportsItsEnd tools := by
  have endsAs : EndsAs (runStreaming tools turn) (turn.turnEnd tools) := endsAs_turnEnd turn
  unfold FaithfulOutcome CliTurn.ReportsItsEnd
  rw [isSuccess_jobResult]
  cases ends : turn.turnEnd tools with
  | silent | raised =>
    rw [ends] at endsAs
    simp [endsAs.1, endsAs.2]
  | result event =>
    rw [ends] at endsAs
    have whole := not_cutShort_of_result ends
    simp [endsAs.1, endsAs.2, whole]

/-- A line with a piece of text. -/
def textDelta (text : String) : StdoutLine := .json (.obj [(.text "type", .ofString "stream_event"),
      (.text "event", .obj [(.text "type", .ofString "content_block_delta"), (.text "delta", .obj
            [(.text "type", .ofString "text_delta"), (.text "text", .ofString text)])])])

/-- A process that dies after the first piece of text is reported as a
success with an empty result. -/
theorem exists_crashed_turn_reported_as_success : ∃ turn : CliTurn,
      turn.reads = [.line (textDelta "Hello"), .eof "(rc=1)"] ∧ turn.CutShort .ascii ∧
          (jobResult .ascii turn).isSuccess = true ∧ ¬ FaithfulOutcome .ascii turn := by
  refine ⟨{ reads := [.line (textDelta "Hello"), .eof "(rc=1)"] }, rfl, rfl,
    rfl, fun faithful => ?_⟩
  exact absurd (faithful.2 rfl) (by decide)

end StreamingPublish

end RoxabiFactory

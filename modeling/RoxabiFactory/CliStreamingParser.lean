import RoxabiFactory.CliErrorClassify

/-!
# The parser of the CLI's streaming output

`CliStreamingParser.parse_line` turns one line of the subprocess into LLM
events.  A line is given by what `json.loads` makes of it.  Handlers look into
the loaded value without checking types first, so a line may raise; events
that a handler had already put aside are lost with it.
-/

namespace RoxabiFactory

/-- The events of a CLI turn.  The fields hold what the line held, of
whatever type. -/
inductive LlmEvent
  | text (text : Json)
  | thinking (text : Json)
  | toolUse (toolName toolId input : Json)
  | toolUseDelta (toolId partialJson : Json)
  | toolUseEnd (toolId : Json)
  | toolResult (toolId : Json) (content : PyStr) (isError : Bool)
  | result (isError durationMs : Json) (errorText : Option String)
      (sessionId : Option Json) (workerError : Option WorkerError)

/-- `isinstance(event, ResultLlmEvent)`. -/
def LlmEvent.isResult : LlmEvent → Bool
  | .result .. => true
  | _ => false

/-- A line of stdout after `decode` and `strip`, and what `json.loads` makes
of it. -/
inductive StdoutLine
  | undecodable
  | blank
  /-- `JSONDecodeError`; protocol corruption when the line starts with an
  opening brace. -/
  | notJson (startsWithBrace : Bool)
  | json (value : Json)
  /-- Another exception of `json.loads`: the nesting is too deep or an
  integer too long. -/
  | loadsRaises (raised : PyError)

namespace StdoutLine

/-- The line is a JSON object of type `result`. -/
def isResult : StdoutLine → Bool
  | .json (.obj members) =>
    ((members.lookup (.text "type")).getD (.ofString "")).isText "result"
  | _ => false

theorem isResult_obj (members : List (PyStr × Json)) : isResult (.json (.obj members)) =
      ((members.lookup (.text "type")).getD (.ofString "")).isText "result" :=
  rfl

/-- The line ends a streaming turn: a result, or protocol corruption. -/
def endsStream : StdoutLine → Bool
  | .notJson startsWithBrace => startsWithBrace
  | line => line.isResult

end StdoutLine

/-- `CliStreamingParser` without its queue of pending events. -/
structure CliStreamingParser where
  sessionId : Option Json := none
  error : Option Json := none
  hadTextDelta : Bool := false
  done : Bool := false
  /-- `dedup_seen`, the tool ids that were announced. -/
  seenTools : List HashKey := []
  /-- `open_blocks` of the tool blocks: index and tool id. -/
  openTools : List (Int × Json) := []
  /-- `open_blocks` of the thinking block. -/
  openThinking : List Int := []

namespace CliStreamingParser

/-- The parser after a line and the events of the line. -/
abbrev Parsed := CliStreamingParser × List LlmEvent

/-- `StateMachine.mark_seen`. -/
def markSeen (parser : CliStreamingParser) (toolId : Json) :
    Py (Bool × CliStreamingParser) := do
  let key ← toolId.hashKey
  if key ∈ parser.seenTools then return (false, parser)
  return (true, { parser with seenTools := parser.seenTools ++ [key] })

/-- `StateMachine.open` of the tool blocks, for an integer index and a tool
id that is not empty. -/
def openTool (parser : CliStreamingParser) (index toolId : Json) :
    CliStreamingParser :=
  match index.asInt with
  | some index =>
    if toolId.truthy then
      { parser with
        openTools := (index, toolId) :: parser.openTools.filter fun block => block.1 ≠ index }
    else parser
  | none => parser

/-- `StateMachine.close` of the tool blocks. -/
def closeTool (parser : CliStreamingParser) (index : Int) : Option Json × CliStreamingParser :=
  (parser.openTools.lookup index,
    { parser with
      openTools := parser.openTools.filter fun block => block.1 ≠ index })

/-- `value or None`. -/
def nonEmpty (value : Json) : Option Json :=
  if value.truthy then some value else none

/-- `_handle_system_init`. -/
def handleSystemInit (parser : CliStreamingParser) (data : Json) :
    Py CliStreamingParser := do
  let sessionId ← data.get "session_id" (.ofString "")
  return { parser with sessionId := nonEmpty sessionId }

/-- `not tool_id or mark_seen(tool_id)`. -/
def markFresh (parser : CliStreamingParser) (toolId : Json) : Py (Bool × CliStreamingParser) :=
  if toolId.truthy then parser.markSeen toolId else .ok (true, parser)

/-- One block of `_handle_assistant`. -/
def handleAssistantBlock (parser : CliStreamingParser) (block : Json) :
    Py Parsed := do
  let blockType ← block.get "type" .null
  if !blockType.isText "tool_use" then return (parser, [])
  let toolId ← block.get "id" (.ofString "")
  let (fresh, marked) ← parser.markFresh toolId
  if !fresh then return (marked, [])
  let toolName ← block.get "name" (.ofString "")
  let input ← block.get "input" (.obj [])
  return (marked, [.toolUse toolName toolId input])

def handleBlocks (handle : CliStreamingParser → Json → Py Parsed) :
    CliStreamingParser → List Json → Py Parsed
  | parser, [] => .ok (parser, [])
  | parser, block :: blocks => do
    let (next, events) ← handle parser block
    let (last, rest) ← handleBlocks handle next blocks
    return (last, events ++ rest)

/-- `data.get("message", {}).get("content", [])`, iterated. -/
def contentBlocks (data : Json) : Py (List Json) := do
  let message ← data.get "message" (.obj [])
  let content ← message.get "content" (.arr [])
  content.iterate

/-- `_handle_assistant`. -/
def handleAssistant (parser : CliStreamingParser) (data : Json) :
    Py Parsed := do
  handleBlocks handleAssistantBlock parser (← contentBlocks data)

/-- `_handle_content_block_start`. -/
def handleContentBlockStart (parser : CliStreamingParser) (event : Json) :
    Py Parsed := do
  let block ← event.get "content_block" (.obj [])
  let blockType ← block.get "type" .null
  if blockType.isText "thinking" then
    match (← event.get "index" .null).asInt with
    | some index =>
      return ({ parser with
        openThinking := index :: parser.openThinking.filter fun other => other ≠ index }, [])
    | none => return (parser, [])
  else if blockType.isText "tool_use" then
    let toolId ← block.get "id" (.ofString "")
    let index ← event.get "index" .null
    if !toolId.truthy then return (parser.openTool index toolId, [])
    let (fresh, marked) ← (parser.openTool index toolId).markSeen toolId
    if !fresh then return (marked, [])
    let toolName ← block.get "name" (.ofString "")
    return (marked, [.toolUse toolName toolId (.obj [])])
  else return (parser, [])

/-- `_handle_content_block_delta`. -/
def handleContentBlockDelta (parser : CliStreamingParser) (event : Json) :
    Py Parsed := do
  let delta ← event.get "delta" (.obj [])
  let deltaType ← delta.get "type" (.ofString "")
  if deltaType.isText "thinking_delta" then
    let index ← event.get "index" .null
    let thinking ← delta.get "thinking" (.ofString "")
    if index.asInt.any (fun index => decide (index ∈ parser.openThinking)) && thinking.truthy then
      return (parser, [.thinking thinking])
    else return (parser, [])
  else if deltaType.isText "text_delta" then
    let text ← delta.get "text" (.ofString "")
    if text.truthy then
      return ({ parser with hadTextDelta := true }, [.text text])
    else return (parser, [])
  else if deltaType.isText "input_json_delta" then
    let index ← event.get "index" .null
    let partialJson ← delta.get "partial_json" (.ofString "")
    match index.asInt.bind fun index => parser.openTools.lookup index with
    | some toolId =>
      if partialJson.truthy then
        return (parser, [.toolUseDelta toolId partialJson])
      else return (parser, [])
    | none => return (parser, [])
  else return (parser, [])

/-- `_handle_content_block_stop`. -/
def handleContentBlockStop (parser : CliStreamingParser) (event : Json) :
    Py Parsed := do
  match (← event.get "index" .null).asInt with
  | none => return (parser, [])
  | some index =>
    let (toolId, closed) := parser.closeTool index
    return ({ closed with
      openThinking := closed.openThinking.filter fun other =>
        other ≠ index }, toolId.toList.map .toolUseEnd)

/-- `_handle_stream_event`. -/
def handleStreamEvent (parser : CliStreamingParser) (data : Json) :
    Py Parsed := do
  let event ← data.get "event" data
  let eventType ← event.get "type" (.ofString "")
  if eventType.isText "content_block_start" then
    handleContentBlockStart parser event
  else if eventType.isText "content_block_delta" then
    handleContentBlockDelta parser event
  else if eventType.isText "content_block_stop" then
    handleContentBlockStop parser event
  else return (parser, [])

variable (tools : PythonText)

/-- `str(value)`. -/
def pyStr : Json → PyStr
  | .str text => text
  | value => tools.str value

def toolResultPart : Json → Py PyStr
  | .obj members => do
    let block := Json.obj members
    let blockType ← block.get "type" .null
    if blockType.isText "text" then
      return pyStr tools (← block.get "text" (.ofString ""))
    else
      let shown := pyStr tools (← block.get "type" (.ofString "?"))
      return (PyStr.append (.text "[") shown).append (.text "]")
  | _ => .ok (.text "")

def toolResultContent : Json → Py PyStr
  | .arr items => do
    let parts ← items.mapM (toolResultPart tools)
    return parts.foldl PyStr.append (.text "")
  | content => .ok (pyStr tools content)

/-- One block of `_handle_user_tool_result`. -/
def handleToolResultBlock (parser : CliStreamingParser) (block : Json) :
    Py Parsed := do
  let blockType ← block.get "type" .null
  if !blockType.isText "tool_result" then return (parser, [])
  let content ← toolResultContent tools (← block.get "content" (.ofString ""))
  let toolId ← block.get "tool_use_id" (.ofString "")
  let isError ← block.get "is_error" (.bool false)
  return (parser, [.toolResult toolId content isError.truthy])

/-- `_handle_user_tool_result`. -/
def handleUserToolResult (parser : CliStreamingParser) (data : Json) :
    Py Parsed := do
  handleBlocks (handleToolResultBlock tools) parser (← contentBlocks data)

def resultError (data subtype : Json) : Py Json := do
  let errors ← data.get "errors" (.arr [])
  let result ← data.get "result" .null
  let error ←
    if errors.truthy then errors.first
    else pure ((result.orElse subtype).orElse (.ofString "Unknown streaming error"))
  -- The log call cuts `data.get("result") or ""`.
  (result.orElse (.ofString "")).checkSlice
  return error

/-- The error flag of a result: a reported error counts as success when the
subtype is `success` and text has been streamed. -/
def effectiveError (parser : CliStreamingParser) (reported subtype : Json) :
    Json :=
  if reported.truthy && subtype.isText "success" && parser.hadTextDelta then
    .bool false
  else reported

/-- `_handle_result`. -/
def handleResult (parser : CliStreamingParser) (data : Json) :
    Py Parsed := do
  let sessionId ← data.get "session_id" (.ofString "")
  let reported ← data.get "is_error" (.bool false)
  let subtype ← data.get "subtype" (.ofString "")
  let durationMs ← data.get "duration_ms" (.int 0)
  let isError := parser.effectiveError reported subtype
  let parsed := { parser with
    sessionId := (nonEmpty sessionId).or parser.sessionId
    done := true }
  if isError.truthy then
    let error ← resultError data subtype
    let workerError ← CliErrorClassify.resolveCliWorkerError tools subtype
      (error.orElse (.ofString ""))
    return ({ parsed with error := some error },
      [.result isError durationMs (some workerError.message)
        (nonEmpty sessionId) (some workerError)])
  else
    return (parsed, [.result isError durationMs none (nonEmpty sessionId) none])

/-- `_handle_json_decode_error`: a corrupted line ends the turn. -/
def handleJsonDecodeError (parser : CliStreamingParser) (startsWithBrace : Bool) : Parsed :=
  if startsWithBrace then
    let message := "CLI emitted malformed JSON: JSONDecodeError"
    ({ parser with done := true },
      [.result (.bool true) (.int 0) (some message) parser.sessionId
        (some ⟨"cli.parse", tools.sanitize message, false⟩)])
  else (parser, [])

/-- The dispatch of `parse_line` over the type of a message. -/
def handleMessage (parser : CliStreamingParser) (data : Json) :
    Py Parsed := do
  let msgType ← data.get "type" (.ofString "")
  let _ ← msgType.hashKey
  if msgType.isText "assistant" then handleAssistant parser data
  else if msgType.isText "stream_event" then handleStreamEvent parser data
  else if msgType.isText "user" then handleUserToolResult tools parser data
  else if msgType.isText "result" then handleResult tools parser data
  else if msgType.isText "system" then
    let subtype ← data.get "subtype" .null
    if subtype.isText "init" then
      return (← handleSystemInit parser data, [])
    else return (parser, [])
  else return (parser, [])

/-- `parse_line` on a line that the iterator has decoded and stripped. -/
def parseLine (parser : CliStreamingParser) (line : StdoutLine) : Py Parsed :=
  if parser.done then .ok (parser, [])
  else match line with
    | .undecodable => .error .unicodeDecodeError
    | .blank => .ok (parser, [])
    | .notJson startsWithBrace =>
      .ok (handleJsonDecodeError tools parser startsWithBrace)
    | .json value => handleMessage tools parser value
    | .loadsRaises raised => .error raised

section Endings

variable {parser : CliStreamingParser}

/-- The line does not end the turn, and none of its events does. -/
def Quiet (parser : CliStreamingParser) (parsed : Parsed) : Prop :=
  parsed.1.done = parser.done ∧ ∀ event ∈ parsed.2, event.isResult = false

theorem quiet_nil {next : CliStreamingParser}
    (doneEq : next.done = parser.done) : Quiet parser (next, []) :=
  ⟨doneEq, by simp⟩

theorem quiet_singleton {next : CliStreamingParser} {event : LlmEvent}
    (doneEq : next.done = parser.done) (progress : event.isResult = false) :
    Quiet parser (next, [event]) :=
  ⟨doneEq, by simp [progress]⟩

theorem openTool_done (index toolId : Json) :
    (parser.openTool index toolId).done = parser.done := by
  unfold openTool
  split
  · split <;> rfl
  · rfl

theorem markSeen_done (toolId : Json) : (parser.markSeen toolId).Ensures fun marked =>
      marked.2.done = parser.done := by
  refine .andThen fun key => ?_
  split <;> exact .pure rfl

theorem markFresh_done (toolId : Json) : (parser.markFresh toolId).Ensures fun marked =>
      marked.2.done = parser.done := by
  unfold markFresh
  split
  · exact markSeen_done toolId
  · exact .pure rfl

theorem handleAssistantBlock_quiet (block : Json) :
    (parser.handleAssistantBlock block).Ensures (Quiet parser) := by
  refine .andThen fun blockType => ?_
  split
  · exact .pure (quiet_nil rfl)
  · refine .andThen fun toolId => ?_
    refine .bind (markFresh_done toolId) ?_
    rintro ⟨fresh, marked⟩ doneEq
    dsimp only
    split
    · exact .pure (quiet_nil doneEq)
    · exact .andThen fun _ => .andThen fun _ =>
        .pure (quiet_singleton doneEq rfl)

theorem handleBlocks_quiet {handle : CliStreamingParser → Json → Py Parsed}
    (quiet : ∀ parser block, (handle parser block).Ensures (Quiet parser))
    (blocks : List Json) :
    (handleBlocks handle parser blocks).Ensures (Quiet parser) := by
  induction blocks generalizing parser with
  | nil => exact .pure (quiet_nil rfl)
  | cons block blocks ih =>
    refine .bind (quiet parser block) fun first firstQuiet => ?_
    refine .bind (@ih first.1) fun rest restQuiet => ?_
    refine .pure ⟨restQuiet.1.trans firstQuiet.1, ?_⟩
    intro event member
    rcases List.mem_append.mp member with early | late
    · exact firstQuiet.2 event early
    · exact restQuiet.2 event late

theorem handleContentBlockStart_quiet (event : Json) :
    (parser.handleContentBlockStart event).Ensures (Quiet parser) := by
  refine .andThen fun block => .andThen fun blockType => ?_
  split
  · refine .andThen fun index => ?_
    split <;> exact .pure (quiet_nil rfl)
  · split
    · refine .andThen fun toolId => .andThen fun index => ?_
      have opened : (parser.openTool index toolId).done = parser.done := openTool_done index toolId
      split
      · exact .pure (quiet_nil opened)
      · refine .bind (markSeen_done toolId) ?_
        rintro ⟨fresh, marked⟩ doneEq
        dsimp only
        split
        · exact .pure (quiet_nil (doneEq.trans opened))
        · exact .andThen fun _ =>
            .pure (quiet_singleton (doneEq.trans opened) rfl)
    · exact .pure (quiet_nil rfl)

theorem handleContentBlockDelta_quiet (event : Json) :
    (parser.handleContentBlockDelta event).Ensures (Quiet parser) := by
  refine .andThen fun delta => .andThen fun deltaType => ?_
  split
  · refine .andThen fun index => .andThen fun thinking => ?_
    split
    · exact .pure (quiet_singleton rfl rfl)
    · exact .pure (quiet_nil rfl)
  · split
    · refine .andThen fun text => ?_
      split
      · exact .pure (quiet_singleton rfl rfl)
      · exact .pure (quiet_nil rfl)
    · split
      · refine .andThen fun index => .andThen fun partialJson => ?_
        split
        · split
          · exact .pure (quiet_singleton rfl rfl)
          · exact .pure (quiet_nil rfl)
        · exact .pure (quiet_nil rfl)
      · exact .pure (quiet_nil rfl)

theorem handleContentBlockStop_quiet (event : Json) :
    (parser.handleContentBlockStop event).Ensures (Quiet parser) := by
  refine .andThen fun index => ?_
  split
  · exact .pure (quiet_nil rfl)
  · refine .pure ⟨rfl, fun event member => ?_⟩
    obtain ⟨toolId, -, rfl⟩ := List.mem_map.mp member
    rfl

theorem handleStreamEvent_quiet (data : Json) :
    (parser.handleStreamEvent data).Ensures (Quiet parser) := by
  refine .andThen fun event => .andThen fun eventType => ?_
  split
  · exact handleContentBlockStart_quiet event
  · split
    · exact handleContentBlockDelta_quiet event
    · split
      · exact handleContentBlockStop_quiet event
      · exact .pure (quiet_nil rfl)

theorem handleSystemInit_done (data : Json) : (parser.handleSystemInit data).Ensures fun next =>
      next.done = parser.done :=
  .andThen fun _ => .pure rfl

theorem handleToolResultBlock_quiet (block : Json) :
    (parser.handleToolResultBlock tools block).Ensures (Quiet parser) := by
  refine .andThen fun blockType => ?_
  split
  · exact .pure (quiet_nil rfl)
  · exact .andThen fun _ => .andThen fun _ => .andThen fun _ =>
      .andThen fun _ => .pure (quiet_singleton rfl rfl)

/-- The line ends the turn with one result event, and nothing else. -/
def Ends (parsed : Parsed) : Prop :=
  parsed.1.done = true ∧ ∃ event, parsed.2 = [event] ∧ event.isResult = true

theorem handleResult_ends (data : Json) : (parser.handleResult tools data).Ensures Ends := by
  refine .andThen fun _ => .andThen fun _ => .andThen fun _ =>
    .andThen fun _ => ?_
  dsimp only
  split
  · exact .andThen fun _ => .andThen fun _ => .pure ⟨rfl, _, rfl, rfl⟩
  · exact .pure ⟨rfl, _, rfl, rfl⟩

theorem handleMessage_ensures (data : Json) :
    (parser.handleMessage tools data).Ensures fun parsed =>
      Quiet parser parsed ∧ (StdoutLine.json data).isResult = false ∨
        Ends parsed ∧ (StdoutLine.json data).isResult = true := by
  cases data with
  | obj members =>
    unfold handleMessage
    rw [Json.get_obj, StdoutLine.isResult_obj]
    generalize (members.lookup (.text "type")).getD (.ofString "") = msgType
    have found : Py.Ensures (pure msgType) fun value => value = msgType := .pure rfl
    refine found.bind ?_
    rintro msgType rfl
    have leaves : ∀ {computation : Py Parsed} {kind : String},
        msgType.isText kind = true → kind ≠ "result" →
        computation.Ensures (Quiet parser) → computation.Ensures fun parsed =>
            Quiet parser parsed ∧ msgType.isText "result" = false ∨
              Ends parsed ∧ msgType.isText "result" = true :=
      fun same other ensures => ensures.mono fun _ quiet => .inl
        ⟨quiet, by rw [Json.isText_of_isText same, decide_eq_false other]⟩
    refine .andThen fun _ => ?_
    split
    · rename_i assistant
      exact leaves assistant (by decide) (.andThen fun blocks =>
        handleBlocks_quiet (fun _ => handleAssistantBlock_quiet) blocks)
    · split
      · rename_i streamEvent
        exact leaves streamEvent (by decide) (handleStreamEvent_quiet _)
      · split
        · rename_i user
          exact leaves user (by decide) (.andThen fun blocks =>
            handleBlocks_quiet (fun _ => handleToolResultBlock_quiet tools) blocks)
        · split
          · rename_i result
            exact (handleResult_ends tools _).mono fun _ ends =>
              .inr ⟨ends, result⟩
          · rename_i other
            rw [Bool.not_eq_true] at other
            have quiet : ∀ {computation : Py Parsed}, computation.Ensures (Quiet parser) →
                  computation.Ensures fun parsed =>
                    Quiet parser parsed ∧ msgType.isText "result" = false ∨
                      Ends parsed ∧ msgType.isText "result" = true :=
              fun ensures => ensures.mono fun _ quiet => .inl ⟨quiet, other⟩
            refine quiet ?_
            split
            · refine .andThen fun subtype => ?_
              split
              · exact .bind (handleSystemInit_done _)
                  fun _ doneEq => .pure (quiet_nil doneEq)
              · exact .pure (quiet_nil rfl)
            · exact .pure (quiet_nil rfl)
  | _ => exact .raise _

/-- A line that is parsed either is quiet or ends the turn with a result
event. -/
theorem parseLine_ensures (running : parser.done = false) (line : StdoutLine) :
    (parser.parseLine tools line).Ensures fun parsed =>
      Quiet parser parsed ∧ line.endsStream = false ∨ Ends parsed ∧ line.endsStream = true := by
  unfold parseLine
  rw [running, if_neg Bool.false_ne_true]
  cases line with
  | undecodable | loadsRaises raised => exact .raise _
  | blank => exact .pure (.inl ⟨quiet_nil rfl, rfl⟩)
  | notJson startsWithBrace =>
    cases startsWithBrace
    · exact .pure (.inl ⟨quiet_nil rfl, rfl⟩)
    · exact .pure (.inr ⟨⟨rfl, _, rfl, rfl⟩, rfl⟩)
  | json value => exact handleMessage_ensures tools value

end Endings

end CliStreamingParser

end RoxabiFactory

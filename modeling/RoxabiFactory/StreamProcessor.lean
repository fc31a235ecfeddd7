import RoxabiFactory.CliStreaming
import RoxabiFactory.RenderEvents

/-!
# The stream processor

`StreamProcessor.process` turns the LLM events of one turn into render events.
The handlers are synchronous generators over three state machines, one each
for the open text block, the open reasoning block and the open tool calls.  A
generator is given by what it has yielded when it ends, the exception that
ended it, and the processor it leaves behind.

Fields of LLM events are annotated but never checked, so a field of another
type meets the exceptions of the built-in operations.  The suffixes that
`uuid4` gives are a parameter, and so is the text that `resolve_user_error`
finds for a reported error.
-/

namespace RoxabiFactory

/-- `isinstance(value, str)`. -/
def Json.IsStr (value : Json) : Prop := ∃ text, value = .str text

/-- Exception classes of `_STREAM_INFRA_ERRORS` and of their subclasses that
have no constructor of their own. -/
def streamInfraErrorNames : List String :=
  ["ProviderError", "ProviderAuthError", "ProviderRateLimitError",
    "ProviderApiError", "WorkerUnavailableError", "HubUnavailableError",
    "StreamChunkTimeout", "OSError", "ConnectionError", "BrokenPipeError",
    "ConnectionAbortedError", "ConnectionRefusedError",
    "ConnectionResetError", "FileNotFoundError", "PermissionError",
    "ProcessLookupError", "RuntimeError", "NotImplementedError",
    "UnicodeEncodeError", "JSONDecodeError"]

/-- `isinstance(exc, _STREAM_INFRA_ERRORS)`. -/
def PyError.isStreamInfraError : PyError → Bool
  | .typeError | .keyError | .valueError | .unicodeDecodeError
  | .recursionError | .validationError | .serializationError
  | .timeoutError => true
  | .attributeError => false
  | .other name => decide (name ∈ streamInfraErrorNames)

structure StreamProcessor where
  showIntermediate : Bool := true
  /-- `_sm_text.open_blocks`. -/
  openText : List String := []
  /-- `_sm_reasoning.open_blocks`. -/
  openReasoning : List String := []
  /-- The keys of `_sm_tool.open_blocks`, each with the tool id that it was
  inserted as. -/
  openTools : List (HashKey × Json) := []
  /-- `_tool_id_to_name`. -/
  toolNames : List (HashKey × Json) := []
  /-- The number of block ids that have been minted. -/
  minted : Nat := 0
  consumed : Bool := false
  resultReceived : Bool := false
  resultIsError : Json := .bool false
  resultWorkerError : Option WorkerError := none
  resultErrorText : Option String := none

/-- How a generator ends. -/
structure Emitted where
  events : List (RenderEvent Json) := []
  raised : Option PyError := none
  processor : StreamProcessor

/-- `yield from` one generator, then another. -/
def Emitted.andThen (first : Emitted) (next : StreamProcessor → Emitted) :
    Emitted :=
  match first.raised with
  | some _ => first
  | none =>
    let rest := next first.processor
    { rest with events := first.events ++ rest.events }

namespace Emitted

variable {first : Emitted} {next last : StreamProcessor → Emitted}

theorem andThen_of_none (quiet : first.raised = none) :
    first.andThen next =
      { next first.processor with
        events := first.events ++ (next first.processor).events } := by
  simp [andThen, quiet]

theorem andThen_of_some {raised : PyError}
    (raises : first.raised = some raised) : first.andThen next = first := by
  simp [andThen, raises]

theorem andThen_stop (emitted : Emitted) :
    (emitted.andThen fun processor => { processor := processor }) =
      emitted := by
  cases quiet : emitted.raised with
  | some raised => exact andThen_of_some quiet
  | none =>
    rw [andThen_of_none quiet, List.append_nil, ← quiet]

theorem andThen_assoc : (first.andThen next).andThen last =
      first.andThen fun processor => (next processor).andThen last := by
  cases quiet : first.raised with
  | some raised => simp [andThen_of_some quiet]
  | none =>
    rw [andThen_of_none quiet, andThen_of_none quiet]
    cases again : (next first.processor).raised with
    | some raised =>
      rw [andThen_of_some again]
      exact andThen_of_some again
    | none =>
      rw [andThen_of_none again]
      simp [andThen, again]

end Emitted

namespace StreamProcessor

/-- `_mint_text_block_id`. -/
def textBlockId (hex : String) : String := "text-" ++ hex

/-- `_mint_reasoning_block_id`. -/
def reasoningBlockId (hex : String) : String := "reasoning-" ++ hex

/-- `close_reasoning_if_open`. -/
def closeReasoningIfOpen (processor : StreamProcessor) : Emitted :=
  match processor.openReasoning with
  | [] => { processor := processor }
  | block :: _ =>
    { events := [.reasoningEnd (.ofString block)]
      processor := { processor with
        openReasoning := processor.openReasoning.erase block } }

/-- The close of the open text block in `handle_tool_use`, `_handle_result`
and `_close_open_blocks`. -/
def closeTextIfOpen (processor : StreamProcessor) : Emitted :=
  match processor.openText with
  | [] => { processor := processor }
  | block :: _ =>
    { events := [.textEnd (.ofString block)]
      processor := { processor with
        openText := processor.openText.erase block } }

section Tools

/-- `StateMachine.open` of the tool calls. -/
def openTool (processor : StreamProcessor) (key : HashKey) (toolId : Json) :
    StreamProcessor :=
  if key ∈ processor.openTools.map Prod.fst then processor
  else { processor with openTools := processor.openTools ++ [(key, toolId)] }

theorem openTool_eq (processor : StreamProcessor) (key : HashKey) (toolId : Json) : ∃ openTools,
      processor.openTool key toolId = { processor with openTools := openTools } ∧
      ∀ tool ∈ openTools, tool ∈ processor.openTools ∨ tool = (key, toolId) := by
  unfold openTool
  split
  · exact ⟨processor.openTools, rfl, fun _ member => .inl member⟩
  · exact ⟨_, rfl, fun _ member => by simpa using member⟩

/-- `StateMachine.close` of the tool calls. -/
def closeTool (processor : StreamProcessor) (key : HashKey) :
    StreamProcessor :=
  { processor with
    openTools := processor.openTools.filter fun tool => tool.1 ≠ key }

/-- `_tool_id_to_name[tool_id] = tool_name`. -/
def nameTool (processor : StreamProcessor) (key : HashKey) (toolName : Json) : StreamProcessor :=
  { processor with
    toolNames := (key, toolName) :: processor.toolNames.filter fun tool => tool.1 ≠ key }

/-- A tool id that can be sliced and compared with the others. -/
def asStr : Json → Py PyStr
  | .str text => .ok text
  | _ => .error .typeError

/-- `sorted(self._sm_tool.open_blocks)`, with the slice of every id that the
log call takes: one id that is not a string raises before the first end is
emitted. -/
def sortedOpenTools (processor : StreamProcessor) : Py (List PyStr) := do
  let toolIds ← processor.openTools.mapM fun tool => asStr tool.2
  return toolIds.mergeSort fun left right =>
    decide (left.codePoints ≤ right.codePoints)

theorem asStr_mapM_ok {openTools : List (HashKey × Json)}
    (strings : ∀ tool ∈ openTools, tool.2.IsStr) :
    ∃ toolIds, openTools.mapM (fun tool => asStr tool.2) = .ok toolIds ∧
      openTools.map Prod.snd = toolIds.map Json.str := by
  induction openTools with
  | nil => exact ⟨[], rfl, rfl⟩
  | cons tool openTools ih =>
    obtain ⟨toolIds, collected, same⟩ := ih fun later member =>
      strings later (by simp [member])
    obtain ⟨key, toolId⟩ := tool
    obtain ⟨text, rfl⟩ := strings (key, toolId) (by simp)
    refine ⟨text :: toolIds, ?_, by simp [same]⟩
    rw [List.mapM_cons, collected]
    rfl

theorem asStr_mapM_error {openTools : List (HashKey × Json)}
    (mixed : ∃ tool ∈ openTools, ¬ tool.2.IsStr) :
    openTools.mapM (fun tool => asStr tool.2) = .error .typeError := by
  induction openTools with
  | nil => simp at mixed
  | cons tool openTools ih =>
    obtain ⟨key, toolId⟩ := tool
    rw [List.mapM_cons]
    by_cases isStr : toolId.IsStr
    · obtain ⟨text, rfl⟩ := isStr
      have later : ∃ tool ∈ openTools, ¬ tool.2.IsStr := by
        obtain ⟨other, member, notStr⟩ := mixed
        rcases List.mem_cons.mp member with rfl | member
        · exact absurd ⟨text, rfl⟩ notStr
        · exact ⟨other, member, notStr⟩
      rw [ih later]
      rfl
    · cases toolId with
      | str text => exact absurd ⟨text, rfl⟩ isStr
      | _ => rfl

theorem sortedOpenTools_ok {processor : StreamProcessor}
    (strings : ∀ tool ∈ processor.openTools, tool.2.IsStr) :
    ∃ toolIds, processor.sortedOpenTools = .ok toolIds ∧
      (toolIds.map Json.str).Perm (processor.openTools.map Prod.snd) := by
  obtain ⟨toolIds, collected, same⟩ := asStr_mapM_ok strings
  refine ⟨_, by rw [sortedOpenTools, collected]; rfl, ?_⟩
  rw [same]
  exact (List.mergeSort_perm _ _).map _

theorem sortedOpenTools_error {processor : StreamProcessor}
    (mixed : ∃ tool ∈ processor.openTools, ¬ tool.2.IsStr) :
    processor.sortedOpenTools = .error .typeError := by
  rw [sortedOpenTools, asStr_mapM_error mixed]
  rfl

/-- `synth_orphan_tool_ends`. -/
def synthOrphanToolEnds (processor : StreamProcessor) : Emitted :=
  match processor.sortedOpenTools with
  | .error raised => { raised := some raised, processor := processor }
  | .ok toolIds =>
    { events := toolIds.map fun toolId => .toolCallEnd (.str toolId)
      processor := { processor with openTools := [] } }

/-- `_close_open_blocks`. -/
def closeOpenBlocks (processor : StreamProcessor) : Emitted :=
  (processor.closeReasoningIfOpen.andThen closeTextIfOpen).andThen synthOrphanToolEnds

/-- `close_truncated_stream`. -/
def closeTruncatedStream (processor : StreamProcessor) : Emitted := processor.closeOpenBlocks

/-- `close_exception_path`. -/
def closeExceptionPath (processor : StreamProcessor) : Emitted := processor.closeOpenBlocks

/-- `_handle_result`, which closes the same blocks in the same order. -/
def handleResult (processor : StreamProcessor) : Emitted := processor.closeOpenBlocks

/-- `_NON_SENSITIVE_TOOL_NAMES`. -/
def nonSensitiveToolNames : List String := ["glob", "grep", "ls", "todoread", "todowrite"]

/-- `_MAX_CONTENT_BYTES`. -/
def maxContentBytes : Nat := 65536

/-- `_REDACTED_PLACEHOLDER`. -/
def redactedPlaceholder : String := "[redacted — tool output suppressed for security]"

/-- `_TRUNCATED_SENTINEL`. -/
def truncatedSentinel : String := "…[truncated]"

/-- The characters that `content.encode("utf-8", errors="replace")` encodes. -/
def encodedCharacters (content : PyStr) : List Char := content.codePoints.map fun codePoint =>
    if h : codePoint.isValidChar then Char.ofNatAux codePoint h else '?'

/-- The characters that are whole in the first bytes of their encoding. -/
def takeBytes : Nat → List Char → List Char
  | _, [] => []
  | limit, character :: rest =>
    if character.utf8Size ≤ limit then
      character :: takeBytes (limit - character.utf8Size) rest
    else []

variable (tools : PythonText)

/-- `_sanitize_tool_result_content`. -/
def sanitizeToolResultContent (content : PyStr) (toolName : Json) :
    Py PyStr := do
  match toolName with
  | .null => return .text redactedPlaceholder
  | .str name =>
    if tools.lower name ∉ nonSensitiveToolNames.map PyStr.text then
      return .text redactedPlaceholder
    let encoded := encodedCharacters content
    if (String.ofList encoded).utf8ByteSize ≤ maxContentBytes then
      return content
    let kept := takeBytes (maxContentBytes - truncatedSentinel.utf8ByteSize) encoded
    return .text (String.ofList kept ++ truncatedSentinel)
  | _ => .error .attributeError

/-- `handle_tool_use`. -/
def handleToolUse (processor : StreamProcessor) (toolName toolId input : Json) : Emitted :=
  (processor.closeReasoningIfOpen.andThen closeTextIfOpen).andThen
    fun processor =>
      match toolId.hashKey with
      | .error raised => { raised := some raised, processor := processor }
      | .ok key =>
        { events := [.toolCallStart toolId toolName (if input.truthy then some input else none)]
          processor := (processor.openTool key toolId).nameTool key toolName }

/-- `handle_tool_use_delta`. -/
def handleToolUseDelta (processor : StreamProcessor) (toolId partialJson : Json) : Emitted :=
  processor.closeReasoningIfOpen.andThen fun processor =>
    { events := [.toolCallArgs toolId partialJson]
      processor := processor }

/-- `handle_tool_use_end`; a dictionary that is empty does not hash the key
that it is asked to drop. -/
def handleToolUseEnd (processor : StreamProcessor) (toolId : Json) :
    Emitted :=
  processor.closeReasoningIfOpen.andThen fun processor =>
    match processor.openTools, toolId.hashKey with
    | _ :: _, .error raised =>
      { raised := some raised, processor := processor }
    | [], .error _ =>
      { events := [.toolCallEnd toolId], processor := processor }
    | _, .ok key =>
      { events := [.toolCallEnd toolId]
        processor := processor.closeTool key }

/-- The name and the sanitized content in `handle_tool_result`. -/
def toolResultContent (processor : StreamProcessor) (toolId : Json)
    (content : PyStr) : Py PyStr := do
  let key ← toolId.hashKey
  sanitizeToolResultContent tools content ((processor.toolNames.lookup key).getD .null)

/-- `handle_tool_result`. -/
def handleToolResult (processor : StreamProcessor) (toolId : Json)
    (content : PyStr) (isError : Bool) : Emitted :=
  processor.closeReasoningIfOpen.andThen fun processor =>
    match processor.toolResultContent tools toolId content with
    | .error raised => { raised := some raised, processor := processor }
    | .ok content =>
      { events := [.toolCallResult toolId (.str content) isError]
        processor := processor }

end Tools

section Text

variable (hex : Nat → String)

/-- The delta of the open text block, which is opened when there is none. -/
def writeText (processor : StreamProcessor) (text : Json) : Emitted :=
  match processor.openText with
  | block :: _ =>
    { events := [.textDelta (.ofString block) text]
      processor := processor }
  | [] =>
    let block := textBlockId (hex processor.minted)
    { events := [.textStart (.ofString block), .textDelta (.ofString block) text]
      processor := { processor with
        openText := [block]
        minted := processor.minted + 1 } }

/-- `handle_text`; the accumulators are strings. -/
def handleText (processor : StreamProcessor) (text : Json) : Emitted :=
  processor.closeReasoningIfOpen.andThen fun processor =>
    match text with
    | .str _ => processor.writeText hex text
    | _ => { raised := some .typeError, processor := processor }

/-- `handle_thinking`. -/
def handleThinking (processor : StreamProcessor) (text : Json) : Emitted :=
  if !processor.showIntermediate then { processor := processor }
  else match processor.openReasoning with
    | block :: _ =>
      { events := [.reasoningDelta (.ofString block) text]
        processor := processor }
    | [] =>
      let block := reasoningBlockId (hex processor.minted)
      { events := [.reasoningStart (.ofString block), .reasoningDelta (.ofString block) text]
        processor := { processor with
          openReasoning := [block]
          minted := processor.minted + 1 } }

end Text

section Runs

variable (tools : PythonText) (hex : Nat → String)

/-- What `_process_events` notes of a result before it is dispatched. -/
def noteResult (processor : StreamProcessor) : LlmEvent → StreamProcessor
  | .result isError _ errorText _ workerError =>
    { processor with
      resultReceived := true
      resultIsError := isError
      resultWorkerError := workerError
      resultErrorText := errorText }
  | _ => processor

/-- `_dispatch_event`. -/
def dispatchEvent (processor : StreamProcessor) : LlmEvent → Emitted
  | .text text => processor.handleText hex text
  | .toolUse toolName toolId input =>
    processor.handleToolUse toolName toolId input
  | .toolUseDelta toolId partialJson =>
    processor.handleToolUseDelta toolId partialJson
  | .toolUseEnd toolId => processor.handleToolUseEnd toolId
  | .toolResult toolId content isError =>
    processor.handleToolResult tools toolId content isError
  | .result .. => processor.handleResult
  | .thinking text => processor.handleThinking hex text

/-- The loop of `_process_events`. -/
def dispatchEvents : List LlmEvent → StreamProcessor → Emitted
  | [], processor => { processor := processor }
  | event :: events, processor =>
    ((processor.noteResult event).dispatchEvent tools hex event).andThen (dispatchEvents events)

theorem dispatchEvents_append (events more : List LlmEvent) (processor : StreamProcessor) :
    dispatchEvents tools hex (events ++ more) processor =
      (dispatchEvents tools hex events processor).andThen (dispatchEvents tools hex more) := by
  induction events generalizing processor with
  | nil => simp [dispatchEvents, Emitted.andThen]
  | cons event events ih =>
    simp only [List.cons_append, dispatchEvents, Emitted.andThen_assoc]
    exact congrArg _ (funext ih)

/-- The end of the input in `_process_events`. -/
def endOfInput (ending : Ending) (processor : StreamProcessor) : Emitted :=
  match ending with
  | .raised raised => { raised := some raised, processor := processor }
  | .stopped =>
    if processor.resultReceived then { processor := processor }
    else processor.closeTruncatedStream

/-- `_process_events`. -/
def processEvents (processor : StreamProcessor) (input : List LlmEvent × Ending) : Emitted :=
  (processor.dispatchEvents tools hex input.1).andThen (endOfInput input.2)

variable (resolveUserError : Option WorkerError → Option String → String)
variable (runId : String)

/-- The last event of a run whose input raised nothing. -/
def finish (processor : StreamProcessor) : RenderEvent Json :=
  if processor.resultIsError.truthy then
    let message := resolveUserError processor.resultWorkerError processor.resultErrorText
    let code := match processor.resultWorkerError with
      | some workerError => workerError.code
      | none => "stream.error"
    .runError (.ofString runId) (.ofString message) (some (.ofString code))
  else .runFinished (.ofString runId)

/-- The exception path of `process`; an exception that is raised while the
blocks are closed leaves no event behind. -/
def fail (raised : PyError) (processor : StreamProcessor) : Emitted :=
  if raised.isStreamInfraError then
    processor.closeExceptionPath.andThen fun processor =>
      { events := [.runError (.ofString runId) (.ofString raised.name)
          (some (.ofString "stream.error"))]
        raised := some raised
        processor := processor }
  else { raised := some raised, processor := processor }

/-- What follows the events of the input in `process`. -/
def conclude (processed : Emitted) : Emitted :=
  match processed.raised with
  | none =>
    { processed with
      events := processed.events ++ [processed.processor.finish resolveUserError runId] }
  | some raised =>
    let failed := processed.processor.fail runId raised
    { failed with events := processed.events ++ failed.events }

/-- `process`, for an input whose `aclose` does not raise. -/
def process (processor : StreamProcessor) (input : List LlmEvent × Ending) : Emitted :=
  if processor.consumed then
    { raised := some (.other "RuntimeError"), processor := processor }
  else
    let started := { processor with
      consumed := true
      resultReceived := false
      resultIsError := .bool false
      resultWorkerError := none
      resultErrorText := none }
    let concluded := conclude resolveUserError runId (started.processEvents tools hex input)
    { concluded with
      events := .runStarted (.ofString runId) :: concluded.events }

end Runs

end StreamProcessor

end RoxabiFactory

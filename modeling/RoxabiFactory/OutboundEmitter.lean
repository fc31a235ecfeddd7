import RoxabiFactory.CliStreaming
import RoxabiFactory.ToolRecap

/-!
# The outbound emitter

`OutboundEmitter.run` shows a stream of render events on a platform: it sends a
placeholder at the first event, edits it while text arrives, keeps a recap of
the tool calls in a second message, and edits the placeholder to the final
text when the stream ends.  Calls to the platform go through a guard that
turns exceptions into a result, except `edit_reasoning`.

Each event arrives with what the platform and the clock do while it is
handled.  The typing indicator and the ids of sent messages are left out.
-/

namespace RoxabiFactory

/-- The stages of a platform that only compute. -/
structure OutboundFormatter where
  placeholderText : String
  chunk : String → List String
  getMsg : String → String → String
  /-- A text that is not empty makes at least one chunk. -/
  chunk_ne_nil : ∀ text, text ≠ "" → chunk text ≠ []

/-- A render event and what happens while it is handled. -/
structure Arrival where
  event : RenderEvent String
  /-- `time.monotonic()`. -/
  now : Int
  /-- `send_trace_placeholder`, when it is called, brings an object. -/
  traceSent : Bool := true
  /-- What `edit_reasoning` raises when it is called. -/
  reasoningRaises : Option PyError := none

inductive PlatformCall
  | sendPlaceholder
  | editPlaceholderText (text : String) (finalize : Bool)
  | sendTracePlaceholder
  | editToolRecap (lines : List PyStr) (done : Bool)
  | editReasoning (event : RenderEvent String)
  | sendMessage (text : String)
  | sendFallback (text : String)

/-- `_MAX_INTERMEDIATE_CHARS`. -/
def maxIntermediateChars : Nat := 8000

def streamingMark : String := "⏳ "

/-- `IntermediateTextState`, which is its text. -/
structure IntermediateTextState where
  text : String := ""

namespace IntermediateTextState

/-- `IntermediateTextState.append`. -/
def append (state : IntermediateTextState) (newText : String) :
    IntermediateTextState :=
  if newText = "" then state
  else if maxIntermediateChars ≤ state.text.length then state
  else if state.text ≠ "" then ⟨state.text ++ newText⟩
  else ⟨streamingMark ++ newText⟩

/-- The final text that `TextEnd` captures from the accumulated text. -/
def captured (state : IntermediateTextState) : String :=
  if streamingMark.toList <+: state.text.toList then
    String.ofList (state.text.toList.drop 2)
  else state.text

end IntermediateTextState

structure StreamState where
  hadToolEvents : Bool := false
  istate : IntermediateTextState := {}
  lastIntermediateEdit : Option Int := none
  finalText : Option String := none
  isErrorTurn : Bool := false
  isErrorPending : Bool := false
  runErrorMessage : Option String := none
  streamError : Option PyError := none

/-- A display text: the final text with what is added to it, or a message in
its place. -/
inductive DisplayText
  | final (isError : Bool) (text : String) (notice : Option String)
  | message (text : String)

namespace DisplayText

/-- The string that is shown. -/
def render : DisplayText → String
  | .final isError text notice =>
    (if isError then "❌ " else "") ++ text ++ notice.getD ""
  | .message text => text

end DisplayText

/-- `GENERIC_ERROR_REPLY`. -/
def genericErrorReply : String := "Something went wrong. Please try again."

/-- `OutboundErrorHandler.classify_stream_error`. -/
def classifyStreamError (getMsg : String → String → String)
    (streamError : Option PyError) (hadToolEvents : Bool)
    (finalText : Option String) : Option String :=
  match streamError with
  | some raised =>
    if raised = .other "StreamChunkTimeout" then
      some (getMsg "error_timeout"
        "⏱️ The backend took longer than 120 s to respond. Please try again.")
    else some (getMsg "error_stream"
      ("⚠️ Streaming error: " ++ raised.name ++ ". Please try again."))
  | none =>
    if finalText = none ∧ hadToolEvents then
      some (getMsg "error_no_final"
        ("⚠️ Response ended without a final message (tool events only). " ++ "Please try again."))
    else none

namespace StreamState

/-- `set_final_text`. -/
def setFinalText (state : StreamState) (text : String) : StreamState :=
  { state with finalText := some text, isErrorTurn := false }

/-- `build_display_text`. -/
def buildDisplayText (state : StreamState)
    (getMsg : String → String → String) : Option DisplayText :=
  match state.finalText with
  | none =>
    match state.runErrorMessage.filter (· ≠ "") with
    | some message =>
      let mark := if state.isErrorPending then "❌ " else ""
      some (.message (mark ++ message))
    | none =>
      (classifyStreamError getMsg state.streamError state.hadToolEvents none).map .message
  | some text =>
    let isError := state.isErrorTurn || state.isErrorPending
    match state.streamError with
    | none => some (.final isError text none)
    | some _ =>
      if !isError && text = "" then
        some (.message (getMsg "generic" genericErrorReply))
      else some (.final isError text (some (getMsg "stream_interrupted" " [response interrupted]")))

end StreamState

structure OutboundEmitter where
  st : StreamState := {}
  editInterval : Int := 1
  /-- `_trace_obj` is not `None`. -/
  traceObj : Bool := false
  lastRecapEdit : Option Int := none
  recapDoneEmitted : Bool := false
  toolRecap : ToolRecapAccumulator := {}
  calls : List PlatformCall := []

namespace OutboundEmitter

abbrev Handled := OutboundEmitter × Option PyError

def call (emitter : OutboundEmitter) (made : PlatformCall) :
    OutboundEmitter :=
  { emitter with calls := emitter.calls ++ [made] }

/-- The debounce: no edit yet, or the last one is long enough ago. -/
def isDue (emitter : OutboundEmitter) (last : Option Int) (now : Int) :
    Bool :=
  last.all fun last => decide (emitter.editInterval ≤ now - last)

/-- `_ensure_trace_obj`. -/
def ensureTraceObj (emitter : OutboundEmitter) (arrival : Arrival) :
    OutboundEmitter :=
  if emitter.traceObj then emitter
  else { emitter.call .sendTracePlaceholder with
    traceObj := arrival.traceSent }

/-- `_maybe_emit_intermediate_recap`. -/
def maybeEmitIntermediateRecap (emitter : OutboundEmitter) (now : Int) :
    Handled :=
  if emitter.traceObj && emitter.isDue emitter.lastRecapEdit now then
    match ToolRecap.formatRecapLines emitter.toolRecap false with
    | .error raised => (emitter, some raised)
    | .ok [] => (emitter, none)
    | .ok lines =>
      ({ emitter.call (.editToolRecap lines false) with
        lastRecapEdit := some now }, none)
  else (emitter, none)

variable (tools : PythonText) (loads : JsonLoads)

/-- What the recap makes of an event of a tool call. -/
def observe (accum : ToolRecapAccumulator) : RenderEvent String → Py ToolRecapAccumulator
  | .toolCallStart callId toolName input _ =>
    ToolRecap.observeStart tools accum callId toolName input
  | .toolCallArgs callId delta _ =>
    .ok (ToolRecap.observeArgs accum callId delta)
  | .toolCallEnd callId _ => ToolRecap.observeEnd tools loads accum callId
  | _ => .ok accum

/-- `_on_toolcall_v2`. -/
def onToolcallV2 (emitter : OutboundEmitter) (arrival : Arrival) : Handled :=
  let noted := { emitter with
    st := { emitter.st with hadToolEvents := true } }
  match observe tools loads noted.toolRecap arrival.event with
  | .error raised => (noted, some raised)
  | .ok toolRecap =>
    let observed := { noted with toolRecap := toolRecap }
    match arrival.event with
    | .toolCallStart .. =>
      let traced := observed.ensureTraceObj arrival
      if traced.traceObj then
        traced.maybeEmitIntermediateRecap arrival.now
      else (traced, none)
    | .toolCallResult .. => (observed, none)
    | _ => observed.maybeEmitIntermediateRecap arrival.now

/-- The edit of the placeholder after a delta. -/
def editIntermediate (emitter : OutboundEmitter) (now : Int) :
    OutboundEmitter :=
  if emitter.isDue emitter.st.lastIntermediateEdit now then
    { emitter.call (.editPlaceholderText emitter.st.istate.text false) with
      st := { emitter.st with lastIntermediateEdit := some now } }
  else emitter

/-- `_on_text_v2`. -/
def onTextV2 (emitter : OutboundEmitter) (arrival : Arrival) :
    OutboundEmitter :=
  match arrival.event with
  | .textDelta _ delta _ =>
    editIntermediate { emitter with
      st := { emitter.st with istate := emitter.st.istate.append delta } }
      arrival.now
  | .textEnd .. =>
    if emitter.st.istate.text ≠ "" then
      { emitter with
        st := emitter.st.setFinalText emitter.st.istate.captured }
    else emitter
  | _ => emitter

/-- The reasoning branch of `_run_event_loop`. -/
def onReasoning (emitter : OutboundEmitter) (arrival : Arrival) : Handled :=
  let traced := match arrival.event with
    | .reasoningStart .. => emitter.ensureTraceObj arrival
    | _ => emitter
  (traced.call (.editReasoning arrival.event), arrival.reasoningRaises)

/-- The dispatch of `_run_event_loop`. -/
def handle (emitter : OutboundEmitter) (arrival : Arrival) : Handled :=
  match arrival.event with
  | .runStarted .. | .runFinished .. => (emitter, none)
  | .runError _ message _ _ =>
    ({ emitter with st := { emitter.st with
      isErrorPending := true
      runErrorMessage := some message } }, none)
  | .toolCallStart .. | .toolCallArgs .. | .toolCallEnd ..
  | .toolCallResult .. => emitter.onToolcallV2 tools loads arrival
  | .textStart .. | .textDelta .. | .textEnd .. | .textChunk .. =>
    (emitter.onTextV2 arrival, none)
  | .reasoningStart .. | .reasoningDelta .. | .reasoningEnd .. =>
    emitter.onReasoning arrival

/-- The loop over the events up to the first exception. -/
def handleAll : List Arrival → OutboundEmitter → Handled
  | [], emitter => (emitter, none)
  | arrival :: arrivals, emitter =>
    match emitter.handle tools loads arrival with
    | (handled, none) => handleAll arrivals handled
    | (handled, some raised) => (handled, some raised)

/-- `_run_event_loop`, which records the exception that ends it. -/
def runEventLoop (emitter : OutboundEmitter) (arrivals : List Arrival)
    (ending : Ending) : OutboundEmitter :=
  let (handled, raised) := handleAll tools loads arrivals emitter
  let ended := match ending with
    | .stopped => none
    | .raised error => some error
  { handled with st := { handled.st with
    streamError := (raised.or ended).or handled.st.streamError } }

/-- What the user finally sees. -/
inductive Delivery
  | display (text : DisplayText)
  | error (text : String)
  | fallback (text : String)

def Delivery.modelText : Delivery → Option String
  | .display (.final _ text _) => some text
  | .fallback text => some text
  | _ => none

/-- How a turn ends; nothing is delivered when an exception comes before. -/
structure Outcome where
  emitter : OutboundEmitter
  delivered : Option Delivery := none
  raised : Option PyError := none

/-- The final recap edit in `_deliver_final`. -/
def finishRecap (emitter : OutboundEmitter) : Handled :=
  if emitter.st.hadToolEvents && emitter.traceObj && !emitter.recapDoneEmitted then
    let marked := { emitter with recapDoneEmitted := true }
    match ToolRecap.formatRecapLines marked.toolRecap true with
    | .error raised => (marked, some raised)
    | .ok [] => (marked, none)
    | .ok lines => (marked.call (.editToolRecap lines true), none)
  else (emitter, none)

/-- `_deliver_text_chunks`. -/
def deliverTextChunks (emitter : OutboundEmitter) : List String → OutboundEmitter
  | [] => emitter
  | first :: rest =>
    rest.foldl (fun emitter chunk => emitter.call (.sendMessage chunk))
      (emitter.call (.editPlaceholderText first true))

variable (formatter : OutboundFormatter)

/-- `_deliver_final`. -/
def deliverFinal (emitter : OutboundEmitter) : Outcome :=
  match emitter.finishRecap with
  | (finished, some raised) => { emitter := finished, raised := some raised }
  | (finished, none) =>
    let displayText := finished.st.buildDisplayText formatter.getMsg
    let rendered := (displayText.map DisplayText.render).getD ""
    let chunks := if rendered ≠ "" then formatter.chunk rendered else []
    match displayText, chunks with
    | some text, _ :: _ =>
      { emitter := finished.deliverTextChunks chunks
        delivered := some (.display text) }
    | _, _ =>
      let errorText := ((classifyStreamError formatter.getMsg
        finished.st.streamError finished.st.hadToolEvents
        finished.st.finalText).filter (· ≠ "")).getD genericErrorReply
      { emitter := finished.call (.editPlaceholderText errorText true)
        delivered := some (.error errorText) }

/-- The deltas of the text events. -/
def deltas (arrivals : List Arrival) : List String :=
  arrivals.filterMap fun arrival => match arrival.event with
    | .textDelta _ delta _ => some delta
    | _ => none

/-- `_drain_fallback`. -/
def drainFallback (emitter : OutboundEmitter) (arrivals : List Arrival)
    (ending : Ending) : Outcome :=
  match ending with
  | .raised error => { emitter := emitter, raised := some error }
  | .stopped =>
    let joined := String.join (deltas arrivals)
    let text := if joined ≠ "" then joined else formatter.placeholderText
    { emitter := emitter.call (.sendFallback text)
      delivered := some (.fallback text) }

/-- The exceptions that the first `__anext__` is guarded against. -/
def isPeekError (raised : PyError) : Bool :=
  match raised with
  | .typeError | .valueError | .unicodeDecodeError | .validationError
  | .serializationError | .recursionError | .timeoutError => true
  | .attributeError | .keyError => false
  | .other name => decide (name ∈ ["RuntimeError", "OSError",
      "ConnectionError", "AssertionError", "WorkerUnavailableError",
      "HubUnavailableError", "StreamChunkTimeout"])

/-- `_run_emitter`; `sent` tells whether the placeholder is sent. -/
def run (emitter : OutboundEmitter) (config : ToolDisplayConfig)
    (sent : Bool) (arrivals : List Arrival) (ending : Ending) : Outcome :=
  let fresh := { emitter with toolRecap := { config := config } }
  let placed := fresh.call .sendPlaceholder
  match arrivals, ending with
  | [], .stopped => drainFallback formatter fresh [] .stopped
  | [], .raised error =>
    if isPeekError error then
      let noted := { placed with
        st := { placed.st with streamError := some error } }
      if sent then
        let outcome := noted.deliverFinal formatter
        { outcome with raised := outcome.raised.or (some error) }
      else { emitter := noted, raised := some error }
    else { emitter := fresh, raised := some error }
  | _, _ =>
    if sent then
      let outcome := (placed.runEventLoop tools loads arrivals ending).deliverFinal formatter
      { outcome with
        raised := outcome.raised.or outcome.emitter.st.streamError }
    else drainFallback formatter placed arrivals ending

end OutboundEmitter

end RoxabiFactory

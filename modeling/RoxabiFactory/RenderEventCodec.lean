import RoxabiFactory.DataclassCodec
import RoxabiFactory.RenderEvents

/-!
# The codec of render events

`NatsRenderEventCodec` turns a render event into an event type, a payload and
the flag that ends a stream, and back.  Everything it does is driven by a
registry with one branch for each class of render events; a payload with a
version above that of its branch is dropped.  Counters and logs are left out.
-/

namespace RoxabiFactory

open DataclassCodec

def Role.toPyObject : Role → PyObject
  | .assistant => .ofString "assistant"

def RunOutcome.toPyObject : RunOutcome → PyObject
  | .success => .ofString "success"
  | .interrupt => .ofString "interrupt"

namespace RenderEvent

/-- `type(event).__name__`. -/
def cls {Text : Type} : RenderEvent Text → String
  | .textStart .. => "TextStartRenderEvent"
  | .textDelta .. => "TextDeltaRenderEvent"
  | .textEnd .. => "TextEndRenderEvent"
  | .textChunk .. => "TextChunkRenderEvent"
  | .runStarted .. => "RunStartedRenderEvent"
  | .runFinished .. => "RunFinishedRenderEvent"
  | .runError .. => "RunErrorRenderEvent"
  | .toolCallStart .. => "ToolCallStartRenderEvent"
  | .toolCallArgs .. => "ToolCallArgsRenderEvent"
  | .toolCallEnd .. => "ToolCallEndRenderEvent"
  | .toolCallResult .. => "ToolCallResultRenderEvent"
  | .reasoningStart .. => "ReasoningStartRenderEvent"
  | .reasoningDelta .. => "ReasoningDeltaRenderEvent"
  | .reasoningEnd .. => "ReasoningEndRenderEvent"

def schemaVersion {Text : Type} : RenderEvent Text → Int
  | .textStart _ _ version => version
  | .textDelta _ _ version => version
  | .textEnd _ version => version
  | .textChunk _ _ _ version => version
  | .runStarted _ version => version
  | .runFinished _ _ version => version
  | .runError _ _ _ version => version
  | .toolCallStart _ _ _ version => version
  | .toolCallArgs _ _ version => version
  | .toolCallEnd _ version => version
  | .toolCallResult _ _ _ version => version
  | .reasoningStart _ version => version
  | .reasoningDelta _ _ version => version
  | .reasoningEnd _ version => version

def fields : RenderEvent String → List (String × PyObject)
  | .textStart messageId role schemaVersion =>
    [("message_id", .ofString messageId), ("role", role.toPyObject),
      ("schema_version", .int schemaVersion)]
  | .textDelta messageId delta schemaVersion =>
    [("message_id", .ofString messageId), ("delta", .ofString delta),
      ("schema_version", .int schemaVersion)]
  | .textEnd messageId schemaVersion =>
    [("message_id", .ofString messageId), ("schema_version", .int schemaVersion)]
  | .textChunk messageId delta role schemaVersion =>
    [("message_id", .ofString messageId), ("delta", .ofString delta),
      ("role", role.toPyObject), ("schema_version", .int schemaVersion)]
  | .runStarted runId schemaVersion =>
    [("run_id", .ofString runId), ("schema_version", .int schemaVersion)]
  | .runFinished runId outcome schemaVersion =>
    [("run_id", .ofString runId), ("outcome", outcome.toPyObject),
      ("schema_version", .int schemaVersion)]
  | .runError runId message code schemaVersion =>
    [("run_id", .ofString runId), ("message", .ofString message),
      ("code", PyObject.optional .ofString code), ("schema_version", .int schemaVersion)]
  | .toolCallStart toolCallId toolName input schemaVersion =>
    [("tool_call_id", .ofString toolCallId),
      ("tool_name", .ofString toolName), ("input", PyObject.optional .ofJson input),
      ("schema_version", .int schemaVersion)]
  | .toolCallArgs toolCallId delta schemaVersion =>
    [("tool_call_id", .ofString toolCallId), ("delta", .ofString delta),
      ("schema_version", .int schemaVersion)]
  | .toolCallEnd toolCallId schemaVersion =>
    [("tool_call_id", .ofString toolCallId), ("schema_version", .int schemaVersion)]
  | .toolCallResult toolCallId content isError schemaVersion =>
    [("tool_call_id", .ofString toolCallId), ("content", .ofString content),
      ("is_error", .bool isError), ("schema_version", .int schemaVersion)]
  | .reasoningStart messageId schemaVersion =>
    [("message_id", .ofString messageId), ("schema_version", .int schemaVersion)]
  | .reasoningDelta messageId delta schemaVersion =>
    [("message_id", .ofString messageId), ("delta", .ofString delta),
      ("schema_version", .int schemaVersion)]
  | .reasoningEnd messageId schemaVersion =>
    [("message_id", .ofString messageId), ("schema_version", .int schemaVersion)]

def toPyObject (event : RenderEvent String) : PyObject := .dataclass event.cls event.fields

end RenderEvent

namespace RenderEventCodec

/-- An event type, a payload and `is_done`. -/
abbrev Encoded := String × Json × Bool

structure CodecBranch where
  eventType : String
  clsName : String
  encodeFn : PyObject → Py Encoded
  decodeFn : Json → Py PyObject
  schemaVersion : Int
  isDoneDefault : Bool

/-- `_make_std_encode`. -/
def makeStdEncode (eventType : String) (isDone : Bool) (event : PyObject) :
    Py Encoded := do
  let payload ← serialize event
  return (eventType, payload, isDone)

variable (validate : ModelValidate)

/-- `_make_std_decode`. -/
def makeStdDecode (cls : Hint) (payload : Json) : Py PyObject := do
  let item ← dumps (.ofJson payload)
  deserialize validate item cls

/-- A branch as the registry writes it for each class. -/
def stdBranch (eventType clsName : String) (isDone : Bool)
    (schemaVersion : Int) (fields : List (String × Hint × Option PyObject)) :
    CodecBranch where
  eventType := eventType
  clsName := clsName
  encodeFn := makeStdEncode eventType isDone
  decodeFn := makeStdDecode validate (.dataclass clsName fields)
  schemaVersion := schemaVersion
  isDoneDefault := isDone

def versionField : String × Hint × Option PyObject := ("schema_version", .other, some (.int 1))

def roleField : String × Hint × Option PyObject := ("role", .literal, some (.ofString "assistant"))

/-- `build_codec_registry`. -/
def buildCodecRegistry : List CodecBranch :=
  [stdBranch validate "text_start" "TextStartRenderEvent" false 1
     [required "message_id" .str, roleField, versionField],
   stdBranch validate "text_delta" "TextDeltaRenderEvent" false 1
     [required "message_id" .str, required "delta" .str, versionField],
   stdBranch validate "text_end" "TextEndRenderEvent" false 1
     [required "message_id" .str, versionField],
   stdBranch validate "text_chunk" "TextChunkRenderEvent" false 1
     [required "message_id" .str, required "delta" .str, roleField, versionField],
   stdBranch validate "run_started" "RunStartedRenderEvent" false 1
     [required "run_id" .str, versionField],
   stdBranch validate "run_finished" "RunFinishedRenderEvent" true 1
     [required "run_id" .str, ("outcome", .literal, some (.ofString "success")), versionField],
   stdBranch validate "run_error" "RunErrorRenderEvent" true 1
     [required "run_id" .str, required "message" .str, optionalField "code" .str, versionField],
   stdBranch validate "tool_call_start" "ToolCallStartRenderEvent" false 1
     [required "tool_call_id" .str, required "tool_name" .str,
       optionalField "input" .other, versionField],
   stdBranch validate "tool_call_args" "ToolCallArgsRenderEvent" false 1
     [required "tool_call_id" .str, required "delta" .str, versionField],
   stdBranch validate "tool_call_end" "ToolCallEndRenderEvent" false 1
     [required "tool_call_id" .str, versionField],
   stdBranch validate "tool_call_result" "ToolCallResultRenderEvent" false 1
     [required "tool_call_id" .str, required "content" .str,
       ("is_error", .other, some (.bool false)), versionField],
   stdBranch validate "reasoning_start" "ReasoningStartRenderEvent" false 1
     [required "message_id" .str, versionField],
   stdBranch validate "reasoning_delta" "ReasoningDeltaRenderEvent" false 1
     [required "message_id" .str, required "delta" .str, versionField],
   stdBranch validate "reasoning_end" "ReasoningEndRenderEvent" false 1
     [required "message_id" .str, versionField]]

/-- `encode`. -/
def encode (event : PyObject) : Py Encoded :=
  match event with
  | .dataclass cls _ =>
    match (buildCodecRegistry validate).find? (·.clsName = cls) with
    | none => .error .typeError
    | some branch => branch.encodeFn event
  | _ => .error .typeError

/-- `_SYNTHETIC_TERMINALS`. -/
def syntheticTerminals : List String := ["stream_end", "stream_error"]

/-- `_SYNTHETIC_NON_TERMINALS`. -/
def syntheticNonTerminals : List String := ["stream_keepalive"]

/-- `check_schema_version`. -/
def checkSchemaVersion (payload : Json) (expected : Int) : Py Bool := do
  match ← payload.get "schema_version" (.int 1) with
  | .int version => return decide (0 < version ∧ version ≤ expected)
  | _ => return false

/-- The exceptions that `decode` drops a payload for. -/
def isDecodeError (raised : PyError) : Bool :=
  raised.isValueError || decide (raised ∈ [.typeError, .keyError,
    .attributeError, .other "UnicodeEncodeError", .other "binascii.Error"])

/-- `decode`. -/
def decode (eventType : String) (payload : Json) : Py (Option PyObject) :=
  if eventType ∈ syntheticTerminals ∨ eventType ∈ syntheticNonTerminals then
    .ok none
  else
    match (buildCodecRegistry validate).find? (·.eventType = eventType) with
    | none => .ok none
    | some branch => do
      if ← checkSchemaVersion payload branch.schemaVersion then
        match branch.decodeFn payload with
        | .ok event => return some event
        | .error raised =>
          if isDecodeError raised then return none else .error raised
      else return none

/-- `is_terminal`. -/
def isTerminal (eventType : String) : Bool :=
  decide (eventType ∈ syntheticTerminals) || (buildCodecRegistry validate).any fun branch =>
      branch.isDoneDefault && decide (branch.eventType = eventType)

end RenderEventCodec

end RoxabiFactory

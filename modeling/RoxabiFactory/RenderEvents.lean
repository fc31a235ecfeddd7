import RoxabiFactory.PythonValues

/-!
# Render events

The events that the stream processor emits and that outbound adapters
consume.  `Text` is the type of the fields that are annotated with `str`:
`String`, or `Json` as long as nothing has checked what a line of the
subprocess held.
-/

namespace RoxabiFactory

/-- `Literal["assistant"]`. -/
inductive Role
  | assistant
  deriving DecidableEq, Repr

/-- `Literal["success", "interrupt"]`. -/
inductive RunOutcome
  | success
  | interrupt
  deriving DecidableEq, Repr

/-- The union `RenderEvent`. -/
inductive RenderEvent (Text : Type)
  | textStart (messageId : Text) (role : Role := .assistant) (schemaVersion : Int := 1)
  | textDelta (messageId delta : Text) (schemaVersion : Int := 1)
  | textEnd (messageId : Text) (schemaVersion : Int := 1)
  | textChunk (messageId delta : Text) (role : Role := .assistant) (schemaVersion : Int := 1)
  | runStarted (runId : Text) (schemaVersion : Int := 1)
  | runFinished (runId : Text) (outcome : RunOutcome := .success) (schemaVersion : Int := 1)
  | runError (runId message : Text) (code : Option Text := none) (schemaVersion : Int := 1)
  | toolCallStart (toolCallId toolName : Text) (input : Option Json := none)
      (schemaVersion : Int := 1)
  | toolCallArgs (toolCallId delta : Text) (schemaVersion : Int := 1)
  | toolCallEnd (toolCallId : Text) (schemaVersion : Int := 1)
  | toolCallResult (toolCallId content : Text) (isError : Bool := false) (schemaVersion : Int := 1)
  | reasoningStart (messageId : Text) (schemaVersion : Int := 1)
  | reasoningDelta (messageId delta : Text) (schemaVersion : Int := 1)
  | reasoningEnd (messageId : Text) (schemaVersion : Int := 1)
  deriving DecidableEq

/-- `RunFinishedRenderEvent` or `RunErrorRenderEvent`. -/
def RenderEvent.isTerminal {Text : Type} : RenderEvent Text → Bool
  | .runFinished .. | .runError .. => true
  | _ => false

end RoxabiFactory

import RoxabiFactory.CliStreamingParser

/-!
# Reading a blocking turn

`read_until_result` reads lines until one of type `result` arrives and gives
one `CliResult` for the turn.  An exception on the way, for instance of a line
that is JSON but not an object, is turned into a result that reports a read
error.
-/

namespace RoxabiFactory

/-- `CliResult`.  The fields hold what the line held, of whatever type. -/
structure CliResult where
  result : Json := .ofString ""
  sessionId : Json := .ofString ""
  error : Json := .ofString ""
  warning : String := ""

def CliResult.ok (result : CliResult) : Bool := !result.error.truthy

namespace Json

/-- `needle in value`. -/
def contains (value : Json) (needle : String) : Py Bool :=
  match value with
  | .str text => .ok (text.contains needle)
  | .arr items => .ok (items.any fun item => item.isText needle)
  | .obj members => .ok (members.any fun member => member.1 = .text needle)
  | _ => .error .typeError

/-- `len(value)`, for its exception only. -/
def checkLen : Json → Py Unit
  | .str _ | .arr _ | .obj _ => .ok ()
  | _ => .error .typeError

/-- `value[key]` for a value that has answered `get`. -/
def item (value : Json) (key : String) : Py Json :=
  match value with
  | .obj members =>
    match members.lookup (.text key) with
    | some found => .ok found
    | none => .error .keyError
  | _ => .error .typeError

end Json

/-- What `read_until_result` keeps between two lines. -/
structure CliNonStreaming where
  sessionId : Json := .null
  resultParts : List Json := []

namespace CliNonStreaming

/-- `"\n\n".join(parts)`. -/
def joinParts (parts : List Json) : Py Json := do
  let texts ← parts.mapM fun
    | .str text => Except.ok text
    | _ => Except.error PyError.typeError
  return .str ((texts.intersperse (.text "\n\n")).foldl PyStr.append (.text ""))

/-- The texts of the content blocks of an assistant message. -/
def assistantTexts (data : Json) : Py (List Json) := do
  let message ← data.get "message" (.obj [])
  let blocks ← (← message.get "content" (.arr [])).iterate
  let texts ← blocks.mapM fun block => do
    if (← block.get "type" .null).isText "text" then
      return [← block.item "text"]
    else return []
  return texts.flatten

/-- The session id of the turn when its result arrives. -/
def resultSession (reader : CliNonStreaming) (data : Json) : Py Json :=
  if reader.sessionId.truthy then .ok reader.sessionId
  else data.get "session_id" (.ofString "")

/-- The result of a turn from its line of type `result`. -/
def readResult (reader : CliNonStreaming) (data : Json) : Py CliResult := do
  let sessionId := (← reader.resultSession data).orElse (.ofString "")
  let reported ← data.get "result" .null
  let text ←
    if reported.truthy then pure reported else joinParts reader.resultParts
  let errors ← data.get "errors" (.arr [])
  let detail ←
    if errors.truthy then errors.first else pure (.ofString "")
  text.checkLen
  let success : CliResult := { result := text, sessionId := sessionId }
  if (← data.get "is_error" (.bool false)).truthy then
    let subtype ← data.get "subtype" (.ofString "")
    if subtype.isText "success" && text.truthy then return success
    else if subtype.isText "error_max_turns" && text.truthy then
      return { success with
        warning := "Response truncated (max turns reached)" }
    else
      let error := (detail.orElse text).orElse (.ofString "Unknown error from Claude")
      return { error := error }
  else return success

/-- What a line leaves to the next one, or the result of the turn. -/
def readMessage (reader : CliNonStreaming) (data : Json) :
    Py (CliNonStreaming × Option CliResult) := do
  let msgType ← data.get "type" (.ofString "")
  if msgType.isText "system" then
    if (← data.get "subtype" .null).isText "init" then
      let sessionId ← data.get "session_id" (.ofString "")
      return ({ reader with sessionId := sessionId }, none)
    else return (reader, none)
  else if msgType.isText "assistant" then
    let texts ← assistantTexts data
    return ({ reader with resultParts := reader.resultParts ++ texts }, none)
  else if msgType.isText "result" then
    return (reader, some (← reader.readResult data))
  else return (reader, none)

/-- One round of the loop of `read_until_result` over a line. -/
def readLine (reader : CliNonStreaming) : StdoutLine → Py (CliNonStreaming × Option CliResult)
  | .undecodable => .error .unicodeDecodeError
  | .blank | .notJson _ => .ok (reader, none)
  | .json data => reader.readMessage data
  | .loadsRaises raised => .error raised

/-- The session id that the line gives to the entry of the process, before
anything else is read from the line. -/
def reportedSession (reader : CliNonStreaming) (line : StdoutLine) : Json :=
  match line with
  | .json data =>
    if line.isResult then
      match reader.resultSession data with
      | .ok sessionId => sessionId
      | .error _ => .null
    else .null
  | _ => .null

/-- The result for an exception in the loop. -/
def readError (raised : PyError) : CliResult :=
  { error := .ofString ("Read error: " ++ raised.name) }

theorem readMessage_ensures (reader : CliNonStreaming) (data : Json) :
    (reader.readMessage data).Ensures fun read =>
      read.2.isSome = (StdoutLine.json data).isResult := by
  cases data with
  | obj members =>
    unfold readMessage
    rw [Json.get_obj, StdoutLine.isResult_obj]
    generalize (members.lookup (.text "type")).getD (.ofString "") = msgType
    have found : Py.Ensures (pure msgType) fun value => value = msgType := .pure rfl
    refine found.bind ?_
    rintro msgType rfl
    split
    · rename_i system
      rw [Json.isText_of_isText system]
      refine .andThen fun subtype => ?_
      split
      · exact .andThen fun _ => .pure rfl
      · exact .pure rfl
    · split
      · rename_i assistant
        rw [Json.isText_of_isText assistant]
        exact .andThen fun _ => .pure rfl
      · split
        · rename_i result
          rw [result]
          exact .andThen fun _ => .pure rfl
        · rename_i other
          rw [Bool.not_eq_true] at other
          rw [other]
          exact .pure rfl
  | _ => exact .raise _

/-- A line that is read without an exception ends the turn when it is of type
`result`. -/
theorem readLine_ensures (reader : CliNonStreaming) (line : StdoutLine) :
    (reader.readLine line).Ensures fun read =>
      read.2.isSome = line.isResult := by
  cases line with
  | undecodable | loadsRaises raised => exact .raise _
  | blank | notJson startsWithBrace => exact .pure rfl
  | json data => exact readMessage_ensures reader data

end CliNonStreaming

end RoxabiFactory

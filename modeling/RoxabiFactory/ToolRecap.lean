import Mathlib.Algebra.Ring.Nat
import RoxabiFactory.CliErrorClassify
import RoxabiFactory.RenderEvents

/-!
# The tool recap of an outbound turn

`ToolRecapAccumulator` collects what the tool calls of a turn were given, and
`format_recap_lines` renders the recap card.  The arguments are JSON that the
model has written; nothing checks that they form an object or that its values
are strings, so both collecting and rendering may raise.
-/

namespace RoxabiFactory

namespace PyStr

def ofCodePoints (codePoints : List Nat) : PyStr :=
  if codePoints.all fun codePoint => decide codePoint.isValidChar then
    .text (String.ofList (codePoints.map Char.ofNat))
  else .loneSurrogate codePoints

/-- `character.isspace()`. -/
def isSpace (codePoint : Nat) : Bool :=
  decide (9 ≤ codePoint ∧ codePoint ≤ 13 ∨ 28 ≤ codePoint ∧ codePoint ≤ 32 ∨
    8192 ≤ codePoint ∧ codePoint ≤ 8202) ||
  decide (codePoint ∈ [133, 160, 5760, 8232, 8233, 8239, 8287, 12288])

/-- `text.strip()`. -/
def strip (text : PyStr) : PyStr :=
  ofCodePoints (((text.codePoints.dropWhile isSpace).reverse.dropWhile isSpace).reverse)

/-- The text between two literals. -/
def between (before : String) (text : PyStr) (after : String) : PyStr :=
  ((PyStr.text before).append text).append (.text after)

end PyStr

/-- `json.loads`. -/
abbrev JsonLoads := String → Py Json

structure ToolDisplayConfig where
  namesThreshold : Nat := 5
  bashGroupThreshold : Nat := 3
  filesGroupThreshold : Nat := 3
  bashMaxLen : Nat := 80
  «show» : List (String × Bool) :=
    [("edit", true), ("write", true), ("bash", true), ("web_fetch", true),
      ("web_search", true), ("agent", true), ("read", false),
      ("grep", false), ("glob", false)]
  namesThreshold_pos : 1 ≤ namesThreshold := by decide
  bashGroupThreshold_pos : 1 ≤ bashGroupThreshold := by decide
  filesGroupThreshold_pos : 1 ≤ filesGroupThreshold := by decide
  bashMaxLen_pos : 1 ≤ bashMaxLen := by decide

/-- The path holds what the arguments held. -/
structure FileEditSummary where
  path : Json
  edits : List String
  count : Nat

structure PartialCall where
  toolName : String
  argsBuffer : String := ""

structure ToolRecapAccumulator where
  config : ToolDisplayConfig := {}
  files : List (HashKey × FileEditSummary) := []
  bashCommands : List Json := []
  webFetches : List Json := []
  webSearches : List Json := []
  agentCalls : List Json := []
  unknownCalls : List (PyStr × Nat) := []
  silentReads : Nat := 0
  silentGreps : Nat := 0
  silentGlobs : Nat := 0
  inFlight : List (String × PartialCall) := []

namespace ToolRecap

/-- `_AGENT_DISPLAY_MAX`. -/
def agentDisplayMax : Nat := 48

/-- `_TOOL_KEY_ALIASES`. -/
def toolKeyAliases : List (PyStr × PyStr) := [(.text "webfetch", .text "web_fetch"),
    (.text "websearch", .text "web_search")]

variable (tools : PythonText) (loads : JsonLoads)

/-- `_canonical_key`. -/
def canonicalKey (toolName : String) : PyStr :=
  let name := tools.lower (.text toolName)
  (toolKeyAliases.lookup name).getD name

/-- A value that has the methods of `str`. -/
def asStr : Json → Py PyStr
  | .str text => .ok text
  | _ => .error .attributeError

/-- `_truncate`. -/
def truncate (text : PyStr) (maxLen : Nat) : PyStr :=
  if text.codePoints.length ≤ maxLen then text
  else (PyStr.ofCodePoints (text.codePoints.take (maxLen - 1))).append (.text "…")

/-- `_plural`. -/
def plural (count : Nat) (word : String) : String :=
  toString count ++ " " ++ word ++ if count ≠ 1 then "s" else ""

/-- `_sanitize` of a string. -/
def sanitize (text : PyStr) : PyStr :=
  .ofCodePoints (text.codePoints.filter fun codePoint => codePoint ≠ 96)

/-- `_wrap_inline_code`. -/
def wrapInlineCode (text : PyStr) : PyStr := .between "`" (sanitize text) "`"

/-- `dict[key] = value` for a dictionary that keeps its order. -/
def assign {Key Value : Type} [DecidableEq Key] (key : Key) (value : Value) :
    List (Key × Value) → List (Key × Value)
  | [] => [(key, value)]
  | entry :: entries =>
    if entry.1 = key then (key, value) :: entries
    else entry :: assign key value entries

/-- `_accumulate_file_edit`. -/
def accumulateFileEdit (accum : ToolRecapAccumulator) (callId : String)
    (toolName : String) (args : Json) : Py ToolRecapAccumulator := do
  let path ← args.get "path" (.ofString callId)
  let key ← path.hashKey
  let (count, edits) := match accum.files.lookup key with
    | none => (1, [toolName])
    | some existing => (existing.count + 1, existing.edits ++ [toolName])
  let shown := if accum.config.namesThreshold < count then [] else edits
  return { accum with files := assign key ⟨path, shown, count⟩ accum.files }

/-- `_route`. -/
def route (accum : ToolRecapAccumulator) (callId : String) (key : PyStr)
    (toolName : String) (args : Json) : Py ToolRecapAccumulator := do
  let silent : ToolRecapAccumulator :=
    if key = .text "read" then
      { accum with silentReads := accum.silentReads + 1 }
    else if key = .text "grep" then
      { accum with silentGreps := accum.silentGreps + 1 }
    else if key = .text "glob" then
      { accum with silentGlobs := accum.silentGlobs + 1 }
    else accum
  let visible := accum.config.«show».find? fun entry => .text entry.1 = key
  if visible.any fun entry => !entry.2 then return silent
  if key = .text "edit" ∨ key = .text "write" then
    accumulateFileEdit accum callId toolName args
  else if key = .text "bash" then
    let command ← args.get "command" (.ofString "")
    return { accum with bashCommands := accum.bashCommands ++ [command] }
  else if key = .text "web_fetch" then
    let url ← args.get "url" (.ofString "")
    return { accum with webFetches := accum.webFetches ++ [url] }
  else if key = .text "web_search" then
    let query ← args.get "query" (.ofString "")
    return { accum with webSearches := accum.webSearches ++ [query] }
  else if key = .text "agent" then
    let description ← args.get "description" (.ofString "agent")
    return { accum with agentCalls := accum.agentCalls ++ [description] }
  else if key = .text "read" ∨ key = .text "grep" ∨ key = .text "glob" then
    return silent
  else
    let count := (accum.unknownCalls.lookup key).getD 0
    return { accum with
      unknownCalls := assign key (count + 1) accum.unknownCalls }

/-- `observe_start`. -/
def observeStart (accum : ToolRecapAccumulator) (callId toolName : String)
    (input : Option Json) : Py ToolRecapAccumulator :=
  match input.filter Json.truthy with
  | some input =>
    route accum callId (canonicalKey tools toolName) toolName input
  | none =>
    .ok { accum with
      inFlight := assign callId ⟨toolName, ""⟩ accum.inFlight }

/-- `observe_args`. -/
def observeArgs (accum : ToolRecapAccumulator) (callId delta : String) :
    ToolRecapAccumulator :=
  match accum.inFlight.lookup callId with
  | some call =>
    let extended := { call with argsBuffer := call.argsBuffer ++ delta }
    { accum with inFlight := assign callId extended accum.inFlight }
  | none => accum

/-- The arguments in `observe_end`; text that is not JSON counts as none. -/
def parseArgs (argsBuffer : String) : Py Json :=
  match loads argsBuffer with
  | .error raised =>
    if raised.isValueError then .ok (.obj []) else .error raised
  | .ok args => .ok args

/-- `observe_end`. -/
def observeEnd (accum : ToolRecapAccumulator) (callId : String) : Py ToolRecapAccumulator :=
  match accum.inFlight.lookup callId with
  | none => .ok accum
  | some call => do
    let args ← parseArgs loads call.argsBuffer
    let routed ← route accum callId (canonicalKey tools call.toolName) call.toolName args
    return { routed with
      inFlight := routed.inFlight.filter fun entry => entry.1 ≠ callId }

/-- `has_any`. -/
def hasAny (accum : ToolRecapAccumulator) : Bool :=
  !accum.files.isEmpty || !accum.bashCommands.isEmpty ||
    !accum.webFetches.isEmpty || !accum.webSearches.isEmpty ||
    !accum.agentCalls.isEmpty || !accum.unknownCalls.isEmpty ||
    decide (0 < accum.silentReads) || decide (0 < accum.silentGreps) ||
    decide (0 < accum.silentGlobs)

/-- `_format_files`. -/
def formatFiles (accum : ToolRecapAccumulator) : Py (List PyStr) :=
  if accum.files.isEmpty then .ok []
  else if accum.config.filesGroupThreshold ≤ accum.files.length then
    let total := (accum.files.map fun file => file.2.count).sum
    .ok [.text ("✏️ " ++ toString accum.files.length ++ " files · " ++ toString total ++ " edits")]
  else accum.files.mapM fun file => do
    let label := if file.2.edits.isEmpty then "×" ++ toString file.2.count
      else ", ".intercalate file.2.edits
    let path ← asStr file.2.path
    return ((PyStr.between "✏️ `" (sanitize path) "` (").append
      (wrapInlineCode (.text label))).append (.text ")")

/-- `_format_bash`. -/
def formatBash (accum : ToolRecapAccumulator) : Py (List PyStr) := do
  let commands ← accum.bashCommands.mapM asStr
  let stripped := (commands.map PyStr.strip).filter fun command =>
    command ≠ .text ""
  if stripped.isEmpty then return []
  else if accum.config.bashGroupThreshold ≤ stripped.length then
    return [.text ("💻 " ++ plural stripped.length "command")]
  else
    return stripped.map fun command => .between "💻 `"
      (sanitize (truncate command accum.config.bashMaxLen)) "`"

/-- `_format_unknown`. -/
def formatUnknown (accum : ToolRecapAccumulator) : List PyStr :=
  let sorted := accum.unknownCalls.mergeSort fun left right =>
    decide (left.1.codePoints ≤ right.1.codePoints)
  (sorted.filter fun call => 0 < call.2).map fun call =>
    .between ("🔧 " ++ toString call.2 ++ " `") (sanitize call.1) "`"

/-- `_format_silent`. -/
def formatSilent (accum : ToolRecapAccumulator) : List PyStr :=
  let count := fun (count : Nat) (word : String) =>
    if count = 0 then [] else [plural count word]
  let parts := count accum.silentReads "read" ++
    count accum.silentGreps "grep" ++ count accum.silentGlobs "glob"
  if parts.isEmpty then [] else [.text ("🔍 " ++ " · ".intercalate parts)]

/-- The lines of the fetched pages and the searches. -/
def formatWeb (values : List Json) : Py (List PyStr) := values.mapM fun value => do
    return .between "🌐 `" (sanitize (← asStr value)) "`"

/-- The lines of the agent calls. -/
def formatAgents (accum : ToolRecapAccumulator) : Py (List PyStr) :=
  accum.agentCalls.mapM fun value => do
    let stripped := (← asStr value).strip
    let shown := if stripped = .text "" then .text "agent" else stripped
    return .between "🤖 `" (sanitize (truncate shown agentDisplayMax)) "`"

/-- `format_recap_lines`. -/
def formatRecapLines (accum : ToolRecapAccumulator) (done : Bool) :
    Py (List PyStr) := do
  if !hasAny accum then return []
  let header : PyStr := .text (if done then "🔧 Done ✅" else "🔧 Working…")
  let files ← formatFiles accum
  let bash ← formatBash accum
  let fetches ← formatWeb accum.webFetches
  let searches ← formatWeb accum.webSearches
  let agents ← formatAgents accum
  return header :: (files ++ bash ++ fetches ++ searches ++ agents ++
    formatUnknown accum ++ formatSilent accum)

end ToolRecap

end RoxabiFactory

import RoxabiFactory.AgentRows
import RoxabiFactory.SoulDocument
import RoxabiFactory.WorkerRegistry

/-!
# Loading an agent

`agent_row_to_config` makes the configuration of an agent from its row.  The
JSON columns are read without a schema: whatever is not as expected raises, in
Python or in a pydantic model.
-/

namespace RoxabiFactory

namespace Agents

/-! ## The configuration -/

/-- A `float`. -/
inductive FloatValue
  | finite (value : ℚ)
  | nonFinite (name : String)
  deriving DecidableEq

/-- `AgentTTSConfig`. -/
structure AgentTTSConfig where
  engine : Option String := none
  sampleId : Option String := none
  voice : Option String := none
  language : Option String := none
  accent : Option String := none
  personality : Option String := none
  speed : Option String := none
  emotion : Option String := none
  segmentGap : Option ℤ := none
  crossfade : Option ℤ := none
  chunked : Option Bool := none
  chunkSize : Option ℤ := none
  exaggeration : Option FloatValue := none
  cfgWeight : Option FloatValue := none
  languages : Option (List String) := none
  defaultLanguage : Option String := none
  deriving DecidableEq

/-- `AgentSTTConfig`. -/
structure AgentSTTConfig where
  languageDetectionThreshold : Option FloatValue := none
  languageDetectionSegments : Option ℤ := none
  languageFallback : Option String := none
  deriving DecidableEq

/-- `AgentVoiceConfig`. -/
structure AgentVoiceConfig where
  tts : AgentTTSConfig := {}
  stt : AgentSTTConfig := {}
  deriving DecidableEq

/-- `ModelConfig`. -/
structure ModelConfig where
  backend : String
  model : String
  maxTurns : Option ℕ
  tools : List String
  cwd : Option String
  skipPermissions : Bool
  streaming : Bool
  effort : Option String
  deriving DecidableEq

/-- `SmartRoutingConfig`; the models are by the levels of `Complexity`. -/
structure SmartRoutingConfig where
  enabled : Bool
  routingTable : List (String × String)
  historySize : ℤ
  highComplexityCommands : List String
  deriving DecidableEq

/-- `CommandConfig`, whose description is not checked. -/
structure CommandConfig where
  description : Json
  builtin : Bool
  timeout : FloatValue
  deriving DecidableEq

/-- `Agent`. -/
structure Agent where
  name : String
  systemPrompt : Text
  memoryNamespace : String
  llmConfig : ModelConfig
  permissions : List String
  commands : List (String × CommandConfig)
  commandsEnabled : List String
  i18nLanguage : String
  smartRouting : Option SmartRoutingConfig
  showIntermediate : Bool
  workspaces : List (PyStr × String)
  voice : Option AgentVoiceConfig
  patterns : List (String × Bool)
  passthroughs : List String
  deriving DecidableEq

/-- What the loader uses of Python, of pydantic and of the file system. -/
structure LoaderTools where
  loads : JsonLoads
  /-- The default of the columns that hold lists. -/
  loads_emptyList : loads "[]" = .ok (.arr [])
  /-- `f"{value}"` of a value that is no string. -/
  str : Json → PyStr
  /-- `int` of a string, with `none` for its `ValueError`. -/
  intOfText : PyStr → Option ℤ
  /-- `float` of a string, in the same way. -/
  floatOfText : PyStr → Option FloatValue
  /-- The float next to an integer. -/
  roundInt : ℤ → ℚ
  /-- The conversions of pydantic to a `float` and to an `int`. -/
  laxFloat : Json → Option FloatValue
  laxInt : Json → Option ℤ
  laxFloat_float : ∀ value, laxFloat (.float value) = some (.finite value)
  laxFloat_nonFinite : ∀ name, laxFloat (.nonFinite name) = some (.nonFinite name)
  laxInt_int : ∀ value, laxInt (.int value) = some value
  /-- `Path(raw).expanduser().resolve()`, if it is a directory. -/
  resolveDir : PyStr → Py (Option String)

/-! ## Conversions -/

section Conversions

variable (tools : LoaderTools)

/-- `int(value)`. -/
def pyInt : Json → Py ℤ
  | .bool value => .ok (if value then 1 else 0)
  | .int value => .ok value
  | .float value => .ok (value.num.tdiv value.den)
  | .nonFinite name =>
    .error (if name = "NaN" then .valueError else .other "OverflowError")
  | .str text =>
    match tools.intOfText text with
    | none => .error .valueError
    | some value => .ok value
  | .null | .arr _ | .obj _ => .error .typeError

/-- `float(value)`. -/
def pyFloat : Json → Py FloatValue
  | .bool value => .ok (.finite (if value then 1 else 0))
  | .int value =>
    if |value| < WorkerRegistry.floatLimit then
      .ok (.finite (tools.roundInt value))
    else .error (.other "OverflowError")
  | .float value => .ok (.finite value)
  | .nonFinite name => .ok (.nonFinite name)
  | .str text =>
    match tools.floatOfText text with
    | none => .error .valueError
    | some value => .ok value
  | .null | .arr _ | .obj _ => .error .typeError

/-- A field of a pydantic model that may be `None`. -/
def optionalField {α : Type} (accept : Json → Option α) : Json → Py (Option α)
  | .null => .ok none
  | value =>
    match accept value with
    | none => .error .validationError
    | some accepted => .ok (some accepted)

/-- A field of type `str`. -/
def textOf (value : Json) : Py String :=
  match value.asText with
  | none => .error .validationError
  | some text => .ok text

/-- A key of a dictionary in a pydantic model. -/
def keyOf : PyStr → Py String
  | .text key => .ok key
  | .loneSurrogate _ => .error .validationError

/-- `f"{value}"`. -/
def formatted : Json → Text
  | .str text => text.codePoints
  | value => (tools.str value).codePoints

/-- `json.loads(column) if column else default`. -/
def loadOr (column : Option String) (default : Json) : Py Json :=
  match column.bind nonEmpty with
  | none => .ok default
  | some text => tools.loads text

end Conversions

/-- The characters that `^` and `$` stand around: a newline may be at the
end. -/
def matchedChars (text : String) : List Char :=
  if text.toList.getLast? = some '\n' then text.toList.dropLast
  else text.toList

/-- `re.match(r"^[...]+$", text)`. -/
def matchesAll (allowed : Char → Bool) (text : String) : Bool :=
  matchedChars text ≠ [] && (matchedChars text).all allowed

def isModelChar (character : Char) : Bool :=
  character.isAlphanum || character == '_' || character == '.' ||
    character == ':' || character == '-'

def isWorkspaceChar (character : Char) : Bool :=
  character.isAlphanum || character == '_' || character == '-'

def validBackends : List String := ["claude-cli", "nats", "omp-rpc"]

/-- `_validate_backend_model`. -/
def validateBackendModel (backend model : String) : Py Unit :=
  if backend ∉ validBackends then .error .valueError
  else if matchesAll isModelChar model then .ok ()
  else .error .valueError

/-- `_validate_i18n_language`. -/
def validateI18nLanguage (raw : String) : String :=
  if 2 ≤ (matchedChars raw).length ∧ (matchedChars raw).length ≤ 8 ∧
      (matchedChars raw).all Char.isLower = true then raw
  else "en"

/-! ## Voice -/

section Voice

variable (tools : LoaderTools)

/-- `set(value)`, for its exception. -/
def checkSet (value : Json) : Py Unit := do
  let items ← value.iterate
  let _ ← items.mapM Json.hashKey
  return ()

/-- `convert(data[key]) if key in data else None`. -/
def convertPresent {α : Type} (convert : Json → Py α)
    (members : List (PyStr × Json)) (key : String) : Py (Option α) :=
  match members.lookup (.text key) with
  | none => .ok none
  | some value => some <$> convert value

/-- `data.get(key)` as a field of a pydantic model. -/
def givenField {α : Type} (accept : Json → Option α)
    (members : List (PyStr × Json)) (key : String) : Py (Option α) :=
  optionalField accept ((members.lookup (.text key)).getD .null)

/-- `_build_tts_from_dict`. -/
def buildTtsFromDict : Json → Py AgentTTSConfig
  | .obj members => do
    let segmentGap ← convertPresent (pyInt tools) members "segment_gap"
    let crossfade ← convertPresent (pyInt tools) members "crossfade"
    let chunked ← convertPresent (fun value => .ok value.truthy) members "chunked"
    let chunkSize ← convertPresent (pyInt tools) members "chunk_size"
    let exaggeration ← convertPresent (pyFloat tools) members "exaggeration"
    let cfgWeight ← convertPresent (pyFloat tools) members "cfg_weight"
    let engine ← givenField Json.asText members "engine"
    let voice ← givenField Json.asText members "voice"
    let language ← givenField Json.asText members "language"
    let accent ← givenField Json.asText members "accent"
    let personality ← givenField Json.asText members "personality"
    let speed ← givenField Json.asText members "speed"
    let emotion ← givenField Json.asText members "emotion"
    return {
      engine := engine
      voice := voice
      language := language
      accent := accent
      personality := personality
      speed := speed
      emotion := emotion
      segmentGap := segmentGap
      crossfade := crossfade
      chunked := chunked
      chunkSize := chunkSize
      exaggeration := exaggeration
      cfgWeight := cfgWeight }
  | _ => .error .attributeError

/-- `_build_stt_from_dict`. -/
def buildSttFromDict : Json → Py AgentSTTConfig
  | .obj members => do
    let threshold ← givenField tools.laxFloat members "language_detection_threshold"
    let segments ← givenField tools.laxInt members "language_detection_segments"
    let fallback ← givenField Json.asText members "language_fallback"
    return ⟨threshold, segments, fallback⟩
  | _ => .error .attributeError

/-- A part of the voice settings, or its default when there is nothing. -/
def buildPart {α : Type} (build : Json → Py α) (default : α) (data : Json) :
    Py α := do
  if data.truthy then
    checkSet data
    build data
  else return default

/-- The voice settings of a row, before the language is filled in. -/
def buildVoice (voiceData : Json) : Py AgentVoiceConfig := do
  let ttsData ← voiceData.get "tts" (.obj [])
  let sttData ← voiceData.get "stt" (.obj [])
  let tts ← buildPart (buildTtsFromDict tools) {} ttsData
  let stt ← buildPart (buildSttFromDict tools) {} sttData
  return ⟨tts, stt⟩

/-- The settings of a column. -/
def voiceOf (voiceJson : Option JsonText) : Py (Option AgentVoiceConfig) :=
  match voiceJson with
  | none => .ok none
  | some text =>
    if text = .malformed "" then .ok none
    else do
      let voiceData ← text.loads
      return some (← buildVoice tools voiceData)

/-- The language of the agent is filled in. -/
def bridgeLanguage (i18nLanguage : String) (voice : AgentVoiceConfig) :
    AgentVoiceConfig :=
  if voice.stt.languageFallback = none ∧ i18nLanguage ≠ "" then
    { voice with
      stt := { voice.stt with languageFallback := some i18nLanguage } }
  else voice

end Voice

/-! ## Prompts -/

section Prompts

variable (tools : LoaderTools)

/-- `", ".join(value)`. -/
def joinCommas (value : Json) : Py Text := do
  let texts ← (← value.iterate).mapM fun
    | .str text => Except.ok text.codePoints
    | _ => Except.error PyError.typeError
  return List.intercalate (Text.ofString ", ") texts

/-- A text in front of a value, if there is one. -/
def withValue (before : String) (value : Json) (after : String) : Text :=
  if value.truthy then
    .ofString before ++ formatted tools value ++ .ofString after
  else []

/-- The first paragraph. -/
def identityPart (ident : Json) : Py (List Text) := do
  let displayName ← ident.get "display_name" (.ofString "")
  if displayName.truthy then
    let tagline ← ident.get "tagline" (.ofString "")
    let creator ← ident.get "creator" (.ofString "")
    let goal ← ident.get "goal" (.ofString "")
    return [.ofString "You are " ++ formatted tools displayName ++
      withValue tools ", " tagline "" ++
      withValue tools ", created by " creator "" ++ .ofString "." ++
      withValue tools " " goal ""]
  else return []

def personalityPart (personality : Json) : Py (List Text) := do
  let traits ← personality.get "traits" (.arr [])
  let style ← personality.get "style" (.ofString "")
  let tone ← personality.get "tone" (.ofString "")
  let humor ← personality.get "humor" (.ofString "")
  if traits.truthy || style.truthy || tone.truthy then
    let joined ← if traits.truthy then joinCommas traits else pure []
    let core := if traits.truthy then
      .ofString "Your core traits are: " ++ joined ++ .ofString "." else []
    return [List.intercalate (Text.ofString " ") ([core,
      withValue tools "Your communication style is " style ".",
      withValue tools "Your tone is " tone ".",
      withValue tools "Your sense of humor: " humor "."].filter (· ≠ []))]
  else return []

def expertisePart (expertise : Json) : Py (List Text) := do
  let areas ← expertise.get "areas" (.arr [])
  let instructions ← expertise.get "instructions" (.arr [])
  let areaPart ← if areas.truthy then do
      pure [.ofString "Your areas of expertise include: " ++ (← joinCommas areas) ++ .ofString "."]
    else pure []
  let instructionPart ← if instructions.truthy then do
      let lines := (← instructions.iterate).map fun item =>
        .ofString "- " ++ formatted tools item
      pure [.ofString "Guidelines:\n" ++ Text.joinLines lines]
    else pure []
  return areaPart ++ instructionPart

/-- `compose_system_prompt_from_json`. -/
def composeSystemPromptFromJson (persona : Json) : Py Text := do
  if persona.truthy then
    let identity ← identityPart tools (← persona.get "identity" (.obj []))
    let personality ← personalityPart tools (← persona.get "personality" (.obj []))
    let expertise ← expertisePart tools (← persona.get "expertise" (.obj []))
    Soul.checkPrompt (List.intercalate [10, 10] (identity ++ personality ++
      expertise ++ [Soul.voiceTranscriptInstruction]))
  else return []

/-- `SoulCacheEntry`. -/
structure SoulCacheEntry where
  blobRef : Option String
  markdown : Text
  composedPrompt : Text
  deriving DecidableEq

/-- `SoulDocumentCache`: one entry for each agent. -/
abbrev SoulDocumentCache := String → Option SoulCacheEntry

/-- `SoulDocumentCache.get`. -/
def SoulDocumentCache.get (cache : SoulDocumentCache) (agentName : String)
    (blobRef : Option String) : Option SoulCacheEntry :=
  (cache agentName).filter fun entry => decide (entry.blobRef = blobRef)

/-- The prompt of the legacy column. -/
def personaPrompt (personaJson : Option String) : Py Text :=
  match personaJson.bind nonEmpty with
  | none => .ok []
  | some text => do
    composeSystemPromptFromJson tools (← tools.loads text)

/-- `_resolve_system_prompt`. -/
def resolveSystemPrompt (cache : SoulDocumentCache) (row : AgentRow) : Py Text :=
  match row.soulDocumentBlobRef.bind nonEmpty with
  | none => personaPrompt tools row.personaJson
  | some blobRef =>
    match cache.get row.name (some blobRef) with
    | some entry => .ok entry.composedPrompt
    | none => personaPrompt tools row.personaJson

end Prompts

/-! ## The other columns -/

section Columns

variable (tools : LoaderTools)

/-- `Complexity`. -/
def complexities : List String := ["trivial", "simple", "moderate", "complex"]

/-- The strings of `tuple(value)`, as pydantic checks them. -/
def textTuple (items : List Json) : Py (List String) := items.mapM textOf

/-- `_build_smart_routing_from_dict`. -/
def buildSmartRoutingFromDict (data : Json) : Py SmartRoutingConfig := do
  let models ← data.get "models" (.obj [])
  let chosen ← complexities.mapM fun level => do
    return (level, ← models.get level .null)
  let commands ← data.get "high_complexity_commands" (.arr [])
  let enabled ← data.get "enabled" (.bool false)
  let historySize ← pyInt tools (← data.get "history_size" (.int 50))
  let commandItems ← commands.iterate
  let routingTable ← (chosen.filter fun entry => entry.2.truthy).mapM
    fun entry => do return (entry.1, ← textOf entry.2)
  let highComplexityCommands ← textTuple commandItems
  return ⟨enabled.truthy, routingTable, historySize, highComplexityCommands⟩

/-- `_build_commands_from_dict`. -/
def buildCommandsFromDict : Json → Py (List (PyStr × CommandConfig))
  | .obj members =>
    members.mapM fun member => do
      let description ← member.2.get "description" (.ofString "")
      let builtin ← member.2.get "builtin" (.bool false)
      let timeout ← member.2.get "timeout" (.float 30)
      return (member.1, ⟨description, builtin.truthy, ← pyFloat tools timeout⟩)
  | _ => .error .attributeError

def commandsOf (commandsJson : Option String) : Py (List (PyStr × CommandConfig)) :=
  match commandsJson.bind nonEmpty with
  | none => .ok []
  | some text => do buildCommandsFromDict tools (← tools.loads text)

/-- `_WORKSPACE_BUILTIN_CONFLICTS`. -/
def workspaceBuiltinConflicts : List String :=
  ["help", "circuit", "routing", "stop", "config", "clear", "new", "workspace",
    "explain", "summarize", "search"]

/-- `Path(raw)`, and the directory that it resolves to. -/
def resolvePath : Json → Py (Option String)
  | .str text => tools.resolveDir text
  | _ => .error .typeError

def resolveWorkspace (key : PyStr) (rawPath : Json) : Py (Option (PyStr × String)) :=
  match key with
  | .text name =>
    if matchesAll isWorkspaceChar name = false ∨ name ∈ workspaceBuiltinConflicts then .ok none
    else do
      return (← resolvePath tools rawPath).map fun path => (key, path)
  | .loneSurrogate _ => .ok none

/-- `_resolve_workspaces_lenient`. -/
def resolveWorkspacesLenient (workspaces : List (PyStr × Json)) :
    Py (List (PyStr × String)) := do
  let resolved ← workspaces.mapM fun member =>
    resolveWorkspace tools member.1 member.2
  return resolved.filterMap id

/-- The members of a mapping in a dictionary display. -/
def mappingOf : Json → Py (List (PyStr × Json))
  | .obj members => .ok members
  | _ => .error .typeError

/-- `{**first, **second}`. -/
def mergeMembers (first second : List (PyStr × Json)) : List (PyStr × Json) :=
  second.foldl (fun merged member => setKey member.1 member.2 merged) first

/-- `_resolve_cwd(row.cwd or overrides.get("cwd"))`. -/
def resolveCwd (cwd : Option String) (overrides : List (PyStr × Json)) : Py (Option String) :=
  match cwd.bind nonEmpty with
  | some raw => tools.resolveDir (.text raw)
  | none =>
    match overrides.lookup (.text "cwd") with
    | none | some .null => .ok none
    | some raw => resolvePath tools raw

def efforts : List String := ["low", "medium", "high", "xhigh", "max"]

/-- The checks of `ModelConfig`. -/
def makeModelConfig (row : AgentRow) (items : List Json)
    (cwd : Option String) : Py ModelConfig := do
  let toolNames ← textTuple items
  if row.backend ∉ validBackends ∨ row.effort.any (fun effort => effort ∉ efforts) = true then
    .error .validationError
  else return {
    backend := row.backend
    model := row.model
    maxTurns := row.maxTurns
    tools := toolNames
    cwd := cwd
    skipPermissions := row.skipPermissions
    streaming := row.streaming
    effort := row.effort }

/-- The patterns; a value that is no object is ignored. -/
def patternsOf (patternsJson : Option String) : Py (List (PyStr × Bool)) :=
  match patternsJson.bind nonEmpty with
  | none => .ok []
  | some text => do
    match ← tools.loads text with
    | .obj members =>
      return members.map fun member => (member.1, member.2.truthy)
    | _ => return []

/-- The pairs of a dictionary, as pydantic checks their keys. -/
def checkKeys {α : Type} (members : List (PyStr × α)) : Py (List (String × α)) :=
  members.mapM fun member => do return (← keyOf member.1, member.2)

/-- `agent_row_to_config`. -/
def agentRowToConfig (cache : SoulDocumentCache)
    (overrides : List (PyStr × Json)) (row : AgentRow) : Py Agent := do
  let toolsData ← loadOr tools row.toolsJson (.arr [])
  let plugins ← loadOr tools row.pluginsJson (.arr [])
  let cwd ← resolveCwd tools row.cwd overrides
  validateBackendModel row.backend row.model
  let llmConfig ← makeModelConfig row (← toolsData.iterate) cwd
  let systemPrompt ← resolveSystemPrompt tools cache row
  let smartRouting ← row.smartRoutingJson.mapM fun text => do
    buildSmartRoutingFromDict tools (← tools.loads text)
  let dbWorkspaces ← loadOr tools row.workspacesJson (.obj [])
  let given ← mappingOf ((overrides.lookup (.text "workspaces")).getD (.obj []))
  let workspaces ← resolveWorkspacesLenient tools (mergeMembers given (← mappingOf dbWorkspaces))
  let memoryNamespace := (row.memoryNamespace.bind nonEmpty).getD row.name
  let voice ← voiceOf tools row.voiceJson
  let permissions ← (← loadOr tools row.permissionsJson (.arr [])).iterate
  let commands ← commandsOf tools row.commandsJson
  let i18nLanguage := validateI18nLanguage (textOr row.fallbackLanguage "en")
  let patterns ← patternsOf tools row.patternsJson
  let passthroughs ← (← loadOr tools row.passthroughsJson (.arr [])).iterate
  let commandsEnabled ← plugins.iterate
  return {
    name := row.name
    systemPrompt := systemPrompt
    memoryNamespace := memoryNamespace
    llmConfig := llmConfig
    permissions := ← textTuple permissions
    commands := ← checkKeys commands
    commandsEnabled := ← textTuple commandsEnabled
    i18nLanguage := i18nLanguage
    smartRouting := smartRouting
    showIntermediate := row.showIntermediate
    workspaces := workspaces
    voice := voice.map (bridgeLanguage i18nLanguage)
    patterns := ← checkKeys patterns
    passthroughs := ← textTuple passthroughs }

end Columns

end Agents

end RoxabiFactory

import RoxabiFactory.AgentLoader

/-!
# Which rows load

A row loads when its backend and its model are valid, its prompt and its voice
settings can be made, and its other columns load.
-/

namespace RoxabiFactory

namespace Agents

/-- What an agent has of the columns that no dashboard request changes. -/
structure Columns where
  cwd : Option String
  tools : List String
  smartRouting : Option SmartRoutingConfig
  workspaces : List (PyStr × String)
  permissions : List String
  commands : List (String × CommandConfig)
  commandsEnabled : List String
  patterns : List (String × Bool)
  passthroughs : List String

section Loads

variable (tools : LoaderTools) (overrides : List (PyStr × Json))

def listColumn (column : Option String) : Py (List String) := do
  let data ← loadOr tools column (.arr [])
  let items ← data.iterate
  textTuple items

def smartRoutingColumn (row : AgentRow) : Py (Option SmartRoutingConfig) :=
  row.smartRoutingJson.mapM fun text => do
    buildSmartRoutingFromDict tools (← tools.loads text)

def workspacesColumn (row : AgentRow) : Py (List (PyStr × String)) := do
  let dbWorkspaces ← loadOr tools row.workspacesJson (.obj [])
  let given ← mappingOf ((overrides.lookup (.text "workspaces")).getD (.obj []))
  let stored ← mappingOf dbWorkspaces
  resolveWorkspacesLenient tools (mergeMembers given stored)

def commandsColumn (row : AgentRow) : Py (List (String × CommandConfig)) := do
  let commands ← commandsOf tools row.commandsJson
  checkKeys commands

def patternsColumn (row : AgentRow) : Py (List (String × Bool)) := do
  let patterns ← patternsOf tools row.patternsJson
  checkKeys patterns

structure LoadsColumns (row : AgentRow) (columns : Columns) : Prop where
  effort : row.effort.any (fun effort => effort ∉ efforts) = false
  cwd : resolveCwd tools row.cwd overrides = .ok columns.cwd
  toolNames : listColumn tools row.toolsJson = .ok columns.tools
  smartRouting : smartRoutingColumn tools row = .ok columns.smartRouting
  workspaces : workspacesColumn tools overrides row = .ok columns.workspaces
  permissions : listColumn tools row.permissionsJson = .ok columns.permissions
  commands : commandsColumn tools row = .ok columns.commands
  commandsEnabled : listColumn tools row.pluginsJson = .ok columns.commandsEnabled
  patterns : patternsColumn tools row = .ok columns.patterns
  passthroughs : listColumn tools row.passthroughsJson = .ok columns.passthroughs

def ValidModel (backend model : String) : Prop :=
  backend ∈ validBackends ∧ matchesAll isModelChar model = true

/-- The agent of a row whose parts are loaded. -/
def assembleAgent (row : AgentRow) (columns : Columns) (systemPrompt : Text)
    (voice : Option AgentVoiceConfig) : Agent where
  name := row.name
  systemPrompt := systemPrompt
  memoryNamespace := (row.memoryNamespace.bind nonEmpty).getD row.name
  llmConfig := ⟨row.backend, row.model, row.maxTurns, columns.tools,
    columns.cwd, row.skipPermissions, row.streaming, row.effort⟩
  permissions := columns.permissions
  commands := columns.commands
  commandsEnabled := columns.commandsEnabled
  i18nLanguage := validateI18nLanguage (textOr row.fallbackLanguage "en")
  smartRouting := columns.smartRouting
  showIntermediate := row.showIntermediate
  workspaces := columns.workspaces
  voice := voice.map (bridgeLanguage (validateI18nLanguage (textOr row.fallbackLanguage "en")))
  patterns := columns.patterns
  passthroughs := columns.passthroughs

end Loads

section Rows

variable {tools : LoaderTools} {overrides : List (PyStr × Json)}
  {cache : SoulDocumentCache} {row : AgentRow} {agent : Agent}

theorem checkSet_obj (members : List (PyStr × Json)) : checkSet (.obj members) = .ok () := by
  have hashed : ∃ keys, (members.map fun member =>
      Json.str member.1).mapM Json.hashKey = .ok keys := by
    induction members with
    | nil => exact ⟨[], rfl⟩
    | cons member members ih =>
      obtain ⟨keys, isKeys⟩ := ih
      refine ⟨.str member.1 :: keys, ?_⟩
      rw [List.map_cons, List.mapM_cons, isKeys]
      rfl
  obtain ⟨keys, isKeys⟩ := hashed
  rw [checkSet, Json.iterate, Py.ok_bind, isKeys]
  rfl

theorem listColumn_eq_ok {column : Option String} {names : List String} :
    listColumn tools column = .ok names ↔ ∃ data items, loadOr tools column (.arr []) = .ok data ∧
        data.iterate = .ok items ∧ textTuple items = .ok names := by
  simp only [listColumn, Py.bind_eq_ok, ← exists_and_left]

theorem workspacesColumn_eq_ok {workspaces : List (PyStr × String)} :
    workspacesColumn tools overrides row = .ok workspaces ↔ ∃ dbWorkspaces given stored,
        loadOr tools row.workspacesJson (.obj []) = .ok dbWorkspaces ∧
        mappingOf ((overrides.lookup (.text "workspaces")).getD (.obj [])) = .ok given ∧
        mappingOf dbWorkspaces = .ok stored ∧
        resolveWorkspacesLenient tools (mergeMembers given stored) =
          .ok workspaces := by
  simp only [workspacesColumn, Py.bind_eq_ok, ← exists_and_left]

/-- The columns that no dashboard request changes are the same. -/
structure SameColumns (row other : AgentRow) : Prop where
  effort : other.effort = row.effort
  cwd : other.cwd = row.cwd
  toolsJson : other.toolsJson = row.toolsJson
  smartRoutingJson : other.smartRoutingJson = row.smartRoutingJson
  workspacesJson : other.workspacesJson = row.workspacesJson
  permissionsJson : other.permissionsJson = row.permissionsJson
  commandsJson : other.commandsJson = row.commandsJson
  pluginsJson : other.pluginsJson = row.pluginsJson
  patternsJson : other.patternsJson = row.patternsJson
  passthroughsJson : other.passthroughsJson = row.passthroughsJson

theorem LoadsColumns.congr {columns : Columns} {other : AgentRow}
    (loads : LoadsColumns tools overrides row columns)
    (same : SameColumns row other) :
    LoadsColumns tools overrides other columns := by
  constructor
  · rw [same.effort]
    exact loads.effort
  · rw [same.cwd]
    exact loads.cwd
  · rw [same.toolsJson]
    exact loads.toolNames
  · rw [smartRoutingColumn, same.smartRoutingJson]
    exact loads.smartRouting
  · rw [workspacesColumn, same.workspacesJson]
    exact loads.workspaces
  · rw [same.permissionsJson]
    exact loads.permissions
  · rw [commandsColumn, same.commandsJson]
    exact loads.commands
  · rw [same.pluginsJson]
    exact loads.commandsEnabled
  · rw [patternsColumn, same.patternsJson]
    exact loads.patterns
  · rw [same.passthroughsJson]
    exact loads.passthroughs

theorem loadsColumns_default (tools : LoaderTools) (same : SameColumns
      { name := "", backend := "", model := "", createdAt := "",
        updatedAt := "" } row) :
    LoadsColumns tools [] row ⟨none, [], none, [], [], [], [], [], []⟩ := by
  have emptyList : listColumn tools "[]" = .ok [] :=
    listColumn_eq_ok.mpr ⟨.arr [], [], tools.loads_emptyList, rfl, rfl⟩
  refine LoadsColumns.congr ?_ same
  exact ⟨rfl, rfl, emptyList, rfl, rfl, emptyList, rfl, emptyList, rfl, rfl⟩

theorem validateBackendModel_eq_ok {backend model : String} :
    validateBackendModel backend model = .ok () ↔ ValidModel backend model := by
  unfold validateBackendModel ValidModel
  by_cases known : backend ∈ validBackends
  · rw [if_neg (not_not.mpr known)]
    by_cases isModel : matchesAll isModelChar model = true
    · simp only [isModel, known, if_true, and_self]
    · rw [if_neg isModel]
      simp only [isModel, and_false, reduceCtorEq, Bool.false_eq_true]
  · rw [if_pos known]
    simp only [known, false_and, reduceCtorEq]

theorem makeModelConfig_eq_ok {items : List Json} {cwd : Option String}
    {config : ModelConfig} (known : row.backend ∈ validBackends) :
    makeModelConfig row items cwd = .ok config ↔ ∃ toolNames, textTuple items = .ok toolNames ∧
        row.effort.any (fun effort => effort ∉ efforts) = false ∧
        config = ⟨row.backend, row.model, row.maxTurns, toolNames, cwd,
          row.skipPermissions, row.streaming, row.effort⟩ := by
  rw [makeModelConfig, Py.bind_eq_ok]
  apply exists_congr
  intro toolNames
  apply and_congr_right
  intro _
  by_cases effort : row.effort.any (fun effort => effort ∉ efforts) = true
  · rw [if_pos (.inr effort), effort]
    simp only [reduceCtorEq, false_and]
  · rw [if_neg (not_or.mpr ⟨not_not.mpr known, effort⟩),
      and_iff_right (Bool.eq_false_of_not_eq_true effort)]
    exact ⟨fun same => (Except.ok.inj same).symm, fun same => by rw [same]; rfl⟩

theorem agentRowToConfig_eq_ok : agentRowToConfig tools cache overrides row = .ok agent ↔
      ∃ columns systemPrompt voice, LoadsColumns tools overrides row columns ∧
        ValidModel row.backend row.model ∧
        resolveSystemPrompt tools cache row = .ok systemPrompt ∧
        voiceOf tools row.voiceJson = .ok voice ∧
        agent = assembleAgent row columns systemPrompt voice := by
  constructor
  · intro loads
    obtain ⟨toolsData, isTools, loads⟩ := Py.bind_eq_ok.mp loads
    obtain ⟨plugins, isPlugins, loads⟩ := Py.bind_eq_ok.mp loads
    obtain ⟨cwd, isCwd, loads⟩ := Py.bind_eq_ok.mp loads
    obtain ⟨_, isValid, loads⟩ := Py.bind_eq_ok.mp loads
    obtain ⟨items, areItems, loads⟩ := Py.bind_eq_ok.mp loads
    obtain ⟨llmConfig, isConfig, loads⟩ := Py.bind_eq_ok.mp loads
    obtain ⟨systemPrompt, isPrompt, loads⟩ := Py.bind_eq_ok.mp loads
    obtain ⟨smartRouting, isRouting, loads⟩ := Py.bind_eq_ok.mp loads
    obtain ⟨dbWorkspaces, isDb, loads⟩ := Py.bind_eq_ok.mp loads
    obtain ⟨given, isGiven, loads⟩ := Py.bind_eq_ok.mp loads
    obtain ⟨stored, isStored, loads⟩ := Py.bind_eq_ok.mp loads
    obtain ⟨workspaces, areWorkspaces, loads⟩ := Py.bind_eq_ok.mp loads
    obtain ⟨voice, isVoice, loads⟩ := Py.bind_eq_ok.mp loads
    obtain ⟨permissionData, isPermissions, loads⟩ := Py.bind_eq_ok.mp loads
    obtain ⟨permissionItems, arePermissions, loads⟩ := Py.bind_eq_ok.mp loads
    obtain ⟨commands, areCommands, loads⟩ := Py.bind_eq_ok.mp loads
    obtain ⟨patterns, arePatterns, loads⟩ := Py.bind_eq_ok.mp loads
    obtain ⟨passthroughData, isPassthroughs, loads⟩ := Py.bind_eq_ok.mp loads
    obtain ⟨passthroughItems, arePassthroughs, loads⟩ := Py.bind_eq_ok.mp loads
    obtain ⟨enabledItems, areEnabled, loads⟩ := Py.bind_eq_ok.mp loads
    obtain ⟨permissions, checkedPermissions, loads⟩ := Py.bind_eq_ok.mp loads
    obtain ⟨checkedCommands, commandKeys, loads⟩ := Py.bind_eq_ok.mp loads
    obtain ⟨commandsEnabled, checkedEnabled, loads⟩ := Py.bind_eq_ok.mp loads
    obtain ⟨checkedPatterns, patternKeys, loads⟩ := Py.bind_eq_ok.mp loads
    obtain ⟨passthroughs, checkedPassthroughs, loads⟩ := Py.bind_eq_ok.mp loads
    have valid := validateBackendModel_eq_ok.mp isValid
    obtain ⟨toolNames, areTools, effort, rfl⟩ := (makeModelConfig_eq_ok valid.1).mp isConfig
    refine ⟨⟨cwd, toolNames, smartRouting, workspaces, permissions,
      checkedCommands, commandsEnabled, checkedPatterns, passthroughs⟩,
      systemPrompt, voice, ?_, valid, isPrompt, isVoice,
      (Except.ok.inj loads).symm⟩
    exact {
      effort := effort
      cwd := isCwd
      toolNames := listColumn_eq_ok.mpr ⟨_, _, isTools, areItems, areTools⟩
      smartRouting := isRouting
      workspaces := workspacesColumn_eq_ok.mpr ⟨_, _, _, isDb, isGiven, isStored, areWorkspaces⟩
      permissions := listColumn_eq_ok.mpr ⟨_, _, isPermissions, arePermissions, checkedPermissions⟩
      commands := Py.bind_eq_ok.mpr ⟨_, areCommands, commandKeys⟩
      commandsEnabled := listColumn_eq_ok.mpr ⟨_, _, isPlugins, areEnabled, checkedEnabled⟩
      patterns := Py.bind_eq_ok.mpr ⟨_, arePatterns, patternKeys⟩
      passthroughs := listColumn_eq_ok.mpr
        ⟨_, _, isPassthroughs, arePassthroughs, checkedPassthroughs⟩ }
  · rintro ⟨columns, systemPrompt, voice, loads, valid, isPrompt, isVoice, rfl⟩
    obtain ⟨toolsData, items, isTools, areItems, areTools⟩ := listColumn_eq_ok.mp loads.toolNames
    obtain ⟨dbWorkspaces, given, stored, isDb, isGiven, isStored,
      areWorkspaces⟩ := workspacesColumn_eq_ok.mp loads.workspaces
    obtain ⟨permissionData, permissionItems, isPermissions, arePermissions,
      checkedPermissions⟩ := listColumn_eq_ok.mp loads.permissions
    obtain ⟨commands, areCommands, commandKeys⟩ := Py.bind_eq_ok.mp loads.commands
    obtain ⟨plugins, enabledItems, isPlugins, areEnabled, checkedEnabled⟩ :=
      listColumn_eq_ok.mp loads.commandsEnabled
    obtain ⟨patterns, arePatterns, patternKeys⟩ := Py.bind_eq_ok.mp loads.patterns
    obtain ⟨passthroughData, passthroughItems, isPassthroughs, arePassthroughs,
      checkedPassthroughs⟩ := listColumn_eq_ok.mp loads.passthroughs
    have isConfig : makeModelConfig row items columns.cwd = .ok _ :=
      (makeModelConfig_eq_ok valid.1).mpr ⟨columns.tools, areTools, loads.effort, rfl⟩
    have isRouting := loads.smartRouting
    rw [smartRoutingColumn] at isRouting
    simp only [agentRowToConfig, isTools, isPlugins, loads.cwd,
      validateBackendModel_eq_ok.mpr valid, areItems, isConfig, isPrompt,
      isRouting, isDb, isGiven, isStored, areWorkspaces, isVoice,
      isPermissions, arePermissions, areCommands, arePatterns, isPassthroughs,
      arePassthroughs, areEnabled, checkedPermissions, commandKeys,
      checkedEnabled, patternKeys, checkedPassthroughs, Py.ok_bind]
    rfl

end Rows

/-- A file system without directories, and a `json` that reads the empty
list. -/
def LoaderTools.plain : LoaderTools where
  loads text :=
    if text = "[]" then .ok (.arr []) else .error (.other "JSONDecodeError")
  loads_emptyList := if_pos rfl
  str _ := .text ""
  intOfText _ := none
  floatOfText _ := none
  roundInt value := value
  laxFloat
    | .float value => some (.finite value)
    | .nonFinite name => some (.nonFinite name)
    | _ => none
  laxInt
    | .int value => some value
    | _ => none
  laxFloat_float _ := rfl
  laxFloat_nonFinite _ := rfl
  laxInt_int _ := rfl
  resolveDir _ := .ok none

end Agents

end RoxabiFactory

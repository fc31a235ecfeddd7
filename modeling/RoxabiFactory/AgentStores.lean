import RoxabiFactory.AgentRows
import RoxabiFactory.OrderedDict

/-!
# The caches of the agent store

`AgentStore` answers from dictionaries that it fills when it connects, and that
each call changes after its statement.  The statement of `upsert` keeps some
columns of the stored row, and some values are read back differently from how
they have been given, so an answer may change when the store is connected
again.  `JsonAgentStore` has the same dictionaries, without the tables.
-/

namespace RoxabiFactory

namespace AgentStores

open Agents

/-- The platform and the identifier of a bot. -/
abbrev Bot := String × String

/-- The members of a settings dictionary. -/
abbrev Settings := List (PyStr × Json)

/-- A row of `bot_agent_map`. -/
structure BotRow where
  agentName : String
  settingsJson : Option JsonText
  updatedAt : String

/-- The tables by their primary keys, with the rows in the order in which they
are selected; a row that is updated keeps its place. -/
structure Database where
  agents : OrderedDict String AgentRow
  bots : OrderedDict Bot BotRow

/-- `_agents`, `_bot_map` and `_bot_settings`. -/
structure Caches where
  agents : OrderedDict String AgentRow
  botMap : OrderedDict Bot String
  botSettings : OrderedDict Bot Json

inductive Call
  | upsert (row : AgentRow)
  | delete (name : String)
  | setBotAgent (bot : Bot) (agentName : String) (settings : Option Settings)
  | setBotSettings (bot : Bot) (settings : Settings)
  | removeBotAgent (bot : Bot)

namespace Caches

variable (caches : Caches)

def get (name : String) : Option AgentRow := caches.agents.lookup name

def getAll : List AgentRow := caches.agents.items.map Prod.snd

def getBotAgent (bot : Bot) : Option String := caches.botMap.lookup bot

def getBotSettings (bot : Bot) : Json := (caches.botSettings.lookup bot).getD (.obj [])

/-- Some bot is assigned to the agent. -/
def isAssigned (name : String) : Bool := caches.botMap.items.any fun item => decide (item.2 = name)

/-- `_agents[row.name] = row`. -/
def assignRow (row : AgentRow) : Caches :=
  { caches with agents := caches.agents.assign row.name row }

/-- `_agents.pop(name, None)`. -/
def popRow (name : String) : Caches := { caches with agents := caches.agents.erase name }

/-- `_bot_settings[bot] = settings`. -/
def assignSettings (bot : Bot) (settings : Settings) : Caches :=
  { caches with botSettings := caches.botSettings.assign bot (.obj settings) }

/-- The dictionaries after `set_bot_agent`. -/
def assignBot (bot : Bot) (agentName : String) (settings : Option Settings) :
    Caches :=
  let mapped := { caches with botMap := caches.botMap.assign bot agentName }
  settings.elim mapped (mapped.assignSettings bot)

/-- The dictionaries after `remove_bot_agent`. -/
def popBot (bot : Bot) : Caches :=
  { caches with
    botMap := caches.botMap.erase bot
    botSettings := caches.botSettings.erase bot }

/-- The same rows without `updated_at`. -/
def undated : Caches := { caches with agents := caches.agents.mapValues (·.cached "") }

/-- Both give the same answers. -/
structure AnswersAs (other : Caches) : Prop where
  get : caches.get = other.get
  getAll : caches.getAll = other.getAll
  getBotAgent : caches.getBotAgent = other.getBotAgent
  getBotSettings : caches.getBotSettings = other.getBotSettings

end Caches

/-! ## `AgentStore` -/

/-- The settings in the column; an empty text is not read, and one that is not
JSON is skipped. -/
def BotRow.settings? (row : BotRow) : Option Json :=
  row.settingsJson.bind fun text => text.loads.toOption

/-- The dictionaries that `_warm_cache` fills. -/
def Database.warmCaches (database : Database) : Caches where
  agents := database.agents.mapValues AgentRow.fromDbRow
  botMap := database.bots.mapValues BotRow.agentName
  botSettings := ((database.bots.mapValues BotRow.settings?).keep Option.isSome).mapValues
      (·.getD (.obj []))

structure AgentStore where
  database : Database
  caches : Caches

/-- `json.dumps(settings) if settings else None`. -/
def settingsRaw (settings : Option Settings) : Option JsonText :=
  (settings.filter fun members => decide (members ≠ [])).map fun members =>
    .document (.obj members)

namespace AgentStore

def connect (database : Database) : AgentStore := ⟨database, database.warmCaches⟩

variable (store : AgentStore)

def upsert (row : AgentRow) (now : String) : AgentStore where
  database :=
    { store.database with
      agents := store.database.agents.assign row.name
        (upsertAgent (store.database.agents.lookup row.name) (row.values now)) }
  caches := store.caches.assignRow (row.cached now)

def delete (name : String) : Py AgentStore :=
  if store.caches.isAssigned name then .error .valueError
  else
    .ok
      { database := { store.database with agents := store.database.agents.erase name }
        caches := store.caches.popRow name }

def setBotAgent (bot : Bot) (agentName : String) (settings : Option Settings)
    (now : String) : AgentStore where
  database :=
    { store.database with
      bots := store.database.bots.assign bot
        { agentName := agentName
          settingsJson := (settingsRaw settings).or
            ((store.database.bots.lookup bot).bind BotRow.settingsJson)
          updatedAt := now } }
  caches := store.caches.assignBot bot agentName settings

def setBotSettings (bot : Bot) (settings : Settings) (now : String) : Py AgentStore :=
  match store.database.bots.lookup bot with
  | none => .error .valueError
  | some row =>
    .ok
      { database :=
          { store.database with
            bots := store.database.bots.assign bot
              { row with
                settingsJson := some (.document (.obj settings))
                updatedAt := now } }
        caches := store.caches.assignSettings bot settings }

def removeBotAgent (bot : Bot) : AgentStore where
  database := { store.database with bots := store.database.bots.erase bot }
  caches := store.caches.popBot bot

def perform (call : Call) (now : String) : Py AgentStore :=
  match call with
  | .upsert row => .ok (store.upsert row now)
  | .delete name => store.delete name
  | .setBotAgent bot agentName settings =>
    .ok (store.setBotAgent bot agentName settings now)
  | .setBotSettings bot settings => store.setBotSettings bot settings now
  | .removeBotAgent bot => .ok (store.removeBotAgent bot)

/-- A call that raises changes nothing. -/
def next (call : Call) (now : String) : AgentStore := (store.perform call now).toOption.getD store

/-- Calls at the given times. -/
def run (calls : List (Call × String)) : AgentStore :=
  calls.foldl (fun store call => store.next call.1 call.2) store

/-- The answers are those of the store after it has been closed and connected
again. -/
def Coherent : Prop := store.caches.AnswersAs (connect store.database).caches

/-- The call gives a row that is read back as it is, with every column that the
cached row has and `upsert` keeps, and no empty settings to a bot that has some. -/
def Keeps : Call → Prop
  | .upsert row =>
    row.IsLoaded ∧ ∀ cached ∈ store.caches.get row.name, row.Rewrites cached
  | .setBotAgent bot _ settings =>
    settings = some [] → store.caches.getBotSettings bot = .obj []
  | .delete _ | .setBotSettings _ _ | .removeBotAgent _ => True

def KeepsAll (store : AgentStore) : List (Call × String) → Prop
  | [] => True
  | call :: calls =>
    store.Keeps call.1 ∧ (store.next call.1 call.2).KeepsAll calls

end AgentStore

/-! ## `JsonAgentStore` -/

namespace JsonAgentStore

variable (store : Caches)

def delete (name : String) : Py Caches :=
  if store.isAssigned name then .error .valueError
  else .ok (store.popRow name)

def setBotSettings (bot : Bot) (settings : Settings) : Py Caches :=
  if bot ∈ store.botMap then .ok (store.assignSettings bot settings)
  else .error .valueError

def perform (call : Call) : Py Caches :=
  match call with
  | .upsert row => .ok (store.assignRow row)
  | .delete name => delete store name
  | .setBotAgent bot agentName settings =>
    .ok (store.assignBot bot agentName settings)
  | .setBotSettings bot settings => setBotSettings store bot settings
  | .removeBotAgent bot => .ok (store.popBot bot)

def next (call : Call) : Caches := (perform store call).toOption.getD store

def run (calls : List (Call × String)) : Caches :=
  calls.foldl (fun store call => next store call.1) store

end JsonAgentStore

/-! ## Reading a row back -/

section Rows

variable {row : AgentRow} {now : String}

/-- An upserted row is read back as it has been given if no column of it has a
second spelling, and none is missing that the stored row has. -/
theorem fromDbRow_upsertAgent_iff (stored : Option AgentRow) :
    (upsertAgent stored (row.values now)).fromDbRow = row.cached now ↔ row.IsLoaded ∧
        ∀ cached ∈ stored.map AgentRow.fromDbRow, row.Rewrites cached := by
  constructor
  · intro readBack
    have loaded : (row.cached now).IsLoaded := readBack ▸ isLoaded_fromDbRow _
    refine ⟨⟨loaded.maxTurns, loaded.permissionsJson, loaded.fallbackLanguage, loaded.effort⟩, ?_⟩
    intro cached member
    obtain ⟨old, rfl, rfl⟩ := Option.map_eq_some_iff.mp member
    exact
      { createdAt := (congrArg AgentRow.createdAt readBack).symm
        personaJson := congrArg AgentRow.personaJson readBack
        voiceJson := congrArg AgentRow.voiceJson readBack
        patternsJson := congrArg AgentRow.patternsJson readBack
        passthroughsJson := congrArg AgentRow.passthroughsJson readBack
        soulMetaJson := congrArg AgentRow.soulMetaJson readBack
        soulDocumentBlobRef := congrArg AgentRow.soulDocumentBlobRef readBack
        soulDocumentBytes := congrArg AgentRow.soulDocumentBytes readBack }
  · rintro ⟨loaded, rewrites⟩
    cases stored with
    | none => exact fromDbRow_values loaded now
    | some old => exact fromDbRow_upsertAgent loaded (rewrites _ rfl) now

end Rows

section Bots

theorem getBotAgent_warmCaches (database : Database) (bot : Bot) :
    database.warmCaches.getBotAgent bot = (database.bots.lookup bot).map BotRow.agentName :=
  OrderedDict.lookup_mapValues _

theorem getBotSettings_warmCaches (database : Database) (bot : Bot) :
    database.warmCaches.getBotSettings bot =
      ((database.bots.lookup bot).bind BotRow.settings?).getD (.obj []) := by
  unfold Caches.getBotSettings Database.warmCaches
  rw [OrderedDict.lookup_mapValues, OrderedDict.lookup_keep, OrderedDict.lookup_mapValues]
  cases database.bots.lookup bot with
  | none => rfl
  | some row =>
    cases read : row.settings? with
    | none => simp only [Option.map_some, Option.filter_some, read,
        Option.isSome_none, Bool.false_eq_true, if_false, Option.map_none,
        Option.bind_some]
    | some settings => simp only [Option.map_some, Option.filter_some, read,
        Option.isSome_some, if_true, Option.bind_some, Option.getD_some]

theorem settings?_setBotAgent (stored : Option BotRow) (agentName now : String)
    (settings : Option Settings) :
    (BotRow.settings?
      { agentName := agentName
        settingsJson := (settingsRaw settings).or (stored.bind BotRow.settingsJson)
        updatedAt := now }) =
      ((settings.filter fun members => decide (members ≠ [])).map Json.obj).or
        (stored.bind BotRow.settings?) := by
  unfold BotRow.settings? settingsRaw
  cases settings.filter fun members => decide (members ≠ []) with
  | none => cases stored <;> rfl
  | some members => rfl

end Bots

/-! ## Connecting again -/

namespace AgentStore

/-- The bots have the agents of the table. -/
def Mapped (store : AgentStore) : Prop :=
  store.caches.getBotAgent = store.database.warmCaches.getBotAgent

/-- The dictionaries are those that would be loaded, up to the order of the
bots. -/
structure Loaded (store : AgentStore) : Prop where
  agents : store.caches.agents = store.database.agents.mapValues AgentRow.fromDbRow
  mapped : store.Mapped
  getBotSettings : store.caches.getBotSettings = store.database.warmCaches.getBotSettings

theorem loaded_connect (database : Database) : (connect database).Loaded := ⟨rfl, rfl, rfl⟩

variable {store : AgentStore}

theorem Loaded.coherent (loaded : store.Loaded) : store.Coherent where
  get := congrArg (fun agents name => AList.lookup name agents) loaded.agents
  getAll := congrArg (fun agents => (OrderedDict.items agents).map Prod.snd) loaded.agents
  getBotAgent := loaded.mapped
  getBotSettings := loaded.getBotSettings

theorem Loaded.upsert_iff (loaded : store.Loaded) (row : AgentRow) (now : String) :
    (upsertAgent (store.database.agents.lookup row.name)
        (row.values now)).fromDbRow = row.cached now ↔
      store.Keeps (.upsert row) := by
  rw [fromDbRow_upsertAgent_iff, ← OrderedDict.lookup_mapValues, ← loaded.agents]
  rfl

theorem Loaded.upsert (loaded : store.Loaded) {row : AgentRow}
    (keeps : store.Keeps (.upsert row)) (now : String) :
    (store.upsert row now).Loaded where
  agents := by
    change store.caches.agents.assign row.name (row.cached now) = _
    refine Eq.trans ?_ (OrderedDict.mapValues_assign _).symm
    rw [(loaded.upsert_iff row now).mpr keeps, ← loaded.agents]
  mapped := loaded.mapped
  getBotSettings := loaded.getBotSettings

theorem Loaded.delete (loaded : store.Loaded) {name : String}
    {after : AgentStore} (deleted : store.delete name = .ok after) :
    after.Loaded := by
  unfold AgentStore.delete at deleted
  split at deleted
  · cases deleted
  · cases deleted
    refine ⟨?_, loaded.mapped, loaded.getBotSettings⟩
    change store.caches.agents.erase name = _
    refine Eq.trans ?_ (OrderedDict.mapValues_erase _).symm
    rw [← loaded.agents]

/-- What the store answers about a bot after `set_bot_agent`. -/
theorem getBotSettings_setBotAgent (store : AgentStore) (bot : Bot)
    (agentName now : String) (settings : Option Settings) :
    (store.setBotAgent bot agentName settings now).caches.getBotSettings bot =
      (settings.map Json.obj).getD (store.caches.getBotSettings bot) := by
  cases settings with
  | none => rfl
  | some members =>
    exact congrArg (Option.getD · _) OrderedDict.lookup_assign

theorem getBotSettings_connect_setBotAgent (store : AgentStore) (bot : Bot)
    (agentName now : String) (settings : Option Settings) :
    (store.setBotAgent bot agentName settings now).database.warmCaches.getBotSettings bot =
      ((settings.filter fun members => decide (members ≠ [])).map
        Json.obj).getD (store.database.warmCaches.getBotSettings bot) := by
  rw [getBotSettings_warmCaches, getBotSettings_warmCaches]
  change (Option.bind (AList.lookup bot (OrderedDict.assign _ bot _)) _).getD _ = _
  rw [OrderedDict.lookup_assign, Option.bind_some, settings?_setBotAgent]
  cases settings.filter fun members => decide (members ≠ []) with
  | none => rfl
  | some members => rfl

theorem Loaded.setBotAgent_iff (loaded : store.Loaded) (bot : Bot)
    (agentName now : String) (settings : Option Settings) :
    (store.setBotAgent bot agentName settings now).caches.getBotSettings bot =
        (store.setBotAgent bot agentName settings now).database.warmCaches.getBotSettings bot ↔
      store.Keeps (.setBotAgent bot agentName settings) := by
  rw [getBotSettings_setBotAgent, getBotSettings_connect_setBotAgent, ← loaded.getBotSettings]
  cases settings with
  | none => exact ⟨fun _ empty => (by cases empty), fun _ => rfl⟩
  | some members =>
    cases members with
    | nil => exact ⟨fun same _ => same.symm, fun keeps => (keeps rfl).symm⟩
    | cons member members =>
      exact ⟨fun _ empty => (by cases empty), fun _ => rfl⟩

theorem Mapped.of_bot {after : AgentStore} (mapped : store.Mapped) (bot : Bot)
    (rows : ∀ other ≠ bot, after.database.bots.lookup other = store.database.bots.lookup other)
    (map : ∀ other ≠ bot, after.caches.botMap.lookup other = store.caches.botMap.lookup other)
    {row : Option BotRow} (stored : after.database.bots.lookup bot = row)
    (getBotAgent : after.caches.getBotAgent bot = row.map BotRow.agentName) :
    after.Mapped := by
  refine funext fun other => ?_
  rw [getBotAgent_warmCaches]
  by_cases same : other = bot
  · rw [same, getBotAgent, stored]
  · rw [rows other same, ← getBotAgent_warmCaches, ← mapped]
    exact map other same

theorem Mapped.setBotAgent (mapped : store.Mapped) (bot : Bot)
    (agentName now : String) (settings : Option Settings) :
    (store.setBotAgent bot agentName settings now).Mapped := by
  refine mapped.of_bot bot (fun _ => OrderedDict.lookup_assign_ne) ?_ OrderedDict.lookup_assign ?_
  · intro other different
    cases settings <;> exact OrderedDict.lookup_assign_ne different
  · cases settings <;> exact OrderedDict.lookup_assign

theorem Mapped.setBotSettings (mapped : store.Mapped) {bot : Bot}
    {settings : Settings} {now : String} {after : AgentStore}
    (updated : store.setBotSettings bot settings now = .ok after) :
    after.Mapped := by
  unfold AgentStore.setBotSettings at updated
  split at updated
  · cases updated
  · rename_i row found
    cases updated
    refine mapped.of_bot bot (fun _ => OrderedDict.lookup_assign_ne)
      (fun _ _ => rfl) OrderedDict.lookup_assign ?_
    change store.caches.getBotAgent bot = some row.agentName
    rw [mapped, getBotAgent_warmCaches, found, Option.map_some]

theorem Mapped.removeBotAgent (mapped : store.Mapped) (bot : Bot) :
    (store.removeBotAgent bot).Mapped :=
  mapped.of_bot bot (fun _ => AList.lookup_erase_ne) (fun _ => AList.lookup_erase_ne)
    (AList.lookup_erase bot store.database.bots)
    (AList.lookup_erase bot store.caches.botMap)

theorem Loaded.of_bot {after : AgentStore} (loaded : store.Loaded) (bot : Bot)
    (agents : after.caches.agents = after.database.agents.mapValues AgentRow.fromDbRow)
    (mapped : after.Mapped)
    (rows : ∀ other ≠ bot, after.database.bots.lookup other = store.database.bots.lookup other)
    (settings : ∀ other ≠ bot, after.caches.botSettings.lookup other =
      store.caches.botSettings.lookup other)
    {row : Option BotRow} (stored : after.database.bots.lookup bot = row)
    (getBotSettings : after.caches.getBotSettings bot =
      (row.bind BotRow.settings?).getD (.obj [])) :
    after.Loaded := by
  refine ⟨agents, mapped, funext fun other => ?_⟩
  rw [getBotSettings_warmCaches]
  by_cases same : other = bot
  · rw [same, getBotSettings, stored]
  · rw [rows other same, ← getBotSettings_warmCaches, ← loaded.getBotSettings]
    exact congrArg (Option.getD · _) (settings other same)

theorem Loaded.setBotAgent (loaded : store.Loaded) {bot : Bot}
    {agentName : String} {settings : Option Settings}
    (keeps : store.Keeps (.setBotAgent bot agentName settings))
    (now : String) :
    (store.setBotAgent bot agentName settings now).Loaded := by
  refine loaded.of_bot bot ?_ (loaded.mapped.setBotAgent bot _ _ _)
    (fun _ => OrderedDict.lookup_assign_ne) ?_ OrderedDict.lookup_assign ?_
  · cases settings <;> exact loaded.agents
  · intro other different
    cases settings with
    | none => rfl
    | some members => exact OrderedDict.lookup_assign_ne different
  · rw [(loaded.setBotAgent_iff bot agentName now settings).mpr keeps, getBotSettings_warmCaches]
    exact congrArg (fun row => (Option.bind row BotRow.settings?).getD (.obj []))
      OrderedDict.lookup_assign

theorem Loaded.setBotSettings (loaded : store.Loaded) {bot : Bot}
    {settings : Settings} {now : String} {after : AgentStore}
    (updated : store.setBotSettings bot settings now = .ok after) :
    after.Loaded := by
  have mapped := loaded.mapped.setBotSettings updated
  unfold AgentStore.setBotSettings at updated
  split at updated
  · cases updated
  · cases updated
    exact loaded.of_bot bot loaded.agents mapped (fun _ => OrderedDict.lookup_assign_ne)
      (fun _ => OrderedDict.lookup_assign_ne) OrderedDict.lookup_assign
      (congrArg (Option.getD · _) OrderedDict.lookup_assign)

theorem Loaded.removeBotAgent (loaded : store.Loaded) (bot : Bot) :
    (store.removeBotAgent bot).Loaded :=
  loaded.of_bot bot loaded.agents (loaded.mapped.removeBotAgent bot)
    (fun _ => AList.lookup_erase_ne) (fun _ => AList.lookup_erase_ne)
    (AList.lookup_erase bot store.database.bots)
    (congrArg (Option.getD · _) (AList.lookup_erase bot store.caches.botSettings))

theorem Loaded.next (loaded : store.Loaded) {call : Call}
    (keeps : store.Keeps call) (now : String) :
    (store.next call now).Loaded := by
  unfold AgentStore.next
  cases performed : store.perform call now with
  | error raised => exact loaded
  | ok after =>
    cases call with
    | upsert row =>
      cases performed
      exact loaded.upsert keeps now
    | delete name => exact loaded.delete performed
    | setBotAgent bot agentName settings =>
      cases performed
      exact loaded.setBotAgent keeps now
    | setBotSettings bot settings => exact loaded.setBotSettings performed
    | removeBotAgent bot =>
      cases performed
      exact loaded.removeBotAgent bot

theorem Loaded.keeps_of_coherent (loaded : store.Loaded) {call : Call}
    {now : String} (coherent : (store.next call now).Coherent) :
    store.Keeps call := by
  cases call with
  | upsert row =>
    refine (loaded.upsert_iff row now).mp ?_
    have answer := congrFun coherent.get row.name
    have cached : (store.next (.upsert row) now).caches.get row.name = some (row.cached now) :=
      OrderedDict.lookup_assign
    have reloaded : (connect (store.next (.upsert row)
        now).database).caches.get row.name = some (upsertAgent
          (store.database.agents.lookup row.name)
          (row.values now)).fromDbRow := by
      refine (OrderedDict.lookup_mapValues _).trans ?_
      exact congrArg (Option.map _) OrderedDict.lookup_assign
    rw [cached, reloaded] at answer
    exact (Option.some.inj answer).symm
  | setBotAgent bot agentName settings =>
    exact (loaded.setBotAgent_iff bot agentName now settings).mp
      (congrFun coherent.getBotSettings bot)
  | delete name => trivial
  | setBotSettings bot settings => trivial
  | removeBotAgent bot => trivial

theorem Loaded.run (loaded : store.Loaded) {calls : List (Call × String)}
    (keeps : store.KeepsAll calls) : (store.run calls).Loaded := by
  induction calls generalizing store with
  | nil => exact loaded
  | cons call calls ih => exact ih (loaded.next keeps.1 call.2) keeps.2

theorem KeepsAll.take {calls : List (Call × String)} (keeps : store.KeepsAll calls) (count : ℕ) :
    store.KeepsAll (calls.take count) := by
  induction calls generalizing store count with
  | nil => rwa [List.take_nil]
  | cons call calls ih =>
    cases count with
    | zero => trivial
    | succ count => exact ⟨keeps.1, ih keeps.2 count⟩

theorem Loaded.keepsAll {calls : List (Call × String)} (loaded : store.Loaded)
    (coherent : ∀ count, (store.run (calls.take count)).Coherent) :
    store.KeepsAll calls := by
  induction calls generalizing store with
  | nil => trivial
  | cons call calls ih =>
    have keeps : store.Keeps call.1 := loaded.keeps_of_coherent (coherent 1)
    exact ⟨keeps, ih (loaded.next keeps call.2) fun count =>
      coherent (count + 1)⟩

end AgentStore

/-! ## Both stores -/

/-- The dictionaries of both stores are the same, but for the times of the rows,
and they have the bots of the table. -/
structure Mirrors (json : Caches) (store : AgentStore) : Prop where
  agents : json.undated.agents = store.caches.undated.agents
  botMap : json.botMap = store.caches.botMap
  botSettings : json.botSettings = store.caches.botSettings
  mapped : store.Mapped

/-- Both calls raise the same, or both leave such stores. -/
def SameOutcome (json : Py Caches) (store : Py AgentStore) : Prop :=
  match json, store with
  | .ok json, .ok store => Mirrors json store
  | .error raised, .error other => raised = other
  | .ok _, .error _ | .error _, .ok _ => False

namespace Mirrors

variable {json : Caches} {store : AgentStore}

theorem answersAs (mirrors : Mirrors json store) : json.undated.AnswersAs store.caches.undated where
  get := congrArg (fun agents name => AList.lookup name agents) mirrors.agents
  getAll := congrArg (fun agents => (OrderedDict.items agents).map Prod.snd) mirrors.agents
  getBotAgent := congrArg (fun bots bot => AList.lookup bot bots) mirrors.botMap
  getBotSettings := congrArg (fun (settings : OrderedDict Bot Json) bot =>
      (settings.lookup bot).getD (.obj [])) mirrors.botSettings

theorem mem_botMap (mirrors : Mirrors json store) (bot : Bot) :
    bot ∈ json.botMap ↔ (store.database.bots.lookup bot).isSome := by
  rw [mirrors.botMap, ← AList.lookup_isSome]
  change (store.caches.getBotAgent bot).isSome ↔ _
  rw [mirrors.mapped, getBotAgent_warmCaches, Option.isSome_map]

theorem upsert (mirrors : Mirrors json store) (row : AgentRow) (now : String) :
    Mirrors (json.assignRow row) (store.upsert row now) where
  agents := by
    refine (OrderedDict.mapValues_assign _).trans
      (Eq.trans ?_ (OrderedDict.mapValues_assign _).symm)
    exact congrArg (OrderedDict.assign · row.name (row.cached "")) mirrors.agents
  botMap := mirrors.botMap
  botSettings := mirrors.botSettings
  mapped := mirrors.mapped

theorem delete (mirrors : Mirrors json store) (name : String) :
    SameOutcome (JsonAgentStore.delete json name) (store.delete name) := by
  have assigned : json.isAssigned name = store.caches.isAssigned name :=
    congrArg (fun bots => (OrderedDict.items bots).any fun item =>
      decide (item.2 = name)) mirrors.botMap
  unfold JsonAgentStore.delete AgentStore.delete
  rw [assigned]
  split
  · rfl
  · refine ⟨?_, mirrors.botMap, mirrors.botSettings, mirrors.mapped⟩
    refine (OrderedDict.mapValues_erase _).trans (Eq.trans ?_ (OrderedDict.mapValues_erase _).symm)
    exact congrArg (AList.erase name) mirrors.agents

theorem setBotAgent (mirrors : Mirrors json store) (bot : Bot)
    (agentName now : String) (settings : Option Settings) :
    Mirrors (json.assignBot bot agentName settings)
      (store.setBotAgent bot agentName settings now) := by
  have botMap := congrArg (OrderedDict.assign · bot agentName) mirrors.botMap
  have mapped := mirrors.mapped.setBotAgent bot agentName now settings
  cases settings with
  | none => exact ⟨mirrors.agents, botMap, mirrors.botSettings, mapped⟩
  | some members =>
    exact ⟨mirrors.agents, botMap,
      congrArg (OrderedDict.assign · bot (Json.obj members)) mirrors.botSettings,
      mapped⟩

theorem setBotSettings (mirrors : Mirrors json store) (bot : Bot)
    (settings : Settings) (now : String) :
    SameOutcome (JsonAgentStore.setBotSettings json bot settings)
      (store.setBotSettings bot settings now) := by
  have present := mirrors.mem_botMap bot
  cases updated : store.setBotSettings bot settings now with
  | error raised =>
    unfold AgentStore.setBotSettings at updated
    split at updated
    · rename_i absent
      cases updated
      unfold JsonAgentStore.setBotSettings
      rw [if_neg (by rw [present, absent]; decide)]
      rfl
    · cases updated
  | ok after =>
    have mapped := mirrors.mapped.setBotSettings updated
    unfold AgentStore.setBotSettings at updated
    split at updated
    · cases updated
    · rename_i row found
      cases updated
      unfold JsonAgentStore.setBotSettings
      rw [if_pos (by rw [present, found]; rfl)]
      exact ⟨mirrors.agents, mirrors.botMap,
        congrArg (OrderedDict.assign · bot (Json.obj settings)) mirrors.botSettings, mapped⟩

theorem removeBotAgent (mirrors : Mirrors json store) (bot : Bot) :
    Mirrors (json.popBot bot) (store.removeBotAgent bot) where
  agents := mirrors.agents
  botMap := congrArg (AList.erase bot) mirrors.botMap
  botSettings := congrArg (AList.erase bot) mirrors.botSettings
  mapped := mirrors.mapped.removeBotAgent bot

theorem perform (mirrors : Mirrors json store) (call : Call) (now : String) :
    SameOutcome (JsonAgentStore.perform json call) (store.perform call now) := by
  cases call with
  | upsert row => exact mirrors.upsert row now
  | delete name => exact mirrors.delete name
  | setBotAgent bot agentName settings =>
    exact mirrors.setBotAgent bot agentName now settings
  | setBotSettings bot settings => exact mirrors.setBotSettings bot settings now
  | removeBotAgent bot => exact mirrors.removeBotAgent bot

theorem next (mirrors : Mirrors json store) (call : Call) (now : String) :
    Mirrors (JsonAgentStore.next json call) (store.next call now) := by
  have outcome := mirrors.perform call now
  unfold JsonAgentStore.next AgentStore.next
  cases json : JsonAgentStore.perform json call <;>
    cases stored : store.perform call now <;> rw [json, stored] at outcome
  · exact mirrors
  · exact outcome.elim
  · exact outcome.elim
  · exact outcome

theorem run (mirrors : Mirrors json store) (calls : List (Call × String)) :
    Mirrors (JsonAgentStore.run json calls) (store.run calls) := by
  induction calls generalizing json store with
  | nil => exact mirrors
  | cons call calls ih => exact ih (mirrors.next call.1 call.2)

theorem connect (database : Database) : Mirrors database.warmCaches (AgentStore.connect database) :=
  ⟨rfl, rfl, rfl, rfl⟩

end Mirrors

/-- After each call both stores answer as the connected one answers, exactly if
every call keeps what is stored. -/
theorem coherent_iff_keepsAll (database : Database) (calls : List (Call × String)) : (∀ count,
      ((AgentStore.connect database).run (calls.take count)).Coherent ∧
        (JsonAgentStore.run database.warmCaches (calls.take count)).undated.AnswersAs
            ((AgentStore.connect database).run (calls.take count)).caches.undated) ↔
      (AgentStore.connect database).KeepsAll calls := by
  have loaded := AgentStore.loaded_connect database
  constructor
  · intro answers
    exact loaded.keepsAll fun count => (answers count).1
  · intro keeps count
    exact ⟨(loaded.run (keeps.take count)).coherent,
      ((Mirrors.connect database).run (calls.take count)).answersAs⟩

section Example

/-- A row with the given persona. -/
def exampleRow (personaJson : Option String) : AgentRow where
  name := "lyra"
  backend := "claude-cli"
  model := "opus"
  personaJson := personaJson
  createdAt := "2026-01-01T00:00:00+00:00"
  updatedAt := "2026-01-01T00:00:00+00:00"

/-- The persona that is no longer given is back when the store is connected
again. -/
theorem exists_persona_returns : ¬ ∀ (database : Database) (calls : List (Call × String)),
      ((AgentStore.connect database).run calls).Coherent := by
  intro coherent
  have answers := congrFun (coherent ⟨∅, ∅⟩
    [(.upsert (exampleRow (some "calm")), "2026-01-01T00:00:01+00:00"),
      (.upsert (exampleRow none), "2026-01-01T00:00:02+00:00")]).get "lyra"
  exact absurd answers (by decide)

end Example

end AgentStores

end RoxabiFactory

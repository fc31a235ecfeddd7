import RoxabiFactory.PythonValues

/-!
# The rows of agents

The dashboard creates an agent, patches some of its settings, or replaces its
soul document.  Each request makes a whole row, with what it does not set
copied from the row that it has read, and the row is written over the stored
one.
-/

namespace RoxabiFactory

namespace Agents

/-- The text of a JSON column, as `json.loads` reads it. -/
inductive JsonText
  | document (value : Json)
  | malformed (text : String)
  deriving DecidableEq

def JsonText.loads : JsonText → Py Json
  | .document value => .ok value
  | .malformed _ => .error (.other "JSONDecodeError")

/-- `column or default`. -/
def JsonText.getOr (column : Option JsonText) (default : JsonText) : JsonText :=
  match column with
  | none => default
  | some text => if text = .malformed "" then default else text

inductive HarnessKind
  | claudeCli
  | ompRpc
  deriving DecidableEq

def HarnessKind.value : HarnessKind → String
  | .claudeCli => "claude-cli"
  | .ompRpc => "omp-rpc"

/-- `AgentRow`. -/
structure AgentRow where
  name : String
  backend : String
  model : String
  maxTurns : Option ℕ := none
  toolsJson : String := "[]"
  showIntermediate : Bool := false
  smartRoutingJson : Option String := none
  pluginsJson : String := "[]"
  memoryNamespace : Option String := none
  cwd : Option String := none
  skipPermissions : Bool := false
  permissionsJson : String := "[]"
  workspacesJson : Option String := none
  commandsJson : Option String := none
  streaming : Bool := false
  personaJson : Option String := none
  voiceJson : Option JsonText := none
  fallbackLanguage : String := "en"
  patternsJson : Option String := none
  passthroughsJson : Option String := none
  source : String := "db"
  createdAt : String
  updatedAt : String
  effort : Option String := none
  soulMetaJson : Option JsonText := none
  soulDocumentBlobRef : Option String := none
  soulDocumentBytes : Option ℕ := none
  deriving DecidableEq

/-- `text or default`. -/
def textOr (text default : String) : String :=
  if text = "" then default else text

def nonEmpty (text : String) : Option String :=
  if text = "" then none else some text

/-- `AgentRow.from_db_row`; the table has the same columns, with 0 for no limit
of turns. -/
def AgentRow.fromDbRow (row : AgentRow) : AgentRow :=
  { row with
    maxTurns := row.maxTurns.filter fun turns => decide (turns ≠ 0)
    permissionsJson := textOr row.permissionsJson "[]"
    fallbackLanguage := textOr row.fallbackLanguage "en"
    effort := row.effort.bind nonEmpty }

/-- The values that `upsert` gives to its statement. -/
def AgentRow.values (row : AgentRow) (now : String) : AgentRow :=
  { row with
    maxTurns := some (row.maxTurns.getD 0)
    updatedAt := now }

/-- `_UPSERT_AGENT`, with the row of the table that has the same name. -/
def upsertAgent (stored : Option AgentRow) (excluded : AgentRow) : AgentRow :=
  match stored with
  | none => excluded
  | some row =>
    { excluded with
      createdAt := row.createdAt
      personaJson := excluded.personaJson.or row.personaJson
      voiceJson := excluded.voiceJson.or row.voiceJson
      patternsJson := excluded.patternsJson.or row.patternsJson
      passthroughsJson := excluded.passthroughsJson.or row.passthroughsJson
      soulMetaJson := excluded.soulMetaJson.or row.soulMetaJson
      soulDocumentBlobRef := excluded.soulDocumentBlobRef.or row.soulDocumentBlobRef
      soulDocumentBytes := excluded.soulDocumentBytes.or row.soulDocumentBytes }

/-- The row that `upsert` puts into the cache. -/
def AgentRow.cached (row : AgentRow) (now : String) : AgentRow := { row with updatedAt := now }

/-! ## The soul envelope -/

/-- `members[key] = value`. -/
def setKey (key : PyStr) (value : Json) : List (PyStr × Json) → List (PyStr × Json)
  | [] => [(key, value)]
  | (name, old) :: rest =>
    if key = name then (name, value) :: rest
    else (name, old) :: setKey key value rest

/-- `meta.setdefault("header", {})[key] = value`. -/
def setHeader (key value : String) : Json → Py Json
  | .obj members =>
    match (members.lookup (.text "header")).getD (.obj []) with
    | .obj header =>
      .ok (.obj (setKey (.text "header")
        (.obj (setKey (.text key) (.ofString value) header)) members))
    | _ => .error .typeError
  | _ => .error .attributeError

/-- `default_soul_meta_json`. -/
def defaultSoulMeta (displayName : String) : Json := .obj [(.text "schema_version", .int 1),
      (.text "header", .obj [(.text "display_name", .ofString displayName),
        (.text "tagline", .ofString "")]),
      (.text "memory", .obj [(.text "enabled", .bool false),
        (.text "namespace", .null), (.text "source", .ofString "cortex"),
        (.text "sync_mode", .ofString "none")]),
      (.text "extensions", .obj [(.text "cortex", .obj [(.text "entity_slug", .null),
          (.text "sync_mode", .ofString "none")])])]

/-- `row.soul_meta_json or default_soul_meta_json()`. -/
def AgentRow.soulMeta (row : AgentRow) : JsonText :=
  JsonText.getOr row.soulMetaJson (.document (defaultSoulMeta ""))

/-! ## Requests -/

/-- `DashboardAgentCreateRequest`. -/
structure CreateRequest where
  name : String
  backend : HarnessKind := .claudeCli
  model : String
  displayName : String := ""
  tagline : String := ""
  deriving DecidableEq

/-- `DashboardAgentPatchRequest`. -/
structure PatchRequest where
  backend : Option HarnessKind := none
  model : Option String := none
  voiceJson : Option (List (PyStr × Json)) := none
  displayName : Option String := none
  tagline : Option String := none
  deriving DecidableEq

/-- A member of the header, if the request has one. -/
def setHeader? (key : String) (value : Option String) (soulMeta : Json) : Py Json :=
  match value with
  | none => .ok soulMeta
  | some value => setHeader key value soulMeta

/-- The row of `handle_agents_create`. -/
def createRow (request : CreateRequest) (now : String) : Py AgentRow := do
  let soulMeta ← setHeader? "tagline" (nonEmpty request.tagline)
    (defaultSoulMeta request.displayName)
  return {
    name := request.name
    backend := request.backend.value
    model := request.model
    soulMetaJson := some (.document soulMeta)
    source := "dashboard"
    createdAt := now
    updatedAt := now }

/-- The row of `handle_agents_patch`. -/
def patchRow (request : PatchRequest) (row : AgentRow) (now : String) :
    Py AgentRow := do
  let soulMeta ← row.soulMeta.loads
  let named ← setHeader? "display_name" request.displayName soulMeta
  let headed ← setHeader? "tagline" request.tagline named
  return { row with
    backend := (request.backend.map HarnessKind.value).getD row.backend
    model := (request.model.bind nonEmpty).getD row.model
    voiceJson := (request.voiceJson.map (.document <| .obj ·)).or row.voiceJson
    updatedAt := now
    soulMetaJson := some (.document headed) }

/-- The row of `put_soul_document`. -/
def soulRow (storeKey : String) (bytes : ℕ) (row : AgentRow) (now : String) :
    AgentRow :=
  { row with
    updatedAt := now
    soulMetaJson := some row.soulMeta
    soulDocumentBlobRef := some storeKey
    soulDocumentBytes := some bytes }

/-! ## The fields of a row -/

/-- A field, with the type of its values.  The soul envelope counts as its
members, and its header as members of its own. -/
inductive Field : Type → Type
  | backend : Field String
  | model : Field String
  | maxTurns : Field (Option ℕ)
  | toolsJson : Field String
  | showIntermediate : Field Bool
  | smartRoutingJson : Field (Option String)
  | pluginsJson : Field String
  | memoryNamespace : Field (Option String)
  | cwd : Field (Option String)
  | skipPermissions : Field Bool
  | permissionsJson : Field String
  | workspacesJson : Field (Option String)
  | commandsJson : Field (Option String)
  | streaming : Field Bool
  | personaJson : Field (Option String)
  | voiceJson : Field (Option JsonText)
  | fallbackLanguage : Field String
  | patternsJson : Field (Option String)
  | passthroughsJson : Field (Option String)
  | source : Field String
  | createdAt : Field String
  | updatedAt : Field String
  | effort : Field (Option String)
  | soulMeta (key : PyStr) (apart : key ≠ .text "header") : Field (Option Json)
  | soulHeader (key : PyStr) : Field (Option Json)
  | soulDocumentBlobRef : Field (Option String)
  | soulDocumentBytes : Field (Option ℕ)

def membersOf : Json → List (PyStr × Json)
  | .obj members => members
  | _ => []

def JsonText.members : JsonText → List (PyStr × Json)
  | .document value => membersOf value
  | .malformed _ => []

def headerOf (members : List (PyStr × Json)) : List (PyStr × Json) :=
  membersOf ((members.lookup (.text "header")).getD .null)

def AgentRow.get (row : AgentRow) : {α : Type} → Field α → α
  | _, .backend => row.backend
  | _, .model => row.model
  | _, .maxTurns => row.maxTurns
  | _, .toolsJson => row.toolsJson
  | _, .showIntermediate => row.showIntermediate
  | _, .smartRoutingJson => row.smartRoutingJson
  | _, .pluginsJson => row.pluginsJson
  | _, .memoryNamespace => row.memoryNamespace
  | _, .cwd => row.cwd
  | _, .skipPermissions => row.skipPermissions
  | _, .permissionsJson => row.permissionsJson
  | _, .workspacesJson => row.workspacesJson
  | _, .commandsJson => row.commandsJson
  | _, .streaming => row.streaming
  | _, .personaJson => row.personaJson
  | _, .voiceJson => row.voiceJson
  | _, .fallbackLanguage => row.fallbackLanguage
  | _, .patternsJson => row.patternsJson
  | _, .passthroughsJson => row.passthroughsJson
  | _, .source => row.source
  | _, .createdAt => row.createdAt
  | _, .updatedAt => row.updatedAt
  | _, .effort => row.effort
  | _, .soulMeta key _ => row.soulMeta.members.lookup key
  | _, .soulHeader key => (headerOf row.soulMeta.members).lookup key
  | _, .soulDocumentBlobRef => row.soulDocumentBlobRef
  | _, .soulDocumentBytes => row.soulDocumentBytes

def PatchRequest.sets (request : PatchRequest) (now : String) : {α : Type} → Field α → Option α
  | _, .backend => request.backend.map HarnessKind.value
  | _, .model => request.model.bind nonEmpty
  | _, .voiceJson => request.voiceJson.map fun members =>
    some (.document (.obj members))
  | _, .updatedAt => some now
  | _, .soulHeader key =>
    if key = .text "tagline" then
      request.tagline.map fun tagline => some (.ofString tagline)
    else if key = .text "display_name" then
      request.displayName.map fun displayName => some (.ofString displayName)
    else none
  | _, _ => none

def soulSets (storeKey : String) (bytes : ℕ) (now : String) : {α : Type} → Field α → Option α
  | _, .updatedAt => some now
  | _, .soulDocumentBlobRef => some (some storeKey)
  | _, .soulDocumentBytes => some (some bytes)
  | _, _ => none

section Rows

variable {α : Type} {row updated : AgentRow}

theorem lookup_cons_eq (name key : PyStr) (value : Json) (rest : List (PyStr × Json)) :
    ((name, value) :: rest).lookup key =
      if key = name then some value else rest.lookup key := by
  by_cases same : key = name
  · rw [if_pos same, same, List.lookup_cons, beq_self_eq_true]
  · rw [if_neg same, List.lookup_cons, beq_false_of_ne same]

theorem lookup_setKey (key other : PyStr) (value : Json) (members : List (PyStr × Json)) :
    (setKey key value members).lookup other =
      if other = key then some value else members.lookup other := by
  induction members with
  | nil => exact lookup_cons_eq key other value []
  | cons member rest ih =>
    obtain ⟨name, old⟩ := member
    rw [setKey]
    by_cases found : key = name
    · rw [if_pos found, lookup_cons_eq, lookup_cons_eq, ← found]
      by_cases same : other = key
      · rw [if_pos same, if_pos same]
      · rw [if_neg same, if_neg same, if_neg same]
    · rw [if_neg found, lookup_cons_eq, lookup_cons_eq, ih]
      by_cases named : other = name
      · have differs : other ≠ key := fun same => found (same.symm.trans named)
        rw [if_pos named, if_pos named, if_neg differs]
      · rw [if_neg named, if_neg named]

theorem setHeader_eq_ok {key value : String} {soulMeta changed : Json}
    (set : setHeader key value soulMeta = .ok changed) :
    ∃ members header, membersOf soulMeta = members ∧ headerOf members = header ∧
      changed = .obj (setKey (.text "header")
        (.obj (setKey (.text key) (.ofString value) header)) members) := by
  unfold setHeader at set
  cases soulMeta with
  | obj members =>
    simp only at set
    cases found : members.lookup (.text "header") with
    | none =>
      simp only [found, Option.getD_none] at set
      refine ⟨members, [], rfl, ?_, (Except.ok.inj set).symm⟩
      rw [headerOf, found]
      rfl
    | some value =>
      simp only [found, Option.getD_some] at set
      cases value with
      | obj header =>
        refine ⟨members, header, rfl, ?_, (Except.ok.inj set).symm⟩
        rw [headerOf, found]
        rfl
      | null => cases set
      | bool _ => cases set
      | int _ => cases set
      | float _ => cases set
      | nonFinite _ => cases set
      | str _ => cases set
      | arr _ => cases set
  | null => cases set
  | bool _ => cases set
  | int _ => cases set
  | float _ => cases set
  | nonFinite _ => cases set
  | str _ => cases set
  | arr _ => cases set

theorem lookup_of_setHeader? {key : String} {value : Option String} {soulMeta changed : Json}
    (set : setHeader? key value soulMeta = .ok changed) {other : PyStr}
    (apart : other ≠ .text "header") :
    (membersOf changed).lookup other = (membersOf soulMeta).lookup other := by
  cases value with
  | none =>
    cases set
    rfl
  | some value =>
    obtain ⟨members, header, rfl, -, rfl⟩ := setHeader_eq_ok set
    exact (lookup_setKey _ _ _ _).trans (if_neg apart)

theorem header_of_setHeader? {key : String} {value : Option String} {soulMeta changed : Json}
    (set : setHeader? key value soulMeta = .ok changed) (other : PyStr) :
    (headerOf (membersOf changed)).lookup other =
      (if other = .text key then value.map fun text => some (.ofString text)
        else none).getD ((headerOf (membersOf soulMeta)).lookup other) := by
  cases value with
  | none =>
    cases set
    rw [Option.map_none, ite_self]
    rfl
  | some value =>
    obtain ⟨members, header, rfl, rfl, rfl⟩ := setHeader_eq_ok set
    rw [headerOf, membersOf, lookup_setKey, if_pos rfl, Option.getD_some, membersOf, lookup_setKey]
    by_cases same : other = .text key
    · rw [if_pos same, if_pos same]
      rfl
    · rw [if_neg same, if_neg same]
      rfl

theorem getOr_ne_empty (column : Option JsonText) (value : Json) :
    JsonText.getOr column (.document value) ≠ .malformed "" := by
  cases column with
  | none => exact JsonText.noConfusion
  | some text =>
    rw [JsonText.getOr]
    by_cases empty : text = .malformed ""
    · rw [if_pos empty]
      exact JsonText.noConfusion
    · rw [if_neg empty]
      exact empty

theorem getOr_soulMeta (row : AgentRow) (default : JsonText) :
    JsonText.getOr (some row.soulMeta) default = row.soulMeta :=
  if_neg (getOr_ne_empty _ _)

theorem eq_document_of_loads {text : JsonText} {value : Json}
    (loaded : text.loads = .ok value) : text = .document value := by
  cases text with
  | document other => rw [Except.ok.inj loaded]
  | malformed text => cases loaded

theorem patchRow_eq_ok {request : PatchRequest} {now : String}
    (patched : patchRow request row now = .ok updated) :
    ∃ soulMeta named headed, row.soulMeta = .document soulMeta ∧
      setHeader? "display_name" request.displayName soulMeta = .ok named ∧
      setHeader? "tagline" request.tagline named = .ok headed ∧
      updated = { row with
        backend := (request.backend.map HarnessKind.value).getD row.backend
        model := (request.model.bind nonEmpty).getD row.model
        voiceJson := (request.voiceJson.map (.document <| .obj ·)).or row.voiceJson
        updatedAt := now
        soulMetaJson := some (.document headed) } := by
  unfold patchRow at patched
  obtain ⟨soulMeta, loaded, rest⟩ := Py.bind_eq_ok.1 patched
  obtain ⟨named, display, rest⟩ := Py.bind_eq_ok.1 rest
  obtain ⟨headed, tagline, rest⟩ := Py.bind_eq_ok.1 rest
  exact ⟨soulMeta, named, headed, eq_document_of_loads loaded, display, tagline,
    (Except.ok.inj rest).symm⟩

theorem get_patchRow {request : PatchRequest} {now : String}
    (patched : patchRow request row now = .ok updated) (field : Field α) :
    updated.get field = (request.sets now field).getD (row.get field) := by
  obtain ⟨soulMeta, named, headed, envelope, display, tagline, rfl⟩ := patchRow_eq_ok patched
  cases field with
  | voiceJson =>
    change (request.voiceJson.map _).or row.voiceJson = _
    rw [PatchRequest.sets, AgentRow.get]
    cases request.voiceJson <;> rfl
  | soulMeta key apart =>
    change (membersOf headed).lookup key = row.soulMeta.members.lookup key
    rw [lookup_of_setHeader? tagline apart, lookup_of_setHeader? display apart, envelope]
    rfl
  | soulHeader key =>
    change (headerOf (membersOf headed)).lookup key = (request.sets now (.soulHeader key)).getD
        ((headerOf row.soulMeta.members).lookup key)
    rw [header_of_setHeader? tagline, header_of_setHeader? display, envelope, PatchRequest.sets]
    by_cases last : key = .text "tagline"
    · have other : ¬ key = .text "display_name" := by
        rw [last]
        decide
      rw [if_pos last, if_pos last, if_neg other]
      rfl
    · rw [if_neg last, if_neg last]
      rfl
  | _ => rfl

theorem get_soulRow (storeKey : String) (bytes : ℕ) (row : AgentRow)
    (now : String) (field : Field α) :
    (soulRow storeKey bytes row now).get field =
      (soulSets storeKey bytes now field).getD (row.get field) := by
  cases field with
  | soulMeta key apart =>
    change (JsonText.getOr (some row.soulMeta) _).members.lookup key = _
    rw [getOr_soulMeta]
    rfl
  | soulHeader key =>
    change (headerOf (JsonText.getOr (some row.soulMeta) _).members).lookup key = _
    rw [getOr_soulMeta]
    rfl
  | _ => rfl

/-! ## Writing a row -/

/-- A row that `from_db_row` leaves alone. -/
structure AgentRow.IsLoaded (row : AgentRow) : Prop where
  maxTurns : row.maxTurns ≠ some 0
  permissionsJson : row.permissionsJson ≠ ""
  fallbackLanguage : row.fallbackLanguage ≠ ""
  effort : row.effort ≠ some ""

theorem textOr_ne_empty (text : String) {default : String}
    (nonempty : default ≠ "") : textOr text default ≠ "" := by
  unfold textOr
  by_cases empty : text = ""
  · rw [if_pos empty]
    exact nonempty
  · rw [if_neg empty]
    exact empty

theorem isLoaded_fromDbRow (row : AgentRow) : row.fromDbRow.IsLoaded where
  maxTurns same := by
    have kept := (Option.filter_eq_some_iff.1 same).2
    exact absurd rfl (of_decide_eq_true kept)
  permissionsJson := textOr_ne_empty row.permissionsJson (by decide)
  fallbackLanguage := textOr_ne_empty row.fallbackLanguage (by decide)
  effort same := by
    obtain ⟨text, -, kept⟩ := Option.bind_eq_some_iff.1 same
    unfold nonEmpty at kept
    split at kept
    · cases kept
    · rename_i nonempty
      exact nonempty (Option.some.inj kept)

/-- The row is written over one with the same creation, whose other columns it
has where `upsert` would keep them. -/
structure AgentRow.Rewrites (updated row : AgentRow) : Prop where
  createdAt : updated.createdAt = row.createdAt
  personaJson : updated.personaJson.or row.personaJson = updated.personaJson
  voiceJson : updated.voiceJson.or row.voiceJson = updated.voiceJson
  patternsJson : updated.patternsJson.or row.patternsJson = updated.patternsJson
  passthroughsJson : updated.passthroughsJson.or row.passthroughsJson = updated.passthroughsJson
  soulMetaJson : updated.soulMetaJson.or row.soulMetaJson = updated.soulMetaJson
  soulDocumentBlobRef : updated.soulDocumentBlobRef.or row.soulDocumentBlobRef =
      updated.soulDocumentBlobRef
  soulDocumentBytes : updated.soulDocumentBytes.or row.soulDocumentBytes = updated.soulDocumentBytes

theorem fromDbRow_values (loaded : row.IsLoaded) (now : String) :
    (row.values now).fromDbRow = row.cached now := by
  have turns : (some (row.maxTurns.getD 0)).filter
      (fun turns => decide (turns ≠ 0)) = row.maxTurns := by
    cases limit : row.maxTurns with
    | none => rfl
    | some turns =>
      have positive : turns ≠ 0 := fun zero =>
        loaded.maxTurns (limit.trans (congrArg some zero))
      rw [Option.getD_some, Option.filter_some, if_pos (decide_eq_true positive)]
  have effort : row.effort.bind nonEmpty = row.effort := by
    cases given : row.effort with
    | none => rfl
    | some effort =>
      exact if_neg fun empty => loaded.effort (given.trans (congrArg some empty))
  unfold AgentRow.values AgentRow.fromDbRow AgentRow.cached
  simp only [AgentRow.mk.injEq, true_and, and_true]
  exact ⟨turns, if_neg loaded.permissionsJson, if_neg loaded.fallbackLanguage, effort⟩

theorem fromDbRow_upsertAgent {stored : AgentRow} (loaded : updated.IsLoaded)
    (rewrites : updated.Rewrites stored.fromDbRow) (now : String) :
    (upsertAgent (some stored) (updated.values now)).fromDbRow =
      updated.cached now := by
  have same : upsertAgent (some stored) (updated.values now) =
      updated.values now := by
    unfold upsertAgent AgentRow.values
    simp only [AgentRow.mk.injEq, true_and]
    exact ⟨rewrites.personaJson, rewrites.voiceJson, rewrites.patternsJson,
      rewrites.passthroughsJson, rewrites.createdAt.symm, rewrites.soulMetaJson,
      rewrites.soulDocumentBlobRef, rewrites.soulDocumentBytes⟩
  rw [same, fromDbRow_values loaded]

theorem IsLoaded.patchRow {request : PatchRequest} {now : String}
    (loaded : row.IsLoaded) (patched : patchRow request row now = .ok updated) :
    updated.IsLoaded := by
  obtain ⟨soulMeta, named, headed, -, -, -, rfl⟩ := patchRow_eq_ok patched
  exact ⟨loaded.maxTurns, loaded.permissionsJson, loaded.fallbackLanguage, loaded.effort⟩

theorem rewrites_patchRow {request : PatchRequest} {now : String}
    (patched : patchRow request row now = .ok updated) :
    updated.Rewrites row := by
  obtain ⟨soulMeta, named, headed, -, -, -, rfl⟩ := patchRow_eq_ok patched
  constructor
  · rfl
  · exact Option.or_self
  · change ((request.voiceJson.map _).or row.voiceJson).or row.voiceJson = _
    rw [Option.or_assoc, Option.or_self]
  · exact Option.or_self
  · exact Option.or_self
  · rfl
  · exact Option.or_self
  · exact Option.or_self

theorem rewrites_soulRow (storeKey : String) (bytes : ℕ) (row : AgentRow)
    (now : String) : (soulRow storeKey bytes row now).Rewrites row := by
  constructor
  · rfl
  · exact Option.or_self
  · exact Option.or_self
  · exact Option.or_self
  · exact Option.or_self
  · rfl
  · rfl
  · rfl

end Rows

end Agents

end RoxabiFactory

import RoxabiFactory.CommandRouter

/-!
# Events that are made of webhooks

A connector maps the headers and the payload of a webhook to the kind, the
level, the message and a summary of the payload; `LyraEvent` validates the
event.  What the functions use of the library is a parameter.
-/

namespace RoxabiFactory

namespace PyStr

/-- `text.replace(old, new)` for each of the old characters. -/
def replaceChars (olds : List Char) (new : Char) : PyStr → PyStr
  | .text characters =>
    .text (String.ofList (characters.toList.map fun character =>
      if character ∈ olds then new else character))
  | .loneSurrogate codePoints =>
    .loneSurrogate (codePoints.map fun codePoint =>
      if codePoint ∈ olds.map Char.toNat then new.toNat else codePoint)

/-- `text.endswith(ending)`. -/
def endsWith (text : PyStr) (ending : String) : Bool :=
  decide (ending.toList.map Char.toNat <:+ text.codePoints)

end PyStr

namespace Ingress

/-- The members of a JSON object. -/
abbrev Members := List (PyStr × Json)

/-- `payload.get(key)`; `None` is `null`. -/
def get (payload : Members) (key : String) : Json := (payload.lookup (.text key)).getD .null

/-- `payload.get(key, "")`. -/
def getText (payload : Members) (key : String) : Json :=
  (payload.lookup (.text key)).getD (.ofString "")

/-- `node if isinstance(node, dict) else None`. -/
def asDict : Json → Option Members
  | .obj members => some members
  | _ => none

/-- `node if isinstance(node, str) else None`. -/
def asStr : Json → Option PyStr
  | .str text => some text
  | _ => none

/-- `node if isinstance(node, list) else None`. -/
def asList : Json → Option (List Json)
  | .arr items => some items
  | _ => none

/-- `out[key] = value`. -/
def setItem (out : Members) (key : String) (value : Json) : Members :=
  if out.any fun member => decide (member.1 = .text key) then
    out.map fun member =>
      if member.1 = .text key then (member.1, value) else member
  else out ++ [(.text key, value)]

/-- The members of the keys for which there is a value. -/
def pick (out : Members) (keys : List String) (value : String → Option Json) :
    Members :=
  keys.foldl (fun out key => ((value key).map (setItem out key)).getD out) out

/-- `out or None`. -/
def orNone (out : Members) : Json :=
  if out = [] then .null else .obj out

/-- `_nested_str`. -/
def nestedStr (payload : Members) (outer inner : String) : Option PyStr :=
  (asDict (get payload outer)).bind fun node => asStr (get node inner)

/-! ## The summaries of `payload.py` -/

def idName (node : Members) : Members :=
  let out := pick [] ["id"] fun key =>
    if get node key = .null then none else some (get node key)
  pick out ["name", "conclusion", "status"] fun key =>
    (asStr (get node key)).map .str

def checkRunSummary (node : Json) : Json :=
  match asDict node with
  | none => .null
  | some node =>
    let out := idName node
    let withHead := pick out ["head_sha"] fun _ =>
      (asDict (get node "head")).bind fun head =>
        if (get head "sha").truthy then some (get head "sha") else none
    let numbers := ((asList (get node "pull_requests")).getD []).filterMap
      fun pr => (asDict pr).bind fun pr =>
        if get pr "number" = .null then none else some (get pr "number")
    orNone (pick withHead ["pull_request_numbers"] fun _ =>
      if numbers = [] then none else some (.arr numbers))

def workflowRunSummary (node : Json) : Json :=
  match asDict node with
  | none => .null
  | some node =>
    orNone (pick (idName node)
      ["event", "head_branch", "head_sha", "conclusion", "status"] fun key =>
        (asStr (get node key)).map .str)

/-- `payload_label_name`. -/
def payloadLabelName (label : Json) : Option PyStr :=
  (asDict label).bind fun label => asStr (get label "name")

/-- `_pr_label_names`. -/
def prLabelNames (labelsRaw eventLabel : Json) : List PyStr :=
  let labels := ((asList labelsRaw).getD []).filterMap payloadLabelName
  match payloadLabelName eventLabel with
  | none => labels
  | some name =>
    if name = .text "" ∨ name ∈ labels then labels else labels ++ [name]

def pullRequestSummary (node eventLabel : Json) : Json :=
  match asDict node with
  | none => .null
  | some node =>
    let head := (asDict (get node "head")).getD []
    let labels := prLabelNames (get node "labels") eventLabel
    let out := pick [] ["number", "title", "state", "merged", "html_url"]
      fun key => if get node key = .null then none else some (get node key)
    let withSha := pick out ["head_sha"] fun _ =>
      if (get head "sha").truthy then some (get head "sha") else none
    let withRef := pick withSha ["head_ref"] fun _ =>
      if (get head "ref").truthy then some (get head "ref") else none
    orNone (pick withRef ["labels"] fun _ =>
      if labels = [] then none else some (.arr (labels.map .str)))

/-- `summarize_github_payload`.  The test `action in {…}` needs the hash of the
action. -/
def summarizeGithubPayload (payload : Members) : Py Members := do
  let action := get payload "action"
  let repo := (asDict (get payload "repository")).getD []
  let sender := (asDict (get payload "sender")).getD []
  let label := get payload "label"
  let labels ← CliErrorClassify.isOneOf action ["labeled", "unlabeled"]
  let out : Members := [(.text "action", action), (.text "repository", get repo "full_name"),
      (.text "sender", get sender "login"),
      (.text "check_run", checkRunSummary (get payload "check_run")),
      (.text "workflow_run", workflowRunSummary (get payload "workflow_run")),
      (.text "pull_request", pullRequestSummary (get payload "pull_request")
        (if labels then label else .null))]
  return pick out ["label"] fun _ =>
    if labels then (asDict label).map .obj else none

/-- `_pages_deployment_summary`. -/
def pagesDeploymentSummary (data root : Members) : Members :=
  let stripped (node : Members) (key : String) : Option Json :=
    ((asStr (get node key)).map PyStr.strip).bind fun value =>
      if value = .text "" then none else some (.str value)
  let out := pick [] ["project_name", "project_id", "deployment_id", "environment", "url",
      "branch", "deployment_status"] (stripped data)
  pick out ["project_name", "project_id"] fun key =>
    if (out.lookup (.text key)).isSome then none else stripped root key

def summarizeCloudflarePayload (payload : Members) : Members :=
  let data := (asDict (get payload "data")).getD []
  let out : Members := (["name", "text", "alert_type", "account_name", "policy_name",
      "account_id"].map fun key => (.text key, get payload key)) ++
      [(.text "data", .obj data)]
  let pages := pagesDeploymentSummary data payload
  pick out ["pages"] fun _ => if pages = [] then none else some (.obj pages)

/-! ## The event -/

/-- An event that the model has accepted; its time and the version of the
contract are left out. -/
structure LyraEvent where
  traceId : String
  service : String
  kind : String
  level : String
  message : Option String
  payload : Members
  tenant : String
  deriving DecidableEq

/-- What the pipeline uses of the standard library and of pydantic. -/
structure Library where
  /-- `json.loads`, with the class of its exception. -/
  loads : List UInt8 → Py Json
  /-- `str(value)` of a value that is no string. -/
  str : Json → Py PyStr
  lower : PyStr → PyStr
  /-- `hmac.new(secret, body, sha256).hexdigest()`. -/
  hmacHexdigest : String → List UInt8 → String
  isHex : ∀ secret body, ∀ digit ∈ (hmacHexdigest secret body).toList,
    digit ∈ "0123456789abcdef".toList
  /-- `model_dump_json`. -/
  modelDumpJson : LyraEvent → Py (List UInt8)
  /-- The trace id of the context, or a fresh one. -/
  freshTraceId : String

section Events

variable (lib : Library)

/-- `str(value)`. -/
def strOf : Json → Py PyStr
  | .str text => .ok text
  | value => lib.str value

/-- `str(value).lower()`. -/
def strLower (value : Json) : Py PyStr := do
  return lib.lower (← strOf lib value)

def githubEventKind (eventName : String) (payload : Members) : PyStr :=
  let event := PyStr.replaceChars ['-'] '_' (.text (PythonStr.strip eventName))
  match get payload "action" with
  | .str action =>
    if action = .text "" then event
    else (event.append (.text ".")).append action
  | _ => event

def githubEventLevel (kind : PyStr) (payload : Members) : String :=
  if nestedStr payload "check_run" "conclusion" = some (.text "failure") ∨
      kind.endsWith ".failure" then "warn"
  else if nestedStr payload "workflow_run" "conclusion" = some (.text "failure") then "warn"
  else "info"

def githubEventMessage (kind : PyStr) (payload : Members) : PyStr :=
  let message := (PyStr.text "github ").append kind
  match nestedStr payload "repository" "full_name" with
  | none => message
  | some repo =>
    if repo = .text "" then message
    else message.append (PyStr.between " (" repo ")")

def deploymentKind (text : PyStr) : Option PyStr :=
  if text.contains "fail" || text.contains "error" then
    some (.text "pages.deployment.failure")
  else if text.contains "success" || text.contains "succeeded" then
    some (.text "pages.deployment.success")
  else none

def alertKind (payload : Members) : PyStr :=
  match get payload "alert_type" with
  | .str alertType =>
    if alertType = .text "" then .text "notification.received"
    else alertType.replaceChars ['-', ' '] '_'
  | _ => .text "notification.received"

/-- The status text of `payload["pages"]`. -/
def pagesStatus (payload : Members) : Option Json := (asDict (get payload "pages")).map fun pages =>
    (((get pages "deployment_status").orElse (get payload "text")).orElse
      (get payload "name")).orElse (.ofString "")

def cloudflareEventKind (payload : Members) : Py PyStr := do
  let status : Option PyStr ← match pagesStatus payload with
    | none => pure none
    | some value => some <$> strLower lib value
  match status.bind deploymentKind with
  | some kind => return kind
  | none =>
    let text ← strLower lib (getText payload "text")
    let name ← strLower lib (getText payload "name")
    let blob := (text.append (.text " ")).append name
    match if blob.contains "deployment" then deploymentKind blob else none with
    | some kind => return kind
    | none => return alertKind payload

def cloudflareEventLevel (kind : PyStr) : String :=
  if kind.endsWith ".failure" then "warn" else "info"

/-- `wire_trace_id_hex`. -/
def wireTraceIdHex (explicit : Option String) : PyStr :=
  let raw := (explicit.filter (· ≠ "")).getD lib.freshTraceId
  lib.lower (.text (String.ofList (raw.toList.filter (· ≠ '-'))))

def isLower (character : Char) : Bool :=
  decide ('a' ≤ character ∧ character ≤ 'z')

def isDigit (character : Char) : Bool :=
  decide ('0' ≤ character ∧ character ≤ '9')

/-- `^[a-z][a-z0-9_-]*$`, `^[a-z][a-z0-9._-]*$` and `^[a-z0-9][a-z0-9_-]*$`
differ in the first character and in the dot. -/
def matchesPattern (first rest : Char → Bool) (text : String) : Bool :=
  match text.toList with
  | [] => false
  | character :: characters => first character && characters.all rest

def isServiceChar (character : Char) : Bool :=
  isLower character || isDigit character || character ∈ ['_', '-']

def isKindChar (character : Char) : Bool := isServiceChar character || character == '.'

/-- A `str` field takes ordinary strings only. -/
def validText : PyStr → Py String
  | .text characters => .ok characters
  | .loneSurrogate _ => .error .validationError

def validField (constraint : String → Bool) (value : PyStr) : Py String := do
  let text ← validText value
  if constraint text then return text else throw .validationError

/-- `build_lyra_event`, with the validation of the model. -/
def buildLyraEvent (service : String) (kind : PyStr) (level : String)
    (message : PyStr) (payload : Members) (traceId : Option String)
    (tenant : String) : Py LyraEvent := do
  let traceId ← validField (· ≠ "") (wireTraceIdHex lib traceId)
  let service ← validField (matchesPattern isLower isServiceChar) (.text service)
  let kind ← validField (matchesPattern isLower isKindChar) kind
  let message ← validText message
  let tenant ← validField (matchesPattern (fun character => isLower character || isDigit character)
      isServiceChar) (.text tenant)
  return ⟨traceId, service, kind, level, some message, payload, tenant⟩

end Events

end Ingress

end RoxabiFactory

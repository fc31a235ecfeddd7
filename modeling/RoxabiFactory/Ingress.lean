import Mathlib.Logic.Function.Basic
import RoxabiFactory.IngressEvents
import RoxabiFactory.StatefulActions

/-!
# Ingress of webhooks

`handle_webhook` checks the size, the connector and the tenant of the path,
lets the connector verify the body with its secret, and only then decodes the
body, registers or removes an installation, resolves the tenant and publishes
an event.
-/

namespace RoxabiFactory

namespace Ingress

/-- `MAX_BODY_BYTES`. -/
def maxBodyBytes : ℕ := 5 * 1024 * 1024

structure ConnectorConfig where
  enabled : Bool
  webhookSecret : String

inductive Connector
  | github
  | cloudflare
  deriving DecidableEq

def Connector.name : Connector → String
  | .github => "github"
  | .cloudflare => "cloudflare"

/-- `family == "per_account"`. -/
def Connector.perAccount : Connector → Bool
  | .github => false
  | .cloudflare => true

/-- `_BUILTIN`. -/
def defaultRegistry (name : String) : Option Connector :=
  if name = "github" then some .github
  else if name = "cloudflare" then some .cloudflare
  else none

/-- What the application is made with. -/
structure Setup where
  lib : Library
  config : String → Option ConnectorConfig
  registry : String → Option Connector
  /-- `publisher is not None`. -/
  hasPublisher : Bool

/-- A request.  The mapping of the headers ignores the case of their names. -/
structure Request where
  connectorName : String
  headers : String → Option String
  body : List UInt8
  pathTenant : Option String

/-- A row of `connector_installations`. -/
structure Installation where
  factoryTenant : String
  enabled : Bool
  deriving DecidableEq

/-- What is handed to JetStream. -/
structure Published where
  subject : String
  event : LyraEvent
  body : List UInt8
  /-- The `Nats-Msg-Id`. -/
  msgId : Option String
  deriving DecidableEq

structure IngressState where
  /-- The rows, by connector and external id. -/
  installations : String × String → Option Installation
  /-- The events that have been published, the last first. -/
  published : List Published
  /-- The connectors of `record_unknown_installation`, the last first. -/
  unknownInstallations : List String

/-- How `handle_webhook` raises. -/
inductive Failure
  | http (status : ℕ) (detail : String)
  | raised (error : PyError)
  deriving DecidableEq

/-- An accepted response, with the kind of the event if there is one. -/
structure Response where
  subjectKind : Option String
  deriving DecidableEq

abbrev Call (α : Type) := Action IngressState Failure α

/-! ## Secrets and signatures -/

/-- `hmac.compare_digest` of two strings. -/
def compareDigest (expected received : String) : Py Bool :=
  if expected.toList.all (fun character => decide (character.toNat < 128)) &&
      received.toList.all (fun character => decide (character.toNat < 128)) then
    .ok (decide (expected = received))
  else .error .typeError

/-- `header[7:]` after `sha256=`. -/
def signatureOf (header : Option String) : Option String := header.bind fun header =>
    if PythonStr.startsWith header "sha256=" then
      some (String.ofList (header.toList.drop 7))
    else none

section Webhooks

variable (setup : Setup)

def verifyGithubSignature (body : List UInt8) (header : Option String)
    (secret : String) : Py Bool :=
  match signatureOf header with
  | none => .ok false
  | some received => compareDigest (setup.lib.hmacHexdigest secret body) received

def verifyCloudflareAuth (header : Option String) (secret : String) : Py Bool :=
  match header.filter (· ≠ "") with
  | none => .ok false
  | some header => compareDigest header secret

/-- `PodmanSecretResolver.get_connector_secret`, which raises
`VerificationError` when there is none. -/
def connectorSecret (connector : String) : Option String :=
  ((setup.config connector).filter fun entry =>
    entry.enabled && decide (entry.webhookSecret ≠ "")).map ConnectorConfig.webhookSecret

/-- `PodmanSecretResolver.get_tenant_secret`. -/
def tenantSecret (connector factoryTenant : String) : Option String :=
  if factoryTenant = "default" then connectorSecret setup connector else none

/-- `validate_factory_tenant` does not raise. -/
def isFactoryTenant (slug : String) : Bool :=
  matchesPattern (fun character => isLower character || isDigit character)
    isServiceChar slug && decide (slug.toList.length ≤ 63)

/-- `verify`, which raises `VerificationError` when it is `false`. -/
def Connector.verify (connector : Connector) (request : Request) : Py Bool :=
  match connector with
  | .github =>
    match connectorSecret setup connector.name with
    | none => .ok false
    | some secret =>
      verifyGithubSignature setup request.body (request.headers "X-Hub-Signature-256") secret
  | .cloudflare =>
    match (request.pathTenant.filter isFactoryTenant).bind (tenantSecret setup connector.name) with
    | none => .ok false
    | some secret =>
      verifyCloudflareAuth (request.headers "cf-webhook-auth") secret

/-! ## The installation store -/

/-- What a statement makes of a text. -/
def bindText : PyStr → Py String
  | .text characters => .ok characters
  | .loneSurrogate _ => .error (.other "UnicodeEncodeError")

def ofPy {α : Type} (value : Py α) : Call α := .ofExcept (value.mapError .raised)

/-- The row of an installation that is enabled and has a valid tenant. -/
def enabledTenant (installations : String × String → Option Installation)
    (connector externalId : String) : Option String :=
  ((installations (connector, externalId)).filter fun row =>
    row.enabled && isFactoryTenant row.factoryTenant).map Installation.factoryTenant

/-- `InstallationStore.resolve`. -/
def resolve (connector : String) (externalId : Option PyStr) : Call (Option String) :=
  match externalId with
  | some externalId => do
    let key ← ofPy (bindText externalId)
    .reads fun state => enabledTenant state.installations connector key
  | none => return if connector = "github" then some "default" else none

/-- `InstallationStore.upsert_lifecycle` for the tenant `default`. -/
def upsertLifecycle (connector : String) (externalId : PyStr) (enabled : Bool) : Call Unit := do
  if externalId = .text "*" then .raise (.raised .valueError)
  let key ← ofPy (bindText externalId)
  ⟨fun state => (.ok (), { state with
    installations := Function.update state.installations (connector, key)
      (some ⟨"default", enabled⟩) })⟩

/-! ## The connectors -/

/-- `body["installation"]["id"]`. -/
def installationId (payload : Members) : Option Json :=
  ((asDict (get payload "installation")).map (get · "id")).filter
    fun id => decide (id ≠ .null)

def Connector.externalValue (connector : Connector) (payload : Members) : Option Json :=
  match connector with
  | .github => installationId payload
  | .cloudflare =>
    if get payload "account_id" = .null then none
    else some (get payload "account_id")

def Connector.parseExternalId (connector : Connector) (payload : Members) : Py (Option PyStr) :=
  match connector.externalValue payload with
  | none => .ok none
  | some value => some <$> strOf setup.lib value

/-- The installation that a webhook registers or removes. -/
def lifecycleChange (request : Request) (payload : Members) : Option (Json × Bool) :=
  if request.headers "X-GitHub-Event" = some "installation" then
    (installationId payload).bind fun id =>
      if (get payload "action").isText "created" then some (id, true)
      else if (get payload "action").isText "deleted" then some (id, false)
      else none
  else none

def Connector.applyLifecycle (connector : Connector) (request : Request)
    (payload : Members) : Call Unit :=
  match connector with
  | .github =>
    match lifecycleChange request payload with
    | none => return
    | some (id, enabled) => do
      let externalId ← ofPy (strOf setup.lib id)
      upsertLifecycle connector.name externalId enabled
  | .cloudflare => return

def Connector.normalize (connector : Connector) (request : Request)
    (payload : Members) (tenant : String) : Py LyraEvent :=
  match connector with
  | .github => do
    let eventName := (request.headers "X-GitHub-Event").getD "unknown"
    let kind := githubEventKind eventName payload
    let summary ← summarizeGithubPayload payload
    buildLyraEvent setup.lib connector.name kind
      (githubEventLevel kind payload) (githubEventMessage kind payload)
      summary (request.headers "X-GitHub-Delivery") tenant
  | .cloudflare => do
    let kind ← cloudflareEventKind setup.lib payload
    buildLyraEvent setup.lib connector.name kind (cloudflareEventLevel kind)
      ((PyStr.text "cloudflare ").append kind)
      (summarizeCloudflarePayload payload) none tenant

/-! ## The publisher -/

def isSubjectChar (character : Char) : Bool := character.isAlphanum || character ∈ ['_', '-']

/-- `validate_subject_segment` does not raise. -/
def isSegment (segment : List Char) : Bool := !segment.isEmpty && segment.all isSubjectChar

/-- `_validate_namespaced` does not raise. -/
def isNamespaced (token : String) : Bool := (token.toList.splitOn '.').all isSegment

def perConnectorTenantEvent (connector tenant kind : String) : Py String :=
  if isSegment connector.toList && isSegment tenant.toList && isNamespaced kind then
    .ok ("factory.event." ++ connector ++ "." ++ tenant ++ "." ++ kind)
  else .error .valueError

/-- `EventPublisher.publish`; an error of JetStream is caught. -/
def publish (event : LyraEvent) (msgId : Option String) : Call Unit := do
  let subject ← ofPy (perConnectorTenantEvent event.service event.tenant event.kind)
  let body ← ofPy (setup.lib.modelDumpJson event)
  ⟨fun state => (.ok (), { state with
    published := ⟨subject, event, body, msgId⟩ :: state.published })⟩

/-! ## The pipeline -/

/-- The steps up to the verification, which change nothing. -/
def admitRequest (request : Request) : Except Failure Connector := do
  if maxBodyBytes < request.body.length then
    throw (.http 413 "payload too large")
  let connector ← match setup.registry request.connectorName with
    | none => throw (.http 404 "unknown connector")
    | some connector => pure connector
  if !(setup.config request.connectorName).any ConnectorConfig.enabled then
    throw (.http 503 (request.connectorName ++ " connector disabled"))
  if connector.perAccount && !request.pathTenant.any isFactoryTenant then
    throw (.http 401 "invalid auth")
  match connector.verify setup request with
  | .ok true => return connector
  | .ok false => throw (.http 401 "invalid auth")
  | .error raised => throw (.raised raised)

/-- `_parse_json_object`. -/
def parseJsonObject (body : List UInt8) : Except Failure Members :=
  match setup.lib.loads body with
  | .ok (.obj payload) => .ok payload
  | .ok _ => .error (.http 400 "expected object payload")
  | .error raised =>
    if raised = .other "JSONDecodeError" then
      .error (.http 400 "invalid json")
    else .error (.raised raised)

/-- `record_unknown_installation`, and the response. -/
def unknownInstallation (connectorName : String) : Call Response :=
  ⟨fun state => (.ok ⟨none⟩, { state with
    unknownInstallations := connectorName :: state.unknownInstallations })⟩

/-- The steps after the tenant has been resolved. -/
def publishEvent (connector : Connector) (request : Request)
    (payload : Members) (tenant : String) : Call Response :=
  match connector.normalize setup request payload tenant with
  | .error raised =>
    if raised = .validationError then return ⟨none⟩
    else .raise (.raised raised)
  | .ok event => do
    if setup.hasPublisher then
      publish setup event ((request.headers "X-GitHub-Delivery").filter (· ≠ ""))
    return ⟨some event.kind⟩

/-- The steps after the body has been decoded. -/
def handlePayload (connector : Connector) (request : Request)
    (payload : Members) : Call Response := do
  connector.applyLifecycle setup request payload
  let externalId ← ofPy (connector.parseExternalId setup payload)
  let tenant ← resolve request.connectorName externalId
  match tenant with
  | none => unknownInstallation request.connectorName
  | some tenant =>
    if connector.perAccount && decide (request.pathTenant ≠ some tenant) then
      unknownInstallation request.connectorName
    else publishEvent setup connector request payload tenant

/-- `handle_webhook`. -/
def handleWebhook (request : Request) : Call Response := do
  let connector ← .ofExcept (admitRequest setup request)
  let payload ← .ofExcept (parseJsonObject setup request.body)
  handlePayload setup connector request payload

end Webhooks

end Ingress

end RoxabiFactory

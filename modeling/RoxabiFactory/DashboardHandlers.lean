import Mathlib.Data.List.Sort
import RoxabiFactory.ActiveJobsKv
import RoxabiFactory.AgentRows
import RoxabiFactory.DashboardRpc
import RoxabiFactory.StatefulActions

/-!
# Handlers of the dashboard that need authority

`authorize` is the policy: administrators may do everything, some actions are
theirs alone, and the rest is for the owner of a resource and the members of
its organisation.  The handlers that create and patch users and agents, write
souls and create invites are for administrators; those of jobs ask the policy
for each job.
-/

namespace RoxabiFactory

open ControlPlane
open Agents
open ActiveJobs (ActiveJobEntry)

namespace DashboardRpc

/-! ## The policy -/

structure ResourceRef where
  kind : String
  ownerUserId : Option String := none
  orgId : Option String := none
  resourceId : Option String := none
  deriving DecidableEq

structure AuthzDecision where
  allowed : Bool
  reason : String := ""
  deriving DecidableEq

/-- `_ADMIN_ONLY_ACTIONS`. -/
def adminOnlyActions : List String :=
  ["agents.write", "agents.soul.write", "users.invite", "users.admin"]

/-- `resource.owner_user_id and resource.owner_user_id == principal.user_id`. -/
def ResourceRef.ownedBy (resource : ResourceRef) (principal : Principal) :
    Bool :=
  resource.ownerUserId.any fun owner =>
    decide (owner ≠ "" ∧ owner = principal.userId)

/-- `resource.org_id and resource.org_id in principal.org_ids`. -/
def ResourceRef.inOrgOf (resource : ResourceRef) (principal : Principal) :
    Bool :=
  resource.orgId.any fun org => decide (org ≠ "" ∧ org ∈ principal.orgIds)

def authorize (principal : Principal) (action : String)
    (resource : Option ResourceRef) : AuthzDecision :=
  if GlobalRole.admin.value ∈ principal.roles then ⟨true, "admin"⟩
  else if action ∈ adminOnlyActions then ⟨false, "admin_only"⟩
  else if action = "orgs.create" then ⟨true, "member_create_org"⟩
  else
    match resource with
    | none => ⟨false, "no_resource"⟩
    | some resource =>
      if resource.ownedBy principal then ⟨true, "owner"⟩
      else if resource.inOrgOf principal then ⟨true, "org_member"⟩
      else ⟨false, "denied"⟩

def canMutateAgents (principal : Principal) : Bool := principal.isAdmin

/-! ## What the handlers call -/

/-- An exception with its text. -/
structure Raised where
  error : PyError
  text : String := ""
  deriving DecidableEq

def ofPy {α : Type} (value : Py α) : Except Raised α :=
  value.mapError fun error => { error := error }

/-- The parts of the hub besides its control plane. -/
structure Parts (σ : Type) where
  /-- The rows of `dash_job_launches`: who has launched a job, and for which
  organisation. -/
  jobLaunches : String → Option (String × Option String)
  /-- The messages that have been published, the last first. -/
  published : List (String × String)
  /-- The other stores and the coordinator of the jobs. -/
  stores : σ

abbrev Call (σ α : Type) := Action (Hub (Parts σ)) Raised α

structure ProfileUser where
  id : String
  displayName : Option String
  email : Option String

structure PlatformIdentity where
  platform : String
  platformUid : String
  platformKey : String

/-- The methods of `_user_store`. -/
structure UserCalls (σ : Type) where
  createProfileUser : String → String → Call σ ProfileUser
  updateProfileUser : PyStr → Option String → Option String → Call σ (Option ProfileUser)
  setPlatformIdentity : PyStr → String → Option String → Call σ Unit
  listPlatformIdentities : String → Call σ (List PlatformIdentity)
  deleteProfileUser : String → Call σ Unit

/-- The methods of `_authorizer`, and the functions that use it. -/
structure GrantCalls (σ : Type) where
  revoke : String → String → Call σ Unit
  agentsForUser : String → Call σ (List String)
  /-- `sync_user_agents`, with the agents of `granted_out`. -/
  syncUserAgents : PyStr → List String → String → Call σ (List String × Except Raised Unit)

/-- The methods of `_agent_store`. -/
structure AgentCalls (σ : Type) where
  get : Hub (Parts σ) → PyStr → Option AgentRow
  getAll : Hub (Parts σ) → List AgentRow
  upsert : AgentRow → Call σ Unit

/-- The methods of `_blob_store`, and the functions that use it. -/
structure BlobCalls (σ : Type) where
  put : String → Call σ String
  warmSoulCache : String → Option String → String → String → Call σ Unit
  soulSectionsForRow : AgentRow → Call σ (List (String × String))

structure Invite where
  id : String
  email : String
  status : String
  expiresAt : String
  invitedBy : String

/-- What the handlers call; a part of the hub may be missing. -/
structure Calls (σ : Type) where
  users : Option (UserCalls σ)
  grants : Option (GrantCalls σ)
  agents : Option (AgentCalls σ)
  blobs : Option (BlobCalls σ)
  /-- `coord.snapshot`, or no entries. -/
  snapshot : Hub (Parts σ) → List ActiveJobEntry
  /-- `store.list_all`, or no entries. -/
  listAll : Hub (Parts σ) → Except Raised (List ActiveJobEntry)
  agentForPool : Hub (Parts σ) → String → Option String
  /-- `coord.close`, or nothing. -/
  closeJob : String → Call σ Unit
  createInvite : String → String → ℕ → Call σ (Invite × String)
  composeSoul : String → Except Raised Unit
  metaEnvelope : JsonText → Json

/-- `nc.publish`. -/
def publish {σ : Type} (subject data : String) : Call σ Unit :=
  ⟨fun hub => (.ok (), { hub with
    rest := { hub.rest with
      published := (subject, data) :: hub.rest.published } })⟩

/-! ## Requests -/

/-- `DashboardAdminUserCreateRequest`. -/
structure UserCreate where
  displayName : String
  email : String
  telegramUid : Option String
  discordUid : Option String
  agents : List String

/-- `DashboardAdminUserPatchRequest`; a uid that is not set is absent. -/
structure UserPatch where
  displayName : Option String
  email : Option String
  telegramUid : Option (Option String)
  discordUid : Option (Option String)
  agents : Option (List String)

/-- `DashboardAuthInviteCreateRequest`. -/
structure InviteCreate where
  email : String
  ttlHours : ℕ
  sessionToken : Option String

/-- `DashboardJobsSteerRequest`. -/
structure JobsSteer where
  jobId : String
  text : String

/-- The `model_validate` of the requests.  A field that is absent has its
default. -/
structure Models where
  adminUserCreate : Json → Py UserCreate
  adminUserPatch : Json → Py UserPatch
  agentCreate : Json → Py CreateRequest
  agentPatch : Json → Py PatchRequest
  agentSoulPut : Json → Py String
  inviteCreate : Json → Py InviteCreate
  jobsSteer : Json → Py JobsSteer
  jobsCancel : Json → Py String
  sessionToken_absent : ∀ payload request, payload.lookup (.text "session_token") = none →
      inviteCreate (.obj payload) = .ok request → request.sessionToken = none

/-- `payload.get(key) or payload`. -/
def bodyOf (key : String) (payload : Payload) : Json := (getKey payload key).orElse (.obj payload)

/-- `str(payload.get(key) or "")`. -/
def textOf (tools : PythonText) (key : String) (payload : Payload) : PyStr :=
  match (getKey payload key).orElse (.ofString "") with
  | .str text => text
  | value => tools.str value

/-! ## Answers -/

def optional (text : Option String) : Json := (text.map Json.ofString).getD .null

/-- An answer with an error and nothing else. -/
def failure (error : String) : Json := .obj [(.text "error", .ofString error)]

def failureWith (error message : String) : Json := .obj [(.text "error", .ofString error),
    (.text "message", .ofString message)]

def identityOf (identities : List PlatformIdentity) (platform : String) :
    Json :=
  match identities.find? fun identity =>
      decide (identity.platform = platform) with
  | none => .null
  | some identity =>
    .obj [(.text "platform", .ofString identity.platform),
      (.text "platform_uid", .ofString identity.platformUid),
      (.text "platform_key", .ofString identity.platformKey)]

/-- `DashboardAdminUserResponse`. -/
def userResponse (user : ProfileUser) (identities : List PlatformIdentity)
    (agents : List String) : Json :=
  .obj [(.text "user_id", .ofString user.id), (.text "display_name", optional user.displayName),
    (.text "email", optional user.email),
    (.text "telegram", identityOf identities "telegram"),
    (.text "discord", identityOf identities "discord"),
    (.text "agents", .arr (agents.map Json.ofString))]

/-- `DashboardAuthInviteCreateResponse` of a failure. -/
def inviteFailure (error message : String) : Json :=
  .obj [(.text "ok", .bool false), (.text "error", .ofString error),
    (.text "message", .ofString message), (.text "invite_id", .null),
    (.text "email", .null), (.text "status", .null),
    (.text "expires_at", .null), (.text "invited_by", .null),
    (.text "token", .null)]

def inviteResponse (invite : Invite) (token : String) : Json :=
  .obj [(.text "ok", .bool true), (.text "error", .null),
    (.text "message", .null), (.text "invite_id", .ofString invite.id),
    (.text "email", .ofString invite.email),
    (.text "status", .ofString invite.status),
    (.text "expires_at", .ofString invite.expiresAt),
    (.text "invited_by", .ofString invite.invitedBy),
    (.text "token", .ofString token)]

/-- `DashboardJobsSteerResponse` and `DashboardJobsCancelResponse`. -/
def jobResponse (accepted : Bool) (message : String) : List (PyStr × Json) :=
  [(.text "accepted", .bool accepted), (.text "message", .ofString message)]

/-! ## Gates -/

def adminGate (message : String) (principal : Option Principal) : Option Json :=
  match principal with
  | none => some (failureWith "unauthorized" "principal required")
  | some principal =>
    if principal.isAdmin then none else some (failureWith "forbidden" message)

/-- `_require_admin_principal`. -/
def requireAdminPrincipal : Option Principal → Option Json := adminGate "admin only"

/-- `_admin_mutate_gate`. -/
def adminMutateGate : Option Principal → Option Json := adminGate "admin only for agent mutations"

section Handlers

variable {σ : Type} (tools : PythonText) (calls : Calls σ) (models : Models)
variable (hashToken : String → String) (clock : ℤ) (now : String)

/-- A handler behind a gate for administrators. -/
def gated (denied : Option Json) (handle : Call σ Json) : Call σ Json :=
  match denied with
  | some answer => pure answer
  | none => handle

/-- `isinstance(exc, ValueError)`; another exception is raised again. -/
def conflictOr (raised : Raised) : Call σ Json :=
  if raised.error.isValueError then
    pure (failureWith "conflict" raised.text)
  else .raise raised

/-! ## Users -/

/-- `validate_desired_agents`. -/
def validateDesiredAgents (agents : AgentCalls σ) (hub : Hub (Parts σ))
    (desired : List String) : Option String :=
  let known := (agents.getAll hub).map AgentRow.name
  let unknown := (desired.filter fun name => decide (name ∉ known)).mergeSort
    fun first second => decide (first ≤ second)
  if unknown = [] then none
  else some ("unknown agent(s): " ++ ", ".intercalate unknown)

/-- `_apply_platform_identities`. -/
def applyPlatformIdentities (users : UserCalls σ) (userId : PyStr)
    (telegramUid discordUid : Option (Option String)) : Call σ Unit := do
  match telegramUid with
  | some uid => users.setPlatformIdentity userId "telegram" uid
  | none => pure ()
  match discordUid with
  | some uid => users.setPlatformIdentity userId "discord" uid
  | none => pure ()

/-- `sync_user_agents`, if the hub has both stores. -/
def syncAgents (userId : PyStr) (desired : List String) (source : String) :
    Call σ (List String × Except Raised Unit) :=
  match calls.grants, calls.agents with
  | some grants, some _ => grants.syncUserAgents userId desired source
  | _, _ => pure ([], .ok ())

/-- The `try` block of a creation after the user exists. -/
def equipUser (users : UserCalls σ) (user : ProfileUser)
    (request : UserCreate) : Call σ (List String × Except Raised Unit) := do
  match ← (applyPlatformIdentities users (.text user.id)
      (request.telegramUid.map some) (request.discordUid.map some)).attempt with
  | .error raised => return ([], .error raised)
  | .ok _ =>
    syncAgents calls (.text user.id) request.agents "admin.user.create"

/-- The grants are revoked, whatever one call raises. -/
def revokeAll (grants : GrantCalls σ) (userId : String) : List String → Call σ Unit
  | [] => pure ()
  | agent :: rest => do
    let _ ← (grants.revoke agent userId).attempt
    revokeAll grants userId rest

/-- `_rollback_created_admin_user`. -/
def rollbackCreatedAdminUser (users : UserCalls σ) (userId : String)
    (agents : List String) : Call σ Unit := do
  match calls.grants with
  | some grants => revokeAll grants userId agents
  | none => pure ()
  users.deleteProfileUser userId

/-- The answer with the user, whose identities and agents are read if the hub
has the stores for them. -/
def respondUser (users : UserCalls σ) (user : ProfileUser) : Call σ Json :=
  match calls.grants, calls.agents with
  | some grants, some _ => do
    let identities ← users.listPlatformIdentities user.id
    let agents ← grants.agentsForUser user.id
    return userResponse user identities agents
  | _, _ => pure (userResponse user [] [])

/-- The agents that are unknown, if the hub has the stores to say so. -/
def unknownAgents (hub : Hub (Parts σ)) (desired : List String) : Option String :=
  match calls.grants, calls.agents with
  | some _, some agents =>
    if desired = [] then none else validateDesiredAgents agents hub desired
  | _, _ => none

def createAdminUser (users : UserCalls σ) (request : UserCreate) :
    Call σ Json := do
  match ← .reads fun hub => unknownAgents calls hub request.agents with
  | some message => return failureWith "conflict" message
  | none =>
    match ← (users.createProfileUser request.displayName request.email).attempt with
    | .error raised => conflictOr raised
    | .ok user =>
      let (granted, equipped) ← equipUser calls users user request
      match equipped with
      | .error raised => do
        rollbackCreatedAdminUser calls users user.id granted
        conflictOr raised
      | .ok _ => respondUser calls users user

def handleAdminUserCreate (principal : Option Principal) (payload : Payload) : Call σ Json :=
  gated (requireAdminPrincipal principal) do
    let request ← .ofExcept (ofPy (models.adminUserCreate (bodyOf "body" payload)))
    match calls.users with
    | none => return failure "store_unavailable"
    | some users => createAdminUser calls users request

/-- The `try` block of a patch. -/
def patchAdminUser (users : UserCalls σ) (userId : PyStr)
    (request : UserPatch) : Call σ (Option ProfileUser) := do
  match ← users.updateProfileUser userId request.displayName request.email with
  | none => return none
  | some user =>
    applyPlatformIdentities users userId request.telegramUid request.discordUid
    match request.agents with
    | none => return some user
    | some agents =>
      let (_, synced) ← syncAgents calls userId agents "admin.user.patch"
      Action.ofExcept synced
      return some user

def handleAdminUserPatch (principal : Option Principal) (payload : Payload) : Call σ Json :=
  gated (requireAdminPrincipal principal) do
    let userId := textOf tools "user_id" payload
    let request ← .ofExcept (ofPy (models.adminUserPatch (bodyOf "patch" payload)))
    match calls.users with
    | none => return failure "not_found"
    | some users =>
      if userId = .text "" then return failure "not_found"
      else
        match ← (patchAdminUser calls users userId request).attempt with
        | .error raised => conflictOr raised
        | .ok none => return failure "not_found"
        | .ok (some user) => respondUser calls users user

/-! ## Agents -/

/-- `HarnessKind`, as the response model checks it. -/
def isHarness (backend : String) : Bool :=
  decide (backend = HarnessKind.claudeCli.value ∨ backend = HarnessKind.ompRpc.value)

/-- `json.loads(row.voice_json) if row.voice_json else None`. -/
def voiceOf (row : AgentRow) : Except Raised Json :=
  ofPy (JsonText.getOr row.voiceJson (.document .null)).loads

def isObject : Json → Bool
  | .obj _ => true
  | _ => false

/-- `DashboardAgentConfigResponse` of a row. -/
def configResponse (row : AgentRow) : Except Raised Json := do
  let voice ← voiceOf row
  if isHarness row.backend ∧ (voice = .null ∨ isObject voice) then
    return .obj [(.text "name", .ofString row.name), (.text "backend", .ofString row.backend),
      (.text "model", .ofString row.model), (.text "voice_json", voice),
      (.text "soul_meta_json", (row.soulMetaJson.map calls.metaEnvelope).getD .null),
      (.text "soul_document_blob_ref", optional row.soulDocumentBlobRef),
      (.text "soul_document_bytes",
        (row.soulDocumentBytes.map fun bytes => Json.int bytes).getD .null),
      (.text "updated_at", .ofString row.updatedAt)]
  else .error { error := .validationError }

/-- `handle_agents_get` of a name. -/
def getAgent (agents : AgentCalls σ) (name : PyStr) : Call σ Json := do
  if name = .text "" then return failure "not_found"
  else
    match ← .reads fun hub => agents.get hub name with
    | none => return failure "not_found"
    | some row => .ofExcept (configResponse calls row)

def handleAgentsCreate (principal : Option Principal) (payload : Payload) : Call σ Json :=
  gated (adminMutateGate principal) do
    let request ← .ofExcept (ofPy (models.agentCreate (bodyOf "body" payload)))
    match calls.agents with
    | none => return failure "store_unavailable"
    | some agents =>
      match ← .reads fun hub => agents.get hub (.text request.name) with
      | some _ =>
        return failureWith "conflict" ("agent '" ++ request.name ++ "' already exists")
      | none =>
        let row ← .ofExcept (ofPy (createRow request now))
        agents.upsert row
        getAgent calls agents (.text request.name)

def handleAgentsPatch (principal : Option Principal) (payload : Payload) : Call σ Json :=
  gated (adminMutateGate principal) do
    let name := textOf tools "name" payload
    let request ← .ofExcept (ofPy (models.agentPatch (bodyOf "patch" payload)))
    match calls.agents with
    | none => return failure "not_found"
    | some agents =>
      if name = .text "" then return failure "not_found"
      else
        match ← .reads fun hub => agents.get hub name with
        | none => return failure "not_found"
        | some row =>
          let updated ← .ofExcept (ofPy (patchRow request row now))
          agents.upsert updated
          getAgent calls agents name

/-- `MAX_SOUL_DOCUMENT_BYTES`. -/
def maxSoulDocumentBytes : ℕ := 48 * 1024

/-- `put_soul_document`. -/
def putSoulDocument (agents : AgentCalls σ) (blobs : BlobCalls σ)
    (name : PyStr) (markdown : String) : Call σ Unit := do
  if maxSoulDocumentBytes < markdown.utf8ByteSize then
    Action.raise
      { error := .valueError
        text := "soul document exceeds 48KB limit (" ++
          toString markdown.utf8ByteSize ++ " bytes)" }
  else
    Action.ofExcept (calls.composeSoul markdown)
    let storeKey ← blobs.put markdown
    if storeKey = "" then
      Action.raise { error := .valueError, text := "blobstore returned empty store_key" }
    else
      match ← .reads fun hub => agents.get hub name with
      | none => Action.raise { error := .keyError }
      | some row =>
        blobs.warmSoulCache row.name row.soulDocumentBlobRef storeKey markdown
        agents.upsert (soulRow storeKey markdown.utf8ByteSize row now)

/-- `DashboardAgentSoulSectionsResponse` of a row. -/
def soulResponse (sections : List (String × String)) (row : AgentRow) : Json :=
  .obj [(.text "sections", .obj (sections.map fun entry =>
      (.text entry.1, .ofString entry.2))),
    (.text "soul_document_blob_ref", optional row.soulDocumentBlobRef),
    (.text "soul_document_bytes",
      (row.soulDocumentBytes.map fun bytes => Json.int bytes).getD .null),
    (.text "updated_at", .ofString row.updatedAt)]

/-- `handle_agents_soul_get` of a name. -/
def getSoul (agents : AgentCalls σ) (blobs : BlobCalls σ) (name : PyStr) :
    Call σ Json := do
  match ← .reads fun hub => agents.get hub name with
  | none => return failure "not_found"
  | some row => return soulResponse (← blobs.soulSectionsForRow row) row

def handleAgentsSoulPut (principal : Option Principal) (payload : Payload) : Call σ Json :=
  gated (adminMutateGate principal) do
    let name := textOf tools "name" payload
    let markdown ← .ofExcept (ofPy (models.agentSoulPut (bodyOf "body" payload)))
    match calls.agents, calls.blobs with
    | some agents, some blobs =>
      let missing ← .reads fun hub =>
        decide (name = .text "" ∨ agents.get hub name = none)
      if missing then return failure "not_found"
      else
        match ← (putSoulDocument calls now agents blobs name markdown).attempt with
        | .ok _ => getSoul agents blobs name
        | .error raised =>
          if raised.error.isValueError then
            return failureWith "validation" raised.text
          else .raise raised
    | _, _ => return failure "blobstore_unavailable"

/-! ## Invites -/

/-- `cp.resolve_session`. -/
def resolveSessionCall (token : String) : Call σ (Option Principal) := ⟨fun hub =>
    match hub.controlPlane with
    | none => (.error { error := .attributeError }, hub)
    | some store =>
      let resolved := store.resolveSession hashToken clock (.text token)
      (ofPy resolved.1, { hub with controlPlane := some resolved.2 })⟩

def createInviteAs (request : InviteCreate) (token : String) :
    Call σ Json := do
  match ← resolveSessionCall hashToken clock token with
  | none => return inviteFailure "unauthorized" "session expired or invalid"
  | some principal =>
    if (authorize principal "users.invite" none).allowed then
      match ← (calls.createInvite request.email principal.userId request.ttlHours).attempt with
      | .ok (invite, token) => return inviteResponse invite token
      | .error raised =>
        if raised.error.isValueError then
          return inviteFailure "bad_request" "invite create failed"
        else .raise raised
    else return inviteFailure "forbidden" "admin only"

/-- `handle_auth_invite_create`, which does not read the request principal. -/
def handleAuthInviteCreate (payload : Payload) : Call σ Json := do
  match ← .reads Hub.controlPlane with
  | none => return inviteFailure "unavailable" "control-plane not configured"
  | some _ =>
    let request ← .ofExcept (ofPy (models.inviteCreate (.obj payload)))
    match request.sessionToken.bind nonEmpty with
    | none => return inviteFailure "unauthorized" "session_token required"
    | some token => createInviteAs calls hashToken clock request token

/-! ## Jobs -/

/-- A row of `entry_to_row`. -/
structure JobRow where
  jobId : String
  poolId : String
  agent : Option String
  platform : Option String
  status : String
  startedAt : String
  concurrencyMode : String
  workerLoc : Option String
  steerSubject : String
  deriving DecidableEq

/-- The platform of `parse_pool_id`, if it is not empty. -/
def platformOf (poolId : String) : Option String :=
  match poolId.splitOn ":" with
  | platform :: _ :: _ :: _ => nonEmpty platform
  | _ => none

def entryToRow (hub : Hub (Parts σ)) (entry : ActiveJobEntry) : JobRow where
  jobId := entry.jobId
  poolId := entry.poolId
  agent := calls.agentForPool hub entry.poolId
  platform := platformOf entry.poolId
  status := entry.status
  startedAt := String.ofList entry.startedAt.val.isoformat
  concurrencyMode := entry.concurrencyMode
  workerLoc := entry.workerLoc
  steerSubject := entry.steerSubject

/-- `list_active_jobs`. -/
def listActiveJobs (hub : Hub (Parts σ)) : Except Raised (List JobRow) := do
  let entries ←
    if calls.snapshot hub = [] then calls.listAll hub
    else .ok (calls.snapshot hub)
  return (entries.map (entryToRow calls hub)).mergeSort fun first second =>
    decide (second.startedAt ≤ first.startedAt)

/-- `get_job_meta`. -/
def getJobMeta (hub : Hub (Parts σ)) (jobId : String) : Option String × Option String :=
  match hub.rest.jobLaunches jobId with
  | none => (none, none)
  | some (launchedBy, orgId) => (some launchedBy, orgId)

/-- `job_meta_map`, with the default of its lookups. -/
def jobMetaMap (hub : Hub (Parts σ)) (jobIds : List String) (jobId : String) :
    Option String × Option String :=
  if jobId ∈ jobIds then getJobMeta hub jobId else (none, none)

def jobResource (launch : Option String × Option String) : ResourceRef where
  kind := "job"
  ownerUserId := launch.1
  orgId := launch.2

/-- `filter_jobs_visible`. -/
def filterJobsVisible (principal : Principal) (jobs : List JobRow)
    (metaByJob : String → Option String × Option String) : List JobRow :=
  if principal.isAdmin then jobs
  else
    jobs.filter fun row =>
      (authorize principal "jobs.read" (some (jobResource (metaByJob row.jobId)))).allowed

def JobRow.toJson (row : JobRow) : Json := .obj [(.text "job_id", .ofString row.jobId),
    (.text "pool_id", .ofString row.poolId),
    (.text "agent", optional row.agent),
    (.text "platform", optional row.platform),
    (.text "status", .ofString row.status),
    (.text "started_at", .ofString row.startedAt),
    (.text "concurrency_mode", .ofString row.concurrencyMode),
    (.text "worker_loc", optional row.workerLoc),
    (.text "steer_subject", .ofString row.steerSubject)]

/-- `_require_principal`. -/
def withPrincipal (principal : Option Principal) (handle : Principal → Call σ Json) : Call σ Json :=
  match principal with
  | none => pure (failureWith "unauthorized" "principal required")
  | some principal => handle principal

/-- The rows that a principal sees. -/
def visibleJobs (principal : Principal) (hub : Hub (Parts σ)) (rows : List JobRow) : List JobRow :=
  match hub.controlPlane with
  | some _ =>
    filterJobsVisible principal rows (jobMetaMap hub (rows.map JobRow.jobId))
  | none => if principal.isAdmin then rows else []

def handleJobsList (principal : Option Principal) : Call σ Json :=
  withPrincipal principal fun principal => do
    let rows ← .readsOrRaises (listActiveJobs calls)
    let visible ← .reads fun hub => visibleJobs principal hub rows
    return .obj [(.text "jobs", .arr (visible.map JobRow.toJson))]

/-- What the control plane says of a job; nothing without one. -/
def jobMetaOf (hub : Hub (Parts σ)) (jobId : String) : Option String × Option String :=
  match hub.controlPlane with
  | some _ => getJobMeta hub jobId
  | none => (none, none)

/-- `_authorize_job_action`, with the message of a denial. -/
def authorizeJobAction (principal : Principal) (hub : Hub (Parts σ))
    (jobId action : String) : Option String :=
  if principal.isAdmin then none
  else if (authorize principal action (some (jobResource (jobMetaOf hub jobId)))).allowed then none
  else some ("not allowed to " ++ action ++ " job " ++ jobId)

/-- `validate_job_token`. -/
def isJobToken (token : String) : Bool := (token.splitOn ".").all fun part =>
    decide (part ≠ "") && part.toList.all fun character =>
      character.isAlphanum || decide (character ∈ ['_', '-'])

/-- `jobs_steer`. -/
def jobsSteerSubject (jobId : String) : Except Raised String :=
  if isJobToken jobId then .ok ("factory.job." ++ jobId ++ ".steer")
  else .error { error := .valueError }

/-- The answer to a job action that is denied. -/
def forbidden (message : String) : Json := .obj (jobResponse false message ++
    [(.text "error", .ofString "forbidden")])

/-- `JOB_CANCEL_STEER_TOKEN`. -/
def jobCancelSteerToken : String := "__factory_cancel__"

def withJobAction (principal : Principal) (jobId action : String)
    (handle : Call σ Json) : Call σ Json := do
  match ← .reads fun hub => authorizeJobAction principal hub jobId action with
  | some message => return forbidden message
  | none => handle

def steerJob (request : JobsSteer) : Call σ Json := do
  let subject ← .ofExcept (jobsSteerSubject request.jobId)
  publish subject request.text
  return .obj (jobResponse true ("steer published to " ++ request.jobId))

def handleJobsSteer (principal : Option Principal) (payload : Payload) : Call σ Json :=
  withPrincipal principal fun principal => do
    let request ← .ofExcept (ofPy (models.jobsSteer (.obj payload)))
    withJobAction principal request.jobId "jobs.steer" (steerJob request)

def cancelJob (jobId : String) : Call σ Json := do
  calls.closeJob jobId
  let subject ← .ofExcept (jobsSteerSubject jobId)
  publish subject jobCancelSteerToken
  return .obj (jobResponse true ("cancel published to " ++ jobId))

def handleJobsCancel (principal : Option Principal) (payload : Payload) : Call σ Json :=
  withPrincipal principal fun principal => do
    let jobId ← .ofExcept (ofPy (models.jobsCancel (.obj payload)))
    withJobAction principal jobId "jobs.cancel" (cancelJob calls jobId)

/-! ## The subjects -/

/-- The subjects for administrators, and those of job actions. -/
inductive Endpoint
  | adminUserCreate
  | adminUserPatch
  | agentsCreate
  | agentsPatch
  | agentsSoulPut
  | authInviteCreate
  | jobsList
  | jobsSteer
  | jobsCancel
  deriving DecidableEq

def Endpoint.subject : Endpoint → String
  | .adminUserCreate => "factory.dashboard.admin.user.create"
  | .adminUserPatch => "factory.dashboard.admin.user.patch"
  | .agentsCreate => "factory.dashboard.agents.create"
  | .agentsPatch => "factory.dashboard.agents.patch"
  | .agentsSoulPut => "factory.dashboard.agents.soul.put"
  | .authInviteCreate => "factory.dashboard.auth.invite.create"
  | .jobsList => "factory.dashboard.jobs.list"
  | .jobsSteer => "factory.dashboard.jobs.steer"
  | .jobsCancel => "factory.dashboard.jobs.cancel"

/-- The handler that `start_dashboard_rpc` subscribes. -/
def Endpoint.handle (endpoint : Endpoint) (principal : Option Principal)
    (payload : Payload) : Call σ Json :=
  match endpoint with
  | .adminUserCreate => handleAdminUserCreate calls models principal payload
  | .adminUserPatch =>
    handleAdminUserPatch tools calls models principal payload
  | .agentsCreate => handleAgentsCreate calls models now principal payload
  | .agentsPatch => handleAgentsPatch tools calls models now principal payload
  | .agentsSoulPut =>
    handleAgentsSoulPut tools calls models now principal payload
  | .authInviteCreate =>
    handleAuthInviteCreate calls models hashToken clock payload
  | .jobsList => handleJobsList calls principal
  | .jobsSteer => handleJobsSteer models principal payload
  | .jobsCancel => handleJobsCancel calls models principal payload

/-- `get_request_principal` on a protected subject. -/
def requestPrincipal : Option RequestPrincipal → Option Principal
  | some (.rehydrated principal) => some principal
  | _ => none

def Endpoint.handler (endpoint : Endpoint) : Handler (Parts σ) :=
  fun context payload hub =>
    let result := (endpoint.handle tools calls models hashToken clock now
      (requestPrincipal context) payload).runOn hub
    (result.1.mapError Raised.error, result.2)

end Handlers

end DashboardRpc

end RoxabiFactory

import Mathlib.Data.Finset.Basic
import RoxabiFactory.ToolRecap

/-!
# The principal of a dashboard request

A request carries a stamp that names its user and a proof, which is a session
token or an API key.  The hub reads the user, the role and the organisations of
the proof from its own store, and takes of the stamp only the user id, which
has to be the same.
-/

namespace RoxabiFactory

namespace ControlPlane

inductive GlobalRole
  | admin
  | member
  deriving DecidableEq

def GlobalRole.value : GlobalRole → String
  | .admin => "admin"
  | .member => "member"

inductive UserStatus
  | active
  | disabled
  deriving DecidableEq

inductive AuthVia
  | session
  | apiKey
  | platformLink
  | sys
  | e2e
  deriving DecidableEq

/-- `ControlPlanePrincipal`. -/
structure Principal where
  userId : String
  roles : Finset String
  orgIds : Finset String
  activeOrgId : Option String
  via : AuthVia
  nonempty : userId ≠ ""
  deriving DecidableEq

def Principal.isAdmin (principal : Principal) : Bool :=
  decide (GlobalRole.admin.value ∈ principal.roles)

/-! ## The stamp and the proof of a payload -/

/-- The members of a JSON object. -/
abbrev Payload := List (PyStr × Json)

/-- The principal that a payload claims to have.  Its roles and organisations
are the strings of these values. -/
structure Wire where
  userId : PyStr
  roles : List Json
  orgIds : List Json
  activeOrgId : Option PyStr
  via : AuthVia
  deriving DecidableEq

/-- `isinstance(value, str)`, with the string. -/
def asStr : Json → Option PyStr
  | .str value => some value
  | _ => none

/-- `isinstance(value, list)`, with the items. -/
def asList : Json → Option (List Json)
  | .arr items => some items
  | _ => none

/-- `payload.get(key)`. -/
def getKey (payload : Payload) (key : String) : Json := (payload.lookup (.text key)).getD .null

/-- The `principal_via` of a stamp, or the default. -/
def parseVia (value : Json) : AuthVia :=
  let via := value.orElse (.ofString "session")
  if via.isText "api_key" then .apiKey
  else if via.isText "platform_link" then .platformLink
  else if via.isText "sys" then .sys
  else if via.isText "e2e" then .e2e
  else .session

/-- `parse_principal_from_payload`. -/
def parsePrincipalFromPayload (payload : Payload) : Option Wire :=
  let uid := getKey payload "principal_user_id"
  match uid.truthy, asStr uid with
  | true, some userId =>
    match asList ((getKey payload "principal_roles").orElse (.arr [])),
        asList ((getKey payload "principal_org_ids").orElse (.arr [])) with
    | some roles, some orgIds =>
      some
        { userId := userId
          roles := roles
          orgIds := orgIds
          activeOrgId := asStr (getKey payload "principal_active_org_id")
          via := parseVia (getKey payload "principal_via") }
    | _, _ => none
  | _, _ => none

/-- The fields of a stamp that say nothing about its user. -/
def authorityKeys : List String :=
  ["principal_roles", "principal_org_ids", "principal_active_org_id", "principal_via"]

/-- `_PRINCIPAL_KEYS`. -/
def principalKeys : List String := "principal_user_id" :: authorityKeys

/-- `_PROOF_KEYS`. -/
def proofKeys : List String := ["session_token", "api_key"]

/-- The members with other keys. -/
def without (keys : List String) (payload : Payload) : Payload :=
  payload.filter fun member => decide (member.1 ∉ keys.map PyStr.text)

def stripPrincipalPayload (payload : Payload) : Payload := without principalKeys payload

def stripProofPayload (payload : Payload) : Payload := without proofKeys payload

/-! ## The store -/

/-- A row of `users`; the columns have the texts that are stored. -/
structure UserRow where
  globalRole : String
  status : String

structure SessionRow where
  userId : String
  expiresAt : ℤ

structure ApiKeyRow where
  userId : String
  revoked : Bool

/-- The tables of the control plane.  Sessions and keys are found by the hash
of their secret, users and their organisations by the id of the user. -/
structure Store where
  sessions : String → Option SessionRow := fun _ => none
  apiKeys : String → Option ApiKeyRow := fun _ => none
  users : String → Option UserRow := fun _ => none
  orgIds : String → Finset String := fun _ => ∅

structure User where
  id : String
  globalRole : GlobalRole
  status : UserStatus
  deriving DecidableEq

/-- `GlobalRole(global_role or "member")`. -/
def parseRole (column : String) : Py GlobalRole :=
  if column = "" then .ok .member
  else if column = "admin" then .ok .admin
  else if column = "member" then .ok .member
  else .error .valueError

/-- `UserStatus(status or "active")`. -/
def parseStatus (column : String) : Py UserStatus :=
  if column = "" then .ok .active
  else if column = "active" then .ok .active
  else if column = "disabled" then .ok .disabled
  else .error .valueError

namespace Store

variable (store : Store)

def getUser (userId : String) : Py (Option User) :=
  match store.users userId with
  | none => .ok none
  | some row => do
    let role ← parseRole row.globalRole
    let status ← parseStatus row.status
    return some { id := userId, globalRole := role, status := status }

/-- `principal_for_user` without an active organisation. -/
def principalForUser (user : User) (via : AuthVia) : Py Principal :=
  if nonempty : user.id ≠ "" then
    .ok
      { userId := user.id
        roles := {user.globalRole.value}
        orgIds := store.orgIds user.id
        activeOrgId := none
        via := via
        nonempty := nonempty }
  else .error .valueError

/-- The principal of a user whose proof has been found. -/
def activePrincipal (userId : String) (via : AuthVia) :
    Py (Option Principal) := do
  match ← store.getUser userId with
  | none => return none
  | some user =>
    if user.status = .active then
      return some (← store.principalForUser user via)
    else return none

def deleteSession (tokenHash : String) : Store :=
  { store with
    sessions := fun other =>
      if other = tokenHash then none else store.sessions other }

section Resolve

variable (hashToken : String → String) (now : ℤ)

/-- `resolve_session`, with the store afterwards. -/
def resolveSession (rawToken : PyStr) : Py (Option Principal) × Store :=
  match rawToken with
  | .loneSurrogate _ => (.error (.other "UnicodeEncodeError"), store)
  | .text token =>
    if token = "" then (.ok none, store)
    else
      match store.sessions (hashToken token) with
      | none => (.ok none, store)
      | some row =>
        if row.expiresAt < now then
          (.ok none, store.deleteSession (hashToken token))
        else (store.activePrincipal row.userId .session, store)

/-- `resolve_api_key`. -/
def resolveApiKey (rawKey : PyStr) : Py (Option Principal) :=
  match rawKey with
  | .loneSurrogate _ => .error (.other "UnicodeEncodeError")
  | .text key =>
    if key = "" then .ok none
    else
      match store.apiKeys (hashToken key) with
      | none => .ok none
      | some row =>
        if row.revoked then .ok none
        else store.activePrincipal row.userId .apiKey

end Resolve

end Store

/-- `isinstance(value, str) and value.strip()`, with the stripped string. -/
def nonBlank (value : Json) : Option PyStr :=
  match asStr value with
  | some text => if text.strip = .text "" then none else some text.strip
  | none => none

/-- The stamp names no user, or the user of the proof. -/
def agrees (wire : Option Wire) (principal : Principal) : Bool :=
  wire.all fun stamp => decide (stamp.userId = .text principal.userId)

/-- `rehydrate_principal`, with the store afterwards. -/
def rehydratePrincipal (hashToken : String → String) (now : ℤ)
    (store : Option Store) (wire : Option Wire) (payload : Payload) :
    Py (Option Principal) × Option Store :=
  match store with
  | none => (.ok none, none)
  | some cp =>
    match nonBlank (getKey payload "session_token") with
    | some token =>
      let resolved := cp.resolveSession hashToken now token
      (resolved.1.map (·.filter (agrees wire)), some resolved.2)
    | none =>
      match nonBlank (getKey payload "api_key") with
      | some key =>
        ((cp.resolveApiKey hashToken key).map (·.filter (agrees wire)), some cp)
      | none => (.ok none, some cp)

end ControlPlane

end RoxabiFactory

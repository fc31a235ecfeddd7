import RoxabiFactory.ControlPlane
import RoxabiFactory.SqliteScripts
import RoxabiFactory.PlatformKeys

/-!
# Writes to the identity tables

The store of the control plane and the store of users write to one `auth.db`.
Each of their operations changes rows and commits; none of them rolls back when
a statement raises.
-/

namespace RoxabiFactory

namespace IdentityWrites

open ControlPlane (GlobalRole UserStatus parseRole parseStatus)
open SqliteStatements (Fault)
open UserIdentities (PlatformKey formatPlatformKey)

/-! ## The tables -/

/-- A row of `users`, with the defaults of its columns. -/
structure UserRow where
  id : String
  displayName : Option String
  email : Option String
  createdAt : String
  passwordHash : Option String := none
  globalRole : String := "member"
  status : String := "active"

structure IdentityRow where
  platformKey : String
  platform : String
  platformUid : String
  userId : String

structure InviteRow where
  id : String
  email : String
  tokenHash : String
  invitedBy : String
  status : String
  expiresAt : String
  createdAt : String

structure OrgRow where
  id : String
  name : String
  createdBy : String
  createdAt : String

structure MemberRow where
  orgId : String
  userId : String
  orgRole : String

/-- The tables of `auth.db` that the operations use. -/
structure AuthDb where
  users : List UserRow := []
  identities : List IdentityRow := []
  invites : List InviteRow := []
  orgs : List OrgRow := []
  members : List MemberRow := []

namespace AuthDb

variable (database : AuthDb)

/-- `SELECT … FROM users WHERE id = ?`. -/
def user (userId : String) : Option UserRow :=
  database.users.find? fun row => decide (row.id = userId)

/-- `INSERT INTO users`, with what is raised if the id or the email is not
unique. -/
def insertUser (violation : PyError) (row : UserRow) : Py AuthDb :=
  if database.users.any fun other => decide (other.id = row.id ∨
      row.email.isSome ∧ other.email = row.email) then .error violation
  else .ok { database with users := database.users ++ [row] }

/-- `UPDATE users SET … WHERE id = ?`. -/
def updateUser (violation : PyError) (userId : String)
    (displayName email : Option String) : Py AuthDb :=
  if email.isSome = true ∧ (database.user userId).isSome = true ∧
      database.users.any (fun other => decide (other.id ≠ userId ∧ other.email = email)) = true then
    .error violation
  else .ok { database with
    users := database.users.map fun row =>
      if row.id = userId then
        { row with
          displayName := displayName.orElse fun _ => row.displayName
          email := email.orElse fun _ => row.email }
      else row }

/-- `INSERT INTO dash_invites`. -/
def insertInvite (row : InviteRow) : Py AuthDb :=
  if database.invites.any fun other => decide
      (other.id = row.id ∨ other.tokenHash = row.tokenHash) then
    .error (.other "IntegrityError")
  else .ok { database with invites := database.invites ++ [row] }

/-- `UPDATE dash_invites SET status = ? WHERE id = ?`. -/
def setInviteStatus (inviteId status : String) : AuthDb :=
  { database with
    invites := database.invites.map fun row =>
      if row.id = inviteId then { row with status := status } else row }

/-- `INSERT INTO organizations`. -/
def insertOrg (row : OrgRow) : Py AuthDb :=
  if database.orgs.any fun other => decide (other.id = row.id) then
    .error (.other "IntegrityError")
  else .ok { database with orgs := database.orgs ++ [row] }

/-- `INSERT INTO org_members`. -/
def insertMember (row : MemberRow) : Py AuthDb :=
  if database.members.any fun other => decide
      (other.orgId = row.orgId ∧ other.userId = row.userId) then
    .error (.other "IntegrityError")
  else .ok { database with members := database.members ++ [row] }

/-- The keys of a user on a platform. -/
def keysOf (userId platform : String) : List String := (database.identities.filter fun row => decide
    (row.userId = userId ∧ row.platform = platform)).map IdentityRow.platformKey

/-- `DELETE FROM platform_identities WHERE user_id = ? AND platform = ?`, for
the keys other than one that is kept. -/
def deleteIdentities (userId platform : String) (kept : Option String) :
    AuthDb :=
  { database with
    identities := database.identities.filter fun row => !decide
      (row.userId = userId ∧ row.platform = platform ∧ some row.platformKey ≠ kept) }

/-- `INSERT INTO platform_identities`. -/
def insertIdentity (row : IdentityRow) : Py AuthDb :=
  if database.identities.any fun other => decide (other.platformKey = row.platformKey ∨
        other.platform = row.platform ∧ other.platformUid = row.platformUid)
  then .error (.other "IntegrityError")
  else .ok { database with identities := database.identities ++ [row] }

end AuthDb

/-! ## Operations -/

/-- What the operations use of the standard library. -/
structure WriteTools where
  lowerCase : LowerCase
  /-- `_parse_ts`. -/
  parseTs : String → Py ℤ
  isoformat : ℤ → String
  hashPassword : String → Py String
  hashToken : String → String

/-- `ControlPlaneUser`. -/
structure ControlPlaneUser where
  id : String
  email : Option String
  displayName : Option String
  globalRole : GlobalRole
  status : UserStatus
  createdAt : ℤ
  hasPassword : Bool
  deriving DecidableEq

/-- `User` of the user store. -/
structure ProfileUser where
  id : String
  displayName : Option String
  email : Option String
  createdAt : ℤ
  deriving DecidableEq

/-- `InviteRecord` of an invite that is pending. -/
structure InviteRecord where
  id : String
  email : String
  invitedBy : String
  expiresAt : ℤ
  createdAt : ℤ
  deriving DecidableEq

structure OrgRecord where
  id : String
  name : String
  createdBy : String
  createdAt : ℤ
  deriving DecidableEq

inductive Reply
  | user (user : ControlPlaneUser)
  | invite (record : InviteRecord) (token : String)
  | org (record : OrgRecord)
  | profile (user : Option ProfileUser)
  | done
  deriving DecidableEq

abbrev IdentityScript := SqliteScript AuthDb PyError Reply

section Operations

variable (tools : WriteTools)

/-- `_normalize_email`. -/
def normalizeEmail (email : String) : String := tools.lowerCase.lower (PythonStr.strip email)

/-- `_row_user`. -/
def rowUser (row : UserRow) : Py ControlPlaneUser := do
  let globalRole ← parseRole row.globalRole
  let status ← parseStatus row.status
  let createdAt ← tools.parseTs row.createdAt
  return ⟨row.id, row.email, row.displayName, globalRole, status, createdAt,
    row.passwordHash.any (· ≠ "")⟩

/-- `User(…)`. -/
def profileUser (row : UserRow) : Py ProfileUser := do
  let createdAt ← tools.parseTs row.createdAt
  return ⟨row.id, row.displayName, row.email, createdAt⟩

/-- Go on with the value, or raise. -/
def tryThen {α : Type} (value : Py α) (next : α → IdentityScript) :
    IdentityScript :=
  match value with
  | .ok found => next found
  | .error raised => .finish (.error raised)

/-- `get_user` of the control plane. -/
def getUser (userId : String) (next : Option ControlPlaneUser → IdentityScript) : IdentityScript :=
  .read fun database =>
    match database.user userId with
    | none => next none
    | some row => tryThen (rowUser tools row) fun user => next (some user)

/-- `get_user_by_email`. -/
def getUserByEmail (email : String)
    (next : Option ControlPlaneUser → IdentityScript) : IdentityScript :=
  .read fun database =>
    match database.users.find? fun row => decide
      (row.email = some (normalizeEmail tools email)) with
    | none => next none
    | some row => tryThen (rowUser tools row) fun user => next (some user)

/-- `display_name or normalized.split("@", 1)[0]`. -/
def nameOrLocalPart (displayName : Option String) (normalized : String) :
    String :=
  match displayName.filter (· ≠ "") with
  | some name => name
  | none => String.ofList (normalized.toList.takeWhile (· ≠ '@'))

/-- `create_user`; `newId` and `now` are the id that is drawn and the time of
the database. -/
def createUser (email password : String) (globalRole : GlobalRole)
    (displayName userId : Option String) (newId now : String)
    (next : ControlPlaneUser → IdentityScript) : IdentityScript :=
  let normalized := normalizeEmail tools email
  if normalized = "" then .finish (.error .valueError)
  else
    let uid := (userId.filter (· ≠ "")).getD newId
    tryThen (tools.hashPassword password) fun pwHash =>
      let name := PythonStr.strip (nameOrLocalPart displayName normalized)
      .modify (fun database => database.insertUser .valueError
        ⟨uid, some name, some normalized, now, some pwHash, globalRole.value, "active"⟩) <|
      .commit <|
      getUser tools uid fun user =>
        match user with
        | none => .finish (.error (.other "RuntimeError"))
        | some user => next user

/-- `create_invite`. -/
def createInvite (email invitedBy : String) (expiresAt : ℤ)
    (rawToken : Option String) (newToken newId : String) (now : ℤ) :
    IdentityScript :=
  let normalized := normalizeEmail tools email
  if normalized = "" then .finish (.error .valueError)
  else getUserByEmail tools normalized fun existing =>
    match existing with
    | some _ => .finish (.error .valueError)
    | none =>
      let token := (rawToken.filter (· ≠ "")).getD newToken
      .modify (fun database => database.insertInvite
        ⟨newId, normalized, tools.hashToken token, invitedBy, "pending",
          tools.isoformat expiresAt, tools.isoformat now⟩) <|
      .commit <|
      .finish (.ok (.invite ⟨newId, normalized, invitedBy, expiresAt, now⟩ token))

/-- `accept_invite`. -/
def acceptInvite (rawToken password : String) (displayName : Option String)
    (newId : String) (now : ℤ) (databaseNow : String) : IdentityScript :=
  if rawToken = "" ∨ password = "" then .finish (.error .valueError)
  else .read fun database =>
    match database.invites.find? fun row => decide (row.tokenHash = tools.hashToken rawToken) with
    | none => .finish (.error .valueError)
    | some row =>
      if row.status ≠ "pending" then .finish (.error .valueError)
      else tryThen (tools.parseTs row.expiresAt) fun expiresAt =>
        if expiresAt < now then
          .modify (fun database =>
            .ok (database.setInviteStatus row.id "expired")) <|
          .commit <|
          .finish (.error .valueError)
        else getUserByEmail tools row.email fun existing =>
          match existing with
          | some _ => .finish (.error .valueError)
          | none =>
            createUser tools row.email password .member displayName none
              newId databaseNow fun user =>
            .modify (fun database =>
              .ok (database.setInviteStatus row.id "accepted")) <|
            .commit <|
            .finish (.ok (.user user))

/-- `create_org`. -/
def createOrg (name createdBy newId : String) (now : ℤ) : IdentityScript :=
  let label := PythonStr.strip name
  if label = "" then .finish (.error .valueError)
  else
    .modify (fun database => database.insertOrg ⟨newId, label, createdBy, tools.isoformat now⟩) <|
    .modify (fun database => database.insertMember ⟨newId, createdBy, "owner"⟩) <|
    .commit <|
    .finish (.ok (.org ⟨newId, label, createdBy, now⟩))

/-- `create_profile_user`. -/
def createProfileUser (displayName email newId now : String) :
    IdentityScript :=
  let name := PythonStr.strip displayName
  let normalized := normalizeEmail tools email
  if name = "" then .finish (.error .valueError)
  else if normalized = "" then .finish (.error .valueError)
  else
    .modify (fun database => database.insertUser .valueError
      ⟨newId, some name, some normalized, now, none, "member", "active"⟩) <|
    .commit <|
    .read fun database =>
      match database.user newId with
      | none => .finish (.error (.other "RuntimeError"))
      | some row => tryThen (profileUser tools row) fun user =>
        .finish (.ok (.profile (some user)))

/-- `get_user` of the user store. -/
def getProfile (userId : String) : IdentityScript := .read fun database =>
    match database.user userId with
    | none => .finish (.ok (.profile none))
    | some row => tryThen (profileUser tools row) fun user =>
      .finish (.ok (.profile (some user)))

/-- A value that is given, after its normalization, is not empty. -/
def checkGiven (normalize : String → String) (value : Option String) : Py (Option String) :=
  match value with
  | none => .ok none
  | some text =>
    if normalize text = "" then .error .valueError
    else .ok (some (normalize text))

/-- `update_profile_user`. -/
def updateProfileUser (userId : String) (displayName email : Option String) :
    IdentityScript :=
  if displayName.isNone ∧ email.isNone then getProfile tools userId
  else .read fun database =>
    match database.user userId with
    | none => .finish (.ok (.profile none))
    | some _ =>
      tryThen (checkGiven PythonStr.strip displayName) fun name =>
      tryThen (checkGiven (normalizeEmail tools) email) fun normalized =>
      .modify (fun database =>
        database.updateUser .valueError userId name normalized) <|
      .commit <|
      getProfile tools userId

/-- `set_platform_identity`; `keyToUser` is the map of the store. -/
def setPlatformIdentity (keyToUser : String → Option String)
    (userId platform : String) (platformUid : Option String) :
    IdentityScript :=
  .read fun database =>
    match database.user userId with
    | none => .finish (.error .valueError)
    | some _ =>
      let uid := PythonStr.strip (platformUid.getD "")
      .read fun database =>
        let oldKeys := database.keysOf userId platform
        if uid = "" then
          if oldKeys = [] then .finish (.ok .done)
          else
            .modify (fun database =>
              .ok (database.deleteIdentities userId platform none)) <|
            .commit <|
            .finish (.ok .done)
        else
          match formatPlatformKey platform uid with
          | none => .finish (.error .valueError)
          | some key =>
            let attach : IdentityScript := .modify (fun database => database.insertIdentity
                ⟨key.text, platform, uid, userId⟩) <|
              .commit <|
              .finish (.ok .done)
            if (keyToUser key.text).any (· ≠ userId) then
              .finish (.error .valueError)
            else if (oldKeys.filter (· ≠ key.text)) ≠ [] then
              .modify (fun database => .ok (database.deleteIdentities userId platform
                  (some key.text))) <|
              if (keyToUser key.text).isNone then attach
              else .commit <| .finish (.ok .done)
            else if (keyToUser key.text).isNone then attach
            else .finish (.ok .done)

inductive Call
  | createUser (email password : String) (globalRole : GlobalRole)
      (displayName userId : Option String) (newId now : String)
  | createInvite (email invitedBy : String) (expiresAt : ℤ)
      (rawToken : Option String) (newToken newId : String) (now : ℤ)
  | acceptInvite (rawToken password : String) (displayName : Option String)
      (newId : String) (now : ℤ) (databaseNow : String)
  | createOrg (name createdBy newId : String) (now : ℤ)
  | createProfileUser (displayName email newId now : String)
  | updateProfileUser (userId : String) (displayName email : Option String)
  | setPlatformIdentity (keyToUser : String → Option String)
      (userId platform : String) (platformUid : Option String)

def Call.script : Call → IdentityScript
  | createUser email password globalRole displayName userId newId now =>
    IdentityWrites.createUser tools email password globalRole displayName
      userId newId now fun user => .finish (.ok (.user user))
  | createInvite email invitedBy expiresAt rawToken newToken newId now =>
    IdentityWrites.createInvite tools email invitedBy expiresAt rawToken newToken newId now
  | acceptInvite rawToken password displayName newId now databaseNow =>
    IdentityWrites.acceptInvite tools rawToken password displayName newId now databaseNow
  | createOrg name createdBy newId now =>
    IdentityWrites.createOrg tools name createdBy newId now
  | createProfileUser displayName email newId now =>
    IdentityWrites.createProfileUser tools displayName email newId now
  | updateProfileUser userId displayName email =>
    IdentityWrites.updateProfileUser tools userId displayName email
  | setPlatformIdentity keyToUser userId platform platformUid =>
    IdentityWrites.setPlatformIdentity keyToUser userId platform platformUid

/-- A call over the connection, in which a statement may fail. -/
def Call.run (call : Call) (plan : Option (ℕ × Fault))
    (db : SqliteConnection AuthDb) : Py Reply × SqliteConnection AuthDb :=
  (call.script tools).run Fault.error plan db

/-- The connection after calls, whatever they return. -/
def serve (calls : List (Call × Option (ℕ × Fault)))
    (db : SqliteConnection AuthDb) : SqliteConnection AuthDb :=
  calls.foldl (fun db call => (call.1.run tools call.2 db).2) db

end Operations

/-! ## Calls that raise -/

open SqliteScript

section Tidy

variable {tools : WriteTools}

theorem tidy_tryThen {α : Type} {value : Py α} {next : α → IdentityScript}
    (tidy : ∀ found, Tidy false (next found)) :
    Tidy false (tryThen value next) := by
  cases value with
  | error raised => rfl
  | ok found => exact tidy found

theorem tidy_getUser {userId : String} {next : Option ControlPlaneUser → IdentityScript}
    (tidy : ∀ found, Tidy false (next found)) :
    Tidy false (getUser tools userId next) := by
  intro database
  dsimp only
  split
  · exact tidy none
  · exact tidy_tryThen fun user => tidy (some user)

theorem tidy_getUserByEmail {email : String} {next : Option ControlPlaneUser → IdentityScript}
    (tidy : ∀ found, Tidy false (next found)) :
    Tidy false (getUserByEmail tools email next) := by
  intro database
  dsimp only
  split
  · exact tidy none
  · exact tidy_tryThen fun user => tidy (some user)

theorem tidy_getProfile {userId : String} :
    Tidy false (getProfile tools userId) := by
  intro database
  dsimp only
  split
  · trivial
  · exact tidy_tryThen fun _ => trivial

theorem tidy_committed {pending : Bool} {change : AuthDb → Py AuthDb}
    {next : IdentityScript} (tidy : Tidy false next) :
    Tidy pending (.modify change (.commit next)) :=
  tidy

theorem tidy_createUser {email password newId now : String}
    {globalRole : GlobalRole} {displayName userId : Option String}
    {next : ControlPlaneUser → IdentityScript}
    (tidy : ∀ user, Tidy false (next user)) :
    Tidy false (createUser tools email password globalRole displayName userId
      newId now next) := by
  unfold createUser
  dsimp only
  split
  · rfl
  · apply tidy_tryThen
    intro hash
    apply tidy_committed
    apply tidy_getUser
    intro found
    split
    · rfl
    · exact tidy _

theorem tidy_acceptInvite {rawToken password newId databaseNow : String}
    {displayName : Option String} {now : ℤ} :
    Tidy false (acceptInvite tools rawToken password displayName newId now databaseNow) := by
  unfold acceptInvite
  split
  · rfl
  · intro database
    dsimp only
    split
    · rfl
    · split
      · rfl
      · apply tidy_tryThen
        intro expiresAt
        split
        · exact tidy_committed rfl
        · apply tidy_getUserByEmail
          intro existing
          split
          · rfl
          · apply tidy_createUser
            intro user
            exact tidy_committed trivial

theorem tidy_setPlatformIdentity {keyToUser : String → Option String}
    {userId platform : String} {platformUid : Option String} :
    Tidy false (setPlatformIdentity keyToUser userId platform platformUid) := by
  intro database
  dsimp only
  split
  · rfl
  · intro database
    dsimp only
    split
    · split
      · trivial
      · exact tidy_committed trivial
    · split
      · rfl
      · split
        · rfl
        · split
          · split
            · trivial
            · exact tidy_committed trivial
          · split
            · exact tidy_committed trivial
            · trivial

theorem tidy_script (tools : WriteTools) (call : Call) :
    Tidy false (call.script tools) := by
  cases call with
  | createUser =>
    apply tidy_createUser
    intro user
    trivial
  | createInvite =>
    dsimp only [Call.script, createInvite]
    split
    · rfl
    · apply tidy_getUserByEmail
      intro existing
      split
      · rfl
      · exact tidy_committed trivial
  | acceptInvite => exact tidy_acceptInvite
  | createOrg =>
    dsimp only [Call.script, createOrg]
    split
    · rfl
    · trivial
  | createProfileUser =>
    dsimp only [Call.script, createProfileUser]
    split
    · rfl
    · split
      · rfl
      · apply tidy_committed
        intro database
        dsimp only
        split
        · rfl
        · exact tidy_tryThen fun _ => trivial
  | updateProfileUser =>
    dsimp only [Call.script, updateProfileUser]
    split
    · exact tidy_getProfile
    · intro database
      dsimp only
      split
      · trivial
      · apply tidy_tryThen
        intro name
        apply tidy_tryThen
        intro normalized
        exact tidy_committed tidy_getProfile
  | setPlatformIdentity => exact tidy_setPlatformIdentity

end Tidy

/-- No transaction is open, so that other connections can write, and whatever
is called later, nothing is committed but what these calls change. -/
structure Released (tools : WriteTools) (after : SqliteConnection AuthDb) : Prop where
  closed : after.inTransaction = false
  kept : ∀ later : List (Call × Option (ℕ × Fault)), (serve tools later after).committed =
      (serve tools later (.opened after.committed)).committed

theorem released_iff {tools : WriteTools} {after : SqliteConnection AuthDb} :
    Released tools after ↔ after.inTransaction = false := by
  constructor
  · exact Released.closed
  · intro closed
    refine ⟨closed, fun later => ?_⟩
    have same : SqliteConnection.opened after.committed = after := by
      obtain ⟨committed, current, inTransaction, settled⟩ := after
      cases closed
      cases settled rfl
      rfl
    rw [same]

/-- A call that raises releases the database exactly under the condition on its
statements. -/
theorem failed_released_iff (tools : WriteTools) (call : Call)
    (plan : Option (ℕ × Fault)) (database : AuthDb) :
    (∀ raised, (call.run tools plan (.opened database)).1 = .error raised →
        Released tools (call.run tools plan (.opened database)).2) ↔
      Releases false plan ((call.script tools).sent database) := by
  have closes := @run_closes_iff _ _ _ Fault.error (call.script tools)
    (.opened database) (tidy_script tools call) plan
  refine Iff.trans ?_ closes
  constructor
  · intro released raised isRaised
    exact (released raised isRaised).closed
  · intro closes raised isRaised
    exact released_iff.mpr (closes raised isRaised)

section Example

/-- The tools for ASCII text, without hashes and times. -/
def WriteTools.plain : WriteTools where
  lowerCase := .ascii
  parseTs _ := .ok 0
  isoformat _ := ""
  hashPassword password := .ok password
  hashToken token := token

def registered : AuthDb where
  users := [⟨"rx:user:a", some "Ada", some "ada@x.org", "", none, "member", "active"⟩]

/-- The email is registered already. -/
def registerAgain : Call := .createUser "Ada@x.org" "secret" .member none none "rx:user:b" ""

/-- The call is refused, and its transaction stays open. -/
theorem exists_not_released : ∃ raised, (registerAgain.run .plain none (.opened registered)).1 =
        .error raised ∧
      ¬ Released .plain (registerAgain.run .plain none (.opened registered)).2 := by
  refine ⟨.valueError, by decide, fun released => ?_⟩
  have inside : (registerAgain.run .plain none (.opened registered)).2.inTransaction = true := by
    decide
  rw [released.closed] at inside
  cases inside

end Example

end IdentityWrites

end RoxabiFactory

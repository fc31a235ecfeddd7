import Mathlib.Data.Finset.Image
import Mathlib.Data.Finset.Insert
import Mathlib.Data.Finset.Lattice.Basic
import Mathlib.Data.Finset.Option
import RoxabiFactory.CommandRouter

/-!
# Grants of agents

A grant lets a user or a role use an agent.  A user is known by several
identities, which the user store joins under one id, and a grant to any of
them counts for all.
-/

namespace RoxabiFactory

namespace AgentGrants

inductive PrincipalKind
  | user
  | role
  deriving DecidableEq

inductive Capability
  | use
  | admin
  deriving DecidableEq

structure Principal where
  kind : PrincipalKind
  id : String
  nonempty : id ≠ ""

theorem Principal.eq_iff (principal other : Principal) :
    principal.kind = other.kind ∧ principal.id = other.id ↔ principal = other := by
  cases principal
  cases other
  simp

instance : DecidableEq Principal := fun principal other =>
  decidable_of_iff _ (principal.eq_iff other)

/-- A row of `agent_grants`. -/
structure AgentGrant where
  agentName : String
  principal : Principal
  capability : Capability
  grantedBy : String
  source : String
  createdAt : ℤ
  deriving DecidableEq

/-! ## Identities of users -/

/-- `USER_ID_PREFIX`. -/
def userIdPrefix : String := "rx:user:"

def isUserId (key : String) : Bool := PythonStr.startsWith key userIdPrefix &&
    decide (userIdPrefix.length < key.length)

/-- The two maps that `UserStore` keeps of its identities. -/
structure UserStore where
  keyToUser : String → Option String := fun _ => none
  userToKeys : String → Finset String := fun _ => ∅

namespace UserStore

variable (store : UserStore)

def resolveUserId (platformKey : String) : Option String := store.keyToUser platformKey

def resolvePlatformKeys (userId : String) : Finset String := store.userToKeys userId

def resolveAliases (platformKey : String) : Finset String :=
  match store.keyToUser platformKey with
  | none => {platformKey}
  | some userId => insert platformKey (store.userToKeys userId)

end UserStore

/-- `_expand_user_principals`. -/
def expandUserPrincipals (store : Option UserStore) (userId : String) : Finset String :=
  match store with
  | none => {userId}
  | some users =>
    if isUserId userId then
      insert userId (users.resolvePlatformKeys userId)
    else
      insert userId ((users.resolveUserId userId).toFinset ∪ users.resolveAliases userId)

/-! ## Decisions -/

/-- An `AuthDecision` with its reason. -/
inductive AuthDecision
  /-- `no grants for agent …`. -/
  | noGrants (agentName : String)
  /-- `use granted to user …`. -/
  | grantedToUser (id : String)
  /-- `use granted via role …`. -/
  | grantedViaRole (id : String)
  /-- `no use grant for principals on agent …`. -/
  | noUseGrant (agentName : String)
  deriving DecidableEq

def AuthDecision.allowed : AuthDecision → Bool
  | .grantedToUser _ | .grantedViaRole _ => true
  | .noGrants _ | .noUseGrant _ => false

/-- The loop of `authorize`. -/
def decideGrants (agentName : String) (principals : Finset String)
    (roles : List String) : List AgentGrant → AuthDecision
  | [] => .noUseGrant agentName
  | grant :: rest =>
    if grant.capability = .use then
      match grant.principal.kind with
      | .user =>
        if grant.principal.id ∈ principals then
          .grantedToUser grant.principal.id
        else decideGrants agentName principals roles rest
      | .role =>
        if grant.principal.id ∈ roles then
          .grantedViaRole grant.principal.id
        else decideGrants agentName principals roles rest
    else decideGrants agentName principals roles rest

/-- `authorize` on the grants of an agent. -/
def authorize (store : Option UserStore) (agentName userId : String)
    (roles : List String) (grants : List AgentGrant) : AuthDecision :=
  if grants = [] then .noGrants agentName
  else decideGrants agentName (expandUserPrincipals store userId) roles grants

/-- The grant lets one of the users or of the roles use the agent. -/
def AgentGrant.Serves (grant : AgentGrant) (principals : Finset String)
    (roles : List String) : Prop :=
  grant.capability = .use ∧ (grant.principal.kind = .user ∧ grant.principal.id ∈ principals ∨
      grant.principal.kind = .role ∧ grant.principal.id ∈ roles)

theorem allowed_decideGrants_iff {agentName : String}
    {principals : Finset String} {roles : List String}
    (grants : List AgentGrant) :
    (decideGrants agentName principals roles grants).allowed = true ↔
      ∃ grant ∈ grants, grant.Serves principals roles := by
  induction grants with
  | nil =>
    constructor
    · intro allowed
      cases allowed
    · intro served
      obtain ⟨grant, member, -⟩ := served
      cases member
  | cons grant rest ih =>
    rw [List.exists_mem_cons_iff, ← ih, decideGrants]
    by_cases use : grant.capability = .use
    · rw [if_pos use]
      cases kind : grant.principal.kind with
      | user =>
        by_cases listed : grant.principal.id ∈ principals
        · simp [AgentGrant.Serves, use, kind, listed, AuthDecision.allowed]
        · simp [AgentGrant.Serves, kind, listed]
      | role =>
        by_cases listed : grant.principal.id ∈ roles
        · simp [AgentGrant.Serves, use, kind, listed, AuthDecision.allowed]
        · simp [AgentGrant.Serves, kind, listed]
    · simp [AgentGrant.Serves, use]

/-- Access is allowed exactly by a grant to one of the identities of the user
or to one of the roles. -/
theorem allowed_authorize_iff {store : Option UserStore}
    {agentName userId : String} {roles : List String}
    (grants : List AgentGrant) :
    (authorize store agentName userId roles grants).allowed = true ↔ ∃ grant ∈ grants,
        grant.Serves (expandUserPrincipals store userId) roles := by
  unfold authorize
  split
  · rename_i empty
    subst empty
    constructor
    · intro allowed
      cases allowed
    · intro served
      obtain ⟨grant, member, -⟩ := served
      cases member
  · exact allowed_decideGrants_iff grants

/-! ## The table -/

/-- The row is the one of an agent, a principal and a capability. -/
def AgentGrant.IsFor (grant : AgentGrant) (agentName : String)
    (principal : Principal) (capability : Capability) : Prop :=
  grant.agentName = agentName ∧ grant.principal = principal ∧ grant.capability = capability

instance (grant : AgentGrant) (agentName : String) (principal : Principal)
    (capability : Capability) :
    Decidable (grant.IsFor agentName principal capability) :=
  inferInstanceAs (Decidable (_ ∧ _ ∧ _))

/-- `DO UPDATE SET` on the row that is there, which keeps its date. -/
def AgentGrant.renew (new row : AgentGrant) : AgentGrant :=
  if row.IsFor new.agentName new.principal new.capability then
    { row with grantedBy := new.grantedBy, source := new.source }
  else row

/-- The `INSERT` of `grant`. -/
def insertGrant (new : AgentGrant) (rows : List AgentGrant) : List AgentGrant :=
  if rows.any (·.IsFor new.agentName new.principal new.capability) then
    rows.map new.renew
  else rows ++ [new]

/-- The `DELETE` of `revoke`. -/
def deleteGrant (agentName : String) (principal : Principal)
    (capability : Capability) (rows : List AgentGrant) : List AgentGrant :=
  rows.filter fun row => !decide (row.IsFor agentName principal capability)

theorem AgentGrant.isFor_renew {new row : AgentGrant}
    (found : row.IsFor new.agentName new.principal new.capability) :
    (new.renew row).IsFor new.agentName new.principal new.capability := by
  unfold AgentGrant.renew
  rw [if_pos found]
  exact found

section Filter

variable {new : AgentGrant} {test : AgentGrant → Bool}

theorem filter_insertGrant (apart : ∀ row : AgentGrant,
      row.IsFor new.agentName new.principal new.capability → test row = false)
    (rows : List AgentGrant) :
    (insertGrant new rows).filter test = rows.filter test := by
  have refused {row : AgentGrant} (found : row.IsFor new.agentName new.principal new.capability) :
      ¬ test row = true := by
    rw [apart row found]
    exact Bool.false_ne_true
  unfold insertGrant
  split
  · rename_i found
    clear found
    induction rows with
    | nil => rfl
    | cons row rest ih =>
      rw [List.map_cons]
      by_cases found : row.IsFor new.agentName new.principal new.capability
      · rw [List.filter_cons_of_neg (refused found),
          List.filter_cons_of_neg (refused (AgentGrant.isFor_renew found)), ih]
      · rw [AgentGrant.renew, if_neg found, List.filter_cons, List.filter_cons, ih]
  · rw [List.filter_append, List.filter_cons_of_neg (refused ⟨rfl, rfl, rfl⟩)]
    exact List.append_nil _

theorem filter_deleteGrant {agentName : String} {principal : Principal} {capability : Capability}
    (apart : ∀ row : AgentGrant, row.IsFor agentName principal capability → test row = false)
    (rows : List AgentGrant) :
    (deleteGrant agentName principal capability rows).filter test =
      rows.filter test := by
  unfold deleteGrant
  rw [List.filter_filter]
  apply List.filter_congr
  intro row _
  by_cases found : row.IsFor agentName principal capability
  · rw [apart row found]
    rfl
  · rw [decide_eq_false found]
    exact Bool.and_true _

end Filter

def agentRows (agentName : String) (rows : List AgentGrant) : List AgentGrant :=
  rows.filter (·.agentName = agentName)

/-- The cache has no entry for an agent without grants. -/
def cacheEntry : List AgentGrant → Option (List AgentGrant)
  | [] => none
  | grants => some grants

theorem getD_cacheEntry (grants : List AgentGrant) : (cacheEntry grants).getD [] = grants := by
  cases grants with
  | nil => rfl
  | cons grant rest => rfl

end AgentGrants

end RoxabiFactory

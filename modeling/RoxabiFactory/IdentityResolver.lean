import RoxabiFactory.WireMessages

/-!
# Who sent a message

An adapter forwards a message with a trust level that nobody believes.  The
`Authenticator` of the bot asks the store of bans and grants, and
`resolve_message_trust` writes its answer over what the message says.
-/

namespace RoxabiFactory

open Wire

deriving instance DecidableEq for TrustLevel

inductive Platform
  | telegram
  | discord
  | web
  deriving DecidableEq

namespace Platform

def value : Platform → String
  | .telegram => "telegram"
  | .discord => "discord"
  | .web => "web"

/-- `Platform(platform)`; another string is a `ValueError`. -/
def ofString? : String → Option Platform
  | "telegram" => some .telegram
  | "discord" => some .discord
  | "web" => some .web
  | _ => none

end Platform

structure Identity where
  userId : String
  trustLevel : TrustLevel
  isAdmin : Bool

/-- The wiring of an `Authenticator`: what the stores answer when it asks. -/
structure Authenticator where
  store : Option (String → TrustLevel) := none
  publicCommands : List String := ["/join"]
  adminUserIds : List String := []
  aliasStore : Option (String → List String) := none

namespace Authenticator

variable (authenticator : Authenticator)

/-- `_store_level`; a level that is public says nothing. -/
def storeLevel (userId : String) : Option TrustLevel :=
  match authenticator.store with
  | none => none
  | some check =>
    if check userId ∈ [TrustLevel.owner, .trusted, .blocked] then
      some (check userId)
    else none

/-- The keys of a user, here and on the platforms that are linked. -/
def aliases (userId : String) : List String :=
  match authenticator.aliasStore with
  | some resolveAliases => resolveAliases userId
  | none => [userId]

/-- `_resolve_trust`; roles no longer affect trust. -/
def resolveTrust (userId : Option String) (_roles : List String)
    (command : Option String) : TrustLevel :=
  match userId with
  | none => .blocked
  | some userId =>
    if (authenticator.aliases userId).any fun key =>
        authenticator.storeLevel key = some .blocked then .blocked
    else if command.any (· ∈ authenticator.publicCommands) then .pub
    else .trusted

/-- An empty user id has no aliases and is no admin. -/
def isAdmin (userId : Option String) : Bool :=
  match userId with
  | none => false
  | some userId => userId ≠ "" &&
      (authenticator.aliases userId).any (· ∈ authenticator.adminUserIds)

def resolve (userId : Option String) (roles : List String)
    (command : Option String) : Identity where
  userId := userId.getD ""
  trustLevel := authenticator.resolveTrust userId roles command
  isAdmin := authenticator.isAdmin userId

theorem resolve_roles (userId : Option String) (first second : List String)
    (command : Option String) :
    authenticator.resolve userId first command =
      authenticator.resolve userId second command := by
  rfl

end Authenticator

structure RoutingKey where
  platform : Platform
  botId : String
  scopeId : String
  deriving DecidableEq

def RoutingKey.toPoolId (key : RoutingKey) : String :=
  key.platform.value ++ ":" ++ key.botId ++ ":" ++ key.scopeId

structure Binding where
  agentName : String
  poolId : String
  publicBot : Option String := none

/-- The registries of the hub that the resolver reads. -/
structure IdentityResolver where
  authenticators : Platform → String → Option Authenticator
  bindings : RoutingKey → Option Binding

namespace IdentityResolver

variable (resolver : IdentityResolver)

/-- The authenticator of a bot, when the platform is one and the bot has
one. -/
def authenticatorOf (platform botId : String) : Option Authenticator :=
  (Platform.ofString? platform).bind (resolver.authenticators · botId)

def resolveIdentity (userId : Option String) (platform botId : String) :
    Identity :=
  match Platform.ofString? platform with
  | none =>
    { userId := userId.getD "", trustLevel := .pub, isAdmin := false }
  | some platform =>
    match resolver.authenticators platform botId with
    | none =>
      { userId := userId.getD "", trustLevel := .pub, isAdmin := false }
    | some authenticator => authenticator.resolve userId [] none

/-- The exact key, else the wildcard. -/
def resolveBinding (msg : InboundMessage) : Option Binding :=
  match Platform.ofString? msg.platform with
  | none => none
  | some platform =>
    match resolver.bindings ⟨platform, msg.botId, msg.scopeId⟩ with
    | some exact => some exact
    | none =>
      (resolver.bindings ⟨platform, msg.botId, "*"⟩).map fun wildcard =>
        { wildcard with
          poolId := RoutingKey.toPoolId ⟨platform, msg.botId, msg.scopeId⟩ }

/-- The user of a message; an empty id stands for none. -/
def userOf (msg : InboundMessage) : Option String :=
  if msg.userId = "" then none else some msg.userId

def resolveMessageTrust (msg : InboundMessage) : InboundMessage :=
  match Platform.ofString? msg.platform with
  | none => msg
  | some platform =>
    match resolver.authenticators platform msg.botId with
    | none => msg
    | some authenticator =>
      let identity := authenticator.resolve (userOf msg) msg.roles none
      if identity.trustLevel = msg.trustLevel ∧ identity.isAdmin = msg.isAdmin then msg
      else
        { msg with
          trustLevel := identity.trustLevel
          isAdmin := identity.isAdmin }

section Lemmas

variable {resolver : IdentityResolver} {msg : InboundMessage}
variable {authenticator : Authenticator}

theorem resolveMessageTrust_of_registered
    (registered : resolver.authenticatorOf msg.platform msg.botId = some authenticator) :
    resolver.resolveMessageTrust msg =
      { msg with
        trustLevel := (resolver.resolveIdentity (userOf msg) msg.platform msg.botId).trustLevel
        isAdmin := (resolver.resolveIdentity (userOf msg) msg.platform msg.botId).isAdmin } := by
  unfold authenticatorOf at registered
  unfold resolveMessageTrust resolveIdentity
  cases known : Platform.ofString? msg.platform with
  | none =>
    rw [known] at registered
    cases registered
  | some platform =>
    rw [known] at registered
    have found : resolver.authenticators platform msg.botId =
      some authenticator := registered
    simp only [found, authenticator.resolve_roles (userOf msg) msg.roles []]
    split
    · rename_i same
      rw [same.1, same.2]
    · rfl

theorem resolveMessageTrust_of_unregistered
    (unregistered : resolver.authenticatorOf msg.platform msg.botId = none) :
    resolver.resolveMessageTrust msg = msg := by
  unfold authenticatorOf at unregistered
  unfold resolveMessageTrust
  cases known : Platform.ofString? msg.platform with
  | none => rfl
  | some platform =>
    rw [known] at unregistered
    have missing : resolver.authenticators platform msg.botId = none := unregistered
    simp only [missing]

theorem resolveMessageTrust_eq (resolver : IdentityResolver) (msg : InboundMessage) :
    ∃ trustLevel isAdmin, resolver.resolveMessageTrust msg =
      { msg with trustLevel := trustLevel, isAdmin := isAdmin } := by
  cases found : resolver.authenticatorOf msg.platform msg.botId with
  | none =>
    exact ⟨msg.trustLevel, msg.isAdmin, resolveMessageTrust_of_unregistered found⟩
  | some authenticator =>
    exact ⟨_, _, resolveMessageTrust_of_registered found⟩

end Lemmas

end IdentityResolver

end RoxabiFactory

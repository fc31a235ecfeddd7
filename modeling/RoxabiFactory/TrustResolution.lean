import RoxabiFactory.HubPipeline

/-!
# Trust does not come from the wire

The trust level and the admin flag of a resolved message are those that the
stores give for its sender, so that two messages of one sender come out with
the same trust whatever they say of themselves, and the agent check is skipped
for an admin of the configuration only.  A bot without an authenticator is the
documented exception: its messages keep what the adapter has written.
-/

namespace RoxabiFactory

open Wire

namespace HubPipeline

open IdentityResolver

/-- Two messages name the same user of the same bot. -/
structure SameSender (first second : InboundMessage) : Prop where
  platform : first.platform = second.platform
  botId : first.botId = second.botId
  userId : first.userId = second.userId

/-- What the stores say of the sender of a message. -/
def identityOf (resolver : IdentityResolver) (msg : InboundMessage) :
    Identity :=
  resolver.resolveIdentity (userOf msg) msg.platform msg.botId

theorem identityOf_eq (resolver : IdentityResolver)
    {first second : InboundMessage} (same : SameSender first second) :
    identityOf resolver first = identityOf resolver second := by
  unfold identityOf userOf
  rw [same.platform, same.botId, same.userId]

/-- The authorizer is not asked about the message, whatever comes next. -/
def SkipsCheck (hub : Hub) (authorize : AgentAuthorizer)
    (ctx : PipelineContext) (msg : InboundMessage) : Prop :=
  ∀ next, authorizeAgent hub (some authorize) next msg ctx = next msg ctx

section Stages

variable {hub : Hub} {authorize : AgentAuthorizer} {ctx : PipelineContext}
variable {msg : InboundMessage} {binding : Binding} {agent : Agent}

theorem skipsCheck_iff (bound : ctx.binding = some binding) (found : ctx.agent = some agent) :
    SkipsCheck hub authorize ctx msg ↔ msg.isAdmin = true := by
  constructor
  · intro skips
    by_contra ordinary
    have run := congrArg Run.effects (skips fun _ _ => dropped)
    unfold authorizeAgent at run
    simp only [bound, found, if_neg ordinary] at run
    split at run <;> cases run
  · intro admin next
    unfold authorizeAgent
    simp only [bound, found, if_pos admin]

theorem resolveMessageTrust_forged {resolver : IdentityResolver} {authenticator : Authenticator}
    (registered : resolver.authenticatorOf msg.platform msg.botId =
      some authenticator) (trustLevel : TrustLevel) (isAdmin : Bool) :
    resolver.resolveMessageTrust { msg with trustLevel := trustLevel, isAdmin := isAdmin } =
      resolver.resolveMessageTrust msg := by
  let forged : InboundMessage := { msg with trustLevel := trustLevel, isAdmin := isAdmin }
  have same : resolver.authenticatorOf forged.platform forged.botId =
      some authenticator := registered
  rw [resolveMessageTrust_of_registered registered, resolveMessageTrust_of_registered same]
  rfl

theorem process_forged {authenticator : Authenticator}
    (authorizer : Option AgentAuthorizer) (traceId : String)
    (registered : hub.resolver.authenticatorOf msg.platform msg.botId =
      some authenticator) (trustLevel : TrustLevel) (isAdmin : Bool) :
    process hub authorizer traceId { msg with trustLevel := trustLevel, isAdmin := isAdmin } =
      process hub authorizer traceId msg := by
  let traced : InboundMessage := { msg with traceId := some traceId }
  have known : hub.resolver.authenticatorOf traced.platform traced.botId =
      some authenticator := registered
  have resolved := resolveMessageTrust_forged known trustLevel isAdmin
  unfold process defaultPipeline
  simp only [runFrom, trace, validatePlatform, resolveIdentity]
  rw [resolved]

theorem process_of_unknown_platform (authorizer : Option AgentAuthorizer)
    (traceId : String) (unknown : Platform.ofString? msg.platform = none) :
    process hub authorizer traceId msg = dropped := by
  unfold process defaultPipeline
  simp only [runFrom, trace, validatePlatform, unknown, Option.isSome_none,
    Bool.false_eq_true, if_false]

end Stages

/-- Two messages of one sender: with an authenticator for the bot both get the
trust of the stores, and the agent check is skipped for an admin of the stores
alone; without one both stay as they came. -/
theorem trust_of_sender (hub : Hub) (first second : InboundMessage)
    (same : SameSender first second) :
    (∀ authenticator, hub.resolver.authenticatorOf first.platform first.botId = some authenticator →
      ∀ msg ∈ [first, second],
        let resolved := hub.resolver.resolveMessageTrust msg
        resolved.trustLevel = (identityOf hub.resolver first).trustLevel ∧
        resolved.isAdmin = (identityOf hub.resolver first).isAdmin ∧
        ∀ authorize ctx binding agent, ctx.binding = some binding → ctx.agent = some agent →
          (SkipsCheck hub authorize ctx resolved ↔
            (identityOf hub.resolver first).isAdmin = true)) ∧
    (hub.resolver.authenticatorOf first.platform first.botId = none →
      hub.resolver.resolveMessageTrust first = first ∧
        hub.resolver.resolveMessageTrust second = second) := by
  constructor
  · intro authenticator registered msg listed
    have sender : SameSender msg first := by
      rcases List.mem_pair.1 listed with rfl | rfl
      · exact ⟨rfl, rfl, rfl⟩
      · exact ⟨same.platform.symm, same.botId.symm, same.userId.symm⟩
    have identity := identityOf_eq hub.resolver sender
    rw [← sender.platform, ← sender.botId] at registered
    have resolved := resolveMessageTrust_of_registered registered
    intro copy
    have level : copy.trustLevel = (identityOf hub.resolver msg).trustLevel :=
      congrArg InboundMessage.trustLevel resolved
    have admin : copy.isAdmin = (identityOf hub.resolver msg).isAdmin :=
      congrArg InboundMessage.isAdmin resolved
    rw [identity] at level admin
    refine ⟨level, admin, ?_⟩
    intro authorize ctx binding agent bound found
    rw [skipsCheck_iff bound found, admin]
  · intro unregistered
    constructor
    · exact resolveMessageTrust_of_unregistered unregistered
    · rw [same.platform, same.botId] at unregistered
      exact resolveMessageTrust_of_unregistered unregistered

section Example

theorem messageTime_valid : TimeFields.Valid
    { year := 2026, month := 3, day := 3, offset := some 0 } := by
  decide

/-- A message of a user, with what it says of the user. -/
def wireMessage (text : String) (trustLevel : TrustLevel) (isAdmin : Bool) : InboundMessage where
  id := "m1"
  platform := "telegram"
  botId := "lyra"
  scopeId := "chat:1"
  userId := "tg:user:7"
  userName := "eve"
  isMention := false
  text := text
  textRaw := text
  trustLevel := trustLevel
  isAdmin := isAdmin
  timestamp := ⟨_, messageTime_valid⟩

/-- A router with the given plugin commands and pass-throughs. -/
def exampleRouter (plugins passthroughs : List String) : CommandRouter where
  builtins := fun _ => none
  builtinReply := fun _ _ _ => .ok ⟨""⟩
  sessionHandlers := fun _ => none
  pluginHandlers := fun command =>
    if command ∈ plugins then some { handler := fun _ _ => .ok ⟨"done"⟩ }
    else none
  passthroughs := passthroughs

/-- A hub with one agent, whose users are not linked. -/
def exampleHub (authenticator : Option Authenticator)
    (isReady : Option (String → Bool)) (plugins passthroughs : List String) :
    Hub where
  lowerCase := .ascii
  resolver :=
    { authenticators := fun _ _ => authenticator
      bindings := fun key => some { agentName := "lyra", poolId := key.toPoolId } }
  platformLinkChecker := isReady
  rateLimiter := { limit := 20, window := 60, timestamps := fun _ => [] }
  agentRegistry := fun _ => some { commandRouter := some (exampleRouter plugins passthroughs) }
  adapterRegistry := fun _ _ => true
  resolveContext := fun _ _ => .ok ()

/-- Nobody has a grant. -/
def denyAll : AgentAuthorizer := fun _ _ _ =>
  { allowed := false, reason := "no matching grant" }

theorem process_forged_hello :
    process (exampleHub (some {}) none [] []) none "t1" (wireMessage "hello" .owner true) =
      process (exampleHub (some {}) none [] []) none "t1" (wireMessage "hello" .pub false) :=
  @process_forged _ (wireMessage "hello" .pub false) {} none "t1" rfl .owner true

/-- A message that says to be from an admin is resolved like one that does
not. -/
theorem trust_of_forged_admin :
    let hub := exampleHub (some {}) none [] []
    let forged := wireMessage "hello" .owner true
    let plain := wireMessage "hello" .pub false
    (hub.resolver.resolveMessageTrust forged).isAdmin = false ∧
      (hub.resolver.resolveMessageTrust plain).isAdmin = false := by
  intro hub forged plain
  have resolved := (trust_of_sender hub forged plain ⟨rfl, rfl, rfl⟩).1 {} rfl
  have forged_trust := resolved forged List.mem_cons_self
  have plain_trust := resolved plain (List.mem_cons_of_mem _ List.mem_cons_self)
  exact ⟨forged_trust.2.1, plain_trust.2.1⟩

/-- The terminal action of a run that ends without an error. -/
def Run.action (run : Run) : Option Action :=
  match run.result with
  | .ok result => some result.action
  | .error _ => none

/-- A bot has no authenticator.  Two messages of one user keep different
flags, though the user is no admin, and the one that claims to be an admin's
reaches an agent without its authorizer being asked. -/
theorem exists_trust_from_wire :
    let hub := exampleHub none none [] []
    let forged := wireMessage "hello" .owner true
    let plain := wireMessage "hello" .pub false
    SameSender forged plain ∧
    (hub.resolver.resolveMessageTrust forged).isAdmin = true ∧
    (hub.resolver.resolveMessageTrust plain).isAdmin = false ∧
    (identityOf hub.resolver forged).isAdmin = false ∧
    (process hub (some denyAll) "t1" forged).action = some .submitToPool ∧
    (process hub (some denyAll) "t1" forged).effects = [] ∧
    (process hub (some denyAll) "t1" plain).action = some .commandHandled := by
  refine ⟨⟨rfl, rfl, rfl⟩, rfl, rfl, rfl, ?_, ?_, ?_⟩
  all_goals decide

end Example

end HubPipeline

end RoxabiFactory

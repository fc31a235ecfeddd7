import Mathlib.Algebra.Order.Ring.Unbundled.Rat
import RoxabiFactory.CommandRouter
import RoxabiFactory.IdentityResolver

/-!
# The inbound pipeline of the hub

A message goes through a chain of stages.  Each stage ends the chain with a
`PipelineResult` or hands the message and the context to the next one; the
last stage submits the message to its pool.  A run records when the authorizer
is asked, when the handler of a command is called, and the replies that the
speech-to-text stage sends by itself.
-/

namespace RoxabiFactory

open Wire

/-- The sliding window of a user; a user without an entry has no times. -/
structure RateLimiter where
  limit : ℕ
  window : ℚ
  timestamps : String × String × String → List ℚ

namespace RateLimiter

/-- `is_limited_by_key`: the answer, and the times of the user afterwards. -/
def isLimitedByKey (limiter : RateLimiter) (now : ℚ)
    (key : String × String × String) : Bool × List ℚ :=
  let kept := (limiter.timestamps key).dropWhile fun time =>
    decide (time < now - limiter.window)
  if kept ≠ [] ∧ limiter.limit ≤ kept.length then (true, kept)
  else (false, kept ++ [now])

def isLimited (limiter : RateLimiter) (now : ℚ) (msg : InboundMessage) : Bool :=
  (limiter.isLimitedByKey now (msg.platform, msg.botId, msg.userId)).1

end RateLimiter

namespace HubPipeline

inductive Action
  | drop
  | commandHandled
  | submitToPool
  deriving DecidableEq

structure PipelineResult where
  action : Action
  response : Option Response := none
  pool : Option String := none
  /-- The message after the stages have changed it. -/
  msg : Option InboundMessage := none

inductive Effect
  /-- `authorizer.authorize`. -/
  | authorized (agentName userId : String) (roles : List String)
  /-- The handler of the command is called. -/
  | executed (command : String)
  /-- `hub.dispatch_response`. -/
  | replied (content : String)
  deriving DecidableEq

/-- What a message comes to, and what happens on the way. -/
structure Run where
  result : Except PyException PipelineResult
  effects : List Effect := []

/-- The effects happen before the run. -/
def Run.after (run : Run) (effects : List Effect) : Run where
  result := run.result
  effects := effects ++ run.effects

def ended (result : PipelineResult) : Run where
  result := .ok result

/-- `DROP`. -/
def dropped : Run :=
  ended { action := .drop }

def handled (content : String) : Run :=
  ended { action := .commandHandled, response := some ⟨content⟩ }

/-- The stages before are missing. -/
def outOfOrder : Run where
  result := .error (.runtimeError "RuntimeError")

structure AuthDecision where
  allowed : Bool
  reason : String

/-- `AgentAuthorizer.authorize`. -/
abbrev AgentAuthorizer := String → String → List String → AuthDecision

structure Agent where
  commandRouter : Option CommandRouter

structure PipelineContext where
  key : Option RoutingKey := none
  binding : Option Binding := none
  agent : Option Agent := none
  pool : Option String := none
  router : Option CommandRouter := none

inductive SttOutcome
  | transcribed (text : String) (language : Option String)
  | noise
  | unavailable
  /-- A time-out or one of the errors that the stage catches. -/
  | failed
  | raised (exc : PyException)

structure Hub where
  lowerCase : LowerCase
  resolver : IdentityResolver
  /-- `is_platform_chat_ready`. -/
  platformLinkChecker : Option (String → Bool) := none
  rateLimiter : RateLimiter
  now : ℚ := 0
  msgManager : Option MessageManager := none
  stt : Option (BlobRef → String → SttOutcome) := none
  agentRegistry : String → Option Agent
  adapterRegistry : Platform → String → Bool
  /-- `circuit_breaker_drop`. -/
  circuitOpen : Bool := false
  /-- `resolve_context`, which reads the message that is replied to. -/
  resolveContext : Option String → String → Except PyException Unit

abbrev Next := InboundMessage → PipelineContext → Run

abbrev Middleware := Next → Next

def trace (traceId : String) : Middleware := fun next msg ctx =>
  next { msg with traceId := some traceId } ctx

def validatePlatform : Middleware := fun next msg ctx =>
  if (Platform.ofString? msg.platform).isSome then next msg ctx else dropped

def resolveIdentity (hub : Hub) : Middleware := fun next msg ctx =>
  let resolved := hub.resolver.resolveMessageTrust msg
  if resolved.trustLevel = .blocked then dropped else next resolved ctx

/-- `GATED_CHAT_PLATFORMS`. -/
def gatedChatPlatforms : List String := ["telegram", "discord"]

def platformRequiresLink (lowerCase : LowerCase) (platform : String) : Bool :=
  decide (lowerCase.lower platform ∈ gatedChatPlatforms)

/-- `_LINK_CMD_PREFIXES`. -/
def linkCmdPrefixes : List String :=
  ["/link", "/join", "/invite", "/unpair", "/unlink", "!link", "!join"]

def unlinkedRefusal : String :=
  "Account not linked for chat. Open the Dashboard → Link accounts, " ++
  "then send \x60/link <code>\x60 here for Telegram and Discord."

/-- The text looks like a pairing command. -/
def isLinkText (lowerCase : LowerCase) (text : String) : Bool := linkCmdPrefixes.any
    (PythonStr.startsWith (lowerCase.lower (PythonStr.strip text)))

def platformLink (hub : Hub) : Middleware := fun next msg ctx =>
  if platformRequiresLink hub.lowerCase msg.platform = false then next msg ctx
  else if isLinkText hub.lowerCase msg.text then next msg ctx
  else
    match hub.platformLinkChecker with
    | none => next msg ctx
    | some isReady =>
      if isReady msg.userId then next msg ctx else handled unlinkedRefusal

/-- Another string than a platform is a `ValueError`. -/
def rateLimit (hub : Hub) : Middleware := fun next msg ctx =>
  match Platform.ofString? msg.platform with
  | none => { result := .error (.valueError "ValueError") }
  | some platform =>
    if hub.rateLimiter.isLimited hub.now msg then dropped
    else next msg { ctx with key := some ⟨platform, msg.botId, msg.scopeId⟩ }

/-- The text of a key, or the fallback without a message manager. -/
def sttText (hub : Hub) (key : String) : String :=
  match hub.msgManager with
  | some get => get key []
  | none => "Voice messages are not supported — STT is not configured."

def maxTranscriptLen : ℕ := 8000

/-- The speech-to-text stage has answered and drops the message. -/
def sttDropped (hub : Hub) (key : String) : Run := dropped.after [.replied (sttText hub key)]

def stt (hub : Hub) : Middleware := fun next msg ctx =>
  match msg.modality with
  | some .voice =>
    if msg.text ≠ "" then next msg ctx
    else
      match hub.msgManager, hub.stt with
      | none, _ => sttDropped hub "stt_unsupported"
      | some _, none => sttDropped hub "stt_unsupported"
      | some _, some transcribe =>
        match msg.audio with
        | none => dropped
        | some audio =>
          match audio.blobRef with
          | none => sttDropped hub "stt_failed"
          | some blobRef =>
            match transcribe blobRef audio.mimeType with
            | .failed => sttDropped hub "stt_failed"
            | .noise => sttDropped hub "stt_noise"
            | .unavailable => sttDropped hub "stt_unavailable"
            | .raised exc => { result := .error exc }
            | .transcribed text language =>
              let transcript := PythonStr.strip text
              if PythonStr.startsWith transcript "/" then
                sttDropped hub "stt_invalid"
              else if maxTranscriptLen < transcript.length then
                sttDropped hub "stt_too_long"
              else
                (next
                  { msg with
                    text := transcript
                    textRaw := "🎤 " ++ transcript
                    language := language
                    audio := none } ctx).after
                  [.replied ("🎤 " ++ transcript)]
  | _ => next msg ctx

def resolveBinding (hub : Hub) : Middleware := fun next msg ctx =>
  if ctx.key.isNone then outOfOrder
  else
    match hub.resolver.resolveBinding msg with
    | none => dropped
    | some binding =>
      match hub.agentRegistry binding.agentName with
      | none => dropped
      | some agent =>
        next msg { ctx with binding := some binding, agent := some agent }

/-- `_DEFAULT_PUBLIC_SURFACE`. -/
def defaultPublicSurface : String := "https://factory.roxabi.dev"

/-- The refusal; an empty text or handle counts as none. -/
def unauthorizedText (hub : Hub) (binding : Binding) : String :=
  let publicBot := (binding.publicBot.filter (· ≠ "")).getD defaultPublicSurface
  let fallback := "Access not authorized for this agent — visit " ++ defaultPublicSurface
  match hub.msgManager with
  | none => fallback
  | some get =>
    let text := get "agent_unauthorized" [("public_bot", publicBot)]
    if text = "" then fallback else text

def authorizeAgent (hub : Hub) (authorizer : Option AgentAuthorizer) :
    Middleware := fun next msg ctx =>
  match ctx.binding, ctx.agent, authorizer with
  | some binding, some _, some authorize =>
    if msg.isAdmin then next msg ctx
    else
      let asked := [Effect.authorized binding.agentName msg.userId msg.roles]
      if (authorize binding.agentName msg.userId msg.roles).allowed then
        (next msg ctx).after asked
      else (handled (unauthorizedText hub binding)).after asked
  | _, _, _ => next msg ctx

/-- A command in the text takes the place of one that came with the
message. -/
def withCommand (lowerCase : LowerCase) (msg : InboundMessage) :
    InboundMessage :=
  match CommandParser.parse lowerCase msg.text with
  | some command => { msg with command := some command }
  | none => msg

def messagePrep (hub : Hub) : Middleware := fun next msg ctx =>
  match ctx.binding, ctx.agent with
  | some binding, some agent =>
    let parsed := withCommand hub.lowerCase msg
    let prepared := match agent.commandRouter with
      | some router => router.prepare parsed
      | none => parsed
    next prepared
      { ctx with
        pool := some binding.poolId
        router := agent.commandRouter }
  | _, _ => outOfOrder

/-- The errors that `_dispatch_command` answers with the generic text. -/
def isDispatchError : PyException → Bool
  | .valueError _ | .typeError _ | .providerError _ | .runtimeError _
  | .keyError => true
  | _ => false

def genericErrorReply (hub : Hub) : String :=
  match hub.msgManager with
  | some get => get "generic" []
  | none => "Something went wrong. Please try again."

/-- `_dispatch_command`. -/
def dispatchCommand (hub : Hub) (router : CommandRouter) : Middleware :=
  fun next msg ctx =>
    let dispatch := router.dispatch msg
    let executed := dispatch.executed.map Effect.executed
    match dispatch.answer with
    | .error exc =>
      if isDispatchError exc then
        (handled (genericErrorReply hub)).after executed
      else { result := .error exc, effects := executed }
    | .ok none => (next msg ctx).after executed
    | .ok (some response) =>
      (ended { action := .commandHandled, response := some response }).after executed

/-- `msg.text.split()[0] if msg.text` raises when the text is blank. -/
def command (hub : Hub) : Middleware := fun next msg ctx =>
  match ctx.pool, ctx.key with
  | some _, some _ =>
    match ctx.router with
    | some router =>
      if router.isCommand msg then
        if msg.text ≠ "" ∧ PythonStr.words msg.text = [] then
          { result := .error (.other "IndexError") }
        else dispatchCommand hub router next msg ctx
      else next msg ctx
    | none => next msg ctx
  | _, _ => outOfOrder

/-- A `RuntimeError` of the session resume is logged. -/
def submitToPool (hub : Hub) : Middleware := fun _ msg ctx =>
  match ctx.pool, ctx.key with
  | some pool, some key =>
    if hub.adapterRegistry key.platform msg.botId = false then dropped
    else if hub.circuitOpen then dropped
    else
      match hub.resolveContext msg.replyToId pool with
      | .error exc =>
        if exc.isRuntimeError then
          ended { action := .submitToPool, pool := some pool,
                  msg := some msg }
        else { result := .error exc }
      | .ok () =>
        ended { action := .submitToPool, pool := some pool, msg := some msg }
  | _, _ => outOfOrder

/-- `build_default_pipeline`. -/
def defaultPipeline (hub : Hub) (authorizer : Option AgentAuthorizer)
    (traceId : String) : List Middleware :=
  [trace traceId, validatePlatform, resolveIdentity hub, platformLink hub,
    rateLimit hub, stt hub, resolveBinding hub, authorizeAgent hub authorizer,
    messagePrep hub, command hub, submitToPool hub]

/-- The chain from a stage on; past the last stage a message is dropped. -/
def runFrom : List Middleware → Next
  | [] => fun _ _ => dropped
  | middleware :: rest => middleware (runFrom rest)

/-- `MiddlewarePipeline.process`. -/
def process (hub : Hub) (authorizer : Option AgentAuthorizer)
    (traceId : String) (msg : InboundMessage) : Run :=
  runFrom (defaultPipeline hub authorizer traceId) msg {}

end HubPipeline

end RoxabiFactory

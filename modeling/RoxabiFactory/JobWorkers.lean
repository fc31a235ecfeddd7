import RoxabiFactory.CliNonStreaming
import RoxabiFactory.StreamingPublish

/-!
# One result for each job

Both job workers run a job in a task of its own, outside the guard of the
dispatcher, and publish its result themselves.  A computation of a worker is
the results it publishes on the job's result subject and how it ends; an
exception that leaves the task is only logged.  What the pools, the backends
and the bus answer is given by a structure of replies, in which every call
may raise; publishing itself succeeds.
-/

namespace RoxabiFactory

/-- A computation of a worker: the job results it publishes, in order, and
its value or the exception it raises. -/
structure JobM (α : Type) where
  results : List JobResult := []
  ending : Py α

namespace JobM

instance : Monad JobM where
  pure value := { ending := .ok value }
  bind first next :=
    match first.ending with
    | .ok value =>
      { results := first.results ++ (next value).results
        ending := (next value).ending }
    | .error raised => { results := first.results, ending := .error raised }

/-- A call that publishes no result. -/
def call {α : Type} (reply : Py α) : JobM α := { ending := reply }

def publish (result : JobResult) : JobM Unit := { results := [result], ending := .ok () }

/-- `try: body except Exception as exc: handler(exc)`. -/
def tryExcept (body : JobM Unit) (handler : PyError → JobM Unit) : JobM Unit :=
  match body.ending with
  | .ok () => body
  | .error raised =>
    { results := body.results ++ (handler raised).results
      ending := (handler raised).ending }

/-- `try: body finally: cleanup`. -/
def withFinally (body cleanup : JobM Unit) : JobM Unit :=
  { results := body.results ++ cleanup.results
    ending := match cleanup.ending with
      | .ok () => body.ending
      | .error raised => .error raised }

variable {α : Type} {next : α → JobM Unit}

@[simp]
theorem pure_bind (value : α) : ((pure value : JobM α) >>= next) = next value :=
  rfl

@[simp]
theorem call_ok_bind (value : α) : ((call (.ok value) : JobM α) >>= next) = next value :=
  rfl

@[simp]
theorem call_error_bind (raised : PyError) : ((call (.error raised) : JobM α) >>= next) =
      { ending := .error raised } :=
  rfl

@[simp]
theorem tryExcept_error (raised : PyError) (handler : PyError → JobM Unit) :
    tryExcept { ending := .error raised } handler = handler raised :=
  rfl

end JobM

/-- The payload of a `JobEnvelope`, a dictionary. -/
abbrev JobPayload := List (PyStr × Json)

/-- `payload.get(key, default)`. -/
def JobPayload.getOr (payload : JobPayload) (key : String) (default : Json) : Json :=
  (payload.lookup (.text key)).getD default

/-- `payload.get(key)`. -/
def JobPayload.get (payload : JobPayload) (key : String) : Json := payload.getOr key .null

/-- The lax conversions of pydantic that `ModelConfig` uses. -/
structure PydanticLax where
  acceptsInt : Json → Bool
  acceptsBool : Json → Bool

def Json.isStr (value : Json) : Bool := value.asText.isSome

/-- `ModelConfig.model_validate` accepts the value. -/
def modelConfigAccepts (lax : PydanticLax) : Json → Bool
  | .obj members =>
    let field (key : String) (accepts : Json → Bool) : Bool :=
      (members.lookup (.text key)).all accepts
    let orNone (accepts : Json → Bool) : Json → Bool
      | .null => true
      | value => accepts value
    field "backend" (fun value =>
      ["claude-cli", "nats", "omp-rpc"].any value.isText) &&
    field "model" Json.isStr &&
    field "max_turns" (orNone lax.acceptsInt) &&
    field "tools" (fun
      | .arr items => items.all Json.isStr
      | _ => false) &&
    field "cwd" (orNone Json.isStr) &&
    field "skip_permissions" lax.acceptsBool &&
    field "streaming" lax.acceptsBool &&
    field "effort" (orNone fun value =>
      ["low", "medium", "high", "xhigh", "max"].any value.isText)
  | _ => false

/-- `ModelConfig.model_validate`, for its exception. -/
def validateModelConfig (lax : PydanticLax) (value : Json) : Py Unit :=
  if modelConfigAccepts lax value then .ok () else .error .validationError

namespace JobWorkers

variable (tools : PythonText) (lax : PydanticLax)

/-- `classify_exception` of the job envelope module. -/
def classifyException (raised : PyError) : WorkerError :=
  if raised.name = "DigestMismatchError" then
    ⟨"transport.contract_mismatch", tools.sanitize raised.name, false⟩
  else if raised = .timeoutError then
    ⟨"transport.timeout", tools.sanitize raised.name, true⟩
  else if raised.name = "ConnectionRefusedError" ∨ raised.name = "BrokenPipeError" then
    ⟨"transport.error", tools.sanitize raised.name, true⟩
  else ⟨"worker.internal", tools.sanitize raised.name, false⟩

/-- `publish_job_error`. -/
def publishJobError (raised : PyError) : JobM Unit :=
  JobM.publish (.error (classifyException tools raised))

/-- `publish_blocking_result`, up to the publish. -/
def blockingResult (result : CliResult) (resumed : Option Bool) :
    Py JobResult := do
  let workerError ←
    if result.error.truthy then
      some <$> CliErrorClassify.resolveCliWorkerError tools (.ofString "") result.error
    else pure none
  StreamingPublish.publishTerminal tools (.bool result.error.truthy)
    result.result result.sessionId workerError resumed

/-- What the CLI pool answers to a job. -/
structure ClipoolReplies where
  resumeDirect : Py Bool
  /-- `send_streaming`: the turn, or an exception. -/
  streaming : Py StreamingPublish.CliTurn
  /-- `send`. -/
  blocking : Py CliResult

/-- The prompt of a clipool job, before `str`. -/
def clipoolPrompt (payload : JobPayload) : Json :=
  ((payload.get "prompt").orElse (payload.get "text")).orElse (.ofString "")

def clipoolModelConfig (payload : JobPayload) : Json := (payload.get "model_cfg").orElse (.obj [])

def clipoolSession (payload : JobPayload) : Json :=
  (payload.get "provider_session_id").orElse (payload.get "resume_session_id")

/-- The guarded part of `CliPoolNatsWorker._run_job`. -/
def clipoolTurn (stream : Bool) (replies : ClipoolReplies) (resumed : Option Bool) : JobM Unit :=
  if stream then do
    let turn ← JobM.call replies.streaming
    let result ← JobM.call (StreamingPublish.runStreaming tools
      { turn with resumed := resumed }).outcome
    JobM.publish result
  else do
    let answer ← JobM.call replies.blocking
    let result ← JobM.call (blockingResult tools answer resumed)
    JobM.publish result

/-- `CliPoolNatsWorker._run_job`. -/
def runClipoolJob (payload : JobPayload) (replies : ClipoolReplies) : JobM Unit :=
  if !(clipoolPrompt payload).truthy then publishJobError tools .valueError
  else do
    let stream := (payload.getOr "stream" (.bool true)).truthy
    JobM.call (validateModelConfig lax (clipoolModelConfig payload))
    let resumed ←
      if (clipoolSession payload).truthy then
        JobM.call (some <$> replies.resumeDirect)
      else pure none
    JobM.tryExcept (clipoolTurn tools stream replies resumed) fun raised =>
      JobM.publish (StreamingPublish.publishJobFailure tools raised)

/-- A message of an omp turn, as far as the bridge looks at it. -/
structure OmpMessage where
  role : Json := .null
  stopReason : Json := .null
  errorMessage : Json := .null
  assistantText : Json := .null

/-- What `prompt_and_wait` returns, with the messages of the agent-end event
that came before it. -/
structure OmpTurn where
  assistantMessage : Option OmpMessage := none
  assistantText : Json := .null
  agentEnd : List OmpMessage := []

/-- `_assistant_message_from_turn`. -/
def assistantMessageFromTurn (turn : OmpTurn) : Option OmpMessage := turn.assistantMessage.or
    (turn.agentEnd.reverse.find? fun message => message.role.isText "assistant")

/-- `worker_error_from_omp_turn`. -/
def workerErrorFromOmpTurn (turn : OmpTurn) : Option WorkerError := do
  let assistant ← assistantMessageFromTurn turn
  let error (code message : String) (retryable : Bool) : WorkerError :=
    ⟨code, tools.sanitize message, retryable⟩
  if assistant.stopReason.isText "aborted" then
    return error "worker.internal" "Aborted" true
  guard (assistant.stopReason.isText "error")
  let lower := tools.lower (CliStreamingParser.pyStr tools assistant.errorMessage)
  let known := assistant.errorMessage.truthy
  if known && lower.contains "invalid model" then
    return error "llm.model_unavailable" "ModelUnavailable" false
  if known && (lower.contains "rate limit" || lower.contains "429") then
    return error "llm.rate_limit" "RateLimitError" true
  if known && lower.contains "context" && (lower.contains "too long" || lower.contains "length" ||
        lower.contains "window") then
    return error "llm.context_too_long" "ContextTooLong" false
  return error "worker.internal" "OmpProviderError" false

/-- `_derive_assistant_text`; `null` is `None`. -/
def deriveAssistantText (turn : OmpTurn) : Json :=
  match turn.assistantText with
  | .null => match turn.agentEnd.getLast? with
    | some message => message.assistantText
    | none => .ofString ""
  | text => text

/-- What the omp pool, the client and the bus answer to a job. -/
structure OmpReplies where
  /-- `acquire`, with the session file of the worker. -/
  acquire : Py Json
  wireCallbacks : Py Unit
  subscribeSteer : Py Unit
  switchModel : Py Unit
  prompt : Py OmpTurn
  startupModel : String
  resolveFallback : Py (Option String)
  switchFallback : Py Unit
  retry : Py OmpTurn
  unsubscribe : Py Unit

/-- The model that an omp job asks for. -/
def requestedModel (payload : JobPayload) : Option String :=
  match payload.getOr "model_cfg" (.obj []) with
  | .obj members =>
    (((members.lookup (.text "model")).bind Json.asText).map tools.strip).filter (· ≠ "")
  | _ => none

structure TurnPublishContext where
  turn : OmpTurn
  turnError : Option WorkerError
  /-- The model that was requested and the one that was used instead. -/
  modelFallback : Option (String × String) := none
  sessionFile : Json

/-- The fallback that `_maybe_retry_with_registry_fallback` retries with. -/
def usableFallback (attempted : String) (fallback : Option String) : Option String :=
  fallback.filter fun model => model ≠ "" ∧ model ≠ attempted

/-- `_maybe_retry_with_registry_fallback`. -/
def maybeRetryWithRegistryFallback (replies : OmpReplies)
    (model : Option String) (sessionFile : Json) (turn : OmpTurn) :
    Py TurnPublishContext :=
  let turnError := workerErrorFromOmpTurn tools turn
  let context : TurnPublishContext := { turn, turnError, sessionFile }
  if turnError.any (·.code = "llm.model_unavailable") then do
    let attempted := model.getD replies.startupModel
    match usableFallback attempted (← replies.resolveFallback) with
    | none => return context
    | some fallback =>
      replies.switchFallback
      let retryTurn ← replies.retry
      match workerErrorFromOmpTurn tools retryTurn with
      | some retryError =>
        return { context with turn := retryTurn, turnError := retryError }
      | none =>
        let modelFallback := some (attempted, fallback)
        return { turn := retryTurn, turnError := none, modelFallback, sessionFile }
  else return context

/-- The data of a job that has succeeded. -/
def TurnPublishContext.data (context : TurnPublishContext) : List (String × Json) :=
  [("result", deriveAssistantText context.turn)] ++ (context.modelFallback.toList.map fun models =>
      ("model_fallback", .obj [(.text "requested", .ofString models.1),
          (.text "fallback", .ofString models.2)])) ++
    match context.sessionFile with
    | .null => []
    | sessionFile => [("session_file", sessionFile)]

/-- `_publish_turn_outcome`, up to the publish. -/
def turnOutcome (context : TurnPublishContext) : Py JobResult :=
  match context.turnError with
  | some turnError => .ok (.error turnError)
  | none =>
    if !(deriveAssistantText context.turn).truthy then
      .ok (.error ⟨"worker.validation", tools.sanitize "EmptyResponse", false⟩)
    else if context.data.all fun field => field.2.encodable then
      .ok (.success context.data)
    else .error .serializationError

/-- The outcome that `RpcBridge.run` publishes. -/
def bridgeOutcome (replies : OmpReplies) (model : Option String)
    (sessionFile : Json) : Py JobResult := do
  if model.isSome then replies.switchModel
  let turn ← replies.prompt
  let context ← maybeRetryWithRegistryFallback tools replies model sessionFile turn
  turnOutcome tools context

/-- `RpcBridge.run`, on a bridge that is attached to the bus. -/
def bridgeRun (replies : OmpReplies) (model : Option String) (sessionFile : Json) : JobM Unit := do
  JobM.call replies.wireCallbacks
  JobM.call replies.subscribeSteer
  JobM.withFinally (do
      let outcome ← JobM.call (bridgeOutcome tools replies model sessionFile)
      JobM.publish outcome)
    (JobM.call replies.unsubscribe)

/-- `OmpWorker._run_job`. -/
def runOmpJob (model : Option String) (replies : OmpReplies) : JobM Unit := JobM.tryExcept (do
      let sessionFile ← JobM.call replies.acquire
      bridgeRun tools replies model sessionFile)
    (publishJobError tools)

/-- The session token passes the guard of `OmpWorker.handle`. -/
def ompSessionAllowed (token : Json) : Bool :=
  match token with
  | .null => true
  | token =>
    let text := (CliStreamingParser.pyStr tools token).codePoints
    let points (pattern : String) := pattern.toList.map Char.toNat
    (points ".jsonl").isSuffixOf text ||
      decide (points "/sessions/" <:+: text) ||
      (points "/home/factory/.config/omp-pi").isPrefixOf text

/-- `OmpWorker.handle` for a valid envelope, with the task it starts. -/
def runOmpEnvelope (payload : JobPayload) (replies : OmpReplies) : JobM Unit :=
  if !(payload.getOr "prompt" (.ofString "")).truthy then
    publishJobError tools .valueError
  else if !ompSessionAllowed tools (payload.get "provider_session_id") then
    publishJobError tools .valueError
  else runOmpJob tools (requestedModel tools payload) replies

end JobWorkers

end RoxabiFactory

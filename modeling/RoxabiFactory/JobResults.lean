import RoxabiFactory.JobWorkers

/-!
# The number of results of a job

A guarded computation either publishes one result or raises before it has
published anything, and its handler publishes the one result then.  Two
things are outside this scheme: the clipool worker validates the model
configuration and queues the session before its guard, so that no result is
published when one of them raises, and the bridge unsubscribes from the steer
subject inside the guard but after it has published, so that the handler
publishes a second result when that raises.
-/

namespace RoxabiFactory

namespace JobM

/-- The computation publishes one result, or none and raises. -/
def OnceOrRaises (body : JobM Unit) : Prop :=
  match body.ending with
  | .ok () => body.results.length = 1
  | .error _ => body.results = []

theorem onceOrRaises_publish (result : JobResult) : OnceOrRaises (publish result) :=
  rfl

theorem onceOrRaises_call_bind {α : Type} {reply : Py α} {next : α → JobM Unit}
    (nextOnce : ∀ value, OnceOrRaises (next value)) :
    OnceOrRaises (call reply >>= next) := by
  cases reply with
  | error raised => exact rfl
  | ok value => exact nextOnce value

theorem isOk_call_publish (reply : Py JobResult) :
    (call reply >>= publish).ending.isOk = reply.isOk := by
  cases reply with
  | error raised => rfl
  | ok result => rfl

variable {handler : PyError → JobM Unit}

theorem OnceOrRaises.length_tryExcept {body : JobM Unit} (once : OnceOrRaises body)
    (handlerOnce : ∀ raised, (handler raised).results.length = 1) :
    (tryExcept body handler).results.length = 1 := by
  obtain ⟨results, ending⟩ := body
  cases ending with
  | ok value => exact once
  | error raised =>
    have silent : results = [] := once
    simp [tryExcept, silent, handlerOnce]

/-- A cleanup that may raise makes the guard publish a second result after a
result. -/
theorem OnceOrRaises.length_tryExcept_withFinally {body : JobM Unit}
    (once : OnceOrRaises body) (cleanup : Py Unit)
    (handlerOnce : ∀ raised, (handler raised).results.length = 1) :
    (tryExcept (withFinally body (call cleanup)) handler).results.length = 1 ↔
      ¬ (body.ending.isOk = true ∧ cleanup.isOk = false) := by
  obtain ⟨results, ending⟩ := body
  cases ending with
  | ok value =>
    cases cleanup with
    | ok done =>
      simpa [tryExcept, withFinally, call, OnceOrRaises, Except.isOk, Except.toBool] using once
    | error raised =>
      have published : results.length = 1 := once
      simp [tryExcept, withFinally, call, Except.isOk, Except.toBool, published, handlerOnce]
  | error raised =>
    have silent : results = [] := once
    cases cleanup with
    | ok done =>
      simp [tryExcept, withFinally, call, Except.isOk, Except.toBool, silent, handlerOnce]
    | error raised =>
      simp [tryExcept, withFinally, call, Except.isOk, Except.toBool, silent, handlerOnce]

end JobM

namespace JobWorkers

variable (tools : PythonText) (lax : PydanticLax)

theorem length_publishJobError (raised : PyError) :
    (publishJobError tools raised).results.length = 1 :=
  rfl

theorem onceOrRaises_clipoolTurn (stream : Bool) (replies : ClipoolReplies)
    (resumed : Option Bool) :
    (clipoolTurn tools stream replies resumed).OnceOrRaises := by
  unfold clipoolTurn
  split
  · refine JobM.onceOrRaises_call_bind fun turn => ?_
    refine JobM.onceOrRaises_call_bind fun result => ?_
    exact JobM.onceOrRaises_publish result
  · refine JobM.onceOrRaises_call_bind fun answer => ?_
    refine JobM.onceOrRaises_call_bind fun result => ?_
    exact JobM.onceOrRaises_publish result

/-- The steps before the guard of a clipool job do not raise. -/
def ClipoolGuardReached (payload : JobPayload) (replies : ClipoolReplies) :
    Prop :=
  modelConfigAccepts lax (clipoolModelConfig payload) = true ∧
    ((clipoolSession payload).truthy = true → replies.resumeDirect.isOk = true)

theorem length_guardedTurn (stream : Bool) (replies : ClipoolReplies) (resumed : Option Bool) :
    (JobM.tryExcept (clipoolTurn tools stream replies resumed) fun raised =>
      JobM.publish (StreamingPublish.publishJobFailure tools raised)).results.length = 1 :=
  (onceOrRaises_clipoolTurn tools stream replies resumed).length_tryExcept
    fun _ => rfl

theorem length_runClipoolJob (payload : JobPayload) (replies : ClipoolReplies) :
    (runClipoolJob tools lax payload replies).results.length = 1 ↔
      (clipoolPrompt payload).truthy = false ∨
        ClipoolGuardReached lax payload replies := by
  unfold runClipoolJob ClipoolGuardReached
  by_cases prompted : (clipoolPrompt payload).truthy = true
  · by_cases accepted : modelConfigAccepts lax (clipoolModelConfig payload) = true
    · by_cases asked : (clipoolSession payload).truthy = true
      · cases resume : replies.resumeDirect with
        | ok resumed =>
          have once := length_guardedTurn tools (payload.getOr "stream" (.bool true)).truthy replies
            (some resumed)
          simpa [prompted, validateModelConfig, accepted, asked, resume,
            Except.map, Except.isOk, Except.toBool] using once
        | error raised =>
          simp [prompted, validateModelConfig, accepted, asked, Except.isOk, Except.toBool]
      · have once := length_guardedTurn tools
          (payload.getOr "stream" (.bool true)).truthy replies none
        simpa [prompted, validateModelConfig, accepted, asked] using once
    · simp [prompted, validateModelConfig, accepted]
  · simp [prompted, length_publishJobError]

/-- The outcome of a turn can be put into a job result. -/
def TurnPublishContext.Encodable (context : TurnPublishContext) : Prop := context.turnError = none →
    (deriveAssistantText context.turn).truthy = true →
      (context.data.all fun field => field.2.encodable) = true

theorem isOk_turnOutcome (context : TurnPublishContext) :
    (turnOutcome tools context).isOk = true ↔ context.Encodable := by
  unfold turnOutcome TurnPublishContext.Encodable
  cases context.turnError with
  | some turnError => simp [Except.isOk, Except.toBool]
  | none =>
    cases texted : (deriveAssistantText context.turn).truthy with
    | false => simp [Except.isOk, Except.toBool]
    | true =>
      cases encodable : context.data.all fun field =>
          field.2.encodable with
      | false => simp [Except.isOk, Except.toBool]
      | true => simp [Except.isOk, Except.toBool]

/-- Every step of an omp job up to the publication of its outcome returns. -/
def OmpOutcomePublished (model : Option String) (replies : OmpReplies) :
    Prop :=
  replies.wireCallbacks.isOk = true ∧ replies.subscribeSteer.isOk = true ∧
    (model.isSome = true → replies.switchModel.isOk = true) ∧
    ∃ sessionFile turn context, replies.acquire = .ok sessionFile ∧ replies.prompt = .ok turn ∧
      maybeRetryWithRegistryFallback tools replies model sessionFile turn = .ok context ∧
      context.Encodable

theorem isOk_bind {α β : Type} (first : Py α) (next : α → Py β) : (first >>= next).isOk = true ↔
      ∃ value, first = .ok value ∧ (next value).isOk = true := by
  cases first with
  | error raised => simp [bind, Except.bind, Except.isOk, Except.toBool]
  | ok value => simp [bind, Except.bind]

theorem isOk_bridgeOutcome (replies : OmpReplies) (model : Option String) (sessionFile : Json) :
    (bridgeOutcome tools replies model sessionFile).isOk = true ↔
      (model.isSome = true → replies.switchModel.isOk = true) ∧
      ∃ turn context, replies.prompt = .ok turn ∧
        maybeRetryWithRegistryFallback tools replies model sessionFile turn = .ok context ∧
        context.Encodable := by
  have prompted : (do
        let turn ← replies.prompt
        let context ← maybeRetryWithRegistryFallback tools replies model sessionFile turn
        turnOutcome tools context).isOk = true ↔
      ∃ turn context, replies.prompt = .ok turn ∧
        maybeRetryWithRegistryFallback tools replies model sessionFile turn = .ok context ∧
        context.Encodable := by
    simp only [isOk_bind, isOk_turnOutcome, exists_and_left]
  cases model with
  | none => simpa [bridgeOutcome] using prompted
  | some requested =>
    cases switched : replies.switchModel with
    | error raised =>
      simp [bridgeOutcome, switched, bind, Except.bind, Except.isOk, Except.toBool]
    | ok done =>
      simpa [bridgeOutcome, switched, bind, Except.bind, Except.isOk, Except.toBool] using prompted

theorem length_runOmpJob (model : Option String) (replies : OmpReplies) :
    (runOmpJob tools model replies).results.length = 1 ↔
      ¬ (OmpOutcomePublished tools model replies ∧ replies.unsubscribe.isOk = false) := by
  unfold runOmpJob bridgeRun OmpOutcomePublished
  cases acquired : replies.acquire with
  | error raised => simp [length_publishJobError]
  | ok sessionFile =>
    cases wired : replies.wireCallbacks with
    | error raised =>
      simp [length_publishJobError, Except.isOk, Except.toBool]
    | ok done =>
      cases subscribed : replies.subscribeSteer with
      | error raised =>
        simp [length_publishJobError, Except.isOk, Except.toBool]
      | ok done =>
        have once : (JobM.call (bridgeOutcome tools replies model
            sessionFile) >>= JobM.publish).OnceOrRaises :=
          JobM.onceOrRaises_call_bind JobM.onceOrRaises_publish
        have counted := once.length_tryExcept_withFinally
          replies.unsubscribe (length_publishJobError tools)
        rw [JobM.isOk_call_publish, isOk_bridgeOutcome] at counted
        simpa [acquired, Except.isOk, Except.toBool] using counted

/-- A job that a worker has accepted from the bus, with what everything it
calls answers. -/
inductive WorkerJob
  | clipool (payload : JobPayload) (replies : ClipoolReplies)
  | omp (payload : JobPayload) (replies : OmpReplies)

def WorkerJob.run : WorkerJob → JobM Unit
  | clipool payload replies => runClipoolJob tools lax payload replies
  | omp payload replies => runOmpEnvelope tools payload replies

/-- The prompt and the session token of an omp job pass the guards. -/
def OmpAccepted (payload : JobPayload) : Prop :=
  (payload.getOr "prompt" (.ofString "")).truthy = true ∧
    ompSessionAllowed tools (payload.get "provider_session_id") = true

/-- No exception strikes outside the part of the task that publishes exactly
one result. -/
def WorkerJob.FailuresGuarded : WorkerJob → Prop
  | clipool payload replies =>
    (clipoolPrompt payload).truthy = false ∨ ClipoolGuardReached lax payload replies
  | omp payload replies =>
    ¬ (OmpAccepted tools payload ∧
      OmpOutcomePublished tools (requestedModel tools payload) replies ∧
      replies.unsubscribe.isOk = false)

theorem length_runOmpEnvelope (payload : JobPayload) (replies : OmpReplies) :
    (runOmpEnvelope tools payload replies).results.length = 1 ↔ ¬ (OmpAccepted tools payload ∧
        OmpOutcomePublished tools (requestedModel tools payload) replies ∧
        replies.unsubscribe.isOk = false) := by
  unfold runOmpEnvelope OmpAccepted
  by_cases prompted : (payload.getOr "prompt" (.ofString "")).truthy = true
  · by_cases allowed : ompSessionAllowed tools (payload.get "provider_session_id") = true
    · simpa [prompted, allowed] using
        length_runOmpJob tools (requestedModel tools payload) replies
    · simp [prompted, allowed, length_publishJobError]
  · simp [prompted, length_publishJobError]

/-- A job publishes exactly one result if and only if no exception strikes
before the guard of a clipool job, nor in the cleanup of an omp job whose
outcome has been published. -/
theorem length_results_eq_one_iff (job : WorkerJob) : (job.run tools lax).results.length = 1 ↔
      job.FailuresGuarded tools lax := by
  cases job with
  | clipool payload replies =>
    exact length_runClipoolJob tools lax payload replies
  | omp payload replies => exact length_runOmpEnvelope tools payload replies

/-- A model configuration with an unknown backend. -/
def misconfiguredJob : WorkerJob := .clipool [(.text "prompt", .ofString "hello"),
      (.text "model_cfg", .obj [(.text "backend", .ofString "codex")])]
    { resumeDirect := .ok true
      streaming := .ok { reads := [] }
      blocking := .ok {} }

/-- A turn of the omp worker that succeeds, and the steer subscription cannot
be cancelled afterwards. -/
def unsubscribeFailingJob : WorkerJob := .omp [(.text "prompt", .ofString "hello")]
    { acquire := .ok (.ofString "/sessions/a.jsonl")
      wireCallbacks := .ok ()
      subscribeSteer := .ok ()
      switchModel := .ok ()
      prompt := .ok { assistantText := .ofString "hi" }
      startupModel := "default"
      resolveFallback := .ok none
      switchFallback := .ok ()
      retry := .ok {}
      unsubscribe := .error (.other "ConnectionClosedError") }

/-- The first of these jobs gets no result, the second one gets a success and
an error. -/
theorem exists_jobs_without_one_result :
    ((misconfiguredJob.run .ascii ⟨fun _ => true, fun _ => true⟩).results.map JobResult.isSuccess,
      (unsubscribeFailingJob.run .ascii
        ⟨fun _ => true, fun _ => true⟩).results.map JobResult.isSuccess) =
      ([], [true, false]) := by
  decide

end JobWorkers

end RoxabiFactory

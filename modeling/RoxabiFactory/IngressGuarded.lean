import RoxabiFactory.Ingress

/-!
# Webhooks that end in a declared outcome

Nothing is changed before the body has been verified, and an event is published
under the tenant that the installation resolves to.  The other exceptions come
from texts and values that a step cannot take: they are listed by `Orderly`,
step by step.
-/

namespace RoxabiFactory

namespace Ingress

/-! ## What is promised, and when it is kept -/

/-- An accepted response, or an exception with one of the declared statuses. -/
def Declared (result : Except Failure Response) : Prop :=
  match result with
  | .ok _ => True
  | .error (.http status _) => status ∈ [413, 404, 503, 401, 400]
  | .error (.raised _) => False

instance (result : Except Failure Response) : Decidable (Declared result) :=
  match result with
  | .ok _ => .isTrue trivial
  | .error (.http status _) =>
    inferInstanceAs (Decidable (status ∈ [413, 404, 503, 401, 400]))
  | .error (.raised _) => .isFalse id

section Promise

variable (setup : Setup) (request : Request) (state : IngressState)

/-- The request is verified by the connector. -/
structure Reaches (connector : Connector) : Prop where
  size : request.body.length ≤ maxBodyBytes
  known : setup.registry request.connectorName = some connector
  enabled : (setup.config request.connectorName).any ConnectorConfig.enabled = true
  tenant : connector.perAccount = true → request.pathTenant.any isFactoryTenant = true

/-- The secret check of the body by the connector succeeds. -/
def Verified (connector : Connector) : Prop :=
  setup.registry request.connectorName = some connector ∧ connector.verify setup request = .ok true

/-- The installations after the webhook has registered or removed its own. -/
def changedInstallations (connector : Connector) (payload : Members) :
    String × String → Option Installation :=
  match connector, lifecycleChange request payload with
  | .github, some (id, enabled) =>
    match strOf setup.lib id with
    | .ok (.text key) =>
      Function.update state.installations (connector.name, key) (some ⟨"default", enabled⟩)
    | _ => state.installations
  | _, _ => state.installations

def resolvedTenant (connector : Connector) (payload : Members) : Option String :=
  match connector.externalValue payload with
  | none =>
    if request.connectorName = "github" then some "default" else none
  | some value =>
    match strOf setup.lib value with
    | .ok (.text key) =>
      enabledTenant (changedInstallations setup request state connector payload)
        request.connectorName key
    | _ => none

/-- What is promised of a request. -/
structure Guarded : Prop where
  closed : Declared ((handleWebhook setup request).runOn state).1
  /-- Only a verified body changes the installations or publishes an event. -/
  authenticated : (∀ connector, ¬Verified setup request connector) →
    ((handleWebhook setup request).runOn state).2 = state
  /-- An event of a per-account connector is published under the tenant of its
  installation. -/
  bound : ∀ connector, setup.registry request.connectorName = some connector →
    connector.perAccount = true → ((handleWebhook setup request).runOn state).2.published =
          state.published ∨
        ∃ event payload, setup.lib.loads request.body = .ok (.obj payload) ∧
          ((handleWebhook setup request).runOn state).2.published =
            event :: state.published ∧
          resolvedTenant setup request state connector payload = some event.event.tenant

def isAscii (text : String) : Bool :=
  text.toList.all fun character => decide (character.toNat < 128)

/-- The texts that `compare_digest` compares are ASCII. -/
def Comparable (connector : Connector) : Prop :=
  match connector with
  | .github =>
    (connectorSecret setup connector.name).isSome →
      ∀ received ∈ signatureOf (request.headers "X-Hub-Signature-256"), isAscii received = true
  | .cloudflare =>
    ∀ secret ∈ (request.pathTenant.filter isFactoryTenant).bind (tenantSecret setup connector.name),
      ∀ header ∈ (request.headers "cf-webhook-auth").filter (· ≠ ""),
        isAscii header = true ∧ isAscii secret = true

/-- The external id is a text that the store takes. -/
structure IdsOrderly (connector : Connector) (payload : Members) : Prop where
  external : ∀ value ∈ connector.externalValue payload,
    ∃ key, strOf setup.lib value = .ok (.text key)
  /-- The registry takes no wildcard. -/
  lifecycle : connector = .github → ∀ change ∈ lifecycleChange request payload,
      strOf setup.lib change.1 ≠ .ok (.text "*")

/-- The action can be hashed, and `str()` of the texts that tell the kind of a
notification returns. -/
def KindOrderly (connector : Connector) (payload : Members) : Prop :=
  match connector with
  | .github => ∃ key, (get payload "action").hashKey = .ok key
  | .cloudflare => ∀ raised, cloudflareEventKind setup.lib payload = .error raised →
        raised = .validationError

/-- An event that is valid has a subject and can be encoded. -/
structure EventOrderly (connector : Connector) (payload : Members) (tenant : String) : Prop where
  kind : KindOrderly setup connector payload
  event : ∀ event, connector.normalize setup request payload tenant = .ok event →
      setup.hasPublisher = true → isNamespaced event.kind = true ∧
        ∃ body, setup.lib.modelDumpJson event = .ok body

/-- No step meets a text or a value that it cannot take. -/
structure Orderly : Prop where
  comparable : ∀ connector, Reaches setup request connector → Comparable setup request connector
  decodable : ∀ connector, Reaches setup request connector → Verified setup request connector →
      ∀ raised, setup.lib.loads request.body = .error raised → raised = .other "JSONDecodeError"
  ids : ∀ connector, Reaches setup request connector → Verified setup request connector →
      ∀ payload, setup.lib.loads request.body = .ok (.obj payload) →
        IdsOrderly setup request connector payload
  events : ∀ connector, Reaches setup request connector → Verified setup request connector →
      ∀ payload, setup.lib.loads request.body = .ok (.obj payload) →
        ∀ tenant ∈ resolvedTenant setup request state connector payload,
          (connector.perAccount = true → request.pathTenant = some tenant) →
            EventOrderly setup request connector payload tenant

end Promise

/-! ## The verification -/

section Verify

variable {setup : Setup} {request : Request} {connector : Connector}

theorem isAscii_hmacHexdigest (lib : Library) (secret : String)
    (body : List UInt8) : isAscii (lib.hmacHexdigest secret body) = true := by
  apply List.all_eq_true.2
  intro digit member
  have ascii : ∀ digit ∈ "0123456789abcdef".toList, digit.toNat < 128 := by
    simp
  exact decide_eq_true (ascii digit (lib.isHex secret body digit member))

theorem compareDigest_returns_iff {expected received : String} :
    (∃ same, compareDigest expected received = .ok same) ↔
      isAscii expected = true ∧ isAscii received = true := by
  unfold compareDigest
  rw [← Bool.and_eq_true_iff]
  change (∃ same, (if (isAscii expected && isAscii received) = true then
    Except.ok (decide (expected = received)) else
      Except.error PyError.typeError) = .ok same) ↔ _
  split
  · rename_i both
    exact ⟨fun _ => both, fun _ => ⟨_, rfl⟩⟩
  · rename_i other
    constructor
    · rintro ⟨same, returns⟩
      cases returns
    · intro both
      exact absurd both other

theorem verify_returns_iff : (∃ accepted, connector.verify setup request = .ok accepted) ↔
      Comparable setup request connector := by
  cases connector with
  | github =>
    unfold Connector.verify Comparable
    dsimp only
    cases connectorSecret setup Connector.github.name with
    | none =>
      constructor
      · intro _ missing
        cases missing
      · exact fun _ => ⟨false, rfl⟩
    | some secret =>
      dsimp only [verifyGithubSignature]
      cases signatureOf (request.headers "X-Hub-Signature-256") with
      | none =>
        constructor
        · intro _ _ received own
          cases own
        · exact fun _ => ⟨false, rfl⟩
      | some received =>
        rw [compareDigest_returns_iff]
        constructor
        · intro both _ other own
          cases own
          exact both.2
        · intro ascii
          exact ⟨isAscii_hmacHexdigest setup.lib secret request.body, ascii rfl received rfl⟩
  | cloudflare =>
    unfold Connector.verify Comparable
    dsimp only
    cases (request.pathTenant.filter isFactoryTenant).bind
        (tenantSecret setup Connector.cloudflare.name) with
    | none =>
      constructor
      · intro _ secret own
        cases own
      · exact fun _ => ⟨false, rfl⟩
    | some secret =>
      dsimp only [verifyCloudflareAuth]
      cases (request.headers "cf-webhook-auth").filter (· ≠ "") with
      | none =>
        constructor
        · intro _ other own header its
          cases its
        · exact fun _ => ⟨false, rfl⟩
      | some header =>
        dsimp only
        rw [compareDigest_returns_iff]
        constructor
        · intro both other own header its
          cases own
          cases its
          exact both
        · exact fun ascii => ascii secret rfl header rfl

theorem admitRequest_of_not_reaches (stopped : ∀ connector, ¬Reaches setup request connector) :
    ∃ status detail, admitRequest setup request =
      .error (.http status detail) ∧ status ∈ [413, 404, 503, 401, 400] := by
  unfold admitRequest
  by_cases size : maxBodyBytes < request.body.length
  · rw [if_pos size]
    exact ⟨413, _, rfl, by decide⟩
  rw [if_neg size]
  cases known : setup.registry request.connectorName with
  | none => exact ⟨404, _, rfl, by decide⟩
  | some connector =>
    by_cases enabled : (setup.config request.connectorName).any ConnectorConfig.enabled = true
    · by_cases tenant : connector.perAccount = true → request.pathTenant.any isFactoryTenant = true
      · exact absurd ⟨not_lt.1 size, known, enabled, tenant⟩ (stopped connector)
      · obtain ⟨perAccount, invalid⟩ := Classical.not_imp.1 tenant
        refine ⟨401, "invalid auth", ?_, by decide⟩
        simp only [pure_bind, enabled, perAccount,
          Bool.eq_false_of_not_eq_true invalid, Bool.not_true, Bool.not_false,
          Bool.and_self, Bool.false_eq_true, if_false, if_true]
        rfl
    · refine ⟨503, request.connectorName ++ " connector disabled", ?_, by decide⟩
      simp only [Bool.eq_false_of_not_eq_true enabled]
      rfl

theorem admitRequest_of_reaches (reaches : Reaches setup request connector) :
    admitRequest setup request =
      match connector.verify setup request with
      | .ok true => .ok connector
      | .ok false => .error (.http 401 "invalid auth")
      | .error raised => .error (.raised raised) := by
  have authorized : (connector.perAccount && !request.pathTenant.any isFactoryTenant) = false := by
    cases perAccount : connector.perAccount with
    | false => rfl
    | true => rw [reaches.tenant perAccount]; rfl
  unfold admitRequest
  rw [if_neg (not_lt.2 reaches.size), reaches.known]
  simp only [pure_bind, reaches.enabled, authorized, Bool.not_true, Bool.false_eq_true, if_false]
  cases connector.verify setup request with
  | error raised => rfl
  | ok accepted => cases accepted <;> rfl

theorem verified_of_admitRequest (admitted : admitRequest setup request = .ok connector) :
    Reaches setup request connector ∧ Verified setup request connector := by
  by_cases reached : ∃ other, Reaches setup request other
  · obtain ⟨other, reaches⟩ := reached
    rw [admitRequest_of_reaches reaches] at admitted
    split at admitted
    · rename_i accepted
      cases admitted
      exact ⟨reaches, reaches.known, accepted⟩
    · cases admitted
    · cases admitted
  · obtain ⟨status, detail, stopped, -⟩ := admitRequest_of_not_reaches (not_exists.1 reached)
    rw [stopped] at admitted
    cases admitted

end Verify

/-! ## The external id -/

section Ids

variable {setup : Setup} {request : Request} {state : IngressState}
variable {connector : Connector} {payload : Members}

theorem externalValue_of_lifecycleChange {id : Json} {enabled : Bool}
    (change : lifecycleChange request payload = some (id, enabled)) :
    Connector.github.externalValue payload = some id := by
  unfold lifecycleChange at change
  split at change
  · obtain ⟨found, read, changes⟩ := Option.bind_eq_some_iff.1 change
    have same : found = id := by
      split at changes
      · cases changes
        rfl
      · split at changes
        · cases changes
          rfl
        · cases changes
    rw [← same]
    exact read
  · cases change

/-- The state after the lifecycle of a payload. -/
def changedState (setup : Setup) (request : Request) (state : IngressState)
    (connector : Connector) (payload : Members) : IngressState :=
  { state with
    installations :=
      changedInstallations setup request state connector payload }

theorem runOn_ofPy_ok {α : Type} (value : α) (state : IngressState) :
    (ofPy (.ok value) : Call α).runOn state = (.ok value, state) := rfl

theorem runOn_ofPy_error {α : Type} (raised : PyError) (state : IngressState) :
    (ofPy (.error raised) : Call α).runOn state = (.error (.raised raised), state) := rfl

theorem runOn_applyLifecycle (orderly : IdsOrderly setup request connector payload) :
    (connector.applyLifecycle setup request payload).runOn state =
      (.ok (), changedState setup request state connector payload) := by
  cases connector with
  | cloudflare => rfl
  | github =>
    unfold Connector.applyLifecycle changedState changedInstallations
    dsimp only
    cases change : lifecycleChange request payload with
    | none => rfl
    | some changed =>
      obtain ⟨id, enabled⟩ := changed
      obtain ⟨key, read⟩ := orderly.external id (externalValue_of_lifecycleChange change)
      have wildcard := orderly.lifecycle rfl _ change
      have plain : PyStr.text key ≠ .text "*" := by
        intro same
        exact wildcard (read.trans (congrArg _ same))
      dsimp only
      rw [read]
      simp only [Action.runOn_bind, runOn_ofPy_ok, upsertLifecycle, if_neg plain, bindText]

theorem runOn_resolve_none : (resolve request.connectorName none).runOn state =
      (.ok (if request.connectorName = "github" then some "default" else none), state) := rfl

theorem runOn_resolve_text (key : String) :
    (resolve request.connectorName (some (.text key))).runOn state =
      (.ok (enabledTenant state.installations request.connectorName key), state) := rfl

/-- The steps after the tenant has been looked up. -/
def handleTenant (setup : Setup) (connector : Connector) (request : Request)
    (payload : Members) : Option String → Call Response
  | none => unknownInstallation request.connectorName
  | some tenant =>
    if connector.perAccount && decide (request.pathTenant ≠ some tenant) then
      unknownInstallation request.connectorName
    else publishEvent setup connector request payload tenant

theorem runOn_handlePayload (orderly : IdsOrderly setup request connector payload) :
    (handlePayload setup connector request payload).runOn state =
      (handleTenant setup connector request payload
        (resolvedTenant setup request state connector payload)).runOn
        (changedState setup request state connector payload) := by
  have continues : handlePayload setup connector request payload = (do
      connector.applyLifecycle setup request payload
      let externalId ← ofPy (connector.parseExternalId setup payload)
      let tenant ← resolve request.connectorName externalId
      handleTenant setup connector request payload tenant) := by
    rfl
  rw [continues]
  simp only [Action.runOn_bind, runOn_applyLifecycle orderly]
  unfold Connector.parseExternalId resolvedTenant
  cases external : connector.externalValue payload with
  | none => simp only [runOn_ofPy_ok, runOn_resolve_none]
  | some value =>
    obtain ⟨key, read⟩ := orderly.external value external
    dsimp only
    rw [read]
    rfl

theorem runOn_handlePayload_of_lifecycle {raised : PyError}
    (fails : (connector.applyLifecycle setup request payload).runOn state =
      (.error (.raised raised), state)) :
    (handlePayload setup connector request payload).runOn state =
      (.error (.raised raised), state) := by
  unfold handlePayload
  rw [Action.runOn_bind, fails]

theorem runOn_handlePayload_of_external {raised : PyError}
    (unchanged : (connector.applyLifecycle setup request payload).runOn state = (.ok (), state))
    (fails : connector.parseExternalId setup payload = .error raised) :
    (handlePayload setup connector request payload).runOn state =
      (.error (.raised raised), state) := by
  unfold handlePayload
  rw [Action.runOn_bind, unchanged]
  dsimp only
  rw [Action.runOn_bind, fails, runOn_ofPy_error]

theorem runOn_handlePayload_of_surrogate {codePoints : List ℕ}
    (unchanged : (connector.applyLifecycle setup request payload).runOn state = (.ok (), state))
    (read : connector.parseExternalId setup payload = .ok (some (.loneSurrogate codePoints))) :
    (handlePayload setup connector request payload).runOn state =
      (.error (.raised (.other "UnicodeEncodeError")), state) := by
  unfold handlePayload
  rw [Action.runOn_bind, unchanged]
  dsimp only
  rw [Action.runOn_bind, read, runOn_ofPy_ok]
  rfl

theorem runOn_applyLifecycle_of_not {id : Json} {enabled : Bool}
    (change : lifecycleChange request payload = some (id, enabled))
    (refused : ∀ key, strOf setup.lib id = .ok (.text key) → key = "*") :
    ∃ raised, (Connector.github.applyLifecycle setup request payload).runOn state =
        (.error (.raised raised), state) := by
  unfold Connector.applyLifecycle
  dsimp only
  rw [change]
  dsimp only
  cases read : strOf setup.lib id with
  | error raised =>
    refine ⟨raised, ?_⟩
    rw [Action.runOn_bind, runOn_ofPy_error]
  | ok externalId =>
    rw [Action.runOn_bind, runOn_ofPy_ok]
    cases externalId with
    | text key =>
      cases refused key read
      exact ⟨.valueError, rfl⟩
    | loneSurrogate codePoints => exact ⟨.other "UnicodeEncodeError", rfl⟩

theorem runOn_applyLifecycle_of_none
    (unchanged : connector = .github → lifecycleChange request payload = none) :
    (connector.applyLifecycle setup request payload).runOn state = (.ok (), state) := by
  cases connector with
  | cloudflare => rfl
  | github =>
    unfold Connector.applyLifecycle
    dsimp only
    rw [unchanged rfl]
    rfl

/-- An id that is not orderly raises another exception, and nothing is
changed. -/
theorem raises_of_not_idsOrderly (disorderly : ¬IdsOrderly setup request connector payload) :
    ∃ raised, (handlePayload setup connector request payload).runOn state =
      (.error (.raised raised), state) := by
  by_cases change : ∃ id enabled, connector = .github ∧
      lifecycleChange request payload = some (id, enabled)
  · obtain ⟨id, enabled, rfl, changes⟩ := change
    have external := externalValue_of_lifecycleChange changes
    have refused : ∀ key, strOf setup.lib id = .ok (.text key) → key = "*" := by
      intro key read
      by_contra plain
      apply disorderly
      constructor
      · intro value own
        cases external.symm.trans own
        exact ⟨key, read⟩
      · intro _ other changed same
        cases changes.symm.trans changed
        exact plain (PyStr.text.inj (Except.ok.inj (read.symm.trans same)))
    obtain ⟨raised, fails⟩ : ∃ raised,
        (Connector.github.applyLifecycle setup request payload).runOn state =
          (.error (.raised raised), state) :=
      runOn_applyLifecycle_of_not changes refused
    exact ⟨raised, runOn_handlePayload_of_lifecycle fails⟩
  · have none : connector = .github → lifecycleChange request payload = none := by
      intro github
      by_contra changed
      obtain ⟨⟨id, enabled⟩, changes⟩ := Option.ne_none_iff_exists'.1 changed
      exact change ⟨id, enabled, github, changes⟩
    have unchanged : (connector.applyLifecycle setup request payload).runOn
        state = (.ok (), state) :=
      runOn_applyLifecycle_of_none none
    cases external : connector.externalValue payload with
    | none =>
      refine absurd ⟨?_, ?_⟩ disorderly
      · intro value own
        cases external.symm.trans own
      · intro github other changed
        cases (none github).symm.trans changed
    | some value =>
      have parsed : connector.parseExternalId setup payload =
          some <$> strOf setup.lib value := by
        unfold Connector.parseExternalId
        rw [external]
      cases read : strOf setup.lib value with
      | error raised =>
        rw [read] at parsed
        exact ⟨raised, runOn_handlePayload_of_external unchanged parsed⟩
      | ok externalId =>
        rw [read] at parsed
        cases externalId with
        | loneSurrogate codePoints =>
          exact ⟨_, runOn_handlePayload_of_surrogate unchanged parsed⟩
        | text key =>
          refine absurd ⟨?_, ?_⟩ disorderly
          · intro other own
            cases external.symm.trans own
            exact ⟨key, read⟩
          · intro github other changed
            cases (none github).symm.trans changed

end Ids

/-! ## The event -/

section Event

variable {setup : Setup} {request : Request} {state : IngressState}
variable {connector : Connector} {payload : Members} {tenant : String}
variable {event : LyraEvent}

theorem validField_cases (constraint : String → Bool) (value : PyStr) :
    (∃ text, value = .text text ∧ constraint text = true ∧ validField constraint value = .ok text) ∨
    validField constraint value = .error .validationError := by
  cases value with
  | loneSurrogate codePoints => exact .inr rfl
  | text characters =>
    cases valid : constraint characters with
    | false =>
      apply Or.inr
      simp only [validField, validText, bind, Except.bind, valid, Bool.false_eq_true, if_false]
      rfl
    | true =>
      refine .inl ⟨characters, rfl, valid, ?_⟩
      simp only [validField, validText, bind, Except.bind, valid, if_true]
      rfl

/-- The model rejects an event, or the event has the service and the tenant
that it is built for. -/
theorem buildLyraEvent_cases (lib : Library) (service : String) (kind : PyStr)
    (level : String) (message : PyStr) (payload : Members)
    (traceId : Option String) (tenant : String) :
    buildLyraEvent lib service kind level message payload traceId tenant = .error .validationError ∨
      ∃ event, buildLyraEvent lib service kind level message payload traceId tenant = .ok event ∧
        event.service = service ∧ event.tenant = tenant ∧
        matchesPattern (fun character => isLower character || isDigit character)
          isServiceChar tenant = true := by
  unfold buildLyraEvent
  rcases validField_cases (· ≠ "") (wireTraceIdHex lib traceId) with
    ⟨trace, -, -, traced⟩ | rejected
  · rw [traced]
    rcases validField_cases (matchesPattern isLower isServiceChar)
      (.text service) with ⟨serviceText, sameService, -, served⟩ | rejected
    · rw [served]
      rcases validField_cases (matchesPattern isLower isKindChar) kind with
        ⟨kindText, -, -, kinded⟩ | rejected
      · rw [kinded]
        cases message with
        | loneSurrogate codePoints => exact .inl rfl
        | text characters =>
          rcases validField_cases (matchesPattern
            (fun character => isLower character || isDigit character)
            isServiceChar) (.text tenant) with
            ⟨tenantText, sameTenant, valid, tenanted⟩ | rejected
          · rw [tenanted]
            refine .inr ⟨_, rfl, ?_, ?_, ?_⟩
            · exact (PyStr.text.inj sameService).symm
            · exact (PyStr.text.inj sameTenant).symm
            · rw [PyStr.text.inj sameTenant]
              exact valid
          · rw [rejected]
            exact .inl rfl
      · rw [rejected]
        exact .inl rfl
    · rw [rejected]
      exact .inl rfl
  · rw [rejected]
    exact .inl rfl

theorem summarizeGithubPayload_cases (payload : Members) :
    ((∃ key, (get payload "action").hashKey = .ok key) ∧
      ∃ summary, summarizeGithubPayload payload = .ok summary) ∨
    ((¬∃ key, (get payload "action").hashKey = .ok key) ∧
      summarizeGithubPayload payload = .error .typeError) := by
  unfold summarizeGithubPayload CliErrorClassify.isOneOf
  cases get payload "action" with
  | arr items =>
    refine .inr ⟨?_, rfl⟩
    rintro ⟨key, hashed⟩
    cases hashed
  | obj members =>
    refine .inr ⟨?_, rfl⟩
    rintro ⟨key, hashed⟩
    cases hashed
  | null => exact .inl ⟨⟨_, rfl⟩, _, rfl⟩
  | bool value => exact .inl ⟨⟨_, rfl⟩, _, rfl⟩
  | int value => exact .inl ⟨⟨_, rfl⟩, _, rfl⟩
  | float value => exact .inl ⟨⟨_, rfl⟩, _, rfl⟩
  | nonFinite name => exact .inl ⟨⟨_, rfl⟩, _, rfl⟩
  | str value => exact .inl ⟨⟨_, rfl⟩, _, rfl⟩

theorem normalize_cases (setup : Setup) (request : Request)
    (connector : Connector) (payload : Members) (tenant : String) :
    (KindOrderly setup connector payload ∧ (connector.normalize setup request payload tenant =
          .error .validationError ∨
        ∃ event, connector.normalize setup request payload tenant = .ok event ∧
          event.service = connector.name ∧ event.tenant = tenant ∧
          matchesPattern (fun character => isLower character || isDigit character)
            isServiceChar tenant = true)) ∨
    (¬KindOrderly setup connector payload ∧
      ∃ raised, connector.normalize setup request payload tenant =
        .error raised ∧ raised ≠ .validationError) := by
  cases connector with
  | github =>
    unfold Connector.normalize KindOrderly
    dsimp only
    rcases summarizeGithubPayload_cases payload with
      ⟨hashed, summary, summarized⟩ | ⟨unhashable, raises⟩
    · rw [summarized]
      exact .inl ⟨hashed, buildLyraEvent_cases ..⟩
    · rw [raises]
      exact .inr ⟨unhashable, .typeError, rfl, by decide⟩
  | cloudflare =>
    unfold Connector.normalize KindOrderly
    dsimp only
    cases cloudflareEventKind setup.lib payload with
    | ok kind =>
      refine .inl ⟨?_, buildLyraEvent_cases ..⟩
      intro raised other
      cases other
    | error raised =>
      by_cases same : raised = .validationError
      · rw [same]
        refine .inl ⟨?_, .inl rfl⟩
        intro other raises
        cases raises
        rfl
      · refine .inr ⟨?_, raised, rfl, same⟩
        exact fun orderly => same (orderly raised rfl)

theorem isSubjectChar_of_isServiceChar {character : Char} (valid : isServiceChar character = true) :
    isSubjectChar character = true := by
  unfold isServiceChar isLower isDigit at valid
  unfold isSubjectChar
  simp only [Bool.or_eq_true, decide_eq_true_eq] at valid ⊢
  rcases valid with (⟨low, high⟩ | ⟨low, high⟩) | sign
  · have lower : character.isLower = true :=
      Bool.and_eq_true_iff.mpr ⟨decide_eq_true low, decide_eq_true high⟩
    have alpha : character.isAlpha = true := Bool.or_eq_true_iff.mpr (.inr lower)
    exact .inl (Bool.or_eq_true_iff.mpr (.inl alpha))
  · have digit : character.isDigit = true :=
      Bool.and_eq_true_iff.mpr ⟨decide_eq_true low, decide_eq_true high⟩
    exact .inl (Bool.or_eq_true_iff.mpr (.inr digit))
  · exact .inr sign

theorem isSegment_of_matchesPattern (valid : matchesPattern
      (fun character => isLower character || isDigit character) isServiceChar
      tenant = true) : isSegment tenant.toList = true := by
  unfold matchesPattern at valid
  unfold isSegment
  cases characters : tenant.toList with
  | nil =>
    rw [characters] at valid
    cases valid
  | cons character others =>
    rw [characters] at valid
    obtain ⟨first, rest⟩ := Bool.and_eq_true_iff.1 valid
    have service : isServiceChar character = true := Bool.or_eq_true_iff.2 (.inl first)
    rw [List.isEmpty_cons, Bool.not_false, Bool.true_and, List.all_cons,
      isSubjectChar_of_isServiceChar service, Bool.true_and]
    apply List.all_eq_true.2
    intro other member
    exact isSubjectChar_of_isServiceChar (List.all_eq_true.1 rest other member)

theorem runOn_publish (setup : Setup) (state : IngressState) (msgId : Option String)
    (segment : isSegment event.service.toList = true)
    (tenant : isSegment event.tenant.toList = true) :
    (∃ body, isNamespaced event.kind = true ∧
      setup.lib.modelDumpJson event = .ok body ∧
      ∃ subject, (publish setup event msgId).runOn state =
        (.ok (), { state with
          published := ⟨subject, event, body, msgId⟩ :: state.published })) ∨
    ((¬(isNamespaced event.kind = true ∧ ∃ body, setup.lib.modelDumpJson event = .ok body)) ∧
      ∃ raised, (publish setup event msgId).runOn state = (.error (.raised raised), state)) := by
  unfold publish perConnectorTenantEvent
  rw [segment, tenant]
  cases namespaced : isNamespaced event.kind with
  | false =>
    apply Or.inr
    constructor
    · rintro ⟨named, -⟩
      cases named
    · exact ⟨.valueError, rfl⟩
  | true =>
    simp only [Bool.and_self, if_true, Action.runOn_bind, runOn_ofPy_ok]
    cases setup.lib.modelDumpJson event with
    | ok body => exact .inl ⟨body, trivial, rfl, _, rfl⟩
    | error raised =>
      apply Or.inr
      constructor
      · rintro ⟨-, body, dumped⟩
        cases dumped
      · exact ⟨raised, rfl⟩

theorem runOn_publishEvent (setup : Setup) (request : Request)
    (state : IngressState) (connector : Connector) (payload : Members)
    (tenant : String) :
    (EventOrderly setup request connector payload tenant ∧
      ∃ response after, (publishEvent setup connector request payload
          tenant).runOn state = (.ok response, after) ∧
        (after.published = state.published ∨
          ∃ published : Published, published.event.tenant = tenant ∧
            after.published = published :: state.published)) ∨
    (¬EventOrderly setup request connector payload tenant ∧
      ∃ raised, (publishEvent setup connector request payload tenant).runOn
        state = (.error (.raised raised), state)) := by
  unfold publishEvent
  rcases normalize_cases setup request connector payload tenant with
    ⟨kind, rejected | built⟩ | ⟨disorderly, raises⟩
  · rw [rejected]
    refine .inl ⟨⟨kind, ?_⟩, ⟨none⟩, state, rfl, .inl rfl⟩
    intro event accepted
    cases rejected.symm.trans accepted
  · obtain ⟨event, accepted, service, sameTenant, valid⟩ := built
    have segment : isSegment event.service.toList = true := by
      rw [service]
      cases connector <;> decide
    have tenantSegment : isSegment event.tenant.toList = true := by
      rw [sameTenant]
      exact isSegment_of_matchesPattern valid
    rw [accepted]
    dsimp only
    cases hasPublisher : setup.hasPublisher with
    | false =>
      refine .inl ⟨⟨kind, ?_⟩, ⟨some event.kind⟩, state, rfl, .inl rfl⟩
      intro other _ publishes
      cases hasPublisher.symm.trans publishes
    | true =>
      simp only [if_true, Action.runOn_bind]
      rcases runOn_publish setup state
        ((request.headers "X-GitHub-Delivery").filter (· ≠ "")) segment
        tenantSegment with ⟨body, namespaced, dumped, subject, runs⟩ | ⟨unfit, raised, runs⟩
      · rw [runs]
        refine .inl ⟨⟨kind, ?_⟩, ⟨some event.kind⟩, _, rfl, .inr ⟨_, sameTenant, rfl⟩⟩
        intro other also _
        cases accepted.symm.trans also
        exact ⟨namespaced, body, dumped⟩
      · rw [runs]
        refine .inr ⟨?_, raised, rfl⟩
        intro orderly
        exact unfit (orderly.event event accepted hasPublisher)
  · obtain ⟨raised, errs, other⟩ := raises
    rw [errs]
    dsimp only
    rw [if_neg other]
    exact .inr ⟨fun orderly => disorderly orderly.kind, raised, rfl⟩

/-- The tenant may be served by the request. -/
def Serves (connector : Connector) (request : Request) (tenant : String) :
    Prop :=
  connector.perAccount = true → request.pathTenant = some tenant

/-- The steps after the tenant has been looked up end in a declared outcome
exactly if an event of this tenant is orderly. -/
theorem runOn_handleTenant (setup : Setup) (request : Request)
    (state : IngressState) (connector : Connector) (payload : Members)
    (tenant : Option String) :
    ((∀ found ∈ tenant, Serves connector request found →
        EventOrderly setup request connector payload found) ∧
      ∃ response after, (handleTenant setup connector request payload
          tenant).runOn state = (.ok response, after) ∧
        (after.published = state.published ∨
          ∃ published : Published, tenant = some published.event.tenant ∧
            after.published = published :: state.published)) ∨
    ((¬∀ found ∈ tenant, Serves connector request found →
        EventOrderly setup request connector payload found) ∧
      ∃ raised, (handleTenant setup connector request payload tenant).runOn
        state = (.error (.raised raised), state)) := by
  cases tenant with
  | none =>
    refine .inl ⟨?_, ⟨none⟩, _, rfl, .inl rfl⟩
    intro found missing
    cases missing
  | some tenant =>
    unfold handleTenant
    dsimp only
    by_cases serves : Serves connector request tenant
    · have passes : (connector.perAccount &&
          decide (request.pathTenant ≠ some tenant)) = false := by
        cases perAccount : connector.perAccount with
        | false => rfl
        | true =>
          rw [Bool.true_and]
          exact decide_eq_false (not_not.2 (serves perAccount))
      rw [passes]
      simp only [Bool.false_eq_true, if_false]
      rcases runOn_publishEvent setup request state connector payload tenant with
        ⟨orderly, response, after, runs, published⟩ |
        ⟨disorderly, raised, runs⟩
      · refine .inl ⟨?_, response, after, runs, ?_⟩
        · intro found own _
          cases own
          exact orderly
        · rcases published with unchanged | ⟨event, same, added⟩
          · exact .inl unchanged
          · exact .inr ⟨event, congrArg some same.symm, added⟩
      · refine .inr ⟨?_, raised, runs⟩
        intro orderly
        exact disorderly (orderly tenant rfl serves)
    · obtain ⟨perAccount, other⟩ := Classical.not_imp.1 serves
      have refused : (connector.perAccount &&
          decide (request.pathTenant ≠ some tenant)) = true := by
        rw [perAccount, Bool.true_and]
        exact decide_eq_true other
      rw [refused]
      refine .inl ⟨?_, ⟨none⟩, _, rfl, .inl rfl⟩
      intro found own also
      cases own
      exact absurd also serves

end Event

/-! ## The pipeline -/

section Pipeline

variable {setup : Setup} {request : Request} {state : IngressState}
variable {connector : Connector}

theorem runOn_of_stopped {failure : Failure}
    (stopped : admitRequest setup request = .error failure) :
    (handleWebhook setup request).runOn state = (.error failure, state) := by
  unfold handleWebhook
  rw [Action.runOn_bind, stopped]
  rfl

theorem runOn_of_verified (reaches : Reaches setup request connector)
    (verified : Verified setup request connector) :
    (handleWebhook setup request).runOn state =
      match parseJsonObject setup request.body with
      | .error failure => (.error failure, state)
      | .ok payload =>
        (handlePayload setup connector request payload).runOn state := by
  have admitted : admitRequest setup request = .ok connector := by
    rw [admitRequest_of_reaches reaches, verified.2]
  unfold handleWebhook
  rw [Action.runOn_bind, admitted]
  simp only [Action.runOn_ofExcept, Action.runOn_bind]
  cases parseJsonObject setup request.body <;> rfl

theorem runOn_of_payload (reaches : Reaches setup request connector)
    (verified : Verified setup request connector) {payload : Members}
    (loaded : setup.lib.loads request.body = .ok (.obj payload)) :
    (handleWebhook setup request).runOn state =
      (handlePayload setup connector request payload).runOn state := by
  have parsed : parseJsonObject setup request.body = .ok payload := by
    unfold parseJsonObject
    rw [loaded]
  rw [runOn_of_verified reaches verified, parsed]

theorem orderly_of_declared (closed : Declared ((handleWebhook setup request).runOn state).1) :
    Orderly setup request state := by
  have ids {connector : Connector} (reaches : Reaches setup request connector)
      (verified : Verified setup request connector) {payload : Members}
      (loaded : setup.lib.loads request.body = .ok (.obj payload)) :
      IdsOrderly setup request connector payload := by
    by_contra disorderly
    obtain ⟨raised, raises⟩ : ∃ raised,
        (handlePayload setup connector request payload).runOn state =
          (.error (.raised raised), state) :=
      raises_of_not_idsOrderly disorderly
    rw [runOn_of_payload reaches verified loaded, raises] at closed
    exact closed
  constructor
  · intro connector reaches
    apply verify_returns_iff.1
    cases verifies : connector.verify setup request with
    | ok accepted => exact ⟨accepted, rfl⟩
    | error raised =>
      have stopped : admitRequest setup request = .error (.raised raised) := by
        rw [admitRequest_of_reaches reaches, verifies]
      rw [runOn_of_stopped stopped] at closed
      exact closed.elim
  · intro connector reaches verified raised errs
    by_contra other
    have parsed : parseJsonObject setup request.body =
        .error (.raised raised) := by
      unfold parseJsonObject
      rw [errs]
      exact if_neg other
    rw [runOn_of_verified reaches verified, parsed] at closed
    exact closed
  · intro connector reaches verified payload loaded
    exact ids reaches verified loaded
  · intro connector reaches verified payload loaded
    by_contra disorderly
    rcases runOn_handleTenant setup request
      (changedState setup request state connector payload) connector payload
      (resolvedTenant setup request state connector payload) with
      ⟨orderly, -⟩ | ⟨-, raised, raises⟩
    · exact disorderly orderly
    · rw [runOn_of_payload reaches verified loaded,
        runOn_handlePayload (ids reaches verified loaded), raises] at closed
      exact closed

theorem parseJsonObject_cases (decodable : ∀ raised, setup.lib.loads request.body = .error raised →
      raised = .other "JSONDecodeError") :
    (∃ payload, setup.lib.loads request.body = .ok (.obj payload)) ∨
      ∃ detail, parseJsonObject setup request.body =
        .error (.http 400 detail) := by
  unfold parseJsonObject
  cases loaded : setup.lib.loads request.body with
  | error raised =>
    rw [decodable raised loaded]
    exact .inr ⟨_, rfl⟩
  | ok value =>
    cases value with
    | obj payload => exact .inl ⟨payload, rfl⟩
    | null => exact .inr ⟨_, rfl⟩
    | bool flag => exact .inr ⟨_, rfl⟩
    | int number => exact .inr ⟨_, rfl⟩
    | float number => exact .inr ⟨_, rfl⟩
    | nonFinite name => exact .inr ⟨_, rfl⟩
    | str text => exact .inr ⟨_, rfl⟩
    | arr items => exact .inr ⟨_, rfl⟩

theorem guarded_of_unchanged {result : Except Failure Response}
    (runs : (handleWebhook setup request).runOn state = (result, state))
    (declared : Declared result) : Guarded setup request state := by
  constructor
  · rw [runs]
    exact declared
  · intro _
    rw [runs]
  · intro connector _ _
    rw [runs]
    exact .inl rfl

theorem guarded_of_orderly (orderly : Orderly setup request state) :
    Guarded setup request state := by
  by_cases reached : ∃ connector, Reaches setup request connector
  · obtain ⟨connector, reaches⟩ := reached
    obtain ⟨accepted, verifies⟩ := verify_returns_iff.2 (orderly.comparable connector reaches)
    cases accepted with
    | false =>
      have stopped : admitRequest setup request =
          .error (.http 401 "invalid auth") := by
        rw [admitRequest_of_reaches reaches, verifies]
      exact guarded_of_unchanged (runOn_of_stopped stopped)
        (by decide : 401 ∈ [413, 404, 503, 401, 400])
    | true =>
      have verified : Verified setup request connector := ⟨reaches.known, verifies⟩
      rcases parseJsonObject_cases (orderly.decodable connector reaches verified) with
        ⟨payload, loaded⟩ | ⟨detail, refused⟩
      · have ids := orderly.ids connector reaches verified payload loaded
        have runs : (handleWebhook setup request).runOn state =
            (handlePayload setup connector request payload).runOn state :=
          runOn_of_payload reaches verified loaded
        rw [runOn_handlePayload ids] at runs
        rcases runOn_handleTenant setup request
          (changedState setup request state connector payload) connector
          payload (resolvedTenant setup request state connector payload) with
          ⟨-, response, after, returns, published⟩ | ⟨disorderly, -⟩
        · rw [returns] at runs
          constructor
          · rw [runs]
            trivial
          · intro unverified
            exact absurd verified (unverified connector)
          · intro other known _
            cases reaches.known.symm.trans known
            rw [runs]
            rcases published with unchanged | ⟨event, resolved, added⟩
            · exact .inl unchanged
            · exact .inr ⟨event, payload, loaded, added, resolved⟩
        · exact absurd (orderly.events connector reaches verified payload loaded) disorderly
      · have runs : (handleWebhook setup request).runOn state =
            (.error (.http 400 detail), state) := by
          rw [runOn_of_verified reaches verified, refused]
        exact guarded_of_unchanged runs (by decide : 400 ∈ [413, 404, 503, 401, 400])
  · obtain ⟨status, detail, stopped, declared⟩ := admitRequest_of_not_reaches (not_exists.1 reached)
    exact guarded_of_unchanged (runOn_of_stopped stopped) declared

/-- The promise is kept exactly if no step meets what it cannot take. -/
theorem guarded_iff_orderly : Guarded setup request state ↔ Orderly setup request state :=
  ⟨fun guarded => orderly_of_declared guarded.closed, guarded_of_orderly⟩

theorem not_guarded_of_not_declared
    (undeclared : ¬Declared ((handleWebhook setup request).runOn state).1) :
    ¬Guarded setup request state :=
  fun guarded => undeclared guarded.closed

end Pipeline

section Example

/-- The digest of the body `{}` with the secret `gh-secret`. -/
def digest : String := "1f3df8953045613000518497099931ae4e79fcb16a25c37144c17a567f2bb5f5"

theorem isHex_digest : ∀ digit ∈ digest.toList, digit ∈ "0123456789abcdef".toList := by
  simp [digest]

/-- The library on the body `{}`. -/
def exampleLibrary : Library where
  loads _ := .ok (.obj [])
  str _ := .ok (.text "None")
  lower
    | .text characters =>
      .text (String.ofList (characters.toList.map Char.toLower))
    | .loneSurrogate codePoints => .loneSurrogate codePoints
  hmacHexdigest _ _ := digest
  isHex _ _ := isHex_digest
  modelDumpJson _ := .ok []
  freshTraceId := "4bf92f3577b34da6a3ce929d0e0e4736"

def exampleSetup : Setup where
  lib := exampleLibrary
  config name := if name = "github" then some ⟨true, "gh-secret"⟩ else none
  registry := defaultRegistry
  hasPublisher := true

/-- The signature has a character that is not ASCII. -/
def exampleRequest : Request where
  connectorName := "github"
  headers name :=
    if name = "X-Hub-Signature-256" then some "sha256=é" else none
  body := [123, 125]
  pathTenant := none

def exampleState : IngressState where
  installations _ := none
  published := []
  unknownInstallations := []

/-- `compare_digest` raises a `TypeError`. -/
theorem not_declared_example : ¬Declared
    ((handleWebhook exampleSetup exampleRequest).runOn exampleState).1 := by
  decide

theorem not_guarded_example : ¬Guarded exampleSetup exampleRequest exampleState :=
  not_guarded_of_not_declared not_declared_example

end Example

end Ingress

end RoxabiFactory

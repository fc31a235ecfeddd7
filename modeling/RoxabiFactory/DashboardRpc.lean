import RoxabiFactory.ControlPlane

/-!
# Requests of the dashboard

`wrap_dashboard_handler` answers each message once.  On a subject that is not
public it calls the handler only for a principal that the store has given, and
the handler sees neither the stamp nor the proof.
-/

namespace RoxabiFactory

open ControlPlane

namespace DashboardRpc

/-- `_public_auth_subjects`. -/
def publicAuthSubjects : List String :=
  ["factory.dashboard.auth.login", "factory.dashboard.auth.logout",
    "factory.dashboard.auth.session.resolve",
    "factory.dashboard.auth.invite.accept",
    "factory.dashboard.auth.api_key.resolve"]

inductive RequestPrincipal
  | rehydrated (principal : Principal)
  /-- The stamp of a message on a public subject. -/
  | stamped (wire : Wire)
  deriving DecidableEq

/-- The hub, with the state of its other parts. -/
structure Hub (Rest : Type) where
  controlPlane : Option Store
  rest : Rest

/-- A handler, with the principal that it reads.  An exception of
`json.dumps` or of `respond`, which has sent nothing then, is one of the
handler. -/
abbrev Handler (Rest : Type) := Option RequestPrincipal → Payload → Hub Rest → Py Json × Hub Rest

/-- What becomes of a message. -/
structure Served (Rest : Type) where
  /-- What the handler has been called with. -/
  call : Option (Option RequestPrincipal × Payload) := none
  answers : List Json
  /-- The context of the subscription afterwards. -/
  context : Option RequestPrincipal
  hub : Hub Rest

def denied : Json := .obj [(.text "ok", .bool false), (.text "error", .ofString "unauthorized"),
    (.text "message", .ofString "principal required")]

/-- The answer of the two `except` clauses. -/
def errorAnswer (raised : PyError) : Json :=
  .obj [(.text "ok", .bool false), (.text "error", .ofString
    (if raised = .validationError ∨ raised = .other "JSONDecodeError" ∨
        raised = .unicodeDecodeError ∨ raised = .keyError then "bad_request"
      else "internal_error"))]

/-- What the handler gets of a payload. -/
def businessPayload (needPrincipal : Bool) (payload : Payload) : Payload :=
  if needPrincipal then stripProofPayload (stripPrincipalPayload payload)
  else stripPrincipalPayload payload

section Serve

variable {Rest : Type}
variable (loads : List UInt8 → Py Json) (hashToken : String → String)
variable (now : ℤ) (handler : Handler Rest)

/-- `json.loads(msg.data.decode()) if msg.data else {}`. -/
def loadPayload (data : List UInt8) : Py Json :=
  if data = [] then .ok (.obj []) else loads data

/-- The call of the handler, its answer and the cleared context. -/
def callHandler (context : Option RequestPrincipal) (payload : Payload)
    (hub : Hub Rest) : Served Rest :=
  let result := handler context payload hub
  { call := some (context, payload)
    answers := [match result.1 with
      | .ok answer => answer
      | .error raised => errorAnswer raised]
    context := none
    hub := result.2 }

/-- The callback of a message on a subject that needs a principal. -/
def serveProtected (payload : Payload) (context : Option RequestPrincipal)
    (hub : Hub Rest) : Served Rest :=
  let rehydrated := rehydratePrincipal hashToken now hub.controlPlane
    (parsePrincipalFromPayload payload) payload
  let after := { hub with controlPlane := rehydrated.2 }
  match rehydrated.1 with
  | .error raised =>
    { answers := [errorAnswer raised], context := context, hub := after }
  | .ok none => { answers := [denied], context := context, hub := after }
  | .ok (some principal) =>
    callHandler handler (some (.rehydrated principal)) (businessPayload true payload) after

/-- The callback of a message on a public subject. -/
def servePublic (payload : Payload) (context : Option RequestPrincipal)
    (hub : Hub Rest) : Served Rest :=
  callHandler handler (((parsePrincipalFromPayload payload).map .stamped).or context)
    (businessPayload false payload) hub

/-- `wrap_dashboard_handler`. -/
def serve (subject : String) (data : List UInt8)
    (context : Option RequestPrincipal) (hub : Hub Rest) : Served Rest :=
  match loadPayload loads data with
  | .error raised =>
    { answers := [errorAnswer raised], context := context, hub := hub }
  | .ok (.obj payload) =>
    if subject ∉ publicAuthSubjects then
      serveProtected hashToken now handler payload context hub
    else servePublic handler payload context hub
  | .ok _ =>
    { answers := [errorAnswer .attributeError], context := context
      hub := hub }

end Serve

/-! ## Whom a request acts for -/

/-- The principal is that of an active user, with the role and the
organisations that are stored. -/
structure IsActive (store : Store) (userId : String) (via : AuthVia)
    (principal : Principal) : Prop where
  user : ∃ row role, store.users userId = some row ∧ parseStatus row.status = .ok .active ∧
    parseRole row.globalRole = .ok role ∧ principal.roles = {role.value}
  orgIds : principal.orgIds = store.orgIds userId
  same : principal.userId = userId
  activeOrgId : principal.activeOrgId = none
  via : principal.via = via

/-- The payload proves that it comes from the user of the principal. -/
inductive Proven (hashToken : String → String) (now : ℤ) (store : Store)
    (payload : Payload) (principal : Principal) : Prop
  /-- By an unexpired session. -/
  | session (token : String) (row : SessionRow)
      (given : nonBlank (getKey payload "session_token") = some (.text token))
      (found : store.sessions (hashToken token) = some row)
      (unexpired : now ≤ row.expiresAt)
      (active : IsActive store row.userId .session principal)
  /-- By a key that has not been revoked. -/
  | apiKey (key : String) (row : ApiKeyRow)
      (absent : nonBlank (getKey payload "session_token") = none)
      (given : nonBlank (getKey payload "api_key") = some (.text key))
      (found : store.apiKeys (hashToken key) = some row)
      (valid : row.revoked = false)
      (active : IsActive store row.userId .apiKey principal)

section Rehydrate

variable {hashToken : String → String} {now : ℤ} {store : Store}
variable {principal : Principal} {payload other : Payload}

theorem isActive_of_activePrincipal {userId : String} {via : AuthVia}
    (found : store.activePrincipal userId via = .ok (some principal)) :
    IsActive store userId via principal := by
  unfold Store.activePrincipal at found
  obtain ⟨user, looked, rest⟩ := Py.bind_eq_ok.1 found
  cases user with
  | none => cases rest
  | some user =>
    simp only at rest
    split at rest
    swap
    · cases rest
    rename_i active
    obtain ⟨made, built, same⟩ := Py.bind_eq_ok.1 rest
    cases same
    unfold Store.getUser at looked
    cases row : store.users userId with
    | none =>
      rw [row] at looked
      cases looked
    | some columns =>
      rw [row] at looked
      obtain ⟨role, roleParsed, next⟩ := Py.bind_eq_ok.1 looked
      obtain ⟨status, statusParsed, parsed⟩ := Py.bind_eq_ok.1 next
      cases parsed
      unfold Store.principalForUser at built
      split at built
      swap
      · cases built
      cases built
      constructor
      · refine ⟨columns, role, row, ?_, roleParsed, rfl⟩
        rw [statusParsed]
        exact congrArg Except.ok active
      · rfl
      · rfl
      · rfl
      · rfl

theorem session_of_resolveSession {token : PyStr}
    (found : (store.resolveSession hashToken now token).1 = .ok (some principal)) :
    ∃ text row, token = .text text ∧
      store.sessions (hashToken text) = some row ∧ now ≤ row.expiresAt ∧
      IsActive store row.userId .session principal := by
  cases token with
  | loneSurrogate codePoints => cases found
  | text text =>
    unfold Store.resolveSession at found
    simp only at found
    split at found
    · cases found
    · cases listed : store.sessions (hashToken text) with
      | none =>
        simp only [listed] at found
        cases found
      | some row =>
        simp only [listed] at found
        split at found
        · cases found
        · rename_i unexpired
          exact ⟨text, row, rfl, listed, le_of_not_gt unexpired, isActive_of_activePrincipal found⟩

theorem apiKey_of_resolveApiKey {key : PyStr}
    (found : store.resolveApiKey hashToken key = .ok (some principal)) :
    ∃ text row, key = .text text ∧ store.apiKeys (hashToken text) = some row ∧ row.revoked = false ∧
      IsActive store row.userId .apiKey principal := by
  cases key with
  | loneSurrogate codePoints => cases found
  | text text =>
    unfold Store.resolveApiKey at found
    simp only at found
    split at found
    · cases found
    · cases listed : store.apiKeys (hashToken text) with
      | none =>
        simp only [listed] at found
        cases found
      | some row =>
        simp only [listed] at found
        split at found
        · cases found
        · rename_i valid
          exact ⟨text, row, rfl, listed, Bool.eq_false_of_not_eq_true valid,
            isActive_of_activePrincipal found⟩

theorem ok_of_map_filter {result : Py (Option Principal)} {check : Principal → Bool}
    (found : result.map (·.filter check) = .ok (some principal)) :
    result = .ok (some principal) := by
  cases result with
  | error raised => cases found
  | ok value =>
    have kept : value.filter check = some principal := Except.ok.inj found
    rw [(Option.filter_eq_some_iff.1 kept).1]

theorem proven_of_rehydratePrincipal {plane : Option Store} {wire : Option Wire}
    (found : (rehydratePrincipal hashToken now plane wire payload).1 = .ok (some principal)) :
    ∃ store, plane = some store ∧
      Proven hashToken now store payload principal := by
  unfold rehydratePrincipal at found
  cases plane with
  | none => cases found
  | some store =>
    refine ⟨store, rfl, ?_⟩
    simp only at found
    cases session : nonBlank (getKey payload "session_token") with
    | some token =>
      simp only [session] at found
      obtain ⟨text, row, rfl, listed, unexpired, active⟩ :=
        session_of_resolveSession (ok_of_map_filter found)
      exact .session text row session listed unexpired active
    | none =>
      simp only [session] at found
      cases given : nonBlank (getKey payload "api_key") with
      | none =>
        simp only [given] at found
        cases found
      | some key =>
        simp only [given] at found
        obtain ⟨text, row, rfl, listed, valid, active⟩ :=
          apiKey_of_resolveApiKey (ok_of_map_filter found)
        exact .apiKey text row session given listed valid active

theorem IsActive.unique {userId : String} {via : AuthVia} {second : Principal}
    (active : IsActive store userId via principal)
    (again : IsActive store userId via second) : principal = second := by
  obtain ⟨row, role, found, -, parsed, roles⟩ := active.user
  obtain ⟨other, type, listed, -, read, types⟩ := again.user
  cases found.symm.trans listed
  cases parsed.symm.trans read
  cases principal
  cases second
  simp only [Principal.mk.injEq]
  exact ⟨active.same.trans again.same.symm, roles.trans types.symm,
    active.orgIds.trans again.orgIds.symm,
    active.activeOrgId.trans again.activeOrgId.symm,
    active.via.trans again.via.symm⟩

theorem Proven.unique {second : Principal} (proven : Proven hashToken now store payload principal)
    (again : Proven hashToken now store other second)
    (session : getKey payload "session_token" = getKey other "session_token")
    (apiKey : getKey payload "api_key" = getKey other "api_key") :
    principal = second := by
  cases proven with
  | session token row given found unexpired active =>
    rw [session] at given
    cases again with
    | session text line presented listed fresh acts =>
      cases given.symm.trans presented
      cases found.symm.trans listed
      exact active.unique acts
    | apiKey text line absent presented listed valid acts =>
      rw [given] at absent
      cases absent
  | apiKey key row absent given found valid active =>
    rw [session] at absent
    rw [apiKey] at given
    cases again with
    | session text line presented listed fresh acts =>
      rw [absent] at presented
      cases presented
    | apiKey text line missing presented listed unrevoked acts =>
      cases given.symm.trans presented
      cases found.symm.trans listed
      exact active.unique acts

end Rehydrate

/-! ## What the stamp does not change -/

section Without

variable {payload other : Payload} {keys : List String} {key : String}

theorem getKey_without (kept : key ∉ keys) (payload : Payload) :
    getKey (without keys payload) key = getKey payload key := by
  have untouched : ¬ PyStr.text key ∈ keys.map PyStr.text := by
    intro member
    obtain ⟨same, listed, equal⟩ := List.mem_map.1 member
    rw [PyStr.text.inj equal] at listed
    exact kept listed
  unfold getKey without
  congr 1
  induction payload with
  | nil => rfl
  | cons member rest ih =>
    by_cases found : PyStr.text key = member.1
    · rw [List.filter_cons_of_pos (by rw [← found]; simpa using untouched),
        List.lookup_cons, List.lookup_cons, found, beq_self_eq_true]
    · have differs : (PyStr.text key == member.1) = false := beq_false_of_ne found
      rw [List.lookup_cons, differs, ← ih]
      by_cases dropped : member.1 ∈ keys.map PyStr.text
      · rw [List.filter_cons_of_neg (by simpa using dropped)]
      · rw [List.filter_cons_of_pos (by simpa using dropped),
          List.lookup_cons, differs]

theorem without_without {fewer : List String}
    (subset : ∀ key ∈ fewer, key ∈ keys) (payload : Payload) :
    without keys (without fewer payload) = without keys payload := by
  unfold without
  rw [List.filter_filter]
  apply List.filter_congr
  intro member _
  by_cases dropped : member.1 ∈ keys.map PyStr.text
  · rw [decide_eq_false (not_not_intro dropped)]
    rfl
  · have kept : member.1 ∉ fewer.map PyStr.text := by
      intro listed
      obtain ⟨key, present, equal⟩ := List.mem_map.1 listed
      apply dropped
      rw [← equal]
      exact List.mem_map_of_mem (subset key present)
    rw [decide_eq_true dropped, decide_eq_true kept]
    rfl

theorem businessPayload_eq (same : without authorityKeys payload = without authorityKeys other) :
    businessPayload true payload = businessPayload true other := by
  have subset : ∀ key ∈ authorityKeys, key ∈ principalKeys :=
    fun key member => List.mem_cons_of_mem _ member
  change without proofKeys (without principalKeys payload) =
    without proofKeys (without principalKeys other)
  rw [← without_without subset payload, same, without_without subset]

theorem not_mem_businessPayload {member : PyStr × Json}
    (present : member ∈ businessPayload true payload) :
    member.1 ∉ (principalKeys ++ proofKeys).map PyStr.text := by
  obtain ⟨stripped, noProof⟩ := List.mem_filter.1 present
  have noStamp := (List.mem_filter.1 stripped).2
  rw [List.map_append, List.mem_append]
  intro listed
  rcases listed with stamp | proof
  · exact of_decide_eq_true noStamp stamp
  · exact of_decide_eq_true noProof proof

end Without

section Serve

variable {Rest : Type}

/-- A protected subject: whoever sends a message, the handler acts for the
user of its proof only. -/
structure ActsAsProof (loads : List UInt8 → Py Json)
    (hashToken : String → String) (now : ℤ) (handler : Handler Rest)
    (subject : String) (hub : Hub Rest) : Prop where
  proven : ∀ data context seen payload,
    (serve loads hashToken now handler subject data context hub).call = some (seen, payload) →
    ∃ members store principal, loadPayload loads data = .ok (.obj members) ∧
      hub.controlPlane = some store ∧ seen = some (.rehydrated principal) ∧
      Proven hashToken now store members principal
  /-- Payloads that differ in the claimed roles, organisations and kind only
  are the same for the handler. -/
  blind : ∀ first second context before members others one two,
    loadPayload loads first = .ok (.obj members) →
    loadPayload loads second = .ok (.obj others) →
    without authorityKeys members = without authorityKeys others →
    (serve loads hashToken now handler subject first context hub).call = some one →
    (serve loads hashToken now handler subject second before hub).call = some two → one = two
  proofless : ∀ data context seen payload,
    (serve loads hashToken now handler subject data context hub).call = some (seen, payload) →
    ∀ member ∈ payload, member.1 ∉ (principalKeys ++ proofKeys).map PyStr.text
  answered : ∀ data context,
    (serve loads hashToken now handler subject data context hub).answers.length = 1

variable {loads : List UInt8 → Py Json} {hashToken : String → String}
variable {now : ℤ} {handler : Handler Rest} {subject : String} {hub : Hub Rest}

theorem exists_of_call {data : List UInt8}
    {context seen : Option RequestPrincipal} {payload : Payload}
    (guarded : subject ∉ publicAuthSubjects)
    (called : (serve loads hashToken now handler subject data context
      hub).call = some (seen, payload)) :
    ∃ members store principal, loadPayload loads data = .ok (.obj members) ∧
      hub.controlPlane = some store ∧ seen = some (.rehydrated principal) ∧
      Proven hashToken now store members principal ∧
      payload = businessPayload true members := by
  unfold serve at called
  cases loaded : loadPayload loads data with
  | error raised =>
    simp only [loaded] at called
    cases called
  | ok value =>
    cases value with
    | obj members =>
      simp only [loaded, if_pos guarded] at called
      unfold serveProtected at called
      simp only at called
      cases found : (rehydratePrincipal hashToken now hub.controlPlane
          (parsePrincipalFromPayload members) members).1 with
      | error raised =>
        simp only [found] at called
        cases called
      | ok result =>
        cases result with
        | none =>
          simp only [found] at called
          cases called
        | some principal =>
          simp only [found, callHandler, Option.some.injEq] at called
          obtain ⟨store, plane, proven⟩ := proven_of_rehydratePrincipal found
          cases called
          exact ⟨members, store, principal, rfl, plane, rfl, proven,
            rfl⟩
    | null => simp only [loaded, reduceCtorEq] at called
    | bool _ => simp only [loaded, reduceCtorEq] at called
    | int _ => simp only [loaded, reduceCtorEq] at called
    | float _ => simp only [loaded, reduceCtorEq] at called
    | nonFinite _ => simp only [loaded, reduceCtorEq] at called
    | str _ => simp only [loaded, reduceCtorEq] at called
    | arr _ => simp only [loaded, reduceCtorEq] at called

theorem length_answers (data : List UInt8) (context : Option RequestPrincipal) :
    (serve loads hashToken now handler subject data context hub).answers.length = 1 := by
  unfold serve
  split
  · rfl
  · split
    · unfold serveProtected
      simp only
      split <;> rfl
    · rfl
  · rfl

end Serve

section Example

def memberStore : Store where
  sessions tokenHash := if tokenHash = "secret" then some ⟨"rx:user:1", 10⟩
    else none
  users userId := if userId = "rx:user:1" then some ⟨"member", "active"⟩
    else none

/-- A payload that claims to come from an administrator. -/
def claiming : Json := .obj [(.text "principal_user_id", .ofString "rx:user:1"),
    (.text "principal_roles", .arr [.ofString "admin"]),
    (.text "session_token", .ofString " secret "),
    (.text "job_id", .ofString "j1")]

/-- A handler that answers with what it has got. -/
def echo : Handler Unit :=
  fun _ payload hub => (.ok (.obj payload), hub)

end Example

end DashboardRpc

end RoxabiFactory

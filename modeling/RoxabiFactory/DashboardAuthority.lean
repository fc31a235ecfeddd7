import RoxabiFactory.DashboardHandlers

/-!
# Authority over the requests of the dashboard

A request that the policy denies changes nothing and shows no job that it
denies, and one that the policy allows is not refused.  The creation of invites
is the exception: its handler looks for a session token in the payload, from
which the token has been stripped, and so refuses administrators as well.
-/

namespace RoxabiFactory

open ControlPlane
open Agents

namespace DashboardRpc

/-- The action that a request of the subject asks for. -/
def Endpoint.action : Endpoint → String
  | .adminUserCreate | .adminUserPatch => "users.admin"
  | .agentsCreate | .agentsPatch => "agents.write"
  | .agentsSoulPut => "agents.soul.write"
  | .authInviteCreate => "users.invite"
  | .jobsList => "jobs.read"
  | .jobsSteer => "jobs.steer"
  | .jobsCancel => "jobs.cancel"

/-- The `error` of an answer. -/
def errorOf : Json → Json
  | .obj members => getKey members "error"
  | _ => .null

/-- The answer is an error of authority. -/
def isRefusal (answer : Json) : Bool :=
  (errorOf answer).isText "unauthorized" || (errorOf answer).isText "forbidden"

/-- The rows of an answer with jobs. -/
def jobsOf : Json → List Json
  | .obj members => (asList (getKey members "jobs")).getD []
  | _ => []

section Policy

variable {σ : Type} (tools : PythonText) (calls : Calls σ) (models : Models)
variable (hashToken : String → String) (clock : ℤ) (now : String)

/-- A well-formed request for an action on a resource. -/
inductive Asks (hub : Hub (Parts σ)) (payload : Payload) : Endpoint → Option ResourceRef → Prop
  | adminUserCreate (request : UserCreate)
      (wellFormed : models.adminUserCreate (bodyOf "body" payload) = .ok request) :
      Asks hub payload .adminUserCreate none
  | adminUserPatch (request : UserPatch)
      (wellFormed : models.adminUserPatch (bodyOf "patch" payload) = .ok request) :
      Asks hub payload .adminUserPatch none
  | agentsCreate (request : CreateRequest)
      (wellFormed : models.agentCreate (bodyOf "body" payload) = .ok request) :
      Asks hub payload .agentsCreate none
  | agentsPatch (request : PatchRequest)
      (wellFormed : models.agentPatch (bodyOf "patch" payload) = .ok request) :
      Asks hub payload .agentsPatch none
  | agentsSoulPut (markdown : String) (wellFormed : models.agentSoulPut (bodyOf "body" payload) =
        .ok markdown) :
      Asks hub payload .agentsSoulPut none
  | authInviteCreate (request : InviteCreate)
      (wellFormed : models.inviteCreate (.obj payload) = .ok request) :
      Asks hub payload .authInviteCreate none
  | jobsList (rows : List JobRow) (row : JobRow)
      (listed : listActiveJobs calls hub = .ok rows) (member : row ∈ rows) :
      Asks hub payload .jobsList (some (jobResource (getJobMeta hub row.jobId)))
  | jobsSteer (request : JobsSteer) (wellFormed : models.jobsSteer (.obj payload) = .ok request) :
      Asks hub payload .jobsSteer (some (jobResource (getJobMeta hub request.jobId)))
  | jobsCancel (jobId : String) (wellFormed : models.jobsCancel (.obj payload) = .ok jobId) :
      Asks hub payload .jobsCancel (some (jobResource (getJobMeta hub jobId)))

/-- What is done for a principal is what the policy says. -/
structure FollowsPolicy (endpoint : Endpoint) (principal : Principal)
    (payload : Payload) (hub : Hub (Parts σ)) (served : Served (Parts σ)) :
    Prop where
  /-- What is denied changes no store and publishes nothing. -/
  denies : ∀ resource, Asks calls models hub payload endpoint resource →
    (authorize principal endpoint.action resource).allowed = false →
    served.hub = hub
  /-- No job row is shown that the policy denies. -/
  hides : endpoint = .jobsList → ∀ answer ∈ served.answers,
    ∀ row ∈ jobsOf answer, ∃ job : JobRow, row = job.toJson ∧ (authorize principal "jobs.read"
        (some (jobResource (getJobMeta hub job.jobId)))).allowed = true
  /-- What is allowed is not refused. -/
  permits : ∀ resource, Asks calls models hub payload endpoint resource →
    (authorize principal endpoint.action resource).allowed = true →
    ∀ answer ∈ served.answers, isRefusal answer = false

/-- The request is a well-formed creation of an invite by an administrator. -/
def InvitesAsAdmin (endpoint : Endpoint) (principal : Principal) (payload : Payload) : Prop :=
  endpoint = .authInviteCreate ∧ principal.isAdmin = true ∧
    ∃ request, models.inviteCreate (.obj payload) = .ok request

end Policy

/-! ## The policy for administrators and for the others -/

section Authorize

variable {principal : Principal} {action : String}
variable {resource : Option ResourceRef}

theorem allowed_of_isAdmin (admin : principal.isAdmin = true) :
    (authorize principal action resource).allowed = true := by
  unfold authorize
  rw [if_pos (of_decide_eq_true admin)]

theorem isAdmin_eq_false (denied : (authorize principal action
    resource).allowed = false) : principal.isAdmin = false := by
  apply Bool.eq_false_of_not_eq_true
  intro admin
  rw [allowed_of_isAdmin admin] at denied
  cases denied

theorem isAdmin_of_allowed (adminOnly : action ∈ adminOnlyActions)
    (allowed : (authorize principal action resource).allowed = true) :
    principal.isAdmin = true := by
  apply Bool.of_not_eq_false
  intro member
  unfold authorize at allowed
  rw [if_neg (of_decide_eq_false member), if_pos adminOnly] at allowed
  cases allowed

theorem adminGate_of_isAdmin (message : String) (admin : principal.isAdmin = true) :
    adminGate message (some principal) = none := by
  rw [adminGate, if_pos admin]

theorem adminGate_of_member (message : String) (member : principal.isAdmin = false) :
    adminGate message (some principal) =
      some (failureWith "forbidden" message) := by
  rw [adminGate, member, if_neg Bool.false_ne_true]

end Authorize

/-! ## Answers that refuse nothing -/

section Answers

variable {σ : Type} (tools : PythonText) (calls : Calls σ) (models : Models)
variable (now : String)

/-- The computation answers without an error of authority. -/
abbrev RefusesNot (handle : Call σ Json) : Prop :=
  handle.Ensures fun answer => isRefusal answer = false

theorem refusesNot_conflictOr (raised : Raised) : RefusesNot (conflictOr raised : Call σ Json) := by
  unfold conflictOr
  split
  · exact .pure rfl
  · exact .raise raised

theorem refusesNot_respondUser (users : UserCalls σ) (user : ProfileUser) :
    RefusesNot (respondUser calls users user) := by
  unfold respondUser
  split
  · exact .andThen fun _ => .andThen fun _ => .pure rfl
  · exact .pure rfl

theorem refusesNot_createAdminUser (users : UserCalls σ) (request : UserCreate) :
    RefusesNot (createAdminUser calls users request) := by
  unfold createAdminUser
  apply Action.Ensures.andThen
  intro unknown
  cases unknown with
  | some message => exact .pure rfl
  | none =>
    apply Action.Ensures.andThen
    intro created
    cases created with
    | error raised => exact refusesNot_conflictOr raised
    | ok user =>
      apply Action.Ensures.andThen
      intro equipped
      obtain ⟨granted, result⟩ := equipped
      cases result with
      | error raised =>
        exact .andThen fun _ => refusesNot_conflictOr raised
      | ok _ => exact refusesNot_respondUser calls users user

theorem refusesNot_adminUserCreate {principal : Principal}
    (admin : principal.isAdmin = true) (payload : Payload) :
    RefusesNot (handleAdminUserCreate calls models (some principal) payload) := by
  unfold handleAdminUserCreate requireAdminPrincipal
  rw [adminGate_of_isAdmin _ admin]
  apply Action.Ensures.andThen
  intro request
  cases calls.users with
  | none => exact .pure rfl
  | some users => exact refusesNot_createAdminUser calls users request

theorem refusesNot_adminUserPatch {principal : Principal}
    (admin : principal.isAdmin = true) (payload : Payload) :
    RefusesNot (handleAdminUserPatch tools calls models (some principal) payload) := by
  unfold handleAdminUserPatch requireAdminPrincipal
  rw [adminGate_of_isAdmin _ admin]
  apply Action.Ensures.andThen
  intro request
  cases calls.users with
  | none => exact .pure rfl
  | some users =>
    simp only
    split
    · exact .pure rfl
    · apply Action.Ensures.andThen
      intro patched
      cases patched with
      | error raised => exact refusesNot_conflictOr raised
      | ok user =>
        cases user with
        | none => exact .pure rfl
        | some user => exact refusesNot_respondUser calls users user

theorem refusesNot_configResponse (row : AgentRow) :
    RefusesNot (.ofExcept (configResponse calls row) : Call σ Json) := by
  intro hub answer returned
  change configResponse calls row = .ok answer at returned
  unfold configResponse at returned
  cases voice : voiceOf row with
  | error raised =>
    rw [voice] at returned
    cases returned
  | ok value =>
    rw [voice] at returned
    change (if _ then _ else _) = _ at returned
    split at returned
    · cases returned
      rfl
    · cases returned

theorem refusesNot_getAgent (agents : AgentCalls σ) (name : PyStr) :
    RefusesNot (getAgent calls agents name) := by
  unfold getAgent
  split
  · exact .pure rfl
  · apply Action.Ensures.andThen
    intro found
    cases found with
    | none => exact .pure rfl
    | some row => exact refusesNot_configResponse calls row

theorem refusesNot_agentsCreate {principal : Principal}
    (admin : principal.isAdmin = true) (payload : Payload) :
    RefusesNot (handleAgentsCreate calls models now (some principal) payload) := by
  unfold handleAgentsCreate adminMutateGate
  rw [adminGate_of_isAdmin _ admin]
  apply Action.Ensures.andThen
  intro request
  cases calls.agents with
  | none => exact .pure rfl
  | some agents =>
    apply Action.Ensures.andThen
    intro found
    cases found with
    | some row => exact .pure rfl
    | none =>
      exact .andThen fun _ => .andThen fun _ =>
        refusesNot_getAgent calls agents _

theorem refusesNot_agentsPatch {principal : Principal}
    (admin : principal.isAdmin = true) (payload : Payload) :
    RefusesNot (handleAgentsPatch tools calls models now (some principal) payload) := by
  unfold handleAgentsPatch adminMutateGate
  rw [adminGate_of_isAdmin _ admin]
  apply Action.Ensures.andThen
  intro request
  cases calls.agents with
  | none => exact .pure rfl
  | some agents =>
    simp only
    split
    · exact .pure rfl
    · apply Action.Ensures.andThen
      intro found
      cases found with
      | none => exact .pure rfl
      | some row =>
        exact .andThen fun _ => .andThen fun _ =>
          refusesNot_getAgent calls agents _

theorem refusesNot_getSoul (agents : AgentCalls σ) (blobs : BlobCalls σ)
    (name : PyStr) : RefusesNot (getSoul agents blobs name) := by
  unfold getSoul
  apply Action.Ensures.andThen
  intro found
  cases found with
  | none => exact .pure rfl
  | some row => exact .andThen fun _ => .pure rfl

theorem refusesNot_agentsSoulPut {principal : Principal}
    (admin : principal.isAdmin = true) (payload : Payload) :
    RefusesNot (handleAgentsSoulPut tools calls models now (some principal) payload) := by
  unfold handleAgentsSoulPut adminMutateGate
  rw [adminGate_of_isAdmin _ admin]
  apply Action.Ensures.andThen
  intro markdown
  cases calls.agents with
  | none => exact .pure rfl
  | some agents =>
    cases calls.blobs with
    | none => exact .pure rfl
    | some blobs =>
      apply Action.Ensures.andThen
      intro missing
      split
      · exact .pure rfl
      · apply Action.Ensures.andThen
        intro stored
        cases stored with
        | ok _ => exact refusesNot_getSoul agents blobs _
        | error raised =>
          simp only
          split
          · exact .pure rfl
          · exact .raise raised

end Answers

/-! ## What is denied -/

section Denied

variable {σ : Type} (tools : PythonText) (calls : Calls σ) (models : Models)
variable (hashToken : String → String) (clock : ℤ) (now : String)
variable {principal : Principal} {payload : Payload} {hub : Hub (Parts σ)}

theorem runOn_gated (message : String) (member : principal.isAdmin = false) (handle : Call σ Json) :
    ((gated (adminGate message (some principal)) handle).runOn hub).2 = hub := by
  rw [adminGate_of_member message member]
  rfl

theorem runOn_authInviteCreate (absent : payload.lookup (.text "session_token") = none) :
    ((handleAuthInviteCreate calls models hashToken clock payload).runOn hub).2 = hub := by
  unfold handleAuthInviteCreate
  rw [Action.runOn_bind]
  simp only [Action.runOn_reads]
  cases hub.controlPlane with
  | none => rfl
  | some store =>
    simp only
    rw [Action.runOn_bind, Action.runOn_ofExcept]
    cases validated : models.inviteCreate (.obj payload) with
    | error raised => rfl
    | ok request =>
      have token := models.sessionToken_absent payload request absent validated
      simp only [ofPy, Except.mapError, token]
      rfl

theorem runOn_jobsList : ((handleJobsList calls (some principal)).runOn hub).2 = hub := by
  change (Action.runOn (_ >>= _) hub).2 = hub
  rw [Action.runOn_bind, Action.runOn_readsOrRaises]
  cases listActiveJobs calls hub with
  | error raised => rfl
  | ok rows => rfl

theorem jobMetaOf_eq {store : Store} (plane : hub.controlPlane = some store)
    (jobId : String) : jobMetaOf hub jobId = getJobMeta hub jobId := by
  rw [jobMetaOf, plane]

theorem runOn_withJobAction_of_denied {jobId action : String} (denied : (authorize principal action
      (some (jobResource (jobMetaOf hub jobId)))).allowed = false)
    (handle : Call σ Json) :
    ((withJobAction principal jobId action handle).runOn hub).2 = hub := by
  have message : authorizeJobAction principal hub jobId action =
      some ("not allowed to " ++ action ++ " job " ++ jobId) := by
    unfold authorizeJobAction
    rw [isAdmin_eq_false denied, denied]
    rfl
  unfold withJobAction
  rw [Action.runOn_bind, Action.runOn_reads, message]
  rfl

theorem runOn_withJobAction_of_allowed {jobId action : String}
    (allowed : (authorize principal action
      (some (jobResource (jobMetaOf hub jobId)))).allowed = true)
    (handle : Call σ Json) :
    (withJobAction principal jobId action handle).runOn hub =
      handle.runOn hub := by
  have silent : authorizeJobAction principal hub jobId action = none := by
    unfold authorizeJobAction
    rw [allowed, if_pos rfl, ite_self]
  unfold withJobAction
  rw [Action.runOn_bind, Action.runOn_reads, silent]

theorem runOn_ofExcept_bind {α : Type} {value : Py α} {found : α}
    (returned : value = .ok found) (next : α → Call σ Json) :
    ((.ofExcept (ofPy value) : Call σ α) >>= next).runOn hub = (next found).runOn hub := by
  rw [Action.runOn_bind, Action.runOn_ofExcept, returned]
  rfl

end Denied

/-! ## A request with a proof -/

section Serve

variable {σ : Type} (tools : PythonText) (calls : Calls σ) (models : Models)
variable (loads : List UInt8 → Py Json) (hashToken : String → String)
variable (clock : ℤ) (now : String) {hub : Hub (Parts σ)}
variable {principal : Principal} {payload : Payload} {endpoint : Endpoint}

theorem snd_rehydratePrincipal {plane : Option Store} {wire : Option Wire}
    (found : (rehydratePrincipal hashToken clock plane wire payload).1 = .ok (some principal)) :
    (rehydratePrincipal hashToken clock plane wire payload).2 = plane := by
  unfold rehydratePrincipal at found ⊢
  cases plane with
  | none => rfl
  | some store =>
    simp only at found ⊢
    cases session : nonBlank (getKey payload "session_token") with
    | some token =>
      simp only [session] at found ⊢
      have resolved := ok_of_map_filter found
      unfold Store.resolveSession at resolved ⊢
      cases token with
      | loneSurrogate codePoints => rfl
      | text token =>
        simp only at resolved ⊢
        split at resolved
        · cases resolved
        · rename_i nonempty
          rw [if_neg nonempty]
          cases listed : store.sessions (hashToken token) with
          | none => rfl
          | some row =>
            simp only [listed] at resolved ⊢
            split at resolved
            · cases resolved
            · rename_i unexpired
              rw [if_neg unexpired]
    | none =>
      simp only
      cases nonBlank (getKey payload "api_key") with
      | none => rfl
      | some key => rfl

theorem subject_not_mem (endpoint : Endpoint) :
    endpoint.subject ∉ publicAuthSubjects := by
  cases endpoint <;> decide

theorem serve_eq_callHandler {Rest : Type} {hub : Hub Rest}
    (handler : Handler Rest) {data : List UInt8}
    (loaded : loadPayload loads data = .ok (.obj payload))
    (proven : (rehydratePrincipal hashToken clock hub.controlPlane
      (parsePrincipalFromPayload payload) payload).1 = .ok (some principal))
    (context : Option RequestPrincipal) :
    serve loads hashToken clock handler endpoint.subject data context hub =
      callHandler handler (some (.rehydrated principal)) (businessPayload true payload) hub := by
  unfold serve
  simp only [loaded]
  rw [if_pos (subject_not_mem endpoint), serveProtected]
  simp only [proven, snd_rehydratePrincipal hashToken clock proven]

theorem lookup_businessPayload (payload : Payload) :
    (businessPayload true payload).lookup (.text "session_token") = none := by
  apply List.lookup_eq_none_iff.2
  intro member present
  have stripped := not_mem_businessPayload present
  apply bne_iff_ne.2
  intro same
  rw [← same] at stripped
  exact stripped (by decide)

/-- The answer to what a handler returns or raises. -/
def answerOf : Except Raised Json → Json
  | .ok answer => answer
  | .error raised => errorAnswer raised.error

theorem callHandler_handler (endpoint : Endpoint) (payload : Payload)
    (hub : Hub (Parts σ)) (context : Option RequestPrincipal) :
    let result := (endpoint.handle tools calls models hashToken clock now
      (requestPrincipal context) payload).runOn hub
    let served := callHandler (endpoint.handler tools calls models hashToken
      clock now) context payload hub
    served.answers = [answerOf result.1] ∧ served.hub = result.2 := by
  intro result served
  refine ⟨?_, rfl⟩
  change [match result.1.mapError Raised.error with
    | .ok answer => answer
    | .error raised => errorAnswer raised] = _
  cases result.1 with
  | ok answer => rfl
  | error raised => rfl

theorem isRefusal_errorAnswer (raised : PyError) : isRefusal (errorAnswer raised) = false := by
  unfold errorAnswer
  split <;> decide

theorem isRefusal_answerOf {result : Except Raised Json}
    (answers : ∀ answer, result = .ok answer → isRefusal answer = false) :
    isRefusal (answerOf result) = false := by
  cases result with
  | ok answer => exact answers answer rfl
  | error raised => exact isRefusal_errorAnswer raised.error

theorem visible_of_jobsList {store : Store} (plane : hub.controlPlane = some store) {answer : Json}
    (returned : ((handleJobsList calls (some principal)).runOn hub).1 =
      .ok answer) {row : Json} (member : row ∈ jobsOf answer) :
    ∃ job : JobRow, row = job.toJson ∧ (authorize principal "jobs.read"
        (some (jobResource (getJobMeta hub job.jobId)))).allowed = true := by
  change (Action.runOn (_ >>= _) hub).1 = .ok answer at returned
  rw [Action.runOn_bind, Action.runOn_readsOrRaises] at returned
  cases listed : listActiveJobs calls hub with
  | error raised =>
    rw [listed] at returned
    cases returned
  | ok rows =>
    rw [listed] at returned
    cases returned
    obtain ⟨job, seen, rfl⟩ := List.mem_map.1 member
    refine ⟨job, rfl, ?_⟩
    simp only [visibleJobs, plane, filterJobsVisible] at seen
    split at seen
    · rename_i admin
      exact allowed_of_isAdmin admin
    · obtain ⟨present, allowed⟩ := List.mem_filter.1 seen
      rw [jobMetaMap, if_pos (List.mem_map_of_mem present)] at allowed
      exact allowed

theorem snd_handle_of_denied {store : Store} (plane : hub.controlPlane = some store)
    (absent : payload.lookup (.text "session_token") = none)
    {resource : Option ResourceRef}
    (asks : Asks calls models hub payload endpoint resource)
    (denied : (authorize principal endpoint.action resource).allowed = false) :
    ((endpoint.handle tools calls models hashToken clock now (some principal)
      payload).runOn hub).2 = hub := by
  have member := isAdmin_eq_false denied
  cases asks with
  | adminUserCreate => exact runOn_gated _ member _
  | adminUserPatch => exact runOn_gated _ member _
  | agentsCreate => exact runOn_gated _ member _
  | agentsPatch => exact runOn_gated _ member _
  | agentsSoulPut => exact runOn_gated _ member _
  | authInviteCreate =>
    exact runOn_authInviteCreate calls models hashToken clock absent
  | jobsList => exact runOn_jobsList calls
  | jobsSteer request wellFormed =>
    rw [← jobMetaOf_eq plane] at denied
    change ((_ >>= _ : Call σ Json).runOn hub).2 = hub
    rw [runOn_ofExcept_bind wellFormed]
    exact runOn_withJobAction_of_denied denied _
  | jobsCancel jobId wellFormed =>
    rw [← jobMetaOf_eq plane] at denied
    change ((_ >>= _ : Call σ Json).runOn hub).2 = hub
    rw [runOn_ofExcept_bind wellFormed]
    exact runOn_withJobAction_of_denied denied _

theorem isRefusal_handle_of_allowed {store : Store} (plane : hub.controlPlane = some store)
    {resource : Option ResourceRef} (apart : endpoint ≠ .authInviteCreate)
    (asks : Asks calls models hub payload endpoint resource)
    (allowed : (authorize principal endpoint.action resource).allowed = true)
    {answer : Json}
    (returned : ((endpoint.handle tools calls models hashToken clock now
      (some principal) payload).runOn hub).1 = .ok answer) :
    isRefusal answer = false := by
  cases asks with
  | adminUserCreate =>
    have admin := isAdmin_of_allowed (by decide) allowed
    exact refusesNot_adminUserCreate calls models admin _ hub _ returned
  | adminUserPatch =>
    have admin := isAdmin_of_allowed (by decide) allowed
    exact refusesNot_adminUserPatch tools calls models admin _ hub _ returned
  | agentsCreate =>
    have admin := isAdmin_of_allowed (by decide) allowed
    exact refusesNot_agentsCreate calls models now admin _ hub _ returned
  | agentsPatch =>
    have admin := isAdmin_of_allowed (by decide) allowed
    exact refusesNot_agentsPatch tools calls models now admin _ hub _ returned
  | agentsSoulPut =>
    have admin := isAdmin_of_allowed (by decide) allowed
    exact refusesNot_agentsSoulPut tools calls models now admin _ hub _
      returned
  | authInviteCreate => exact absurd rfl apart
  | jobsList =>
    have listing : RefusesNot (handleJobsList calls (some principal)) :=
      .andThen fun _ => .andThen fun _ => .pure rfl
    exact listing hub _ returned
  | jobsSteer request wellFormed =>
    rw [← jobMetaOf_eq plane] at allowed
    change (authorize principal "jobs.steer" _).allowed = true at allowed
    change ((_ >>= _ : Call σ Json).runOn hub).1 = .ok answer at returned
    rw [runOn_ofExcept_bind wellFormed, runOn_withJobAction_of_allowed allowed] at returned
    have steering : RefusesNot (steerJob request : Call σ Json) :=
      .andThen fun _ => .andThen fun _ => .pure rfl
    exact steering hub _ returned
  | jobsCancel jobId wellFormed =>
    rw [← jobMetaOf_eq plane] at allowed
    change (authorize principal "jobs.cancel" _).allowed = true at allowed
    change ((_ >>= _ : Call σ Json).runOn hub).1 = .ok answer at returned
    rw [runOn_ofExcept_bind wellFormed, runOn_withJobAction_of_allowed allowed] at returned
    have cancelling : RefusesNot (cancelJob calls jobId) :=
      .andThen fun _ => .andThen fun _ => .andThen fun _ => .pure rfl
    exact cancelling hub _ returned

theorem handle_authInviteCreate {store : Store} (plane : hub.controlPlane = some store)
    (absent : payload.lookup (.text "session_token") = none)
    {request : InviteCreate}
    (wellFormed : models.inviteCreate (.obj payload) = .ok request) :
    ((handleAuthInviteCreate calls models hashToken clock payload).runOn hub).1 =
      .ok (inviteFailure "unauthorized" "session_token required") := by
  unfold handleAuthInviteCreate
  rw [Action.runOn_bind, Action.runOn_reads]
  simp only [plane]
  rw [runOn_ofExcept_bind wellFormed, models.sessionToken_absent payload request absent wellFormed]
  rfl

/-- The policy is followed, unless an administrator creates an invite. -/
theorem followsPolicy_iff (endpoint : Endpoint) {data : List UInt8}
    (loaded : loadPayload loads data = .ok (.obj payload))
    (proven : (rehydratePrincipal hashToken clock hub.controlPlane
      (parsePrincipalFromPayload payload) payload).1 = .ok (some principal))
    (context : Option RequestPrincipal) :
    FollowsPolicy calls models endpoint principal (businessPayload true payload)
        hub (serve loads hashToken clock (endpoint.handler tools calls models hashToken clock now)
          endpoint.subject data context hub) ↔
      ¬ InvitesAsAdmin models endpoint principal (businessPayload true payload) := by
  obtain ⟨store, plane, -⟩ := proven_of_rehydratePrincipal proven
  have absent := lookup_businessPayload payload
  rw [serve_eq_callHandler loads hashToken clock _ loaded proven context]
  obtain ⟨answers, later⟩ := callHandler_handler tools calls models hashToken
    clock now endpoint (businessPayload true payload) hub
    (some (.rehydrated principal))
  constructor
  · rintro follows ⟨rfl, admin, request, wellFormed⟩
    have answered := handle_authInviteCreate calls models hashToken clock plane absent wellFormed
    have refused := follows.permits none (.authInviteCreate request wellFormed)
      (allowed_of_isAdmin admin) _ (by rw [answers]; exact List.mem_singleton_self _)
    change isRefusal (answerOf ((handleAuthInviteCreate calls models hashToken
      clock _).runOn hub).1) = false at refused
    rw [answered] at refused
    revert refused
    decide
  · intro apart
    constructor
    · intro resource asks denied
      rw [later]
      exact snd_handle_of_denied tools calls models hashToken clock now plane absent asks denied
    · rintro rfl answer member row shown
      rw [answers] at member
      cases List.mem_singleton.1 member
      cases returned : ((handleJobsList calls (some principal)).runOn hub).1 with
      | ok answer =>
        change row ∈ jobsOf (answerOf ((handleJobsList calls
          (some principal)).runOn hub).1) at shown
        rw [returned] at shown
        exact visible_of_jobsList calls plane returned shown
      | error raised =>
        change row ∈ jobsOf (answerOf ((handleJobsList calls
          (some principal)).runOn hub).1) at shown
        rw [returned] at shown
        cases shown
    · intro resource asks allowed answer member
      rw [answers] at member
      cases List.mem_singleton.1 member
      apply isRefusal_answerOf
      intro answer returned
      by_cases invite : endpoint = .authInviteCreate
      · subst invite
        cases asks with
        | authInviteCreate request wellFormed =>
          exact absurd ⟨rfl, isAdmin_of_allowed (by decide) allowed, request,
            wellFormed⟩ apart
      · exact isRefusal_handle_of_allowed tools calls models hashToken clock now
          plane invite asks allowed returned

end Serve

section Example

/-- `str | None = None`. -/
def optionalText (payload : Payload) (key : String) : Option String := (getKey payload key).asText

def inviteOf : Json → Py InviteCreate
  | .obj payload =>
    match (getKey payload "email").asText with
    | some email => .ok ⟨email, 72, optionalText payload "session_token"⟩
    | none => .error .validationError
  | _ => .error .validationError

def steerOf : Json → Py JobsSteer
  | .obj payload =>
    match (getKey payload "job_id").asText, (getKey payload "text").asText with
    | some jobId, some text => .ok ⟨jobId, text⟩
    | _, _ => .error .validationError
  | _ => .error .validationError

theorem sessionToken_inviteOf (payload : Payload) (request : InviteCreate)
    (absent : payload.lookup (.text "session_token") = none)
    (validated : inviteOf (.obj payload) = .ok request) :
    request.sessionToken = none := by
  unfold inviteOf at validated
  simp only at validated
  split at validated
  · cases validated
    rw [optionalText, getKey, absent]
    rfl
  · cases validated

/-- The models of invites and steers. -/
def exampleModels : Models where
  adminUserCreate _ := .error .validationError
  adminUserPatch _ := .error .validationError
  agentCreate _ := .error .validationError
  agentPatch _ := .error .validationError
  agentSoulPut _ := .error .validationError
  inviteCreate := inviteOf
  jobsSteer := steerOf
  jobsCancel _ := .error .validationError
  sessionToken_absent := sessionToken_inviteOf

/-- A hub without other parts. -/
def exampleCalls : Calls Unit where
  users := none
  grants := none
  agents := none
  blobs := none
  snapshot _ := []
  listAll _ := .ok []
  agentForPool _ _ := none
  closeJob _ := pure ()
  createInvite email invitedBy _ :=
    pure (⟨"inv:1", email, "pending", "2026-01-01", invitedBy⟩, "token")
  composeSoul _ := .ok ()
  metaEnvelope _ := .null

/-- An administrator and the member who has launched a job. -/
def exampleHub : Hub (Parts Unit) where
  controlPlane := some
    { sessions := fun tokenHash =>
        if tokenHash = "root" then some ⟨"rx:user:1", 10⟩
        else if tokenHash = "secret" then some ⟨"rx:user:2", 10⟩
        else none
      users := fun userId =>
        if userId = "rx:user:1" then some ⟨"admin", "active"⟩
        else some ⟨"member", "active"⟩ }
  rest :=
    { jobLaunches := fun jobId =>
        if jobId = "j1" then some ("rx:user:2", none) else none
      published := []
      stores := () }

/-- The principal of a user of the hub. -/
def examplePrincipal (userId role : String) (nonempty : userId ≠ "") : Principal where
  userId := userId
  roles := {role}
  orgIds := ∅
  activeOrgId := none
  via := .session
  nonempty := nonempty

def inviting : Payload := [(.text "session_token", .ofString "root"),
    (.text "email", .ofString "new@example.org")]

def steering : Payload := [(.text "session_token", .ofString "secret"),
    (.text "job_id", .ofString "j1"), (.text "text", .ofString "faster")]

/-- The steer of a member's own job follows the policy. -/
theorem followsPolicy_steering : FollowsPolicy exampleCalls exampleModels .jobsSteer
      (examplePrincipal "rx:user:2" "member" (by decide))
      (businessPayload true steering) exampleHub
      (serve (fun _ => .ok (.obj steering)) id 0
        (Endpoint.handler .ascii exampleCalls exampleModels id 0 "now"
          .jobsSteer) "factory.dashboard.jobs.steer" [0] none exampleHub) :=
  (followsPolicy_iff .ascii exampleCalls exampleModels
    (fun _ => .ok (.obj steering)) id 0 "now" .jobsSteer rfl
    (by decide) none).2 fun invites => Endpoint.noConfusion invites.1

/-- An administrator with a session is refused an invite. -/
theorem not_followsPolicy_inviting : ¬ FollowsPolicy exampleCalls exampleModels .authInviteCreate
      (examplePrincipal "rx:user:1" "admin" (by decide))
      (businessPayload true inviting) exampleHub
      (serve (fun _ => .ok (.obj inviting)) id 0
        (Endpoint.handler .ascii exampleCalls exampleModels id 0 "now"
          .authInviteCreate) "factory.dashboard.auth.invite.create" [0] none
        exampleHub) := by
  intro follows
  have answers : (serve (fun _ => .ok (.obj inviting)) id 0
      (Endpoint.handler .ascii exampleCalls exampleModels id 0 "now"
        .authInviteCreate) "factory.dashboard.auth.invite.create" [0] none
      exampleHub).answers = [inviteFailure "unauthorized" "session_token required"] := by
    decide
  have refused := follows.permits none (.authInviteCreate ⟨"new@example.org", 72, none⟩ rfl)
    (by decide) _ (by rw [answers]; exact List.mem_singleton_self _)
  revert refused
  decide

end Example

end DashboardRpc

end RoxabiFactory

import RoxabiFactory.TrustResolution

/-!
# The agents of linked users

`PlatformLinkMiddleware` compares the beginning of the trimmed text with the
pairing commands; the parser reads the first word of the text as it is, and
the router leaves an unknown command to the agent when its mark is an
exclamation mark.  A text may pass the gate and be something else than a
pairing command: text with a blank in front is no command at all, and
`/linker` is another one.  An unlinked user is kept from the agents and from
the other commands exactly when each message that passes the gate and the
other stages is answered by a pairing command or by none.
-/

namespace RoxabiFactory

open Wire

namespace HubPipeline

/-- The commands of the pairing and identity plugins. -/
def linkCommands : List String := ["/link", "/unlink", "/invite", "/join", "/unpair"]

/-- The run keeps its user from the agents and from other commands. -/
structure Contained (run : Run) : Prop where
  not_submitted : run.action ≠ some .submitToPool
  executed : ∀ command, Effect.executed command ∈ run.effects → command ∈ linkCommands

namespace Contained

variable {run : Run}

theorem of_quiet (not_submitted : run.action ≠ some .submitToPool)
    (quiet : run.effects = []) : Contained run := by
  constructor
  · exact not_submitted
  · intro command executed
    rw [quiet] at executed
    cases executed

theorem drop : Contained dropped := by
  apply of_quiet
  · decide
  · rfl

theorem reply (content : String) : Contained (handled content) := by
  apply of_quiet
  · intro submitted
    cases submitted
  · rfl

theorem after_iff (effects : List Effect) : Contained (run.after effects) ↔
      (∀ command, Effect.executed command ∈ effects →
        command ∈ linkCommands) ∧ Contained run := by
  constructor
  · intro contained
    constructor
    · intro command executed
      exact contained.executed command (List.mem_append_left _ executed)
    · constructor
      · exact contained.not_submitted
      · intro command executed
        exact contained.executed command (List.mem_append_right _ executed)
  · rintro ⟨before, contained⟩
    constructor
    · exact contained.not_submitted
    · intro command executed
      rcases List.mem_append.1 executed with first | later
      · exact before command first
      · exact contained.executed command later

theorem after_authorized_iff (agentName userId : String) (roles : List String) :
    Contained (run.after [.authorized agentName userId roles]) ↔
      Contained run := by
  rw [after_iff]
  constructor
  · exact And.right
  · intro contained
    refine ⟨?_, contained⟩
    intro command executed
    cases List.mem_singleton.1 executed

theorem after_executed_iff (commands : List String) :
    Contained (run.after (commands.map .executed)) ↔
      (∀ command ∈ commands, command ∈ linkCommands) ∧ Contained run := by
  rw [after_iff]
  constructor
  · rintro ⟨before, contained⟩
    refine ⟨?_, contained⟩
    intro command called
    exact before command (List.mem_map_of_mem called)
  · rintro ⟨before, contained⟩
    refine ⟨?_, contained⟩
    intro command executed
    obtain ⟨called, listed, same⟩ := List.mem_map.1 executed
    cases same
    exact before command listed

end Contained

/-! ## The stages before the commands -/

section Stages

variable {hub : Hub} {next : Next} {msg : InboundMessage}
variable {ctx : PipelineContext}

theorem contained_validatePlatform_iff : Contained (validatePlatform next msg ctx) ↔
      ((Platform.ofString? msg.platform).isSome = true →
        Contained (next msg ctx)) := by
  unfold validatePlatform
  split
  · rename_i known
    exact ⟨fun contained _ => contained, fun passes => passes known⟩
  · rename_i unknown
    exact ⟨fun _ known => absurd known unknown, fun _ => .drop⟩

theorem contained_resolveIdentity_iff : Contained (resolveIdentity hub next msg ctx) ↔
      ((hub.resolver.resolveMessageTrust msg).trustLevel ≠ .blocked →
        Contained (next (hub.resolver.resolveMessageTrust msg) ctx)) := by
  unfold resolveIdentity
  simp only
  split
  · rename_i blocked
    exact ⟨fun _ open_ => absurd blocked open_, fun _ => .drop⟩
  · rename_i open_
    exact ⟨fun contained _ => contained, fun passes => passes open_⟩

theorem contained_platformLink_iff {isReady : String → Bool}
    (requires : platformRequiresLink hub.lowerCase msg.platform = true)
    (checker : hub.platformLinkChecker = some isReady)
    (unlinked : isReady msg.userId = false) :
    Contained (platformLink hub next msg ctx) ↔ (isLinkText hub.lowerCase msg.text = true →
        Contained (next msg ctx)) := by
  unfold platformLink
  rw [if_neg (by rw [requires]; decide), checker]
  split
  · rename_i link
    exact ⟨fun contained _ => contained, fun passes => passes link⟩
  · rename_i other
    simp only [unlinked]
    exact ⟨fun _ link => absurd link other, fun _ => .reply _⟩

theorem contained_rateLimit_iff {platform : Platform}
    (known : Platform.ofString? msg.platform = some platform) :
    Contained (rateLimit hub next msg ctx) ↔ (hub.rateLimiter.isLimited hub.now msg = false →
        Contained (next msg { ctx with key := some ⟨platform, msg.botId, msg.scopeId⟩ })) := by
  unfold rateLimit
  simp only [known]
  split
  · rename_i limited
    constructor
    · intro _ free
      rw [limited] at free
      cases free
    · intro _
      exact .drop
  · rename_i free
    exact ⟨fun contained _ => contained,
      fun passes => passes (Bool.eq_false_of_not_eq_true free)⟩

theorem stt_eq (text : msg.text ≠ "") : stt hub next msg ctx = next msg ctx := by
  unfold stt
  split
  · rw [if_pos text]
  · rfl

theorem contained_resolveBinding_iff {key : RoutingKey} (keyed : ctx.key = some key) :
    Contained (resolveBinding hub next msg ctx) ↔
      ∀ binding agent, hub.resolver.resolveBinding msg = some binding →
        hub.agentRegistry binding.agentName = some agent →
        Contained (next msg { ctx with binding := some binding, agent := some agent }) := by
  unfold resolveBinding
  rw [if_neg (by rw [keyed]; exact Bool.false_ne_true)]
  cases found : hub.resolver.resolveBinding msg with
  | none =>
    constructor
    · intro _ binding agent bound
      cases bound
    · intro _
      exact .drop
  | some binding =>
    cases registered : hub.agentRegistry binding.agentName with
    | none =>
      simp only [registered]
      constructor
      · intro _ other agent bound present
        cases bound
        rw [registered] at present
        cases present
      · intro _
        exact .drop
    | some agent =>
      simp only [registered]
      constructor
      · intro contained other present bound found
        cases bound
        rw [registered] at found
        cases found
        exact contained
      · intro passes
        exact passes binding agent rfl registered

/-- The agent check lets the message through. -/
def Authorized (authorizer : Option AgentAuthorizer) (binding : Binding)
    (msg : InboundMessage) : Prop :=
  ∀ authorize, authorizer = some authorize → msg.isAdmin = true ∨
      (authorize binding.agentName msg.userId msg.roles).allowed = true

theorem contained_authorizeAgent_iff {authorizer : Option AgentAuthorizer}
    {binding : Binding} {agent : Agent} (bound : ctx.binding = some binding)
    (found : ctx.agent = some agent) :
    Contained (authorizeAgent hub authorizer next msg ctx) ↔
      (Authorized authorizer binding msg → Contained (next msg ctx)) := by
  unfold authorizeAgent Authorized
  rw [bound, found]
  cases authorizer with
  | none =>
    constructor
    · intro contained _
      exact contained
    · intro passes
      apply passes
      intro authorize present
      cases present
  | some authorize =>
    simp only
    split
    · rename_i admin
      constructor
      · intro contained _
        exact contained
      · intro passes
        exact passes fun _ _ => .inl admin
    · rename_i ordinary
      split
      · rename_i allowed
        rw [Contained.after_authorized_iff]
        constructor
        · intro contained _
          exact contained
        · intro passes
          apply passes
          intro other same
          cases same
          exact .inr allowed
      · rename_i denied
        constructor
        · intro _ authorized
          rcases authorized authorize rfl with admin | allowed
          · exact absurd admin ordinary
          · exact absurd allowed denied
        · intro _
          rw [Contained.after_authorized_iff]
          exact .reply _

end Stages

/-! ## The commands -/

open CommandRouter (commandName builtinHandlers)

/-- The built-in table has an entry, but no handler, for the name. -/
def IsPlaceholder (router : CommandRouter) (name : String) : Prop := name ∉ builtinHandlers ∧
    (router.builtins name).any (·.builtin) = true

/-- No built-in command has the name. -/
def NotBuiltin (router : CommandRouter) (name : String) : Prop := name ∉ builtinHandlers ∧
    (router.builtins name).any (·.builtin) = false

/-- There is a handler that the router calls for the name. -/
def HasHandler (router : CommandRouter) (name : String) : Prop := name ∈ builtinHandlers ∨
    NotBuiltin router name ∧ ((router.sessionHandlers name).isSome = true ∧
          router.sessionDriver = true ∨
        router.sessionHandlers name = none ∧ (router.pluginHandlers name).isSome = true)

/-- The router knows nothing of the command and leaves it to the agent. -/
def LeftToAgent (router : CommandRouter) (command : CommandContext) : Prop :=
  NotBuiltin router (commandName command) ∧ router.sessionHandlers (commandName command) = none ∧
    router.pluginHandlers (commandName command) = none ∧
    (command.commandPrefix = "!" ∨ commandName command ∈ router.passthroughs)

theorem not_mem_linkCommands {name : String} (builtin : name ∈ builtinHandlers) :
    name ∉ linkCommands := by
  have apart : ∀ builtin ∈ builtinHandlers,
      builtin ∉ linkCommands := by
    decide
  exact apart name builtin

/-- A run in which a command is answered, with the handlers called for it. -/
def answeredRun (hub : Hub) (dispatch : Dispatch) (next : Run) : Run :=
  let executed := dispatch.executed.map Effect.executed
  match dispatch.answer with
  | .error exc =>
    if isDispatchError exc then
      (handled (genericErrorReply hub)).after executed
    else { result := .error exc, effects := executed }
  | .ok none => next.after executed
  | .ok (some response) =>
    (ended { action := .commandHandled, response := some response }).after executed

theorem dispatchCommand_eq (hub : Hub) (router : CommandRouter) (next : Next)
    (msg : InboundMessage) (ctx : PipelineContext) :
    dispatchCommand hub router next msg ctx =
      answeredRun hub (router.dispatch msg) (next msg ctx) := by
  rfl

theorem contained_error (exc : PyException) (commands : List String) :
    Contained { result := .error exc, effects := commands.map .executed } ↔
      ∀ command ∈ commands, command ∈ linkCommands := by
  have failed : Contained { result := .error exc } := by
    apply Contained.of_quiet
    · intro submitted
      cases submitted
    · rfl
  have run : Contained (Run.after { result := .error exc }
      (commands.map .executed)) ↔ _ := Contained.after_executed_iff commands
  unfold Run.after at run
  rw [List.append_nil] at run
  rw [run]
  exact and_iff_left failed

/-- The handlers that were called belong to pairing commands, and what is left
to the agent is contained. -/
theorem contained_answeredRun_iff (hub : Hub) (dispatch : Dispatch) (next : Run) :
    Contained (answeredRun hub dispatch next) ↔
      (∀ command ∈ dispatch.executed, command ∈ linkCommands) ∧
        (dispatch.answer = .ok none → Contained next) := by
  unfold answeredRun
  cases answered : dispatch.answer with
  | error exc =>
    simp only [reduceCtorEq, false_imp_iff, and_true]
    split
    · rw [Contained.after_executed_iff]
      exact and_iff_left (.reply _)
    · exact contained_error exc dispatch.executed
  | ok answer =>
    cases answer with
    | none =>
      simp only [Contained.after_executed_iff, true_imp_iff]
    | some response =>
      simp only [Contained.after_executed_iff, Except.ok.injEq,
        reduceCtorEq, false_imp_iff, and_true]
      apply and_iff_left
      apply Contained.of_quiet
      · intro submitted
        cases submitted
      · rfl

theorem runEntry_ne_none (entry : CommandEntry) (name : String)
    (args : List String) (msg : InboundMessage) :
    CommandRouter.runEntry entry name args msg ≠ .ok none := by
  unfold CommandRouter.runEntry
  split <;> simp

section Dispatch

variable {router : CommandRouter} {command : CommandContext} {continues : Prop}

theorem dispatchRegistered_iff (args : List String) (msg : InboundMessage)
    (free : NotBuiltin router (commandName command)) :
    (∀ called ∈ (router.dispatchRegistered command (commandName command) args
        msg).executed, called ∈ linkCommands) ∧
      ((router.dispatchRegistered command (commandName command) args msg).answer =
        .ok none → continues) ↔
    (HasHandler router (commandName command) → commandName command ∈ linkCommands) ∧
      (LeftToAgent router command → continues) := by
  have not_builtin : commandName command ∉ builtinHandlers := free.1
  unfold CommandRouter.dispatchRegistered HasHandler LeftToAgent
  cases session : router.sessionHandlers (commandName command) with
  | some entry =>
    cases driven : router.sessionDriver with
    | true => simp [not_builtin, free, runEntry_ne_none]
    | false => simp [not_builtin]
  | none =>
    cases plugin : router.pluginHandlers (commandName command) with
    | some entry => simp [not_builtin, free, runEntry_ne_none]
    | none =>
      by_cases left : command.commandPrefix = "!" ∨ commandName command ∈ router.passthroughs
      · simp [not_builtin, free, left]
      · simp [not_builtin, left]

theorem dispatchCommand_iff (msg : InboundMessage) :
    (∀ called ∈ (router.dispatchCommand command msg).executed, called ∈ linkCommands) ∧
      ((router.dispatchCommand command msg).answer = .ok none → continues) ↔
    (HasHandler router (commandName command) → commandName command ∈ linkCommands) ∧
      (LeftToAgent router command → continues) := by
  by_cases builtin : commandName command ∈ builtinHandlers
  · -- The handler of a built-in command is called, whatever it answers.
    have called : commandName command ∈ (router.dispatchCommand command msg).executed := by
      unfold CommandRouter.dispatchCommand CommandRouter.dispatchBuiltin
      simp only [if_pos builtin]
      split
      · exact List.mem_append_left _ List.mem_cons_self
      · exact List.mem_cons_self
    have other := not_mem_linkCommands builtin
    constructor
    · intro contained
      exact absurd (contained.1 _ called) other
    · intro contained
      exact absurd (contained.1 (.inl builtin)) other
  · cases placeholder : (router.builtins (commandName command)).any (·.builtin) with
    | true =>
      have busy : ¬ NotBuiltin router (commandName command) := by
        intro free
        have absent := free.2
        rw [placeholder] at absent
        cases absent
      unfold CommandRouter.dispatchCommand CommandRouter.dispatchBuiltin
      simp [HasHandler, LeftToAgent, builtin, busy, placeholder]
    | false =>
      have free : NotBuiltin router (commandName command) := ⟨builtin, placeholder⟩
      rw [← dispatchRegistered_iff (PythonStr.words command.args) msg free]
      unfold CommandRouter.dispatchCommand CommandRouter.dispatchBuiltin
      simp only [if_neg builtin, placeholder, Bool.false_eq_true, if_false, List.nil_append]

end Dispatch

/-- The command of a message at the command stage: one in its text, else the
one that came with it, else the one for a bare link. -/
def commandOf (lowerCase : LowerCase) (router : CommandRouter) (text : String)
    (command : Option CommandContext) : Option CommandContext :=
  match CommandParser.parse lowerCase text, command with
  | some parsed, _ => some parsed
  | none, some given => some given
  | none, none =>
    if router.isBareUrl text then some (router.bareUrlContext text) else none

/-- The message as it comes to the command stage. -/
def prepared (lowerCase : LowerCase) (agent : Agent) (msg : InboundMessage) :
    InboundMessage :=
  match agent.commandRouter with
  | some router => router.prepare (withCommand lowerCase msg)
  | none => withCommand lowerCase msg

theorem prepared_eq (lowerCase : LowerCase) {agent : Agent}
    {router : CommandRouter} (routed : agent.commandRouter = some router)
    (msg : InboundMessage) :
    prepared lowerCase agent msg =
      { msg with
        command := commandOf lowerCase router msg.text msg.command } := by
  unfold prepared commandOf withCommand CommandRouter.prepare
  rw [routed]
  cases CommandParser.parse lowerCase msg.text with
  | some parsed => simp
  | none =>
    cases given : msg.command with
    | some command =>
      have same : { msg with command := some command } = msg := by
        rw [← given]
      simp [same]
    | none =>
      have same : { msg with command := none } = msg := by
        rw [← given]
      cases link : router.isBareUrl msg.text with
      | true => simp [link]
      | false => simp [link, same]

section CommandStage

variable {hub : Hub} {next : Next} {msg : InboundMessage}
variable {ctx : PipelineContext} {pool : String} {key : RoutingKey}

theorem messagePrep_eq {binding : Binding} {agent : Agent}
    (bound : ctx.binding = some binding) (found : ctx.agent = some agent) :
    messagePrep hub next msg ctx =
      next (prepared hub.lowerCase agent msg)
        { ctx with
          pool := some binding.poolId
          router := agent.commandRouter } := by
  cases ctx
  cases bound
  cases found
  rfl

theorem contained_command_iff {router : CommandRouter}
    {command : CommandContext} (pooled : ctx.pool = some pool)
    (keyed : ctx.key = some key) (routed : ctx.router = some router)
    (given : msg.command = some command)
    (filled : PythonStr.words msg.text ≠ []) :
    Contained (HubPipeline.command hub next msg ctx) ↔ (HasHandler router (commandName command) →
        commandName command ∈ linkCommands) ∧
      (LeftToAgent router command → Contained (next msg ctx)) := by
  have dispatched : router.dispatch msg = router.dispatchCommand command msg := by
    unfold CommandRouter.dispatch CommandRouter.prepare
    simp [given]
  have known : router.isCommand msg = true := by
    unfold CommandRouter.isCommand
    rw [given]
    rfl
  unfold HubPipeline.command
  rw [pooled, keyed, routed]
  simp only [known, if_true, filled, and_false, if_false]
  rw [dispatchCommand_eq, contained_answeredRun_iff, dispatched, dispatchCommand_iff]

theorem command_eq (pooled : ctx.pool = some pool) (keyed : ctx.key = some key)
    (plain : ∀ router, ctx.router = some router → router.isCommand msg = false) :
    HubPipeline.command hub next msg ctx = next msg ctx := by
  unfold HubPipeline.command
  rw [pooled, keyed]
  cases routed : ctx.router with
  | none => rfl
  | some router => simp [plain router routed]

/-- The last stage submits the message. -/
structure Submits (hub : Hub) (platform : Platform) (pool : String)
    (msg : InboundMessage) : Prop where
  adapter : hub.adapterRegistry platform msg.botId = true
  circuit : hub.circuitOpen = false
  resumed : ∀ exc, hub.resolveContext msg.replyToId pool = .error exc → exc.isRuntimeError = true

theorem Submits.of_eq {platform : Platform} {first second : InboundMessage}
    (submits : Submits hub platform pool first)
    (botId : first.botId = second.botId)
    (replyToId : first.replyToId = second.replyToId) :
    Submits hub platform pool second := by
  obtain ⟨adapter, circuit, resumed⟩ := submits
  rw [botId] at adapter
  rw [replyToId] at resumed
  exact ⟨adapter, circuit, resumed⟩

theorem contained_submitToPool_iff (pooled : ctx.pool = some pool) (keyed : ctx.key = some key) :
    Contained (submitToPool hub next msg ctx) ↔ ¬ Submits hub key.platform pool msg := by
  have submitted (result : PipelineResult) (action : result.action = .submitToPool) :
      ¬ Contained (ended result) := by
    intro contained
    exact contained.not_submitted (congrArg some action)
  unfold submitToPool
  rw [pooled, keyed]
  simp only
  split
  · rename_i missing
    refine iff_of_true .drop ?_
    intro submits
    rw [submits.adapter] at missing
    cases missing
  · rename_i present
    split
    · rename_i broken
      refine iff_of_true .drop ?_
      intro submits
      rw [submits.circuit] at broken
      cases broken
    · rename_i closed
      have adapter := Bool.eq_true_of_not_eq_false present
      have circuit := Bool.eq_false_of_not_eq_true closed
      split
      · rename_i exc failed
        split
        · rename_i runtime
          refine iff_of_false (submitted _ rfl) ?_
          intro refused
          apply refused
          refine ⟨adapter, circuit, ?_⟩
          intro other raised
          rw [failed] at raised
          cases raised
          exact runtime
        · rename_i other
          refine iff_of_true ?_ ?_
          · exact (contained_error exc []).2 fun _ listed => by cases listed
          · intro submits
            exact other (submits.resumed exc failed)
      · rename_i resumed
        refine iff_of_false (submitted _ rfl) ?_
        intro refused
        apply refused
        refine ⟨adapter, circuit, ?_⟩
        intro exc raised
        rw [resumed] at raised
        cases raised

/-- The command stage and the last stage do with a message what an unlinked
user may ask for. -/
structure LinkOnly (hub : Hub) (platform : Platform) (binding : Binding)
    (agent : Agent) (msg : InboundMessage) : Prop where
  handlers : ∀ router command, agent.commandRouter = some router →
    commandOf hub.lowerCase router msg.text msg.command = some command →
    HasHandler router (commandName command) →
    commandName command ∈ linkCommands
  refused : (∀ router command, agent.commandRouter = some router →
      commandOf hub.lowerCase router msg.text msg.command = some command →
      LeftToAgent router command) →
    ¬ Submits hub platform binding.poolId msg

theorem LinkOnly.of_eq {platform : Platform} {binding : Binding}
    {agent : Agent} {first second : InboundMessage}
    (only : LinkOnly hub platform binding agent first)
    (text : first.text = second.text) (command : first.command = second.command)
    (botId : first.botId = second.botId)
    (replyToId : first.replyToId = second.replyToId) :
    LinkOnly hub platform binding agent second := by
  obtain ⟨handlers, refused⟩ := only
  rw [text, command] at handlers refused
  refine ⟨handlers, ?_⟩
  intro left submits
  exact refused left (submits.of_eq botId.symm replyToId.symm)

theorem not_isBareUrl_of_commandOf {lowerCase : LowerCase}
    {router : CommandRouter} {text : String} {command : Option CommandContext}
    (absent : commandOf lowerCase router text command = none) :
    router.isBareUrl text = false := by
  unfold commandOf at absent
  split at absent
  · cases absent
  · cases absent
  · split at absent
    · cases absent
    · rename_i plain
      exact Bool.eq_false_of_not_eq_true plain

theorem linkOnly_of_plain {platform : Platform} {binding : Binding} {agent : Agent}
    (plain : ∀ router, agent.commandRouter = some router →
      commandOf hub.lowerCase router msg.text msg.command = none) :
    LinkOnly hub platform binding agent msg ↔ ¬ Submits hub platform binding.poolId msg := by
  have no_command : ∀ router command, agent.commandRouter = some router →
      commandOf hub.lowerCase router msg.text msg.command ≠ some command := by
    intro router command routed given
    rw [plain router routed] at given
    cases given
  constructor
  · intro only
    apply only.refused
    intro router command routed given
    exact absurd given (no_command router command routed)
  · intro refused
    constructor
    · intro router command routed given
      exact absurd given (no_command router command routed)
    · intro _
      exact refused

theorem linkOnly_of_command {platform : Platform} {binding : Binding}
    {agent : Agent} {router : CommandRouter} {command : CommandContext}
    (routed : agent.commandRouter = some router)
    (given : commandOf hub.lowerCase router msg.text msg.command = some command) :
    LinkOnly hub platform binding agent msg ↔ (HasHandler router (commandName command) →
        commandName command ∈ linkCommands) ∧
      (LeftToAgent router command → ¬ Submits hub platform binding.poolId msg) := by
  constructor
  · intro only
    constructor
    · exact only.handlers router command routed given
    · intro left
      apply only.refused
      intro other called present command_given
      rw [routed] at present
      cases present
      rw [given] at command_given
      cases command_given
      exact left
  · rintro ⟨handlers, refused⟩
    constructor
    · intro other called present command_given
      rw [routed] at present
      cases present
      rw [given] at command_given
      cases command_given
      exact handlers
    · intro left
      exact refused (left router command routed given)

theorem prepared_kept (lowerCase : LowerCase) (agent : Agent) (msg : InboundMessage) :
    (prepared lowerCase agent msg).text = msg.text ∧
      (prepared lowerCase agent msg).botId = msg.botId ∧
      (prepared lowerCase agent msg).replyToId = msg.replyToId := by
  cases routed : agent.commandRouter with
  | none =>
    unfold prepared withCommand
    rw [routed]
    cases CommandParser.parse lowerCase msg.text with
    | none => exact ⟨rfl, rfl, rfl⟩
    | some parsed => exact ⟨rfl, rfl, rfl⟩
  | some router =>
    rw [prepared_eq lowerCase routed]
    exact ⟨rfl, rfl, rfl⟩

theorem contained_dispatched_iff {binding : Binding} {agent : Agent}
    {platform : Platform} (keyed : ctx.key = some key)
    (onPlatform : key.platform = platform) (pooled : ctx.pool = some binding.poolId)
    (routed : ctx.router = agent.commandRouter)
    (filled : PythonStr.words msg.text ≠ []) :
    Contained (HubPipeline.command hub (submitToPool hub next)
      (prepared hub.lowerCase agent msg) ctx) ↔
      LinkOnly hub platform binding agent msg := by
  subst onPlatform
  obtain ⟨text, botId, replyToId⟩ := prepared_kept hub.lowerCase agent msg
  have submits : Submits hub key.platform binding.poolId (prepared hub.lowerCase agent msg) ↔
      Submits hub key.platform binding.poolId msg := by
    constructor
    · intro submits
      exact submits.of_eq botId replyToId
    · intro submits
      exact submits.of_eq botId.symm replyToId.symm
  by_cases plain : ∀ router, agent.commandRouter = some router →
      commandOf hub.lowerCase router msg.text msg.command = none
  · have no_command : ∀ router, ctx.router = some router →
        router.isCommand (prepared hub.lowerCase agent msg) = false := by
      intro router present
      rw [routed] at present
      have absent := plain router present
      rw [prepared_eq hub.lowerCase present]
      unfold CommandRouter.isCommand
      rw [absent, not_isBareUrl_of_commandOf absent]
      rfl
    rw [command_eq pooled keyed no_command, contained_submitToPool_iff pooled keyed, submits,
      linkOnly_of_plain plain]
  · simp only [not_forall] at plain
    obtain ⟨router, present, some_command⟩ := plain
    obtain ⟨command, given⟩ := Option.ne_none_iff_exists'.1 some_command
    have commanded : (prepared hub.lowerCase agent msg).command =
        some command := by
      rw [prepared_eq hub.lowerCase present]
      exact given
    rw [← text] at filled
    rw [contained_command_iff pooled keyed (routed.trans present) commanded
        filled, contained_submitToPool_iff pooled keyed, submits,
      linkOnly_of_command present given]

end CommandStage

theorem strip_ne_of_isLinkText {lowerCase : LowerCase} {text : String}
    (link : isLinkText lowerCase text = true) : PythonStr.strip text ≠ "" := by
  intro blank
  unfold isLinkText at link
  rw [blank, lowerCase.lower_empty] at link
  revert link
  decide

/-- A message passes the gate and the other stages, and comes to an agent's
command stage. -/
structure Forwarded (hub : Hub) (authorizer : Option AgentAuthorizer)
    (msg : InboundMessage) (platform : Platform) (binding : Binding)
    (agent : Agent) : Prop where
  known : Platform.ofString? msg.platform = some platform
  trusted : (hub.resolver.resolveMessageTrust msg).trustLevel ≠ .blocked
  link : isLinkText hub.lowerCase msg.text = true
  free : hub.rateLimiter.isLimited hub.now msg = false
  bound : hub.resolver.resolveBinding msg = some binding
  found : hub.agentRegistry binding.agentName = some agent
  authorized : Authorized authorizer binding (hub.resolver.resolveMessageTrust msg)

theorem resolveMessageTrust_traceId (resolver : IdentityResolver)
    (msg : InboundMessage) (traceId : Option String) :
    resolver.resolveMessageTrust { msg with traceId := traceId } =
      { resolver.resolveMessageTrust msg with traceId := traceId } := by
  let traced : InboundMessage := { msg with traceId := traceId }
  have same : resolver.authenticatorOf traced.platform traced.botId =
      resolver.authenticatorOf msg.platform msg.botId := rfl
  cases found : resolver.authenticatorOf msg.platform msg.botId with
  | none =>
    rw [IdentityResolver.resolveMessageTrust_of_unregistered found,
      IdentityResolver.resolveMessageTrust_of_unregistered (same.trans found)]
  | some authenticator =>
    rw [IdentityResolver.resolveMessageTrust_of_registered found,
      IdentityResolver.resolveMessageTrust_of_registered (same.trans found)]
    rfl

/-- The stages from the link gate on. -/
def guarded (hub : Hub) (authorizer : Option AgentAuthorizer) : Next :=
  runFrom [platformLink hub, rateLimit hub, stt hub, resolveBinding hub,
    authorizeAgent hub authorizer, messagePrep hub, command hub,
    submitToPool hub]

theorem contained_guarded_iff {hub : Hub} {authorizer : Option AgentAuthorizer}
    {msg : InboundMessage} {platform : Platform} {isReady : String → Bool}
    (known : Platform.ofString? msg.platform = some platform)
    (requires : platformRequiresLink hub.lowerCase msg.platform = true)
    (checker : hub.platformLinkChecker = some isReady)
    (unlinked : isReady msg.userId = false) :
    Contained (guarded hub authorizer msg {}) ↔ (isLinkText hub.lowerCase msg.text = true →
        hub.rateLimiter.isLimited hub.now msg = false →
        ∀ binding agent, hub.resolver.resolveBinding msg = some binding →
          hub.agentRegistry binding.agentName = some agent →
          Authorized authorizer binding msg →
          LinkOnly hub platform binding agent msg) := by
  apply (contained_platformLink_iff requires checker unlinked).trans
  apply imp_congr_right
  intro link
  have filled := strip_ne_of_isLinkText link
  have text : msg.text ≠ "" := by
    intro empty
    rw [empty] at filled
    exact filled PythonStr.strip_empty
  apply (contained_rateLimit_iff known).trans
  apply imp_congr_right
  intro _
  simp only [runFrom]
  rw [stt_eq text]
  apply (contained_resolveBinding_iff rfl).trans
  apply forall₄_congr
  intro binding agent _ _
  apply (contained_authorizeAgent_iff rfl rfl).trans
  apply imp_congr_right
  intro _
  rw [messagePrep_eq rfl rfl]
  apply contained_dispatched_iff
  · rfl
  · rfl
  · rfl
  · rfl
  · exact PythonStr.words_ne_nil filled

/-- A message of an unlinked user stays away from the agents and from other
commands than the pairing commands exactly when each agent that it is
forwarded to answers it with a pairing command or not at all. -/
theorem contained_iff (hub : Hub) (authorizer : Option AgentAuthorizer)
    (traceId : String) (msg : InboundMessage) (isReady : String → Bool)
    (requires : platformRequiresLink hub.lowerCase msg.platform = true)
    (checker : hub.platformLinkChecker = some isReady)
    (unlinked : isReady msg.userId = false) :
    Contained (process hub authorizer traceId msg) ↔ ∀ platform binding agent,
        Forwarded hub authorizer msg platform binding agent →
        LinkOnly hub platform binding agent msg := by
  cases known : Platform.ofString? msg.platform with
  | none =>
    rw [process_of_unknown_platform authorizer traceId known]
    refine iff_of_true .drop ?_
    intro platform binding agent forwarded
    have absurd_known := forwarded.known
    rw [known] at absurd_known
    cases absurd_known
  | some platform =>
    obtain ⟨trustLevel, isAdmin, resolved⟩ :=
      IdentityResolver.resolveMessageTrust_eq hub.resolver msg
    have traced := resolveMessageTrust_traceId hub.resolver msg (some traceId)
    rw [resolved] at traced
    let arrived : InboundMessage :=
      { msg with
        trustLevel := trustLevel
        isAdmin := isAdmin
        traceId := some traceId }
    have stages : Contained (process hub authorizer traceId msg) ↔
        ((Platform.ofString? msg.platform).isSome = true → trustLevel ≠ .blocked →
          Contained (guarded hub authorizer arrived {})) := by
      apply contained_validatePlatform_iff.trans
      apply imp_congr_right
      intro _
      apply contained_resolveIdentity_iff.trans
      rw [traced]
      rfl
    have guard : Contained (guarded hub authorizer arrived {}) ↔ _ :=
      contained_guarded_iff known requires checker unlinked
    rw [stages, guard]
    constructor
    · intro contained other binding agent forwarded
      have trusted := forwarded.trusted
      have authorized := forwarded.authorized
      have same := forwarded.known
      rw [known] at same
      cases same
      rw [resolved] at trusted authorized
      have only := contained (by rw [known]; rfl) trusted forwarded.link
        forwarded.free binding agent forwarded.bound forwarded.found
        authorized
      exact only.of_eq rfl rfl rfl rfl
    · intro answered _ trusted link free binding agent bound found authorized
      have forwarded : Forwarded hub authorizer msg platform binding agent := by
        constructor
        · exact known
        · rw [resolved]
          exact trusted
        · exact link
        · exact free
        · exact bound
        · exact found
        · rw [resolved]
          exact authorized
      exact (answered platform binding agent forwarded).of_eq rfl rfl rfl rfl

section Example

/-- A hub whose users are not linked. -/
def unlinkedHub (plugins passthroughs : List String) : Hub :=
  exampleHub (some {}) (some fun _ => false) plugins passthroughs

/-- The pairing command of an unlinked user is answered. -/
theorem contained_of_link_command : Contained (process (unlinkedHub ["/link"] []) none "t1"
      (wireMessage "/link ABC" .pub false)) := by
  apply (contained_iff (unlinkedHub ["/link"] []) none "t1"
    (wireMessage "/link ABC" .pub false) (fun _ => false) (by decide)
    rfl rfl).2
  intro platform binding agent forwarded
  cases forwarded.found
  have given : commandOf .ascii (exampleRouter ["/link"] []) "/link ABC" none =
      some ⟨"/", "link", "ABC", "/link ABC"⟩ := by
    rfl
  apply (linkOnly_of_command rfl given).2
  constructor
  · intro _
    decide
  · intro left
    have unknown : (exampleRouter ["/link"] []).pluginHandlers "/link" = none :=
      left.2.2.1
    simp [exampleRouter] at unknown

/-- A blank in front of the command hides it from the parser, a longer word is
another command, and an unknown command with an exclamation mark is left to
the agent. -/
theorem exists_unlinked_user_served :
    let hub := unlinkedHub ["/linker"] []
    let message text := wireMessage text .pub false
    platformRequiresLink hub.lowerCase "telegram" = true ∧
    hub.platformLinkChecker = some (fun _ => false) ∧
    ¬ Contained (process hub none "t1" (message " /link and a question")) ∧
    ¬ Contained (process hub none "t1" (message "/linker now")) ∧
    ¬ Contained (process hub none "t1" (message "!joint venture")) := by
  refine ⟨by decide, rfl, ?_, ?_, ?_⟩
  · intro contained
    exact contained.not_submitted (by decide)
  · intro contained
    have called := contained.executed "/linker" (by decide)
    revert called
    decide
  · intro contained
    exact contained.not_submitted (by decide)

end Example

end HubPipeline

end RoxabiFactory

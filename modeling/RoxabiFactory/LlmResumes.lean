import Mathlib.Logic.Function.Basic
import RoxabiFactory.TransitionSystem

/-!
# Resume tokens of the LLM client

`queue_resume` keeps a token for the next call of a pool.  The call takes the
token out, sends it with its payload and puts it back when the worker pool
raises one of the listed exceptions.  The worker pool also reports failures as
values, which the client decodes into results.  Tokens are numbered by pool in
the order in which they were queued, so that a newer one can be told from an
older one.
-/

namespace RoxabiFactory

namespace LlmResumes

/-! ## Outcomes of the worker pool -/

/-- The exceptions that reach the client. -/
inductive Exc
  | timeoutError
  | noRespondersError
  /-- Another `nats.errors.Error`. -/
  | natsError
  | osError
  | connectionError
  | runtimeError
  | cancelledError
  /-- The consumer of a stream has stopped. -/
  | generatorExit
  | other (name : String)
  deriving DecidableEq

/-- The exception is one of `_RESUME_TRANSPORT_ERRORS`. -/
def Exc.isTransportError : Exc → Bool
  | timeoutError | noRespondersError | natsError | osError | connectionError
  | runtimeError => true
  | cancelledError | generatorExit | other _ => false

/-- How a request ends for the client: a worker has answered it, the pool
returns `Err`, or an exception is raised, for a stream perhaps after a worker
has answered. -/
inductive Outcome
  | answered
  | failed (code : String)
  | raised (replied : Bool) (exc : Exc)
  deriving DecidableEq

namespace Outcome

def isAnswered : Outcome → Bool
  | answered => true
  | failed _ => false
  | raised replied _ => replied

/-- The outcome that the `except` clauses of the client catch. -/
def isCaught : Outcome → Bool
  | raised _ exc => exc.isTransportError
  | _ => false

end Outcome

/-- `NatsTransport.call`, by what the request to the server does. -/
def transportCall (reply : Except Exc Unit) : Outcome :=
  match reply with
  | .ok () => .answered
  | .error .timeoutError => .failed "transport.timeout"
  | .error .noRespondersError => .failed "transport.no_responders"
  | .error .natsError => .failed "transport.error"
  | .error exc => .raised false exc

/-- The loop of `request_with_routing` over the workers, each with the reply
to the request that it would be sent. -/
def routeRequest (maxAttempts : Option ℕ) : (attempt : ℕ) → List (Except Exc Unit) → Outcome
  | _, [] => .failed "pool.no_live_workers"
  | attempt, reply :: replies =>
    if maxAttempts.any fun limit => decide (limit ≤ attempt) then
      .failed "pool.no_live_workers"
    else match transportCall reply with
      | .failed _ => routeRequest maxAttempts (attempt + 1) replies
      | outcome => outcome

/-- `request_with_routing`. -/
def requestWithRouting (circuitOpen : Bool) (maxAttempts : Option ℕ)
    (replies : List (Except Exc Unit)) : Outcome :=
  if circuitOpen then .failed "pool.circuit_open"
  else routeRequest maxAttempts 0 replies

/-- What `decode_chunk` makes of a chunk of a worker. -/
inductive ChunkEvent
  | skipped
  | progress
  | result
  deriving DecidableEq

/-- A chunk of `stream_request`: of a worker, or an `Err`. -/
inductive Chunk
  | ok (event : ChunkEvent)
  | err (code : String)
  deriving DecidableEq

/-- What happens to a stream: whether the circuit is open, what opening the
inbox and publishing do, the chunks, and the exception after them. -/
structure StreamRun where
  circuitOpen : Bool := false
  opening : Except Exc Unit := .ok ()
  chunks : List Chunk := []
  ending : Option Exc := none

/-- `stream_request`: the chunks, and the exception after them. -/
def streamRequest (run : StreamRun) : List Chunk × Option Exc :=
  if run.circuitOpen then ([.err "pool.circuit_open"], none)
  else match run.opening with
    | .error exc => ([], some exc)
    | .ok () => (run.chunks, run.ending)

/-- The loop of `LlmClient.stream` over the chunks. -/
def consumeChunks (answered : Bool) (ending : Option Exc) : List Chunk → Outcome
  | [] =>
    match ending with
    | some exc => .raised answered exc
    | none => if answered then .answered else .failed "stream ended"
  | .err code :: _ => if answered then .answered else .failed code
  | .ok .result :: _ => .answered
  | .ok _ :: chunks => consumeChunks true ending chunks

/-- How `complete` and `stream` end once the payload is encoded. -/
inductive Request
  | complete (circuitOpen : Bool) (replies : List (Except Exc Unit))
  | stream (run : StreamRun)

def Request.outcome : Request → Outcome
  | complete circuitOpen replies =>
    requestWithRouting circuitOpen (some 1) replies
  | stream run =>
    let (chunks, ending) := streamRequest run
    consumeChunks false ending chunks

/-- The request is one of `stream`. -/
def Request.isStream : Request → Bool
  | complete .. => false
  | stream _ => true

/-! ## The client -/

/-- A session id of the CLI, with its number among the tokens of the pool. -/
structure Token where
  sessionId : String
  number : ℕ
  deriving DecidableEq

/-- A call between its first step and its last. -/
structure Call where
  poolId : String
  isStream : Bool
  /-- `pending_resume`. -/
  resume : Option Token
  deriving DecidableEq

/-- `LlmClient`, with its calls in progress. -/
structure LlmClient (Task : Type) where
  pendingResume : String → Option Token := fun _ => none
  calls : Task → Option Call := fun _ => none
  /-- The number of tokens that have been queued for a pool. -/
  queued : String → ℕ := fun _ => 0
  /-- The calls that ended without an answer, whose token was the newest one
  of the pool and is not pending. -/
  dropped : List Call := []

inductive Action (Task : Type)
  /-- `get_cli_session` returns inside `queue_resume`. -/
  | queueResume (poolId : String) (cliSession : Option String)
  /-- `complete` or `stream` takes the token and encodes the payload, which
  may raise. -/
  | start (task : Task) (poolId : String) (isStream encodes : Bool)
  /-- The request of the call ends. -/
  | finish (task : Task) (request : Request)

variable {Task : Type} [DecidableEq Task]

namespace LlmClient

/-- `setdefault` of the token of a call. -/
def restash (client : LlmClient Task) (call : Call) : LlmClient Task :=
  match call.resume, client.pendingResume call.poolId with
  | some token, none =>
    { client with
      pendingResume := Function.update client.pendingResume call.poolId (some token) }
  | _, _ => client

/-- The call ended without an answer, and its token is gone although no newer
one was queued. -/
def Loses (client : LlmClient Task) (call : Call) (answered : Bool) : Prop :=
  answered = false ∧ ∃ token ∈ call.resume, client.pendingResume call.poolId ≠ some token ∧
      client.queued call.poolId = token.number

instance (client : LlmClient Task) (call : Call) (answered : Bool) :
    Decidable (client.Loses call answered) :=
  match call with
  | ⟨_, _, none⟩ => isFalse fun ⟨_, _, member, _⟩ => nomatch member
  | ⟨poolId, _, some token⟩ =>
    decidable_of_iff (answered = false ∧ client.pendingResume poolId ≠ some token ∧
        client.queued poolId = token.number) (by simp [Loses])

/-- The books after a call has ended. -/
def settle (client : LlmClient Task) (call : Call) (answered : Bool) : LlmClient Task :=
  if client.Loses call answered then
    { client with dropped := client.dropped ++ [call] }
  else client

/-- The end of a call. -/
def conclude (client : LlmClient Task) (call : Call) (outcome : Outcome) : LlmClient Task :=
  settle (if outcome.isCaught then client.restash call else client) call outcome.isAnswered

/-- The token is taken out of the dictionary. -/
def take (client : LlmClient Task) (poolId : String) : LlmClient Task :=
  { client with
    pendingResume := Function.update client.pendingResume poolId none }

def step (client : LlmClient Task) : Action Task → Option (LlmClient Task)
  | .queueResume poolId cliSession =>
    match cliSession with
    | none => some client
    | some sessionId =>
      let number := client.queued poolId + 1
      some { client with
        pendingResume := Function.update client.pendingResume poolId (some ⟨sessionId, number⟩)
        queued := Function.update client.queued poolId number }
  | .start task poolId isStream encodes =>
    let call : Call := ⟨poolId, isStream, client.pendingResume poolId⟩
    match client.calls task with
    | some _ => none
    | none =>
      if encodes then some { client.take poolId with
        calls := Function.update client.calls task (some call) }
      else some ((client.take poolId).settle call false)
  | .finish task request =>
    match client.calls task with
    | none => none
    | some call =>
      if request.isStream = call.isStream then
        some (conclude { client with calls := Function.update client.calls task none }
          call request.outcome)
      else none

/-- No call has lost its token. -/
def KeepsTokens (client : LlmClient Task) : Prop := client.dropped = []

/-- A call that holds the newest token of its pool ends with an answer, or
with a listed exception while no token is pending. -/
def Admits (client : LlmClient Task) : Action Task → Prop
  | .queueResume .. => True
  | .start _ poolId _ encodes =>
    encodes = true ∨ ∀ token ∈ client.pendingResume poolId, token.number < client.queued poolId
  | .finish task request =>
    ∀ call ∈ client.calls task, ∀ token ∈ call.resume, request.outcome.isAnswered = true ∨
        token.number < client.queued call.poolId ∨
        request.outcome.isCaught = true ∧ client.pendingResume call.poolId = none

instance (client : LlmClient Task) : Decidable client.KeepsTokens :=
  inferInstanceAs (Decidable (_ = _))

instance (client : LlmClient Task) (action : Action Task) : Decidable (client.Admits action) :=
  match action with
  | .queueResume .. => isTrue trivial
  | .start _ poolId _ encodes =>
    inferInstanceAs (Decidable (encodes = true ∨ ∀ token ∈ client.pendingResume poolId, _ < _))
  | .finish task _ =>
    inferInstanceAs (Decidable (∀ call ∈ client.calls task, ∀ token ∈ call.resume, _ ∨ _ ∨ _ ∧ _))

end LlmClient

/-- A client whose tasks make any calls. -/
def system (Task : Type) [DecidableEq Task] : TransitionSystem (LlmClient Task) (Action Task) where
  initial client := client = { }
  step := LlmClient.step

namespace LlmClient

variable {client after : LlmClient Task}

/-! ## The numbers of the tokens -/

/-- No two places hold a token of one number, and no number is greater than
those that have been given out. -/
structure Counted (client : LlmClient Task) : Prop where
  pending : ∀ poolId, ∀ token ∈ client.pendingResume poolId, token.number ≤ client.queued poolId
  taken : ∀ task, ∀ call ∈ client.calls task, ∀ token ∈ call.resume,
    token.number ≤ client.queued call.poolId
  apart : ∀ task, ∀ call ∈ client.calls task, ∀ token ∈ call.resume,
    ∀ other ∈ client.pendingResume call.poolId, token.number ≠ other.number
  distinct : ∀ task other, task ≠ other → ∀ call ∈ client.calls task,
    ∀ rival ∈ client.calls other, call.poolId = rival.poolId →
      ∀ token ∈ call.resume, ∀ held ∈ rival.resume, token.number ≠ held.number

omit [DecidableEq Task] in
theorem counted_start : Counted ({ } : LlmClient Task) where
  pending := by simp
  taken := by simp
  apart := by simp
  distinct := by simp

omit [DecidableEq Task] in
theorem Counted.settle (counted : client.Counted) (call : Call)
    (answered : Bool) : (client.settle call answered).Counted := by
  unfold LlmClient.settle
  split
  · exact ⟨counted.pending, counted.taken, counted.apart, counted.distinct⟩
  · exact counted

omit [DecidableEq Task] in
theorem Counted.take (counted : client.Counted) (poolId : String) :
    (client.take poolId).Counted where
  pending other token member := by
    by_cases same : other = poolId
    · subst same
      simp [LlmClient.take] at member
    · simp only [LlmClient.take, Function.update_of_ne same] at member
      exact counted.pending other token member
  taken := counted.taken
  apart task call called token held other member := by
    by_cases same : call.poolId = poolId
    · simp [LlmClient.take, same] at member
    · simp only [LlmClient.take, Function.update_of_ne same] at member
      exact counted.apart task call called token held other member
  distinct := counted.distinct

theorem Counted.begin (counted : client.Counted) (task : Task) (poolId : String) (isStream : Bool) :
    Counted { client.take poolId with
      calls := Function.update client.calls task
        (some ⟨poolId, isStream, client.pendingResume poolId⟩) } := by
  have took := counted.take poolId
  constructor
  · exact took.pending
  · intro other call called token held
    by_cases same : other = task
    · subst same
      simp only [Function.update_self, Option.mem_some_iff] at called
      subst called
      exact counted.pending poolId token held
    · simp only [Function.update_of_ne same] at called
      exact counted.taken other call called token held
  · intro other call called token held rival member
    by_cases same : other = task
    · subst same
      simp only [Function.update_self, Option.mem_some_iff] at called
      subst called
      simp [LlmClient.take] at member
    · simp only [Function.update_of_ne same] at called
      exact took.apart other call called token held rival member
  · have fresh (other : Task) (call : Call) (called : call ∈ client.calls other)
        (poolEq : call.poolId = poolId) (token : Token)
        (held : token ∈ call.resume) (pending : Token)
        (member : pending ∈ client.pendingResume poolId) :
        token.number ≠ pending.number := by
      subst poolEq
      exact counted.apart other call called token held pending member
    intro first second differ call called rival rivals poolEq token held other otherHeld
    by_cases firstSame : first = task
    · subst firstSame
      simp only [Function.update_self, Option.mem_some_iff] at called
      subst called
      simp only [Function.update_of_ne differ.symm] at rivals
      exact (fresh second rival rivals poolEq.symm other otherHeld token held).symm
    · simp only [Function.update_of_ne firstSame] at called
      by_cases secondSame : second = task
      · subst secondSame
        simp only [Function.update_self, Option.mem_some_iff] at rivals
        subst rivals
        exact fresh first call called poolEq token held other otherHeld
      · simp only [Function.update_of_ne secondSame] at rivals
        exact counted.distinct first second differ call called rival rivals
          poolEq token held other otherHeld

theorem Counted.queueResume (counted : client.Counted) (poolId : String)
    (cliSession : Option String)
    (stepTo : client.step (.queueResume poolId cliSession) = some after) :
    after.Counted := by
  unfold step at stepTo
  cases cliSession with
  | none =>
    cases stepTo
    exact counted
  | some sessionId =>
    simp only [Option.some.injEq] at stepTo
    subst stepTo
    have grows (other : String) : client.queued other ≤
        Function.update client.queued poolId (client.queued poolId + 1)
          other := by
      by_cases same : other = poolId
      · subst same
        simp
      · simp [Function.update_of_ne same]
    constructor
    · intro other token member
      by_cases same : other = poolId
      · subst same
        simp only [Function.update_self, Option.mem_some_iff] at member
        subst member
        simp
      · simp only [Function.update_of_ne same] at member
        exact Nat.le_trans (counted.pending other token member) (grows other)
    · intro task call called token held
      exact Nat.le_trans (counted.taken task call called token held) (grows _)
    · intro task call called token held other member
      by_cases same : call.poolId = poolId
      · have old := counted.taken task call called token held
        rw [same] at old member
        simp only [Function.update_self, Option.mem_some_iff] at member
        subst member
        dsimp only
        omega
      · simp only [Function.update_of_ne same] at member
        exact counted.apart task call called token held other member
    · exact counted.distinct

theorem Counted.release (counted : client.Counted) (task : Task) : Counted
      { client with calls := Function.update client.calls task none } := by
  have still (other : Task) (call : Call)
      (called : call ∈ Function.update client.calls task none other) :
      call ∈ client.calls other := by
    by_cases same : other = task
    · subst same
      simp at called
    · simpa only [Function.update_of_ne same] using called
  constructor
  · exact counted.pending
  · exact fun other call called => counted.taken other call (still _ _ called)
  · exact fun other call called => counted.apart other call (still _ _ called)
  · exact fun first second differ call called rival rivals =>
      counted.distinct first second differ call (still _ _ called) rival (still _ _ rivals)

theorem Counted.restash (counted : client.Counted) {task : Task} {call : Call}
    (called : call ∈ client.calls task) :
    Counted (LlmClient.restash { client with calls := Function.update client.calls task none }
      call) := by
  have released := counted.release task
  unfold LlmClient.restash
  split
  · rename_i token held free
    dsimp only at free ⊢
    constructor
    · intro poolId other member
      by_cases same : poolId = call.poolId
      · subst same
        simp only [Function.update_self, Option.mem_some_iff] at member
        subst member
        exact counted.taken task call called token held
      · simp only [Function.update_of_ne same] at member
        exact counted.pending poolId other member
    · exact released.taken
    · intro other rival rivals token' held' pending member
      by_cases same : other = task
      · subst same
        simp at rivals
      · simp only [Function.update_of_ne same] at rivals
        by_cases poolEq : rival.poolId = call.poolId
        · simp only [poolEq, Function.update_self, Option.mem_some_iff]
            at member
          subst member
          exact counted.distinct other task same rival rivals call called
            poolEq token' held' token held
        · simp only [Function.update_of_ne poolEq] at member
          exact counted.apart other rival rivals token' held' pending member
    · exact released.distinct
  · exact released

theorem Counted.finish (counted : client.Counted) {task : Task} {request : Request}
    (stepTo : client.step (.finish task request) = some after) :
    after.Counted := by
  unfold step at stepTo
  cases called : client.calls task with
  | none => simp [called] at stepTo
  | some call =>
    simp only [called, Option.ite_none_right_eq_some, Option.some.injEq]
      at stepTo
    obtain ⟨-, rfl⟩ := stepTo
    unfold conclude
    apply Counted.settle
    split
    · exact counted.restash called
    · exact counted.release task

theorem Counted.step (counted : client.Counted) {action : Action Task}
    (stepTo : client.step action = some after) : after.Counted := by
  cases action with
  | queueResume poolId cliSession =>
    exact counted.queueResume poolId cliSession stepTo
  | start task poolId isStream encodes =>
    unfold LlmClient.step at stepTo
    cases called : client.calls task with
    | some call => simp [called] at stepTo
    | none =>
      simp only [called] at stepTo
      cases encodes with
      | true =>
        cases stepTo
        exact counted.begin task poolId isStream
      | false =>
        cases stepTo
        exact (counted.take poolId).settle _ _
  | finish task request => exact counted.finish stepTo

theorem counted_of_reachable (reached : (system Task).Reachable client) :
    client.Counted := by
  refine reached.invariant ?_ ?_
  · rintro _ rfl
    exact counted_start
  · exact fun _ _ _ counted _ stepTo => counted.step stepTo

/-! ## What the end of a call does to its token -/

omit [DecidableEq Task] in
theorem settle_dropped (call : Call) (answered : Bool) :
    (client.settle call answered).dropped = client.dropped ↔ ¬ client.Loses call answered := by
  unfold settle
  split
  · rename_i loses
    simp [loses]
  · rename_i keeps
    simp [keeps]

omit [DecidableEq Task] in
theorem loses_take (poolId : String) (isStream : Bool) :
    (client.take poolId).Loses ⟨poolId, isStream, client.pendingResume poolId⟩ false ↔
      ∃ token ∈ client.pendingResume poolId, client.queued poolId = token.number := by
  simp [Loses, take]

omit [DecidableEq Task] in
/-- When the exception is caught, the token is pending again unless another
one is. -/
theorem loses_restash (client : LlmClient Task) {call : Call}
    (apart : ∀ token ∈ call.resume, client.pendingResume call.poolId ≠
      some token) (answered : Bool) :
    (client.restash call).Loses call answered ↔ answered = false ∧ ∃ token ∈ call.resume,
        client.pendingResume call.poolId ≠ none ∧ client.queued call.poolId = token.number := by
  unfold Loses
  apply and_congr_right
  intro _
  cases held : call.resume with
  | none => simp
  | some token =>
    simp only [Option.mem_some_iff, exists_eq_left']
    cases pending : client.pendingResume call.poolId with
    | none => simp [restash, held, pending]
    | some other =>
      have differ := apart token held
      simp only [restash, held, pending, ne_eq, reduceCtorEq,
        not_false_eq_true, true_and] at differ ⊢
      exact and_iff_right differ

theorem finish_dropped (counted : client.Counted) {task : Task} {request : Request}
    (stepTo : client.step (.finish task request) = some after) :
    after.dropped = client.dropped ↔ client.Admits (.finish task request) := by
  unfold step at stepTo
  cases called : client.calls task with
  | none => simp [called] at stepTo
  | some call =>
    simp only [called, Option.ite_none_right_eq_some, Option.some.injEq]
      at stepTo
    obtain ⟨-, rfl⟩ := stepTo
    have apart : ∀ token ∈ call.resume,
        client.pendingResume call.poolId ≠ some token := by
      intro token held pending
      exact counted.apart task call called token held token pending rfl
    have bound := counted.taken task call called
    unfold conclude Admits
    simp only [called, Option.mem_some_iff, forall_eq']
    generalize request.outcome.isAnswered = answered
    cases request.outcome.isCaught with
    | true =>
      rw [if_pos rfl]
      let freed : LlmClient Task := { client with calls := Function.update client.calls task none }
      have kept : (freed.restash call).dropped = client.dropped := by
        unfold restash
        split <;> rfl
      have settled : ((freed.restash call).settle call answered).dropped =
          client.dropped ↔ ¬ (freed.restash call).Loses call answered := by
        rw [← kept]
        exact settle_dropped call answered
      apply settled.trans
      rw [loses_restash freed apart]
      dsimp only [freed]
      cases held : call.resume with
      | none => simp
      | some token =>
        have le := bound token held
        cases answered with
        | true => simp
        | false =>
          rcases Nat.lt_or_eq_of_le le with newer | newest
          · simp [newer, Nat.ne_of_gt newer]
          · simp [newest]
    | false =>
      rw [if_neg Bool.false_ne_true, settle_dropped]
      unfold Loses
      cases held : call.resume with
      | none => simp
      | some token =>
        have le := bound token held
        have differ := apart token held
        cases answered with
        | true => simp
        | false =>
          rcases Nat.lt_or_eq_of_le le with newer | newest
          · simp [newer, Nat.ne_of_gt newer]
          · simp [newest, differ]

theorem start_dropped (counted : client.Counted) {task : Task}
    {poolId : String} {isStream encodes : Bool}
    (stepTo : client.step (.start task poolId isStream encodes) = some after) :
    after.dropped = client.dropped ↔
      client.Admits (.start task poolId isStream encodes) := by
  unfold step at stepTo
  unfold Admits
  cases called : client.calls task with
  | some call => simp [called] at stepTo
  | none =>
    simp only [called] at stepTo
    cases encodes with
    | true =>
      cases stepTo
      simp [take]
    | false =>
      cases stepTo
      change (settle _ _ _).dropped = (client.take poolId).dropped ↔ _
      rw [settle_dropped, loses_take]
      have bound := counted.pending poolId
      cases pending : client.pendingResume poolId with
      | none => simp [pending]
      | some token =>
        have le := bound token pending
        simp only [pending, Option.mem_some_iff, exists_eq_left',
          Bool.false_eq_true, forall_eq', false_or]
        omega

/-- A step keeps every token that it should keep exactly when the condition
holds. -/
theorem step_dropped (counted : client.Counted) {action : Action Task}
    (stepTo : client.step action = some after) :
    after.dropped = client.dropped ↔ client.Admits action := by
  cases action with
  | queueResume poolId cliSession =>
    refine iff_of_true ?_ trivial
    cases cliSession <;> cases stepTo <;> rfl
  | start task poolId isStream encodes => exact start_dropped counted stepTo
  | finish task request => exact finish_dropped counted stepTo

end LlmClient

/-- In a run whose steps all meet the condition no token is dropped. -/
theorem keepsTokens_of_reachable (client : LlmClient Task)
    (reached : (system Task).ReachableWithin LlmClient.Admits client) :
    client.KeepsTokens := by
  refine reached.invariant_of_invariant
    (fun _ reached => LlmClient.counted_of_reachable reached.reachable) ?_ ?_
  · rintro _ rfl
    rfl
  · intro client action after counted none admits stepTo
    unfold LlmClient.KeepsTokens
    exact ((LlmClient.step_dropped counted stepTo).mpr admits).trans none

theorem dropped_iff (client after : LlmClient Task)
    (reached : (system Task).Reachable client) (action : Action Task)
    (stepTo : client.step action = some after) :
    after.dropped = client.dropped ↔ client.Admits action :=
  LlmClient.step_dropped (LlmClient.counted_of_reachable reached) stepTo

section Example

/-- A call that a worker does not get keeps its token, and the next one
carries it. -/
theorem keepsTokens_of_osError : ∃ client : LlmClient Unit,
      (system Unit).ReachableWithin LlmClient.Admits client ∧
      (client.calls ()).bind Call.resume = some ⟨"cli-1", 1⟩ ∧
      client.KeepsTokens := by
  have found : ∃ client : LlmClient Unit, (system Unit).ReachableWithin LlmClient.Admits client ∧
      (client.calls ()).bind Call.resume = some ⟨"cli-1", 1⟩ :=
    TransitionSystem.exists_reachableWithin_of_checkedRun { } rfl
      [.queueResume "telegram:main:1" (some "cli-1"), .start () "telegram:main:1" false true,
        .finish () (.complete false [.error .osError]),
        .start () "telegram:main:1" true true]
      (by decide)
  obtain ⟨client, reached, carried⟩ := found
  exact ⟨client, reached, carried, keepsTokens_of_reachable client reached⟩

/-- The circuit is open, which the worker pool reports as a value: the token
is gone. -/
theorem exists_dropped_token : ∃ client : LlmClient Unit, (system Unit).Reachable client ∧
      client.pendingResume "telegram:main:1" = none ∧ ¬ client.KeepsTokens :=
  TransitionSystem.exists_reachable_of_run { } rfl [.queueResume "telegram:main:1" (some "cli-1"),
      .start () "telegram:main:1" false true,
      .finish () (.complete true [])]
    (by decide)

end Example

end LlmResumes

end RoxabiFactory

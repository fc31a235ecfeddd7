import RoxabiFactory.CommandRouter
import RoxabiFactory.JobWorkers
import RoxabiFactory.TransitionSystem

/-!
# The jobs of an omp worker

A worker of the pool keeps its client from one job to the next.  `set_model`
changes the model of the client for good, a cancelled job stops the client, and
the worker goes back to the pool whatever has become of it.  Only a job with
another system prompt gets a new client.
-/

namespace RoxabiFactory

namespace OmpJobs

/-- An omp process. -/
structure Client where
  /-- The model that a prompt is executed with. -/
  model : String
  running : Bool := true
  /-- A thread is about to stop the process. -/
  stopping : Bool := false
  deriving DecidableEq

/-- `_PoolWorker`, with the startup model of its bridge. -/
structure Worker where
  client : Client
  systemPrompt : String
  startupModel : String
  deriving DecidableEq

/-- A call of `_run_job`; the session and the prompt are passed on to the
client. -/
structure Job where
  sessionFile : Option String := none
  systemPrompt : String := ""
  prompt : String := ""
  model : Option String := none

/-- `(model or "").strip() or None`. -/
def Job.requestedModel (job : Job) : Option String :=
  (job.model.map PythonStr.strip).filter (· ≠ "")

/-- When the process of a client ends that an earlier job has stopped. -/
inductive Landing
  | beforeSession
  | beforePrompt
  deriving DecidableEq

/-- What happens while a prompt is executed. -/
inductive Disturbance
  | quiet
  /-- `prompt_and_wait` raises, and the process runs on. -/
  | raised
  /-- The cancel token; the process ends before or after the prompt does. -/
  | cancelled (ended : Bool)
  | crashed
  deriving DecidableEq

/-- What the client, the provider and the catalogue answer to a job. -/
structure Replies where
  /-- `_dispose_worker` returns. -/
  disposes : Bool := true
  /-- The startup model of a worker that is started, unless this fails. -/
  starts : Option String
  /-- The calls that choose the session return, on a running client. -/
  session : Bool := true
  landing : Option Landing := none
  setModel : Bool := true
  first : Disturbance := .quiet
  /-- The provider has the model. -/
  available : String → Bool := fun _ => true
  /-- `resolve_fallback_model`. -/
  fallback : String → Option String := fun _ => none
  switchFallback : Bool := true
  retry : Disturbance := .quiet

/-- A job fails with an exception, or its prompt is executed with models. -/
inductive Result
  | failed
  | ran (models : List String)
  deriving DecidableEq

/-- A process that is about to be stopped ends. -/
def Client.land (client : Client) (lands : Bool) : Client :=
  { client with running := client.running && !(client.stopping && lands) }

/-- `prompt_and_wait`, and whether it returns. -/
def Client.promptAndWait (client : Client) (disturbance : Disturbance) : Client × Bool :=
  if client.running then
    match disturbance with
    | .quiet => (client, true)
    | .raised => (client, false)
    | .cancelled false => ({ client with stopping := true }, true)
    | .cancelled true | .crashed => ({ client with running := false }, false)
  else (client, false)

/-- `_start_worker`. -/
def Worker.start (systemPrompt startupModel : String) : Worker where
  client := { model := startupModel }
  systemPrompt := systemPrompt
  startupModel := startupModel

/-- The choice of the session in `acquire`; a worker on which it fails does
not return to the pool. -/
def Worker.chooseSession (replies : Replies) (worker : Worker) : Option Worker :=
  let client := worker.client.land (decide (replies.landing = some .beforeSession))
  if client.running && replies.session then some { worker with client }
  else none

/-- `OmpPool.acquire`, from a free worker on, if there is one. -/
def acquire (free : Option Worker) (job : Job) (replies : Replies) : Option Worker :=
  let checkedOut :=
    match free with
    | none => replies.starts.map (Worker.start job.systemPrompt)
    | some worker =>
      if job.systemPrompt ≠ worker.systemPrompt then
        if replies.disposes then
          replies.starts.map (Worker.start job.systemPrompt)
        else none
      else some worker
  checkedOut.bind (Worker.chooseSession replies)

/-- `_execute_prompt` and `_maybe_retry_with_registry_fallback`. -/
def Worker.execute (worker : Worker) (attempted : String) (replies : Replies) : Worker × Result :=
  let (client, returned) := worker.client.promptAndWait replies.first
  if !returned then ({ worker with client }, .failed)
  else if replies.available client.model then
    ({ worker with client }, .ran [client.model])
  else
    match JobWorkers.usableFallback attempted (replies.fallback attempted) with
    | none => ({ worker with client }, .ran [client.model])
    | some fallback =>
      if client.running && replies.switchFallback then
        let (again, returned) := { client with model := fallback }.promptAndWait replies.retry
        ({ worker with client := again },
          if returned then .ran [client.model, fallback] else .failed)
      else ({ worker with client }, .failed)

/-- `RpcBridge.run`. -/
def Worker.run (worker : Worker) (job : Job) (replies : Replies) : Worker × Result :=
  let client := worker.client.land (decide (replies.landing = some .beforePrompt))
  match job.requestedModel with
  | none =>
    { worker with client }.execute worker.startupModel replies
  | some model =>
    if client.running && replies.setModel then
      { worker with client := { client with model } }.execute model replies
    else ({ worker with client }, .failed)

/-- `_run_job`: the worker that is released, and how the job ends. -/
def runJob (free : Option Worker) (job : Job) (replies : Replies) : Option Worker × Result :=
  match acquire free job replies with
  | none => (none, .failed)
  | some worker =>
    (some (worker.run job replies).1, (worker.run job replies).2)

/-- The worker that is free after jobs one after the other. -/
def after (history : List (Job × Replies)) : Option Worker :=
  history.foldl (fun free entry => (runJob free entry.1 entry.2).1) none

/-! ## Jobs that do not influence each other -/

/-- Nothing fails or is cancelled within the job itself. -/
structure Replies.Quiet (replies : Replies) : Prop where
  disposes : replies.disposes = true
  starts : replies.starts.isSome = true
  session : replies.session = true
  setModel : replies.setModel = true
  first : replies.first = .quiet
  switchFallback : replies.switchFallback = true
  retry : replies.retry = .quiet

/-- The worker is not replaced for the system prompt of the job. -/
def Worker.Keeps (job : Job) (worker : Worker) : Prop := job.systemPrompt = worker.systemPrompt

instance (job : Job) (worker : Worker) : Decidable (worker.Keeps job) :=
  inferInstanceAs (Decidable (_ = _))

def startupModel (free : Option Worker) (job : Job) (replies : Replies) : Option String :=
  match free with
  | none => replies.starts
  | some worker =>
    if worker.Keeps job then some worker.startupModel else replies.starts

/-- The models that a job is to be executed with. -/
def expectedModels (startup : String) (job : Job) (replies : Replies) : List String :=
  let model := job.requestedModel.getD startup
  if replies.available model then [model]
  else
    match JobWorkers.usableFallback model (replies.fallback model) with
    | none => [model]
    | some fallback => [model, fallback]

/-- The job runs as it would on a worker of its own. -/
def Unaffected (free : Option Worker) (job : Job) : Prop := ∀ replies : Replies, replies.Quiet →
    ∀ startup ∈ startupModel free job replies, (runJob free job replies).2 =
        .ran (expectedModels startup job replies)

/-- Two histories of earlier jobs make no difference to a job. -/
def Independent (first second : List (Job × Replies)) (job : Job) : Prop :=
  Unaffected (after first) job ∧ Unaffected (after second) job

/-- The client runs on, with the startup model unless the job asks for one. -/
structure Worker.Ready (job : Job) (worker : Worker) : Prop where
  running : worker.client.running = true
  notStopping : worker.client.stopping = false
  model : job.requestedModel = none → worker.client.model = worker.startupModel

/-- A worker that would take the job is ready for it, or is replaced. -/
def Undisturbed (free : Option Worker) (job : Job) : Prop :=
  ∀ worker ∈ free, worker.Keeps job → worker.Ready job

theorem land_of_notStopping {client : Client} (lands : Bool)
    (notStopping : client.stopping = false) : client.land lands = client := by
  obtain ⟨model, running, stopping⟩ := client
  cases notStopping
  simp [Client.land]

theorem promptAndWait_quiet {client : Client} (running : client.running = true) :
    client.promptAndWait .quiet = (client, true) := by
  rw [Client.promptAndWait, if_pos running]

theorem execute_quiet {worker : Worker} {attempted : String}
    {replies : Replies} (quiet : replies.Quiet)
    (running : worker.client.running = true)
    (model : worker.client.model = attempted) :
    (worker.execute attempted replies).2 = .ran (if replies.available attempted then [attempted]
        else
          match JobWorkers.usableFallback attempted (replies.fallback attempted) with
          | none => [attempted]
          | some fallback => [attempted, fallback]) := by
  subst model
  rw [Worker.execute, quiet.first, promptAndWait_quiet running]
  by_cases available : replies.available worker.client.model = true
  · simp [available]
  · cases usable : JobWorkers.usableFallback worker.client.model
        (replies.fallback worker.client.model) with
    | none => simp [available]
    | some fallback =>
      simp [available, running, quiet.switchFallback, quiet.retry, Client.promptAndWait]

theorem run_quiet {worker : Worker} {job : Job} {replies : Replies}
    (quiet : replies.Quiet) (ready : worker.Ready job) :
    (worker.run job replies).2 =
      .ran (expectedModels worker.startupModel job replies) := by
  rw [Worker.run, land_of_notStopping _ ready.notStopping, expectedModels]
  cases requested : job.requestedModel with
  | none =>
    exact execute_quiet quiet ready.running (ready.model requested)
  | some model =>
    simp only [ready.running, quiet.setModel, Bool.and_self, if_true, Option.getD_some]
    exact execute_quiet quiet rfl rfl

theorem chooseSession_quiet {worker : Worker} {job : Job} {replies : Replies}
    (quiet : replies.Quiet) (ready : worker.Ready job) :
    worker.chooseSession replies = some worker := by
  rw [Worker.chooseSession, land_of_notStopping _ ready.notStopping]
  simp [ready.running, quiet.session]

theorem ready_start (job : Job) (model : String) :
    (Worker.start job.systemPrompt model).Ready job where
  running := rfl
  notStopping := rfl
  model _ := rfl

theorem runJob_of_ready {free : Option Worker} {worker : Worker} {job : Job}
    {replies : Replies} (quiet : replies.Quiet) (ready : worker.Ready job)
    (acquired : acquire free job replies = worker.chooseSession replies) :
    (runJob free job replies).2 =
      .ran (expectedModels worker.startupModel job replies) := by
  rw [runJob, acquired, chooseSession_quiet quiet ready]
  exact run_quiet quiet ready

theorem acquire_of_keeps {worker : Worker} {job : Job} {replies : Replies}
    (keeps : worker.Keeps job) :
    acquire (some worker) job replies = worker.chooseSession replies := by
  have same : ¬ job.systemPrompt ≠ worker.systemPrompt := not_not_intro keeps
  simp only [acquire, if_neg same]
  rfl

theorem unaffected_of_undisturbed {free : Option Worker} {job : Job}
    (undisturbed : Undisturbed free job) : Unaffected free job := by
  intro replies quiet startup started
  have fresh := ready_start job startup
  cases free with
  | none =>
    have starts : replies.starts = some startup := started
    apply runJob_of_ready quiet fresh
    rw [acquire, starts]
    rfl
  | some worker =>
    by_cases keeps : worker.Keeps job
    · rw [startupModel, if_pos keeps] at started
      obtain rfl := Option.mem_some_iff.mp started
      exact runJob_of_ready quiet (undisturbed worker rfl keeps) (acquire_of_keeps keeps)
    · rw [startupModel, if_neg keeps] at started
      have starts : replies.starts = some startup := started
      apply runJob_of_ready quiet fresh
      have differs : job.systemPrompt ≠ worker.systemPrompt := keeps
      simp only [acquire, if_pos differs, quiet.disposes, if_true, starts]
      rfl

/-- Replies to a job in which everything works. -/
def calm (landing : Option Landing) : Replies where
  starts := some ""
  landing := landing

theorem quiet_calm (landing : Option Landing) : (calm landing).Quiet where
  disposes := rfl
  starts := rfl
  session := rfl
  setModel := rfl
  first := rfl
  switchFallback := rfl
  retry := rfl

theorem ready_of_unaffected {worker : Worker} {job : Job}
    (unaffected : Unaffected (some worker) job) (keeps : worker.Keeps job) :
    worker.Ready job := by
  have ran : ∀ landing : Option Landing, (runJob (some worker) job (calm landing)).2 =
        .ran (expectedModels worker.startupModel job (calm landing)) := by
    intro landing
    apply unaffected (calm landing) (quiet_calm landing)
    rw [startupModel, if_pos keeps]
    rfl
  have chosen : ∀ landing : Option Landing,
      ∃ acquired, worker.chooseSession (calm landing) = some acquired := by
    intro landing
    rw [← acquire_of_keeps keeps, ← Option.ne_none_iff_exists']
    intro failed
    have result := ran landing
    rw [runJob, failed] at result
    cases result
  have running : worker.client.running = true := by
    obtain ⟨acquired, chooses⟩ := chosen none
    cases stopped : worker.client.running with
    | true => rfl
    | false => simp [Worker.chooseSession, Client.land, stopped] at chooses
  have notStopping : worker.client.stopping = false := by
    obtain ⟨acquired, chooses⟩ := chosen (some .beforeSession)
    cases stopping : worker.client.stopping with
    | false => rfl
    | true =>
      simp [Worker.chooseSession, Client.land, stopping, calm] at chooses
  refine ⟨running, notStopping, ?_⟩
  intro requested
  have result := ran none
  have self : worker.chooseSession (calm none) = some worker := by
    rw [Worker.chooseSession, land_of_notStopping _ notStopping, running]
    rfl
  have executed : (worker.run job (calm none)).2 =
      .ran [worker.client.model] := by
    simp only [Worker.run, land_of_notStopping _ notStopping, requested,
      Worker.execute, calm, promptAndWait_quiet running, Bool.not_true,
      Bool.false_eq_true, if_false, if_true]
  have expected : expectedModels worker.startupModel job (calm none) = [worker.startupModel] := by
    simp only [expectedModels, requested, Option.getD_none, calm, if_true]
  rw [runJob, acquire_of_keeps keeps, self] at result
  dsimp only at result
  rw [executed, expected] at result
  simpa using result

/-- A job is affected exactly by a client that has stopped, or that has
another model than the one that it was started with. -/
theorem unaffected_iff (free : Option Worker) (job : Job) :
    Unaffected free job ↔ Undisturbed free job := by
  constructor
  · rintro unaffected worker found keeps
    obtain rfl := Option.mem_def.mp found
    exact ready_of_unaffected unaffected keeps
  · exact unaffected_of_undisturbed

theorem independent_iff (first second : List (Job × Replies)) (job : Job) :
    Independent first second job ↔ Undisturbed (after first) job ∧ Undisturbed (after second) job :=
  and_congr (unaffected_iff _ job) (unaffected_iff _ job)

/-! ## Histories -/

/-- The job neither is cancelled nor crashes, and no other model than the
startup model is set for it. -/
structure Leaves (job : Job) (replies : Replies) : Prop where
  undisturbed : replies.first = .quiet ∨ replies.first = .raised
  noModel : job.requestedModel = none
  available : ∀ model, replies.available model = true

/-- The client runs on with its startup model. -/
structure Worker.Fresh (worker : Worker) : Prop where
  running : worker.client.running = true
  notStopping : worker.client.stopping = false
  model : worker.client.model = worker.startupModel

theorem Leaves.run {job : Job} {replies : Replies}
    (leaves : Leaves job replies) {worker : Worker} (fresh : worker.Fresh) :
    (worker.run job replies).1 = worker := by
  simp only [Worker.run, land_of_notStopping _ fresh.notStopping,
    leaves.noModel, Worker.execute, Client.promptAndWait, fresh.running,
    if_true]
  rcases leaves.undisturbed with quiet | raised
  · simp [quiet, leaves.available]
  · simp [raised]

theorem fresh_of_chooseSession {worker chosen : Worker} {replies : Replies} (fresh : worker.Fresh)
    (chooses : worker.chooseSession replies = some chosen) :
    chosen.Fresh := by
  rw [Worker.chooseSession, land_of_notStopping _ fresh.notStopping] at chooses
  split at chooses
  · obtain rfl := Option.some.inj chooses
    exact fresh
  · cases chooses

theorem fresh_start (systemPrompt model : String) : (Worker.start systemPrompt model).Fresh where
  running := rfl
  notStopping := rfl
  model := rfl

theorem fresh_of_acquire {free : Option Worker} {acquired : Worker}
    {job : Job} {replies : Replies} (fresh : ∀ worker ∈ free, worker.Fresh)
    (acquires : acquire free job replies = some acquired) :
    acquired.Fresh := by
  obtain ⟨worker, checkedOut, chooses⟩ := Option.bind_eq_some_iff.mp acquires
  apply fresh_of_chooseSession ?_ chooses
  cases free with
  | none =>
    obtain ⟨model, -, rfl⟩ := Option.map_eq_some_iff.mp checkedOut
    exact fresh_start job.systemPrompt model
  | some found =>
    dsimp only at checkedOut
    split at checkedOut
    · split at checkedOut
      · obtain ⟨model, -, rfl⟩ := Option.map_eq_some_iff.mp checkedOut
        exact fresh_start job.systemPrompt model
      · cases checkedOut
    · obtain rfl := Option.some.inj checkedOut
      exact fresh found rfl

theorem Leaves.runJob {job : Job} {replies : Replies}
    (leaves : Leaves job replies) {free : Option Worker}
    (fresh : ∀ worker ∈ free, worker.Fresh) :
    ∀ worker ∈ (runJob free job replies).1, worker.Fresh := by
  intro released found
  rw [OmpJobs.runJob] at found
  cases acquires : acquire free job replies with
  | none =>
    rw [acquires] at found
    cases found
  | some worker =>
    rw [acquires] at found
    obtain rfl := Option.mem_some_iff.mp found
    have acquired := fresh_of_acquire fresh acquires
    rw [leaves.run acquired]
    exact acquired

structure Pool where
  free : List Worker := []
  /-- The jobs that run, each with the free worker that it has taken. -/
  busy : List (Option Worker × Job) := []

inductive PoolAction
  | take (job : Job)
  | finish (index : Nat) (replies : Replies)

/-- A job takes the worker that was released last, and no other job uses the
worker until it is released. -/
def Pool.step (cap : Nat) (pool : Pool) : PoolAction → Option Pool
  | .take job =>
    if pool.busy.length < cap then
      some {
        free := pool.free.dropLast
        busy := pool.busy ++ [(pool.free.getLast?, job)] }
    else none
  | .finish index replies =>
    (pool.busy[index]?).map fun entry => {
      free := pool.free ++ (runJob entry.1 entry.2 replies).1.toList
      busy := pool.busy.eraseIdx index }

/-- The runs of a pool with `OMP_POOL_CAP=cap`. -/
def poolOf (cap : Nat) : TransitionSystem Pool PoolAction where
  initial pool := pool = { }
  step := Pool.step cap

/-- Every worker comes from jobs one after the other. -/
structure Pool.FromHistories (pool : Pool) : Prop where
  free : ∀ worker ∈ pool.free, ∃ history, after history = some worker
  busy : ∀ entry ∈ pool.busy, ∃ history, after history = entry.1

theorem after_concat (history : List (Job × Replies)) (job : Job) (replies : Replies) :
    after (history ++ [(job, replies)]) = (runJob (after history) job replies).1 := by
  rw [after, List.foldl_append]
  rfl

theorem Pool.FromHistories.take {pool : Pool} (known : pool.FromHistories) (job : Job) :
    FromHistories {
      free := pool.free.dropLast
      busy := pool.busy ++ [(pool.free.getLast?, job)] } where
  free worker member := known.free worker (List.mem_of_mem_dropLast member)
  busy := by
    intro entry member
    rcases List.mem_append.mp member with old | new
    · exact known.busy entry old
    · obtain rfl := List.mem_singleton.mp new
      cases last : pool.free.getLast? with
      | none => exact ⟨[], rfl⟩
      | some worker =>
        obtain ⟨history, afterEq⟩ := known.free worker (List.mem_of_getLast? last)
        exact ⟨history, afterEq⟩

theorem Pool.FromHistories.finish {pool : Pool}
    (known : pool.FromHistories) {index : Nat} {entry : Option Worker × Job}
    (found : pool.busy[index]? = some entry) (replies : Replies) :
    FromHistories {
      free := pool.free ++ (runJob entry.1 entry.2 replies).1.toList
      busy := pool.busy.eraseIdx index } where
  free := by
    intro worker member
    rcases List.mem_append.mp member with old | released
    · exact known.free worker old
    · obtain ⟨history, afterEq⟩ := known.busy entry (List.mem_of_getElem? found)
      refine ⟨history ++ [(entry.2, replies)], ?_⟩
      rw [after_concat, afterEq]
      exact Option.mem_toList.mp released
  busy other member := known.busy other (List.mem_of_mem_eraseIdx member)

section Example

/-- A job that asks for a model. -/
def asking : Job where
  model := some "gpt-5"

/-- After a job that has asked for a model, a job that asks for none is
executed with it. -/
theorem exists_model_of_earlier_job :
    ¬ Independent [] [(asking, { starts := some "local" })] {} := by
  rintro ⟨-, unaffected⟩
  have ran := unaffected { starts := some "local" }
    ⟨rfl, rfl, rfl, rfl, rfl, rfl, rfl⟩ "local" (by decide)
  revert ran
  decide

/-- After a cancelled job, the next one fails. -/
example : (runJob (after [({ }, { starts := some "local", first := .cancelled true })]) { }
    { starts := some "local" }).2 = .failed := by
  decide

end Example

end OmpJobs

end RoxabiFactory

import RoxabiFactory.CliPoolWellFormed

/-!
# The answers on the stdout of a CLI subprocess

The lines on the stdout of a subprocess carry no mark of the turn that they
answer, so a turn reads the lines of its own answer only when the answers
before it have been read to their ends.  A turn that ends early has to kill
its process, and the next message may be written only when the answer before
it has been read.

A blocking turn holds the lock of the process while it reads.  A streaming
turn releases it as soon as its message is written, and an exception, a line
that is cut off or a cancellation ends a turn without a kill.
-/

namespace RoxabiFactory

namespace CliPool

/-- The turns whose answers are going to be continued. -/
def Process.pending (entry : Process) : List Nat :=
  if entry.stdoutClosed then [] else entry.unanswered

/-- No line can be read from the process until a message is written to it, or
it is dead and gets no message. -/
def Process.silent (entry : Process) : Bool :=
  !entry.alive || (entry.stdout.isEmpty && entry.pending.isEmpty)

/-- The process that has to answer the task, until the task is done with the
answer. -/
def Task.expects : Task → Option Nat
  | writing _ process | reading _ process _ | terminated _ process _
  | finishRead _ process _ _ | staleCheck _ process true
  | streaming process _ => some process
  | kill _ _ next => next.process
  | killWait process next =>
    if next.process = some process then some process else none
  | _ => none

def AfterKill.sources : AfterKill → List Nat
  | returnResult _ _ sources => sources
  | _ => []

/-- The turns answered by the lines that the task has read. -/
def Task.sources : Task → List Nat
  | reading _ _ reader => reader.sources
  | streaming _ reader => reader.sources
  | terminated _ _ sources | finishRead _ _ _ sources => sources
  | kill _ _ next | killWait _ next | unlink _ next | killed next =>
    next.sources
  | _ => []

namespace State

/-- The process is the registered one of its pool, or nothing is left of its
answer. -/
def Disposes (state : State) (process : Nat) : Prop :=
  state.Registered process ∨ (state.processes process).silent = true

instance (state : State) (process : Nat) : Decidable (state.Disposes process) :=
  inferInstanceAs (Decidable (_ ∨ _))

/-- No turn without the lock reads its answer from the process. -/
def Unread (state : State) (process : Nat) : Prop :=
  ∀ task < state.started, (state.tasks task).expects ≠ some process ∨
    (state.tasks task).lockOf = some process

instance (state : State) (process : Nat) : Decidable (state.Unread process) :=
  inferInstanceAs (Decidable (∀ _ < _, _ ∨ _))

end State

/-- A turn that gives up on its answer has the process killed: the process is
the registered one of its pool, unless nothing is left of the answer.  No
line but a result ends a turn by an exception, by its length or because it
starts with a brace and does not parse; no turn is cancelled before its
answer is read; and no message is written to a process while a streaming turn
reads from it. -/
def TurnsSeparated (settings : Settings) (state : State) : Action → Prop
  | .resume task outcome =>
    match state.tasks task, outcome with
    | .acquire _ process, _ | .lockWait _ process, _ =>
      (state.processes process).lock = none →
        (state.processes process).alive = true → state.Unread process
    | .reading _ process reading, .line =>
      ((state.processes process).stdout.head?.all fun output =>
        output.line.isResult || (reading.reader.readLine output.line).toOption.isSome) = true
    | .streaming process reading, .line =>
      ((state.processes process).stdout.head?.all fun output =>
        output.line.isResult || (!output.line.endsStream && (reading.parser.parseLine settings.tools
            output.line).toOption.isSome)) = true
    | .reading _ process _, .tooLong | .streaming process _, .tooLong =>
      ((state.processes process).stdout.head?.all fun output =>
        output.line.isResult) = true
    | .streaming process reading, .timedOut =>
      settings.maxIdleRetries ≤ reading.idleRetries + 1 → state.Disposes process
    | .writing call process, .timedOut =>
      call.streaming = true → state.Disposes process
    | .writing call process, .raises _ =>
      call.streaming = true → (state.processes process).silent = true
    | .kill poolId _ next, _ =>
      (next.process.all fun process =>
        decide (state.entries.lookup poolId = some process) ||
          (state.processes process).silent) = true
    | _, _ => True
  | .cancel task =>
    ((state.tasks task).expects.all fun process =>
      (state.processes process).silent) = true
  | .stop =>
    (state.reaper.all fun reaper =>
      (state.tasks reaper).expects.all fun process =>
        (state.processes process).silent) = true
  | .aclose task =>
    match state.tasks task with
    | .streaming process _ => state.Disposes process
    | _ => True
  | _ => True

instance (settings : Settings) (state : State) (action : Action) :
    Decidable (TurnsSeparated settings state action) := by
  unfold TurnsSeparated
  casesm Action
  case resume task outcome =>
    dsimp only
    generalize state.tasks task = point
    casesm Task <;> casesm Outcome <;> dsimp only <;> infer_instance
  case aclose =>
    rename Nat => task
    dsimp only
    generalize state.tasks task = point
    casesm Task <;> dsimp only <;> infer_instance
  all_goals dsimp only; infer_instance

/-- The lines are what is left of an answer to the turn; it is going to be
continued if the turn is pending. -/
def AnswerOf (turn : Nat) (pending : List Nat) : List OutputLine → Prop
  | [] => pending = [] ∨ pending = [turn]
  | output :: rest =>
    output.turn = turn ∧
      if output.line.isResult then rest = [] ∧ pending = []
      else AnswerOf turn pending rest

namespace AnswerOf

variable {turn : Nat} {pending : List Nat} {stdout : List OutputLine}

theorem close (answer : AnswerOf turn pending stdout) :
    AnswerOf turn [] stdout := by
  induction stdout with
  | nil => exact .inl rfl
  | cons output rest ih =>
    obtain ⟨same, later⟩ := answer
    refine ⟨same, ?_⟩
    by_cases result : output.line.isResult = true
    · rw [if_pos result] at later ⊢
      exact ⟨later.1, rfl⟩
    · rw [if_neg result] at later ⊢
      exact ih later

theorem emit {writer : Nat} {later : List Nat} {line : StdoutLine}
    (answer : AnswerOf turn (writer :: later) stdout) :
    AnswerOf turn (if line.isResult then later else writer :: later)
      (stdout ++ [⟨writer, line⟩]) := by
  induction stdout with
  | nil =>
    have only : writer :: later = [turn] := answer.resolve_left (by simp)
    obtain ⟨rfl, rfl⟩ : writer = turn ∧ later = [] := by simpa using only
    refine ⟨rfl, ?_⟩
    by_cases result : line.isResult = true
    · simp [result]
    · simp [result, AnswerOf]
  | cons output rest ih =>
    obtain ⟨same, continued⟩ := answer
    refine ⟨same, ?_⟩
    by_cases result : output.line.isResult = true
    · rw [if_pos result] at continued
      cases continued.2
    · rw [if_neg result] at continued ⊢
      exact ih continued

end AnswerOf

/-- `send` kills the process because of a time-out. -/
def TimedOut (result : CliResult) : Prop :=
  result.ok = false ∧ result.error.contains "Timeout" = .ok true

/-- Whether `in` raises depends on the value only. -/
theorem Json.contains_ok {value : Json} {needle : String} {found : Bool}
    (contains : value.contains needle = .ok found) (other : String) :
    ∃ otherFound, value.contains other = .ok otherFound := by
  cases value with
  | str _ | arr _ | obj _ => exact ⟨_, rfl⟩
  | _ => cases contains

theorem resultUse_of_timedOut {result : CliResult} (timedOut : TimedOut result)
    (call : TurnCall) (entry : Process) :
    State.resultUse call entry result = .ok .kill := by
  obtain ⟨failed, mentions⟩ := timedOut
  obtain ⟨terminated, checked⟩ := Json.contains_ok mentions "terminated"
  simp [State.resultUse, failed, mentions, checked, bind, Except.bind, pure, Except.pure]

/-- A blocking turn that has its result, or the end of the output, has read
the whole answer, unless it is going to kill the process; a streaming turn
that reads has no result. -/
def Task.Settled (state : State) : Task → Prop
  | terminated _ process _ => (state.processes process).silent = true
  | finishRead _ process result _ =>
    (state.processes process).silent = true ∨ TimedOut result
  | streaming _ reader => reader.parser.done = false
  | _ => True

/-- At most one turn waits for an answer from a process, and all that can be
read from the process is the rest of that answer. -/
structure Isolated (state : State) : Prop where
  answers : ∀ task process, (state.tasks task).expects = some process →
    AnswerOf task (state.processes process).pending (state.processes process).stdout
  unique : ∀ first second process, (state.tasks first).expects = some process →
      (state.tasks second).expects = some process → first = second
  silent : ∀ process, (∀ task, (state.tasks task).expects ≠ some process) →
    (state.processes process).silent = true
  settled : ∀ task, (state.tasks task).Settled state
  sources : ∀ task, ∀ source ∈ (state.tasks task).sources, source = task
  deliveries : ∀ delivery ∈ state.deliveries, ∀ source ∈ delivery.sources, source = delivery.turn

theorem Task.settled_of_expects {point : Task} (free : point.expects = none)
    (state : State) : point.Settled state := by
  cases point with
  | terminated _ _ _ | finishRead _ _ _ _ | streaming _ _ => cases free
  | _ => trivial

theorem Task.Settled.mono {point : Task} {state after : State} (settled : point.Settled state)
    (silent : ∀ process, point.expects = some process → (state.processes process).silent = true →
        (after.processes process).silent = true) : point.Settled after := by
  cases point with
  | terminated _ process _ => exact silent process rfl settled
  | finishRead _ process _ _ =>
    rcases settled with read | timedOut
    · exact .inl (silent process rfl read)
    · exact .inr timedOut
  | streaming _ _ => exact settled
  | _ => trivial

theorem Process.silent_of_dead {entry : Process} (dead : entry.alive = false) :
    entry.silent = true := by
  simp [silent, dead]

theorem Process.silent_of_empty {entry : Process} (empty : entry.stdout = [])
    (answered : entry.pending = []) : entry.silent = true := by
  simp [silent, empty, answered]

theorem Process.silent_of_ended {entry : Process} (empty : entry.stdout = [])
    (ended : entry.stdoutClosed = true ∨ entry.alive = false) :
    entry.silent = true := by
  rcases ended with closed | dead
  · exact silent_of_empty empty (by simp [pending, closed])
  · exact silent_of_dead dead

namespace Isolated

variable {state after : State} {task process : Nat} {point before : Task}
variable {call : TurnCall} {settings : Settings} {next : AfterKill}
variable {outcome : Outcome}

theorem congr (isolated : Isolated state) (tasks : after.tasks = state.tasks)
    (processes : after.processes = state.processes)
    (deliveries : after.deliveries = state.deliveries) : Isolated after where
  answers := by rw [tasks, processes]; exact isolated.answers
  unique := by rw [tasks]; exact isolated.unique
  silent := by rw [tasks, processes]; exact isolated.silent
  settled task := by
    rw [tasks]
    refine (isolated.settled task).mono fun process _ => ?_
    rw [processes]
    exact id
  sources := by rw [tasks]; exact isolated.sources
  deliveries := by rw [deliveries]; exact isolated.deliveries

/-- A task goes on waiting for its answer, or nothing is left of it. -/
theorem move (isolated : Isolated state) (expects : ∀ process, point.expects = some process →
      (state.tasks task).expects = some process)
    (released : ∀ process, (state.tasks task).expects = some process →
      point.expects = some process ∨ (state.processes process).silent = true)
    (settled : point.Settled state)
    (sources : ∀ source ∈ point.sources, source = task) :
    Isolated (state.setTask task point) := by
  have expected : ∀ other process, ((state.setTask task point).tasks other).expects = some process →
        (state.tasks other).expects = some process := by
    intro other process
    by_cases same : other = task
    · rw [same, State.setTask_tasks_self]
      exact expects process
    · rw [State.setTask_tasks_of_ne same]
      exact id
  exact
    { answers := fun other process waits =>
        isolated.answers other process (expected other process waits)
      unique := fun first second process firstWaits secondWaits =>
        isolated.unique first second process (expected first process firstWaits)
          (expected second process secondWaits)
      silent := fun process unread => by
        by_cases waited : (state.tasks task).expects = some process
        · rcases released process waited with waits | silent
          · have waiting := unread task
            rw [State.setTask_tasks_self] at waiting
            exact absurd waits waiting
          · exact silent
        · refine isolated.silent process fun other waits => ?_
          have different : other ≠ task := by
            rintro rfl
            exact waited waits
          have waiting := unread other
          rw [State.setTask_tasks_of_ne different] at waiting
          exact waiting waits
      settled := fun other => by
        by_cases same : other = task
        · rw [same, State.setTask_tasks_self]
          exact settled
        · rw [State.setTask_tasks_of_ne same]
          exact isolated.settled other
      sources := fun other => by
        by_cases same : other = task
        · rw [same, State.setTask_tasks_self]
          exact sources
        · rw [State.setTask_tasks_of_ne same]
          exact isolated.sources other
      deliveries := isolated.deliveries }

theorem release (isolated : Isolated state)
    (released : ∀ process, (state.tasks task).expects = some process →
      (state.processes process).silent = true)
    (expects : point.expects = none)
    (sources : ∀ source ∈ point.sources, source = task) :
    Isolated (state.setTask task point) := by
  refine isolated.move (fun process waits => ?_)
    (fun process waited => .inr (released process waited))
    (Task.settled_of_expects expects _) sources
  rw [expects] at waits
  cases waits

/-- A task that waits for no answer goes on without waiting for one. -/
theorem moveFree (isolated : Isolated state) (free : (state.tasks task).expects = none)
    (expects : point.expects = none)
    (sources : ∀ source ∈ point.sources, source = task) :
    Isolated (state.setTask task point) := by
  refine isolated.release (fun process waited => ?_) expects sources
  rw [free] at waited
  cases waited

/-- A process changes, but what is left of its answers is the same. -/
theorem modify (isolated : Isolated state) {change : Process → Process} (answers : ∀ turn,
      AnswerOf turn (state.processes process).pending (state.processes process).stdout →
        AnswerOf turn (change (state.processes process)).pending
          (change (state.processes process)).stdout)
    (silent : (state.processes process).silent = true →
      (change (state.processes process)).silent = true) :
    Isolated (state.modify process change) := by
  have remains : ∀ other, (state.processes other).silent = true →
      ((state.modify process change).processes other).silent = true := by
    intro other
    by_cases same : other = process
    · rw [same, State.modify_processes_self]
      exact silent
    · rw [State.modify_processes_of_ne same]
      exact id
  exact
    { answers := fun other third waits => by
        have answer := isolated.answers other third waits
        by_cases same : third = process
        · subst same
          rw [State.modify_processes_self]
          exact answers other answer
        · rw [State.modify_processes_of_ne same]
          exact answer
      unique := isolated.unique
      silent := fun other unread => remains other (isolated.silent other unread)
      settled := fun other => (isolated.settled other).mono
        fun third _ => remains third
      sources := isolated.sources
      deliveries := isolated.deliveries }

theorem advance (isolated : Isolated state) {change : Process → Process}
    (waits : (state.tasks task).expects = some process)
    (answer : AnswerOf task (change (state.processes process)).pending
      (change (state.processes process)).stdout)
    (settled : (state.tasks task).Settled (state.modify process change)) :
    Isolated (state.modify process change) where
  answers other third waiting := by
    by_cases same : third = process
    · subst same
      obtain rfl := isolated.unique other task third waiting waits
      rw [State.modify_processes_self]
      exact answer
    · rw [State.modify_processes_of_ne same]
      exact isolated.answers other third waiting
  unique := isolated.unique
  silent other unread := by
    have different : other ≠ process := by
      rintro rfl
      exact unread task waits
    rw [State.modify_processes_of_ne different]
    exact isolated.silent other unread
  settled other := by
    by_cases same : other = task
    · subst same
      exact settled
    · refine (isolated.settled other).mono fun third waiting silent => ?_
      have different : third ≠ process := by
        rintro rfl
        exact same (isolated.unique other task third waiting waits)
      rw [State.modify_processes_of_ne different]
      exact silent
  sources := isolated.sources
  deliveries := isolated.deliveries

theorem unlock (isolated : Isolated state) : Isolated (state.unlock task process) :=
  isolated.modify (fun _ => id) id

theorem deliver (isolated : Isolated state) {sources : List Nat}
    (own : ∀ source ∈ sources, source = task) (contents : List Delivered) :
    Isolated (state.deliver task sources contents) where
  answers := isolated.answers
  unique := isolated.unique
  silent := isolated.silent
  settled := isolated.settled
  sources := isolated.sources
  deliveries delivery delivered := by
    rcases List.mem_append.mp delivered with earlier | new
    · exact isolated.deliveries delivery earlier
    · obtain ⟨content, -, rfl⟩ := List.mem_map.mp new
      exact own

theorem attempt (isolated : Isolated state) (free : (state.tasks task).expects = none) :
    Isolated (state.attempt task call) := by
  unfold State.attempt
  split
  · exact isolated.moveFree free rfl (List.forall_mem_nil _)
  · dsimp only
    split
    · exact isolated.moveFree free rfl (List.forall_mem_nil _)
    · split
      · exact isolated.moveFree free rfl (List.forall_mem_nil _)
      · exact isolated.moveFree free rfl (List.forall_mem_nil _)

theorem iterate (isolated : Isolated state) (waits : (state.tasks task).expects = some process) :
    Isolated (state.iterate task call process true) := by
  unfold State.iterate
  refine (isolated.move (fun other waiting => ?_) (fun other waiting => ?_) ?_ ?_).unlock
  · rw [waits, ← waiting]
    split <;> rfl
  · rw [waits] at waiting
    rw [← waiting]
    left
    split <;> rfl
  · split <;> trivial
  · split <;> exact List.forall_mem_nil _

theorem iterateDone (isolated : Isolated state)
    (released : ∀ other, (state.tasks task).expects = some other →
      (state.processes other).silent = true) :
    Isolated (state.iterate task call process false) := by
  unfold State.iterate
  refine (isolated.release released ?_ ?_).unlock
  · split <;> rfl
  · split <;> exact List.forall_mem_nil _

theorem cleanup (isolated : Isolated state) {otherwise : State}
    (waits : (state.tasks task).expects = some process)
    (kills : next.process = some process) (sources : next.sources = [])
    (disposes : state.Disposes process)
    (orSilent : (state.processes process).silent = true → Isolated otherwise) :
    Isolated (state.cleanup task process next otherwise) := by
  unfold State.cleanup
  split
  · refine isolated.move (fun other waiting => ?_) (fun other waiting => ?_)
      trivial ?_
    · rw [waits, ← kills]
      exact waiting
    · rw [waits] at waiting
      exact .inl (kills.trans waiting)
    · have none : (Task.kill (state.processes process).poolId false
          next).sources = [] := sources
      rw [none]
      nofun
  · rename_i unregistered
    exact orSilent (disposes.resolve_left unregistered)

theorem finishRead (isolated : Isolated state) {result : CliResult} {sources : List Nat}
    (reached : state.tasks task = .finishRead call process result sources) :
    Isolated (state.finishRead task call process result sources) := by
  have settled := isolated.settled task
  rw [reached] at settled
  have own : ∀ source ∈ sources, source = task := by
    have read := isolated.sources task
    rw [reached] at read
    exact read
  have kills : ∀ next : AfterKill, next.process = some process →
      (∀ source ∈ next.sources, source = task) → ∀ poolId preserve,
        Isolated (state.setTask task (.kill poolId preserve next)) := by
    intro next process sources poolId preserve
    refine isolated.move (fun other waiting => ?_) (fun other waiting => ?_)
      trivial sources
    · rw [reached, ← waiting]
      exact process.symm
    · rw [reached] at waiting
      exact .inl (process.trans waiting)
  unfold State.finishRead
  split
  · exact kills (.returnResult process result sources) rfl own _ _
  · exact kills (.retry call process) rfl (List.forall_mem_nil _) _ _
  · rename_i returned
    have silent : (state.processes process).silent = true := by
      rcases settled with silent | timedOut
      · exact silent
      · rw [resultUse_of_timedOut timedOut] at returned
        cases returned
    have gone : Isolated (state.setTask task .done) := by
      refine isolated.release (fun other waiting => ?_) rfl (List.forall_mem_nil _)
      rw [reached] at waiting
      obtain rfl := Option.some.inj waiting
      exact silent
    exact Isolated.deliver (modify gone.unlock (fun _ => id) id) own _
  · exact kills (.returnResult process _ sources) rfl own _ _

theorem afterKill (isolated : Isolated state) (reached : state.tasks task = .killed next) :
    Isolated (state.afterKill settings task next) := by
  have free : (state.tasks task).expects = none := by
    rw [reached]
    rfl
  have own := isolated.sources task
  rw [reached] at own
  unfold State.afterKill
  split
  · exact isolated.moveFree free rfl (List.forall_mem_nil _)
  · exact isolated.moveFree free rfl (List.forall_mem_nil _)
  · exact (isolated.moveFree free rfl (List.forall_mem_nil _)).congr rfl rfl rfl
  · exact (isolated.moveFree free rfl (List.forall_mem_nil _)).congr rfl rfl rfl
  · exact isolated.moveFree free rfl (List.forall_mem_nil _)
  · exact (isolated.moveFree free rfl (List.forall_mem_nil _)).unlock
  · exact isolated.moveFree free rfl (List.forall_mem_nil _)
  · exact (isolated.moveFree free rfl (List.forall_mem_nil _)).unlock.deliver own _
  · refine isolated.iterateDone fun other waiting => ?_
    rw [free] at waiting
    cases waiting
  · refine isolated.moveFree free ?_ ?_
    · split <;> rfl
    · split <;> exact List.forall_mem_nil _
  · exact isolated.moveFree free rfl (List.forall_mem_nil _)

theorem kill (isolated : Isolated state) {poolId : String} {preserve : Bool}
    (reached : state.tasks task = .kill poolId preserve next)
    (disposes : ∀ process, next.process = some process →
      state.entries.lookup poolId = some process ∨ (state.processes process).silent = true) :
    Isolated (state.kill task poolId preserve next) := by
  have own := isolated.sources task
  rw [reached] at own
  have dropped : Isolated (state.dropEntry poolId preserve) := isolated.congr rfl rfl rfl
  unfold State.kill
  split
  · rename_i missing
    refine dropped.release (fun other waiting => ?_) rfl own
    have process : next.process = some other := by
      rw [← waiting]
      exact (congrArg Task.expects reached).symm
    refine (disposes other process).resolve_left fun found => ?_
    rw [missing] at found
    cases found
  · rename_i victim found
    have other : ∀ process, next.process = some process → process ≠ victim →
        (state.processes process).silent = true := by
      intro process used different
      refine (disposes process used).resolve_left fun registered => ?_
      rw [found] at registered
      exact different (Option.some.inj registered).symm
    split
    · have waiting : Isolated ((state.dropEntry poolId preserve).setTask task
          (.killWait victim next)) := by
        refine dropped.move (fun process waits => ?_) (fun process waits => ?_)
          trivial own
        · rw [Task.expects] at waits
          split at waits
          · rename_i same
            rw [← waits, ← same]
            exact congrArg Task.expects reached
          · cases waits
        · have used : next.process = some process := by
            rw [← waits]
            exact (congrArg Task.expects reached).symm
          by_cases same : process = victim
          · left
            rw [Task.expects, if_pos (same ▸ used), same]
          · exact .inr (other process used same)
      exact waiting.congr rfl rfl rfl
    · rename_i dead
      refine dropped.release (fun process waits => ?_) rfl own
      by_cases same : process = victim
      · rw [same]
        exact Process.silent_of_dead (Bool.not_eq_true _ ▸ dead)
      · exact other process (by
          rw [← waits]; exact (congrArg Task.expects reached).symm) same

theorem updateSessionId (isolated : Isolated state) (sessionId : Json) :
    Isolated (state.updateSessionId process sessionId) :=
  isolated.modify (fun _ => id) id

/-- The next line belongs to the answer that the task waits for, and after a
result nothing is left of it. -/
theorem popLine (isolated : Isolated state) (waits : (state.tasks task).expects = some process)
    (settled : ∀ other : State, (state.tasks task).Settled other)
    {output : OutputLine}
    (head : (state.processes process).stdout.head? = some output) :
    Isolated (state.popLine process) ∧ output.turn = task ∧ (output.line.isResult = true →
        ((state.popLine process).processes process).silent = true) := by
  obtain ⟨rest, stdout⟩ := List.head?_eq_some_iff.mp head
  have answer := isolated.answers task process waits
  rw [stdout] at answer
  obtain ⟨turn, later⟩ := answer
  have popped : (state.popLine process).processes process =
      { state.processes process with stdout := rest } := by
    rw [State.popLine, State.modify_processes_self, stdout]
    rfl
  refine ⟨isolated.advance waits ?_ (settled _), turn, fun result => ?_⟩
  · rw [stdout]
    by_cases result : output.line.isResult = true
    · rw [if_pos result] at later
      rw [List.tail_cons, later.1]
      exact .inl later.2
    · rw [if_neg result] at later
      exact later
  · rw [if_pos result] at later
    rw [popped]
    exact Process.silent_of_empty later.1 later.2

theorem sources_append {sources : List Nat} (own : ∀ source ∈ sources, source = task) {turn : Nat}
    (same : turn = task) : ∀ source ∈ sources ++ [turn], source = task := by
  intro source member
  rcases List.mem_append.mp member with earlier | new
  · exact own source earlier
  · exact (List.mem_singleton.mp new).trans same

attribute [local simp] TurnsSeparated

theorem resumeReading (isolated : Isolated state) {reading : BlockingReader}
    (reached : state.tasks task = .reading call process reading)
    (separated : TurnsSeparated settings state (.resume task outcome))
    (stepTo : state.resumeReading settings task call process reading outcome =
      some after) : Isolated after := by
  have waits : (state.tasks task).expects = some process := by
    rw [reached]
    rfl
  have own : ∀ source ∈ reading.sources, source = task := by
    have read := isolated.sources task
    rw [reached] at read
    exact read
  have reads : ∀ other : State, (state.tasks task).Settled other := by
    rw [reached]
    exact fun _ => trivial
  -- the turn goes on with the process
  have goesOn : ∀ {state : State}, Isolated state →
      (state.tasks task).expects = some process → ∀ point : Task,
        point.expects = some process → point.Settled state →
          (∀ source ∈ point.sources, source = task) →
            Isolated (state.setTask task point) := by
    intro state isolated waits point expects settled sources
    refine isolated.move (fun other waiting => ?_) (fun other waiting => ?_)
      settled sources
    · rw [waits, ← expects, waiting]
    · rw [expects, ← waits, waiting]
      exact .inl rfl
  rcases State.resumeReading_cases stepTo with
    ⟨output, rfl, head, rfl⟩ | ⟨output, rfl, head, rfl⟩ | ⟨empty, ended, rfl⟩ | ⟨-, -, -, rfl⟩ | rfl
  · obtain ⟨popped, turn, silent⟩ := isolated.popLine waits reads head
    have sources := sources_append own turn
    simp only [TurnsSeparated, reached, head, Option.all_some] at separated
    have moved : Isolated ((state.popLine process).setTask task
        (reading.next call process output)) := by
      unfold BlockingReader.next
      split
      · rename_i raised raises
        rw [raises] at separated
        exact goesOn popped waits _ rfl
          (.inl (silent ((Bool.or_eq_true _ _).mp separated |>.resolve_right Bool.false_ne_true))) sources
      · rename_i reader result ends
        have isResult := reading.reader.readLine_ensures output.line _ ends
        exact goesOn popped waits _ rfl (.inl (silent isResult.symm)) sources
      · exact goesOn popped waits _ rfl trivial sources
    exact moved.updateSessionId _
  · obtain ⟨popped, turn, silent⟩ := isolated.popLine waits reads head
    have sources := sources_append own turn
    simp only [TurnsSeparated, reached, head, Option.all_some] at separated
    have moved : Isolated ((state.popLine process).setTask task
        (.finishRead call process (CliNonStreaming.readError .valueError)
          (reading.sources ++ [output.turn]))) :=
      goesOn popped waits _ rfl (.inl (silent separated)) sources
    exact moved
  · exact goesOn isolated waits _ rfl (Process.silent_of_ended empty ended) own
  · exact goesOn isolated waits _ rfl (.inr ⟨by decide, by decide⟩) own
  · exact goesOn isolated waits _ rfl trivial own

theorem next_expects (process : Nat) {reading : StreamReader}
    {tools : PythonText} (running : reading.parser.done = false)
    (output : OutputLine) :
    reading.next tools process output = .done ∧
        (output.line.isResult = true ∨ output.line.endsStream = true ∨
          (reading.parser.parseLine tools output.line).toOption = none) ∨
      ∃ parser : CliStreamingParser, parser.done = false ∧
        reading.next tools process output = .streaming process
          { parser := parser, sources := reading.sources ++ [output.turn] } := by
  unfold StreamReader.next StreamReader.read
  cases parsed : reading.parser.parseLine tools output.line with
  | error raised => exact .inl ⟨rfl, .inr (.inr rfl)⟩
  | ok result =>
    dsimp only
    split
    · rename_i done
      left
      refine ⟨rfl, .inr (.inl ?_)⟩
      rcases CliStreamingParser.parseLine_ensures tools running output.line result
        parsed with ⟨quiet, -⟩ | ⟨-, ends⟩
      · rw [quiet.1, running] at done
        cases done
      · exact ends
    · rename_i more
      exact .inr ⟨result.1, Bool.not_eq_true _ ▸ more, rfl⟩

theorem resumeStreaming (isolated : Isolated state) {reading : StreamReader}
    (reached : state.tasks task = .streaming process reading)
    (separated : TurnsSeparated settings state (.resume task outcome))
    (stepTo : state.resumeStreaming settings task process reading outcome =
      some after) : Isolated after := by
  have waits : (state.tasks task).expects = some process := by
    rw [reached]
    rfl
  have own : ∀ source ∈ reading.sources, source = task := by
    have read := isolated.sources task
    rw [reached] at read
    exact read
  have running : reading.parser.done = false := by
    have settled := isolated.settled task
    rw [reached] at settled
    exact settled
  have reads : ∀ other : State, (state.tasks task).Settled other := by
    rw [reached]
    exact fun _ => running
  have ends : ∀ {state : State}, Isolated state → (state.tasks task).expects = some process →
        (state.processes process).silent = true →
          Isolated (state.setTask task .done) := by
    intro state isolated waits silent
    refine isolated.release (fun other waiting => ?_) rfl (List.forall_mem_nil _)
    rw [waits] at waiting
    obtain rfl := Option.some.inj waiting
    exact silent
  have goesOn : ∀ {state : State}, Isolated state →
      (state.tasks task).expects = some process → ∀ reader : StreamReader,
        reader.parser.done = false → (∀ source ∈ reader.sources, source = task) →
            Isolated (state.setTask task (.streaming process reader)) := by
    intro state isolated waits reader running sources
    refine isolated.move (fun other waiting => ?_) (fun other waiting => ?_) running sources
    · rw [waits, ← waiting]
      rfl
    · rw [waits] at waiting
      exact .inl waiting
  rcases State.resumeStreaming_cases stepTo with
    ⟨output, rfl, head, rfl⟩ | ⟨rfl, nonempty, rfl⟩ | ⟨empty, ended, rfl⟩ |
      ⟨rfl, exhausted, rfl⟩ | rfl
  · obtain ⟨popped, turn, silent⟩ := isolated.popLine waits reads head
    have sources := sources_append own turn
    simp only [TurnsSeparated, reached, head, Option.all_some] at separated
    have moved : Isolated ((state.popLine process).setTask task
        (reading.next settings.tools process output)) := by
      rcases next_expects process running output with
        ⟨gone, why⟩ | ⟨parser, running, streams⟩
      · rw [gone]
        refine ends popped waits (silent ?_)
        rw [Bool.or_eq_true, Bool.and_eq_true] at separated
        rcases separated with result | ⟨goesOn, parses⟩
        · exact result
        · rcases why with result | ended | raised
          · exact result
          · rw [ended] at goesOn
            cases goesOn
          · rw [raised] at parses
            cases parses
      · rw [streams]
        exact goesOn popped waits _ running sources
    exact (moved.updateSessionId _).deliver sources _
  · obtain ⟨output, rest, stdout⟩ := List.exists_cons_of_ne_nil nonempty
    have head : (state.processes process).stdout.head? = some output := by
      rw [stdout]
      rfl
    obtain ⟨popped, -, silent⟩ := isolated.popLine waits reads head
    simp only [TurnsSeparated, reached, head, Option.all_some] at separated
    have gone : Isolated ((state.popLine process).setTask task .done) :=
      ends popped waits (silent separated)
    exact gone
  · exact ends isolated waits (Process.silent_of_ended empty ended)
  · simp only [TurnsSeparated, reached] at separated
    exact isolated.cleanup waits rfl rfl (separated exhausted) (ends isolated waits)
  · exact goesOn isolated waits _ running own

theorem resumeWriting (isolated : Isolated state)
    (reached : state.tasks task = .writing call process)
    (separated : TurnsSeparated settings state (.resume task outcome))
    (stepTo : state.resumeWriting task call process outcome = some after) :
    Isolated after := by
  have waits : (state.tasks task).expects = some process := by
    rw [reached]
    rfl
  have blocks : ∀ point : Task, point.expects = some process →
      point.Settled state → (∀ source ∈ point.sources, source = task) →
        Isolated (state.setTask task point) := by
    intro point expects settled sources
    refine isolated.move (fun other waiting => ?_) (fun other waiting => ?_)
      settled sources
    · rw [waits, ← expects, waiting]
    · rw [expects, ← waits, waiting]
      exact .inl rfl
  have released : (state.processes process).silent = true → ∀ other,
      (state.tasks task).expects = some other → (state.processes other).silent = true := by
    intro silent other waiting
    rw [waits] at waiting
    obtain rfl := Option.some.inj waiting
    exact silent
  unfold State.resumeWriting at stepTo
  split at stepTo
  · cases stepTo
    split
    · exact isolated.iterate waits
    · exact blocks _ rfl trivial (List.forall_mem_nil _)
  · cases stepTo
    simp only [TurnsSeparated, reached] at separated
    split
    · rename_i streams
      exact isolated.cleanup waits rfl rfl (separated streams) fun silent =>
        isolated.iterateDone (released silent)
    · exact blocks _ rfl (.inr ⟨by decide, by decide⟩)
        (List.forall_mem_nil _)
  · cases stepTo
    simp only [TurnsSeparated, reached] at separated
    split
    · rename_i streams
      exact (isolated.release (released (separated streams)) rfl (List.forall_mem_nil _)).unlock
    · exact blocks _ rfl trivial (List.forall_mem_nil _)
  · cases stepTo

theorem unread_of_unlocked (wf : WellFormed state) (free : (state.processes process).lock = none)
    (unread : state.Unread process) (other : Nat) :
    (state.tasks other).expects ≠ some process := by
  intro waits
  have active : other < state.started := wf.lt_started fun gone => by
    rw [gone] at waits
    cases waits
  rcases unread other active with different | holds
  · exact different waits
  · rw [wf.lock other process holds] at free
    cases free

/-- A task is going to write to a process from which nothing can be read. -/
theorem claim (isolated : Isolated state) (free : (state.tasks task).expects = none)
    (unread : ∀ other, (state.tasks other).expects ≠ some process)
    (empty : (state.processes process).stdout = [])
    (answered : (state.processes process).pending = []) :
    Isolated (state.setTask task (.writing call process)) := by
  have expected : ∀ {other third}, other ≠ task →
      ((state.setTask task (.writing call process)).tasks other).expects = some third →
        (state.tasks other).expects = some third ∧ third ≠ process := by
    intro other third different waits
    rw [State.setTask_tasks_of_ne different] at waits
    refine ⟨waits, ?_⟩
    rintro rfl
    exact unread other waits
  have self : ∀ {third}, ((state.setTask task (.writing call process)).tasks task).expects =
        some third → third = process := by
    intro third waits
    rw [State.setTask_tasks_self] at waits
    exact (Option.some.inj waits).symm
  exact
    { answers := fun other third waits => by
        by_cases same : other = task
        · subst same
          rw [self waits, State.setTask_processes, empty, answered]
          exact .inl rfl
        · exact isolated.answers other third (expected same waits).1
      unique := fun first second third firstWaits secondWaits => by
        by_cases isFirst : first = task
        · by_cases isSecond : second = task
          · rw [isFirst, isSecond]
          · subst isFirst
            exact absurd (self firstWaits) (expected isSecond secondWaits).2
        · obtain ⟨firstBefore, different⟩ := expected isFirst firstWaits
          by_cases isSecond : second = task
          · subst isSecond
            exact absurd (self secondWaits) different
          · exact isolated.unique first second third firstBefore (expected isSecond secondWaits).1
      silent := fun third quiet => by
        refine isolated.silent third fun other waits => ?_
        have different : other ≠ task := by
          rintro rfl
          rw [free] at waits
          cases waits
        have unexpected := quiet other
        rw [State.setTask_tasks_of_ne different] at unexpected
        exact unexpected waits
      settled := fun other => by
        by_cases same : other = task
        · rw [same, State.setTask_tasks_self]
          trivial
        · rw [State.setTask_tasks_of_ne same]
          exact isolated.settled other
      sources := fun other => by
        by_cases same : other = task
        · rw [same, State.setTask_tasks_self]
          exact List.forall_mem_nil _
        · rw [State.setTask_tasks_of_ne same]
          exact isolated.sources other
      deliveries := isolated.deliveries }

theorem enter (isolated : Isolated state) (waits : (state.tasks task).expects = none)
    (vacant : (state.processes process).alive = true →
      ∀ other, (state.tasks other).expects ≠ some process) :
    Isolated (state.enter task call process) := by
  unfold State.enter
  split
  · rename_i alive
    have unread := vacant alive
    have silent := isolated.silent process unread
    obtain ⟨empty, answered⟩ : (state.processes process).stdout = [] ∧
        (state.processes process).pending = [] := by
      simpa [Process.silent, alive] using silent
    have claimed : Isolated (state.setTask task (.writing call process)) :=
      isolated.claim waits unread empty answered
    have self : (state.setTask task (.writing call process)).tasks task = .writing call process :=
      State.setTask_tasks_self
    have written : Isolated ((state.setTask task
        (.writing call process)).modify process fun entry =>
          { entry with
            lock := some task
            unanswered := entry.unanswered ++ [task]
            turnCount :=
              if call.streaming then entry.turnCount + 1 else entry.turnCount
            lastActivity :=
              if call.streaming then state.clock
              else entry.lastActivity }) := by
      refine claimed.advance (by rw [self]; rfl) ?_ (by rw [self]; trivial)
      rw [State.setTask_processes]
      dsimp only
      rw [empty]
      unfold Process.pending at answered ⊢
      dsimp only
      split
      · exact .inl rfl
      · rename_i opened
        rw [if_neg opened] at answered
        rw [answered]
        exact .inr rfl
    exact written
  · exact isolated.moveFree waits rfl (List.forall_mem_nil _)

theorem spawn (isolated : Isolated state) (waits : (state.tasks task).expects = none) :
    Isolated (state.spawn task call) := by
  have grown : Isolated (state.modify state.spawned
      fun _ => state.newProcess call) :=
    isolated.modify (fun _ _ => .inl rfl) fun _ => rfl
  have moved : Isolated ((state.modify state.spawned
      fun _ => state.newProcess call).setTask task
        (if State.commandBuilds (state.newProcess call) then
          .spawnExec call state.spawned else .done)) := by
    refine grown.moveFree waits ?_ ?_
    · split <;> rfl
    · split <;> exact List.forall_mem_nil _
  exact moved.congr rfl rfl rfl

theorem execReady (isolated : Isolated state) (wf : WellFormed state)
    (reached : state.tasks task = .spawnExec call process) :
    Isolated ((state.setTask task (.spawnProbe call process)).modify process
      fun entry => { entry with alive := true }) := by
  have free : (state.tasks task).expects = none := by
    rw [reached]
    rfl
  have untouched := wf.fresh task process (by rw [reached]; rfl)
  have moved : Isolated (state.setTask task (.spawnProbe call process)) :=
    isolated.moveFree free rfl (List.forall_mem_nil _)
  refine moved.modify (fun _ => id) fun _ => ?_
  refine Process.silent_of_empty untouched.stdout ?_
  have unanswered := untouched.unanswered
  simp [Process.pending, unanswered]

/-- Every step of a task that keeps the turns separated. -/
theorem resumes (isolated : Isolated state) (wf : WellFormed state)
    (separated : TurnsSeparated settings state (.resume task outcome))
    (step : state.Resumes settings task outcome after) : Isolated after := by
  have idle : ∀ {before point : Task}, state.tasks task = before →
      before.expects = none → point.expects = none → (∀ source ∈ point.sources, source = task) →
          Isolated (state.setTask task point) :=
    fun reached free expects sources =>
      isolated.moveFree (reached ▸ free) expects sources
  cases step with
  | attempt reached => exact isolated.attempt (by rw [reached]; rfl)
  | spawn reached => exact isolated.spawn (by rw [reached]; rfl)
  | execReady reached => exact isolated.execReady wf reached
  | execFailed reached _ | stderrRead reached =>
    have gone : Isolated (state.setTask task .done) := idle reached rfl rfl (List.forall_mem_nil _)
    exact gone.modify (fun _ => id) id
  | probeExited reached _ =>
    exact idle reached rfl rfl (List.forall_mem_nil _)
  | @probeAlive call process reached _ =>
    have moved : Isolated (state.setTask task (.acquire call process)) :=
      idle reached rfl rfl (List.forall_mem_nil _)
    have touched : Isolated ((state.setTask task
        (.acquire call process)).modify process fun entry =>
          { entry with lastActivity := state.clock }) :=
      moved.modify (fun _ => id) id
    exact touched.congr rfl rfl rfl
  | enter reached free =>
    rcases reached with reached | reached
    all_goals
      simp only [TurnsSeparated, reached] at separated
      exact isolated.enter (by rw [reached]; rfl) fun alive =>
        unread_of_unlocked wf free (separated free alive)
  | wait reached => exact idle reached rfl rfl (List.forall_mem_nil _)
  | writing reached stepTo =>
    exact isolated.resumeWriting reached separated stepTo
  | reading reached stepTo =>
    exact isolated.resumeReading reached separated stepTo
  | terminated reached =>
    have silent := isolated.settled task
    have own := isolated.sources task
    rw [reached] at silent own
    refine isolated.move (fun other waits => ?_) (fun other waits => .inl ?_) (.inl silent) own
    · rw [reached, ← waits]
      rfl
    · rw [reached] at waits
      exact waits
  | finishRead reached => exact isolated.finishRead reached
  | @notStale _ _ live reached =>
    cases live with
    | false => exact idle reached rfl rfl (List.forall_mem_nil _)
    | true =>
      refine isolated.move (fun other waits => ?_)
        (fun other waits => .inl ?_) rfl (List.forall_mem_nil _)
      · rw [reached, ← waits]
        rfl
      · rw [reached] at waits
        exact waits
  | @stale _ _ live reached dead =>
    refine isolated.release (fun other waits => ?_) rfl (List.forall_mem_nil _)
    rw [reached] at waits
    cases live with
    | false => cases waits
    | true =>
      obtain rfl := Option.some.inj waits
      exact Process.silent_of_dead dead
  | streaming reached stepTo =>
    exact isolated.resumeStreaming reached separated stepTo
  | kill reached =>
    simp only [TurnsSeparated, reached] at separated
    refine isolated.kill reached fun process used => ?_
    rwa [used, Option.all_some, Bool.or_eq_true,
      decide_eq_true_eq] at separated
  | killWait reached dead =>
    have own := isolated.sources task
    rw [reached] at own
    refine isolated.release (fun other waits => ?_) rfl own
    rw [reached, Task.expects] at waits
    split at waits
    · obtain rfl := Option.some.inj waits
      exact Process.silent_of_dead dead
    · cases waits
  | @unlink process next reached =>
    have own := isolated.sources task
    rw [reached] at own
    have moved : Isolated (state.setTask task (.killed next)) := idle reached rfl rfl own
    exact moved.modify (fun _ => id) id
  | killed reached => exact isolated.afterKill reached
  | @sweeping rest reached =>
    unfold State.sweepNext
    split
    · exact idle reached rfl rfl (List.forall_mem_nil _)
    · exact idle reached rfl rfl (List.forall_mem_nil _)
  | onReap reached => exact idle reached rfl rfl (List.forall_mem_nil _)
  | @stopping rest reached =>
    unfold State.stopNext
    split
    · exact idle reached rfl rfl (List.forall_mem_nil _)
    · exact idle reached rfl rfl (List.forall_mem_nil _)

theorem start (isolated : Isolated state) (wf : WellFormed state)
    (expects : point.expects = none) (sources : point.sources = []) :
    Isolated (state.start point) := by
  have idle : (state.tasks state.started).expects = none := by
    rw [wf.idle state.started (Nat.le_refl _)]
    rfl
  have own : ∀ source ∈ point.sources, source = state.started := by
    rw [sources]
    exact List.forall_mem_nil _
  exact (isolated.moveFree idle expects own).congr rfl rfl rfl

theorem cancel (isolated : Isolated state) (silent : ((state.tasks task).expects.all fun process =>
      (state.processes process).silent) = true) :
    Isolated (state.cancel task) := by
  have released : ∀ process, (state.tasks task).expects = some process →
      (state.processes process).silent = true := by
    intro process waits
    simpa [waits] using silent
  unfold State.cancel
  dsimp only
  split
  · exact isolated.release released rfl (List.forall_mem_nil _)
  · split
    · exact (isolated.release released rfl (List.forall_mem_nil _)).unlock
    · exact isolated.release released rfl (List.forall_mem_nil _)

theorem stop (isolated : Isolated state) (wf : WellFormed state)
    (separated : TurnsSeparated settings state .stop) :
    Isolated state.stop := by
  unfold State.stop
  dsimp only
  split
  · exact isolated.start wf rfl rfl
  · rename_i reaper known
    have cancelled : Isolated (state.cancel reaper) := by
      refine isolated.cancel ?_
      simpa [TurnsSeparated, known] using separated
    split
    · exact cancelled
    · exact cancelled.start (wf.cancel reaper) rfl rfl

theorem emit (isolated : Isolated state) {line : StdoutLine}
    (stepTo : state.emit process line = some after) : Isolated after := by
  unfold State.emit at stepTo
  dsimp only at stepTo
  split at stepTo
  · rename_i turn later queued
    split at stepTo
    · rename_i writes
      obtain rfl := Option.some.inj stepTo
      have pending : (state.processes process).pending = turn :: later := by
        simp [Process.pending, writes.2, queued]
      have loud : (state.processes process).silent = false := by
        simp [Process.silent, writes.1, pending]
      obtain ⟨task, waits⟩ : ∃ task, (state.tasks task).expects = some process := by
        by_contra unread
        rw [not_exists] at unread
        rw [isolated.silent process unread] at loud
        cases loud
      have answer := isolated.answers task process waits
      rw [pending] at answer
      refine isolated.advance waits ?_ ((isolated.settled task).mono fun other waiting silent => ?_)
      · unfold Process.pending
        dsimp only
        rw [writes.2, if_neg Bool.false_ne_true, queued]
        exact answer.emit
      · rw [waits] at waiting
        obtain rfl := Option.some.inj waiting
        rw [silent] at loud
        cases loud
    · cases stepTo
  · cases stepTo

theorem closeStdout (isolated : Isolated state) : Isolated (state.modify process fun entry =>
      { entry with stdoutClosed := true }) := by
  refine isolated.modify (fun turn answer => answer.close) fun silent => ?_
  unfold Process.silent at silent ⊢
  rw [Bool.or_eq_true] at silent ⊢
  refine silent.imp id fun read => ?_
  rw [Bool.and_eq_true] at read ⊢
  exact ⟨read.1, rfl⟩

theorem perform (isolated : Isolated state) (wf : WellFormed state)
    {action : Action} (separated : TurnsSeparated settings state action)
    (stepTo : perform settings state action = some after) :
    Isolated after := by
  cases action with
  | send call | reset poolId | switchCwd poolId cwd =>
    obtain rfl := Option.some.inj stepTo
    exact isolated.start wf rfl rfl
  | resumeDirect poolId sessionId =>
    obtain rfl := Option.some.inj stepTo
    unfold State.resumeDirect
    dsimp only
    split
    · exact isolated.start wf rfl rfl
    · exact isolated.start wf rfl rfl
  | syncEvict poolId preserve =>
    obtain rfl := Option.some.inj stepTo
    unfold State.syncEvictEntry
    split
    · exact isolated.congr rfl rfl rfl
    · exact isolated.congr rfl rfl rfl
  | sweep =>
    unfold CliPool.perform at stepTo
    dsimp only at stepTo
    split at stepTo
    · obtain rfl := Option.some.inj stepTo
      exact (isolated.start wf rfl rfl).congr rfl rfl rfl
    · cases stepTo
  | drainCheck =>
    obtain rfl := Option.some.inj stepTo
    unfold State.drainCheck
    split
    · exact isolated.congr rfl rfl rfl
    · exact isolated
  | stop =>
    obtain rfl := Option.some.inj stepTo
    exact isolated.stop wf separated
  | resume task outcome =>
    exact isolated.resumes wf separated (State.resume_resumes stepTo)
  | cancel task =>
    obtain rfl := Option.some.inj stepTo
    exact isolated.cancel separated
  | aclose task =>
    unfold CliPool.perform at stepTo
    dsimp only at stepTo
    split at stepTo
    · rename_i process reading reached
      have waits : (state.tasks task).expects = some process := by
        rw [reached]
        rfl
      simp only [TurnsSeparated, reached] at separated
      obtain rfl := Option.some.inj stepTo
      refine isolated.cleanup waits rfl rfl separated fun silent => ?_
      refine isolated.release (fun other waiting => ?_) rfl (List.forall_mem_nil _)
      rw [waits] at waiting
      obtain rfl := Option.some.inj waiting
      exact silent
    · cases stepTo
  | exit process =>
    unfold CliPool.perform at stepTo
    dsimp only at stepTo
    split at stepTo
    · obtain rfl := Option.some.inj stepTo
      exact isolated.modify (fun _ => id) fun _ => rfl
    · cases stepTo
  | closeStdout process =>
    obtain rfl := Option.some.inj stepTo
    exact isolated.closeStdout
  | emit process line => exact isolated.emit stepTo
  | clock now =>
    obtain rfl := Option.some.inj stepTo
    exact isolated.congr rfl rfl rfl

theorem step (isolated : Isolated state) (wf : WellFormed state)
    {action : Action} (separated : TurnsSeparated settings state action)
    (stepTo : step settings state action = some after) : Isolated after := by
  obtain ⟨performed, performs, rfl⟩ := step_eq_some stepTo
  exact (isolated.perform wf separated performs).congr rfl rfl rfl

end Isolated

def resultLine : StdoutLine := .json (.obj [(.text "type", .ofString "result")])

end CliPool

end RoxabiFactory

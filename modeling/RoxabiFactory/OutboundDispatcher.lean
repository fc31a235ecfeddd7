import Mathlib.Logic.Function.Basic
import RoxabiFactory.FairLock
import RoxabiFactory.TransitionSystem

/-!
# The dispatch of outbound items

The worker of an `OutboundDispatcher` takes the items from a bounded queue and
creates a task for each of them, which holds the lock of its scope while it
dispatches the item.  When the map of the locks grows past a bound the worker
removes the locks that are not held, and a lock that was just created, or
handed over, is not held.  An item is known by its place among all items that
were enqueued, and its task by the same number.
-/

namespace RoxabiFactory

namespace OutboundDispatcher

/-- What the worker reads of an `InboundMessage`. -/
structure Message where
  scopeId : String
  id : String
  deriving DecidableEq

/-- `msg.scope_id or msg.id`. -/
def Message.scope (msg : Message) : String :=
  if msg.scopeId = "" then msg.id else msg.scopeId

/-- Where the task of an item is in `_process_locked`. -/
inductive Phase
  /-- Its first step is due. -/
  | created (mustCancel : Bool)
  /-- It waits in `acquire`. -/
  | waiting
  /-- It holds the lock, in `_dispatch_item`. -/
  | sending
  | done
  deriving DecidableEq

structure ScopeTask where
  scope : String
  lock : Nat
  phase : Phase
  deriving DecidableEq

/-- `_SCOPE_REAP_THRESHOLD`. -/
def scopeReapThreshold : Nat := 256

structure State where
  /-- The number of the items that were enqueued. -/
  enqueued : Nat := 0
  /-- An item has no message when it is malformed. -/
  queue : List (Nat × Option Message) := []
  scopeLocks : List (String × Nat) := []
  /-- The number of the locks that were created. -/
  created : Nat := 0
  locks : Nat → FairLock Nat := fun _ => { }
  tasks : Nat → Option ScopeTask := fun _ => none
  /-- The tasks whose first step is due, in the order of the event loop. -/
  ready : List Nat := []
  /-- The items whose dispatch has started. -/
  started : List Nat := []

/-- `_maybe_drop_oldest`. -/
def maybeDropOldest (maxsize : Int) (queue : List (Nat × Option Message)) :
    List (Nat × Option Message) :=
  if (queue.length : Int) < maxsize then queue else queue.tail

def enqueue (maxsize : Int) (state : State) (msg : Option Message) : State :=
  { state with
    enqueued := state.enqueued + 1
    queue := maybeDropOldest maxsize state.queue ++ [(state.enqueued, msg)] }

/-- `_reap_scope_locks`. -/
def reapScopeLocks (state : State) : State :=
  { state with
    scopeLocks := state.scopeLocks.filter fun entry =>
      (state.locks entry.2).locked }

/-- `self._scope_locks.setdefault(scope_id, asyncio.Lock())`. -/
def setdefault (state : State) (scope : String) : Nat × State :=
  match state.scopeLocks.lookup scope with
  | some lock => (lock, state)
  | none =>
    (state.created,
      { state with
        scopeLocks := state.scopeLocks ++ [(scope, state.created)]
        created := state.created + 1 })

def createTask (state : State) (number : Nat) (scope : String) (lock : Nat) :
    State :=
  { state with
    tasks := Function.update state.tasks number
      (some { scope := scope, lock := lock, phase := .created false })
    ready := state.ready ++ [number] }

/-- What `_worker_loop` does with an item. -/
def workerLoop (state : State) : Nat × Option Message → State
  | (_, none) => state
  | (number, some msg) =>
    let (lock, kept) := setdefault state msg.scope
    let spawned := createTask kept number msg.scope lock
    if spawned.scopeLocks.length > scopeReapThreshold then
      reapScopeLocks spawned
    else spawned

/-- The task of an item gets to another phase and leaves its lock so. -/
def State.move (state : State) (number : Nat) (task : ScopeTask)
    (phase : Phase) (lock : FairLock Nat) : State :=
  { state with
    tasks := Function.update state.tasks number (some { task with phase := phase })
    locks := Function.update state.locks task.lock lock }

/-- The task enters `_dispatch_item`. -/
def State.start (state : State) (number : Nat) : State :=
  { state with started := state.started ++ [number] }

/-- The first step of a task. -/
def begin (state : State) (number : Nat) (task : ScopeTask) : Option State :=
  match task.phase with
  | .created true =>
    some (state.move number task .done (state.locks task.lock))
  | .created false =>
    match (state.locks task.lock).acquire number with
    | (true, lock) => some ((state.move number task .sending lock).start number)
    | (false, lock) => some (state.move number task .waiting lock)
  | _ => none

/-- The step of a task whose future is done. -/
def resume (state : State) (number : Nat) (task : ScopeTask) (waiter : Waiter Nat) : State :=
  match (state.locks task.lock).resume waiter with
  | (true, lock) => (state.move number task .sending lock).start number
  | (false, lock) => state.move number task .done lock

/-- `cancel` of a task; what it does to a dispatch is up to the adapter. -/
def cancel (state : State) (number : Nat) (task : ScopeTask) : State :=
  match task.phase with
  | .created _ =>
    state.move number task (.created true) (state.locks task.lock)
  | .waiting =>
    state.move number task .waiting ((state.locks task.lock).cancel number)
  | .sending | .done => state

inductive Action
  | enqueue (msg : Option Message)
  /-- The worker takes an item. -/
  | work
  /-- The first step of the task that is the next one. -/
  | begin
  /-- A task goes on after its wait for the lock. -/
  | resume (number : Nat)
  /-- A dispatch ends, with or without an exception. -/
  | finish (number : Nat)
  | cancel (number : Nat)
  /-- The end of `stop`. -/
  | stop

def State.doneWaiter (state : State) (number : Nat) (task : ScopeTask) : Option (Waiter Nat) :=
  (state.locks task.lock).waiters.find? fun waiter =>
    waiter.task = number ∧ waiter.future ≠ .pending

def step (maxsize : Int) (state : State) : Action → Option State
  | .enqueue msg => some (enqueue maxsize state msg)
  | .work =>
    match state.queue with
    | [] => none
    | item :: queue => some (workerLoop { state with queue := queue } item)
  | .begin =>
    match state.ready with
    | [] => none
    | number :: ready =>
      (state.tasks number).bind (begin { state with ready := ready } number)
  | .resume number =>
    (state.tasks number).bind fun task =>
      (state.doneWaiter number task).map (resume state number task)
  | .finish number =>
    (state.tasks number).bind fun task =>
      if task.phase = .sending then
        some (state.move number task .done (state.locks task.lock).release)
      else none
  | .cancel number => (state.tasks number).map (cancel state number)
  | .stop => some (reapScopeLocks state)

/-- A dispatcher whose queue has this size. -/
def dispatcher (maxsize : Int) : TransitionSystem State Action where
  initial state := state = { }
  step := step maxsize

/-- The scope of an item that has a task. -/
def State.scopeOf (state : State) (number : Nat) : Option String :=
  (state.tasks number).map ScopeTask.scope

/-- One item of a scope at a time is sent, and the items of a scope start in
the order in which they were enqueued. -/
structure Serialized (state : State) : Prop where
  alone : ∀ first second one two, state.tasks first = some one →
    state.tasks second = some two → one.phase = .sending →
      two.phase = .sending → one.scope = two.scope → first = second
  inOrder : state.started.Pairwise fun first second =>
    state.scopeOf first = state.scopeOf second → first < second

/-- The unfinished tasks of the scope use the lock that the map has for it. -/
def UsesMappedLock (state : State) (msg : Message) : Prop :=
  ∀ number < state.enqueued, ∀ task ∈ state.tasks number,
    task.scope = msg.scope → task.phase ≠ .done → state.scopeLocks.lookup msg.scope = some task.lock

/-- No unfinished task of the scope of an item that the worker takes has lost
its lock. -/
def LocksKept (state : State) : Action → Prop
  | .work => ∀ item ∈ state.queue.head?, ∀ msg ∈ item.2, UsesMappedLock state msg
  | _ => True

instance (state : State) (msg : Message) : Decidable (UsesMappedLock state msg) :=
  inferInstanceAs (Decidable (∀ number < state.enqueued,
    ∀ task ∈ state.tasks number, task.scope = msg.scope → task.phase ≠ .done →
        state.scopeLocks.lookup msg.scope = some task.lock))

instance (state : State) : ∀ action, Decidable (LocksKept state action)
  | .work => inferInstanceAs (Decidable (∀ item ∈ state.queue.head?,
      ∀ msg ∈ item.2, UsesMappedLock state msg))
  | .enqueue _ | .begin | .resume _ | .finish _ | .cancel _ | .stop =>
    .isTrue trivial

section Numbers

/-- The first step of the task is due. -/
def Phase.isCreated : Phase → Bool
  | .created _ => true
  | .waiting | .sending | .done => false

/-- The items that have no task yet, behind the tasks that have not begun. -/
def State.line (state : State) : List Nat := state.ready ++ state.queue.map Prod.fst

/-- The line is in the order of the numbers, and the tasks that have begun are
ahead of it. -/
structure Lined (state : State) : Prop where
  sorted : state.line.Pairwise (· < ·)
  bounded : ∀ number ∈ state.line, number < state.enqueued
  known : ∀ number task, state.tasks number = some task → number < state.enqueued
  due : ∀ number task, state.tasks number = some task →
    task.phase.isCreated = true → number ∈ state.ready
  begun : ∀ number task, state.tasks number = some task →
    task.phase.isCreated = false → ∀ other ∈ state.line, number < other

variable {state : State} {number : Nat} {task : ScopeTask} {phase : Phase}
variable {lock : FairLock Nat}

theorem tasks_move (other : Nat) : (state.move number task phase lock).tasks other =
      if other = number then some { task with phase := phase }
      else state.tasks other := by
  simp [State.move, Function.update_apply]

theorem locks_move (other : Nat) : (state.move number task phase lock).locks other =
      if other = task.lock then lock else state.locks other := by
  simp [State.move, Function.update_apply]

theorem tasks_move_eq_some {other : Nat} {moved : ScopeTask}
    (found : (state.move number task phase lock).tasks other = some moved) :
    other = number ∧ moved = { task with phase := phase } ∨
      other ≠ number ∧ state.tasks other = some moved := by
  rw [tasks_move] at found
  split at found
  · rename_i same
    exact .inl ⟨same, (Option.some.inj found).symm⟩
  · rename_i different
    exact .inr ⟨different, found⟩

theorem tasks_createTask_eq_some {scope : String} {place other : Nat} {there : ScopeTask}
    (found : (createTask state number scope place).tasks other = some there) :
    other = number ∧ there = { scope := scope, lock := place, phase := .created false } ∨
      other ≠ number ∧ state.tasks other = some there := by
  simp only [createTask, Function.update_apply] at found
  split at found
  · rename_i same
    exact .inl ⟨same, (Option.some.inj found).symm⟩
  · rename_i different
    exact .inr ⟨different, found⟩

namespace Lined

theorem empty : Lined { } := ⟨.nil, by simp [State.line], by simp, by simp, by simp⟩

theorem enqueue (lined : Lined state) (maxsize : Int)
    (msg : Option Message) : Lined (enqueue maxsize state msg) := by
  have kept : (maybeDropOldest maxsize state.queue).Sublist state.queue := by
    unfold maybeDropOldest
    split
    · exact List.Sublist.refl _
    · exact List.tail_sublist _
  have line : (OutboundDispatcher.enqueue maxsize state msg).line =
      (state.ready ++ (maybeDropOldest maxsize state.queue).map Prod.fst) ++ [state.enqueued] := by
    simp [State.line, OutboundDispatcher.enqueue]
  have sub := (List.Sublist.refl state.ready).append (kept.map Prod.fst)
  refine ⟨?_, ?_, ?_, lined.due, ?_⟩
  · rw [line]
    refine List.pairwise_append.mpr ⟨lined.sorted.sublist sub, List.pairwise_singleton _ _, ?_⟩
    intro first member second new
    obtain rfl := List.mem_singleton.mp new
    exact lined.bounded first (sub.subset member)
  · rw [line]
    intro other member
    rcases List.mem_append.mp member with old | new
    · exact Nat.lt_succ_of_lt (lined.bounded other (sub.subset old))
    · obtain rfl := List.mem_singleton.mp new
      exact Nat.lt_succ_self _
  · intro other task found
    exact Nat.lt_succ_of_lt (lined.known other task found)
  · rw [line]
    intro other task found begun later member
    rcases List.mem_append.mp member with old | new
    · exact lined.begun other task found begun later (sub.subset old)
    · obtain rfl := List.mem_singleton.mp new
      exact lined.known other task found

theorem skip (lined : Lined state) {item : Nat × Option Message}
    {queue : List (Nat × Option Message)} (head : state.queue = item :: queue) :
    Lined { state with queue := queue } := by
  have sub : List.Sublist (state.ready ++ queue.map Prod.fst) state.line := by
    rw [State.line, head]
    exact (List.Sublist.refl _).append ((List.sublist_cons_self _ _).map _)
  exact ⟨lined.sorted.sublist sub,
    fun other member => lined.bounded other (sub.subset member), lined.known,
    lined.due, fun other task found begun later member =>
      lined.begun other task found begun later (sub.subset member)⟩

theorem createTask (lined : Lined state) {msg : Option Message}
    {queue : List (Nat × Option Message)}
    (head : state.queue = (number, msg) :: queue) (scope : String)
    (place : Nat) :
    Lined (createTask { state with queue := queue } number scope place) := by
  have line : (OutboundDispatcher.createTask { state with queue := queue }
      number scope place).line = state.line := by
    simp [State.line, OutboundDispatcher.createTask, head]
  have here : number ∈ state.line := by simp [State.line, head]
  refine ⟨line ▸ lined.sorted, line ▸ lined.bounded, ?_, ?_, ?_⟩
  · intro other task found
    rcases tasks_createTask_eq_some found with ⟨rfl, -⟩ | ⟨-, old⟩
    · exact lined.bounded other here
    · exact lined.known other task old
  · intro other task found created
    apply List.mem_append.mpr
    rcases tasks_createTask_eq_some found with ⟨rfl, -⟩ | ⟨-, old⟩
    · exact .inr (List.mem_singleton_self _)
    · exact .inl (lined.due other task old created)
  · intro other task found begun
    rw [line]
    rcases tasks_createTask_eq_some found with ⟨-, rfl⟩ | ⟨-, old⟩
    · cases begun
    · exact lined.begun other task old begun

theorem move (lined : Lined state) (found : state.tasks number = some task)
    (same : phase.isCreated = task.phase.isCreated) :
    Lined (state.move number task phase lock) := by
  refine ⟨lined.sorted, lined.bounded, ?_, ?_, ?_⟩
  · intro other moved there
    rcases tasks_move_eq_some there with ⟨rfl, -⟩ | ⟨-, old⟩
    · exact lined.known other task found
    · exact lined.known other moved old
  · intro other moved there created
    rcases tasks_move_eq_some there with ⟨rfl, rfl⟩ | ⟨-, old⟩
    · exact lined.due other task found (same ▸ created)
    · exact lined.due other moved old created
  · intro other moved there begun
    rcases tasks_move_eq_some there with ⟨rfl, rfl⟩ | ⟨-, old⟩
    · exact lined.begun other task found (same ▸ begun)
    · exact lined.begun other moved old begun

theorem begin (lined : Lined state) {ready : List Nat} (head : state.ready = number :: ready)
    (found : state.tasks number = some task)
    (begun : phase.isCreated = false) :
    Lined (({ state with ready := ready } : State).move number task phase
      lock) := by
  have line : state.line =
      number :: ({ state with ready := ready } : State).line := by
    simp [State.line, head]
  have sorted := lined.sorted
  rw [line] at sorted
  obtain ⟨first, sorted⟩ := List.pairwise_cons.mp sorted
  refine ⟨sorted, ?_, ?_, ?_, ?_⟩
  · intro other member
    exact lined.bounded other (line ▸ List.mem_cons_of_mem _ member)
  · intro other moved there
    rcases tasks_move_eq_some there with ⟨rfl, -⟩ | ⟨-, old⟩
    · exact lined.known other task found
    · exact lined.known other moved old
  · intro other moved there created
    rcases tasks_move_eq_some there with ⟨rfl, rfl⟩ | ⟨different, old⟩
    · rw [begun] at created
      cases created
    · have member := lined.due other moved old created
      rw [head] at member
      exact (List.mem_cons.mp member).resolve_left different
  · intro other moved there begun later member
    rcases tasks_move_eq_some there with ⟨rfl, rfl⟩ | ⟨-, old⟩
    · exact first later member
    · exact lined.begun other moved old begun later (line ▸ List.mem_cons_of_mem _ member)

end Lined

end Numbers

section Locks

/-- What the locks know of the tasks. -/
structure Locked (state : State) : Prop where
  orderly : ∀ place, (state.locks place).Orderly
  waits : ∀ place number, (state.locks place).Waits number →
    ∃ task, state.tasks number = some task ∧ task.lock = place ∧ task.phase = .waiting
  held : ∀ number task, state.tasks number = some task →
    task.phase = .sending → (state.locks task.lock).locked = true
  alone : ∀ first second one two, state.tasks first = some one →
    state.tasks second = some two → one.phase = .sending →
      two.phase = .sending → one.lock = two.lock → first = second

/-- The unfinished tasks of a scope share their lock. -/
def Shared (state : State) : Prop := ∀ first second one two, state.tasks first = some one →
    state.tasks second = some two → one.scope = two.scope →
      one.phase ≠ .done → two.phase ≠ .done → one.lock = two.lock

variable {state : State} {number : Nat} {task : ScopeTask} {phase : Phase}
variable {lock : FairLock Nat}

theorem Shared.move (shared : Shared state)
    (found : state.tasks number = some task) (unfinished : task.phase ≠ .done) :
    Shared (state.move number task phase lock) := by
  intro first second one two foundOne foundTwo same liveOne liveTwo
  rcases tasks_move_eq_some foundOne with ⟨rfl, rfl⟩ | ⟨-, oldOne⟩ <;>
    rcases tasks_move_eq_some foundTwo with ⟨rfl, rfl⟩ | ⟨-, oldTwo⟩
  · rfl
  · exact shared first second task two found oldTwo same unfinished liveTwo
  · exact shared first second one task oldOne found same liveOne unfinished
  · exact shared first second one two oldOne oldTwo same liveOne liveTwo

theorem Shared.createTask (shared : Shared state) {scope : String} {place : Nat}
    (mapped : ∀ other task, state.tasks other = some task →
      task.scope = scope → task.phase ≠ .done → task.lock = place) :
    Shared (createTask state number scope place) := by
  intro first second one two foundOne foundTwo same liveOne liveTwo
  rcases tasks_createTask_eq_some foundOne with ⟨-, rfl⟩ | ⟨-, oldOne⟩ <;>
    rcases tasks_createTask_eq_some foundTwo with ⟨-, rfl⟩ | ⟨-, oldTwo⟩
  · rfl
  · exact (mapped second two oldTwo same.symm liveTwo).symm
  · exact mapped first one oldOne same liveOne
  · exact shared first second one two oldOne oldTwo same liveOne liveTwo

namespace Locked

theorem empty : Locked { } :=
  ⟨fun _ => .empty, by rintro place number ⟨waiter, ⟨⟩, -⟩, by simp, by simp⟩

theorem createTask (locked : Locked state) (fresh : state.tasks number = none)
    (scope : String) (place : Nat) :
    Locked (createTask state number scope place) := by
  refine ⟨locked.orderly, ?_, ?_, ?_⟩
  · intro place other waits
    obtain ⟨there, found, rest⟩ := locked.waits place other waits
    have different : other ≠ number := by
      rintro rfl
      rw [fresh] at found
      cases found
    exact ⟨there, (Function.update_of_ne different _ _).trans found, rest⟩
  · intro other there found sending
    rcases tasks_createTask_eq_some found with ⟨-, rfl⟩ | ⟨-, old⟩
    · cases sending
    · exact locked.held other there old sending
  · intro first second one two foundOne foundTwo sendingOne sendingTwo
    rcases tasks_createTask_eq_some foundOne with ⟨-, rfl⟩ | ⟨-, oldOne⟩
    · cases sendingOne
    · rcases tasks_createTask_eq_some foundTwo with ⟨-, rfl⟩ | ⟨-, oldTwo⟩
      · cases sendingTwo
      · exact locked.alone first second one two oldOne oldTwo sendingOne sendingTwo

/-- A task moves and changes its lock: whoever waits has waited before or is
this task, a task that starts finds the lock free and takes it, and only the
task that holds the lock gives it back. -/
theorem move (locked : Locked state) (found : state.tasks number = some task)
    (orderly : lock.Orderly)
    (waits : ∀ other, lock.Waits other → other ≠ number ∧ (state.locks task.lock).Waits other ∨
        other = number ∧ phase = .waiting)
    (takes : phase = .sending → lock.locked = true ∧ (state.locks task.lock).locked = false)
    (keeps : (state.locks task.lock).locked = true → lock.locked = true ∨ task.phase = .sending) :
    Locked (state.move number task phase lock) := by
  refine ⟨?_, ?_, ?_, ?_⟩
  · intro place
    rw [locks_move]
    split
    · exact orderly
    · exact locked.orderly place
  · intro place other stands
    rw [locks_move] at stands
    rw [tasks_move]
    split at stands
    · rename_i here
      rcases waits other stands with ⟨different, before⟩ | ⟨same, waiting⟩
      · rw [if_neg different, here]
        exact locked.waits _ other before
      · rw [if_pos same]
        exact ⟨_, rfl, here.symm, waiting⟩
    · rename_i elsewhere
      obtain ⟨there, known, rfl, waiting⟩ := locked.waits place other stands
      have different : other ≠ number := by
        rintro rfl
        rw [found, Option.some.injEq] at known
        exact elsewhere (congrArg ScopeTask.lock known.symm)
      rw [if_neg different]
      exact ⟨there, known, rfl, waiting⟩
  · intro other there known sending
    rw [locks_move]
    rcases tasks_move_eq_some known with ⟨rfl, rfl⟩ | ⟨different, old⟩
    · rw [if_pos rfl]
      exact (takes sending).1
    · have held := locked.held other there old sending
      split
      · rename_i here
        rw [here] at held
        rcases keeps held with still | holder
        · exact still
        · exact absurd (locked.alone other number there task old found sending holder here)
            different
      · exact held
  · intro first second one two foundOne foundTwo sendingOne sendingTwo same
    -- a task that starts has found the lock free
    have free (other : Nat) (there : ScopeTask) (starts : phase = .sending)
        (old : state.tasks other = some there) (sends : there.phase = .sending)
        (here : there.lock = task.lock) : False := by
      have held := locked.held other there old sends
      rw [here, (takes starts).2] at held
      cases held
    rcases tasks_move_eq_some foundOne with ⟨rfl, rfl⟩ | ⟨-, oldOne⟩ <;>
      rcases tasks_move_eq_some foundTwo with ⟨rfl, rfl⟩ | ⟨-, oldTwo⟩
    · rfl
    · exact (free second two sendingOne oldTwo sendingTwo same.symm).elim
    · exact (free first one sendingTwo oldOne sendingOne same).elim
    · exact locked.alone first second one two oldOne oldTwo sendingOne sendingTwo same

end Locked

end Locks

section Order

/-- The task is going to send its item, unless it is cancelled. -/
def State.Pending (state : State) (number : Nat) (task : ScopeTask) : Prop :=
  state.tasks number = some task ∧ (task.phase = .created false ∨
      (state.locks task.lock).WaitsLive number)

/-- The items of a scope that have started are ahead of the pending ones. -/
structure Ordered (state : State) : Prop where
  entered : ∀ number ∈ state.started, ∃ task, state.tasks number = some task ∧
      (task.phase = .sending ∨ task.phase = .done)
  behind : ∀ number ∈ state.started, ∀ other task,
    state.Pending other task → state.scopeOf number = some task.scope → number < other
  inOrder : state.started.Pairwise fun first second =>
    state.scopeOf first = state.scopeOf second → first < second

variable {state : State} {number : Nat} {task : ScopeTask} {phase : Phase}
variable {lock : FairLock Nat}

theorem scopeOf_move (found : state.tasks number = some task) (other : Nat) :
    (state.move number task phase lock).scopeOf other =
      state.scopeOf other := by
  rw [State.scopeOf, State.scopeOf, tasks_move]
  split
  · rename_i same
    rw [same, found, Option.map_some, Option.map_some]
  · rfl

namespace Ordered

theorem empty : Ordered { } := ⟨by simp, by simp, .nil⟩

theorem move (ordered : Ordered state) (found : state.tasks number = some task)
    (created : phase = .created false → task.phase = .created false)
    (live : ∀ other, lock.WaitsLive other → (state.locks task.lock).WaitsLive other ∨
        other = number ∧ task.phase = .created false)
    (late : task.phase = .sending ∨ task.phase = .done → phase = .sending ∨ phase = .done) :
    Ordered (state.move number task phase lock) := by
  have pending (other : Nat) (there : ScopeTask)
      (waits : (state.move number task phase lock).Pending other there) :
      ∃ before, state.Pending other before ∧ before.scope = there.scope := by
    obtain ⟨known, waits⟩ := waits
    rw [locks_move] at waits
    rcases tasks_move_eq_some known with ⟨rfl, rfl⟩ | ⟨different, old⟩
    · refine ⟨task, ⟨found, ?_⟩, rfl⟩
      rw [if_pos rfl] at waits
      rcases waits with fresh | waits
      · exact .inl (created fresh)
      · rcases live other waits with before | ⟨-, fresh⟩
        · exact .inr before
        · exact .inl fresh
    · refine ⟨there, ⟨old, ?_⟩, rfl⟩
      rcases waits with fresh | waits
      · exact .inl fresh
      · right
        split at waits
        · rename_i here
          rw [here]
          exact (live other waits).resolve_right fun self =>
            different self.1
        · exact waits
  refine ⟨?_, ?_, ?_⟩
  · intro other member
    obtain ⟨there, known, entered⟩ := ordered.entered other member
    rw [tasks_move]
    split
    · rename_i same
      rw [same, found, Option.some.injEq] at known
      exact ⟨_, rfl, late (known ▸ entered)⟩
    · exact ⟨there, known, entered⟩
  · intro other member later there waits same
    rw [scopeOf_move found] at same
    obtain ⟨before, waited, scope⟩ := pending later there waits
    exact ordered.behind other member later before waited (scope ▸ same)
  · change state.started.Pairwise _
    simpa only [scopeOf_move found] using ordered.inOrder

theorem start (ordered : Ordered state)
    (found : state.tasks number = some task) (sending : task.phase = .sending)
    (last : ∀ other ∈ state.started, state.scopeOf other = some task.scope → other < number)
    (first : ∀ other there, state.Pending other there → there.scope = task.scope → number < other) :
    Ordered (state.start number) := by
  have scope : state.scopeOf number = some task.scope := by
    rw [State.scopeOf, found, Option.map_some]
  refine ⟨?_, ?_, ?_⟩
  · intro other member
    rcases List.mem_append.mp member with old | new
    · exact ordered.entered other old
    · obtain rfl := List.mem_singleton.mp new
      exact ⟨task, found, .inl sending⟩
  · intro other member later there waits same
    rcases List.mem_append.mp member with old | new
    · exact ordered.behind other old later there waits same
    · obtain rfl := List.mem_singleton.mp new
      have scopes := same.symm.trans scope
      exact first later there waits (Option.some.inj scopes)
  · refine List.pairwise_append.mpr ⟨ordered.inOrder, List.pairwise_singleton _ _, ?_⟩
    intro other member second new
    obtain rfl := List.mem_singleton.mp new
    intro same
    exact last other member (same.trans scope)

/-- A new task is behind everything that has started. -/
theorem createTask (ordered : Ordered state) (fresh : state.tasks number = none)
    (last : ∀ other task, state.tasks other = some task →
      task.phase.isCreated = false → other < number)
    (scope : String) (place : Nat) :
    Ordered (createTask state number scope place) := by
  have started (other : Nat) (member : other ∈ state.started) : other < number ∧
        (OutboundDispatcher.createTask state number scope place).tasks other =
          state.tasks other := by
    obtain ⟨there, known, entered⟩ := ordered.entered other member
    have before := last other there known
      (by rcases entered with phase | phase <;> rw [phase] <;> rfl)
    refine ⟨before, ?_⟩
    exact Function.update_of_ne (Nat.ne_of_lt before) _ _
  have scopes (other : Nat) (member : other ∈ state.started) :
      (OutboundDispatcher.createTask state number scope place).scopeOf other =
        state.scopeOf other :=
    congrArg (Option.map ScopeTask.scope) (started other member).2
  refine ⟨?_, ?_, ?_⟩
  · intro other member
    rw [(started other member).2]
    exact ordered.entered other member
  · intro other member later there waits same
    rw [scopes other member] at same
    obtain ⟨known, waits⟩ := waits
    rcases tasks_createTask_eq_some known with ⟨rfl, -⟩ | ⟨-, old⟩
    · exact (started other member).1
    · exact ordered.behind other member later there ⟨old, waits⟩ same
  · refine ordered.inOrder.imp_of_mem ?_
    intro first second memberFirst memberSecond before same
    rw [scopes first memberFirst, scopes second memberSecond] at same
    exact before same

end Ordered

end Order

section Steps

/-- The invariant of the runs in which the locks are kept. -/
structure Inv (state : State) : Prop where
  lined : Lined state
  locked : Locked state
  shared : Shared state
  ordered : Ordered state

variable {state after : State} {number : Nat} {task : ScopeTask}

theorem Locked.requeue (locked : Locked state) (enqueued : Nat)
    (queue : List (Nat × Option Message)) (scopeLocks : List (String × Nat))
    (created : Nat) (ready : List Nat) :
    Locked { state with
      enqueued := enqueued
      queue := queue
      scopeLocks := scopeLocks
      created := created
      ready := ready } :=
  ⟨locked.orderly, locked.waits, locked.held, locked.alone⟩

theorem Ordered.requeue (ordered : Ordered state) (enqueued : Nat)
    (queue : List (Nat × Option Message)) (scopeLocks : List (String × Nat))
    (created : Nat) (ready : List Nat) :
    Ordered { state with
      enqueued := enqueued
      queue := queue
      scopeLocks := scopeLocks
      created := created
      ready := ready } :=
  ⟨ordered.entered, ordered.behind, ordered.inOrder⟩

theorem Lined.remap (lined : Lined state) (scopeLocks : List (String × Nat)) (created : Nat) :
    Lined { state with scopeLocks := scopeLocks, created := created } :=
  ⟨lined.sorted, lined.bounded, lined.known, lined.due, lined.begun⟩

theorem Inv.remap (inv : Inv state) (scopeLocks : List (String × Nat)) (created : Nat) :
    Inv { state with scopeLocks := scopeLocks, created := created } :=
  ⟨inv.lined.remap _ _, inv.locked.requeue _ _ _ _ _, inv.shared, inv.ordered.requeue _ _ _ _ _⟩

theorem Inv.serialized (inv : Inv state) : Serialized state where
  inOrder := inv.ordered.inOrder
  alone := by
    intro first second one two foundOne foundTwo sendingOne sendingTwo same
    have lock := inv.shared first second one two foundOne foundTwo same
      (by rw [sendingOne]; simp) (by rw [sendingTwo]; simp)
    exact inv.locked.alone first second one two foundOne foundTwo sendingOne sendingTwo lock

theorem workerLoop_eq (state : State) (number : Nat) (msg : Message) :
    ∃ scopeLocks created, workerLoop state (number, some msg) =
      { createTask state number msg.scope (setdefault state msg.scope).1 with
        scopeLocks := scopeLocks
        created := created } := by
  obtain ⟨scopeLocks, created, kept⟩ : ∃ scopeLocks created, (setdefault state msg.scope).2 =
        { state with scopeLocks := scopeLocks, created := created } := by
    unfold setdefault
    split <;> exact ⟨_, _, rfl⟩
  have unfolded : workerLoop state (number, some msg) =
      let spawned := createTask (setdefault state msg.scope).2 number msg.scope
        (setdefault state msg.scope).1
      if spawned.scopeLocks.length > scopeReapThreshold then
        reapScopeLocks spawned
      else spawned := rfl
  rw [unfolded, kept]
  dsimp only
  split <;> exact ⟨_, _, rfl⟩

theorem Inv.work (inv : Inv state) {msg : Message} {queue : List (Nat × Option Message)}
    (head : state.queue = (number, some msg) :: queue)
    (mapped : UsesMappedLock state msg) :
    Inv (workerLoop { state with queue := queue } (number, some msg)) := by
  obtain ⟨scopeLocks, created, same⟩ :=
    workerLoop_eq { state with queue := queue } number msg
  rw [same]
  apply Inv.remap
  have here : number ∈ state.line := by simp [State.line, head]
  have fresh : state.tasks number = none := by
    by_contra known
    obtain ⟨task, found⟩ := Option.ne_none_iff_exists'.mp known
    cases phase : task.phase.isCreated with
    | true =>
      -- the tasks that have not begun are ahead of the queue
      have due := inv.lined.due number task found phase
      have sorted := inv.lined.sorted
      rw [State.line, head, List.map_cons] at sorted
      exact Nat.lt_irrefl number ((List.pairwise_append.mp sorted).2.2
        number due number List.mem_cons_self)
    | false =>
      exact Nat.lt_irrefl number (inv.lined.begun number task found phase number here)
  refine ⟨inv.lined.createTask head _ _, ?_, ?_, ?_⟩
  · exact (inv.locked.requeue state.enqueued queue state.scopeLocks
      state.created state.ready).createTask fresh _ _
  · have shared : Shared { state with queue := queue } := inv.shared
    apply shared.createTask
    intro other task found scope unfinished
    have lock := mapped other (inv.lined.known other task found) task found scope unfinished
    simp [setdefault, lock]
  · apply (inv.ordered.requeue state.enqueued queue state.scopeLocks
      state.created state.ready).createTask fresh
    intro other task found begun
    exact inv.lined.begun other task found begun number here

theorem Locked.ne_of_waits (locked : Locked state)
    (found : state.tasks number = some task) (elsewhere : task.phase ≠ .waiting)
    {place other : Nat} (waits : (state.locks place).Waits other) :
    other ≠ number := by
  rintro rfl
  obtain ⟨there, known, -, waiting⟩ := locked.waits place other waits
  rw [found, Option.some.injEq] at known
  exact elsewhere (known ▸ waiting)

/-- A task that starts is ahead of the pending ones of its scope, if it is
ahead of the waiters of its lock and of the tasks that have not begun. -/
theorem Locked.lt_of_pending (locked : Locked state) (shared : Shared state)
    (found : state.tasks number = some task) (unfinished : task.phase ≠ .done)
    {lock : FairLock Nat}
    (waiters : ∀ other, lock.WaitsLive other → number < other)
    (created : ∀ other there, state.tasks other = some there →
      there.phase = .created false → other ≠ number → number < other)
    {other : Nat} {there : ScopeTask}
    (pending : (state.move number task .sending lock).Pending other there)
    (scope : there.scope = task.scope) : number < other := by
  obtain ⟨known, waits⟩ := pending
  rw [locks_move] at waits
  rcases tasks_move_eq_some known with ⟨rfl, rfl⟩ | ⟨different, old⟩
  · rw [if_pos rfl] at waits
    exact waits.elim (by rintro ⟨⟩) (waiters other)
  · rcases waits with fresh | waits
    · exact created other there old fresh different
    · split at waits
      · exact waiters other waits
      · rename_i elsewhere
        obtain ⟨same, known, -, waiting⟩ := locked.waits _ other waits.waits
        rw [old, Option.some.injEq] at known
        have live : there.phase ≠ .done := by
          rw [known, waiting]
          simp
        exact absurd (shared other number there task old found scope live unfinished)
          elsewhere

theorem Inv.start (inv : Inv state) (ordered : Ordered (state.start number)) :
    Inv (state.start number) where
  lined := ⟨inv.lined.sorted, inv.lined.bounded, inv.lined.known, inv.lined.due, inv.lined.begun⟩
  locked := ⟨inv.locked.orderly, inv.locked.waits, inv.locked.held, inv.locked.alone⟩
  shared := inv.shared
  ordered := ordered

theorem Lined.lt_of_created (lined : Lined state) {ready : List Nat}
    (head : state.ready = number :: ready) {other : Nat} {there : ScopeTask}
    (known : state.tasks other = some there)
    (created : there.phase.isCreated = true) (different : other ≠ number) :
    number < other := by
  have member := lined.due other there known created
  rw [head] at member
  have sorted := lined.sorted
  rw [State.line, head, List.cons_append] at sorted
  exact (List.pairwise_cons.mp sorted).1 other (List.mem_append_left _
    ((List.mem_cons.mp member).resolve_left different))

theorem Inv.begin_cancelled (inv : Inv state) {ready : List Nat}
    (head : state.ready = number :: ready)
    (found : state.tasks number = some task)
    (created : task.phase = .created true) :
    Inv (({ state with ready := ready } : State).move number task .done
      (state.locks task.lock)) := by
  refine ⟨inv.lined.begin head found rfl, ?_, ?_, ?_⟩
  · apply (inv.locked.requeue state.enqueued state.queue state.scopeLocks
      state.created ready).move found (inv.locked.orderly _)
    · intro other waits
      exact .inl ⟨inv.locked.ne_of_waits found (by rw [created]; simp) waits,
        waits⟩
    · rintro ⟨⟩
    · exact .inl
  · have shared : Shared { state with ready := ready } := inv.shared
    exact shared.move found (by rw [created]; simp)
  · apply (inv.ordered.requeue state.enqueued state.queue state.scopeLocks
      state.created ready).move found
    · rintro ⟨⟩
    · exact fun other live => .inl live
    · exact fun _ => .inr rfl

theorem Inv.begin_acquire (inv : Inv state) {ready : List Nat}
    (head : state.ready = number :: ready)
    (found : state.tasks number = some task)
    (created : task.phase = .created false) {phase : Phase}
    (enters : phase = if ((state.locks task.lock).acquire number).1 then .sending
      else .waiting) :
    Inv (({ state with ready := ready } : State).move number task phase
      ((state.locks task.lock).acquire number).2) := by
  have unfinished : task.phase ≠ .done := by rw [created]; simp
  have begun : phase.isCreated = false := by
    rw [enters]
    split <;> rfl
  have here : number ∈ state.line := by simp [State.line, head]
  refine ⟨inv.lined.begin head found begun, ?_, ?_, ?_⟩
  · apply (inv.locked.requeue state.enqueued state.queue state.scopeLocks
      state.created ready).move found
    · apply (inv.locked.orderly _).acquire
      intro other waits
      obtain ⟨there, known, -, waiting⟩ := inv.locked.waits _ other waits
      exact inv.lined.begun other there known (by rw [waiting]; rfl) number here
    · intro other waits
      rcases FairLock.waits_acquire waits with old | ⟨same, refused⟩
      · exact .inl ⟨inv.locked.ne_of_waits found (by rw [created]; simp) old,
          old⟩
      · exact .inr ⟨same, by rw [enters, refused]; rfl⟩
    · intro sending
      have taken : ((state.locks task.lock).acquire number).1 = true := by
        by_contra refused
        rw [enters, if_neg refused] at sending
        cases sending
      refine ⟨?_, (FairLock.locked_of_acquire taken).1⟩
      rw [FairLock.locked_acquire, taken, Bool.or_true]
    · intro locked
      left
      rw [FairLock.locked_acquire]
      exact (Bool.or_eq_true _ _).mpr (.inl locked)
  · have shared : Shared { state with ready := ready } := inv.shared
    exact shared.move found unfinished
  · apply (inv.ordered.requeue state.enqueued state.queue state.scopeLocks
      state.created ready).move found
    · exact fun _ => created
    · intro other live
      rcases FairLock.waitsLive_acquire live with old | same
      · exact .inl old
      · exact .inr ⟨same, created⟩
    · rw [created]
      rintro (⟨⟨⟩⟩ | ⟨⟨⟩⟩)

theorem Inv.begin (inv : Inv state) {ready : List Nat} (head : state.ready = number :: ready)
    (found : state.tasks number = some task)
    (stepTo : begin { state with ready := ready } number task = some after) :
    Inv after := by
  unfold OutboundDispatcher.begin at stepTo
  split at stepTo
  · rename_i created
    cases stepTo
    exact inv.begin_cancelled head found created
  · rename_i created
    split at stepTo
    · rename_i lock acquired
      cases stepTo
      have taken : ((state.locks task.lock).acquire number).1 = true :=
        congrArg Prod.fst acquired
      have left : ((state.locks task.lock).acquire number).2 = lock :=
        congrArg Prod.snd acquired
      have moved := inv.begin_acquire head found created (if_pos taken).symm
      rw [left] at moved
      apply moved.start
      apply moved.ordered.start ((tasks_move number).trans (if_pos rfl)) rfl
      · intro other member same
        have kept : ({ state with ready := ready } : State).tasks number =
            some task := found
        rw [scopeOf_move kept] at same
        exact inv.ordered.behind other member number task ⟨found, .inl created⟩ same
      · intro other there pending scope
        have kept := inv.locked.requeue state.enqueued state.queue
          state.scopeLocks state.created ready
        refine kept.lt_of_pending inv.shared found (by rw [created]; simp) ?_ ?_
          pending scope
        · intro other live
          rw [← left] at live
          exact absurd live (FairLock.not_waitsLive_acquire taken)
        · intro other there known fresh different
          exact inv.lined.lt_of_created head known (by rw [fresh]; rfl)
            different
    · rename_i lock acquired
      cases stepTo
      have refused : ((state.locks task.lock).acquire number).1 = false :=
        congrArg Prod.fst acquired
      have left : ((state.locks task.lock).acquire number).2 = lock :=
        congrArg Prod.snd acquired
      have moved := inv.begin_acquire head found created (if_neg (by rw [refused]; simp)).symm
      rw [left] at moved
      exact moved
  · cases stepTo

theorem Inv.resume_move (inv : Inv state)
    (found : state.tasks number = some task) {waiter : Waiter Nat}
    (member : waiter ∈ (state.locks task.lock).waiters)
    (own : waiter.task = number) (done : waiter.future ≠ .pending)
    {phase : Phase}
    (enters : phase = if ((state.locks task.lock).resume waiter).1 then .sending
      else .done) :
    Inv (state.move number task phase ((state.locks task.lock).resume waiter).2) := by
  subst own
  have waiting : task.phase = .waiting := by
    obtain ⟨there, known, -, waiting⟩ := inv.locked.waits _ waiter.task ⟨waiter, member, rfl⟩
    rw [found, Option.some.injEq] at known
    exact known ▸ waiting
  have orderly := inv.locked.orderly task.lock
  refine ⟨inv.lined.move found ?_, ?_, inv.shared.move found ?_, ?_⟩
  · rw [enters, waiting]
    split <;> rfl
  · apply inv.locked.move found (orderly.resume member done)
    · intro other waits
      obtain ⟨old, different⟩ := FairLock.waits_resume.mp waits
      exact .inl ⟨different, old⟩
    · intro sending
      have taken : ((state.locks task.lock).resume waiter).1 = true := by
        by_contra refused
        rw [enters, if_neg refused] at sending
        cases sending
      refine ⟨?_, (orderly.locked_of_resume member done taken).1⟩
      rw [FairLock.locked_resume, taken, Bool.or_true]
    · intro locked
      left
      rw [FairLock.locked_resume]
      exact (Bool.or_eq_true _ _).mpr (.inl locked)
  · rw [waiting]
    simp
  · apply inv.ordered.move found
    · intro created
      rw [enters] at created
      split at created <;> cases created
    · exact fun other live => .inl (FairLock.waitsLive_resume live)
    · rw [waiting]
      rintro (⟨⟨⟩⟩ | ⟨⟨⟩⟩)

theorem Inv.resume (inv : Inv state) (found : state.tasks number = some task) {waiter : Waiter Nat}
    (member : waiter ∈ (state.locks task.lock).waiters)
    (own : waiter.task = number) (done : waiter.future ≠ .pending) :
    Inv (resume state number task waiter) := by
  unfold OutboundDispatcher.resume
  split
  · rename_i lock resumed
    have taken : ((state.locks task.lock).resume waiter).1 = true :=
      congrArg Prod.fst resumed
    have left : ((state.locks task.lock).resume waiter).2 = lock :=
      congrArg Prod.snd resumed
    have moved := inv.resume_move found member own done (if_pos taken).symm
    rw [left] at moved
    have orderly := inv.locked.orderly task.lock
    have live : (state.locks task.lock).WaitsLive number :=
      ⟨waiter, member, own, FairLock.Orderly.live_of_resume done taken⟩
    obtain ⟨there, known, -, waiting⟩ := inv.locked.waits _ _ live.waits
    obtain rfl := Option.some.inj (found.symm.trans known)
    apply moved.start
    apply moved.ordered.start ((tasks_move number).trans (if_pos rfl)) rfl
    · intro other started same
      rw [scopeOf_move found] at same
      exact inv.ordered.behind other started number task ⟨found, .inr live⟩ same
    · intro other there pending scope
      refine inv.locked.lt_of_pending inv.shared found (by rw [waiting]; simp)
        ?_ ?_ pending scope
      · intro other behind
        rw [← left] at behind
        obtain ⟨old, different⟩ := FairLock.waits_resume.mp behind.waits
        exact own ▸ (orderly.locked_of_resume member done taken).2 other old different
      · intro other there known fresh different
        have due := inv.lined.due other there known (by rw [fresh]; rfl)
        exact inv.lined.begun number task found (by rw [waiting]; rfl) other
          (List.mem_append_left _ due)
  · rename_i lock resumed
    have refused : ((state.locks task.lock).resume waiter).1 = false :=
      congrArg Prod.fst resumed
    have left : ((state.locks task.lock).resume waiter).2 = lock :=
      congrArg Prod.snd resumed
    have moved := inv.resume_move found member own done (if_neg (by rw [refused]; simp)).symm
    rw [left] at moved
    exact moved

theorem Inv.finish (inv : Inv state) (found : state.tasks number = some task)
    (sending : task.phase = .sending) :
    Inv (state.move number task .done (state.locks task.lock).release) := by
  refine ⟨inv.lined.move found ?_, ?_, inv.shared.move found ?_, ?_⟩
  · rw [sending]
    rfl
  · apply inv.locked.move found (inv.locked.orderly _).release
    · intro other waits
      have old := FairLock.waits_release.mp waits
      exact .inl ⟨inv.locked.ne_of_waits found (by rw [sending]; simp) old,
        old⟩
    · rintro ⟨⟩
    · exact fun _ => .inr sending
  · rw [sending]
    simp
  · apply inv.ordered.move found
    · rintro ⟨⟩
    · exact fun other live => .inl (FairLock.waitsLive_release.mp live)
    · exact fun _ => .inr rfl

theorem Inv.cancel (inv : Inv state) (found : state.tasks number = some task) :
    Inv (cancel state number task) := by
  unfold OutboundDispatcher.cancel
  split
  · rename_i mustCancel created
    refine ⟨inv.lined.move found (by rw [created]; rfl), ?_,
      inv.shared.move found (by rw [created]; simp), ?_⟩
    · apply inv.locked.move found (inv.locked.orderly _)
      · intro other waits
        exact .inl ⟨inv.locked.ne_of_waits found (by rw [created]; simp) waits,
          waits⟩
      · rintro ⟨⟩
      · exact .inl
    · apply inv.ordered.move found
      · rintro ⟨⟩
      · exact fun other live => .inl live
      · rw [created]
        rintro (⟨⟨⟩⟩ | ⟨⟨⟩⟩)
  · rename_i waiting
    refine ⟨inv.lined.move found (by rw [waiting]), ?_,
      inv.shared.move found (by rw [waiting]; simp), ?_⟩
    · apply inv.locked.move found ((inv.locked.orderly _).cancel number)
      · intro other waits
        by_cases same : other = number
        · exact .inr ⟨same, rfl⟩
        · exact .inl ⟨same, FairLock.waits_cancel.mp waits⟩
      · rintro ⟨⟩
      · exact .inl
    · apply inv.ordered.move found
      · rintro ⟨⟩
      · exact fun other live => .inl (FairLock.waitsLive_cancel live)
      · rw [waiting]
        rintro (⟨⟨⟩⟩ | ⟨⟨⟩⟩)
  · exact inv
  · exact inv

theorem Inv.step (inv : Inv state) {maxsize : Int} {action : Action} (kept : LocksKept state action)
    (stepTo : step maxsize state action = some after) : Inv after := by
  cases action with
  | enqueue msg =>
    cases stepTo
    exact ⟨inv.lined.enqueue maxsize msg, inv.locked.requeue _ _ _ _ _,
      inv.shared, inv.ordered.requeue _ _ _ _ _⟩
  | work =>
    cases head : state.queue with
    | nil =>
      simp only [OutboundDispatcher.step, head] at stepTo
      cases stepTo
    | cons item queue =>
      simp only [OutboundDispatcher.step, head, Option.some.injEq]
        at stepTo
      subst stepTo
      obtain ⟨number, msg⟩ := item
      cases msg with
      | none =>
        exact ⟨inv.lined.skip head, inv.locked.requeue _ _ _ _ _,
          inv.shared, inv.ordered.requeue _ _ _ _ _⟩
      | some msg =>
        exact inv.work head (kept _ (by rw [head]; rfl) msg rfl)
  | begin =>
    cases head : state.ready with
    | nil =>
      simp only [OutboundDispatcher.step, head] at stepTo
      cases stepTo
    | cons number ready =>
      simp only [OutboundDispatcher.step, head] at stepTo
      obtain ⟨task, found, stepTo⟩ := Option.bind_eq_some_iff.mp stepTo
      exact inv.begin head found stepTo
  | resume number =>
    obtain ⟨task, found, stepTo⟩ := Option.bind_eq_some_iff.mp stepTo
    obtain ⟨waiter, stands, rfl⟩ := Option.map_eq_some_iff.mp stepTo
    have done := List.find?_some stands
    simp only [decide_eq_true_eq] at done
    exact inv.resume found (List.mem_of_find?_eq_some stands) done.1 done.2
  | finish number =>
    obtain ⟨task, found, stepTo⟩ := Option.bind_eq_some_iff.mp stepTo
    split at stepTo <;> cases stepTo
    exact inv.finish found (by assumption)
  | cancel number =>
    obtain ⟨task, found, rfl⟩ := Option.map_eq_some_iff.mp stepTo
    exact inv.cancel found
  | stop =>
    cases stepTo
    exact inv.remap _ _

end Steps

/-- In every run in which the worker never takes an item of a scope while an
unfinished task of the scope has lost its lock, the items of every scope are
sent one at a time and in the order in which they were enqueued. -/
theorem serialized_of_locksKept (maxsize : Int) (state : State)
    (reached : (dispatcher maxsize).ReachableWithin LocksKept state) :
    Serialized state := by
  apply Inv.serialized
  apply reached.invariant
  · rintro _ rfl
    exact ⟨.empty, .empty, by rintro first second one two ⟨⟩, .empty⟩
  · exact fun state action after inv kept stepTo => inv.step kept stepTo

/-- Two items of one scope and one of another; the second one waits and is
cancelled, and the next item of its scope is sent after the first. -/
theorem serialized_of_two_scopes : ∃ state, (dispatcher 50).ReachableWithin LocksKept state ∧
      state.started = [0, 2, 3] ∧ Serialized state := by
  have found : ∃ state, (dispatcher 50).ReachableWithin LocksKept state ∧
      state.started = [0, 2, 3] :=
    TransitionSystem.exists_reachableWithin_of_checkedRun { } rfl
      [.enqueue (some { scopeId := "chat:1", id := "a" }),
        .enqueue (some { scopeId := "chat:1", id := "b" }), .work, .work,
        .begin, .enqueue (some { scopeId := "", id := "c" }), .work, .begin,
        .begin, .enqueue (some { scopeId := "chat:1", id := "d" }),
        .enqueue none, .work, .work, .begin, .cancel 1, .finish 0, .resume 1,
        .stop, .resume 3, .finish 2]
      (by decide)
  obtain ⟨state, reached, started⟩ := found
  exact ⟨state, reached, started, serialized_of_locksKept 50 state reached⟩

section Reaped

/-- A message of the scope with this number. -/
def message (place : Nat) : Message where
  scopeId := String.ofList (List.replicate (place + 1) 'a')
  id := ""

theorem scope_message_inj {one other : Nat}
    (same : (message one).scope = (message other).scope) : one = other := by
  have scope (place : Nat) : (message place).scope =
      String.ofList (List.replicate (place + 1) 'a') := by
    simp [Message.scope, message, List.replicate_succ]
  rw [scope, scope, String.ofList_inj] at same
  simpa using congrArg List.length same

/-- One item of each of the first scopes has been sent. -/
def served (count : Nat) : State where
  enqueued := count
  scopeLocks := (List.range count).map fun place =>
    ((message place).scope, place)
  created := count
  tasks number :=
    if number < count then
      some { scope := (message number).scope, lock := number, phase := .done }
    else none
  started := List.range count

theorem lookup_served (count : Nat) :
    (served count).scopeLocks.lookup (message count).scope = none := by
  rw [List.lookup_eq_none_iff]
  intro entry member
  obtain ⟨place, earlier, rfl⟩ := List.mem_map.mp member
  rw [bne_iff_ne]
  intro same
  have := scope_message_inj same
  have := List.mem_range.mp earlier
  omega

/-- The item of the next scope is on its way. -/
def serving (count : Nat) (phase : Phase) (locked : Bool) : State :=
  { served count with
    enqueued := count + 1
    scopeLocks := (served (count + 1)).scopeLocks
    created := count + 1
    tasks := Function.update (served count).tasks count (some
        { scope := (message count).scope
          lock := count
          phase := phase })
    locks := Function.update (fun _ => { }) count { locked := locked } }

theorem work_served {count : Nat} (few : count < scopeReapThreshold) :
    step 50 (enqueue 50 (served count) (some (message count))) .work =
      some { serving count (.created false) false with ready := [count] } := by
  have absent := lookup_served count
  have room : ¬ count + 1 > scopeReapThreshold := by omega
  simp only [step, enqueue, maybeDropOldest, served, List.length_nil] at absent ⊢
  simp [workerLoop, setdefault, absent, createTask, serving, served, room, List.range_succ]

theorem begin_serving (count : Nat) :
    step 50 { serving count (.created false) false with ready := [count] }
      .begin = some ((serving count .sending true).start count) := by
  simp [step, serving, served, begin, State.move, State.start, FairLock.acquire]

theorem finish_serving (count : Nat) :
    step 50 ((serving count .sending true).start count) (.finish count) =
      some (served (count + 1)) := by
  have tasks : Function.update (served count).tasks count (some
        { scope := (message count).scope
          lock := count
          phase := .done }) = (served (count + 1)).tasks := by
    funext number
    rcases Nat.lt_trichotomy number count with earlier | rfl | later
    · have still : number < count + 1 := by omega
      simp only [served, Function.update_of_ne (Nat.ne_of_lt earlier), if_pos earlier, if_pos still]
    · simp [served]
    · have notYet : ¬ number < count := by omega
      have neither : ¬ number < count + 1 := by omega
      simp only [served, Function.update_of_ne (Nat.ne_of_gt later), if_neg notYet, if_neg neither]
  simp only [step, serving, State.start, Function.update_self, Option.bind_some,
    if_true, State.move, FairLock.release, FairLock.wakeUpFirst,
    Function.update_idem, Function.update_eq_self, tasks]
  simp [served, List.range_succ]

theorem run_served {count : Nat} (few : count < scopeReapThreshold) :
    (dispatcher 50).run (served count)
      [.enqueue (some (message count)), .work, .begin, .finish count] =
        some (served (count + 1)) := by
  simp only [TransitionSystem.run, dispatcher]
  rw [show step 50 (served count) (.enqueue (some (message count))) =
      some (enqueue 50 (served count) (some (message count))) from rfl,
    Option.bind_some, work_served few, Option.bind_some, begin_serving,
    Option.bind_some, finish_serving, Option.bind_some]

theorem reachable_served {count : Nat} (few : count ≤ scopeReapThreshold) :
    (dispatcher 50).Reachable (served count) := by
  induction count with
  | zero => exact .start rfl
  | succ count ih =>
    exact (ih (by omega)).of_run _ (run_served (by omega))

/-- Two items of the next scope have been enqueued, and the worker has taken
the first one. -/
def reaped : State :=
  let last := message scopeReapThreshold
  { createTask (served scopeReapThreshold) scopeReapThreshold last.scope scopeReapThreshold with
    enqueued := scopeReapThreshold + 2
    queue := [(scopeReapThreshold + 1, some last)]
    scopeLocks := []
    created := scopeReapThreshold + 1 }

theorem workerLoop_long {count : Nat} (long : count + 1 > scopeReapThreshold) : workerLoop
      { served count with
        enqueued := count + 2
        queue := [(count + 1, some (message count))] }
      (count, some (message count)) =
        { createTask (served count) count (message count).scope count with
          enqueued := count + 2
          queue := [(count + 1, some (message count))]
          scopeLocks := []
          created := count + 1 } := by
  have absent := lookup_served count
  have full : (served count).scopeLocks.length = count := by
    simp [served]
  simp only [workerLoop, setdefault, absent, createTask, reapScopeLocks,
    List.length_append, full, List.length_singleton, if_pos long]
  simp [served]

theorem workerLoop_served : workerLoop
      { served scopeReapThreshold with
        enqueued := scopeReapThreshold + 2
        queue := [(scopeReapThreshold + 1, some (message scopeReapThreshold))] }
      (scopeReapThreshold, some (message scopeReapThreshold)) = reaped :=
  workerLoop_long (Nat.lt_succ_self _)

theorem run_enqueued : (dispatcher 50).run (served scopeReapThreshold)
      [.enqueue (some (message scopeReapThreshold)),
        .enqueue (some (message scopeReapThreshold)), .work] = some reaped := by
  rw [← workerLoop_served]
  simp [TransitionSystem.run, dispatcher, step, enqueue, maybeDropOldest, served]

theorem run_reaped : ∃ after, (dispatcher 50).run reaped [.work, .begin, .begin] = some after ∧
      ∀ number, number = scopeReapThreshold ∨ number = scopeReapThreshold + 1 →
        after.tasks number = some
          { scope := (message scopeReapThreshold).scope
            lock := number
            phase := .sending } := by
  have bound : ¬ 1 > scopeReapThreshold := by decide
  refine ⟨_, rfl, ?_⟩
  rintro number (rfl | rfl) <;>
    simp [workerLoop, setdefault, createTask, reaped, served, bound, State.start, State.move]

end Reaped

/-- The lock of a scope is reaped before the task of its first item holds it.
-/
theorem exists_two_sending : ∃ state, (dispatcher 50).Reachable state ∧ ¬ Serialized state := by
  obtain ⟨after, runs, sending⟩ := run_reaped
  have reached := ((reachable_served (Nat.le_refl _)).of_run _ run_enqueued).of_run _ runs
  refine ⟨after, reached, fun serialized => ?_⟩
  have same := serialized.alone _ _ _ _ (sending _ (.inl rfl)) (sending _ (.inr rfl)) rfl rfl rfl
  cases same

end OutboundDispatcher

end RoxabiFactory

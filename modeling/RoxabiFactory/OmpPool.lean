import Mathlib.Data.Finset.Card
import RoxabiFactory.TransitionSystem

/-!
# The pool of omp workers

`OmpPool` hands out at most `cap` workers at a time.  A worker is a started
client with the system prompt it was started with; any free worker serves any
conversation after `switch_session`, and one with another prompt is stopped
and replaced.  `acquire` is suspended at every call of the client, so other
calls run in between, and each of these operations may fail.
-/

namespace RoxabiFactory

namespace OmpPool

/-- `_PoolWorker` with its client. -/
structure Worker where
  /-- `append_system_prompt` of the client's process. -/
  startedWith : String := ""
  systemPrompt : String := ""
  /-- The client is started and not yet stopped. -/
  running : Bool := false
  /-- The client's current session. -/
  session : Option String := none
  sessionFile : Option String := none
  deriving DecidableEq

/-- Where a call of `acquire` is suspended, and what became of it. -/
inductive Point
  | waiting
  /-- The semaphore has given a slot to the call, which has not run yet. -/
  | granted
  /-- In `client.stop` of `_dispose_worker`. -/
  | disposing (worker : Nat)
  /-- In `_start_worker`, before the client is constructed. -/
  | preparing (respawned : Bool)
  /-- In `client.start`. -/
  | launching (worker : Nat) (respawned : Bool)
  /-- In `bridge.attach`. -/
  | attaching (worker : Nat) (respawned : Bool)
  /-- In `client.stop` of the handler in `_start_worker`. -/
  | abandoning (worker : Nat)
  /-- In `client.switch_session`. -/
  | switching (worker : Nat)
  /-- In `client.new_session`. -/
  | renewing (worker : Nat)
  /-- In `client.get_state`. -/
  | reading (worker : Nat)
  | returned (worker : Nat)
  /-- The caller has released the worker. -/
  | released (worker : Nat)
  | failed
  deriving DecidableEq

/-- A call `acquire(session_file, system_prompt=system_prompt)`. -/
structure Call where
  sessionFile : Option String
  systemPrompt : String
  point : Point := .waiting
  deriving DecidableEq

structure State where
  /-- `_sem._value`. -/
  slots : Nat
  free : List Nat := []
  checkedOut : Finset Nat := ∅
  /-- How many clients have been constructed. -/
  clients : Nat := 0
  workers : Nat → Worker := fun _ => {}
  calls : List Call := []

/-- How an operation of a client ends. -/
inductive Outcome
  | ok
  /-- An exception; `OSError` and `RuntimeError` are caught after `stop`. -/
  | raises (caught : Bool)
  deriving DecidableEq

def Outcome.isOk : Outcome → Bool
  | ok => true
  | raises _ => false

inductive Action
  | acquire (sessionFile : Option String) (systemPrompt : String)
  | grant (call : Nat)
  /-- The call is cancelled before it has run on its slot. -/
  | abort (call : Nat)
  | enter (call : Nat)
  /-- `running`: the client that could not be stopped runs on. -/
  | stopped (call : Nat) (outcome : Outcome) (running : Bool)
  | prepared (call : Nat) (outcome : Outcome)
  | launched (call : Nat) (outcome : Outcome)
  | attached (call : Nat) (outcome : Outcome)
  | switched (call : Nat) (outcome : Outcome)
  /-- `path`: what `get_state` will report of the new session. -/
  | renewed (call : Nat) (outcome : Outcome) (path : Option String)
  | read (call : Nat) (outcome : Outcome)
  | release (call : Nat)
  deriving DecidableEq

namespace State

def move (state : State) (index : Nat) (call : Call) (point : Point) : State :=
  { state with calls := state.calls.set index { call with point := point } }

def setWorker (state : State) (worker : Nat) (value : Worker) : State :=
  { state with workers := Function.update state.workers worker value }

@[simp]
theorem setWorker_workers_self (state : State) (worker : Nat) (value : Worker) :
    (state.setWorker worker value).workers worker = value :=
  Function.update_self ..

theorem setWorker_workers_of_ne (state : State) {worker other : Nat}
    (value : Worker) (ne : other ≠ worker) :
    (state.setWorker worker value).workers other = state.workers other :=
  Function.update_of_ne ne ..

/-- The handler of the first `try` of `acquire`. -/
def failStart (state : State) (index : Nat) (call : Call) : State :=
  ({ state with slots := state.slots + 1 } : State).move index call .failed

/-- The handler of the second `try` of `acquire`. -/
def failSession (state : State) (index : Nat) (call : Call) (worker : Nat) :
    State :=
  ({ state with
      checkedOut := state.checkedOut.erase worker
      slots := state.slots + 1 } : State).move index call .failed

/-- `_checked_out.add` and the choice of the session. -/
def checkOut (state : State) (index : Nat) (call : Call) (worker : Nat)
    (respawned : Bool) : State :=
  ({ state with
      checkedOut := insert worker state.checkedOut } : State).move index call
    (if respawned then .renewing worker
    else if call.sessionFile.isSome then .switching worker
    else .renewing worker)

/-- The end of `acquire`. -/
def finish (state : State) (index : Nat) (call : Call) (worker : Nat)
    (sessionFile : Option String) : State :=
  (state.setWorker worker
    { state.workers worker with
      sessionFile := sessionFile
      systemPrompt := call.systemPrompt }).move index call (.returned worker)

/-- `acquire` on its slot, up to the next suspension. -/
def enter (state : State) (index : Nat) (call : Call) : State :=
  match state.free.getLast? with
  | none => state.move index call (.preparing false)
  | some worker =>
    let popped := { state with free := state.free.dropLast }
    if call.systemPrompt = (state.workers worker).systemPrompt then
      popped.checkOut index call worker false
    else popped.move index call (.disposing worker)

/-- The client of a call is constructed, and `client.start` called. -/
def launch (state : State) (index : Nat) (call : Call) (respawned : Bool) :
    State :=
  (({ state with clients := state.clients + 1 } : State).setWorker
    state.clients
    { startedWith := call.systemPrompt
      systemPrompt := call.systemPrompt
      running := true }).move index call (.launching state.clients respawned)

/-- `client.stop` has returned or raised. -/
def stop (state : State) (worker : Nat) (running : Bool) : State :=
  state.setWorker worker { state.workers worker with running := running }

/-- `release(worker)`. -/
def release (state : State) (worker : Nat) : State :=
  if worker ∈ state.checkedOut then
    { state with
      checkedOut := state.checkedOut.erase worker
      free := if worker ∈ state.free then state.free
        else state.free ++ [worker]
      slots := state.slots + 1 }
  else state

end State

/-- The action of a call whose record is known. -/
def stepCall (state : State) (index : Nat) (call : Call) : Action → Option State
  | .grant _ =>
    match call.point, state.slots with
    | .waiting, slots + 1 =>
      some (({ state with slots := slots } : State).move index call .granted)
    | _, _ => none
  | .abort _ =>
    match call.point with
    | .waiting => some (state.move index call .failed)
    | .granted => some (state.failStart index call)
    | _ => none
  | .enter _ =>
    if call.point = .granted then some (state.enter index call) else none
  | .stopped _ outcome running =>
    match call.point with
    | .disposing worker =>
      let stopped := state.stop worker (running && !outcome.isOk)
      match outcome with
      | .ok | .raises true =>
        some (stopped.move index call (.preparing true))
      | .raises false => some (stopped.failStart index call)
    | .abandoning worker =>
      some ((state.stop worker (running && !outcome.isOk)).failStart index call)
    | _ => none
  | .prepared _ outcome =>
    match call.point with
    | .preparing respawned =>
      some (if outcome.isOk then state.launch index call respawned
        else state.failStart index call)
    | _ => none
  | .launched _ outcome =>
    match call.point with
    | .launching worker respawned =>
      some (state.move index call (if outcome.isOk then .attaching worker respawned
        else .abandoning worker))
    | _ => none
  | .attached _ outcome =>
    match call.point with
    | .attaching worker respawned =>
      some (if outcome.isOk then state.checkOut index call worker respawned
        else state.move index call (.abandoning worker))
    | _ => none
  | .switched _ outcome =>
    match call.point with
    | .switching worker =>
      some (if outcome.isOk then
          (state.setWorker worker
            { state.workers worker with
              session := call.sessionFile }).finish index call worker
            call.sessionFile
        else state.failSession index call worker)
    | _ => none
  | .renewed _ outcome path =>
    match call.point with
    | .renewing worker =>
      some (if outcome.isOk then
          (state.setWorker worker { state.workers worker with session := path }).move index call
            (.reading worker)
        else state.failSession index call worker)
    | _ => none
  | .read _ outcome =>
    match call.point with
    | .reading worker =>
      some (if outcome.isOk then
          state.finish index call worker (state.workers worker).session
        else state.failSession index call worker)
    | _ => none
  | .release _ =>
    match call.point with
    | .returned worker | .released worker =>
      some ((state.release worker).move index call (.released worker))
    | _ => none
  | .acquire _ _ => none

def Action.call : Action → Nat
  | .acquire _ _ => 0
  | .grant call | .abort call | .enter call | .stopped call _ _
  | .prepared call _ | .launched call _ | .attached call _
  | .switched call _ | .renewed call _ _ | .read call _ | .release call => call

def step (state : State) : Action → Option State
  | .acquire sessionFile systemPrompt =>
    some { state with
      calls := state.calls ++ [{ sessionFile, systemPrompt }] }
  | action =>
    (state.calls[action.call]?).bind fun call =>
      stepCall state action.call call action

/-- The runs of a pool with `OMP_POOL_CAP=cap`. -/
def pool (cap : Nat) : TransitionSystem State Action where
  initial state := state = { slots := cap }
  step := step

/-- The clients that are started and not yet stopped. -/
def State.running (state : State) : List Nat := (List.range state.clients).filter fun client =>
    (state.workers client).running

end OmpPool

end RoxabiFactory

import Mathlib
import RoxabiFactory.OutboundCircuitBreaker
import RoxabiFactory.TransitionSystem

/-!
# The completion of outbound items

An `OutboundDispatcher` takes each of its items to an end: it is dispatched, or
it is dropped because the queue is full, because its routing is that of another
bot or because the platform is not available.  At its end the stream of the
item is used up and its `_on_dispatched` callback has been called.  The order
in which the tasks get the locks of their scopes is left to the scheduler.
-/

namespace RoxabiFactory

namespace OutboundCompletion

open OutboundCircuitBreaker (DeliveryError isTransientError maxAttempts)

/-- What `_verify_routing` reads of a `RoutingContext`. -/
structure Routing where
  platform : String
  botId : String
  deriving DecidableEq

/-- The value of `_on_dispatched`; one that is no `TrustedCallback` is
rejected. -/
inductive OnDispatched
  | trusted
  | untrusted
  deriving DecidableEq

/-- What is read of an `OutboundMessage` and its metadata. -/
structure Outbound where
  routing : Option Routing := none
  onDispatched : Option OnDispatched := none
  deriving DecidableEq

/-- What is read of an `InboundMessage`. -/
structure Message where
  platform : String
  botId : String
  routing : Option Routing := none
  deriving DecidableEq

inductive Payload
  | send (outbound : Outbound)
  | streaming (outbound : Option Outbound)
  | audio
  | audioStream
  | voiceStream
  | attachment
  deriving DecidableEq

/-- An item has no message when it is malformed. -/
structure Item where
  msg : Option Message
  payload : Payload
  deriving DecidableEq

/-- `kind in ("streaming", "audio_stream", "voice_stream")`. -/
def Item.hasStream (item : Item) : Bool :=
  match item.payload with
  | .streaming _ | .audioStream | .voiceStream => true
  | .send _ | .audio | .attachment => false

/-- `kind in ("send", "streaming")`. -/
def Item.notifies (item : Item) : Bool :=
  match item.payload with
  | .send _ | .streaming _ => true
  | .audio | .audioStream | .voiceStream | .attachment => false

/-- `kind == "send"`. -/
def Item.isSend (item : Item) : Bool :=
  match item.payload with
  | .send _ => true
  | .streaming _ | .audio | .audioStream | .voiceStream | .attachment => false

/-- The message whose metadata hold the callback. -/
def Item.callbackTarget (item : Item) : Option Outbound :=
  match item.payload with
  | .send outbound => some outbound
  | .streaming outbound => outbound
  | .audio | .audioStream | .voiceStream | .attachment => none

def Item.hasCallback (item : Item) : Bool :=
  decide (item.callbackTarget.bind Outbound.onDispatched = some .trusted)

/-- `_verify_routing` of the dispatcher of this bot. -/
def verifyRouting (own : Routing) : Option Routing → Bool
  | none => true
  | some routing =>
    routing.platform == own.platform && routing.botId == own.botId

/-- The routing that `_resolve_item` verifies. -/
def Payload.routing (msg : Message) : Payload → Option Routing
  | .send outbound => outbound.routing.or msg.routing
  | .voiceStream => msg.routing.or (some ⟨msg.platform, msg.botId⟩)
  | .audio | .audioStream | .attachment | .streaming none => msg.routing
  | .streaming (some outbound) => outbound.routing

/-- Why a stream is drained. -/
inductive Drain
  | mismatch
  | circuitOpen
  | superseded
  | failed
  | overflow
  deriving DecidableEq

inductive Call
  | circuitOpen
  | sent
  | failed
  | overflow
  deriving DecidableEq

/-- Where an item is; within its task, what the task waits for. -/
inductive Phase
  | queued
  /-- It was dropped from the full queue and its task has not begun. -/
  | dropped
  /-- Its task waits for the lock of the scope. -/
  | locking
  | draining (reason : Drain)
  | sending (attempt : Nat)
  | sleeping (attempt : Nat)
  | calling (place : Call)
  /-- The user is told, unless that was done within the debounce window. -/
  | notifying
  | done
  deriving DecidableEq

structure Flow where
  item : Item
  phase : Phase := .queued
  /-- The stream has not been used up. -/
  streamOpen : Bool
  /-- The entry of the metadata. -/
  onDispatched : Option OnDispatched
  /-- How often the callback has been called. -/
  fired : Nat := 0
  deriving DecidableEq

def Flow.new (item : Item) : Flow where
  item := item
  streamOpen := item.hasStream
  onDispatched := item.callbackTarget.bind Outbound.onDispatched

def Flow.goTo (flow : Flow) (phase : Phase) : Flow := { flow with phase := phase }

def Flow.afterCall (flow : Flow) : Call → Flow
  | .circuitOpen => flow.goTo .notifying
  | .sent | .overflow => flow.goTo .done
  | .failed =>
    if flow.item.hasStream then flow.goTo (.draining .failed)
    else if flow.item.notifies then flow.goTo .notifying
    else flow.goTo .done

/-- `unwrap_callback(…, "_on_dispatched", pop=True)` and the call of what it
finds. -/
def Flow.dispatched (flow : Flow) (place : Call) : Flow :=
  if flow.onDispatched = some .trusted then
    { flow with
      onDispatched := none
      fired := flow.fired + 1
      phase := .calling place }
  else Flow.afterCall { flow with onDispatched := none } place

/-- What follows an exception of `_try_send`. -/
def Flow.afterError (flow : Flow) (attempt : Nat) (error : DeliveryError) :
    Flow :=
  if !error.exc.isException then flow.goTo .done
  else if isTransientError error && decide (attempt + 1 < maxAttempts) &&
      flow.item.isSend then flow.goTo (.sleeping attempt)
  else flow.dispatched .failed

/-- What follows a stream that has ended, or raised this exception. -/
def Flow.afterDrain (flow : Flow) (reason : Drain) (raised : Option DeliveryError) : Flow :=
  match reason, raised with
  | .mismatch, _ => flow.goTo .done
  | .circuitOpen, none => flow.dispatched .circuitOpen
  | .superseded, none => flow.dispatched .sent
  | .superseded, some error => flow.afterError 0 error
  | .failed, none =>
    if flow.item.notifies then flow.goTo .notifying else flow.goTo .done
  | .overflow, none => flow.dispatched .overflow
  | .circuitOpen, some _ | .failed, some _ | .overflow, some _ =>
    flow.goTo .done

/-- `_try_send`; the metadata of an outbound message may say `_superseded`. -/
def Flow.trySend (flow : Flow) (attempt : Nat) (superseded : Bool) : Flow :=
  match flow.item.payload with
  | .streaming (some _) =>
    if superseded then flow.goTo (.draining .superseded)
    else flow.goTo (.sending attempt)
  | .streaming none | .send _ | .audio | .audioStream | .voiceStream
  | .attachment => flow.goTo (.sending attempt)

/-- The routing of the item is that of another bot. -/
def Item.IsMisrouted (own : Routing) (item : Item) : Prop :=
  ∃ msg ∈ item.msg, verifyRouting own (item.payload.routing msg) = false

instance (own : Routing) (item : Item) : Decidable (item.IsMisrouted own) :=
  inferInstanceAs (Decidable (∃ msg ∈ item.msg, _))

/-- `dispatch_outbound_item`, up to the first wait. -/
def Flow.dispatchOutboundItem (own : Routing) (flow : Flow)
    (circuitOpen superseded : Bool) : Flow :=
  if flow.item.IsMisrouted own then
    if flow.item.hasStream then flow.goTo (.draining .mismatch)
    else flow.goTo .done
  else if circuitOpen then
    if flow.item.hasStream then flow.goTo (.draining .circuitOpen)
    else flow.dispatched .circuitOpen
  else flow.trySend 0 superseded

/-- `_drop_item_async`, up to the first wait. -/
def Flow.dropItem (flow : Flow) : Flow :=
  if flow.item.hasStream then flow.goTo (.draining .overflow)
  else flow.dispatched .overflow

/-- How a call of the adapter ends, and whether it has used up the stream. -/
inductive Sent
  | returned (usedUp : Bool)
  | raised (error : DeliveryError) (usedUp : Bool)

def Flow.useUp (flow : Flow) (usedUp : Bool) : Flow :=
  { flow with streamOpen := flow.streamOpen && !usedUp }

inductive TaskStep
  /-- The first step of the task once it has its lock. -/
  | begin (circuitOpen superseded : Bool)
  | drained (raised : Option DeliveryError)
  | sent (outcome : Sent)
  | slept
  | called (raised : Bool)
  | notified
  /-- The task is cancelled; the stream it drains may end by that. -/
  | cancelled (usedUp : Bool)

def Flow.step (own : Routing) (flow : Flow) : TaskStep → Option Flow
  | .begin circuitOpen superseded =>
    match flow.phase with
    | .locking =>
      some (flow.dispatchOutboundItem own circuitOpen superseded)
    | .dropped => some flow.dropItem
    | _ => none
  | .drained raised =>
    match flow.phase with
    | .draining reason => some ((flow.useUp true).afterDrain reason raised)
    | _ => none
  | .sent outcome =>
    match flow.phase, outcome with
    | .sending _, .returned usedUp =>
      some ((flow.useUp usedUp).dispatched .sent)
    | .sending attempt, .raised error usedUp =>
      some ((flow.useUp usedUp).afterError attempt error)
    | _, _ => none
  | .slept =>
    match flow.phase with
    | .sleeping attempt =>
      some (if attempt + 1 < maxAttempts then
        flow.trySend (attempt + 1) false
      else flow.dispatched .failed)
    | _ => none
  | .called raised =>
    match flow.phase with
    | .calling place =>
      some (if raised then flow.goTo .done else flow.afterCall place)
    | _ => none
  | .notified =>
    if flow.phase = .notifying then some (flow.goTo .done) else none
  | .cancelled usedUp =>
    if flow.phase = .queued ∨ flow.phase = .done then none
    else some ((flow.useUp usedUp).goTo .done)

/-! ## The dispatcher -/

inductive Worker
  | idle
  | running
  | stopped
  deriving DecidableEq

structure State where
  worker : Worker := .idle
  /-- The numbers of the items in the queue. -/
  queue : List Nat := []
  /-- `_unfinished_tasks` of the queue. -/
  unfinished : Nat := 0
  /-- The items that were enqueued, by their numbers. -/
  flows : List Flow := []

inductive QueueError
  | queueFull
  | valueError
  deriving DecidableEq

def State.update (state : State) (number : Nat) (change : Flow → Flow) :
    State :=
  { state with flows := state.flows.modify number change }

/-- `task_done` of the queue. -/
def taskDone (state : State) : Except QueueError State :=
  if state.unfinished = 0 then .error .valueError
  else .ok { state with unfinished := state.unfinished - 1 }

/-- `put_nowait` of a queue, which is unbounded when its size is not
positive. -/
def putNowait (maxsize : Int) (state : State) (item : Item) : Except QueueError State :=
  if 0 < maxsize ∧ maxsize ≤ state.queue.length then .error .queueFull
  else .ok { state with
    queue := state.queue ++ [state.flows.length]
    unfinished := state.unfinished + 1
    flows := state.flows ++ [.new item] }

/-- What becomes of an item that is dropped from the queue; without a running
event loop it is dropped for good. -/
def Flow.drop (flow : Flow) (inLoop : Bool) : Flow := flow.goTo (if inLoop then .dropped else .done)

/-- `_maybe_drop_oldest`. -/
def maybeDropOldest (maxsize : Int) (state : State) (inLoop : Bool) : Except QueueError State :=
  if (state.queue.length : Int) < maxsize then .ok state
  else
    match state.queue with
    | [] => .ok state
    | number :: queue => do
      let state ← taskDone { state with queue := queue }
      return state.update number fun flow => flow.drop inLoop

def enqueue (maxsize : Int) (state : State) (item : Item) (inLoop : Bool) :
    Except QueueError State := do
  let state ← maybeDropOldest maxsize state inLoop
  putNowait maxsize state item

/-- The worker creates the task of an item, unless the item is malformed. -/
def Flow.admit (flow : Flow) : Flow := flow.goTo (if flow.item.msg.isSome then .locking else .done)

/-- One round of `_worker_loop`. -/
def workerLoop (state : State) : Option State :=
  match state.queue with
  | [] => none
  | number :: queue =>
    (taskDone ({ state with queue := queue }.update number Flow.admit)).toOption

inductive Action
  | enqueue (item : Item) (inLoop : Bool)
  | start
  | work
  /-- The worker is cancelled. -/
  | stop
  | task (number : Nat) (step : TaskStep)

def step (own : Routing) (maxsize : Int) (state : State) : Action → Option State
  | .enqueue item inLoop => (enqueue maxsize state item inLoop).toOption
  | .start =>
    if state.worker = .idle then some { state with worker := .running }
    else none
  | .work => if state.worker = .running then workerLoop state else none
  | .stop =>
    some { state with
      worker := if state.worker = .running then .stopped
        else state.worker }
  | .task number taskStep =>
    (state.flows[number]?.bind fun flow => flow.step own taskStep).map
      fun flow => state.update number fun _ => flow

def dispatcher (own : Routing) (maxsize : Int) : TransitionSystem State Action where
  initial state := state = { }
  step := step own maxsize

/-! ## Completion -/

/-- The stream of the item is used up, and its callback has been called
once. -/
structure Flow.Completed (flow : Flow) : Prop where
  usedUp : flow.streamOpen = false
  fired : flow.fired = flow.item.hasCallback.toNat

/-- The dispatcher takes the step by itself. -/
def Action.IsOwn : Action → Prop
  | .start | .work => True
  | .task _ (.cancelled _) => False
  | .task _ _ => True
  | .enqueue _ _ | .stop => False

/-- The dispatcher has nothing left to do. -/
def State.Settled (own : Routing) (maxsize : Int) (state : State) : Prop :=
  ∀ action : Action, action.IsOwn → step own maxsize state action = none

structure CompletedOnce (own : Routing) (maxsize : Int) (state : State) : Prop where
  bounded : 0 < maxsize → state.queue.length ≤ maxsize
  /-- `enqueue` does not raise. -/
  accepts : ∀ item inLoop, ∃ after, enqueue maxsize state item inLoop = .ok after
  /-- No callback is called twice. -/
  once : ∀ flow ∈ state.flows, flow.fired ≤ flow.item.hasCallback.toNat
  /-- When the dispatcher has nothing left to do, every item is completed. -/
  completed : state.Settled own maxsize → ∀ flow ∈ state.flows, flow.Completed
  /-- The dispatcher has nothing left to do after so many steps at most. -/
  ends : ∃ bound, ∀ actions : List Action, (∀ action ∈ actions, action.IsOwn) → ∀ after,
      (dispatcher own maxsize).run state actions = some after → actions.length ≤ bound

/-- The callback has still to be called. -/
def Flow.IsOwed (flow : Flow) : Prop := flow.onDispatched = some .trusted

instance (flow : Flow) : Decidable flow.IsOwed := inferInstanceAs (Decidable (_ = _))

/-- The task of an item loses neither the stream nor the callback: an item
with a callback is not misrouted, no stream that is drained before the callback
is called raises (to a send of the adapter, a stream may raise an
`Exception`), an adapter that returns has used up the stream, an adapter does
not raise a `BaseException` and a callback not at all while something is left
to do, and no task is cancelled then. -/
def Flow.Keeps (own : Routing) (flow : Flow) : TaskStep → Prop
  | .begin _ _ =>
    flow.phase = .locking → flow.item.IsMisrouted own → ¬ flow.IsOwed
  | .drained none => True
  | .drained (some error) =>
    match flow.phase with
    | .draining .circuitOpen | .draining .overflow => ¬ flow.IsOwed
    | .draining .superseded =>
      error.exc.isException = true ∨ ¬ flow.IsOwed
    | _ => True
  | .sent (.returned usedUp) => flow.streamOpen = true → usedUp = true
  | .sent (.raised error usedUp) =>
    error.exc.isException = true ∨ ¬ flow.IsOwed ∧ (flow.streamOpen = true → usedUp = true)
  | .called raised =>
    raised = true → flow.phase = .calling .failed → flow.streamOpen = false
  | .slept | .notified => True
  | .cancelled usedUp =>
    ¬ flow.IsOwed ∧ (flow.streamOpen = true → usedUp = true)

/-- The item has no stream and no callback. -/
def Item.IsPlain (item : Item) : Prop := item.hasStream = false ∧ item.hasCallback = false

instance (item : Item) : Decidable item.IsPlain := inferInstanceAs (Decidable (_ ∧ _))

/-- Every queued item is plain. -/
def AllPlain (queue : List Nat) (flows : List Flow) : Prop :=
  ∀ number ∈ queue, ∀ flow ∈ flows[number]?, flow.item.IsPlain

instance (queue : List Nat) (flows : List Flow) : Decidable (AllPlain queue flows) :=
  inferInstanceAs (Decidable (∀ number ∈ queue, _))

/-- No item is lost that is not plain: none is enqueued while the worker is
stopped, dropped from the queue without an event loop, or queued when the
worker is stopped; none that the worker takes is malformed; and the tasks lose
nothing. -/
def Keeps (own : Routing) (maxsize : Int) (state : State) : Action → Prop
  | .enqueue item inLoop =>
    (state.worker = .stopped → item.IsPlain) ∧ (maxsize ≤ state.queue.length → inLoop = false →
        AllPlain state.queue.head?.toList state.flows)
  | .start => True
  | .work => ∀ number ∈ state.queue.head?, ∀ flow ∈ state.flows[number]?,
      flow.item.msg = none → flow.item.IsPlain
  | .stop => state.worker = .running → AllPlain state.queue state.flows
  | .task number taskStep =>
    ∀ flow ∈ state.flows[number]?, flow.Keeps own taskStep

/-! ## What a flow keeps -/

/-- Nothing is left to do for the item. -/
def Flow.IsClear (flow : Flow) : Prop := ¬ flow.IsOwed ∧ flow.streamOpen = false

/-- What holds of an item because of where it is. -/
def Flow.Fits (flow : Flow) : Prop :=
  match flow.phase with
  | .queued | .dropped | .locking | .sending _ | .sleeping _
  | .draining .circuitOpen | .draining .superseded | .draining .overflow =>
    True
  | .draining .mismatch | .draining .failed | .calling .failed =>
    ¬ flow.IsOwed
  | .calling .circuitOpen | .calling .sent | .calling .overflow
  | .notifying | .done => flow.IsClear

/-- What holds of an item wherever it is. -/
structure Flow.Counted (flow : Flow) : Prop where
  counted : flow.fired + (decide flow.IsOwed).toNat = flow.item.hasCallback.toNat
  stream : flow.streamOpen = true → flow.item.hasStream = true

structure Flow.Sound (flow : Flow) : Prop where
  counts : flow.Counted
  fits : flow.Fits

section Flows

variable {own : Routing} {flow : Flow}

theorem Flow.Counted.goTo (counts : flow.Counted) (phase : Phase) : (flow.goTo phase).Counted :=
  ⟨counts.counted, counts.stream⟩

theorem Flow.Counted.useUp (counts : flow.Counted) (usedUp : Bool) :
    (flow.useUp usedUp).Counted := by
  refine ⟨counts.counted, ?_⟩
  intro isOpen
  exact counts.stream (Bool.and_eq_true_iff.mp isOpen).1

theorem Flow.Counted.streamOpen_eq_false (counts : flow.Counted)
    (none : flow.item.hasStream = false) : flow.streamOpen = false := by
  rw [← Bool.not_eq_true]
  intro isOpen
  rw [counts.stream isOpen] at none
  cases none

theorem Flow.Counted.sound_goTo (counts : flow.Counted) {phase : Phase}
    (fits : (flow.goTo phase).Fits) : (flow.goTo phase).Sound :=
  ⟨counts.goTo phase, fits⟩

theorem Flow.streamOpen_useUp {usedUp : Bool} (uses : flow.streamOpen = true → usedUp = true) :
    (flow.useUp usedUp).streamOpen = false := by
  dsimp only [Flow.useUp]
  cases isOpen : flow.streamOpen with
  | false => rfl
  | true => rw [uses isOpen]; rfl

theorem Flow.sound_new (item : Item) : (Flow.new item).Sound := by
  refine ⟨⟨?_, id⟩, trivial⟩
  exact Nat.zero_add _

theorem Flow.Counted.afterCall (counts : flow.Counted) {place : Call} (called : ¬ flow.IsOwed)
    (closed : place ≠ .failed → flow.streamOpen = false) :
    (flow.afterCall place).Sound := by
  cases place with
  | circuitOpen => exact counts.sound_goTo ⟨called, closed nofun⟩
  | sent => exact counts.sound_goTo ⟨called, closed nofun⟩
  | overflow => exact counts.sound_goTo ⟨called, closed nofun⟩
  | failed =>
    dsimp only [Flow.afterCall]
    split
    · exact counts.sound_goTo called
    · rename_i noStream
      have closed := counts.streamOpen_eq_false (Bool.eq_false_of_not_eq_true noStream)
      split
      · exact counts.sound_goTo ⟨called, closed⟩
      · exact counts.sound_goTo ⟨called, closed⟩

theorem Flow.Counted.dispatched (counts : flow.Counted) {place : Call}
    (closed : place ≠ .failed → flow.streamOpen = false) :
    (flow.dispatched place).Sound := by
  have counted := counts.counted
  unfold Flow.dispatched
  split
  · rename_i trusted
    have owed : flow.IsOwed := trusted
    rw [decide_eq_true owed] at counted
    refine ⟨⟨counted, counts.stream⟩, ?_⟩
    cases place with
    | failed => exact nofun
    | circuitOpen => exact ⟨nofun, closed nofun⟩
    | sent => exact ⟨nofun, closed nofun⟩
    | overflow => exact ⟨nofun, closed nofun⟩
  · rename_i notTrusted
    have paid : ¬ flow.IsOwed := notTrusted
    rw [decide_eq_false paid] at counted
    have cleared : Flow.Counted { flow with onDispatched := none } :=
      ⟨counted, counts.stream⟩
    apply cleared.afterCall _ closed
    intro owed
    cases owed

theorem Flow.Counted.afterError (counts : flow.Counted) (attempt : Nat) {error : DeliveryError}
    (keeps : error.exc.isException = true ∨ flow.IsClear) :
    (flow.afterError attempt error).Sound := by
  unfold Flow.afterError
  split
  · rename_i notException
    rcases keeps with isException | clear
    · rw [isException] at notException
      cases notException
    · exact counts.sound_goTo clear
  · split
    · exact counts.sound_goTo trivial
    · exact counts.dispatched fun different => absurd rfl different

theorem Flow.Sound.afterDrain (sound : flow.Sound) {reason : Drain}
    (draining : flow.phase = .draining reason)
    {raised : Option DeliveryError}
    (keeps : flow.Keeps own (.drained raised)) :
    ((flow.useUp true).afterDrain reason raised).Sound := by
  have counts := sound.counts.useUp true
  have closed : (flow.useUp true).streamOpen = false := Flow.streamOpen_useUp fun _ => rfl
  have fits := sound.fits
  unfold Flow.Fits at fits
  rw [draining] at fits
  cases raised with
  | none =>
    cases reason with
    | mismatch => exact counts.sound_goTo ⟨fits, closed⟩
    | circuitOpen => exact counts.dispatched fun _ => closed
    | superseded => exact counts.dispatched fun _ => closed
    | overflow => exact counts.dispatched fun _ => closed
    | failed =>
      dsimp only [Flow.afterDrain]
      split
      · exact counts.sound_goTo ⟨fits, closed⟩
      · exact counts.sound_goTo ⟨fits, closed⟩
  | some error =>
    unfold Flow.Keeps at keeps
    rw [draining] at keeps
    cases reason with
    | mismatch => exact counts.sound_goTo ⟨fits, closed⟩
    | circuitOpen => exact counts.sound_goTo ⟨keeps, closed⟩
    | superseded =>
      exact counts.afterError 0 (keeps.imp_right fun paid => ⟨paid, closed⟩)
    | overflow => exact counts.sound_goTo ⟨keeps, closed⟩
    | failed => exact counts.sound_goTo ⟨fits, closed⟩

theorem Flow.Counted.trySend (counts : flow.Counted) (attempt : Nat)
    (superseded : Bool) : (flow.trySend attempt superseded).Sound := by
  unfold Flow.trySend
  split
  · split
    · exact counts.sound_goTo trivial
    · exact counts.sound_goTo trivial
  all_goals exact counts.sound_goTo trivial

theorem Flow.Counted.dispatchOutboundItem (counts : flow.Counted) (circuitOpen superseded : Bool)
    (keeps : flow.item.IsMisrouted own → ¬ flow.IsOwed) :
    (flow.dispatchOutboundItem own circuitOpen superseded).Sound := by
  have closed : ¬ flow.item.hasStream = true → flow.streamOpen = false :=
    fun none => counts.streamOpen_eq_false (Bool.eq_false_of_not_eq_true none)
  unfold Flow.dispatchOutboundItem
  split
  · rename_i misrouted
    have paid := keeps misrouted
    split
    · exact counts.sound_goTo paid
    · rename_i noStream
      exact counts.sound_goTo ⟨paid, closed noStream⟩
  · split
    · split
      · exact counts.sound_goTo trivial
      · rename_i noStream
        exact counts.dispatched fun _ => closed noStream
    · exact counts.trySend 0 superseded

theorem Flow.Counted.dropItem (counts : flow.Counted) :
    flow.dropItem.Sound := by
  unfold Flow.dropItem
  split
  · exact counts.sound_goTo trivial
  · rename_i noStream
    exact counts.dispatched fun _ =>
      counts.streamOpen_eq_false (Bool.eq_false_of_not_eq_true noStream)

theorem Flow.Sound.step (sound : flow.Sound) {taskStep : TaskStep}
    {after : Flow} (keeps : flow.Keeps own taskStep)
    (applied : flow.step own taskStep = some after) : after.Sound := by
  have counts := sound.counts
  unfold Flow.step at applied
  cases taskStep with
  | begin circuitOpen superseded =>
    dsimp only at applied
    split at applied
    · rename_i locking
      cases applied
      exact counts.dispatchOutboundItem circuitOpen superseded (keeps locking)
    · cases applied
      exact counts.dropItem
    · cases applied
  | drained raised =>
    dsimp only at applied
    split at applied
    · rename_i draining
      cases applied
      exact sound.afterDrain draining keeps
    · cases applied
  | sent outcome =>
    dsimp only at applied
    split at applied
    · cases applied
      exact (counts.useUp _).dispatched
        fun _ => Flow.streamOpen_useUp keeps
    · cases applied
      apply (counts.useUp _).afterError
      apply keeps.imp_right
      rintro ⟨paid, uses⟩
      exact ⟨paid, Flow.streamOpen_useUp uses⟩
    · cases applied
  | slept =>
    dsimp only at applied
    split at applied
    · cases applied
      split
      · exact counts.trySend _ _
      · exact counts.dispatched fun different => absurd rfl different
    · cases applied
  | called raised =>
    dsimp only at applied
    split at applied
    · rename_i place calling
      cases applied
      have fits := sound.fits
      unfold Flow.Fits at fits
      rw [calling] at fits
      have clear : ¬ flow.IsOwed ∧ (place ≠ .failed → flow.streamOpen = false) := by
        cases place with
        | failed => exact ⟨fits, fun different => absurd rfl different⟩
        | circuitOpen => exact ⟨fits.1, fun _ => fits.2⟩
        | sent => exact ⟨fits.1, fun _ => fits.2⟩
        | overflow => exact ⟨fits.1, fun _ => fits.2⟩
      obtain ⟨paid, closed⟩ := clear
      split
      · rename_i raised
        apply counts.sound_goTo
        refine ⟨paid, ?_⟩
        by_cases failed : place = .failed
        · subst failed
          exact keeps raised calling
        · exact closed failed
      · exact counts.afterCall paid closed
    · cases applied
  | notified =>
    obtain ⟨notifying, same⟩ := Option.ite_none_right_eq_some.mp applied
    cases same
    have fits := sound.fits
    unfold Flow.Fits at fits
    rw [notifying] at fits
    exact counts.sound_goTo fits
  | cancelled usedUp =>
    obtain ⟨-, same⟩ := Option.ite_none_left_eq_some.mp applied
    cases same
    exact (counts.useUp usedUp).sound_goTo ⟨keeps.1, Flow.streamOpen_useUp keeps.2⟩

/-! ## The steps that are left -/

/-- A bound on the steps that a task still takes. -/
def Phase.rest : Phase → Nat
  | .done => 0
  | .notifying | .calling .sent | .calling .overflow
  | .draining .mismatch => 1
  | .calling .circuitOpen | .draining .failed | .draining .overflow => 2
  | .calling .failed | .draining .circuitOpen | .dropped => 3
  | .sleeping attempt => 4 + 2 * (maxAttempts - attempt)
  | .sending attempt => 5 + 2 * (maxAttempts - attempt)
  | .draining .superseded => 5 + 2 * maxAttempts
  | .locking => 6 + 2 * maxAttempts
  | .queued => 7 + 2 * maxAttempts

theorem Phase.rest_pos {phase : Phase} (notDone : phase ≠ .done) : 0 < phase.rest := by
  cases phase with
  | done => exact absurd rfl notDone
  | draining reason => cases reason <;> exact Nat.zero_lt_succ _
  | calling place => cases place <;> exact Nat.zero_lt_succ _
  | sleeping attempt => dsimp only [Phase.rest]; omega
  | sending attempt => dsimp only [Phase.rest]; omega
  | queued => exact Nat.zero_lt_succ _
  | dropped => exact Nat.zero_lt_succ _
  | locking => exact Nat.zero_lt_succ _
  | notifying => exact Nat.zero_lt_succ _

theorem Phase.rest_le_queued (phase : Phase) :
    phase.rest ≤ Phase.queued.rest := by
  have bound : maxAttempts = 4 := rfl
  cases phase with
  | draining reason => cases reason <;> simp [Phase.rest, bound]
  | calling place => cases place <;> simp [Phase.rest, bound]
  | sleeping attempt => dsimp only [Phase.rest]; omega
  | sending attempt => dsimp only [Phase.rest]; omega
  | queued | dropped | locking | notifying | done =>
    simp [Phase.rest, bound]

/-- The steps that follow a callback. -/
def Call.rest : Call → Nat
  | .sent | .overflow => 0
  | .circuitOpen => 1
  | .failed => 2

theorem Flow.rest_afterCall (flow : Flow) (place : Call) :
    (flow.afterCall place).phase.rest ≤ place.rest := by
  cases place with
  | circuitOpen => exact Nat.le_refl _
  | sent => exact Nat.le_refl _
  | overflow => exact Nat.le_refl _
  | failed =>
    dsimp only [Flow.afterCall]
    split
    · exact Nat.le_refl _
    · split
      · exact Nat.le_succ _
      · exact Nat.zero_le _

theorem Flow.rest_dispatched (flow : Flow) (place : Call) :
    (flow.dispatched place).phase.rest ≤ place.rest + 1 := by
  unfold Flow.dispatched
  split
  · cases place <;> exact Nat.le_refl _
  · exact Nat.le_succ_of_le (Flow.rest_afterCall _ place)

theorem Flow.rest_afterError (flow : Flow) (attempt : Nat) (error : DeliveryError) :
    (flow.afterError attempt error).phase.rest ≤ 4 + 2 * (maxAttempts - attempt) := by
  unfold Flow.afterError
  split
  · exact Nat.zero_le _
  · split
    · exact Nat.le_refl _
    · have bound := flow.rest_dispatched .failed
      dsimp only [Call.rest] at bound
      omega

theorem Flow.rest_afterDrain (flow : Flow) (reason : Drain) (raised : Option DeliveryError) :
    (flow.afterDrain reason raised).phase.rest < (Phase.draining reason).rest := by
  have called := flow.rest_dispatched
  cases raised with
  | none =>
    cases reason with
    | mismatch => exact Nat.zero_lt_one
    | circuitOpen => exact Nat.lt_succ_of_le (called .circuitOpen)
    | superseded =>
      have bound := called .sent
      dsimp only [Call.rest] at bound
      change (flow.dispatched .sent).phase.rest < 5 + 2 * maxAttempts
      omega
    | overflow => exact Nat.lt_succ_of_le (called .overflow)
    | failed =>
      dsimp only [Flow.afterDrain]
      split
      · exact Nat.lt_succ_self _
      · exact Nat.zero_lt_two
  | some error =>
    cases reason with
    | superseded =>
      have bound := flow.rest_afterError 0 error
      exact Nat.lt_succ_of_le bound
    | mismatch => exact Nat.zero_lt_one
    | circuitOpen => exact Nat.zero_lt_succ _
    | overflow => exact Nat.zero_lt_succ _
    | failed => exact Nat.zero_lt_succ _

theorem Flow.rest_trySend (flow : Flow) (attempt : Nat) : (flow.trySend attempt false).phase.rest =
      5 + 2 * (maxAttempts - attempt) := by
  unfold Flow.trySend
  split <;> rfl

theorem Flow.rest_dispatchOutboundItem (flow : Flow) (circuitOpen superseded : Bool) :
    (flow.dispatchOutboundItem own circuitOpen superseded).phase.rest <
      Phase.locking.rest := by
  apply Nat.lt_succ_of_le
  unfold Flow.dispatchOutboundItem
  split
  · split
    · exact Nat.le_add_left _ _
    · exact Nat.zero_le _
  · split
    · split
      · exact Nat.le_add_left _ _
      · apply Nat.le_trans (flow.rest_dispatched .circuitOpen)
        exact Nat.le_add_left _ _
    · unfold Flow.trySend
      split
      · split <;> exact Nat.le_refl _
      all_goals exact Nat.le_refl _

theorem Flow.rest_dropItem (flow : Flow) :
    flow.dropItem.phase.rest < Phase.dropped.rest := by
  unfold Flow.dropItem
  split
  · exact Nat.lt_succ_self _
  · exact Nat.lt_succ_of_le (Nat.le_succ_of_le (flow.rest_dispatched .overflow))

theorem Flow.rest_step {taskStep : TaskStep} {after : Flow}
    (applied : flow.step own taskStep = some after) :
    after.phase.rest < flow.phase.rest := by
  unfold Flow.step at applied
  cases taskStep with
  | begin circuitOpen superseded =>
    dsimp only at applied
    split at applied
    · rename_i locking
      cases applied
      rw [locking]
      exact flow.rest_dispatchOutboundItem circuitOpen superseded
    · rename_i dropped
      cases applied
      rw [dropped]
      exact flow.rest_dropItem
    · cases applied
  | drained raised =>
    dsimp only at applied
    split at applied
    · rename_i reason draining
      cases applied
      rw [draining]
      exact Flow.rest_afterDrain _ reason raised
    · cases applied
  | sent outcome =>
    dsimp only at applied
    split at applied
    · rename_i attempt usedUp sending
      cases applied
      rw [sending]
      apply Nat.lt_of_le_of_lt (Flow.rest_dispatched _ .sent)
      dsimp only [Call.rest, Phase.rest]
      omega
    · rename_i attempt error usedUp sending
      cases applied
      rw [sending]
      apply Nat.lt_of_le_of_lt (Flow.rest_afterError _ attempt error)
      dsimp only [Phase.rest]
      omega
    · cases applied
  | slept =>
    dsimp only at applied
    split at applied
    · rename_i attempt sleeping
      cases applied
      rw [sleeping]
      change _ < 4 + 2 * (maxAttempts - attempt)
      split
      · rw [flow.rest_trySend]
        omega
      · apply Nat.lt_of_le_of_lt (flow.rest_dispatched .failed)
        dsimp only [Call.rest]
        omega
    · cases applied
  | called raised =>
    dsimp only at applied
    split at applied
    · rename_i place calling
      cases applied
      rw [calling]
      split
      · cases place <;> exact Nat.zero_lt_succ _
      · apply Nat.lt_of_le_of_lt (flow.rest_afterCall place)
        cases place <;> exact Nat.lt_succ_self _
    · cases applied
  | notified =>
    obtain ⟨notifying, same⟩ := Option.ite_none_right_eq_some.mp applied
    cases same
    rw [notifying]
    exact Nat.zero_lt_one
  | cancelled usedUp =>
    obtain ⟨waits, same⟩ := Option.ite_none_left_eq_some.mp applied
    cases same
    obtain ⟨-, notDone⟩ := not_or.mp waits
    exact Phase.rest_pos notDone

theorem Flow.phase_ne_queued_of_step {taskStep : TaskStep} {after : Flow}
    (applied : flow.step own taskStep = some after) :
    flow.phase ≠ .queued ∧ after.phase ≠ .queued := by
  have less := Flow.rest_step applied
  constructor
  · intro queued
    unfold Flow.step at applied
    rw [queued] at applied
    cases taskStep <;> simp at applied
  · intro queued
    rw [queued] at less
    exact absurd less (Nat.not_lt.mpr flow.phase.rest_le_queued)

end Flows

/-! ## What every run keeps -/

variable {own : Routing} {maxsize : Int} {state : State}

theorem getElem?_update (state : State) (number : Nat) (change : Flow → Flow) (other : Nat) :
    (state.update number change).flows[other]? = state.flows[other]?.map fun flow =>
        if number = other then change flow else flow := by
  exact List.getElem?_modify change number state.flows other

/-- The queue holds the numbers of the items that are queued. -/
structure Kept (maxsize : Int) (state : State) : Prop where
  unfinished : state.unfinished = state.queue.length
  bounded : 0 < maxsize → state.queue.length ≤ maxsize
  nodup : state.queue.Nodup
  known : ∀ number ∈ state.queue, number < state.flows.length
  queued : ∀ number flow, state.flows[number]? = some flow →
    (flow.phase = .queued ↔ number ∈ state.queue)

theorem kept_initial : Kept maxsize {} := by
  refine ⟨rfl, fun positive => Int.le_of_lt positive, .nil,
    fun number member => absurd member List.not_mem_nil, ?_⟩
  intro number flow found
  rw [List.getElem?_nil] at found
  cases found

def State.takeHead (state : State) (number : Nat) (queue : List Nat)
    (change : Flow → Flow) : State :=
  { state with
    queue := queue
    unfinished := state.unfinished - 1
    flows := state.flows.modify number change }

theorem Kept.takeHead (kept : Kept maxsize state) {number : Nat}
    {queue : List Nat} (head : state.queue = number :: queue)
    {change : Flow → Flow}
    (leaves : ∀ flow, (change flow).phase ≠ .queued) :
    Kept maxsize (state.takeHead number queue change) := by
  obtain ⟨unfinished, bounded, nodup, known, queued⟩ := kept
  rw [head] at unfinished bounded nodup known queued
  obtain ⟨notLater, nodup⟩ := List.nodup_cons.mp nodup
  constructor
  · dsimp only [State.takeHead]
    rw [unfinished]
    rfl
  · intro positive
    have bounded := bounded positive
    rw [List.length_cons] at bounded
    dsimp only [State.takeHead]
    omega
  · exact nodup
  · intro other member
    dsimp only [State.takeHead]
    rw [List.length_modify]
    exact known other (List.mem_cons_of_mem _ member)
  · intro other after found
    have found := (getElem?_update state number change other).symm.trans found
    obtain ⟨flow, before, same⟩ := Option.map_eq_some_iff.mp found
    have queued := queued other flow before
    subst same
    split
    · rename_i same
      subst same
      exact iff_of_false (leaves flow) notLater
    · rename_i different
      rw [queued, List.mem_cons]
      exact or_iff_right (Ne.symm different)

theorem Kept.putNowait (kept : Kept maxsize state)
    (room : 0 < maxsize → state.queue.length < maxsize) (item : Item) :
    ∃ after, putNowait maxsize state item = .ok after ∧
      Kept maxsize after ∧ after.worker = state.worker ∧
        after.queue = state.queue ++ [state.flows.length] ∧
          after.flows = state.flows ++ [.new item] := by
  have notFull : ¬ (0 < maxsize ∧ maxsize ≤ state.queue.length) := by
    rintro ⟨positive, full⟩
    have room := room positive
    omega
  have fresh : state.flows.length ∉ state.queue := by
    intro member
    exact Nat.lt_irrefl _ (kept.known _ member)
  refine ⟨_, if_neg notFull, ?_, rfl, rfl, rfl⟩
  constructor
  · dsimp only
    rw [kept.unfinished, List.length_append, List.length_singleton]
  · intro positive
    have room := room positive
    dsimp only
    rw [List.length_append, List.length_singleton]
    omega
  · apply List.nodup_append.mpr
    refine ⟨kept.nodup, List.pairwise_singleton _ _, ?_⟩
    intro number member other new
    rw [List.mem_singleton.mp new]
    rintro rfl
    exact fresh member
  · intro number member
    dsimp only
    rw [List.length_append, List.length_singleton]
    rcases List.mem_append.mp member with old | new
    · exact Nat.lt_succ_of_lt (kept.known number old)
    · rw [List.mem_singleton.mp new]
      exact Nat.lt_succ_self _
  · intro number flow found
    dsimp only at found ⊢
    rw [List.mem_append, List.mem_singleton]
    rcases Nat.lt_or_ge number state.flows.length with old | new
    · rw [List.getElem?_append_left old] at found
      rw [kept.queued number flow found]
      exact (or_iff_left (Nat.ne_of_lt old)).symm
    · rw [List.getElem?_append_right new] at found
      obtain ⟨bound, same⟩ := List.getElem?_eq_some_iff.mp found
      have last : number = state.flows.length := by
        rw [List.length_singleton] at bound
        omega
      subst last
      refine iff_of_true ?_ (.inr rfl)
      rw [← same]
      simp [Flow.new]

theorem taskDone_eq (unfinished : state.unfinished ≠ 0) : taskDone state =
      .ok { state with unfinished := state.unfinished - 1 } :=
  if_neg unfinished

theorem Kept.maybeDropOldest (kept : Kept maxsize state) (inLoop : Bool) :
    ∃ base, OutboundCompletion.maybeDropOldest maxsize state inLoop = .ok base ∧
      (0 < maxsize → base.queue.length < maxsize) ∧
        (base = state ∨ ∃ number queue, state.queue = number :: queue ∧
          maxsize ≤ state.queue.length ∧ base = state.takeHead number queue fun flow =>
              flow.drop inLoop) := by
  unfold OutboundCompletion.maybeDropOldest
  by_cases room : (state.queue.length : Int) < maxsize
  · rw [if_pos room]
    exact ⟨state, rfl, fun _ => room, .inl rfl⟩
  · rw [if_neg room]
    have full := Int.not_lt.mp room
    cases head : state.queue with
    | nil =>
      refine ⟨state, rfl, ?_, .inl rfl⟩
      intro positive
      rw [head] at full
      exact absurd full (Int.not_le.mpr positive)
    | cons number queue =>
      refine ⟨state.takeHead number queue fun flow => flow.drop inLoop,
        ?_, ?_, .inr ⟨number, queue, rfl, head ▸ full, rfl⟩⟩
      · dsimp only
        rw [taskDone_eq]
        · rfl
        · rw [kept.unfinished, head]
          exact Nat.succ_ne_zero _
      · intro positive
        have bounded := kept.bounded positive
        rw [head, List.length_cons] at bounded
        dsimp only [State.takeHead]
        omega

theorem Flow.phase_drop (flow : Flow) (inLoop : Bool) : (flow.drop inLoop).phase ≠ .queued := by
  cases inLoop <;> exact nofun

theorem Flow.phase_admit (flow : Flow) : flow.admit.phase ≠ .queued := by
  unfold Flow.admit
  split <;> exact nofun

/-- An item is enqueued, perhaps after the oldest one has been dropped. -/
theorem Kept.enqueue (kept : Kept maxsize state) (item : Item) (inLoop : Bool) :
    ∃ base after, OutboundCompletion.enqueue maxsize state item inLoop =
        .ok after ∧ Kept maxsize after ∧
      (base = state ∨ ∃ number queue, state.queue = number :: queue ∧ maxsize ≤ state.queue.length ∧
          base = state.takeHead number queue fun flow =>
            flow.drop inLoop) ∧
      after.worker = state.worker ∧ after.queue = base.queue ++ [base.flows.length] ∧
          after.flows = base.flows ++ [.new item] := by
  obtain ⟨base, made, room, isBase⟩ := kept.maybeDropOldest inLoop
  have keptBase : Kept maxsize base := by
    rcases isBase with rfl | ⟨number, queue, head, -, rfl⟩
    · exact kept
    · exact kept.takeHead head fun flow => flow.phase_drop inLoop
  have worker : base.worker = state.worker := by
    rcases isBase with rfl | ⟨number, queue, head, -, rfl⟩ <;> rfl
  obtain ⟨after, put, keptAfter, sameWorker, grown⟩ := keptBase.putNowait room item
  refine ⟨base, after, ?_, keptAfter, isBase, sameWorker.trans worker, grown⟩
  unfold OutboundCompletion.enqueue
  rw [made]
  exact put

theorem Kept.workerLoop (kept : Kept maxsize state) {number : Nat}
    {queue : List Nat} (head : state.queue = number :: queue) :
    OutboundCompletion.workerLoop state =
      some (state.takeHead number queue Flow.admit) := by
  unfold OutboundCompletion.workerLoop
  rw [head]
  dsimp only
  rw [taskDone_eq]
  · rfl
  · dsimp only [State.update]
    rw [kept.unfinished, head]
    exact Nat.succ_ne_zero _

theorem Kept.update (kept : Kept maxsize state) {number : Nat}
    {flow after : Flow} (found : state.flows[number]? = some flow)
    (left : flow.phase ≠ .queued) (leaves : after.phase ≠ .queued) :
    Kept maxsize (state.update number fun _ => after) := by
  refine ⟨kept.unfinished, kept.bounded, kept.nodup, ?_, ?_⟩
  · intro other member
    dsimp only [State.update]
    rw [List.length_modify]
    exact kept.known other member
  · intro other there isThere
    rw [getElem?_update] at isThere
    obtain ⟨before, wasThere, same⟩ := Option.map_eq_some_iff.mp isThere
    have queued := kept.queued other before wasThere
    subst same
    split
    · rename_i same
      subst same
      cases found.symm.trans wasThere
      exact iff_of_false leaves fun member => left (queued.mpr member)
    · exact queued

/-- Every step keeps the queue in order. -/
theorem Kept.step (kept : Kept maxsize state) {action : Action} {after : State}
    (applied : OutboundCompletion.step own maxsize state action =
      some after) : Kept maxsize after := by
  cases action with
  | enqueue item inLoop =>
    obtain ⟨-, made, enqueued, keptAfter, -⟩ := kept.enqueue item inLoop
    dsimp only [OutboundCompletion.step] at applied
    rw [enqueued] at applied
    cases applied
    exact keptAfter
  | start =>
    obtain ⟨-, same⟩ := Option.ite_none_right_eq_some.mp applied
    cases same
    exact ⟨kept.unfinished, kept.bounded, kept.nodup, kept.known, kept.queued⟩
  | work =>
    obtain ⟨-, worked⟩ := Option.ite_none_right_eq_some.mp applied
    cases head : state.queue with
    | nil =>
      unfold OutboundCompletion.workerLoop at worked
      rw [head] at worked
      cases worked
    | cons number queue =>
      rw [kept.workerLoop head] at worked
      cases worked
      exact kept.takeHead head Flow.phase_admit
  | stop =>
    cases applied
    exact ⟨kept.unfinished, kept.bounded, kept.nodup, kept.known, kept.queued⟩
  | task number taskStep =>
    obtain ⟨moved, stepped, same⟩ := Option.map_eq_some_iff.mp applied
    obtain ⟨flow, found, moves⟩ := Option.bind_eq_some_iff.mp stepped
    cases same
    have phases := Flow.phase_ne_queued_of_step moves
    exact kept.update found phases.1 phases.2

/-- Every item is sound. -/
def AllSound (flows : List Flow) : Prop :=
  ∀ (number : Nat) (flow : Flow), flows[number]? = some flow → flow.Sound

theorem AllSound.modify {flows : List Flow} (sound : AllSound flows)
    {number : Nat} {change : Flow → Flow}
    (changed : ∀ flow, flows[number]? = some flow → (change flow).Sound) :
    AllSound (flows.modify number change) := by
  intro other after found
  rw [List.getElem?_modify] at found
  obtain ⟨flow, before, same⟩ := Option.map_eq_some_iff.mp found
  subst same
  split
  · rename_i same
    subst same
    exact changed flow before
  · exact sound other flow before

theorem AllSound.append {flows : List Flow} (sound : AllSound flows)
    (item : Item) : AllSound (flows ++ [.new item]) := by
  intro number flow found
  rcases List.mem_append.mp (List.mem_of_getElem? found) with old | new
  · obtain ⟨place, there⟩ := List.mem_iff_getElem?.mp old
    exact sound place flow there
  · rw [List.mem_singleton.mp new]
    exact Flow.sound_new item

theorem AllPlain.modify {queue : List Nat} {flows : List Flow}
    (plain : AllPlain queue flows) {number : Nat}
    (notQueued : number ∉ queue) (change : Flow → Flow) :
    AllPlain queue (flows.modify number change) := by
  intro other member flow found
  apply plain other member flow
  rwa [List.getElem?_modify_ne] at found
  rintro rfl
  exact notQueued member

theorem AllPlain.append {queue : List Nat} {flows : List Flow} (plain : AllPlain queue flows)
    (known : ∀ number ∈ queue, number < flows.length) {item : Item}
    (isPlain : item.IsPlain) :
    AllPlain (queue ++ [flows.length]) (flows ++ [.new item]) := by
  intro number member flow found
  rcases List.mem_append.mp member with old | new
  · rw [List.getElem?_append_left (known number old)] at found
    exact plain number old flow found
  · rw [List.mem_singleton.mp new, List.getElem?_concat_length] at found
    cases found
    exact isPlain

theorem Flow.Counted.isClear {flow : Flow} (counts : flow.Counted)
    (plain : flow.item.IsPlain) : flow.IsClear := by
  obtain ⟨noStream, noCallback⟩ := plain
  refine ⟨?_, counts.streamOpen_eq_false noStream⟩
  intro owed
  have counted := counts.counted
  rw [noCallback, decide_eq_true owed] at counted
  cases counted

theorem Flow.Counted.sound_admit {flow : Flow} (counts : flow.Counted)
    (wellFormed : flow.item.msg = none → flow.item.IsPlain) :
    flow.admit.Sound := by
  unfold Flow.admit
  cases msg : flow.item.msg with
  | none => exact counts.sound_goTo (counts.isClear (wellFormed msg))
  | some msg => exact counts.sound_goTo trivial

theorem Flow.Counted.drop {flow : Flow} (counts : flow.Counted)
    {inLoop : Bool} (plain : inLoop = false → flow.item.IsPlain) :
    (flow.drop inLoop).Sound := by
  cases inLoop with
  | false => exact counts.sound_goTo (counts.isClear (plain rfl))
  | true => exact counts.sound_goTo trivial

/-- Nothing has been lost. -/
structure Sound (state : State) : Prop where
  flows : AllSound state.flows
  stopped : state.worker = .stopped → AllPlain state.queue state.flows

theorem sound_initial : Sound {} := by
  constructor
  · intro number flow found
    rw [List.getElem?_nil] at found
    cases found
  · intro stopped
    cases stopped

theorem Sound.takeHead (sound : Sound state) (kept : Kept maxsize state)
    {number : Nat} {queue : List Nat} (head : state.queue = number :: queue)
    {change : Flow → Flow}
    (changed : ∀ flow, state.flows[number]? = some flow → (change flow).Sound) :
    Sound (state.takeHead number queue change) := by
  have nodup := kept.nodup
  rw [head] at nodup
  refine ⟨sound.flows.modify changed, ?_⟩
  intro stopped
  apply AllPlain.modify _ (List.nodup_cons.mp nodup).1
  intro other member
  apply sound.stopped stopped other
  rw [head]
  exact List.mem_cons_of_mem _ member

theorem Sound.step (sound : Sound state) (kept : Kept maxsize state)
    {action : Action} {after : State}
    (keeps : Keeps own maxsize state action)
    (applied : OutboundCompletion.step own maxsize state action = some after) : Sound after := by
  cases action with
  | enqueue item inLoop =>
    obtain ⟨base, made, enqueued, -, isBase, worker, queue, flows⟩ := kept.enqueue item inLoop
    dsimp only [OutboundCompletion.step] at applied
    rw [enqueued] at applied
    cases applied
    obtain ⟨plainWhenStopped, plainHead⟩ := keeps
    -- The oldest item may have been dropped.
    have soundBase : Sound base ∧ Kept maxsize base ∧ base.worker = state.worker := by
      rcases isBase with rfl | ⟨number, queue, head, full, rfl⟩
      · exact ⟨sound, kept, rfl⟩
      · refine ⟨sound.takeHead kept head ?_,
          kept.takeHead head fun flow => flow.phase_drop inLoop, rfl⟩
        intro flow found
        apply (sound.flows number flow found).counts.drop
        intro outside
        apply plainHead full outside number _ flow found
        rw [head]
        exact List.mem_singleton_self _
    obtain ⟨soundBase, keptBase, sameWorker⟩ := soundBase
    constructor
    · rw [flows]
      exact soundBase.flows.append item
    · intro stopped
      rw [queue, flows]
      rw [worker] at stopped
      exact (soundBase.stopped (sameWorker.trans stopped)).append
        keptBase.known (plainWhenStopped stopped)
  | start =>
    obtain ⟨-, same⟩ := Option.ite_none_right_eq_some.mp applied
    cases same
    exact ⟨sound.flows, nofun⟩
  | work =>
    obtain ⟨-, worked⟩ := Option.ite_none_right_eq_some.mp applied
    cases head : state.queue with
    | nil =>
      unfold workerLoop at worked
      rw [head] at worked
      cases worked
    | cons number queue =>
      rw [kept.workerLoop head] at worked
      cases worked
      apply sound.takeHead kept head
      intro flow found
      apply (sound.flows number flow found).counts.sound_admit
      exact keeps number (by rw [head]; rfl) flow found
  | stop =>
    cases applied
    refine ⟨sound.flows, ?_⟩
    dsimp only
    split
    · rename_i running
      exact fun _ => keeps running
    · exact sound.stopped
  | task number taskStep =>
    obtain ⟨moved, stepped, same⟩ := Option.map_eq_some_iff.mp applied
    obtain ⟨flow, found, moves⟩ := Option.bind_eq_some_iff.mp stepped
    cases same
    have notQueued : number ∉ state.queue := by
      intro member
      exact (Flow.phase_ne_queued_of_step moves).1 ((kept.queued number flow found).mpr member)
    refine ⟨?_, fun stopped => (sound.stopped stopped).modify notQueued _⟩
    apply sound.flows.modify
    intro _ _
    exact (sound.flows number flow found).step (keeps flow found) moves

/-! ## The end of a run -/

theorem Flow.exists_step {flow : Flow} (own : Routing)
    (left : flow.phase ≠ .queued) (notDone : flow.phase ≠ .done) :
    ∃ taskStep, (Action.task 0 taskStep).IsOwn ∧
      flow.step own taskStep ≠ none := by
  unfold Flow.step
  cases phase : flow.phase with
  | queued => exact absurd phase left
  | done => exact absurd phase notDone
  | dropped => exact ⟨.begin false false, trivial, by simp⟩
  | locking => exact ⟨.begin false false, trivial, by simp⟩
  | draining reason => exact ⟨.drained none, trivial, by simp⟩
  | sending attempt => exact ⟨.sent (.returned true), trivial, by simp⟩
  | sleeping attempt => exact ⟨.slept, trivial, by simp⟩
  | calling place => exact ⟨.called false, trivial, by simp⟩
  | notifying => exact ⟨.notified, trivial, by simp⟩

/-- When the dispatcher has nothing left to do, only plain items are queued and
the other ones are done. -/
theorem Sound.isClear_of_settled (sound : Sound state)
    (kept : Kept maxsize state) (settled : state.Settled own maxsize)
    {flow : Flow} (member : flow ∈ state.flows) : flow.IsClear := by
  obtain ⟨number, found⟩ := List.mem_iff_getElem?.mp member
  have flowSound := sound.flows number flow found
  by_cases queued : flow.phase = .queued
  · have inQueue := (kept.queued number flow found).mp queued
    cases worker : state.worker with
    | idle =>
      have none := settled .start trivial
      dsimp only [OutboundCompletion.step] at none
      rw [if_pos worker] at none
      cases none
    | stopped =>
      exact flowSound.counts.isClear (sound.stopped worker number inQueue flow found)
    | running =>
      have none := settled .work trivial
      dsimp only [OutboundCompletion.step] at none
      rw [if_pos worker] at none
      cases head : state.queue with
      | nil =>
        rw [head] at inQueue
        cases inQueue
      | cons number queue =>
        rw [kept.workerLoop head] at none
        cases none
  · by_cases done : flow.phase = .done
    · have fits := flowSound.fits
      unfold Flow.Fits at fits
      rwa [done] at fits
    · obtain ⟨taskStep, isOwn, moves⟩ := flow.exists_step own queued done
      have none := settled (.task number taskStep) (by
        cases taskStep <;> trivial)
      dsimp only [OutboundCompletion.step] at none
      rw [found, Option.map_eq_none_iff] at none
      exact absurd none moves

/-- A bound on the steps that the dispatcher still takes by itself. -/
def State.rest (state : State) : Nat := (decide (state.worker = .idle)).toNat +
    (state.flows.map fun flow => flow.phase.rest).sum

theorem sum_rest_modify {flows : List Flow} {number : Nat} {flow : Flow}
    {change : Flow → Flow} (found : flows[number]? = some flow)
    (less : (change flow).phase.rest < flow.phase.rest) :
    ((flows.modify number change).map fun flow => flow.phase.rest).sum <
      (flows.map fun flow => flow.phase.rest).sum := by
  induction flows generalizing number with
  | nil => cases found
  | cons first flows ih =>
    cases number with
    | zero =>
      cases found
      rw [List.modify_zero_cons, List.map_cons, List.map_cons, List.sum_cons, List.sum_cons]
      exact Nat.add_lt_add_right less _
    | succ number =>
      rw [List.modify_succ_cons, List.map_cons, List.map_cons, List.sum_cons, List.sum_cons]
      exact Nat.add_lt_add_left (ih found) _

theorem Kept.rest_step (kept : Kept maxsize state) {action : Action}
    (isOwn : action.IsOwn) {after : State}
    (applied : OutboundCompletion.step own maxsize state action =
      some after) : after.rest < state.rest := by
  unfold State.rest
  cases action with
  | enqueue item inLoop => cases isOwn
  | stop => cases isOwn
  | start =>
    obtain ⟨idle, same⟩ := Option.ite_none_right_eq_some.mp applied
    cases same
    rw [decide_eq_true idle]
    apply Nat.add_lt_add_right
    exact Nat.zero_lt_one
  | work =>
    obtain ⟨-, worked⟩ := Option.ite_none_right_eq_some.mp applied
    cases head : state.queue with
    | nil =>
      unfold OutboundCompletion.workerLoop at worked
      rw [head] at worked
      cases worked
    | cons number queue =>
      rw [kept.workerLoop head] at worked
      cases worked
      have inQueue : number ∈ state.queue := by
        rw [head]
        exact List.mem_cons_self
      have found := List.getElem?_eq_getElem (kept.known number inQueue)
      apply Nat.add_lt_add_left
      apply sum_rest_modify found
      rw [(kept.queued number _ found).mpr inQueue]
      unfold Flow.admit
      split
      · exact Nat.lt_succ_self _
      · exact Nat.zero_lt_succ _
  | task number taskStep =>
    obtain ⟨moved, stepped, same⟩ := Option.map_eq_some_iff.mp applied
    obtain ⟨flow, found, moves⟩ := Option.bind_eq_some_iff.mp stepped
    cases same
    apply Nat.add_lt_add_left
    exact sum_rest_modify found (Flow.rest_step moves)

theorem Kept.length_le_rest (kept : Kept maxsize state)
    {actions : List Action} (isOwn : ∀ action ∈ actions, action.IsOwn)
    {after : State}
    (runs : (dispatcher own maxsize).run state actions = some after) :
    actions.length ≤ state.rest := by
  induction actions generalizing state with
  | nil => exact Nat.zero_le _
  | cons action actions ih =>
    obtain ⟨middle, applied, rest⟩ := Option.bind_eq_some_iff.mp runs
    have less := kept.rest_step (isOwn action List.mem_cons_self) applied
    have bound := ih (kept.step applied)
      (fun other member => isOwn other (List.mem_cons_of_mem _ member)) rest
    rw [List.length_cons]
    omega

theorem Flow.Sound.fired_le {flow : Flow} (sound : flow.Sound) :
    flow.fired ≤ flow.item.hasCallback.toNat := by
  rw [← sound.counts.counted]
  exact Nat.le_add_right _ _

theorem Flow.Sound.completed {flow : Flow} (sound : flow.Sound)
    (clear : flow.IsClear) : flow.Completed := by
  obtain ⟨paid, closed⟩ := clear
  have counted := sound.counts.counted
  rw [decide_eq_false paid] at counted
  exact ⟨closed, counted⟩

/-- A dispatcher that loses no item completes each of them once. -/
theorem completedOnce_of_keeps (own : Routing) (maxsize : Int) (state : State)
    (reached : (dispatcher own maxsize).ReachableWithin (Keeps own maxsize) state) :
    CompletedOnce own maxsize state := by
  have kept : ∀ state, (dispatcher own maxsize).ReachableWithin
      (Keeps own maxsize) state → Kept maxsize state := by
    intro state reached
    apply reached.invariant
    · rintro _ rfl
      exact kept_initial
    · intro state action after kept _ applied
      exact kept.step applied
  have sound : Sound state := by
    apply reached.invariant_of_invariant kept
    · rintro _ rfl
      exact sound_initial
    · intro state action after kept sound keeps applied
      exact sound.step kept keeps applied
  have kept := kept state reached
  have flow : ∀ flow ∈ state.flows, flow.Sound := by
    intro flow member
    obtain ⟨number, found⟩ := List.mem_iff_getElem?.mp member
    exact sound.flows number flow found
  constructor
  · exact kept.bounded
  · intro item inLoop
    obtain ⟨-, after, enqueued, -⟩ := kept.enqueue item inLoop
    exact ⟨after, enqueued⟩
  · intro one member
    exact (flow one member).fired_le
  · intro settled one member
    exact (flow one member).completed (sound.isClear_of_settled kept settled member)
  · exact ⟨state.rest, fun _ isOwn _ runs => kept.length_le_rest isOwn runs⟩

section Example

instance (own : Routing) (flow : Flow) (taskStep : TaskStep) :
    Decidable (flow.Keeps own taskStep) := by
  unfold Flow.Keeps
  split
  · infer_instance
  · infer_instance
  · split <;> infer_instance
  all_goals infer_instance

instance (own : Routing) (maxsize : Int) (state : State) (action : Action) :
    Decidable (Keeps own maxsize state action) := by
  unfold Keeps
  split <;> infer_instance

def exampleBot : Routing := ⟨"telegram", "main"⟩

def exampleMessage : Message := ⟨"telegram", "main", some exampleBot⟩

/-- An answer whose turn waits for the callback. -/
def exampleItem (routing : Option Routing) : Item := ⟨some exampleMessage,
    .streaming (some ⟨routing, some .trusted⟩)⟩

/-- A stream is sent. -/
theorem completedOnce_after_stream : ∃ state : State, (state.worker = .running ∧
      ∀ flow ∈ state.flows, flow.phase = .done ∧ flow.fired = 1) ∧
        CompletedOnce exampleBot 50 state := by
  have run : ∃ state : State, (dispatcher exampleBot 50).ReachableWithin (Keeps exampleBot 50)
        state ∧ state.worker = .running ∧
          ∀ flow ∈ state.flows, flow.phase = .done ∧ flow.fired = 1 :=
    TransitionSystem.exists_reachableWithin_of_checkedRun {} rfl
      [.enqueue (exampleItem (some exampleBot)) true, .start, .work,
        .task 0 (.begin false false), .task 0 (.sent (.returned true)),
        .task 0 (.called false)]
      (by decide)
  obtain ⟨state, reached, holds⟩ := run
  exact ⟨state, holds, completedOnce_of_keeps exampleBot 50 state reached⟩

theorem settled_of_done (notIdle : state.worker ≠ .idle)
    (empty : state.worker = .running → state.queue = [])
    (done : ∀ flow ∈ state.flows, flow.phase = .done ∨ flow.phase = .queued) :
    state.Settled own maxsize := by
  intro action isOwn
  cases action with
  | enqueue item inLoop => cases isOwn
  | stop => cases isOwn
  | start => exact if_neg notIdle
  | work =>
    dsimp only [OutboundCompletion.step]
    split
    · rename_i running
      unfold workerLoop
      rw [empty running]
    · rfl
  | task number taskStep =>
    dsimp only [OutboundCompletion.step]
    cases found : state.flows[number]? with
    | none => rfl
    | some flow =>
      have none : flow.step own taskStep = none := by
        unfold Flow.step
        rcases done flow (List.mem_of_getElem? found) with phase | phase <;>
          rw [phase] <;> cases taskStep <;> simp
      rw [Option.bind_some, none]
      rfl

/-- An item for another bot ends without its callback, and an item that is
still in the queue of a stopped dispatcher keeps its stream. -/
theorem exists_lost_item : (∃ state : State, (dispatcher exampleBot 50).Reachable state ∧
      state.Settled exampleBot 50 ∧ ∃ flow ∈ state.flows, flow.phase = .done ∧ ¬ flow.Completed) ∧
    (∃ state : State, (dispatcher exampleBot 50).Reachable state ∧ state.Settled exampleBot 50 ∧
        ∃ flow ∈ state.flows, flow.phase = .queued ∧ ¬ flow.Completed) ∧
    ¬ ∀ state : State, (dispatcher exampleBot 50).Reachable state →
      CompletedOnce exampleBot 50 state := by
  have misrouted : ∃ state : State, (dispatcher exampleBot 50).Reachable state ∧
        (state.worker ≠ .idle ∧ (state.worker = .running → state.queue = []) ∧ ∀ flow ∈ state.flows,
            flow.phase = .done ∨ flow.phase = .queued) ∧
        ∃ flow ∈ state.flows, flow.phase = .done ∧ flow.fired ≠ flow.item.hasCallback.toNat :=
    TransitionSystem.exists_reachable_of_run {} rfl
      [.enqueue (exampleItem (some ⟨"telegram", "other"⟩)) true, .start,
        .work, .task 0 (.begin false false), .task 0 (.drained none)]
      (by decide)
  have stopped : ∃ state : State, (dispatcher exampleBot 50).Reachable state ∧
        (state.worker ≠ .idle ∧ (state.worker = .running → state.queue = []) ∧ ∀ flow ∈ state.flows,
            flow.phase = .done ∨ flow.phase = .queued) ∧
        ∃ flow ∈ state.flows, flow.phase = .queued ∧ flow.fired ≠ flow.item.hasCallback.toNat :=
    TransitionSystem.exists_reachable_of_run {} rfl
      [.start, .enqueue (exampleItem (some exampleBot)) true, .stop]
      (by decide)
  obtain ⟨first, reached, ⟨notIdle, empty, done⟩, lost, member, phase, unfired⟩ := misrouted
  have settled : first.Settled exampleBot 50 :=
    settled_of_done notIdle empty done
  have incomplete : ¬ lost.Completed := fun completed =>
    unfired completed.fired
  refine ⟨⟨first, reached, settled, lost, member, phase, incomplete⟩, ?_, ?_⟩
  · obtain ⟨second, reached, ⟨notIdle, empty, done⟩, lost, member, phase, unfired⟩ := stopped
    exact ⟨second, reached, settled_of_done notIdle empty done, lost, member,
      phase, fun completed => unfired completed.fired⟩
  · intro always
    exact incomplete ((always first reached).completed settled lost member)

end Example

end OutboundCompletion

end RoxabiFactory

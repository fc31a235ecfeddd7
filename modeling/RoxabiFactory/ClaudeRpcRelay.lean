import Mathlib.Tactic.Linarith
import RoxabiFactory.ClaudeRpcDriver

/-!
# What the driver relays

The result task and the progress task put their messages into one queue, so a
result may pass progress that was published before it, and the result task
waits `timeout_s` for the whole run.  The stream is the worker's run when
neither happens: every message is then in exactly one place on its way, and no
timer of the driver is due before the result has been taken.
-/

namespace RoxabiFactory

namespace ClaudeRpcDriver

variable {timeout : ℚ} {state after : State}

def Entry.isProgress : Entry → Bool
  | progress _ => true
  | result _ => false

/-- The generator has taken no result yet. -/
def Consumer.running : Consumer → Bool
  | submitting | waiting _ | yielding => true
  | persisting _ | ended | raised => false

theorem State.alive_of_running (running : state.consumer.running = true) : state.alive = true := by
  unfold State.alive
  cases consumer : state.consumer <;> simp_all [Consumer.running]

/-- The events still to be yielded, in their order. -/
def State.pending (state : State) : List LlmEvent := (match state.consumer with
    | .persisting data => [terminalEvent (some (.success data))]
    | _ => []) ++
  state.queue.filterMap Entry.event ++
  state.progressSub.filterMap progressEvent ++
  state.resultSub.toList.map terminalEvent

theorem State.pending_of_running (running : state.consumer.running = true) :
    state.pending = state.queue.filterMap Entry.event ++
      state.progressSub.filterMap progressEvent ++
      state.resultSub.toList.map terminalEvent := by
  unfold State.pending
  cases consumer : state.consumer <;> simp_all [Consumer.running]

theorem State.pending_pumpProgress {data : Option JobProgress} {rest : List (Option JobProgress)}
    (next : state.progressSub = data :: rest) (pump : Option ℚ) :
    State.pending
      { state with
        progressSub := rest
        queue := state.queue ++ [.progress data]
        progressPump := pump } = state.pending := by
  unfold State.pending
  cases decoded : progressEvent data <;>
    simp [next, Entry.event, decoded]

/-- Where the result is on its way to the generator. -/
inductive ResultPlace (state : State) : Prop
  | unpublished (finished : state.finished = none)
      (sub : state.resultSub = none) (pump : state.resultPump = some 0)
      (front : ∀ entry ∈ state.queue, entry.isProgress = true)
      (running : state.consumer.running = true)
  | delivered (data : Option JobResult) (finished : state.finished = some data)
      (sub : state.resultSub = some data) (pump : state.resultPump = some 0)
      (front : ∀ entry ∈ state.queue, entry.isProgress = true)
      (running : state.consumer.running = true)
  | queued (data : Option JobResult) (entries : List Entry) (finished : state.finished = some data)
      (sub : state.resultSub = none) (pump : state.resultPump = none)
      (drained : state.progressSub = [])
      (queue : state.queue = entries ++ [.result data])
      (front : ∀ entry ∈ entries, entry.isProgress = true)
      (running : state.consumer.running = true)
  | persisting (data : List (String × Json))
      (finished : state.finished = some (some (.success data)))
      (sub : state.resultSub = none) (pump : state.resultPump = none)
      (drained : state.progressSub = []) (queue : state.queue = [])
      (taken : state.consumer = .persisting data)
  | ended (data : Option JobResult) (finished : state.finished = some data)
      (sub : state.resultSub = none) (pump : state.resultPump = none)
      (drained : state.progressSub = []) (queue : state.queue = [])
      (taken : state.consumer = .ended)

/-- No timer of the driver is due while its message is on the way. -/
structure Timely (timeout : ℚ) (state : State) : Prop where
  clock : 0 ≤ state.clock
  resultWaits : state.resultPump.isSome → state.clock < timeout
  consumerWaits : ∀ since, state.consumer = .waiting since →
    0 ≤ since ∧ state.clock < since + timeout
  progressWaits : ∀ since, state.progressPump = some since →
    0 ≤ since ∧ (state.progressSub ≠ [] → state.clock < since + timeout)
  progressDone : state.progressPump = none → state.finished.isSome ∧ state.progressSub = []

theorem Timely.of_eq (timely : Timely timeout state) (clock : after.clock = state.clock)
    (resultPump : after.resultPump = state.resultPump)
    (consumer : after.consumer = state.consumer)
    (progressPump : after.progressPump = state.progressPump)
    (progressSub : after.progressSub = state.progressSub)
    (finished : after.finished = state.finished) : Timely timeout after := by
  obtain ⟨nonneg, resultWaits, consumerWaits, progressWaits, progressDone⟩ := timely
  constructor <;> simp only [clock, resultPump, consumer, progressPump,
    progressSub, finished] <;> assumption

structure Relaying (timeout : ℚ) (state : State) : Prop where
  place : ResultPlace state
  timely : Timely timeout state
  events : state.out ++ state.pending = state.expected

/-- The result is published less than `timeout_s` after the subscription, its
task forwards it when no progress is left to forward, and neither the envelope
nor the session id fails to be published. -/
def RelaysInOrder (timeout : ℚ) (state : State) : Action → Prop
  | .tick now => state.finished = none → now < timeout
  | .pumpResult => state.progressSub = []
  | .submitRaises _ | .persistRaises _ => False
  | _ => True

namespace ResultPlace

theorem running_of_unfinished (place : ResultPlace state) (unfinished : state.finished = none) :
    state.resultSub = none ∧ state.resultPump = some 0 ∧
      (∀ entry ∈ state.queue, entry.isProgress = true) ∧
      state.consumer.running = true := by
  cases place with
  | unpublished _ sub pump front running => exact ⟨sub, pump, front, running⟩
  | delivered _ finished | queued _ _ finished | persisting _ finished
  | ended _ finished => simp [unfinished] at finished

/-- The result task waits exactly as long as the result is not in the
queue. -/
theorem pump_eq (place : ResultPlace state) {since : ℚ} (waits : state.resultPump = some since) :
    since = 0 ∧ state.consumer.running = true ∧
      (∀ entry ∈ state.queue, entry.isProgress = true) := by
  cases place with
  | unpublished _ _ pump front running | delivered _ _ _ pump front running =>
    rw [pump] at waits
    cases waits
    exact ⟨rfl, running, front⟩
  | queued _ _ _ _ pump | persisting _ _ _ pump | ended _ _ _ pump =>
    simp [pump] at waits

theorem not_raised (place : ResultPlace state) : state.consumer ≠ .raised := by
  intro raised
  cases place with
  | unpublished _ _ _ _ running | delivered _ _ _ _ _ running
  | queued _ _ _ _ _ _ _ _ running => simp [raised, Consumer.running] at running
  | persisting _ _ _ _ _ _ taken | ended _ _ _ _ _ _ taken =>
    simp [raised] at taken

/-- A generator that waits or is suspended at a `yield` may be moved. -/
theorem moved (place : ResultPlace state) (consumer : Consumer)
    (running : state.consumer.running = true)
    (runs : consumer.running = true) :
    ResultPlace { state with consumer := consumer } := by
  cases place with
  | unpublished finished sub pump front =>
    exact .unpublished finished sub pump front runs
  | delivered data finished sub pump front =>
    exact .delivered data finished sub pump front runs
  | queued data entries finished sub pump drained queue front =>
    exact .queued data entries finished sub pump drained queue front runs
  | persisting _ _ _ _ _ _ taken | ended _ _ _ _ _ _ taken =>
    simp [taken, Consumer.running] at running

theorem of_eq (place : ResultPlace state) (finished : after.finished = state.finished)
    (resultSub : after.resultSub = state.resultSub)
    (resultPump : after.resultPump = state.resultPump)
    (progressSub : after.progressSub = state.progressSub)
    (queue : after.queue = state.queue)
    (consumer : after.consumer = state.consumer) : ResultPlace after := by
  cases place with
  | unpublished published sub pump front running =>
    exact .unpublished (finished ▸ published) (resultSub ▸ sub)
      (resultPump ▸ pump) (queue ▸ front) (consumer ▸ running)
  | delivered data published sub pump front running =>
    exact .delivered data (finished ▸ published) (resultSub ▸ sub)
      (resultPump ▸ pump) (queue ▸ front) (consumer ▸ running)
  | queued data entries published sub pump drained entriesEq front running =>
    exact .queued data entries (finished ▸ published) (resultSub ▸ sub)
      (resultPump ▸ pump) (progressSub ▸ drained) (queue ▸ entriesEq) front
      (consumer ▸ running)
  | persisting data published sub pump drained entriesEq taken =>
    exact .persisting data (finished ▸ published) (resultSub ▸ sub)
      (resultPump ▸ pump) (progressSub ▸ drained) (queue ▸ entriesEq)
      (consumer ▸ taken)
  | ended data published sub pump drained entriesEq taken =>
    exact .ended data (finished ▸ published) (resultSub ▸ sub)
      (resultPump ▸ pump) (progressSub ▸ drained) (queue ▸ entriesEq)
      (consumer ▸ taken)

/-- When no task of the driver can go on, the result is not published or no
task waits for it. -/
theorem of_idle (place : ResultPlace state) (idle : state.ready = false) : state.finished = none ∨
      (state.resultPump = none ∧ state.progressSub = [] ∧
        ∀ since, state.consumer ≠ .waiting since) := by
  cases place with
  | unpublished finished => exact .inl finished
  | delivered data _ sub pump _ running =>
    simp [State.ready, State.alive_of_running running, sub, pump] at idle
  | queued data entries _ _ pump drained queue _ running =>
    refine .inr ⟨pump, drained, fun since waits => ?_⟩
    simp [State.ready, State.alive, waits, queue] at idle
  | persisting data _ _ pump drained _ taken =>
    exact .inr ⟨pump, drained, fun since waits => by simp [taken] at waits⟩
  | ended data _ _ pump drained _ taken =>
    exact .inr ⟨pump, drained, fun since waits => by simp [taken] at waits⟩

theorem taken (place : ResultPlace state) {data : Option JobProgress}
    {rest : List Entry} (first : state.queue = .progress data :: rest)
    (running : state.consumer.running = true) :
    ResultPlace { state with queue := rest } := by
  cases place with
  | unpublished finished sub pump front =>
    rw [first] at front
    exact .unpublished finished sub pump (List.forall_mem_of_forall_mem_cons front) running
  | delivered result finished sub pump front =>
    rw [first] at front
    exact .delivered result finished sub pump (List.forall_mem_of_forall_mem_cons front) running
  | queued result entries finished sub pump drained queue front =>
    cases entries with
    | nil => simp [first] at queue
    | cons entry entries =>
      rw [first, List.cons_append] at queue
      exact .queued result entries finished sub pump drained
        (List.cons.inj queue).2 (List.forall_mem_of_forall_mem_cons front)
        running
  | persisting _ _ _ _ _ _ taken | ended _ _ _ _ _ _ taken =>
    simp [taken, Consumer.running] at running

theorem last (place : ResultPlace state) {data : Option JobResult}
    {rest : List Entry} (first : state.queue = .result data :: rest) :
    rest = [] ∧ state.finished = some data ∧ state.resultSub = none ∧
      state.resultPump = none ∧ state.progressSub = [] := by
  cases place with
  | unpublished _ _ _ front | delivered _ _ _ _ front =>
    have isProgress := front (.result data) (by simp [first])
    simp [Entry.isProgress] at isProgress
  | queued result entries finished sub pump drained queue front =>
    cases entries with
    | nil =>
      rw [first, List.nil_append] at queue
      obtain ⟨same, rfl⟩ := List.cons.inj queue
      obtain rfl := Entry.result.inj same
      exact ⟨rfl, finished, sub, pump, drained⟩
    | cons entry entries =>
      rw [first, List.cons_append] at queue
      obtain ⟨rfl, -⟩ := List.cons.inj queue
      have isProgress := front (.result data) (by simp)
      simp [Entry.isProgress] at isProgress
  | persisting _ _ _ _ _ queue | ended _ _ _ _ _ queue =>
    simp [first] at queue

end ResultPlace

namespace Relaying

theorem unfinished_clock (relaying : Relaying timeout state)
    (unfinished : state.finished = none) : state.clock < timeout := by
  have pump := (relaying.place.running_of_unfinished unfinished).2.1
  exact relaying.timely.resultWaits (by simp [pump])

theorem publishProgress (relaying : Relaying timeout state)
    (data : Option JobProgress) (unfinished : state.finished = none) :
    Relaying timeout
      { state with
        progressSub := state.progressSub ++ [data]
        published := state.published ++ [data]
        lastArrival := state.clock } := by
  have young := relaying.unfinished_clock unfinished
  obtain ⟨sub, pump, front, running⟩ := relaying.place.running_of_unfinished unfinished
  refine ⟨.unpublished unfinished sub pump front running, ?_, ?_⟩
  · refine ⟨relaying.timely.clock, relaying.timely.resultWaits,
      relaying.timely.consumerWaits, fun since waits => ?_, fun returned => ?_⟩
    · have nonneg := (relaying.timely.progressWaits since waits).1
      exact ⟨nonneg, fun _ => by linarith⟩
    · have finished := (relaying.timely.progressDone returned).1
      simp [unfinished] at finished
  · have events := relaying.events
    rw [State.pending_of_running running] at events
    rw [State.pending_of_running (by exact running)]
    simp only [State.expected, unfinished, sub, Option.toList_none,
      List.map_nil, List.append_nil, List.filterMap_append] at events ⊢
    rw [← events]
    simp only [List.append_assoc]

theorem publishResult (relaying : Relaying timeout state)
    (data : Option JobResult) (unfinished : state.finished = none) :
    Relaying timeout
      { state with
        resultSub := some data
        finished := some data
        lastArrival := state.clock } := by
  obtain ⟨sub, pump, front, running⟩ := relaying.place.running_of_unfinished unfinished
  refine ⟨.delivered data rfl rfl pump front running, ?_, ?_⟩
  · refine ⟨relaying.timely.clock, relaying.timely.resultWaits,
      relaying.timely.consumerWaits, relaying.timely.progressWaits,
      fun returned => ?_⟩
    have finished := (relaying.timely.progressDone returned).1
    simp [unfinished] at finished
  · have events := relaying.events
    rw [State.pending_of_running running] at events
    rw [State.pending_of_running (by exact running)]
    simp only [State.expected, unfinished, sub, Option.toList_none,
      Option.toList_some, List.map_nil, List.append_nil] at events ⊢
    rw [← events]
    simp only [List.append_assoc]

/-- Time passes only while no message of the job is on its way. -/
theorem tick (relaying : Relaying timeout state)
    (now : ℚ) (later : state.clock < now) (idle : state.ready = false)
    (young : state.finished = none → now < timeout) :
    Relaying timeout { state with clock := now } := by
  have clock := relaying.timely.clock
  have quiet := relaying.place.of_idle idle
  refine ⟨relaying.place.of_eq rfl rfl rfl rfl rfl rfl,
    ⟨by change 0 ≤ now; linarith, ?_, ?_, ?_, relaying.timely.progressDone⟩,
    relaying.events⟩
  · intro waits
    rcases quiet with unfinished | ⟨returned, -, -⟩
    · exact young unfinished
    · simp [returned] at waits
  · intro since waits
    have nonneg := (relaying.timely.consumerWaits since waits).1
    rcases quiet with unfinished | ⟨-, -, elsewhere⟩
    · have := young unfinished
      exact ⟨nonneg, by change now < _; linarith⟩
    · exact absurd waits (elsewhere since)
  · intro since waits
    have nonneg := (relaying.timely.progressWaits since waits).1
    rcases quiet with unfinished | ⟨-, drained, -⟩
    · have := young unfinished
      exact ⟨nonneg, fun _ => by change now < _; linarith⟩
    · exact ⟨nonneg, fun remains => absurd drained remains⟩

theorem waits (relaying : Relaying timeout state) (positive : 0 < timeout)
    (running : state.consumer.running = true) (arrival : ℚ) :
    Relaying timeout
      { state with
        consumer := .waiting state.clock
        lastArrival := arrival } := by
  have moved := relaying.place.moved (.waiting state.clock) running rfl
  refine ⟨moved.of_eq rfl rfl rfl rfl rfl rfl, ⟨relaying.timely.clock, relaying.timely.resultWaits, ?_,
      relaying.timely.progressWaits, relaying.timely.progressDone⟩, ?_⟩
  · rintro since ⟨⟩
    exact ⟨relaying.timely.clock, by change state.clock < _; linarith⟩
  · have events := relaying.events
    rw [State.pending_of_running running] at events
    exact events

theorem pumpProgress (relaying : Relaying timeout state)
    (positive : 0 < timeout) {data : Option JobProgress}
    {rest : List (Option JobProgress)}
    (next : state.progressSub = data :: rest) :
    Relaying timeout
      { state with
        progressSub := rest
        queue := state.queue ++ [.progress data]
        progressPump := some state.clock } := by
  have clock := relaying.timely.clock
  have timely : Timely timeout
      { state with
        progressSub := rest
        queue := state.queue ++ [.progress data]
        progressPump := some state.clock } := by
    refine ⟨clock, relaying.timely.resultWaits, relaying.timely.consumerWaits,
      ?_, fun returned => nomatch returned⟩
    rintro since ⟨⟩
    exact ⟨clock, fun _ => by change state.clock < _; linarith⟩
  have front (before : ∀ entry ∈ state.queue, entry.isProgress = true) :
      ∀ entry ∈ state.queue ++ [.progress data], entry.isProgress = true := by
    intro entry member
    rcases List.mem_append.mp member with old | new
    · exact before entry old
    · rw [List.mem_singleton.mp new]
      rfl
  refine ⟨?_, timely, ?_⟩
  · cases relaying.place with
    | unpublished finished sub pump before running =>
      exact .unpublished finished sub pump (front before) running
    | delivered result finished sub pump before running =>
      exact .delivered result finished sub pump (front before) running
    | queued _ _ _ _ _ drained | persisting _ _ _ _ drained
    | ended _ _ _ _ drained => simp [next] at drained
  · rw [State.pending_pumpProgress next]
    exact relaying.events

theorem pumpResult (relaying : Relaying timeout state) {data : Option JobResult} {since : ℚ}
    (waits : state.resultPump = some since)
    (arrived : state.resultSub = some data)
    (drained : state.progressSub = []) :
    Relaying timeout
      { state with
        resultSub := none
        queue := state.queue ++ [.result data]
        resultPump := none } := by
  have events := relaying.events
  cases relaying.place with
  | delivered result finished sub pump before running =>
    obtain rfl : result = data := by simpa [sub] using arrived
    refine ⟨.queued result state.queue finished rfl rfl drained rfl before
      running, ⟨relaying.timely.clock, fun waits => by simp at waits,
      relaying.timely.consumerWaits, relaying.timely.progressWaits,
      relaying.timely.progressDone⟩, ?_⟩
    rw [State.pending_of_running running, drained, sub] at events
    rw [State.pending_of_running (by exact running)]
    change _ = state.expected
    rw [← events]
    simp [Entry.event, drained]
  | unpublished _ sub => simp [sub] at arrived
  | queued _ _ _ _ pump | persisting _ _ _ pump | ended _ _ _ pump =>
    simp [pump] at waits

/-- A timer of the progress task fires only after the last message. -/
theorem progressExpires (relaying : Relaying timeout state) {since : ℚ}
    (waits : state.progressPump = some since)
    (due : since + timeout ≤ state.clock) :
    Relaying timeout { state with progressPump := none } := by
  obtain ⟨nonneg, soon⟩ := relaying.timely.progressWaits since waits
  have finished : state.finished.isSome := by
    by_contra open'
    have young := relaying.unfinished_clock (by simpa using open')
    linarith
  have drained : state.progressSub = [] := by
    by_contra remains
    have := soon remains
    linarith
  exact ⟨relaying.place.of_eq rfl rfl rfl rfl rfl rfl, ⟨relaying.timely.clock,
    relaying.timely.resultWaits, relaying.timely.consumerWaits,
    fun _ waits => by simp at waits, fun _ => ⟨finished, drained⟩⟩,
    relaying.events⟩

theorem not_resultExpires (relaying : Relaying timeout state) {since : ℚ}
    (waits : state.resultPump = some since) :
    ¬ since + timeout ≤ state.clock := by
  have young := relaying.timely.resultWaits (by simp [waits])
  have first := (relaying.place.pump_eq waits).1
  subst first
  linarith

theorem not_consumeExpires (relaying : Relaying timeout state) {since : ℚ}
    (waits : state.consumer = .waiting since) :
    ¬ since + timeout ≤ state.clock := by
  have soon := (relaying.timely.consumerWaits since waits).2
  linarith

theorem consumeProgress (relaying : Relaying timeout state)
    (positive : 0 < timeout) (running : state.consumer.running = true)
    {data : Option JobProgress} {rest : List Entry}
    (first : state.queue = .progress data :: rest) (linked : Bool) :
    Relaying timeout (({ state with queue := rest } : State).handle linked
        (.progress data)) := by
  have place := relaying.place.taken first running
  have events := relaying.events
  rw [State.pending_of_running running, first] at events
  cases decoded : progressEvent data with
  | none =>
    simp only [State.handle, decoded]
    have kept : Relaying timeout { state with queue := rest } := by
      refine ⟨place, relaying.timely.of_eq rfl rfl rfl rfl rfl rfl, ?_⟩
      rw [State.pending_of_running (by exact running)]
      rw [List.filterMap_cons_none (by exact decoded)] at events
      exact events
    exact kept.waits positive running state.lastArrival
  | some event =>
    simp only [State.handle, decoded]
    refine ⟨(place.moved .yielding running rfl).of_eq rfl rfl rfl rfl rfl rfl,
      ⟨relaying.timely.clock, relaying.timely.resultWaits,
        (fun _ waits => nomatch waits), relaying.timely.progressWaits,
        relaying.timely.progressDone⟩, ?_⟩
    rw [State.pending_of_running rfl]
    rw [List.filterMap_cons_some (by exact decoded)] at events
    change _ = state.expected
    rw [← events]
    simp

theorem consumeResult (relaying : Relaying timeout state) (running : state.consumer.running = true)
    {data : Option JobResult} {rest : List Entry}
    (first : state.queue = .result data :: rest) (linked : Bool) :
    Relaying timeout (({ state with queue := rest } : State).handle linked
        (.result data)) := by
  obtain ⟨rfl, finished, sub, pump, drained⟩ := relaying.place.last first
  have events := relaying.events
  rw [State.pending_of_running running, first, drained, sub] at events
  have published : state.out ++ [terminalEvent data] = state.expected := by
    simpa [Entry.event] using events
  have timely (consumer : Consumer) (out : List LlmEvent)
      (elsewhere : ∀ since, consumer ≠ .waiting since) :
      Timely timeout { state with queue := [], consumer := consumer, out := out } :=
    ⟨relaying.timely.clock, relaying.timely.resultWaits,
      fun since waits => absurd waits (elsewhere since),
      relaying.timely.progressWaits, relaying.timely.progressDone⟩
  have ends : Relaying timeout
      { state with
        queue := []
        consumer := .ended
        out := state.out ++ [terminalEvent data] } := by
    refine ⟨.ended data finished sub pump drained rfl rfl,
      timely _ _ (fun since waits => nomatch waits), ?_⟩
    simp only [State.pending, drained, sub, List.filterMap_nil,
      Option.toList_none, List.map_nil, List.append_nil]
    exact published
  cases data with
  | none => exact ends
  | some result =>
    cases result with
    | error error => exact ends
    | success data =>
      simp only [State.handle]
      split
      · refine ⟨.persisting data finished sub pump drained rfl rfl,
          timely _ state.out (fun since waits => nomatch waits), ?_⟩
        simp only [State.pending, drained, sub, List.filterMap_nil,
          Option.toList_none, List.map_nil, List.append_nil]
        exact published
      · exact ends

theorem persisted (relaying : Relaying timeout state) {data : List (String × Json)}
    (persists : state.consumer = .persisting data) :
    Relaying timeout
      { state with
        consumer := .ended
        out := state.out ++ [terminalEvent (some (.success data))] } := by
  have events := relaying.events
  cases relaying.place with
  | persisting other finished sub pump drained queue taken =>
    obtain rfl : other = data := by simpa [taken] using persists
    refine ⟨.ended _ finished sub pump drained queue rfl,
      ⟨relaying.timely.clock, relaying.timely.resultWaits,
        (fun _ waits => nomatch waits), relaying.timely.progressWaits,
        relaying.timely.progressDone⟩, ?_⟩
    change _ = state.expected
    rw [← events]
    simp [State.pending, persists, drained, sub, queue]
  | unpublished _ _ _ _ running | delivered _ _ _ _ _ running
  | queued _ _ _ _ _ _ _ _ running =>
    simp [persists, Consumer.running] at running
  | ended _ _ _ _ _ _ taken => simp [persists] at taken

/-- Every step that meets the condition keeps the messages on their way. -/
theorem step (relaying : Relaying timeout state) (positive : 0 < timeout)
    {action : Action} (inOrder : RelaysInOrder timeout state action)
    (stepTo : step timeout state action = some after) :
    Relaying timeout after := by
  cases action with
  | publishProgress data =>
    simp only [ClaudeRpcDriver.step, Option.ite_none_right_eq_some, Option.some.injEq] at stepTo
    obtain ⟨⟨unfinished, -⟩, rfl⟩ := stepTo
    exact relaying.publishProgress data (Option.isNone_iff_eq_none.mp unfinished)
  | publishResult data =>
    simp only [ClaudeRpcDriver.step, Option.ite_none_right_eq_some, Option.some.injEq] at stepTo
    obtain ⟨⟨unfinished, -⟩, rfl⟩ := stepTo
    exact relaying.publishResult data (Option.isNone_iff_eq_none.mp unfinished)
  | tick now =>
    simp only [ClaudeRpcDriver.step, Option.ite_none_right_eq_some, Option.some.injEq] at stepTo
    obtain ⟨⟨later, idle, -⟩, rfl⟩ := stepTo
    exact relaying.tick now later idle inOrder
  | submitted =>
    simp only [ClaudeRpcDriver.step, Option.ite_none_right_eq_some, Option.some.injEq] at stepTo
    obtain ⟨submitting, rfl⟩ := stepTo
    exact relaying.waits positive (by simp [submitting, Consumer.running]) _
  | submitRaises timedOut => exact inOrder.elim
  | pumpProgress =>
    simp only [ClaudeRpcDriver.step] at stepTo
    split at stepTo
    next data rest _ next =>
      simp only [Option.ite_none_right_eq_some, Option.some.injEq] at stepTo
      obtain ⟨-, rfl⟩ := stepTo
      exact relaying.pumpProgress positive next
    · cases stepTo
  | progressExpires =>
    simp only [ClaudeRpcDriver.step] at stepTo
    split at stepTo
    next since waits =>
      simp only [Option.ite_none_right_eq_some, Option.some.injEq] at stepTo
      obtain ⟨⟨-, due⟩, rfl⟩ := stepTo
      exact relaying.progressExpires waits due
    · cases stepTo
  | pumpResult =>
    simp only [ClaudeRpcDriver.step] at stepTo
    split at stepTo
    next since data waits arrived =>
      simp only [Option.ite_none_right_eq_some, Option.some.injEq] at stepTo
      obtain ⟨-, rfl⟩ := stepTo
      exact relaying.pumpResult waits arrived inOrder
    · cases stepTo
  | resultExpires =>
    simp only [ClaudeRpcDriver.step] at stepTo
    split at stepTo
    next since waits =>
      simp only [Option.ite_none_right_eq_some, Option.some.injEq] at stepTo
      exact absurd stepTo.1.2 (relaying.not_resultExpires waits)
    · cases stepTo
  | consume linked =>
    simp only [ClaudeRpcDriver.step] at stepTo
    split at stepTo
    next since entry rest waits first =>
      cases stepTo
      have running : state.consumer.running = true := by
        simp [waits, Consumer.running]
      cases entry with
      | progress data =>
        exact relaying.consumeProgress positive running first linked
      | result data => exact relaying.consumeResult running first linked
    · cases stepTo
  | consumeExpires =>
    simp only [ClaudeRpcDriver.step] at stepTo
    split at stepTo
    next since waits =>
      simp only [Option.ite_none_right_eq_some, Option.some.injEq] at stepTo
      exact absurd stepTo.1 (relaying.not_consumeExpires waits)
    · cases stepTo
  | resume =>
    simp only [ClaudeRpcDriver.step, Option.ite_none_right_eq_some, Option.some.injEq] at stepTo
    obtain ⟨yielding, rfl⟩ := stepTo
    exact relaying.waits positive (by simp [yielding, Consumer.running])
      state.lastArrival
  | persisted =>
    simp only [ClaudeRpcDriver.step] at stepTo
    split at stepTo
    next data persists =>
      cases stepTo
      exact relaying.persisted persists
    · cases stepTo
  | persistRaises timedOut => exact inOrder.elim

theorem initial (positive : 0 < timeout) : Relaying timeout {} := by
  refine ⟨.unpublished rfl rfl rfl (List.forall_mem_nil _) rfl,
    ⟨le_refl 0, fun _ => positive, (fun _ waits => nomatch waits), ?_,
      (fun returned => nomatch returned)⟩, rfl⟩
  rintro since ⟨⟩
  exact ⟨le_refl 0, fun remains => absurd rfl remains⟩

end Relaying

theorem relaying_of_reachable (positive : 0 < timeout) (reached :
      (driver timeout).ReachableWithin (RelaysInOrder timeout) state) :
    Relaying timeout state := by
  have start : ∀ state, (driver timeout).initial state →
      Relaying timeout state := by
    rintro _ rfl
    exact Relaying.initial positive
  exact reached.invariant start fun _ _ _ relaying inOrder stepTo =>
    relaying.step positive inOrder stepTo

def Consumer.work : Consumer → Nat
  | submitting | yielding => 2
  | waiting _ | persisting _ => 1
  | ended | raised => 0

/-- A bound on the steps that the driver can still take by itself. -/
def State.work (state : State) : Nat :=
  4 * state.progressSub.length + 4 * state.resultSub.toList.length +
    3 * state.queue.length + state.progressPump.toList.length +
    state.resultPump.toList.length + state.consumer.work

theorem State.work_handle (state : State) (linked : Bool) (entry : Entry) :
    (state.handle linked entry).work + state.consumer.work ≤
      state.work + 2 := by
  rcases entry with data | _ | error | data
  · simp only [State.handle]
    split <;> simp only [State.work, Consumer.work] <;> omega
  · simp only [State.handle, State.work, Consumer.work]
    omega
  · simp only [State.handle]
    split <;> simp only [State.work, Consumer.work] <;> omega
  · simp only [State.handle, State.work, Consumer.work]
    omega

theorem State.work_raise (state : State) (timedOut : Bool) :
    (state.raise timedOut).work + state.consumer.work = state.work := by
  cases timedOut <;> simp [State.raise, State.work, Consumer.work]

theorem work_lt_of_step {action : Action} (ofDriver : action.ofDriver = true)
    (stepTo : step timeout state action = some after) :
    after.work < state.work := by
  cases action with
  | publishProgress | publishResult | tick => simp [Action.ofDriver] at ofDriver
  | submitted | resume =>
    simp only [step, Option.ite_none_right_eq_some, Option.some.injEq] at stepTo
    obtain ⟨suspended, rfl⟩ := stepTo
    simp [State.work, Consumer.work, suspended]
  | submitRaises timedOut =>
    simp only [step, Option.ite_none_right_eq_some, Option.some.injEq] at stepTo
    obtain ⟨submitting, rfl⟩ := stepTo
    have raises := state.work_raise timedOut
    simp only [submitting, Consumer.work] at raises
    omega
  | pumpProgress =>
    simp only [step] at stepTo
    split at stepTo
    next waits next =>
      simp only [Option.ite_none_right_eq_some, Option.some.injEq] at stepTo
      obtain ⟨-, rfl⟩ := stepTo
      simp only [State.work, next, waits, List.length_cons,
        List.length_append, List.length_nil, Option.toList_some]
      omega
    · cases stepTo
  | progressExpires | resultExpires =>
    simp only [step] at stepTo
    split at stepTo
    next waits =>
      simp only [Option.ite_none_right_eq_some, Option.some.injEq] at stepTo
      obtain ⟨-, rfl⟩ := stepTo
      simp [State.work, waits]
    · cases stepTo
  | pumpResult =>
    simp only [step] at stepTo
    split at stepTo
    next waits arrived =>
      simp only [Option.ite_none_right_eq_some, Option.some.injEq] at stepTo
      obtain ⟨-, rfl⟩ := stepTo
      simp only [State.work, arrived, waits, List.length_cons,
        List.length_append, List.length_nil, Option.toList_some,
        Option.toList_none]
      omega
    · cases stepTo
  | consume linked =>
    simp only [step] at stepTo
    split at stepTo
    next entry rest waits first =>
      cases stepTo
      have handled := State.work_handle { state with queue := rest } linked entry
      simp only [State.work, waits, first, Consumer.work, List.length_cons] at handled ⊢
      omega
    · cases stepTo
  | consumeExpires =>
    simp only [step] at stepTo
    split at stepTo
    next waits =>
      simp only [Option.ite_none_right_eq_some, Option.some.injEq] at stepTo
      obtain ⟨-, rfl⟩ := stepTo
      have raises := state.work_raise true
      simp only [waits, Consumer.work] at raises
      omega
    · cases stepTo
  | persisted =>
    simp only [step] at stepTo
    split at stepTo
    next persists =>
      cases stepTo
      simp [State.work, Consumer.work, persists]
    · cases stepTo
  | persistRaises timedOut =>
    simp only [step] at stepTo
    split at stepTo
    next persists =>
      cases stepTo
      have raises := state.work_raise timedOut
      simp only [persists, Consumer.work] at raises
      omega
    · cases stepTo

/-- While the job is finished and the stream is not, the driver can go on. -/
theorem Relaying.goesOn (relaying : Relaying timeout state)
    (finished : state.finished.isSome) (open' : state.consumer ≠ .ended) :
    ∃ action, action.ofDriver = true ∧ RelaysInOrder timeout state action ∧
      (ClaudeRpcDriver.step timeout state action).isSome := by
  have notRaised := relaying.place.not_raised
  cases consumer : state.consumer with
  | submitting => exact ⟨.submitted, rfl, trivial, by simp [ClaudeRpcDriver.step, consumer]⟩
  | yielding => exact ⟨.resume, rfl, trivial, by simp [ClaudeRpcDriver.step, consumer]⟩
  | persisting data =>
    exact ⟨.persisted, rfl, trivial, by simp [ClaudeRpcDriver.step, consumer]⟩
  | ended => exact absurd consumer open'
  | raised => exact absurd consumer notRaised
  | waiting since =>
    have alive : state.alive = true := by simp [State.alive, consumer]
    cases queue : state.queue with
    | cons entry rest =>
      exact ⟨.consume false, rfl, trivial, by simp [ClaudeRpcDriver.step, consumer, queue]⟩
    | nil =>
      cases relaying.place with
      | unpublished unfinished => simp [unfinished] at finished
      | queued _ _ _ _ _ _ entries => simp [queue] at entries
      | persisting _ _ _ _ _ _ taken | ended _ _ _ _ _ _ taken =>
        simp [consumer] at taken
      | delivered data _ sub pump =>
        cases progress : state.progressSub with
        | nil =>
          exact ⟨.pumpResult, rfl, progress, by simp [ClaudeRpcDriver.step, sub, pump, alive]⟩
        | cons next rest =>
          obtain ⟨waits, pumps⟩ : ∃ waits, state.progressPump = some waits := by
            rw [← Option.isSome_iff_exists, ← Option.ne_none_iff_isSome]
            intro returned
            have drained := (relaying.timely.progressDone returned).2
            simp [progress] at drained
          exact ⟨.pumpProgress, rfl, trivial,
            by simp [ClaudeRpcDriver.step, pumps, progress, alive]⟩

/-- The stream yields the events of the worker's messages in their order,
ends after the event of the result, and ends once the job is finished: until
then the driver can go on, and it cannot go on for ever. -/
structure RelaysRun (timeout : ℚ) (state : State) : Prop where
  inOrder : state.out <+: state.expected
  complete : state.consumer = .ended → state.finished.isSome ∧ state.out = state.expected
  notRaised : state.consumer ≠ .raised
  goesOn : state.finished.isSome → state.consumer ≠ .ended →
    ∃ action, action.ofDriver = true ∧ RelaysInOrder timeout state action ∧
      (step timeout state action).isSome
  finitely : ∀ action after, action.ofDriver = true →
    step timeout state action = some after → after.work < state.work

theorem relaysRun_of_reachable (positive : 0 < timeout) (reached :
      (driver timeout).ReachableWithin (RelaysInOrder timeout) state) :
    RelaysRun timeout state := by
  have relaying := relaying_of_reachable positive reached
  refine ⟨⟨state.pending, relaying.events⟩, fun ended => ?_,
    relaying.place.not_raised, relaying.goesOn,
    fun _ _ ofDriver stepTo => work_lt_of_step ofDriver stepTo⟩
  have events := relaying.events
  cases relaying.place with
  | ended data finished sub _ drained queue =>
    simp only [State.pending, ended, queue, drained, sub,
      List.filterMap_nil, Option.toList_none, List.map_nil,
      List.append_nil] at events
    exact ⟨by simp [finished], events⟩
  | unpublished _ _ _ _ running | delivered _ _ _ _ _ running
  | queued _ _ _ _ _ _ _ _ running =>
    simp [ended, Consumer.running] at running
  | persisting _ _ _ _ _ _ taken => simp [ended] at taken

instance decidableRelaysInOrder (timeout : ℚ) (state : State) :
    ∀ action, Decidable (RelaysInOrder timeout state action)
  | .tick now => inferInstanceAs (Decidable (state.finished = none → now < timeout))
  | .pumpResult => inferInstanceAs (Decidable (state.progressSub = []))
  | .submitRaises _ | .persistRaises _ => inferInstanceAs (Decidable False)
  | .publishProgress _ | .publishResult _ | .submitted | .pumpProgress
  | .progressExpires | .resultExpires | .consume _ | .consumeExpires
  | .resume | .persisted => inferInstanceAs (Decidable True)

def textProgress : JobProgress where
  step := "text"
  eventType := "text"
  partialText := some "a"

/-- Two texts and a result; the caller takes longer than the time-out over
the second text. -/
theorem relaysRun_of_slow_caller : ∃ state, (driver 4).ReachableWithin (RelaysInOrder 4) state ∧
      state.out.length = 3 ∧ RelaysRun 4 state := by
  have found : ∃ state, (driver 4).ReachableWithin (RelaysInOrder 4) state ∧ state.out.length = 3 :=
    TransitionSystem.exists_reachableWithin_of_checkedRun {} rfl
      [.submitted, .publishProgress (some textProgress), .pumpProgress,
        .consume true, .tick 3, .resume, .publishProgress (some textProgress),
        .publishResult (some (.success [("session_id", .ofString "s")])),
        .pumpProgress, .consume true, .pumpResult, .tick 7, .progressExpires,
        .tick 60, .resume, .consume true, .persisted]
      (by decide +kernel)
  obtain ⟨state, reached, relayed⟩ := found
  exact ⟨state, reached, relayed, relaysRun_of_reachable (by norm_num) reached⟩

/-- A result that passes a text, and a run that is longer than the time-out
although its messages are not that far apart. -/
theorem exists_run_not_relayed : (∃ state, (driver 4).Reachable state ∧ state.consumer = .ended ∧
      state.out.length = 1 ∧ state.expected.length = 2) ∧
    ∃ state, (driver 4).Reachable state ∧ state.consumer = .ended ∧
      state.finished.any (·.any JobResult.isSuccess) = true ∧
      state.out.any LlmEvent.isSuccess = false :=
  ⟨TransitionSystem.exists_reachable_of_run {} rfl
      [.submitted, .publishProgress (some textProgress),
        .publishResult (some (.success [])), .pumpResult, .pumpProgress,
        .consume true]
      (by decide +kernel),
    TransitionSystem.exists_reachable_of_run {} rfl
      [.submitted, .tick 3, .publishProgress (some textProgress),
        .pumpProgress, .consume true, .resume, .tick 4, .resultExpires,
        .tick 6, .publishResult (some (.success [])), .tick 7,
        .consumeExpires]
      (by decide +kernel)⟩

end ClaudeRpcDriver

end RoxabiFactory

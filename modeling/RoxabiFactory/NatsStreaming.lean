import RoxabiFactory.RenderEventRoundTrip
import RoxabiFactory.TransitionSystem

/-!
# A stream of render events over NATS

`send_streaming` publishes a chunk for each event and a closing chunk, while a
second task publishes keep-alive chunks; both number their chunks from one
counter.  The listener of the adapter puts the chunks into a queue, with a
poison pill for a `stream_error`, and `decode_stream_events` takes them from
there.  The two ends meet at `Yields`, which says what the decoder makes of a
list of chunks.
-/

namespace RoxabiFactory

namespace NatsStreaming

open DataclassCodec RenderEventCodec

variable (validate : ModelValidate)

section Decoder

/-- A turn of the loop of `decode_stream_events`. -/
structure Turn where
  /-- The event that is yielded. -/
  event : Option PyObject := none
  /-- The expected number and the other one, when a warning is logged. -/
  warnings : List (Nat × Json) := []
  stops : Bool := false

def outOfOrder (expectedSeq : Nat) (seq : Json) : List (Nat × Json) :=
  if seq ≠ .null ∧ seq.hashKey ≠ .ok (.number expectedSeq) then
    [(expectedSeq, seq)]
  else []

def turn (expectedSeq : Nat) (chunk : Json) : Py Turn := do
  let warnings := outOfOrder expectedSeq (← chunk.get "seq" .null)
  let eventType ← chunk.get "event_type" .null
  match eventType with
  | .null => return { warnings := warnings, stops := true }
  | .str (.text eventType) =>
    if eventType = "stream_keepalive" then return { warnings := warnings }
    else if eventType = "stream_error" then
      return { warnings := warnings, stops := true }
    else
      let payload ← chunk.get "payload" (.obj [])
      let event ← decode validate eventType payload
      return { event := event
               warnings := warnings
               stops := isTerminal validate eventType }
  -- an unknown event type, if it can be hashed
  | eventType =>
    let _ ← eventType.hashKey
    return { warnings := warnings }

/-- What `decode_stream_events` makes of the chunks. -/
structure Decoded where
  events : List PyObject := []
  warnings : List (Nat × Json) := []
  /-- The chunks that it leaves when it stops; none while it waits. -/
  rest : Option (List Json) := none

def Turn.andThen (first : Turn) (later : Decoded) : Decoded where
  events := first.event.toList ++ later.events
  warnings := first.warnings ++ later.warnings
  rest := later.rest

/-- `decode_stream_events`, on the chunks that arrive in time. -/
def decodeStreamEvents : (expectedSeq : Nat) → List Json → Py Decoded
  | _, [] => .ok { }
  | expectedSeq, chunk :: chunks => do
    let first ← turn validate expectedSeq chunk
    if first.stops then
      return { events := first.event.toList
               warnings := first.warnings
               rest := some chunks }
    else
      return first.andThen (← decodeStreamEvents (expectedSeq + 1) chunks)

end Decoder

section Sender

/-- A chunk as `send_streaming` and the keep-alive loop write it. -/
def chunk (streamId : String) (seq : Nat) (eventType : String) (payload : Json)
    (done : Bool) : Json :=
  .obj [(.text "stream_id", .ofString streamId), (.text "seq", .int seq),
    (.text "event_type", .ofString eventType), (.text "payload", payload),
    (.text "done", .bool done)]

/-- What `handle_stream_error` puts into the queue. -/
def poisonPill : Json := .obj [(.text "event_type", .ofString "stream_error"),
    (.text "done", .bool true)]

inductive SendPhase
  /-- At the next event of the iterator. -/
  | ready
  /-- In the `publish` of an event. -/
  | publishing
  /-- In the `publish` of the closing chunk. -/
  | closing
  | closed
  /-- In the `except` clause or after it. -/
  | failed
  deriving DecidableEq

structure Sender where
  /-- The events that the iterator has still got. -/
  events : List (RenderEvent String)
  seqBox : Nat := 0
  phase : SendPhase := .ready
  /-- The chunks in the queue of the adapter, in the order of publication. -/
  queue : List Json := []
  /-- The events that were published. -/
  sent : List (RenderEvent String) := []
  /-- The closing chunk or a `stream_error` was published. -/
  terminated : Bool := false

inductive Action
  /-- The next event is published, or else the closing chunk. -/
  | next
  /-- `publish` returns. -/
  | published
  | keepalive
  /-- The iterator, `encode` or a `publish` raises. -/
  | fail (told : Bool)
  deriving DecidableEq

/-- The `except` clause, which may fail to publish the `stream_error`. -/
def fail (sender : Sender) (told : Bool) : Sender :=
  { sender with
    phase := .failed
    queue := sender.queue ++ if told then [poisonPill] else []
    terminated := sender.terminated || told }

def next (streamId : String) (sender : Sender) : Option Sender :=
  match sender.events with
  | [] =>
    some { sender with
      phase := .closing
      queue := sender.queue ++ [chunk streamId sender.seqBox "stream_end" (.obj []) true]
      terminated := true }
  | event :: events =>
    match encode validate event.toPyObject with
    | .ok (eventType, payload, isDone) =>
      some { sender with
        events := events
        phase := .publishing
        queue := sender.queue ++ [chunk streamId sender.seqBox eventType payload isDone]
        sent := sender.sent ++ [event] }
    | .error _ => none

/-- A turn of the keep-alive loop. -/
def keepalive (streamId : String) (sender : Sender) : Sender :=
  { sender with
    seqBox := sender.seqBox + 1
    queue := sender.queue ++ [chunk streamId sender.seqBox "stream_keepalive" (.obj []) false] }

def step (streamId : String) (sender : Sender) : Action → Option Sender
  | .next =>
    if sender.phase = .ready then next validate streamId sender else none
  | .published =>
    match sender.phase with
    | .publishing =>
      some { sender with phase := .ready, seqBox := sender.seqBox + 1 }
    | .closing => some { sender with phase := .closed }
    | _ => none
  | .keepalive =>
    if sender.phase = .closed then none
    else some (keepalive streamId sender)
  | .fail told =>
    match sender.phase with
    | .ready | .publishing | .closing => some (fail sender told)
    | .closed | .failed => none

/-- `send_streaming` of these events. -/
def sendStreaming (streamId : String) (events : List (RenderEvent String)) :
    TransitionSystem Sender Action where
  initial sender := sender = { events := events }
  step := step validate streamId

end Sender

section Meeting

variable {validate}

/-- Whatever number it expects, the decoder yields these events for the
chunks, and it stops there or waits for more. -/
def Yields (validate : ModelValidate) (chunks : List Json)
    (events : List PyObject) (stops : Bool) : Prop :=
  ∀ expectedSeq, ∃ decoded, decodeStreamEvents validate expectedSeq chunks = .ok decoded ∧
      decoded.events = events ∧ decoded.rest.isSome = stops

theorem yields_nil : Yields validate [] [] false :=
  fun _ => ⟨_, rfl, rfl, rfl⟩

theorem decodeStreamEvents_append_of_waits {expectedSeq : Nat}
    {chunks more : List Json} {decoded later : Decoded}
    (returns : decodeStreamEvents validate expectedSeq chunks = .ok decoded)
    (waits : decoded.rest = none)
    (goesOn : decodeStreamEvents validate (expectedSeq + chunks.length) more = .ok later) :
    ∃ whole, decodeStreamEvents validate expectedSeq (chunks ++ more) = .ok whole ∧
        whole.events = decoded.events ++ later.events ∧
        whole.rest = later.rest := by
  induction chunks generalizing expectedSeq decoded with
  | nil =>
    cases returns
    exact ⟨later, goesOn, rfl, rfl⟩
  | cons chunk chunks ih =>
    obtain ⟨first, turned, returns⟩ := Py.bind_eq_ok.mp returns
    split at returns
    · cases returns
      cases waits
    · rename_i continues
      obtain ⟨middle, middleReturns, same⟩ := Py.bind_eq_ok.mp returns
      cases same
      have place : expectedSeq + (chunk :: chunks).length =
          expectedSeq + 1 + chunks.length := by
        rw [List.length_cons]
        omega
      obtain ⟨whole, wholeReturns, events, rest⟩ := ih middleReturns waits (place ▸ goesOn)
      refine ⟨first.andThen whole, Py.bind_eq_ok.mpr ⟨first, turned, ?_⟩, ?_, rest⟩
      · rw [if_neg continues]
        exact Py.bind_eq_ok.mpr ⟨whole, wholeReturns, rfl⟩
      · simp [Turn.andThen, events]

theorem decodeStreamEvents_append_of_stops {expectedSeq : Nat}
    {chunks rest : List Json} {decoded : Decoded}
    (returns : decodeStreamEvents validate expectedSeq chunks = .ok decoded)
    (stops : decoded.rest = some rest) (more : List Json) :
    ∃ whole, decodeStreamEvents validate expectedSeq (chunks ++ more) = .ok whole ∧
        whole.events = decoded.events ∧ whole.rest = some (rest ++ more) := by
  induction chunks generalizing expectedSeq decoded with
  | nil =>
    cases returns
    cases stops
  | cons chunk chunks ih =>
    obtain ⟨first, turned, returns⟩ := Py.bind_eq_ok.mp returns
    split at returns
    · rename_i last
      cases returns
      cases stops
      refine ⟨_, Py.bind_eq_ok.mpr ⟨first, turned, if_pos last⟩, rfl, rfl⟩
    · rename_i continues
      obtain ⟨middle, middleReturns, same⟩ := Py.bind_eq_ok.mp returns
      cases same
      obtain ⟨whole, wholeReturns, events, left⟩ := ih middleReturns stops
      refine ⟨first.andThen whole, Py.bind_eq_ok.mpr ⟨first, turned, ?_⟩, ?_, left⟩
      · rw [if_neg continues]
        exact Py.bind_eq_ok.mpr ⟨whole, wholeReturns, rfl⟩
      · simp [Turn.andThen, events]

theorem Yields.append {chunks more : List Json} {events later : List PyObject}
    {stops : Bool} (first : Yields validate chunks events false)
    (second : Yields validate more later stops) :
    Yields validate (chunks ++ more) (events ++ later) stops := by
  intro expectedSeq
  obtain ⟨decoded, returns, rfl, waits⟩ := first expectedSeq
  obtain ⟨next, goesOn, rfl, rfl⟩ := second (expectedSeq + chunks.length)
  obtain ⟨whole, wholeReturns, events, rest⟩ := decodeStreamEvents_append_of_waits returns
      (Option.isSome_eq_false_iff.mp waits |> Option.isNone_iff_eq_none.mp)
      goesOn
  exact ⟨whole, wholeReturns, events, congrArg Option.isSome rest⟩

theorem Yields.append_of_stops {chunks : List Json} {events : List PyObject}
    (first : Yields validate chunks events true) (more : List Json) :
    Yields validate (chunks ++ more) events true := by
  intro expectedSeq
  obtain ⟨decoded, returns, rfl, stops⟩ := first expectedSeq
  obtain ⟨rest, left⟩ := Option.isSome_iff_exists.mp stops
  obtain ⟨whole, wholeReturns, events, later⟩ :=
    decodeStreamEvents_append_of_stops returns left more
  exact ⟨whole, wholeReturns, events, by rw [later]; rfl⟩

theorem Yields.concat {chunks : List Json} {chunk : Json}
    {events later : List PyObject} {stops last : Bool}
    (first : Yields validate chunks events stops)
    (second : Yields validate [chunk] later last) :
    Yields validate (chunks ++ [chunk])
      (if stops then events else events ++ later) (stops || last) := by
  cases stops with
  | true => exact first.append_of_stops [chunk]
  | false => exact first.append second

theorem yields_singleton {chunk : Json} {event : Option PyObject} {stops : Bool}
    (turned : ∀ expectedSeq, ∃ warnings, turn validate expectedSeq chunk =
      .ok { event := event, warnings := warnings, stops := stops }) :
    Yields validate [chunk] event.toList stops := by
  intro expectedSeq
  obtain ⟨warnings, turned⟩ := turned expectedSeq
  cases stops with
  | true => exact ⟨_, Py.bind_eq_ok.mpr ⟨_, turned, rfl⟩, rfl, rfl⟩
  | false =>
    refine ⟨_, Py.bind_eq_ok.mpr ⟨_, turned, rfl⟩, ?_, rfl⟩
    exact List.append_nil _

theorem yields_sentinel {chunk : Json} {stops : Bool}
    (turned : ∀ expectedSeq, ∃ warnings, turn validate expectedSeq chunk =
      .ok { warnings := warnings, stops := stops }) :
    Yields validate [chunk] [] stops :=
  yields_singleton turned

theorem yields_keepalive (streamId : String) (seq : Nat) :
    Yields validate [chunk streamId seq "stream_keepalive" (.obj []) false] [] false :=
  yields_sentinel fun _ => ⟨_, rfl⟩

theorem yields_poisonPill : Yields validate [poisonPill] [] true :=
  yields_sentinel fun _ => ⟨_, rfl⟩

theorem yields_streamEnd (streamId : String) (seq : Nat) :
    Yields validate [chunk streamId seq "stream_end" (.obj []) true] [] true :=
  yields_sentinel fun _ => ⟨_, rfl⟩

theorem turn_chunk {eventType : String} (noKeepalive : eventType ≠ "stream_keepalive")
    (noError : eventType ≠ "stream_error") {expectedSeq seq : Nat}
    {streamId : String} {payload : Json} {done : Bool} :
    turn validate expectedSeq (chunk streamId seq eventType payload done) = (do
      let event ← RenderEventCodec.decode validate eventType payload
      return { event := event
               warnings := outOfOrder expectedSeq (.int seq)
               stops := isTerminal validate eventType }) := by
  change (if eventType = "stream_keepalive" then _ else _) = _
  rw [if_neg noKeepalive, if_neg noError]
  rfl

theorem yields_event {event : RenderEvent String} {encoded : Encoded}
    (returns : encode validate event.toPyObject = .ok encoded)
    (streamId : String) (seq : Nat) :
    Yields validate [chunk streamId seq encoded.1 encoded.2.1 encoded.2.2]
      (if event.schemaVersion = 1 then [event.toPyObject] else [])
      event.isTerminal := by
  obtain ⟨branch, -, payload, -, ordinary, terminal, sameEncoded, decoded⟩ :=
    exists_encoded validate (encodableInput_of_encode returns)
  obtain rfl := Except.ok.inj (returns.symm.trans sameEncoded)
  have registered : branch.eventType ≠ "stream_keepalive" ∧
      branch.eventType ≠ "stream_error" := by
    constructor <;> rintro same <;> rw [same] at ordinary <;>
      exact ordinary (by decide)
  have yielded : (if event.schemaVersion = 1 then some event.toPyObject
      else none).toList =
        if event.schemaVersion = 1 then [event.toPyObject] else [] := by
    split <;> rfl
  rw [← yielded]
  apply yields_singleton
  intro expectedSeq
  exact ⟨_, by rw [turn_chunk registered.1 registered.2, decoded, ← terminal]; rfl⟩

end Meeting

section Delivery

/-- The events up to the first `RunFinished` or `RunError`. -/
def throughTerminal : List (RenderEvent String) → List (RenderEvent String)
  | [] => []
  | event :: events =>
    if event.isTerminal then [event] else event :: throughTerminal events

/-- What the adapter is to get of the events that were sent. -/
def delivered (sent : List (RenderEvent String)) : List PyObject :=
  ((throughTerminal sent).filter (·.schemaVersion = 1)).map RenderEvent.toPyObject

theorem throughTerminal_append (sent later : List (RenderEvent String)) :
    throughTerminal (sent ++ later) =
      if sent.any RenderEvent.isTerminal then throughTerminal sent
      else sent ++ throughTerminal later := by
  induction sent with
  | nil => rfl
  | cons event sent ih =>
    by_cases terminal : event.isTerminal = true
    · simp [throughTerminal, terminal]
    · have plain : event.isTerminal = false := by simpa using terminal
      rw [List.cons_append, throughTerminal, plain, ih, throughTerminal,
        plain, List.any_cons, plain, Bool.false_or]
      cases sent.any RenderEvent.isTerminal <;> rfl

theorem throughTerminal_eq_self {sent : List (RenderEvent String)}
    (going : sent.any RenderEvent.isTerminal = false) :
    throughTerminal sent = sent := by
  have whole := throughTerminal_append sent []
  rw [going, List.append_nil] at whole
  simpa [throughTerminal] using whole

theorem delivered_concat (sent : List (RenderEvent String)) (event : RenderEvent String) :
    delivered (sent ++ [event]) =
      if sent.any RenderEvent.isTerminal then delivered sent
      else delivered sent ++
        if event.schemaVersion = 1 then [event.toPyObject] else [] := by
  unfold delivered
  rw [throughTerminal_append]
  split
  · rfl
  · rename_i going
    have alone : throughTerminal [event] = [event] := by
      simp [throughTerminal]
    rw [alone, throughTerminal_eq_self (Bool.not_eq_true _ ▸ going),
      List.filter_append, List.map_append]
    congr 1
    by_cases current : event.schemaVersion = 1 <;> simp [current]

/-- What the decoder makes of the queue at every moment of the sender. -/
structure Delivers (validate : ModelValidate)
    (events : List (RenderEvent String)) (sender : Sender) : Prop where
  yields : Yields validate sender.queue (delivered sender.sent)
    (sender.sent.any RenderEvent.isTerminal || sender.terminated)
  going : sender.phase = .ready ∨ sender.phase = .publishing → sender.terminated = false
  sent : sender.phase ≠ .failed → sender.sent ++ sender.events = events
  closed : sender.phase = .closing ∨ sender.phase = .closed →
    sender.events = [] ∧ sender.terminated = true
  before : sender.sent <+: events

variable {validate : ModelValidate} {streamId : String}
variable {events : List (RenderEvent String)} {sender after : Sender}

theorem Delivers.sentinel (delivers : Delivers validate events sender)
    {chunk : Json} {stops : Bool} (second : Yields validate [chunk] [] stops) :
    Yields validate (sender.queue ++ [chunk]) (delivered sender.sent)
      ((sender.sent.any RenderEvent.isTerminal || sender.terminated) ||
        stops) := by
  have whole := delivers.yields.concat second
  rwa [List.append_nil, ite_self] at whole

theorem Delivers.next (delivers : Delivers validate events sender) (ready : sender.phase = .ready)
    (stepTo : next validate streamId sender = some after) :
    Delivers validate events after := by
  have going := delivers.going (.inl ready)
  have whole := delivers.sent (by rw [ready]; simp)
  unfold NatsStreaming.next at stepTo
  split at stepTo
  · rename_i exhausted
    cases stepTo
    refine ⟨?_, by simp, fun _ => whole, fun _ => ⟨exhausted, rfl⟩,
      delivers.before⟩
    simpa using delivers.sentinel (yields_streamEnd streamId sender.seqBox)
  · rename_i event rest remaining
    split at stepTo
    · rename_i eventType payload isDone encoded
      cases stepTo
      rw [remaining, List.append_cons] at whole
      refine ⟨?_, fun _ => going, fun _ => whole, by simp, ⟨rest, whole⟩⟩
      have published := delivers.yields.concat (yields_event encoded streamId sender.seqBox)
      simp only [going, Bool.or_false] at published
      simp only [List.any_append, List.any_cons, List.any_nil, Bool.or_false,
        delivered_concat, going]
      exact published
    · cases stepTo

theorem Delivers.fail (delivers : Delivers validate events sender)
    (told : Bool) : Delivers validate events (fail sender told) := by
  refine ⟨?_, by simp [NatsStreaming.fail], by simp [NatsStreaming.fail],
    by simp [NatsStreaming.fail], delivers.before⟩
  cases told with
  | false =>
    simpa [NatsStreaming.fail] using delivers.yields
  | true =>
    simpa [NatsStreaming.fail] using
      delivers.sentinel yields_poisonPill

theorem Delivers.step (delivers : Delivers validate events sender) {action : Action}
    (stepTo : step validate streamId sender action = some after) :
    Delivers validate events after := by
  cases action with
  | next =>
    simp only [NatsStreaming.step] at stepTo
    split at stepTo
    · rename_i ready
      exact delivers.next ready stepTo
    · cases stepTo
  | published =>
    simp only [NatsStreaming.step] at stepTo
    split at stepTo
    · rename_i publishing
      cases stepTo
      exact ⟨delivers.yields, fun _ => delivers.going (.inr publishing),
        fun _ => delivers.sent (by rw [publishing]; simp), by simp,
        delivers.before⟩
    · rename_i closing
      cases stepTo
      exact ⟨delivers.yields, by simp,
        fun _ => delivers.sent (by rw [closing]; simp),
        fun _ => delivers.closed (.inl closing), delivers.before⟩
    · cases stepTo
  | keepalive =>
    simp only [NatsStreaming.step] at stepTo
    split at stepTo <;> cases stepTo
    refine ⟨?_, delivers.going, delivers.sent, delivers.closed, delivers.before⟩
    have published := delivers.sentinel (yields_keepalive streamId sender.seqBox)
    rwa [Bool.or_false] at published
  | fail told =>
    simp only [NatsStreaming.step] at stepTo
    split at stepTo <;> cases stepTo <;> exact delivers.fail told

end Delivery

/-- At every moment the decoder yields the current events among those that
were sent, up to the first `RunFinished` or `RunError`; it stops there, or at
the chunk that ends the stream.  A stream that is closed has sent all its
events. -/
theorem delivered_of_reachable (validate : ModelValidate) (streamId : String)
    (events : List (RenderEvent String)) (sender : Sender)
    (reached : (sendStreaming validate streamId events).Reachable sender) :
    Yields validate sender.queue (delivered sender.sent)
        (sender.sent.any RenderEvent.isTerminal || sender.terminated) ∧
      sender.sent <+: events ∧
      (sender.phase = .closed → sender.sent = events ∧ sender.terminated = true) := by
  have delivers : Delivers validate events sender := by
    apply reached.invariant
    · rintro _ rfl
      exact ⟨yields_nil, fun _ => rfl, fun _ => rfl, by simp,
        List.nil_prefix⟩
    · exact fun _ _ _ delivers _ stepTo => delivers.step stepTo
  refine ⟨delivers.yields, delivers.before, fun closed => ?_⟩
  obtain ⟨exhausted, terminated⟩ := delivers.closed (.inr closed)
  have whole := delivers.sent (by rw [closed]; simp)
  rw [exhausted, List.append_nil] at whole
  exact ⟨whole, terminated⟩

/-- A text with keep-alive chunks in between, and the end of its run. -/
theorem delivered_of_text : ∃ sender, (sendStreaming (fun _ _ => .error .validationError) "m1"
        [.textDelta "b" "hi", .runFinished "r"]).Reachable sender ∧
      sender.phase = .closed ∧
      Yields (fun _ _ => .error .validationError) sender.queue
        [(RenderEvent.textDelta "b" "hi").toPyObject,
          (RenderEvent.runFinished "r").toPyObject] true := by
  have found : ∃ sender, (sendStreaming (fun _ _ => .error .validationError) "m1"
        [.textDelta "b" "hi", .runFinished "r"]).Reachable sender ∧
      sender.phase = .closed ∧ sender.queue.length = 5 :=
    TransitionSystem.exists_reachable_of_run
      { events := [.textDelta "b" "hi", .runFinished "r"] } rfl
      [.keepalive, .next, .keepalive, .published, .next, .published, .next, .published]
      (by decide)
  obtain ⟨sender, reached, closed, -⟩ := found
  obtain ⟨yields, -, whole⟩ := delivered_of_reachable _ _ _ sender reached
  obtain ⟨sent, terminated⟩ := whole closed
  rw [sent] at yields
  exact ⟨sender, reached, closed, yields⟩

/-- An event with another version is lost. -/
theorem exists_event_lost : ∃ sender decoded,
      (sendStreaming (fun _ _ => .error .validationError) "m1" [.textEnd "b" 2]).Reachable sender ∧
      sender.phase = .closed ∧ sender.sent = [.textEnd "b" 2] ∧
      decodeStreamEvents (fun _ _ => .error .validationError) 0 sender.queue =
        .ok decoded ∧ decoded.events = [] := by
  have found : ∃ sender, (sendStreaming (fun _ _ => .error .validationError) "m1"
        [.textEnd "b" 2]).Reachable sender ∧
      sender.phase = .closed ∧ sender.sent = [.textEnd "b" 2] ∧
      (decodeStreamEvents (fun _ _ => .error .validationError) 0
        sender.queue).toOption.map (·.events.length) = some 0 :=
    TransitionSystem.exists_reachable_of_run { events := [.textEnd "b" 2] } rfl
      [.next, .published, .next, .published]
      (by decide)
  obtain ⟨sender, reached, closed, sent, evaluated⟩ := found
  obtain ⟨decoded, returns, none⟩ := Option.map_eq_some_iff.mp evaluated
  refine ⟨sender, decoded, reached, closed, sent, ?_, List.length_eq_zero_iff.mp none⟩
  cases outcome : decodeStreamEvents (fun _ _ => .error .validationError) 0 sender.queue with
  | error raised =>
    rw [outcome] at returns
    cases returns
  | ok other =>
    rw [outcome] at returns
    exact congrArg Except.ok (Option.some.inj returns)

end NatsStreaming

end RoxabiFactory

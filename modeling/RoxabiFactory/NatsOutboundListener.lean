import RoxabiFactory.OrderedDict
import RoxabiFactory.RenderEventCodec
import RoxabiFactory.TransitionSystem
import RoxabiFactory.WireMessages

/-!
# The outbound listener of an adapter

The listener keeps four maps by stream: the outbound message and the original
message of a `stream_start`, the queue of the chunks, and the task that drains
it.  They are filled and emptied by the handlers of the envelopes and by the
drain tasks.  A stream ends when its task ends, or when a `stream_error`
arrives for it before its first chunk.
-/

namespace RoxabiFactory

namespace NatsOutboundListener

open DataclassCodec Wire

/-- `MAX_STREAMS`. -/
def maxStreams : Nat := 100

/-- `MAX_QUEUE_SIZE`. -/
def maxQueueSize : Nat := 256

/-- `MAX_TERMINATED_STREAMS`. -/
def maxTerminatedStreams : Nat := 500

/-- `MAX_SIZE` of the cache. -/
def cacheMaxSize : Nat := 500

/-- Where a task is in `_drain_stream`. -/
inductive DrainPhase
  /-- Its first step is due. -/
  | created
  /-- In `send_streaming`. -/
  | sending
  | ended
  deriving DecidableEq

structure Drain where
  stream : HashKey
  phase : DrainPhase
  deriving DecidableEq

structure Listener where
  /-- The streams in `_cache`, the oldest first. -/
  cache : List HashKey := []
  /-- The queues, by the number of their chunks. -/
  streamQueues : OrderedDict HashKey Nat := ∅
  /-- The tasks, by their place in `drains`. -/
  streamTasks : OrderedDict HashKey Nat := ∅
  streamOutbound : OrderedDict HashKey PyObject := ∅
  streamOriginalMsgs : OrderedDict HashKey Json := ∅
  terminatedStreams : List HashKey := []
  /-- All tasks that were created. -/
  drains : List Drain := []
  /-- The streams that have stored something since they last ended. -/
  active : List HashKey := []

namespace Listener

/-- The stream has ended. -/
def finish (listener : Listener) (stream : HashKey) : Listener :=
  { listener with active := listener.active.filter (· ≠ stream) }

def activate (listener : Listener) (stream : HashKey) : Listener :=
  { listener with
    active :=
      if stream ∈ listener.active then listener.active
      else listener.active ++ [stream] }

end Listener

/-- `InboundCache.put`. -/
def cacheInbound (listener : Listener) (stream : HashKey) : Listener :=
  let kept :=
    if listener.cache.length ≥ cacheMaxSize then listener.cache.tail
    else listener.cache
  { listener with
    cache := if stream ∈ kept then kept else kept ++ [stream] }

/-- `remember_terminated`. -/
def rememberTerminated (listener : Listener) (stream : HashKey) : Listener :=
  let others := listener.terminatedStreams.erase stream
  let kept := if others.length ≥ maxTerminatedStreams then others.tail else others
  { listener with terminatedStreams := kept ++ [stream] }

/-- The exceptions that the handlers catch when they decode a message. -/
def isDecodeError (raised : PyError) : Bool := raised.isValueError || decide (raised = .typeError)

variable (lax : BlobRef.Lax)

/-- The checks of `handle_stream_start`, up to what it stores. -/
def acceptStart (listener : Listener) (data : Json) :
    Py (Option (HashKey × PyObject)) := do
  let streamId ← data.get "stream_id" .null
  let outboundData ← data.get "outbound" .null
  if streamId = .null ∨ outboundData = .null then return none
  else if !(← RenderEventCodec.checkSchemaVersion outboundData 1) then
    return none
  else if listener.streamOutbound.size ≥ maxStreams then return none
  else
    let stored := do
      let outbound ← deserialize (BlobRef.validate lax) outboundData OutboundMessage.hint
      return (← streamId.hashKey, outbound)
    match stored with
    | .ok stored => return some stored
    | .error raised =>
      if isDecodeError raised then return none else .error raised

/-- What an accepted `stream_start` stores. -/
def storeStart (listener : Listener) (stream : HashKey) (outbound : PyObject)
    (rawOrig : Json) : Listener :=
  { listener.activate stream with
    streamOutbound := listener.streamOutbound.assign stream outbound
    streamOriginalMsgs :=
      if rawOrig = .null then listener.streamOriginalMsgs
      else listener.streamOriginalMsgs.assign stream rawOrig }

def handleStreamStart (listener : Listener) (data : Json) : Py Listener := do
  match ← acceptStart lax listener data with
  | none => return listener
  | some (stream, outbound) =>
    let rawOrig ← data.get "original_msg" .null
    return storeStart listener stream outbound rawOrig

/-- The chunk is put into the queue of its stream, which has a task then. -/
def putChunk (listener : Listener) (stream : HashKey) : Listener :=
  let queued := (listener.streamQueues.lookup stream).getD 0
  if queued ≥ maxQueueSize then listener
  else
    let stored :=
      { listener.activate stream with
        streamQueues := listener.streamQueues.assign stream (queued + 1) }
    if stream ∈ listener.streamTasks then stored
    else
      { stored with
        streamTasks := listener.streamTasks.insert stream listener.drains.length
        drains := listener.drains ++ [{ stream := stream, phase := .created }] }

def handleChunk (listener : Listener) (data : Json) : Py Listener := do
  let streamId ← data.get "stream_id" .null
  if streamId = .null then return listener
  else
    let stream ← streamId.hashKey
    if stream ∈ listener.terminatedStreams then return listener
    else if stream ∉ listener.streamTasks ∧
        listener.streamTasks.size ≥ maxStreams then return listener
    else return putChunk listener stream

/-- `handle_stream_error` for a stream. -/
def streamError (listener : Listener) (stream : HashKey) : Listener :=
  match listener.streamQueues.lookup stream with
  | some queued =>
    rememberTerminated
      { listener with
        streamQueues :=
          -- the poison pill
          if queued ≥ maxQueueSize then listener.streamQueues
          else listener.streamQueues.assign stream (queued + 1) }
      stream
  | none =>
    if stream ∈ listener.cache ∨ stream ∈ listener.streamOutbound ∨
        stream ∈ listener.streamTasks then
      { (rememberTerminated listener stream).finish stream with
        cache := listener.cache.erase stream
        streamOutbound := listener.streamOutbound.erase stream
        streamTasks := listener.streamTasks.erase stream
        streamQueues := listener.streamQueues.erase stream }
    else listener.finish stream

/-- The stream that a `stream_error` names. -/
def errorStream (data : Json) : Py (Option HashKey) := do
  let streamId ← data.get "stream_id" .null
  if streamId = .null then return none
  else return some (← streamId.hashKey)

def handleStreamError (listener : Listener) (data : Json) : Py Listener := do
  match ← errorStream data with
  | none => return listener
  | some stream => return streamError listener stream

/-- The handler that `handle_raw_message` chooses. -/
inductive Handler
  | streamStart
  | streamError
  | chunk
  /-- `send`, `attachment` and `audio`, which touch the cache only, when they
  have been delivered. -/
  | reply
  | unknown
  deriving DecidableEq

def handlerOf (data : Json) : Py Handler := do
  let msgType ← data.get "type" .null
  if msgType.isText "send" || msgType.isText "attachment" ||
      msgType.isText "audio" then return .reply
  else if msgType.isText "stream_start" then return .streamStart
  else if msgType.isText "stream_error" then return .streamError
  else
    match data with
    | .obj members =>
      if (members.lookup (.text "stream_id")).isSome ∧
          (members.lookup (.text "seq")).isSome then return .chunk
      else return .unknown
    | _ => return .unknown

def handleRawMessage (listener : Listener) (data : Json) : Py Listener := do
  match ← handlerOf data with
  | .streamStart => handleStreamStart lax listener data
  | .streamError => handleStreamError listener data
  | .chunk => handleChunk listener data
  | .reply | .unknown => return listener

/-- The first part of `_drain_stream`: where the original message is from. -/
inductive Origin
  | known
  | unknown
  /-- An exception that is not caught leaves the task. -/
  | raises
  deriving DecidableEq

/-- The original message that was embedded in the `stream_start`. -/
def embeddedOrigin (rawOrig : Option Json) : Origin :=
  match rawOrig with
  | none => .unknown
  | some raw =>
    match deserialize (BlobRef.validate lax) raw (InboundMessage.hint lax.now) with
    | .ok original => if original.isNull then .unknown else .known
    | .error raised =>
      if isDecodeError raised || decide (raised = .keyError) then .unknown
      else .raises

def originOf (listener : Listener) (stream : HashKey) : Origin :=
  if stream ∈ listener.cache then .known
  else embeddedOrigin lax (listener.streamOriginalMsgs.lookup stream)

/-- The first step of `_drain_stream`. -/
def beginDrain (listener : Listener) (place : Nat) (stream : HashKey) :
    Listener :=
  let popped :=
    { listener with
      streamOriginalMsgs :=
        if stream ∈ listener.cache then listener.streamOriginalMsgs
        else listener.streamOriginalMsgs.erase stream }
  match originOf lax listener stream with
  | .known =>
    { popped with
      streamOutbound := listener.streamOutbound.erase stream
      drains := listener.drains.set place { stream := stream, phase := .sending } }
  | .unknown =>
    { popped.finish stream with
      streamTasks := listener.streamTasks.erase stream
      streamQueues := listener.streamQueues.erase stream
      drains := listener.drains.set place { stream := stream, phase := .ended } }
  | .raises =>
    { popped.finish stream with
      drains := listener.drains.set place { stream := stream, phase := .ended } }

/-- The `finally` clause of `_drain_stream`. -/
def endDrain (listener : Listener) (place : Nat) (stream : HashKey) :
    Listener :=
  { listener.finish stream with
    cache := listener.cache.erase stream
    streamTasks := listener.streamTasks.erase stream
    streamQueues := listener.streamQueues.erase stream
    terminatedStreams := listener.terminatedStreams.erase stream
    streamOriginalMsgs := listener.streamOriginalMsgs.erase stream
    drains := listener.drains.set place { stream := stream, phase := .ended } }

inductive Action
  | receive (data : Json)
  | cacheInbound (stream : HashKey)
  /-- A `send`, an `attachment` or an `audio` has been delivered. -/
  | deliver (stream : HashKey)
  /-- The reaper takes some entries for stale. -/
  | reap (cache terminated : List HashKey)
  /-- The first step of a drain task. -/
  | beginDrain (place : Nat)
  /-- The adapter takes a chunk. -/
  | takeChunk (place : Nat)
  /-- `send_streaming` ends, with or without an exception. -/
  | endDrain (place : Nat)

def step (listener : Listener) : Action → Option Listener
  | .receive data =>
    match handleRawMessage lax listener data with
    | .ok after => some after
    -- the client reports the exception of the callback
    | .error _ => some listener
  | .cacheInbound stream => some (cacheInbound listener stream)
  | .deliver stream =>
    some { listener with cache := listener.cache.erase stream }
  | .reap cache terminated =>
    some { listener with
      cache := listener.cache.filter (· ∉ cache)
      terminatedStreams := listener.terminatedStreams.filter (· ∉ terminated) }
  | .beginDrain place =>
    match listener.drains[place]? with
    | some { stream := stream, phase := .created } =>
      some (beginDrain lax listener place stream)
    | _ => none
  | .takeChunk place =>
    match listener.drains[place]? with
    | some { stream := stream, phase := .sending } =>
      match listener.streamQueues.lookup stream with
      | some (queued + 1) => some { listener with
          streamQueues := listener.streamQueues.assign stream queued }
      | _ => none
    | _ => none
  | .endDrain place =>
    match listener.drains[place]? with
    | some { stream := stream, phase := .sending } =>
      some (endDrain listener place stream)
    | _ => none

def outboundListener : TransitionSystem Listener Action where
  initial listener := listener = { }
  step := step lax

section Property

/-- No map has an entry for the stream. -/
structure Listener.Free (listener : Listener) (stream : HashKey) : Prop where
  outbound : stream ∉ listener.streamOutbound
  originals : stream ∉ listener.streamOriginalMsgs
  queues : stream ∉ listener.streamQueues
  tasks : stream ∉ listener.streamTasks

structure Listener.Bounded (listener : Listener) : Prop where
  outbound : listener.streamOutbound.size ≤ maxStreams
  originals : listener.streamOriginalMsgs.size ≤ maxStreams
  queues : listener.streamQueues.size ≤ maxStreams
  tasks : listener.streamTasks.size ≤ maxStreams

/-- A stream that has ended leaves nothing behind, the maps are bounded, and
only streams that have not ended take the room of another one. -/
structure Released (listener : Listener) : Prop where
  free : ∀ stream ∉ listener.active, listener.Free stream
  bounded : listener.Bounded
  room : listener.active.length < maxStreams → listener.streamOutbound.size < maxStreams

/-- The stream for which a `stream_start` is accepted. -/
def startedStream (listener : Listener) (data : Json) : Option HashKey :=
  (acceptStart lax listener data).toOption.join.map Prod.fst

/-- A stream that starts is not being sent, and there is room for its original
message. -/
def StartKept (listener : Listener) (data : Json) : Prop :=
  ∀ stream ∈ startedStream lax listener data, (∀ drain ∈ listener.drains, drain.stream = stream →
      drain.phase ≠ .sending) ∧
    (data.get "original_msg" .null ≠ .ok .null → stream ∈ listener.streamOriginalMsgs ∨
        listener.streamOriginalMsgs.size < maxStreams)

/-- A stream that fails before its first chunk has no original message. -/
def ErrorKept (listener : Listener) (data : Json) : Prop :=
  ∀ stream ∈ (errorStream data).toOption.join,
    stream ∉ listener.streamQueues → stream ∉ listener.streamOriginalMsgs

/-- The origin of a stream is found, or there is no outbound message for it.
-/
def BeginKept (listener : Listener) (stream : HashKey) : Prop :=
  originOf lax listener stream ≠ .raises ∧ (originOf lax listener stream = .unknown →
      stream ∉ listener.streamOutbound)

/-- The steps that leave nothing behind. -/
def Kept (listener : Listener) : Action → Prop
  | .receive data =>
    (handlerOf data = .ok .streamStart → StartKept lax listener data) ∧
      (handlerOf data = .ok .streamError → ErrorKept listener data)
  | .beginDrain place => ∀ drain ∈ listener.drains[place]?,
      drain.phase = .created → BeginKept lax listener drain.stream
  | _ => True

instance (listener : Listener) (data : Json) : Decidable (StartKept lax listener data) :=
  inferInstanceAs (Decidable (∀ stream ∈ startedStream lax listener data,
    (∀ drain ∈ listener.drains, drain.stream = stream → drain.phase ≠ .sending) ∧
    (data.get "original_msg" .null ≠ .ok .null → stream ∈ listener.streamOriginalMsgs ∨
        listener.streamOriginalMsgs.size < maxStreams)))

instance (listener : Listener) (data : Json) : Decidable (ErrorKept listener data) :=
  inferInstanceAs (Decidable (∀ stream ∈ (errorStream data).toOption.join,
    stream ∉ listener.streamQueues → stream ∉ listener.streamOriginalMsgs))

instance (listener : Listener) (stream : HashKey) : Decidable (BeginKept lax listener stream) :=
  inferInstanceAs (Decidable (_ ∧ (_ → _)))

instance (listener : Listener) : ∀ action, Decidable (Kept lax listener action)
  | .receive data => inferInstanceAs (Decidable (
      (handlerOf data = .ok .streamStart → StartKept lax listener data) ∧
        (handlerOf data = .ok .streamError → ErrorKept listener data)))
  | .beginDrain place => inferInstanceAs (Decidable (∀ drain ∈ listener.drains[place]?,
        drain.phase = .created → BeginKept lax listener drain.stream))
  | .cacheInbound _ | .deliver _ | .reap _ _ | .takeChunk _ | .endDrain _ =>
    .isTrue trivial

end Property

section Tasks

open OrderedDict

/-- The queues and the tasks have the same streams, and a task that has not
ended is the one of its stream. -/
structure Tasked (listener : Listener) : Prop where
  keys : listener.streamQueues.keys = listener.streamTasks.keys
  running : ∀ place drain, listener.drains[place]? = some drain → drain.phase ≠ .ended →
      listener.streamTasks.lookup drain.stream = some place

variable {listener : Listener} {stream : HashKey}

namespace Tasked

theorem mem_queues_iff (tasked : Tasked listener) :
    stream ∈ listener.streamQueues ↔ stream ∈ listener.streamTasks := by
  rw [AList.mem_keys, tasked.keys, ← AList.mem_keys]

theorem empty : Tasked { } := ⟨rfl, by simp⟩

theorem putChunk (tasked : Tasked listener) :
    Tasked (putChunk listener stream) := by
  unfold NatsOutboundListener.putChunk
  dsimp only
  split
  · exact tasked
  split
  · rename_i present
    have queued := tasked.mem_queues_iff.mpr present
    exact ⟨(keys_assign_of_mem queued).trans tasked.keys, tasked.running⟩
  · rename_i fresh
    have unqueued := tasked.mem_queues_iff.not.mpr fresh
    constructor
    · change (listener.streamQueues.assign stream _).keys =
        (listener.streamTasks.insert stream _).keys
      rw [assign, if_neg unqueued, keys_insert_of_notMem unqueued,
        keys_insert_of_notMem fresh, tasked.keys]
    · intro place drain found live
      change (listener.drains ++ [_])[place]? = some drain at found
      change (listener.streamTasks.insert stream _).lookup _ = _
      rw [List.getElem?_append] at found
      split at found
      · have lookup := tasked.running place drain found live
        have elsewhere : drain.stream ≠ stream := by
          intro same
          exact fresh (AList.lookup_isSome.mp (by rw [← same, lookup]; rfl))
        exact (AList.lookup_insert_ne elsewhere).trans lookup
      · rename_i later
        simp only [List.getElem?_singleton, Option.ite_none_right_eq_some,
          Option.some.injEq] at found
        obtain ⟨here, rfl⟩ := found
        have last : place = listener.drains.length := by omega
        rw [last]
        exact AList.lookup_insert _

theorem assignQueue (tasked : Tasked listener)
    (queued : stream ∈ listener.streamQueues) (count : Nat)
    (terminated : List HashKey) :
    Tasked { listener with
      streamQueues := listener.streamQueues.assign stream count
      terminatedStreams := terminated } :=
  ⟨(keys_assign_of_mem queued).trans tasked.keys, tasked.running⟩

theorem finish (tasked : Tasked listener) {place : Nat} {phase : DrainPhase}
    (found : listener.drains[place]? =
      some { stream := stream, phase := phase })
    (live : phase ≠ .ended) (cache terminated : List HashKey)
    (outbound : OrderedDict HashKey PyObject)
    (originals : OrderedDict HashKey Json) :
    Tasked
      { listener.finish stream with
        cache := cache
        terminatedStreams := terminated
        streamOutbound := outbound
        streamOriginalMsgs := originals
        streamTasks := listener.streamTasks.erase stream
        streamQueues := listener.streamQueues.erase stream
        drains := listener.drains.set place { stream := stream, phase := .ended } } := by
  constructor
  · change (listener.streamQueues.erase stream).keys = (listener.streamTasks.erase stream).keys
    rw [AList.keys_erase, AList.keys_erase, tasked.keys]
  · intro other drain there running
    have own := tasked.running place _ found live
    change (listener.drains.set place _)[other]? = some drain at there
    rw [List.getElem?_set] at there
    split at there
    · split at there <;> cases there
      exact absurd rfl running
    · rename_i different
      have lookup := tasked.running other drain there running
      have elsewhere : drain.stream ≠ stream := by
        intro same
        rw [same, own] at lookup
        exact different (Option.some.inj lookup)
      exact (AList.lookup_erase_ne elsewhere).trans lookup

theorem streamError (tasked : Tasked listener) :
    Tasked (streamError listener stream) := by
  unfold NatsOutboundListener.streamError
  split
  · rename_i queued found
    have present : stream ∈ listener.streamQueues := AList.lookup_isSome.mp (by rw [found]; rfl)
    split
    · exact ⟨tasked.keys, tasked.running⟩
    · exact tasked.assignQueue present _ _
  · rename_i absent
    have unqueued := AList.lookup_eq_none.mp absent
    have untasked := tasked.mem_queues_iff.not.mp unqueued
    split
    · rw [erase_of_notMem untasked, erase_of_notMem unqueued]
      exact ⟨tasked.keys, tasked.running⟩
    · exact ⟨tasked.keys, tasked.running⟩

theorem beginDrain (tasked : Tasked listener) {place : Nat} (found : listener.drains[place]? =
      some { stream := stream, phase := .created }) :
    Tasked (beginDrain lax listener place stream) := by
  have own := tasked.running place _ found (by simp)
  unfold NatsOutboundListener.beginDrain
  dsimp only
  split
  · refine ⟨tasked.keys, ?_⟩
    intro other drain there running
    rw [List.getElem?_set] at there
    split at there
    · rename_i same
      split at there <;> cases there
      exact same ▸ own
    · exact tasked.running other drain there running
  · exact tasked.finish found (by simp) _ _ _ _
  · refine ⟨tasked.keys, ?_⟩
    intro other drain there running
    rw [List.getElem?_set] at there
    split at there
    · split at there <;> cases there
      exact absurd rfl running
    · exact tasked.running other drain there running

theorem receive {after : Listener} (tasked : Tasked listener) {data : Json}
    (handled : handleRawMessage lax listener data = .ok after) :
    Tasked after := by
  unfold handleRawMessage at handled
  obtain ⟨handler, -, handled⟩ := Py.bind_eq_ok.mp handled
  cases handler with
  | streamStart =>
    obtain ⟨stored, -, handled⟩ := Py.bind_eq_ok.mp handled
    cases stored with
    | none =>
      cases handled
      exact tasked
    | some stored =>
      obtain ⟨rawOrig, -, handled⟩ := Py.bind_eq_ok.mp handled
      cases handled
      exact ⟨tasked.keys, tasked.running⟩
  | streamError =>
    obtain ⟨named, -, handled⟩ := Py.bind_eq_ok.mp handled
    cases named with
    | none =>
      cases handled
      exact tasked
    | some stream =>
      cases handled
      exact tasked.streamError
  | chunk =>
    unfold handleChunk at handled
    obtain ⟨streamId, -, handled⟩ := Py.bind_eq_ok.mp handled
    split at handled
    · cases handled
      exact tasked
    · obtain ⟨stream, -, handled⟩ := Py.bind_eq_ok.mp handled
      split at handled
      · cases handled
        exact tasked
      · split at handled <;> cases handled
        · exact tasked
        · exact tasked.putChunk
  | reply | unknown =>
    cases handled
    exact tasked

theorem step {after : Listener} (tasked : Tasked listener) {action : Action}
    (stepTo : step lax listener action = some after) : Tasked after := by
  cases action with
  | receive data =>
    simp only [NatsOutboundListener.step] at stepTo
    split at stepTo
    · rename_i handled
      cases stepTo
      exact tasked.receive lax handled
    · cases stepTo
      exact tasked
  | cacheInbound _ | deliver _ | reap _ _ =>
    cases stepTo
    exact ⟨tasked.keys, tasked.running⟩
  | beginDrain place =>
    simp only [NatsOutboundListener.step] at stepTo
    split at stepTo
    · rename_i stream found
      cases stepTo
      exact tasked.beginDrain lax found
    · cases stepTo
  | takeChunk place =>
    simp only [NatsOutboundListener.step] at stepTo
    split at stepTo
    · split at stepTo
      · rename_i queued
        cases stepTo
        exact tasked.assignQueue (AList.lookup_isSome.mp (by rw [queued]; rfl)) _
          listener.terminatedStreams
      · cases stepTo
    · cases stepTo
  | endDrain place =>
    simp only [NatsOutboundListener.step] at stepTo
    split at stepTo
    · rename_i stream found
      cases stepTo
      exact tasked.finish found (by simp) _ _ _ _
    · cases stepTo

end Tasked

theorem tasked_of_reachable (reached : (outboundListener lax).Reachable listener) :
    Tasked listener := by
  apply reached.invariant
  · rintro _ rfl
    exact .empty
  · exact fun _ _ _ tasked _ stepTo => tasked.step lax stepTo

end Tasks

section Invariant

open OrderedDict

/-- What the runs preserve whose steps leave nothing behind. -/
structure Inv (listener : Listener) : Prop where
  free : ∀ stream ∉ listener.active, listener.Free stream
  bounded : listener.Bounded
  unsent : ∀ drain ∈ listener.drains, drain.phase = .sending →
    drain.stream ∉ listener.streamOutbound

variable {listener : Listener} {stream other : HashKey}

theorem mem_active_finish : other ∈ (listener.finish stream).active ↔
      other ∈ listener.active ∧ other ≠ stream := by
  simp [Listener.finish]

theorem mem_active_activate : other ∈ (listener.activate stream).active ↔
      other ∈ listener.active ∨ other = stream := by
  unfold Listener.activate
  split
  · rename_i already
    exact ⟨.inl, fun member => member.elim id fun same => same ▸ already⟩
  · simp

/-- Only active streams have outbound messages, so they make the room. -/
theorem Inv.released (inv : Inv listener) : Released listener where
  free := inv.free
  bounded := inv.bounded
  room := by
    intro few
    apply Nat.lt_of_le_of_lt _ few
    have sub : listener.streamOutbound.keys ⊆ listener.active := by
      intro stream member
      by_contra ended
      exact (inv.free stream ended).outbound (AList.mem_keys.mpr member)
    exact (List.subperm_of_subset listener.streamOutbound.keys_nodup sub).length_le

theorem Inv.empty : Inv { } := by
  refine ⟨fun stream _ => ⟨?_, ?_, ?_, ?_⟩, ⟨?_, ?_, ?_, ?_⟩, by simp⟩ <;>
    first | exact AList.notMem_empty _ | exact Nat.zero_le _

theorem Inv.forget (inv : Inv listener) (cache terminated : List HashKey) :
    Inv { listener with cache := cache, terminatedStreams := terminated } :=
  ⟨fun stream ended =>
    let free := inv.free stream ended
    ⟨free.outbound, free.originals, free.queues, free.tasks⟩,
    ⟨inv.bounded.outbound, inv.bounded.originals, inv.bounded.queues,
      inv.bounded.tasks⟩, inv.unsent⟩

theorem Inv.storeStart (inv : Inv listener) (room : listener.streamOutbound.size < maxStreams)
    (unsent : ∀ drain ∈ listener.drains, drain.stream = stream → drain.phase ≠ .sending)
    {rawOrig : Json}
    (original : rawOrig ≠ .null → stream ∈ listener.streamOriginalMsgs ∨
      listener.streamOriginalMsgs.size < maxStreams) (outbound : PyObject) :
    Inv (storeStart listener stream outbound rawOrig) := by
  refine ⟨?_, ⟨?_, ?_, inv.bounded.queues, inv.bounded.tasks⟩, ?_⟩
  · intro other ended
    have ended := mem_active_activate.not.mp ended
    obtain ⟨old, different⟩ := not_or.mp ended
    have free := inv.free other old
    refine ⟨?_, ?_, free.queues, free.tasks⟩
    · exact fun member => (mem_assign.mp member).elim different free.outbound
    · intro member
      unfold NatsOutboundListener.storeStart at member
      dsimp only at member
      split at member
      · exact free.originals member
      · exact (mem_assign.mp member).elim different free.originals
  · exact Nat.le_trans size_assign_le room
  · unfold NatsOutboundListener.storeStart
    dsimp only
    split
    · exact inv.bounded.originals
    · rename_i present
      rcases original present with known | few
      · rw [size_assign_of_mem known]
        exact inv.bounded.originals
      · exact Nat.le_trans size_assign_le few
  · intro drain member sending there
    rcases mem_assign.mp there with same | old
    · exact unsent drain member same sending
    · exact inv.unsent drain member sending old

theorem Inv.putChunk (inv : Inv listener) (tasked : Tasked listener)
    (room : stream ∈ listener.streamTasks ∨ listener.streamTasks.size < maxStreams) :
    Inv (putChunk listener stream) := by
  unfold NatsOutboundListener.putChunk
  dsimp only
  split
  · exact inv
  have ends (other : HashKey) (ended : other ∉ (listener.activate stream).active) :
      listener.Free other ∧ other ≠ stream := by
    obtain ⟨old, different⟩ := not_or.mp (mem_active_activate.not.mp ended)
    exact ⟨inv.free other old, different⟩
  split
  · rename_i present
    have queued := tasked.mem_queues_iff.mpr present
    refine ⟨?_, ⟨inv.bounded.outbound, inv.bounded.originals, ?_, inv.bounded.tasks⟩, inv.unsent⟩
    · intro other ended
      obtain ⟨free, different⟩ := ends other ended
      exact ⟨free.outbound, free.originals,
        fun member => (mem_assign.mp member).elim different free.queues,
        free.tasks⟩
    · exact (size_assign_of_mem queued).trans_le inv.bounded.queues
  · rename_i fresh
    have few := room.resolve_left fresh
    have unqueued := tasked.mem_queues_iff.not.mpr fresh
    have sameSize : listener.streamQueues.size = listener.streamTasks.size :=
      congrArg List.length tasked.keys
    refine ⟨?_, ⟨inv.bounded.outbound, inv.bounded.originals, ?_, ?_⟩, ?_⟩
    · intro other ended
      obtain ⟨free, different⟩ := ends other ended
      refine ⟨free.outbound, free.originals,
        fun member => (mem_assign.mp member).elim different free.queues, ?_⟩
      intro member
      exact ((AList.mem_insert _).mp member).elim different free.tasks
    · change (listener.streamQueues.assign stream _).size ≤ _
      rw [size_assign_of_notMem unqueued, sameSize]
      exact few
    · change (listener.streamTasks.insert stream _).keys.length ≤ _
      rw [keys_insert_of_notMem fresh]
      exact few
    · intro drain member sending
      rcases List.mem_append.mp member with old | new
      · exact inv.unsent drain old sending
      · obtain rfl := List.mem_singleton.mp new
        cases sending

theorem Inv.assignQueue (inv : Inv listener)
    (queued : stream ∈ listener.streamQueues) (count : Nat) :
    Inv { listener with
      streamQueues := listener.streamQueues.assign stream count } := by
  refine ⟨?_, ⟨inv.bounded.outbound, inv.bounded.originals, ?_, inv.bounded.tasks⟩, inv.unsent⟩
  · intro other ended
    have free := inv.free other ended
    refine ⟨free.outbound, free.originals, ?_, free.tasks⟩
    intro member
    rcases mem_assign.mp member with rfl | old
    · exact free.queues queued
    · exact free.queues old
  · exact (size_assign_of_mem queued).trans_le inv.bounded.queues

/-- A stream ends: its queue and its task are removed, and so are the other
entries unless there were none. -/
theorem Inv.finish (inv : Inv listener) (cache terminated : List HashKey)
    {outbound : OrderedDict HashKey PyObject}
    (lessOutbound : outbound = listener.streamOutbound.erase stream ∨
      outbound = listener.streamOutbound ∧ stream ∉ listener.streamOutbound)
    {originals : OrderedDict HashKey Json}
    (lessOriginals : originals = listener.streamOriginalMsgs.erase stream ∨
      originals = listener.streamOriginalMsgs ∧ stream ∉ listener.streamOriginalMsgs)
    {drains : List Drain}
    (less : ∀ drain ∈ drains, drain.phase = .sending → drain ∈ listener.drains) :
    Inv
      { listener.finish stream with
        cache := cache
        terminatedStreams := terminated
        streamOutbound := outbound
        streamOriginalMsgs := originals
        streamTasks := listener.streamTasks.erase stream
        streamQueues := listener.streamQueues.erase stream
        drains := drains } := by
  have outboundOf (other : HashKey) (member : other ∈ outbound) :
      other ∈ listener.streamOutbound ∧ other ≠ stream := by
    rcases lessOutbound with rfl | ⟨rfl, absent⟩
    · exact (AList.mem_erase.mp member).symm
    · exact ⟨member, fun same => absent (same ▸ member)⟩
  have originalsOf (other : HashKey) (member : other ∈ originals) :
      other ∈ listener.streamOriginalMsgs ∧ other ≠ stream := by
    rcases lessOriginals with rfl | ⟨rfl, absent⟩
    · exact (AList.mem_erase.mp member).symm
    · exact ⟨member, fun same => absent (same ▸ member)⟩
  refine ⟨?_, ⟨?_, ?_, ?_, ?_⟩, ?_⟩
  · intro other ended
    by_cases same : other = stream
    · exact ⟨fun member => (outboundOf other member).2 same,
        fun member => (originalsOf other member).2 same,
        fun member => (AList.mem_erase.mp member).1 same,
        fun member => (AList.mem_erase.mp member).1 same⟩
    · have free := inv.free other
        fun before => ended (mem_active_finish.mpr ⟨before, same⟩)
      exact ⟨fun member => free.outbound (outboundOf other member).1,
        fun member => free.originals (originalsOf other member).1,
        fun member => free.queues (AList.mem_erase.mp member).2,
        fun member => free.tasks (AList.mem_erase.mp member).2⟩
  · rcases lessOutbound with rfl | ⟨rfl, -⟩
    · exact Nat.le_trans size_erase_le inv.bounded.outbound
    · exact inv.bounded.outbound
  · rcases lessOriginals with rfl | ⟨rfl, -⟩
    · exact Nat.le_trans size_erase_le inv.bounded.originals
    · exact inv.bounded.originals
  · exact Nat.le_trans size_erase_le inv.bounded.queues
  · exact Nat.le_trans size_erase_le inv.bounded.tasks
  · intro drain member sending there
    exact inv.unsent drain (less drain member sending) sending (outboundOf _ there).1

theorem Inv.streamError (inv : Inv listener) (tasked : Tasked listener)
    (kept : stream ∉ listener.streamQueues → stream ∉ listener.streamOriginalMsgs) :
    Inv (streamError listener stream) := by
  unfold NatsOutboundListener.streamError
  split
  · rename_i queued found
    have present : stream ∈ listener.streamQueues := AList.lookup_isSome.mp (by rw [found]; rfl)
    split
    · exact inv.forget listener.cache _
    · exact (inv.assignQueue present _).forget listener.cache _
  · rename_i absent
    have unqueued := AList.lookup_eq_none.mp absent
    have untasked := tasked.mem_queues_iff.not.mp unqueued
    split
    · exact inv.finish _ _ (.inl rfl) (.inr ⟨rfl, kept unqueued⟩)
        fun drain member _ => member
    · rename_i unknown
      have ended := inv.finish listener.cache listener.terminatedStreams
        (.inr ⟨rfl, fun member => unknown (.inr (.inl member))⟩)
        (.inr ⟨rfl, kept unqueued⟩) fun drain member _ => member
      rw [erase_of_notMem untasked, erase_of_notMem unqueued] at ended
      exact ended

theorem mem_of_mem_set {drains : List Drain} {place : Nat} {drain : Drain}
    {phase : DrainPhase} (notSending : phase ≠ .sending)
    (member : drain ∈ drains.set place { stream := stream, phase := phase })
    (sending : drain.phase = .sending) : drain ∈ drains := by
  rcases List.mem_or_eq_of_mem_set member with old | rfl
  · exact old
  · exact absurd sending notSending

theorem Inv.beginDrain (inv : Inv listener) (place : Nat) (kept : BeginKept lax listener stream) :
    Inv (beginDrain lax listener place stream) := by
  have lessOriginals (origin : originOf lax listener stream = .unknown) :
      stream ∉ listener.cache := by
    intro cached
    rw [originOf, if_pos cached] at origin
    cases origin
  unfold NatsOutboundListener.beginDrain
  dsimp only
  split
  · refine ⟨?_, ⟨?_, ?_, inv.bounded.queues, inv.bounded.tasks⟩, ?_⟩
    · intro other ended
      have free := inv.free other ended
      refine ⟨fun member => free.outbound (AList.mem_erase.mp member).2, ?_,
        free.queues, free.tasks⟩
      intro member
      dsimp only at member
      split at member
      · exact free.originals member
      · exact free.originals (AList.mem_erase.mp member).2
    · exact Nat.le_trans size_erase_le inv.bounded.outbound
    · dsimp only
      split
      · exact inv.bounded.originals
      · exact Nat.le_trans size_erase_le inv.bounded.originals
    · intro drain member sending there
      obtain ⟨different, there⟩ := AList.mem_erase.mp there
      rcases List.mem_or_eq_of_mem_set member with old | rfl
      · exact inv.unsent drain old sending there
      · exact different rfl
  · rename_i origin
    have uncached := lessOriginals origin
    rw [if_neg uncached]
    exact inv.finish _ _ (.inr ⟨rfl, kept.2 origin⟩) (.inl rfl)
      fun drain member sending => mem_of_mem_set (by simp) member sending
  · rename_i origin
    exact absurd origin kept.1

theorem Inv.endDrain (inv : Inv listener) {place : Nat} (found : listener.drains[place]? =
      some { stream := stream, phase := .sending }) :
    Inv (endDrain listener place stream) :=
  inv.finish _ _ (.inr ⟨rfl, inv.unsent _ (List.mem_of_getElem? found) rfl⟩) (.inl rfl)
    fun _ member sending => mem_of_mem_set (by simp) member sending

variable {lax}

theorem room_of_acceptStart {data : Json} {stored : HashKey × PyObject}
    (accepted : acceptStart lax listener data = .ok (some stored)) :
    listener.streamOutbound.size < maxStreams := by
  unfold acceptStart at accepted
  obtain ⟨streamId, -, accepted⟩ := Py.bind_eq_ok.mp accepted
  obtain ⟨outboundData, -, accepted⟩ := Py.bind_eq_ok.mp accepted
  split at accepted
  · cases accepted
  · obtain ⟨version, -, accepted⟩ := Py.bind_eq_ok.mp accepted
    split at accepted
    · cases accepted
    · split at accepted
      · cases accepted
      · rename_i few
        exact Nat.not_le.mp few

theorem Inv.handleStreamStart {after : Listener} (inv : Inv listener)
    {data : Json} (kept : StartKept lax listener data)
    (handled : handleStreamStart lax listener data = .ok after) :
    Inv after := by
  unfold NatsOutboundListener.handleStreamStart at handled
  obtain ⟨stored, accepted, handled⟩ := Py.bind_eq_ok.mp handled
  cases stored with
  | none =>
    cases handled
    exact inv
  | some stored =>
    obtain ⟨stream, outbound⟩ := stored
    obtain ⟨rawOrig, got, handled⟩ := Py.bind_eq_ok.mp handled
    cases handled
    have started : startedStream lax listener data = some stream := by
      rw [startedStream, accepted]
      rfl
    obtain ⟨unsent, original⟩ := kept stream started
    rw [got] at original
    exact inv.storeStart (room_of_acceptStart accepted) unsent
      (fun present => original fun same => present (Except.ok.inj same))
      outbound

theorem Inv.handleChunk {after : Listener} (inv : Inv listener)
    (tasked : Tasked listener) {data : Json}
    (handled : handleChunk listener data = .ok after) : Inv after := by
  unfold NatsOutboundListener.handleChunk at handled
  obtain ⟨streamId, -, handled⟩ := Py.bind_eq_ok.mp handled
  split at handled
  · cases handled
    exact inv
  · obtain ⟨stream, -, handled⟩ := Py.bind_eq_ok.mp handled
    split at handled
    · cases handled
      exact inv
    · split at handled
      · cases handled
        exact inv
      · rename_i room
        cases handled
        apply inv.putChunk tasked
        by_cases present : stream ∈ listener.streamTasks
        · exact .inl present
        · exact .inr (Nat.not_le.mp fun full => room ⟨present, full⟩)

theorem Inv.handleStreamError {after : Listener} (inv : Inv listener)
    (tasked : Tasked listener) {data : Json} (kept : ErrorKept listener data)
    (handled : handleStreamError listener data = .ok after) : Inv after := by
  unfold NatsOutboundListener.handleStreamError at handled
  obtain ⟨named, known, handled⟩ := Py.bind_eq_ok.mp handled
  cases named with
  | none =>
    cases handled
    exact inv
  | some stream =>
    cases handled
    apply inv.streamError tasked
    exact kept stream (by rw [known]; rfl)

theorem Inv.receive {after : Listener} (inv : Inv listener) (tasked : Tasked listener) {data : Json}
    (kept : Kept lax listener (.receive data))
    (handled : handleRawMessage lax listener data = .ok after) : Inv after := by
  unfold handleRawMessage at handled
  obtain ⟨handler, chosen, handled⟩ := Py.bind_eq_ok.mp handled
  cases handler with
  | streamStart => exact inv.handleStreamStart (kept.1 chosen) handled
  | streamError => exact inv.handleStreamError tasked (kept.2 chosen) handled
  | chunk => exact inv.handleChunk tasked handled
  | reply | unknown =>
    cases handled
    exact inv

theorem Inv.step {after : Listener} (inv : Inv listener)
    (tasked : Tasked listener) {action : Action}
    (kept : Kept lax listener action)
    (stepTo : step lax listener action = some after) : Inv after := by
  cases action with
  | receive data =>
    simp only [NatsOutboundListener.step] at stepTo
    split at stepTo
    · rename_i handled
      cases stepTo
      exact inv.receive tasked kept handled
    · cases stepTo
      exact inv
  | cacheInbound stream =>
    cases stepTo
    exact inv.forget _ listener.terminatedStreams
  | deliver stream =>
    cases stepTo
    exact inv.forget _ listener.terminatedStreams
  | reap cache terminated =>
    cases stepTo
    exact inv.forget _ _
  | beginDrain place =>
    simp only [NatsOutboundListener.step] at stepTo
    split at stepTo
    · rename_i stream found
      cases stepTo
      exact inv.beginDrain lax place (kept _ found rfl)
    · cases stepTo
  | takeChunk place =>
    simp only [NatsOutboundListener.step] at stepTo
    split at stepTo
    · split at stepTo
      · rename_i queued
        cases stepTo
        exact inv.assignQueue (AList.lookup_isSome.mp (by rw [queued]; rfl)) _
      · cases stepTo
    · cases stepTo
  | endDrain place =>
    simp only [NatsOutboundListener.step] at stepTo
    split at stepTo
    · rename_i stream found
      cases stepTo
      exact inv.endDrain found
    · cases stepTo

end Invariant

section Leaks

variable {lax}
variable {listener after : Listener} {stream : HashKey}

theorem notMem_active_finish : stream ∉ (listener.finish stream).active :=
  fun member => (mem_active_finish.mp member).2 rfl

theorem acceptStart_of_startedStream {data : Json}
    (started : startedStream lax listener data = some stream) :
    ∃ outbound, acceptStart lax listener data =
      .ok (some (stream, outbound)) := by
  unfold startedStream at started
  cases accepted : acceptStart lax listener data with
  | error raised =>
    rw [accepted] at started
    cases started
  | ok stored =>
    rw [accepted] at started
    obtain ⟨⟨named, outbound⟩, rfl, rfl⟩ := Option.map_eq_some_iff.mp started
    exact ⟨outbound, rfl⟩

/-- An accepted `stream_start` is stored. -/
theorem step_streamStart {data : Json} (chosen : handlerOf data = .ok .streamStart)
    (started : startedStream lax listener data = some stream)
    (stepTo : step lax listener (.receive data) = some after) :
    ∃ outbound rawOrig, data.get "original_msg" .null = .ok rawOrig ∧
      after = storeStart listener stream outbound rawOrig := by
  obtain ⟨outbound, accepted⟩ := acceptStart_of_startedStream started
  obtain ⟨rawOrig, got⟩ : ∃ rawOrig, data.get "original_msg" .null = .ok rawOrig := by
    obtain ⟨msgType, got, -⟩ := Py.bind_eq_ok.mp chosen
    cases data with
    | obj members => exact ⟨_, rfl⟩
    | _ => cases got
  have handled : handleRawMessage lax listener data =
      .ok (storeStart listener stream outbound rawOrig) := by
    simp only [handleRawMessage, chosen, handleStreamStart, accepted, got,
      bind, Except.bind, pure, Except.pure]
  simp only [step, handled, Option.some.injEq] at stepTo
  exact ⟨outbound, rawOrig, got, stepTo.symm⟩

theorem step_streamError {data : Json} (chosen : handlerOf data = .ok .streamError)
    (named : (errorStream data).toOption.join = some stream)
    (stepTo : step lax listener (.receive data) = some after) :
    after = streamError listener stream := by
  have known : errorStream data = .ok (some stream) := by
    cases told : errorStream data with
    | error raised =>
      rw [told] at named
      cases named
    | ok other =>
      rw [told] at named
      exact congrArg Except.ok named
  have handled : handleRawMessage lax listener data =
      .ok (streamError listener stream) := by
    simp only [handleRawMessage, chosen, handleStreamError, known, bind,
      Except.bind, pure, Except.pure]
  simp only [step, handled, Option.some.injEq] at stepTo
  exact stepTo.symm

/-- The outbound message of a `stream_start` that arrives while the stream is
being sent outlives the stream. -/
theorem exists_unreleased_of_sending {drain : Drain}
    (member : drain ∈ listener.drains) (own : drain.stream = stream)
    (sending : drain.phase = .sending) (outbound : PyObject) (rawOrig : Json) :
    ∃ actions later, (outboundListener lax).run
        (storeStart listener stream outbound rawOrig) actions = some later ∧
      ¬ Released later := by
  obtain ⟨place, bound, found⟩ := List.mem_iff_getElem.mp member
  have there : listener.drains[place]? =
      some { stream := stream, phase := .sending } := by
    rw [List.getElem?_eq_getElem bound, found, ← own, ← sending]
  refine ⟨[.endDrain place],
    endDrain (storeStart listener stream outbound rawOrig) place stream, ?_,
    fun released => ?_⟩
  · have same : (storeStart listener stream outbound rawOrig).drains =
        listener.drains := rfl
    simp only [TransitionSystem.run, outboundListener, step, same, there, Option.bind_some]
  · apply (released.free stream notMem_active_finish).outbound
    exact OrderedDict.mem_assign.mpr (.inl rfl)

/-- A `stream_error` before the first chunk leaves the original message. -/
theorem not_released_streamError (unqueued : stream ∉ listener.streamQueues)
    (original : stream ∈ listener.streamOriginalMsgs) :
    ¬ Released (streamError listener stream) := by
  have absent := AList.lookup_eq_none.mpr unqueued
  intro released
  unfold streamError at released
  rw [absent] at released
  dsimp only at released
  split at released
  · exact (released.free stream notMem_active_finish).originals original
  · exact (released.free stream notMem_active_finish).originals original

theorem not_released_beginDrain {place : Nat} (tasked : Tasked listener)
    (found : listener.drains[place]? =
      some { stream := stream, phase := .created })
    (unkept : ¬ BeginKept lax listener stream) :
    ¬ Released (beginDrain lax listener place stream) := by
  intro released
  unfold beginDrain at released
  dsimp only at released
  split at released
  · rename_i origin
    exact unkept ⟨by rw [origin]; simp, by rw [origin]; simp⟩
  · rename_i origin
    apply (released.free stream notMem_active_finish).outbound
    by_contra absent
    exact unkept ⟨by rw [origin]; simp, fun _ => absent⟩
  · apply (released.free stream notMem_active_finish).tasks
    have own := tasked.running place _ found (by simp)
    exact AList.lookup_isSome.mp (Option.isSome_iff_exists.mpr ⟨place, own⟩)

/-- A step that leaves something behind breaks the promise at once, or when
the drain of its stream ends. -/
theorem exists_unreleased {action : Action} (tasked : Tasked listener)
    (unkept : ¬ Kept lax listener action)
    (stepTo : step lax listener action = some after) :
    ∃ actions later, (outboundListener lax).run after actions = some later ∧ ¬ Released later := by
  cases action with
  | receive data =>
    rcases not_and_or.mp unkept with start | failure
    · obtain ⟨chosen, start⟩ := Classical.not_imp.mp start
      simp only [StartKept, not_forall] at start
      obtain ⟨stream, started, start⟩ := start
      obtain ⟨outbound, rawOrig, got, rfl⟩ := step_streamStart chosen started stepTo
      rcases not_and_or.mp start with sent | full
      · simp only [not_forall] at sent
        obtain ⟨drain, member, own, sending⟩ := sent
        exact exists_unreleased_of_sending member own (not_not.mp sending) outbound rawOrig
      · obtain ⟨present, full⟩ := Classical.not_imp.mp full
        obtain ⟨absent, full⟩ := not_or.mp full
        refine ⟨[], _, rfl, fun released => ?_⟩
        have bounded := released.bounded.originals
        have stored : rawOrig ≠ .null := fun same => present (same ▸ got)
        rw [storeStart, if_neg stored, OrderedDict.size_assign_of_notMem absent] at bounded
        omega
    · obtain ⟨chosen, failure⟩ := Classical.not_imp.mp failure
      simp only [ErrorKept, not_forall] at failure
      obtain ⟨stream, named, unqueued, original⟩ := failure
      obtain rfl := step_streamError chosen named stepTo
      exact ⟨[], _, rfl, not_released_streamError unqueued (not_not.mp original)⟩
  | beginDrain place =>
    simp only [Kept, not_forall] at unkept
    obtain ⟨⟨stream, phase⟩, found, created, unkept⟩ := unkept
    cases created
    have began : some (beginDrain lax listener place stream) = some after := by
      rw [← stepTo]
      simp only [step, Option.mem_def.mp found]
    cases began
    exact ⟨[], _, rfl, not_released_beginDrain tasked found unkept⟩
  | _ => exact absurd trivial unkept

end Leaks

/-- In every run whose steps leave nothing behind, a stream that has ended has
no entry in the maps, and the maps are bounded; and a step that leaves
something behind leads to a state in which that is not so. -/
theorem released_iff_kept :
    (∀ listener, (outboundListener lax).ReachableWithin (Kept lax) listener → Released listener) ∧
    ∀ listener action after, (outboundListener lax).Reachable listener →
      (outboundListener lax).step listener action = some after → ¬ Kept lax listener action →
          ∃ actions later, (outboundListener lax).run after actions = some later ∧
              ¬ Released later := by
  constructor
  · intro listener reached
    apply Inv.released
    apply reached.invariant_of_invariant (fun _ before => tasked_of_reachable lax before.reachable)
    · rintro _ rfl
      exact .empty
    · exact fun _ _ _ tasked inv kept stepTo => inv.step tasked kept stepTo
  · intro listener action after reached stepTo unkept
    exact exists_unreleased (tasked_of_reachable lax reached) unkept stepTo

theorem strictNow_valid :
    TimeFields.Valid { year := 2026, month := 1, day := 1, offset := some 0 } := by
  decide

/-- A pydantic that refuses every value of another type. -/
def strictLax : BlobRef.Lax where
  int _ := .error .validationError
  datetime _ := .error .validationError
  now := ⟨{ year := 2026, month := 1, day := 1, offset := some 0 }, strictNow_valid⟩

/-- A `stream_start` without an original message. -/
def streamStart (streamId : String) : Json := .obj [(.text "type", .ofString "stream_start"),
    (.text "stream_id", .ofString streamId),
    (.text "outbound", .obj [(.text "content", .arr [])])]

def chunk (streamId : String) : Json :=
  .obj [(.text "stream_id", .ofString streamId), (.text "seq", .int 0)]

/-- A stream is drained and ends, and a second one fails before its first
chunk. -/
theorem released_of_drained_stream : ∃ listener,
      (outboundListener strictLax).ReachableWithin (Kept strictLax) listener ∧
      listener.active = [] ∧ listener.terminatedStreams ≠ [] ∧
      Released listener := by
  have found : ∃ listener, (outboundListener strictLax).ReachableWithin (Kept strictLax) listener ∧
      listener.active = [] ∧ listener.terminatedStreams ≠ [] :=
    TransitionSystem.exists_reachableWithin_of_checkedRun { } rfl
      [.cacheInbound (.str (.text "m1")), .receive (streamStart "m1"),
        .receive (chunk "m1"), .beginDrain 0, .takeChunk 0,
        .receive (streamStart "m2"), .endDrain 0,
        .receive (.obj [(.text "type", .ofString "stream_error"),
          (.text "stream_id", .ofString "m2")])]
      (by decide)
  obtain ⟨listener, reached, ended, told⟩ := found
  exact ⟨listener, reached, ended, told, (released_iff_kept strictLax).1 listener reached⟩

/-- A stream of unknown origin is rejected and leaves its outbound message. -/
theorem exists_outbound_left : ∃ listener, (outboundListener strictLax).Reachable listener ∧
      ¬ Released listener := by
  have found : ∃ listener, (outboundListener strictLax).Reachable listener ∧ listener.active = [] ∧
        HashKey.str (.text "m1") ∈ listener.streamOutbound :=
    TransitionSystem.exists_reachable_of_run { } rfl
      [.receive (streamStart "m1"), .receive (chunk "m1"), .beginDrain 0]
      (by decide)
  obtain ⟨listener, reached, ended, left⟩ := found
  refine ⟨listener, reached, fun released => ?_⟩
  exact (released.free _ (by rw [ended]; simp)).outbound left

end NatsOutboundListener

end RoxabiFactory

import Mathlib.Algebra.Group.Nat.Defs
import Mathlib.Data.Fintype.Defs
import Mathlib.Data.List.Count
import Mathlib.Logic.Function.Basic
import RoxabiFactory.TransitionSystem

/-!
# Audio replies over JetStream

`render_audio` publishes an audio with the id of the inbound message as its
`Nats-Msg-Id`, up to three times, and sends a notification when all of them
fail.  The adapter plays what is delivered to it, unless the same id has been
marked as sent.  Times are in milliseconds.
-/

namespace RoxabiFactory

namespace AudioReplies

/-- `_AUDIO_PUBLISH_MAX_ATTEMPTS`. -/
def maxAttempts : ℕ := 3

/-- The pause after a failed attempt. -/
def backoff (attempt : ℕ) : ℕ := min (200 * 2 ^ attempt) 1000

/-- `DUPLICATE_WINDOW_SECONDS`. -/
def duplicateWindow : ℕ := 60 * 1000

/-- `KV_TTL_SECONDS`. -/
def sentTtl : ℕ := 900 * 1000

/-- `MAX_DELIVER`. -/
def maxDeliver : ℕ := 5

/-! ## The key of the dedup store -/

def hexByte (byte : UInt8) : List Char :=
  [Nat.digitChar (byte.toNat / 16), Nat.digitChar (byte.toNat % 16)]

/-- `_encode_key`: the UTF-8 bytes in hexadecimal digits. -/
def encodeKey (streamId : String) : List Char := streamId.toByteArray.data.toList.flatMap hexByte

/-! ## Publisher, stream and adapter -/

/-- What becomes of an attempt to publish. -/
inductive Outcome
  | acknowledged
  /-- The broker has the message, and the attempt fails. -/
  | unacknowledged
  /-- The broker does not get the message. -/
  | lost
  deriving DecidableEq

/-- How far a call of `render_audio` is. -/
inductive Progress
  /-- The number of failed attempts, and when the next one may begin. -/
  | publishing (attempt : ℕ) (notBefore : ℕ)
  /-- All attempts have failed. -/
  | failed
  | finished
  deriving DecidableEq

/-- A message of the stream with the audio of a call. -/
structure Stored (Call : Type) where
  call : Call
  storedAt : ℕ
  deriving DecidableEq

/-- What the adapter has done with a message. -/
structure Delivery where
  deliveries : ℕ := 0
  /-- When the audio was played, the last time first. -/
  plays : List ℕ := []
  acked : Bool := false
  termed : Bool := false
  deriving DecidableEq

structure AudioState (Call : Type) where
  clock : ℕ
  calls : Call → Option Progress
  stream : List (Stored Call)
  /-- The calls whose user has been sent the notification. -/
  notifications : List Call
  /-- The bucket of the dedup store: when a key was put. -/
  sent : List Char → Option ℕ
  /-- By the position in the stream. -/
  delivery : ℕ → Delivery

inductive Event (Call : Type)
  | render (call : Call)
  | attempt (call : Call) (outcome : Outcome)
  /-- The notification after the last attempt, which may raise as well. -/
  | notify (call : Call) (raises : Bool)
  /-- A message is delivered to the adapter.  The platform may fail to send it,
  and the acknowledgement, or the termination, may be lost. -/
  | deliver (position : ℕ) (sends replies : Bool)

structure AudioAction (Call : Type) where
  now : ℕ
  event : Event Call

namespace AudioState

variable {Call : Type} [DecidableEq Call]

-- The id of the inbound message that a call answers is the `Nats-Msg-Id`, and
-- it is the `stream_id` of the envelope.
variable (inboundId : Call → String) (state : AudioState Call)

/-- The stream has stored a message with the id within its window. -/
def isDuplicate (streamId : String) : Bool := state.stream.any fun message =>
    decide (inboundId message.call = streamId) &&
      decide (state.clock < message.storedAt + duplicateWindow)

/-- The broker gets a message. -/
def publish (call : Call) : AudioState Call :=
  if state.isDuplicate inboundId (inboundId call) then state
  else { state with stream := state.stream ++ [⟨call, state.clock⟩] }

def setCall (call : Call) (progress : Progress) : AudioState Call :=
  { state with calls := Function.update state.calls call (some progress) }

/-- After a failed attempt. -/
def retry (attempt now : ℕ) : Progress :=
  if attempt + 1 < maxAttempts then
    .publishing (attempt + 1) (now + backoff attempt)
  else .failed

/-- One round of `publish_audio_with_retry`. -/
def attemptPublish (call : Call) (attempt : ℕ) : Outcome → AudioState Call
  | .acknowledged => (state.publish inboundId call).setCall call .finished
  | .unacknowledged =>
    (state.publish inboundId call).setCall call (retry attempt state.clock)
  | .lost => state.setCall call (retry attempt state.clock)

/-- `notify_audio_publish_failed`, which swallows its error. -/
def notifyFailed (call : Call) (raises : Bool) : AudioState Call :=
  { state.setCall call .finished with
    notifications :=
      if raises then state.notifications else call :: state.notifications }

/-- `KvSentSet.already_sent`. -/
def alreadySent (streamId : String) : Bool := (state.sent (encodeKey streamId)).any fun put =>
    decide (state.clock < put + sentTtl)

/-- `KvSentSet.mark_sent`. -/
def markSent (streamId : String) : AudioState Call :=
  { state with
    sent := Function.update state.sent (encodeKey streamId) (some state.clock) }

def setDelivery (position : ℕ) (delivery : Delivery) : AudioState Call :=
  { state with delivery := Function.update state.delivery position delivery }

/-- `_process`.  An envelope with an empty `stream_id` is malformed. -/
def process (position : ℕ) (message : Stored Call) (sends replies : Bool) : AudioState Call :=
  let streamId := inboundId message.call
  let delivery : Delivery :=
    { state.delivery position with
      deliveries := (state.delivery position).deliveries + 1 }
  if streamId = "" then
    state.setDelivery position { delivery with acked := replies }
  else if state.alreadySent streamId then
    state.setDelivery position { delivery with acked := replies }
  else if sends then
    (state.markSent streamId).setDelivery position
      { delivery with plays := state.clock :: delivery.plays, acked := replies }
  else if maxDeliver ≤ delivery.deliveries then
    state.setDelivery position { delivery with termed := replies }
  else state.setDelivery position delivery

/-- The stream still delivers the message. -/
def IsPending (delivery : Delivery) : Prop := delivery.acked = false ∧ delivery.termed = false ∧
    delivery.deliveries < maxDeliver

instance (delivery : Delivery) : Decidable (IsPending delivery) :=
  inferInstanceAs (Decidable (_ ∧ _ ∧ _))

def perform : Event Call → Option (AudioState Call)
  | .render call =>
    match state.calls call with
    | none => some (state.setCall call (.publishing 0 state.clock))
    | some _ => none
  | .attempt call outcome =>
    match state.calls call with
    | some (.publishing attempt notBefore) =>
      if notBefore ≤ state.clock then
        some (state.attemptPublish inboundId call attempt outcome)
      else none
    | _ => none
  | .notify call raises =>
    match state.calls call with
    | some .failed => some (state.notifyFailed call raises)
    | _ => none
  | .deliver position sends replies =>
    match state.stream[position]? with
    | some message =>
      if IsPending (state.delivery position) then
        some (state.process inboundId position message sends replies)
      else none
    | none => none

/-- Time does not go back. -/
def step (action : AudioAction Call) : Option (AudioState Call) :=
  if state.clock ≤ action.now then
    { state with clock := action.now }.perform inboundId action.event
  else none

/-! ## The condition on the steps -/

/-- The window tells the audio of a call from all others, and does not forget
it between the attempts. -/
def Distinguishes (call : Call) (now : ℕ) : Prop := ∀ message ∈ state.stream,
    (message.call = call → now < message.storedAt + duplicateWindow) ∧
    (inboundId message.call = inboundId call →
      now < message.storedAt + duplicateWindow → message.call = call)

/-- The dedup store tells a message from all others, and does not forget it
between the deliveries. -/
def Remembers (position : ℕ) (message : Stored Call) (now : ℕ) : Prop :=
  inboundId message.call ≠ "" ∧
    (∀ played ∈ (state.delivery position).plays, now < played + sentTtl) ∧
    ∀ other < state.stream.length, other ≠ position → ∀ another ∈ state.stream[other]?,
        inboundId another.call = inboundId message.call →
          ∀ played ∈ (state.delivery other).plays, played + sentTtl ≤ now

/-- The condition under which every audio is stored or reported, and played
once. -/
def KeepsApart (action : AudioAction Call) : Prop :=
  match action.event with
  | .render _ | .attempt _ .lost => True
  | .attempt call .acknowledged | .attempt call .unacknowledged =>
    state.Distinguishes inboundId call action.now
  | .notify call raises =>
    raises = true → ∃ message ∈ state.stream, message.call = call
  | .deliver position _ _ =>
    ∀ message ∈ state.stream[position]?, state.Remembers inboundId position message action.now

instance (call : Call) (now : ℕ) : Decidable (state.Distinguishes inboundId call now) :=
  inferInstanceAs (Decidable (∀ message ∈ state.stream, _ ∧ _))

instance (position : ℕ) (message : Stored Call) (now : ℕ) :
    Decidable (state.Remembers inboundId position message now) :=
  inferInstanceAs (Decidable (_ ∧ _ ∧ ∀ other < state.stream.length,
    other ≠ position → ∀ another ∈ state.stream[other]?,
      inboundId another.call = inboundId message.call →
        ∀ played ∈ (state.delivery other).plays, played + sentTtl ≤ now))

instance (action : AudioAction Call) : Decidable (state.KeepsApart inboundId action) :=
  match action with
  | ⟨_, .render _⟩ | ⟨_, .attempt _ .lost⟩ => .isTrue trivial
  | ⟨now, .attempt call .acknowledged⟩ | ⟨now, .attempt call .unacknowledged⟩ =>
    inferInstanceAs (Decidable (state.Distinguishes inboundId call now))
  | ⟨_, .notify call raises⟩ =>
    inferInstanceAs (Decidable (raises = true → ∃ message ∈ state.stream, message.call = call))
  | ⟨now, .deliver position _ _⟩ =>
    inferInstanceAs (Decidable (∀ message ∈ state.stream[position]?,
      state.Remembers inboundId position message now))

end AudioState

/-- Nothing has been published. -/
def audioSystem {Call : Type} [DecidableEq Call] (inboundId : Call → String) :
    TransitionSystem (AudioState Call) (AudioAction Call) where
  initial state := (∀ call, state.calls call = none) ∧ state.stream = [] ∧
    state.notifications = [] ∧ (∀ key, state.sent key = none) ∧
    ∀ position, state.delivery position = { }
  step := AudioState.step inboundId

/-- Every audio is stored or reported, and what is stored is played once. -/
structure AudioState.Accounted {Call : Type} [DecidableEq Call]
    (state : AudioState Call) : Prop where
  /-- A finished call has one message in the stream, or one notification. -/
  finished : ∀ call, state.calls call = some .finished →
    state.stream.countP (fun message => decide (message.call = call)) = 1 ∨
      state.notifications.count call = 1
  /-- No audio is played again. -/
  once : ∀ position, (state.delivery position).plays.length ≤ 1
  /-- No audio is put away that has not been played. -/
  played : ∀ position, (state.delivery position).acked = true → (state.delivery position).plays ≠ []

end AudioReplies

end RoxabiFactory

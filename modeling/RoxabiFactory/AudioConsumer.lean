import RoxabiFactory.AudioPublish
import RoxabiFactory.WireMessages

/-!
# The consumer of audio messages

`_process` decodes a message, asks the dedup store for its `stream_id`, lets
the platform send the audio, and acknowledges the message.  A message whose
last delivery fails is terminated, and then its user is told.  Each of the
calls may raise, and only some classes of exceptions are caught.
-/

namespace RoxabiFactory

namespace AudioConsumer

open AudioReplies (maxDeliver)
open DataclassCodec

/-! ## Envelopes -/

/-- The fields of `OutboundAudio`. -/
def outboundAudioHint : Hint := .dataclass "OutboundAudio" [required "blob_ref" Wire.BlobRef.hint,
    ("mime_type", .str, some (.ofString "audio/ogg")),
    optionalField "duration_ms" .other, optionalField "waveform_b64" .str,
    optionalField "caption" .str, optionalField "reply_to_id" .str]

/-- What the decoding uses of pydantic, and the time for missing fields. -/
structure DecodeTools where
  lax : Wire.BlobRef.Lax
  now : DateTime

/-- `isinstance(exc, (ValueError, TypeError))`. -/
def isCaught (raised : PyError) : Bool := raised.isValueError || decide (raised = .typeError) ||
    decide (raised = .other "binascii.Error")

structure Envelope where
  streamId : Json
  audio : PyObject
  inbound : PyObject

/-- `data.get(key)`. -/
def get (members : List (PyStr × Json)) (key : String) : Json :=
  (members.lookup (.text key)).getD .null

/-- The id, the audio and the message of an envelope that is complete. -/
def fields? (members : List (PyStr × Json)) : Option (Json × Json × Json) :=
  if (get members "type").isText "audio" then
    if (get members "stream_id").truthy then
      match get members "audio", get members "original_msg" with
      | .null, _ | _, .null => none
      | audio, original => some (get members "stream_id", audio, original)
    else none
  else none

section Decode

variable (tools : DecodeTools)

/-- `_deserialize_dict` of a part, unless it is caught. -/
def decodePart (hint : Hint) (value : Json) : Py (Option PyObject) :=
  match deserialize (Wire.BlobRef.validate tools.lax) value hint with
  | .ok part => .ok (some part)
  | .error raised => if isCaught raised then .ok none else .error raised

/-- `decode_audio_envelope`, for what `json.loads` returns or raises. -/
def decodeAudioEnvelope : Py Json → Py (Option Envelope)
  | .error raised => if raised.isValueError then .ok none else .error raised
  | .ok (.obj members) =>
    match fields? members with
    | none => .ok none
    | some (streamId, audioData, originalData) =>
      match decodePart tools outboundAudioHint audioData with
      | .error raised => .error raised
      | .ok none => .ok none
      | .ok (some audio) =>
        match decodePart tools (Wire.InboundMessage.hint tools.now) originalData with
        | .error raised => .error raised
        | .ok none => .ok none
        | .ok (some inbound) => .ok (some ⟨streamId, audio, inbound⟩)
  | .ok _ => .error .attributeError

end Decode

/-! ## Processing -/

/-- The classes of exceptions of a call. -/
inductive CallError
  /-- `nats.errors.Error`. -/
  | nats
  /-- `OSError`. -/
  | os
  /-- `RuntimeError`. -/
  | runtime
  | other
  deriving DecidableEq

def CallError.error : CallError → PyError
  | nats => .other "nats.errors.Error"
  | os => .other "OSError"
  | runtime => .other "RuntimeError"
  | other => .other "Exception"

/-- What the calls raise while a message is processed. -/
structure Faults where
  /-- `get` and `put` of the dedup store; a key that is not found is none. -/
  get : Option CallError := none
  put : Option CallError := none
  /-- The platform does not send the audio, or the notification. -/
  send : Bool := false
  text : Bool := false
  ack : Option CallError := none
  term : Option CallError := none
  deriving DecidableEq

inductive Verdict
  | played
  /-- The audio has not been sent. -/
  | failed
  /-- The message is malformed, or its audio has been sent before. -/
  | skipped
  deriving DecidableEq

/-- What becomes of a message. -/
structure Processed where
  ending : Py Unit := .ok ()
  verdict : Verdict
  /-- The id that is marked as sent. -/
  marked : Option String := none
  /-- The message has been acknowledged or terminated. -/
  closed : Bool := false
  /-- `_notified` afterwards. -/
  notified : List String
  /-- The notification has reached the user. -/
  notice : Bool := false

/-- `stream_id.encode("utf-8")`, which stands for its hexadecimal digits. -/
def encodeId : Json → Py String
  | .str (.text streamId) => .ok streamId
  | .str (.loneSurrogate _) => .error (.other "UnicodeEncodeError")
  | _ => .error .attributeError

/-- `already_sent`, in the `try` of `_process`. -/
def alreadySent (faults : Faults) (isSent : String → Bool) (streamId : String) : Py Bool :=
  match faults.get with
  | none => .ok (isSent streamId)
  | some .other => .error CallError.other.error
  | some .nats | some .os | some .runtime => .ok false

/-- `_handle_terminal`. -/
def handleTerminal (faults : Faults) (notified : List String) (streamId : String) : Processed :=
  match faults.term with
  | some .other =>
    { verdict := .failed, notified := notified,
      ending := .error CallError.other.error }
  | some .nats | some .os | some .runtime =>
    { verdict := .failed, notified := notified }
  | none =>
    if streamId ∈ notified then
      { verdict := .failed, notified := notified, closed := true }
    else
      { verdict := .failed, notified := streamId :: notified, closed := true,
        notice := !faults.text }

/-- The acknowledgement after the audio has been sent. -/
def ackSent (faults : Faults) : Py Unit :=
  match faults.ack with
  | none | some .nats | some .os => .ok ()
  | some raised => .error raised.error

/-- `_process`; `delivered` is the number of deliveries of the message. -/
def process (tools : DecodeTools) (isSent : String → Bool)
    (notified : List String) (data : Py Json) (delivered : ℕ)
    (faults : Faults) : Processed :=
  match decodeAudioEnvelope tools data with
  | .error raised =>
    { verdict := .failed, notified := notified, ending := .error raised }
  | .ok none =>
    { verdict := .skipped, notified := notified,
      closed := faults.ack.isNone }
  | .ok (some envelope) =>
    match encodeId envelope.streamId with
    | .error raised =>
      { verdict := .failed, notified := notified, ending := .error raised }
    | .ok streamId =>
      match alreadySent faults isSent streamId with
      | .error raised =>
        { verdict := .failed, notified := notified,
          ending := .error raised }
      | .ok true =>
        { verdict := .skipped, notified := notified,
          closed := faults.ack.isNone }
      | .ok false =>
        if faults.send then
          if maxDeliver ≤ delivered then
            handleTerminal faults notified streamId
          else { verdict := .failed, notified := notified }
        else
          match faults.put with
          | some raised =>
            { verdict := .played, notified := notified,
              ending := .error raised.error }
          | none =>
            { verdict := .played, notified := notified,
              marked := some streamId, closed := faults.ack.isNone,
              ending := ackSent faults }

/-! ## The condition on a message and its faults -/

/-- A part is decoded, or what it raises is caught. -/
def Decodes (tools : DecodeTools) (hint : Hint) (value : Json) : Prop :=
  ∀ raised, deserialize (Wire.BlobRef.validate tools.lax) value hint =
    .error raised → isCaught raised = true

/-- The data are no JSON, or an object whose parts are decoded, or raise what
is caught. -/
def IsReadable (tools : DecodeTools) : Py Json → Prop
  | .error raised => raised.isValueError = true
  | .ok (.obj members) =>
    ∀ streamId audio original, fields? members = some (streamId, audio, original) →
        Decodes tools outboundAudioHint audio ∧
          ((∃ part, deserialize (Wire.BlobRef.validate tools.lax) audio
            outboundAudioHint = .ok part) →
              Decodes tools (Wire.InboundMessage.hint tools.now) original)
  | .ok _ => False

/-- What may happen to a message that has not been sent before. -/
def Faults.Tolerated (faults : Faults) (delivered : ℕ) : Prop :=
  if faults.send then maxDeliver ≤ delivered → faults.term ≠ some .other
  else faults.put = none ∧ faults.ack ≠ some .runtime ∧ faults.ack ≠ some .other

/-- The store is asked for the audio, and does not know it. -/
def Faults.IsUnsent (faults : Faults) (isSent : String → Bool) (streamId : String) : Prop :=
  faults.get.isSome = true ∨ isSent streamId = false

/-- The message and its faults do not make `_process` raise. -/
def Survives (tools : DecodeTools) (isSent : String → Bool) (data : Py Json)
    (delivered : ℕ) (faults : Faults) : Prop :=
  IsReadable tools data ∧ ∀ envelope, decodeAudioEnvelope tools data = .ok (some envelope) →
      ∃ streamId, envelope.streamId = .str (.text streamId) ∧ faults.get ≠ some .other ∧
        (faults.IsUnsent isSent streamId → faults.Tolerated delivered)

/-- If the last delivery fails, the message is terminated, its id has not been
reported before, and the platform sends the notification. -/
def Reports (tools : DecodeTools) (isSent : String → Bool)
    (notified : List String) (data : Py Json) (delivered : ℕ)
    (faults : Faults) : Prop :=
  ∀ envelope streamId, decodeAudioEnvelope tools data = .ok (some envelope) →
      envelope.streamId = .str (.text streamId) →
        faults.IsUnsent isSent streamId → faults.send = true → maxDeliver ≤ delivered →
            faults.term = none ∧ faults.text = false ∧ streamId ∉ notified

/-! ## Deliveries -/

/-- What has happened to a message of the stream. -/
structure Progress where
  deliveries : ℕ := 0
  /-- The deliveries that have not sent the audio. -/
  failures : ℕ := 0
  closed : Bool := false
  /-- The notifications that have reached the user. -/
  notices : ℕ := 0

structure ConsumerState where
  running : Bool := true
  notified : List String := []
  /-- The ids in the bucket of the dedup store. -/
  isSent : String → Bool := fun _ => false
  /-- By the position in the stream. -/
  progress : ℕ → Progress := fun _ => {}

inductive ConsumerAction
  | deliver (position : ℕ) (faults : Faults)
  /-- A message is fetched, and the process ends before it is processed. -/
  | lose (position : ℕ)
  /-- The process is started again. -/
  | restart
  /-- A key of the bucket expires. -/
  | expire (streamId : String)

namespace ConsumerState

variable (tools : DecodeTools) (messages : ℕ → Py Json) (state : ConsumerState)

/-- A delivery, after which the loop has ended if `_process` raises. -/
def deliver (position : ℕ) (faults : Faults) : ConsumerState :=
  let before := state.progress position
  let processed := process tools state.isSent state.notified
    (messages position) (before.deliveries + 1) faults
  { running := processed.ending.isOk
    notified := processed.notified
    isSent := fun other =>
      decide (processed.marked = some other) || state.isSent other
    progress := Function.update state.progress position
      { deliveries := before.deliveries + 1
        failures := before.failures +
          if processed.verdict = .failed then 1 else 0
        closed := processed.closed
        notices := before.notices + if processed.notice then 1 else 0 } }

/-- A delivery that is not processed. -/
def lose (position : ℕ) : ConsumerState :=
  let before := state.progress position
  { state with
    running := false
    progress := Function.update state.progress position
      { before with
        deliveries := before.deliveries + 1
        failures := before.failures + 1 } }

/-- JetStream delivers a message until it is acknowledged or terminated, and
at most `max_deliver` times. -/
def IsPending (position : ℕ) : Prop :=
  state.running = true ∧ (state.progress position).closed = false ∧
    (state.progress position).deliveries < maxDeliver

instance (position : ℕ) : Decidable (state.IsPending position) :=
  inferInstanceAs (Decidable (_ ∧ _ ∧ _))

def step : ConsumerAction → Option ConsumerState
  | .deliver position faults =>
    if state.IsPending position then
      some (state.deliver tools messages position faults)
    else none
  | .lose position =>
    if state.IsPending position then some (state.lose position) else none
  | .restart => some { state with running := true, notified := [] }
  | .expire streamId =>
    some { state with
      isSent := Function.update state.isSent streamId false }

/-- The condition on a delivery; the last one is processed. -/
def MayHappen : ConsumerAction → Prop
  | .deliver position faults =>
    Survives tools state.isSent (messages position)
        ((state.progress position).deliveries + 1) faults ∧
      Reports tools state.isSent state.notified (messages position)
        ((state.progress position).deliveries + 1) faults
  | .lose position => (state.progress position).deliveries + 1 < maxDeliver
  | .restart | .expire _ => True

/-- The user of a message whose deliveries have all failed has got one
notification. -/
def Notifies : Prop := ∀ position, (state.progress position).failures = maxDeliver →
    (state.progress position).notices = 1

end ConsumerState

/-- No message has been delivered. -/
def consumerSystem (tools : DecodeTools) (messages : ℕ → Py Json) :
    TransitionSystem ConsumerState ConsumerAction where
  initial state := state.running = true ∧ ∀ position, state.progress position = {}
  step state := state.step tools messages

/-! ## Messages that are processed -/

section Process

variable {tools : DecodeTools} {isSent : String → Bool}
  {notified : List String} {data : Py Json} {delivered : ℕ} {faults : Faults}

theorem decodes_iff {hint : Hint} {value : Json} :
    (∃ part, decodePart tools hint value = .ok part) ↔
      Decodes tools hint value := by
  unfold decodePart Decodes
  cases deserialize (Wire.BlobRef.validate tools.lax) value hint with
  | ok part => exact iff_of_true ⟨_, rfl⟩ nofun
  | error raised =>
    by_cases caught : isCaught raised = true
    · simp only [if_pos caught]
      refine iff_of_true ⟨_, rfl⟩ ?_
      intro other same
      cases same
      exact caught
    · simp only [if_neg caught]
      refine iff_of_false (fun ⟨_, absurd⟩ => ?_) ?_
      · cases absurd
      · intro decodes
        exact caught (decodes raised rfl)

theorem decodePart_eq_some {hint : Hint} {value : Json} {part : PyObject} :
    decodePart tools hint value = .ok (some part) ↔
      deserialize (Wire.BlobRef.validate tools.lax) value hint = .ok part := by
  unfold decodePart
  cases deserialize (Wire.BlobRef.validate tools.lax) value hint with
  | ok found => simp
  | error raised => by_cases caught : isCaught raised = true <;> simp [caught]

/-- `decode_audio_envelope` does not raise. -/
theorem isReadable_iff : (∃ envelope, decodeAudioEnvelope tools data = .ok envelope) ↔
      IsReadable tools data := by
  match data with
  | .error raised =>
    by_cases invalid : raised.isValueError = true
    · simp only [decodeAudioEnvelope, IsReadable, invalid, if_true]
      exact iff_of_true ⟨_, rfl⟩ trivial
    · simp only [decodeAudioEnvelope, IsReadable, invalid]
      exact iff_of_false (fun ⟨_, absurd⟩ => nomatch absurd) nofun
  | .ok (.obj members) =>
    simp only [decodeAudioEnvelope, IsReadable]
    cases isFields : fields? members with
    | none => exact iff_of_true ⟨_, rfl⟩ nofun
    | some fields =>
      obtain ⟨streamId, audioData, originalData⟩ := fields
      simp only [Option.some.injEq, Prod.mk.injEq]
      have audioDecodes := @decodes_iff tools outboundAudioHint audioData
      have inboundDecodes := @decodes_iff tools (Wire.InboundMessage.hint tools.now) originalData
      have isPart := @decodePart_eq_some tools outboundAudioHint audioData
      constructor
      · rintro ⟨envelope, decoded⟩ _ _ _ ⟨rfl, rfl, rfl⟩
        cases audio : decodePart tools outboundAudioHint audioData with
        | error raised =>
          rw [audio] at decoded
          cases decoded
        | ok audio? =>
          refine ⟨audioDecodes.mp ⟨_, audio⟩, ?_⟩
          rintro ⟨part, isAudio⟩
          rw [isPart.mpr isAudio] at decoded
          simp only at decoded
          cases inbound : decodePart tools (Wire.InboundMessage.hint tools.now) originalData with
          | error raised =>
            rw [inbound] at decoded
            cases decoded
          | ok inbound? => exact inboundDecodes.mp ⟨_, inbound⟩
      · intro readable
        obtain ⟨readsAudio, readsInbound⟩ :=
          readable streamId audioData originalData ⟨rfl, rfl, rfl⟩
        obtain ⟨audio?, audio⟩ := audioDecodes.mpr readsAudio
        rw [audio]
        cases audio? with
        | none => exact ⟨_, rfl⟩
        | some part =>
          obtain ⟨inbound?, inbound⟩ := inboundDecodes.mpr (readsInbound ⟨part, isPart.mp audio⟩)
          simp only [inbound]
          cases inbound? with
          | none => exact ⟨_, rfl⟩
          | some inbound => exact ⟨_, rfl⟩
  | .ok .null | .ok (.bool _) | .ok (.int _) | .ok (.float _)
  | .ok (.nonFinite _) | .ok (.str _) | .ok (.arr _) =>
    exact iff_of_false (fun ⟨_, absurd⟩ => nomatch absurd) nofun

theorem encodeId_eq_ok {value : Json} {streamId : String} :
    encodeId value = .ok streamId ↔ value = .str (.text streamId) := by
  unfold encodeId
  split
  · simp only [Except.ok.injEq, Json.str.injEq, PyStr.text.injEq]
  · simp
  · rename_i notText _
    exact iff_of_false nofun (notText streamId)

theorem ackSent_eq_ok : ackSent faults = .ok () ↔
      faults.ack ≠ some .runtime ∧ faults.ack ≠ some .other := by
  unfold ackSent
  match faults.ack with
  | none | some .nats | some .os => exact iff_of_true rfl ⟨nofun, nofun⟩
  | some .runtime => exact iff_of_false nofun fun neither => neither.1 rfl
  | some .other => exact iff_of_false nofun fun neither => neither.2 rfl

theorem handleTerminal_ending {streamId : String} :
    (handleTerminal faults notified streamId).ending = .ok () ↔
      faults.term ≠ some .other := by
  unfold handleTerminal
  match faults.term with
  | some .other => exact iff_of_false nofun fun differs => differs rfl
  | some .nats | some .os | some .runtime => exact iff_of_true rfl nofun
  | none =>
    simp only
    split <;> exact iff_of_true rfl nofun

theorem alreadySent_cases (isSent : String → Bool) (streamId : String) : faults.get = some .other ∧
        alreadySent faults isSent streamId = .error CallError.other.error ∨
      faults.get ≠ some .other ∧ faults.IsUnsent isSent streamId ∧
        alreadySent faults isSent streamId = .ok false ∨
      faults.get ≠ some .other ∧ ¬ faults.IsUnsent isSent streamId ∧
        alreadySent faults isSent streamId = .ok true := by
  unfold alreadySent Faults.IsUnsent
  match faults.get with
  | some .other => exact .inl ⟨rfl, rfl⟩
  | some .nats | some .os | some .runtime =>
    exact .inr (.inl ⟨nofun, .inl rfl, rfl⟩)
  | none =>
    cases known : isSent streamId with
    | false => exact .inr (.inl ⟨nofun, .inr rfl, rfl⟩)
    | true => exact .inr (.inr ⟨nofun, by simp, rfl⟩)

theorem process_envelope {envelope : Envelope} {streamId : String}
    (decoded : decodeAudioEnvelope tools data = .ok (some envelope))
    (encoded : envelope.streamId = .str (.text streamId))
    (known : faults.get ≠ some .other)
    (unsent : faults.IsUnsent isSent streamId) :
    process tools isSent notified data delivered faults =
      if faults.send then
        if maxDeliver ≤ delivered then
          handleTerminal faults notified streamId
        else { verdict := .failed, notified := notified }
      else
        match faults.put with
        | some raised =>
          { verdict := .played, notified := notified,
            ending := .error raised.error }
        | none =>
          { verdict := .played, notified := notified,
            marked := some streamId, closed := faults.ack.isNone,
            ending := ackSent faults } := by
  have answered : alreadySent faults isSent streamId = .ok false := by
    rcases @alreadySent_cases faults isSent streamId with
      ⟨other, -⟩ | ⟨-, -, answered⟩ | ⟨-, sent, -⟩
    · exact absurd other known
    · exact answered
    · exact absurd unsent sent
  unfold process
  rw [decoded]
  simp only [encodeId_eq_ok.mpr encoded, answered]

/-- `_process` raises nothing exactly under the condition. -/
theorem process_ending : (process tools isSent notified data delivered faults).ending = .ok () ↔
      Survives tools isSent data delivered faults := by
  unfold Survives
  rw [← isReadable_iff]
  cases decoded : decodeAudioEnvelope tools data with
  | error raised =>
    rw [process, decoded]
    exact iff_of_false nofun fun ⟨⟨_, absurd⟩, _⟩ => nomatch absurd
  | ok envelope? =>
    rw [and_iff_right ⟨envelope?, rfl⟩]
    cases envelope? with
    | none =>
      rw [process, decoded]
      exact iff_of_true rfl nofun
    | some envelope =>
      simp only [Except.ok.injEq, Option.some.injEq, forall_eq']
      cases encoded : encodeId envelope.streamId with
      | error raised =>
        rw [process, decoded]
        simp only [encoded]
        refine iff_of_false nofun ?_
        rintro ⟨streamId, isText, -⟩
        rw [encodeId_eq_ok.mpr isText] at encoded
        cases encoded
      | ok streamId =>
        have isText := encodeId_eq_ok.mp encoded
        simp only [isText, Json.str.injEq, PyStr.text.injEq,
          exists_eq_left']
        rcases @alreadySent_cases faults isSent streamId with
          ⟨other, answered⟩ | ⟨known, unsent, answered⟩ | ⟨known, sent, answered⟩
        · rw [process, decoded]
          simp only [encoded, answered]
          exact iff_of_false nofun fun absurd => absurd.1 other
        · rw [process_envelope decoded isText known unsent,
            and_iff_right known, forall_prop_of_true unsent,
            Faults.Tolerated]
          split
          · split
            · rename_i last
              rw [handleTerminal_ending, forall_prop_of_true last]
            · rename_i early
              exact iff_of_true rfl fun last => absurd last early
          · cases puts : faults.put with
            | some raised =>
              exact iff_of_false nofun fun absurd => nomatch absurd.1
            | none =>
              simp only [true_and]
              exact ackSent_eq_ok
        · rw [process, decoded]
          simp only [encoded, answered]
          exact iff_of_true trivial ⟨known, fun unsent => absurd unsent sent⟩

theorem notice_of_early (early : ¬ maxDeliver ≤ delivered) :
    (process tools isSent notified data delivered faults).notice = false := by
  unfold process
  split
  · rfl
  · rfl
  · split
    · rfl
    · split
      · rfl
      · rfl
      · split
        · rfl
        · split <;> rfl

theorem notice_of_failed (survives : Survives tools isSent data delivered faults)
    (reports : Reports tools isSent notified data delivered faults)
    (last : maxDeliver ≤ delivered)
    (failed : (process tools isSent notified data delivered faults).verdict = .failed) :
    (process tools isSent notified data delivered faults).notice = true := by
  obtain ⟨readable, tolerates⟩ := survives
  obtain ⟨envelope?, decoded⟩ := isReadable_iff.mpr readable
  cases envelope? with
  | none =>
    rw [process, decoded] at failed
    cases failed
  | some envelope =>
    obtain ⟨streamId, isText, known, -⟩ := tolerates envelope decoded
    rcases @alreadySent_cases faults isSent streamId with
      ⟨other, -⟩ | ⟨-, unsent, -⟩ | ⟨-, -, answered⟩
    · exact absurd other known
    · rw [process_envelope decoded isText known unsent] at failed ⊢
      cases fails : faults.send with
      | false =>
        rw [fails] at failed
        cases puts : faults.put with
        | none =>
          rw [puts] at failed
          cases failed
        | some raised =>
          rw [puts] at failed
          cases failed
      | true =>
        obtain ⟨terms, texts, fresh⟩ := reports envelope streamId decoded isText unsent fails last
        rw [if_pos rfl, if_pos last, handleTerminal, terms]
        simp only [if_neg fresh, texts, Bool.not_false]
    · rw [process, decoded] at failed
      simp only [encodeId_eq_ok.mpr isText, answered] at failed
      cases failed

end Process

/-! ## Runs -/

namespace ConsumerState

variable {tools : DecodeTools} {messages : ℕ → Py Json} {state : ConsumerState}

/-- A message is reported after its last delivery at the earliest. -/
structure Counts (progress : Progress) : Prop where
  few : progress.deliveries ≤ maxDeliver
  failures : progress.failures ≤ progress.deliveries
  early : progress.deliveries < maxDeliver → progress.notices = 0
  reported : progress.failures = maxDeliver → progress.notices = 1

theorem counts_step {action : ConsumerAction} {after : ConsumerState}
    (counts : ∀ position, Counts (state.progress position))
    (may : state.MayHappen tools messages action)
    (stepTo : state.step tools messages action = some after)
    (position : ℕ) : Counts (after.progress position) := by
  cases action with
  | deliver delivered faults =>
    dsimp only [step] at stepTo
    split at stepTo
    · rename_i pending
      cases stepTo
      obtain ⟨-, -, room⟩ := pending
      by_cases same : position = delivered
      · subst same
        obtain ⟨few, failures, early, -⟩ := counts position
        have noNotice := early room
        simp only [deliver, Function.update_self]
        constructor
        · exact room
        · dsimp only
          split <;> omega
        · intro stillEarly
          dsimp only at stillEarly ⊢
          rw [notice_of_early (by omega), noNotice]
          rfl
        · dsimp only
          intro all
          split at all
          · rename_i failed
            rw [notice_of_failed may.1 may.2 (by omega) failed, noNotice]
            rfl
          · omega
      · simp only [deliver, Function.update_of_ne same]
        exact counts position
    · cases stepTo
  | lose lost =>
    dsimp only [step] at stepTo
    split at stepTo
    · cases stepTo
      by_cases same : position = lost
      · subst same
        have notLast : (state.progress position).deliveries + 1 <
          maxDeliver := may
        obtain ⟨few, failures, early, -⟩ := counts position
        simp only [lose, Function.update_self]
        constructor
        · exact notLast.le
        · dsimp only
          omega
        · intro _
          exact early (by omega)
        · dsimp only
          omega
      · simp only [lose, Function.update_of_ne same]
        exact counts position
    · cases stepTo
  | restart =>
    cases stepTo
    exact counts position
  | expire streamId =>
    cases stepTo
    exact counts position

theorem notifies_of_reachable (reached : (consumerSystem tools messages).ReachableWithin
      (MayHappen tools messages) state) : state.Notifies := by
  have counts : ∀ position, Counts (state.progress position) := by
    apply reached.invariant
    · rintro start ⟨-, idle⟩ position
      rw [idle]
      exact ⟨Nat.zero_le _, le_refl _, fun _ => rfl, nofun⟩
    · intro before action after counts may stepTo
      exact counts_step counts may stepTo
  intro position
  exact (counts position).reported

end ConsumerState

/-- The routine raises nothing exactly under its condition, and in every run
under the conditions a message that cannot be sent is reported once. -/
theorem consumer_survives_and_notifies (tools : DecodeTools) :
    (∀ isSent notified data delivered faults,
      (process tools isSent notified data delivered faults).ending = .ok () ↔
        Survives tools isSent data delivered faults) ∧
    ∀ messages state, (consumerSystem tools messages).ReachableWithin
        (ConsumerState.MayHappen tools messages) state → state.Notifies := by
  constructor
  · intro isSent notified data delivered faults
    exact process_ending
  · intro messages state reached
    exact ConsumerState.notifies_of_reachable reached

section Example

instance (tools : DecodeTools) (isSent : String → Bool) (data : Py Json)
    (delivered : ℕ) (faults : Faults) :
    Decidable (Survives tools isSent data delivered faults) :=
  decidable_of_iff ((process tools isSent [] data delivered faults).ending = .ok ()) process_ending

instance (tools : DecodeTools) (isSent : String → Bool)
    (notified : List String) (data : Py Json) (delivered : ℕ)
    (faults : Faults) :
    Decidable (Reports tools isSent notified data delivered faults) :=
  match decoded : decodeAudioEnvelope tools data with
  | .error _ => .isTrue (by
      intro envelope _ other
      cases decoded.symm.trans other)
  | .ok none => .isTrue (by
      intro envelope _ other
      cases decoded.symm.trans other)
  | .ok (some envelope) =>
    match encoded : encodeId envelope.streamId with
    | .error _ => .isTrue (by
        intro other streamId same isText
        cases decoded.symm.trans same
        cases encoded.symm.trans (encodeId_eq_ok.mpr isText))
    | .ok streamId =>
      decidable_of_iff ((faults.get.isSome = true ∨ isSent streamId = false) →
          faults.send = true → maxDeliver ≤ delivered → faults.term = none ∧ faults.text = false ∧
              streamId ∉ notified) (by
        constructor
        · intro holds other text same isText
          cases decoded.symm.trans same
          cases encoded.symm.trans (encodeId_eq_ok.mpr isText)
          exact holds
        · intro reports
          exact reports envelope streamId decoded (encodeId_eq_ok.mp encoded))

instance (tools : DecodeTools) (messages : ℕ → Py Json)
    (state : ConsumerState) (action : ConsumerAction) :
    Decidable (state.MayHappen tools messages action) :=
  match action with
  | .deliver _ _ => inferInstanceAs (Decidable (_ ∧ _))
  | .lose _ => inferInstanceAs (Decidable (_ < _))
  | .restart | .expire _ => .isTrue trivial

theorem sampleTime_valid : TimeFields.Valid
    { year := 2026, month := 1, day := 1, offset := some 0 } := by
  decide

def sampleTime : DateTime :=
  ⟨{ year := 2026, month := 1, day := 1, offset := some 0 }, sampleTime_valid⟩

/-- A pydantic without lax conversions. -/
def strictTools : DecodeTools where
  lax := ⟨fun _ => .error .validationError, fun _ => .error .validationError, sampleTime⟩
  now := sampleTime

def sampleEnvelope : Py Json := .ok (.obj [(.text "type", .ofString "audio"),
    (.text "stream_id", .ofString "m1"), (.text "audio", .ofString "a"),
    (.text "original_msg", .ofString "b")])

/-- The platform sends neither audio nor anything else, but the last failure is
reported. -/
def failing : List ConsumerAction :=
  List.replicate 5 (.deliver 0 { send := true })

/-- The user of a message that cannot be sent gets one notification. -/
theorem notifies_failing : ∃ state,
    (consumerSystem strictTools fun _ => sampleEnvelope).Reachable state ∧
      (state.progress 0).failures = maxDeliver ∧ (state.progress 0).notices = 1 := by
  have run : ∃ state, (consumerSystem strictTools fun _ => sampleEnvelope).ReachableWithin
        (ConsumerState.MayHappen strictTools fun _ => sampleEnvelope) state ∧
          (state.progress 0).failures = maxDeliver :=
    TransitionSystem.exists_reachableWithin_of_checkedRun {}
      ⟨rfl, fun _ => rfl⟩ failing (by decide)
  obtain ⟨state, reached, failed⟩ := run
  exact ⟨state, reached.reachable, failed,
    (consumer_survives_and_notifies strictTools).2 _ state reached 0 failed⟩

/-- The store cannot mark an audio that has been sent; and the last delivery is
not terminated, so that nobody is told. -/
theorem exists_raises_and_silent : (∃ faults : Faults, (process strictTools (fun _ => false) []
      sampleEnvelope 1 faults).ending ≠ .ok ()) ∧
    ∃ state, (consumerSystem strictTools fun _ => sampleEnvelope).Reachable state ∧
        ¬ state.Notifies := by
  constructor
  · exact ⟨{ put := some .nats }, by decide⟩
  · have run : ∃ state, (consumerSystem strictTools fun _ => sampleEnvelope).Reachable state ∧
          (state.progress 0).failures = maxDeliver ∧ (state.progress 0).notices = 0 :=
      TransitionSystem.exists_reachable_of_run {} ⟨rfl, fun _ => rfl⟩
        (List.replicate 5 (.deliver 0 { send := true, term := some .nats })) (by decide)
    obtain ⟨state, reached, failed, silent⟩ := run
    refine ⟨state, reached, fun notifies => ?_⟩
    have noticed := notifies 0 failed
    rw [silent] at noticed
    cases noticed

end Example

end AudioConsumer

end RoxabiFactory

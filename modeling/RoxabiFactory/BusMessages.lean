import RoxabiFactory.DecodeErrors
import RoxabiFactory.VersionChecks

/-!
# The messages of the bus

The handler of a `NatsBus` subscription parses a message, checks its schema
version, decodes it and puts it into the staging queue; a `NatsAdapterBase`
worker parses it, checks its two versions and handles it.  The client library
logs an exception that leaves such a handler and goes on with the next
message.
-/

namespace RoxabiFactory

namespace BusMessages

open VersionChecks

/-- `json.JSONDecodeError`, a `ValueError`. -/
def jsonDecodeError : PyError := .other "JSONDecodeError"

/-- What the handlers use of Python and of pydantic. -/
structure Tools where
  /-- `json.loads` of a `str`. -/
  loads : String → Py Json
  /-- `json.loads` of `bytes`. -/
  loadsBytes : ByteArray → Py Json
  lax : Wire.BlobRef.Lax
  rejects : Wire.BlobRef.Rejects lax

/-! ## The bus -/

section Bus

variable (tools : Tools) (maxsize : Int)

/-- `put_nowait` finds room; a queue whose size is not positive has no
bound. -/
def HasRoom (waiting : Nat) : Prop := maxsize ≤ 0 ∨ (waiting : Int) < maxsize

instance (waiting : Nat) : Decidable (HasRoom maxsize waiting) :=
  inferInstanceAs (Decidable (_ ∨ _))

structure BusState where
  staging : List PyObject := []
  /-- `_version_mismatch_drops`. -/
  drops : Counter := fun _ => 0
  /-- The items that were taken out of the staging queue. -/
  taken : List PyObject := []
  /-- How many calls of the handler have raised. -/
  raised : Nat := 0

/-- `_ENVELOPE_VERSIONS[InboundMessage]`. -/
def envelopeName : String := "InboundMessage"

/-- `SCHEMA_VERSION_INBOUND_MESSAGE`. -/
def schemaVersion : Int := 1

/-- `deserialize_dict` to an `InboundMessage` at this time. -/
def decodeInbound (payload : Json) (now : DateTime) : Py PyObject := DataclassCodec.deserialize
    (Wire.BlobRef.validate { tools.lax with now := now }) payload
    (Wire.InboundMessage.hint now)

/-- `put_nowait`, with the message dropped when the queue is full. -/
def BusState.put (state : BusState) (item : PyObject) : BusState :=
  if HasRoom maxsize state.staging.length then
    { state with staging := state.staging ++ [item] }
  else state

/-- `NatsBus._handle_nats_message`. -/
def handleNatsMessage (state : BusState) (data : ByteArray) (now : DateTime) : Py BusState :=
  match String.fromUTF8? data with
  | none => .ok state
  | some text =>
    match tools.loads text with
    | .error raised =>
      if raised = jsonDecodeError then .ok state else .error raised
    | .ok payload => do
      let checked ← checkSchemaVersion payload envelopeName schemaVersion state.drops
      if checked.1 = true then
        match decodeInbound tools payload now with
        | .ok item => return state.put maxsize item
        | .error raised =>
          if raised.IsDecodeError then return state
          else .error raised
      else return { state with drops := checked.2 }

inductive BusEvent
  | message (data : ByteArray) (now : DateTime)
  /-- The consumer takes the next item, if there is one. -/
  | get

def BusState.step (state : BusState) : BusEvent → BusState
  | .message data now =>
    match handleNatsMessage tools maxsize state data now with
    | .ok after => after
    | .error _ => { state with raised := state.raised + 1 }
  | .get =>
    match state.staging with
    | [] => state
    | item :: staging =>
      { state with staging := staging, taken := state.taken ++ [item] }

def BusState.run (state : BusState) (events : List BusEvent) : BusState :=
  events.foldl (BusState.step tools maxsize) state

/-! ### What the handler is for -/

/-- What becomes of a message; an accepted one is decoded. -/
inductive Verdict
  | unreadable
  | refused
  | accepted (item : PyObject)

/-- The members of a message that is a JSON object in UTF-8. -/
def membersOf (data : ByteArray) : Option (List (PyStr × Json)) :=
  match (String.fromUTF8? data).bind fun text =>
      (tools.loads text).toOption with
  | some (.obj members) => some members
  | _ => none

def verdict (data : ByteArray) (now : DateTime) : Verdict :=
  match membersOf tools data with
  | none => .unreadable
  | some members =>
    if SchemaAccepts schemaVersion members then
      match decodeInbound tools (.obj members) now with
      | .ok item => .accepted item
      | .error _ => .unreadable
    else .refused

/-- The message is refused because of its version. -/
def BusEvent.isRefused : BusEvent → Bool
  | .message data now =>
    match verdict tools data now with
    | .refused => true
    | .unreadable | .accepted _ => false
  | .get => false

/-- The decoded messages of the accepted payloads that find room, when this
many items wait in the staging queue. -/
def admitted : Nat → List BusEvent → List PyObject
  | _, [] => []
  | waiting, .message data now :: events =>
    match verdict tools data now with
    | .accepted item =>
      if HasRoom maxsize waiting then
        item :: admitted (waiting + 1) events
      else admitted waiting events
    | .unreadable | .refused => admitted waiting events
  | waiting, .get :: events => admitted (waiting - 1) events

/-- Every message is taken whole or dropped cleanly. -/
structure TakenWhole (events : List BusEvent) : Prop where
  /-- The handler does not raise. -/
  quiet : (BusState.run tools maxsize {} events).raised = 0
  /-- The messages that are refused are counted, and nothing else is. -/
  counted : (BusState.run tools maxsize {} events).drops =
    Function.update (fun _ => 0) (dropKey envelopeName "schema")
      (events.countP (BusEvent.isRefused tools))
  /-- The accepted messages that found room are staged in their order. -/
  staged : (BusState.run tools maxsize {} events).taken ++
      (BusState.run tools maxsize {} events).staging =
    admitted tools maxsize 0 events

/-- A text that is no JSON makes `json.loads` raise a `JSONDecodeError`, and a
JSON text is an object. -/
def Parses (data : ByteArray) : Prop := ∀ text, String.fromUTF8? data = some text →
    (∀ raised, tools.loads text = .error raised → raised = jsonDecodeError) ∧
    ∀ payload, tools.loads text = .ok payload → IsObject payload

def BusEvent.Parses : BusEvent → Prop
  | .message data _ => BusMessages.Parses tools data
  | .get => True

variable {tools maxsize}

/-- What the handler is to do with a message. -/
def BusState.receive (maxsize : Int) (state : BusState) : Verdict → BusState
  | .unreadable => state
  | .refused =>
    { state with drops := drop state.drops envelopeName "schema" }
  | .accepted item => state.put maxsize item

theorem raises_decodeInbound (payload : Json) (now : DateTime) : Py.RaisesOnly PyError.IsDecodeError
      (decodeInbound tools payload now) := by
  have rejects : Wire.BlobRef.Rejects { tools.lax with now := now } :=
    ⟨tools.rejects.int, tools.rejects.datetime⟩
  exact Wire.InboundMessage.raises_deserialize rejects payload now

theorem handleNatsMessage_eq {data : ByteArray}
    (parses : Parses tools data) (state : BusState) (now : DateTime) :
    handleNatsMessage tools maxsize state data now =
      .ok (state.receive maxsize (verdict tools data now)) := by
  unfold handleNatsMessage verdict membersOf
  cases decoded : String.fromUTF8? data with
  | none => rfl
  | some text =>
    obtain ⟨onlyDecodeError, onlyObjects⟩ := parses text decoded
    dsimp only [Option.bind_some]
    cases loaded : tools.loads text with
    | error raised =>
      dsimp only
      rw [if_pos (onlyDecodeError raised loaded)]
      rfl
    | ok payload =>
      obtain ⟨members, rfl⟩ := onlyObjects payload loaded
      dsimp only [Except.toOption]
      rw [checkSchemaVersion_eq, Py.ok_bind]
      by_cases accepts : SchemaAccepts schemaVersion members
      · rw [if_pos accepts, if_pos accepts]
        dsimp only
        rw [if_pos rfl]
        cases decoded : decodeInbound tools (.obj members) now with
        | ok item => rfl
        | error raised =>
          dsimp only
          rw [if_pos (raises_decodeInbound _ now raised decoded)]
          rfl
      · rw [if_neg accepts, if_neg accepts]
        rfl

theorem handleNatsMessage_of_not_parses {data : ByteArray}
    (fails : ¬ Parses tools data) (state : BusState) (now : DateTime) :
    ∃ raised, handleNatsMessage tools maxsize state data now =
      .error raised := by
  unfold Parses at fails
  push Not at fails
  obtain ⟨text, decoded, fails⟩ := fails
  unfold handleNatsMessage
  rw [decoded]
  dsimp only
  cases loaded : tools.loads text with
  | error raised =>
    by_cases isDecodeError : raised = jsonDecodeError
    · obtain ⟨payload, isOk, -⟩ := fails (by
        intro other same
        rw [loaded] at same
        cases same
        exact isDecodeError)
      rw [loaded] at isOk
      cases isOk
    · exact ⟨raised, if_neg isDecodeError⟩
  | ok payload =>
    obtain ⟨other, same, notObject⟩ := fails (by
      intro raised isError
      rw [loaded] at isError
      cases isError)
    rw [loaded] at same
    cases same
    refine ⟨.attributeError, ?_⟩
    dsimp only
    rw [checkSchemaVersion_of_not_isObject notObject]
    rfl

theorem raised_receive (state : BusState) (verdict : Verdict) :
    (state.receive maxsize verdict).raised = state.raised := by
  cases verdict with
  | accepted item =>
    dsimp only [BusState.receive, BusState.put]
    split <;> rfl
  | unreadable => rfl
  | refused => rfl

theorem raised_step_of_parses (state : BusState) {event : BusEvent} (parses : event.Parses tools) :
    (state.step tools maxsize event).raised = state.raised := by
  cases event with
  | message data now =>
    dsimp only [BusState.step]
    rw [handleNatsMessage_eq parses]
    exact raised_receive state _
  | get =>
    dsimp only [BusState.step]
    split <;> rfl

theorem raised_step_of_not_parses (state : BusState) {event : BusEvent}
    (fails : ¬ event.Parses tools) :
    (state.step tools maxsize event).raised = state.raised + 1 := by
  cases event with
  | message data now =>
    obtain ⟨raised, raises⟩ := handleNatsMessage_of_not_parses fails state now
    dsimp only [BusState.step]
    rw [raises]
  | get => exact absurd trivial fails

theorem raised_le_raised_run (state : BusState) (events : List BusEvent) :
    state.raised ≤ (state.run tools maxsize events).raised := by
  induction events generalizing state with
  | nil => exact Nat.le_refl _
  | cons event events ih =>
    refine Nat.le_trans ?_ (ih (state.step tools maxsize event))
    by_cases parses : event.Parses tools
    · rw [raised_step_of_parses state parses]
    · rw [raised_step_of_not_parses state parses]
      exact Nat.le_succ _

theorem parses_of_raised_eq (state : BusState) {events : List BusEvent}
    (quiet : (state.run tools maxsize events).raised = state.raised) :
    ∀ event ∈ events, event.Parses tools := by
  induction events generalizing state with
  | nil => exact nofun
  | cons event events ih =>
    have rest : (state.step tools maxsize event).raised ≤
        (state.run tools maxsize (event :: events)).raised :=
      raised_le_raised_run _ events
    by_cases parses : event.Parses tools
    · have same : (state.step tools maxsize event).raised = state.raised :=
        raised_step_of_parses state parses
      rw [List.forall_mem_cons]
      refine ⟨parses, ih (state.step tools maxsize event) ?_⟩
      rw [same]
      exact quiet
    · rw [raised_step_of_not_parses state parses, quiet] at rest
      exact absurd rest (Nat.not_succ_le_self _)

/-- What the events add to the counter and to the items that were staged. -/
structure Adds (tools : Tools) (maxsize : Int) (state after : BusState)
    (events : List BusEvent) : Prop where
  quiet : after.raised = state.raised
  counted : after.drops = Function.update state.drops (dropKey envelopeName "schema")
    (state.drops (dropKey envelopeName "schema") + events.countP (BusEvent.isRefused tools))
  staged : after.taken ++ after.staging = state.taken ++ state.staging ++
      admitted tools maxsize state.staging.length events

theorem Adds.message {state after : BusState} {data : ByteArray}
    {now : DateTime} {events : List BusEvent}
    (adds : Adds tools maxsize (state.receive maxsize (verdict tools data now)) after events) :
    Adds tools maxsize state after (.message data now :: events) := by
  obtain ⟨quiet, counted, staged⟩ := adds
  have isRefused : (BusEvent.message data now).isRefused tools =
      match verdict tools data now with
      | .refused => true
      | .unreadable | .accepted _ => false := rfl
  cases outcome : verdict tools data now with
  | unreadable =>
    rw [outcome] at quiet counted staged isRefused
    refine ⟨quiet, ?_, ?_⟩
    · rw [List.countP_cons_of_neg (by rw [isRefused]; exact nofun)]
      exact counted
    · rw [admitted, outcome]
      exact staged
  | refused =>
    rw [outcome] at quiet counted staged isRefused
    refine ⟨quiet, ?_, ?_⟩
    · rw [List.countP_cons_of_pos isRefused, counted]
      dsimp only [BusState.receive, drop]
      rw [Function.update_idem, Function.update_self]
      congr 1
      omega
    · rw [admitted, outcome]
      exact staged
  | accepted item =>
    rw [outcome] at quiet counted staged isRefused
    have notRefused : ¬ (BusEvent.message data now).isRefused tools = true :=
      by rw [isRefused]; exact nofun
    dsimp only [BusState.receive, BusState.put] at quiet counted staged
    by_cases room : HasRoom maxsize state.staging.length
    · rw [if_pos room] at quiet counted staged
      refine ⟨quiet, ?_, ?_⟩
      · rw [List.countP_cons_of_neg notRefused]
        exact counted
      · rw [admitted, outcome]
        dsimp only
        rw [if_pos room, staged]
        simp
    · rw [if_neg room] at quiet counted staged
      refine ⟨quiet, ?_, ?_⟩
      · rw [List.countP_cons_of_neg notRefused]
        exact counted
      · rw [admitted, outcome]
        dsimp only
        rw [if_neg room]
        exact staged

theorem Adds.get {state after : BusState} {events : List BusEvent}
    (adds : Adds tools maxsize (state.step tools maxsize .get) after events) :
    Adds tools maxsize state after (.get :: events) := by
  obtain ⟨quiet, counted, staged⟩ := adds
  have notRefused : ¬ BusEvent.get.isRefused tools = true := nofun
  dsimp only [BusState.step] at quiet counted staged
  cases waiting : state.staging with
  | nil =>
    rw [waiting] at quiet counted staged
    dsimp only at quiet counted staged
    refine ⟨quiet, ?_, ?_⟩
    · rw [List.countP_cons_of_neg notRefused]
      exact counted
    · rw [staged, waiting]
      rfl
  | cons item staging =>
    rw [waiting] at quiet counted staged
    dsimp only at quiet counted staged
    refine ⟨quiet, ?_, ?_⟩
    · rw [List.countP_cons_of_neg notRefused]
      exact counted
    · rw [staged, waiting, admitted, List.length_cons, Nat.add_sub_cancel]
      simp

theorem run_adds (state : BusState) {events : List BusEvent}
    (parses : ∀ event ∈ events, event.Parses tools) :
    Adds tools maxsize state (state.run tools maxsize events) events := by
  induction events generalizing state with
  | nil =>
    refine ⟨rfl, ?_, ?_⟩
    · rw [List.countP_nil, Nat.add_zero, Function.update_eq_self]
      rfl
    · rw [admitted, List.append_nil]
      rfl
  | cons event events ih =>
    obtain ⟨first, rest⟩ := List.forall_mem_cons.mp parses
    have adds := ih (state.step tools maxsize event) rest
    cases event with
    | get => exact adds.get
    | message data now =>
      have received : state.step tools maxsize (.message data now) =
          state.receive maxsize (verdict tools data now) := by
        dsimp only [BusState.step]
        rw [handleNatsMessage_eq first]
      rw [received] at adds
      apply Adds.message
      rw [← received] at adds ⊢
      exact adds

/-- A bus takes its messages whole exactly when all of them parse. -/
theorem takenWhole_iff (events : List BusEvent) : TakenWhole tools maxsize events ↔
      ∀ event ∈ events, event.Parses tools := by
  constructor
  · intro whole
    exact parses_of_raised_eq {} whole.quiet
  · intro parses
    have adds : Adds tools maxsize {}
        (BusState.run tools maxsize {} events) events := run_adds {} parses
    refine ⟨adds.quiet, ?_, adds.staged⟩
    have counted := adds.counted
    rwa [Nat.zero_add] at counted

end Bus

/-! ## Workers -/

/-- What the class of a worker says. -/
structure Worker where
  envelopeName : String
  schemaVersion : Int
  /-- `_defer_hooks_to_background()`. -/
  defersHooks : Bool := false
  /-- There are lifecycle hooks. -/
  hasHooks : Bool := false

/-- What the handling of a message meets. -/
structure Turn where
  /-- `handle` raises. -/
  handleRaises : Bool := false
  /-- `telemetry_attributes` raises, or says whether there are attributes. -/
  telemetry : Option Bool := some false
  startFails : Bool := false
  recordFails : Bool := false
  endFails : Bool := false

structure WorkerState where
  /-- `_drop_count`. -/
  drops : Counter := fun _ => 0
  /-- `_hook_drop_count`. -/
  hookDrops : Counter := fun _ => 0
  /-- The payloads with which `handle` was called. -/
  handled : List Json := []
  /-- How many calls of `_dispatch` have raised by themselves. -/
  raised : Nat := 0

/-- `_CONTRACT_VERSION`. -/
def contractVersion : String := "1"

/-- `except (json.JSONDecodeError, ValueError)`. -/
def IsJsonError (raised : PyError) : Prop := raised = jsonDecodeError ∨ raised.isValueError = true

instance (raised : PyError) : Decidable (IsJsonError raised) := inferInstanceAs (Decidable (_ ∨ _))

section Workers

variable (tools : Tools) (worker : Worker)

/-- `_safe_hook`. -/
def WorkerState.safeHook (state : WorkerState) (name : String) (fails : Bool) : WorkerState :=
  if fails then
    { state with
      hookDrops := Function.update state.hookDrops name (state.hookDrops name + 1) }
  else state

def WorkerState.handle (state : WorkerState) (payload : Json) : WorkerState :=
  { state with handled := state.handled ++ [payload] }

/-- `_run_with_work_hooks`, and whether `handle` or `telemetry_attributes` has
raised. -/
def runWithWorkHooks (state : WorkerState) (payload : Json) (turn : Turn) :
    Py (WorkerState × Bool) := do
  let traceId ← payload.get "trace_id" .null
  let jobId ← payload.get "job_id" .null
  if worker.hasHooks && traceId.truthy && jobId.truthy then
    let handled := (state.safeHook "on_work_start" turn.startFails).handle payload
    match turn.telemetry with
    | none => return (handled, true)
    | some domain =>
      let recorded :=
        if domain then handled.safeHook "record_domain_attrs" turn.recordFails
        else handled
      return (recorded.safeHook "on_work_end" turn.endFails, turn.handleRaises)
  else return (state.handle payload, turn.handleRaises)

/-- `_invoke_handle_with_hooks`. -/
def invokeHandleWithHooks (state : WorkerState) (payload : Json)
    (turn : Turn) : Py (WorkerState × Bool) :=
  if worker.defersHooks then
    .ok (state.handle payload, turn.handleRaises)
  else runWithWorkHooks worker state payload turn

/-- `_validate_envelope`. -/
def validateEnvelope (payload : Json) (counter : Counter) :
    Py (Bool × Counter) := do
  let schema ← checkSchemaVersion payload worker.envelopeName worker.schemaVersion counter
  if schema.1 = true then
    checkContractVersion payload worker.envelopeName contractVersion schema.2
  else return schema

/-- `NatsAdapterBase._dispatch`. -/
def dispatch (state : WorkerState) (data : ByteArray) (turn : Turn) : Py (WorkerState × Bool) :=
  match tools.loadsBytes data with
  | .error raised =>
    if IsJsonError raised then .ok (state, false) else .error raised
  | .ok payload => do
    let valid ← validateEnvelope worker payload state.drops
    if valid.1 = true then
      invokeHandleWithHooks worker { state with drops := valid.2 } payload
        turn
    else return ({ state with drops := valid.2 }, false)

/-- A message and what its handling meets. -/
abbrev WorkerEvent := ByteArray × Turn

def WorkerState.step (state : WorkerState) (event : WorkerEvent) :
    WorkerState :=
  match dispatch tools worker state event.1 event.2 with
  | .ok (after, _) => after
  | .error _ => { state with raised := state.raised + 1 }

def WorkerState.run (state : WorkerState) (events : List WorkerEvent) :
    WorkerState :=
  events.foldl (WorkerState.step tools worker) state

/-! ### What the worker is for -/

inductive WorkerVerdict
  | unreadable
  | refusedSchema
  | refusedContract
  | accepted (payload : Json)

namespace WorkerVerdict

def isRefusedSchema : WorkerVerdict → Bool
  | .refusedSchema => true
  | .unreadable | .refusedContract | .accepted _ => false

def isRefusedContract : WorkerVerdict → Bool
  | .refusedContract => true
  | .unreadable | .refusedSchema | .accepted _ => false

def payload : WorkerVerdict → Option Json
  | .accepted payload => some payload
  | .unreadable | .refusedSchema | .refusedContract => none

end WorkerVerdict

def workerVerdict (data : ByteArray) : WorkerVerdict :=
  match tools.loadsBytes data with
  | .ok (.obj members) =>
    if SchemaAccepts worker.schemaVersion members then
      if ContractAccepts contractVersion members then
        .accepted (.obj members)
      else .refusedContract
    else .refusedSchema
  | _ => .unreadable

def refusesSchema (event : WorkerEvent) : Bool :=
  (workerVerdict tools worker event.1).isRefusedSchema

def refusesContract (event : WorkerEvent) : Bool :=
  (workerVerdict tools worker event.1).isRefusedContract

def acceptedPayload (event : WorkerEvent) : Option Json :=
  (workerVerdict tools worker event.1).payload

/-- Every message is handled whole or dropped cleanly. -/
structure HandledWhole (events : List WorkerEvent) : Prop where
  /-- Only `handle` and `telemetry_attributes` raise. -/
  quiet : (WorkerState.run tools worker {} events).raised = 0
  /-- A message that is refused is counted under its first reason, and nothing
  else is counted. -/
  counted : (WorkerState.run tools worker {} events).drops = Function.update
      (Function.update (fun _ => 0) (dropKey worker.envelopeName "schema")
        (events.countP (refusesSchema tools worker)))
      (dropKey worker.envelopeName "contract")
      (events.countP (refusesContract tools worker))
  /-- `handle` gets the accepted messages in their order. -/
  handled : (WorkerState.run tools worker {} events).handled =
    events.filterMap (acceptedPayload tools worker)

/-- `json.loads` raises only what is caught, a JSON value is an object, and the
contract version of one with an accepted schema version is not too long. -/
def Checks (data : ByteArray) : Prop :=
  (∀ raised, tools.loadsBytes data = .error raised → IsJsonError raised) ∧
    ∀ payload, tools.loadsBytes data = .ok payload → ∃ members, payload = .obj members ∧
        (SchemaAccepts worker.schemaVersion members → ContractConverts members)

variable {tools worker}

def WorkerVerdict.count (worker : Worker) (counter : Counter) : WorkerVerdict → Counter
  | .refusedSchema => drop counter worker.envelopeName "schema"
  | .refusedContract => drop counter worker.envelopeName "contract"
  | .unreadable | .accepted _ => counter

/-- What the worker is to do with a message. -/
structure Receives (worker : Worker) (state after : WorkerState)
    (verdict : WorkerVerdict) : Prop where
  quiet : after.raised = state.raised
  drops : after.drops = verdict.count worker state.drops
  handled : after.handled = state.handled ++ verdict.payload.toList

/-- A state that differs in what the hooks have dropped. -/
structure SameButHooks (state after : WorkerState) : Prop where
  raised : after.raised = state.raised
  drops : after.drops = state.drops
  handled : after.handled = state.handled

theorem sameButHooks_safeHook (state : WorkerState) (name : String)
    (fails : Bool) : SameButHooks state (state.safeHook name fails) := by
  unfold WorkerState.safeHook
  split
  · exact ⟨rfl, rfl, rfl⟩
  · exact ⟨rfl, rfl, rfl⟩

theorem SameButHooks.trans {first second third : WorkerState}
    (one : SameButHooks first second) (two : SameButHooks second third) :
    SameButHooks first third :=
  ⟨two.raised.trans one.raised, two.drops.trans one.drops, two.handled.trans one.handled⟩

theorem SameButHooks.handle {state after : WorkerState}
    (same : SameButHooks state after) (payload : Json) :
    SameButHooks (state.handle payload) (after.handle payload) := by
  refine ⟨same.raised, same.drops, ?_⟩
  dsimp only [WorkerState.handle]
  rw [same.handled]

/-- The hooks do not get in the way of `handle`. -/
theorem runWithWorkHooks_eq (state : WorkerState) (members : List (PyStr × Json)) (turn : Turn) :
    ∃ after foreign, runWithWorkHooks worker state (.obj members) turn = .ok (after, foreign) ∧
      SameButHooks (state.handle (.obj members)) after := by
  have started : SameButHooks (state.handle (.obj members))
      ((state.safeHook "on_work_start" turn.startFails).handle (.obj members)) :=
    (sameButHooks_safeHook state _ _).handle _
  unfold runWithWorkHooks
  rw [Json.get_obj, Py.ok_bind, Json.get_obj, Py.ok_bind]
  split
  · dsimp only
    split
    · exact ⟨_, _, rfl, started⟩
    · refine ⟨_, _, rfl, started.trans ?_⟩
      split
      · exact (sameButHooks_safeHook _ _ _).trans (sameButHooks_safeHook _ _ _)
      · exact sameButHooks_safeHook _ _ _
  · exact ⟨_, _, rfl, rfl, rfl, rfl⟩

theorem invokeHandleWithHooks_eq (state : WorkerState)
    (members : List (PyStr × Json)) (turn : Turn) :
    ∃ after foreign, invokeHandleWithHooks worker state (.obj members) turn = .ok (after, foreign) ∧
      SameButHooks (state.handle (.obj members)) after := by
  unfold invokeHandleWithHooks
  split
  · exact ⟨_, _, rfl, rfl, rfl, rfl⟩
  · exact runWithWorkHooks_eq state members turn

theorem validateEnvelope_eq {members : List (PyStr × Json)}
    (converts : SchemaAccepts worker.schemaVersion members →
      ContractConverts members) (counter : Counter) :
    validateEnvelope worker (.obj members) counter =
      .ok (if SchemaAccepts worker.schemaVersion members then
        if ContractAccepts contractVersion members then (true, counter)
        else (false, drop counter worker.envelopeName "contract")
      else (false, drop counter worker.envelopeName "schema")) := by
  unfold validateEnvelope
  rw [checkSchemaVersion_eq, Py.ok_bind]
  by_cases accepts : SchemaAccepts worker.schemaVersion members
  · rw [if_pos accepts, if_pos accepts]
    dsimp only
    rw [if_pos rfl]
    exact checkContractVersion_eq _ _ (by decide) (converts accepts)
  · rw [if_neg accepts, if_neg accepts]
    rfl

theorem dispatch_eq {data : ByteArray} (checks : Checks tools worker data)
    (state : WorkerState) (turn : Turn) :
    ∃ after foreign, dispatch tools worker state data turn = .ok (after, foreign) ∧
        Receives worker state after (workerVerdict tools worker data) := by
  obtain ⟨onlyJsonError, onlyObjects⟩ := checks
  unfold dispatch workerVerdict
  cases loaded : tools.loadsBytes data with
  | error raised =>
    refine ⟨state, false, ?_, rfl, rfl, (List.append_nil _).symm⟩
    dsimp only
    rw [if_pos (onlyJsonError raised loaded)]
  | ok payload =>
    obtain ⟨members, rfl, converts⟩ := onlyObjects payload loaded
    dsimp only
    rw [validateEnvelope_eq converts, Py.ok_bind]
    by_cases accepts : SchemaAccepts worker.schemaVersion members
    · rw [if_pos accepts, if_pos accepts]
      by_cases contract : ContractAccepts contractVersion members
      · rw [if_pos contract, if_pos contract]
        obtain ⟨after, foreign, invoked, same⟩ :=
          @invokeHandleWithHooks_eq worker state members turn
        exact ⟨after, foreign, invoked, same.raised, same.drops, same.handled⟩
      · rw [if_neg contract, if_neg contract]
        exact ⟨_, _, rfl, rfl, rfl, (List.append_nil _).symm⟩
    · rw [if_neg accepts, if_neg accepts]
      exact ⟨_, _, rfl, rfl, rfl, (List.append_nil _).symm⟩

theorem dispatch_of_not_checks {data : ByteArray}
    (fails : ¬ Checks tools worker data) (state : WorkerState)
    (turn : Turn) :
    ∃ raised, dispatch tools worker state data turn = .error raised := by
  unfold dispatch
  cases loaded : tools.loadsBytes data with
  | error raised =>
    by_cases isJsonError : IsJsonError raised
    · refine absurd ⟨?_, ?_⟩ fails
      · intro other same
        cases loaded.symm.trans same
        exact isJsonError
      · intro payload same
        cases loaded.symm.trans same
    · exact ⟨raised, if_neg isJsonError⟩
  | ok payload =>
    dsimp only
    unfold validateEnvelope
    by_cases isObject : IsObject payload
    · obtain ⟨members, rfl⟩ := isObject
      rw [checkSchemaVersion_eq, Py.ok_bind]
      by_cases long : SchemaAccepts worker.schemaVersion members ∧ ¬ ContractConverts members
      · rw [if_pos long.1]
        dsimp only
        rw [if_pos rfl, checkContractVersion_of_not_converts _ _ long.2]
        exact ⟨.valueError, rfl⟩
      · refine absurd ⟨?_, ?_⟩ fails
        · intro raised same
          cases loaded.symm.trans same
        · intro payload same
          cases loaded.symm.trans same
          refine ⟨members, rfl, fun accepts => ?_⟩
          by_contra notConverts
          exact long ⟨accepts, notConverts⟩
    · rw [checkSchemaVersion_of_not_isObject isObject]
      exact ⟨.attributeError, rfl⟩

/-- A step receives a message that passes the checks and raises on another
one. -/
theorem worker_step_cases (state : WorkerState) (event : WorkerEvent) :
    (Checks tools worker event.1 ∧ Receives worker state (state.step tools worker event)
        (workerVerdict tools worker event.1)) ∨
    (¬ Checks tools worker event.1 ∧
      (state.step tools worker event).raised = state.raised + 1) := by
  unfold WorkerState.step
  by_cases checks : Checks tools worker event.1
  · obtain ⟨after, foreign, dispatched, receives⟩ := dispatch_eq checks state event.2
    rw [dispatched]
    exact .inl ⟨checks, receives⟩
  · obtain ⟨raised, raises⟩ := dispatch_of_not_checks checks state event.2
    rw [raises]
    exact .inr ⟨checks, rfl⟩

theorem raised_le_raised_worker_run (state : WorkerState) (events : List WorkerEvent) :
    state.raised ≤ (state.run tools worker events).raised := by
  induction events generalizing state with
  | nil => exact Nat.le_refl _
  | cons event events ih =>
    refine Nat.le_trans ?_ (ih (state.step tools worker event))
    rcases worker_step_cases state event with ⟨-, receives⟩ | ⟨-, raised⟩
    · rw [receives.quiet]
    · rw [raised]
      exact Nat.le_succ _

theorem checks_of_raised_eq (state : WorkerState) {events : List WorkerEvent}
    (quiet : (state.run tools worker events).raised = state.raised) :
    ∀ event ∈ events, Checks tools worker event.1 := by
  induction events generalizing state with
  | nil => exact nofun
  | cons event events ih =>
    rcases worker_step_cases state event with
      ⟨checks, receives⟩ | ⟨-, raised⟩
    · rw [List.forall_mem_cons]
      refine ⟨checks, ih (state.step tools worker event) ?_⟩
      rw [receives.quiet]
      exact quiet
    · have rest : (state.step tools worker event).raised ≤
          (state.run tools worker (event :: events)).raised :=
        raised_le_raised_worker_run _ events
      rw [raised, quiet] at rest
      exact absurd rest (Nat.not_succ_le_self _)

theorem dropKey_ne (envelopeName : String) :
    dropKey envelopeName "schema" ≠ dropKey envelopeName "contract" := by
  unfold dropKey
  intro same
  have lengths := congrArg String.length same
  simp only [String.length_append] at lengths
  have schema : "schema".length = 6 := rfl
  have contract : "contract".length = 8 := rfl
  omega

/-- What the messages add to the counter and to the handled payloads. -/
structure WorkerAdds (tools : Tools) (worker : Worker)
    (state after : WorkerState) (events : List WorkerEvent) : Prop where
  quiet : after.raised = state.raised
  schema : after.drops (dropKey worker.envelopeName "schema") =
    state.drops (dropKey worker.envelopeName "schema") + events.countP (refusesSchema tools worker)
  contract : after.drops (dropKey worker.envelopeName "contract") =
    state.drops (dropKey worker.envelopeName "contract") +
      events.countP (refusesContract tools worker)
  others : ∀ key, key ≠ dropKey worker.envelopeName "schema" →
    key ≠ dropKey worker.envelopeName "contract" → after.drops key = state.drops key
  handled : after.handled = state.handled ++ events.filterMap (acceptedPayload tools worker)

theorem WorkerAdds.trans {state middle after : WorkerState}
    {one : WorkerEvent} {events : List WorkerEvent}
    (first : WorkerAdds tools worker state middle [one])
    (rest : WorkerAdds tools worker middle after events) :
    WorkerAdds tools worker state after (one :: events) := by
  have split : one :: events = [one] ++ events := rfl
  constructor
  · exact rest.quiet.trans first.quiet
  · rw [rest.schema, first.schema, split, List.countP_append, Nat.add_assoc]
  · rw [rest.contract, first.contract, split, List.countP_append, Nat.add_assoc]
  · intro key notSchema notContract
    rw [rest.others key notSchema notContract,
      first.others key notSchema notContract]
  · rw [rest.handled, first.handled, split, List.filterMap_append, List.append_assoc]

theorem Receives.adds {state after : WorkerState} {event : WorkerEvent}
    (receives : Receives worker state after (workerVerdict tools worker event.1)) :
    WorkerAdds tools worker state after [event] := by
  obtain ⟨quiet, drops, handled⟩ := receives
  have different := dropKey_ne worker.envelopeName
  constructor
  · exact quiet
  · rw [drops, List.countP_singleton]
    unfold refusesSchema
    cases workerVerdict tools worker event.1 with
    | refusedSchema => exact Function.update_self ..
    | refusedContract => exact Function.update_of_ne different ..
    | unreadable => rfl
    | accepted payload => rfl
  · rw [drops, List.countP_singleton]
    unfold refusesContract
    cases workerVerdict tools worker event.1 with
    | refusedSchema => exact Function.update_of_ne different.symm ..
    | refusedContract => exact Function.update_self ..
    | unreadable => rfl
    | accepted payload => rfl
  · intro key notSchema notContract
    rw [drops]
    cases workerVerdict tools worker event.1 with
    | refusedSchema => exact Function.update_of_ne notSchema ..
    | refusedContract => exact Function.update_of_ne notContract ..
    | unreadable => rfl
    | accepted payload => rfl
  · have single : [event].filterMap (acceptedPayload tools worker) =
        (acceptedPayload tools worker event).toList := by
      rw [List.filterMap_cons]
      cases acceptedPayload tools worker event <;> rfl
    rw [handled, single]
    rfl

theorem worker_run_adds (state : WorkerState) {events : List WorkerEvent}
    (checks : ∀ event ∈ events, Checks tools worker event.1) :
    WorkerAdds tools worker state (state.run tools worker events)
      events := by
  induction events generalizing state with
  | nil =>
    exact ⟨rfl, rfl, rfl, fun _ _ _ => rfl, (List.append_nil _).symm⟩
  | cons event events ih =>
    obtain ⟨first, rest⟩ := List.forall_mem_cons.mp checks
    rcases worker_step_cases state event with ⟨-, receives⟩ | ⟨fails, -⟩
    · exact receives.adds.trans (ih _ rest)
    · exact absurd first fails

/-- A worker handles its messages whole exactly when all of them pass the
checks. -/
theorem handledWhole_iff (events : List WorkerEvent) : HandledWhole tools worker events ↔
      ∀ event ∈ events, Checks tools worker event.1 := by
  constructor
  · intro whole
    exact checks_of_raised_eq {} whole.quiet
  · intro checks
    have adds := worker_run_adds {} checks
    refine ⟨adds.quiet, ?_, adds.handled⟩
    ext key
    by_cases isContract : key = dropKey worker.envelopeName "contract"
    · subst isContract
      rw [Function.update_self, adds.contract]
      exact Nat.zero_add _
    · rw [Function.update_of_ne isContract]
      by_cases isSchema : key = dropKey worker.envelopeName "schema"
      · subst isSchema
        rw [Function.update_self, adds.schema]
        exact Nat.zero_add _
      · rw [Function.update_of_ne isSchema, adds.others key isSchema isContract]

end Workers

/-- The bus and the workers take their messages whole exactly when the messages
parse and their contract versions are not too long. -/
theorem messages_whole_iff (tools : Tools) : (∀ maxsize events, TakenWhole tools maxsize events ↔
      ∀ event ∈ events, BusEvent.Parses tools event) ∧
    ∀ worker events, HandledWhole tools worker events ↔
      ∀ event ∈ events, Checks tools worker event.1 :=
  ⟨fun _ => takenWhole_iff, fun _ => handledWhole_iff⟩

section Example

/-- An envelope with this contract version. -/
def exampleEnvelope (version : String) : String :=
  "\x7b\"contract_version\": \"" ++ version ++ "\"\x7d"

def exampleLoads (version text : String) : Py Json :=
  if text = "[]" then .ok (.arr [])
  else if text = exampleEnvelope version then
    .ok (.obj [(.text "contract_version", .ofString version)])
  else .error jsonDecodeError

def exampleTools (version : String) : Tools where
  loads := exampleLoads version
  loadsBytes data :=
    match String.fromUTF8? data with
    | some text => exampleLoads version text
    | none => .error .unicodeDecodeError
  lax :=
    { int := fun _ => .error .validationError
      datetime := fun _ => .error .validationError
      now := ⟨⟨2026, 1, 1, 0, 0, 0, 0, some 0⟩, by decide⟩ }
  rejects := ⟨fun _ => .error rfl, fun _ => .error rfl⟩

def exampleWorker : Worker where
  envelopeName := "Job"
  schemaVersion := 1

theorem fromUTF8?_toByteArray (text : String) : String.fromUTF8? text.toByteArray = some text :=
  dif_pos text.isValidUTF8

theorem loads_of_loadsBytes (version text : String) :
    (exampleTools version).loadsBytes text.toByteArray =
      exampleLoads version text := by
  dsimp only [exampleTools]
  rw [fromUTF8?_toByteArray]

theorem exampleLoads_list (version : String) : exampleLoads version "[]" = .ok (.arr []) :=
  if_pos rfl

theorem length_le_length_append (start version ending : String) :
    version.length ≤ (start ++ version ++ ending).length := by
  rw [String.length_append, String.length_append]
  omega

theorem not_takenWhole_of_list (version : String) (now : DateTime) :
    ¬ TakenWhole (exampleTools version) 500 [.message "[]".toByteArray now] := by
  intro whole
  have parses := (takenWhole_iff _).mp whole _ List.mem_cons_self
  obtain ⟨-, objects⟩ := parses "[]" (fromUTF8?_toByteArray "[]")
  obtain ⟨members, same⟩ := objects (.arr []) (exampleLoads_list version)
  cases same

theorem not_handledWhole_of_list (version : String) :
    ¬ HandledWhole (exampleTools version) exampleWorker [("[]".toByteArray, {})] := by
  intro whole
  have checks := (handledWhole_iff _).mp whole _ List.mem_cons_self
  obtain ⟨members, same, -⟩ := checks.2 (.arr [])
    ((loads_of_loadsBytes version "[]").trans (exampleLoads_list version))
  cases same

theorem not_handledWhole_of_long {version : String} (isVersion : isContractVersion version = true)
    (long : maxStrDigits < version.length) :
    ¬ HandledWhole (exampleTools version) exampleWorker
      [((exampleEnvelope version).toByteArray, {})] := by
  intro whole
  have checks := (handledWhole_iff _).mp whole _ List.mem_cons_self
  have notList : exampleEnvelope version ≠ "[]" := by
    intro same
    have bound : version.length ≤ (exampleEnvelope version).length := length_le_length_append _ _ _
    rw [same] at bound
    exact absurd (Nat.lt_of_lt_of_le long bound) (by decide)
  have loaded := loads_of_loadsBytes version (exampleEnvelope version)
  rw [exampleLoads, if_neg notList, if_pos rfl] at loaded
  obtain ⟨members, same, converts⟩ := checks.2 _ loaded
  cases same
  have accepts : SchemaAccepts exampleWorker.schemaVersion
      [(.text "contract_version", .ofString version)] :=
    ⟨1, rfl, by decide, by decide⟩
  exact absurd (converts accepts version rfl isVersion) (Nat.not_le.mpr long)

def ones (count : Nat) : String := String.ofList (List.replicate count '1')

theorem isContractVersion_ones (count : Nat) : isContractVersion (ones (count + 1)) = true := by
  have digits : (List.replicate count '1').all Char.isDigit = true := by
    rw [List.all_eq_true]
    intro character member
    rw [(List.mem_replicate.mp member).2]
    rfl
  unfold isContractVersion ones
  rw [String.toList_ofList, List.replicate_succ]
  simp only [digits, Bool.and_true]
  rfl

theorem length_ones (count : Nat) : (ones count).length = count := by
  rw [ones, String.length_ofList, List.length_replicate]

/-- A list makes both handlers raise, and so does a long contract version. -/
theorem exists_message_not_whole : ¬ TakenWhole (exampleTools (ones 4301)) 500
      [.message "[]".toByteArray (exampleTools "1").lax.now] ∧
    ¬ HandledWhole (exampleTools (ones 4301)) exampleWorker [("[]".toByteArray, {})] ∧
    ¬ HandledWhole (exampleTools (ones 4301)) exampleWorker
      [((exampleEnvelope (ones 4301)).toByteArray, {})] := by
  refine ⟨not_takenWhole_of_list _ _, not_handledWhole_of_list _, ?_⟩
  apply not_handledWhole_of_long (isContractVersion_ones 4300)
  rw [length_ones]
  decide

end Example

end BusMessages

end RoxabiFactory

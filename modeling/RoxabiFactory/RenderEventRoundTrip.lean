import RoxabiFactory.DataclassRoundTrips
import RoxabiFactory.RenderEventCodec

/-!
# Render events on the wire

Every class of render events has one branch of the registry, and the fields of
an event make round trips under the hints of its class.  So a payload is
decoded to the event it comes from, unless its version is not the one of the
branch.
-/

namespace RoxabiFactory

open DataclassCodec

/-- The tool input, if there is one, is a JSON object without lone
surrogates. -/
def RenderEvent.JsonInput : RenderEvent String → Prop
  | .toolCallStart _ _ input _ => ∀ value ∈ input,
      (∃ members, value = .obj members) ∧ value.encodable = true
  | _ => True

/-- The tool input, if there is one, has no lone surrogates. -/
def RenderEvent.EncodableInput : RenderEvent String → Prop
  | .toolCallStart _ _ input _ => ∀ value ∈ input, value.encodable = true
  | _ => True

theorem RenderEvent.JsonInput.encodable {event : RenderEvent String}
    (wellTyped : event.JsonInput) : event.EncodableInput := by
  cases event with
  | toolCallStart toolCallId toolName input schemaVersion =>
    exact fun value member => (wellTyped value member).2
  | _ => trivial

namespace RenderEventCodec

section Fields

variable {validate : ModelValidate} {name : String}

theorem role_trips (role : Role) :
    FieldTrips validate ("role", role.toPyObject) roleField := by
  cases role
  exact ⟨rfl, _, rfl, rfl⟩

theorem outcome_trips (outcome : RunOutcome) {default : Option PyObject} :
    FieldTrips validate (name, outcome.toPyObject) (name, .literal, default) := by
  cases outcome <;> exact ⟨rfl, _, rfl, rfl⟩

theorem json_trips {value : Option Json} {default : Option PyObject}
    (encodable : ∀ json ∈ value, json.encodable = true) :
    FieldTrips validate (name, .optional .ofJson value) (name, Hint.optional .other, default) := by
  cases value with
  | none => exact ⟨rfl, roundTrips_null_optional _⟩
  | some json =>
    refine ⟨rfl, ?_⟩
    change RoundTrips validate (Hint.optional .other) (.ofJson json)
    by_cases absent : json = .null
    · rw [absent]
      exact roundTrips_null_optional _
    · have trips : RoundTrips validate .other (.ofJson json) :=
        roundTrips_ofJson _ (encodable json rfl) fun _ => rfl
      refine trips.optional ?_ rfl rfl
      intro null
      cases json with
      | null => exact absent rfl
      | _ => cases null

end Fields

variable {validate : ModelValidate} {event : RenderEvent String}

/-- The class of an event has one branch, and the fields of the event make
round trips under its hints. -/
theorem exists_branch (validate : ModelValidate) (encodable : event.EncodableInput) :
    ∃ eventType declared, eventType ∉ syntheticTerminals ++ syntheticNonTerminals ∧
      isTerminal validate eventType = event.isTerminal ∧
      (buildCodecRegistry validate).find? (·.clsName = event.cls) =
        some (stdBranch validate eventType event.cls event.isTerminal 1 declared) ∧
      (buildCodecRegistry validate).find? (·.eventType = eventType) =
        some (stdBranch validate eventType event.cls event.isTerminal 1 declared) ∧
      (declared.map fun field => field.1).Nodup ∧
      List.Forall₂ (FieldTrips validate) event.fields declared := by
  cases event with
  | textStart messageId role schemaVersion =>
    exact ⟨_, _, by decide, rfl, rfl, rfl, by decide,
      .cons (text_field _) (.cons (role_trips role) (.cons (int_field _) .nil))⟩
  | textDelta messageId delta schemaVersion =>
    exact ⟨_, _, by decide, rfl, rfl, rfl, by decide,
      .cons (text_field _) (.cons (text_field _) (.cons (int_field _) .nil))⟩
  | textEnd messageId schemaVersion =>
    exact ⟨_, _, by decide, rfl, rfl, rfl, by decide,
      .cons (text_field _) (.cons (int_field _) .nil)⟩
  | textChunk messageId delta role schemaVersion =>
    exact ⟨_, _, by decide, rfl, rfl, rfl, by decide,
      .cons (text_field _) (.cons (text_field _) (.cons (role_trips role)
        (.cons (int_field _) .nil)))⟩
  | runStarted runId schemaVersion =>
    exact ⟨_, _, by decide, rfl, rfl, rfl, by decide,
      .cons (text_field _) (.cons (int_field _) .nil)⟩
  | runFinished runId outcome schemaVersion =>
    exact ⟨_, _, by decide, rfl, rfl, rfl, by decide,
      .cons (text_field _) (.cons (outcome_trips outcome) (.cons (int_field _) .nil))⟩
  | runError runId message code schemaVersion =>
    exact ⟨_, _, by decide, rfl, rfl, rfl, by decide,
      .cons (text_field _) (.cons (text_field _)
        (.cons (optionalText_field code) (.cons (int_field _) .nil)))⟩
  | toolCallStart toolCallId toolName input schemaVersion =>
    exact ⟨_, _, by decide, rfl, rfl, rfl, by decide,
      .cons (text_field _) (.cons (text_field _)
        (.cons (json_trips encodable) (.cons (int_field _) .nil)))⟩
  | toolCallArgs toolCallId delta schemaVersion =>
    exact ⟨_, _, by decide, rfl, rfl, rfl, by decide,
      .cons (text_field _) (.cons (text_field _) (.cons (int_field _) .nil))⟩
  | toolCallEnd toolCallId schemaVersion =>
    exact ⟨_, _, by decide, rfl, rfl, rfl, by decide,
      .cons (text_field _) (.cons (int_field _) .nil)⟩
  | toolCallResult toolCallId content isError schemaVersion =>
    exact ⟨_, _, by decide, rfl, rfl, rfl, by decide,
      .cons (text_field _) (.cons (text_field _) (.cons (bool_field _) (.cons (int_field _) .nil)))⟩
  | reasoningStart messageId schemaVersion =>
    exact ⟨_, _, by decide, rfl, rfl, rfl, by decide,
      .cons (text_field _) (.cons (int_field _) .nil)⟩
  | reasoningDelta messageId delta schemaVersion =>
    exact ⟨_, _, by decide, rfl, rfl, rfl, by decide,
      .cons (text_field _) (.cons (text_field _) (.cons (int_field _) .nil))⟩
  | reasoningEnd messageId schemaVersion =>
    exact ⟨_, _, by decide, rfl, rfl, rfl, by decide,
      .cons (text_field _) (.cons (int_field _) .nil)⟩

theorem version_mem : ("schema_version", .int event.schemaVersion) ∈ event.fields := by
  cases event <;> simp [RenderEvent.fields, RenderEvent.schemaVersion]

theorem exists_encoded (validate : ModelValidate) (encodable : event.EncodableInput) :
    ∃ branch ∈ buildCodecRegistry validate, ∃ payload, branch.clsName = event.cls ∧
      branch.eventType ∉ syntheticTerminals ++ syntheticNonTerminals ∧
      isTerminal validate branch.eventType = event.isTerminal ∧
      encode validate event.toPyObject = .ok (branch.eventType, payload, event.isTerminal) ∧
      decode validate branch.eventType payload =
        .ok (if event.schemaVersion = 1 then some event.toPyObject
          else none) := by
  obtain ⟨eventType, declared, ordinary, terminal, byClass, byType, nodup, trips⟩ :=
    exists_branch validate encodable
  obtain ⟨members, dumped, keys, decoded⟩ :=
    exists_object event.cls nodup trips
  have serialized : serialize event.toPyObject = .ok (.obj members) := serialize_dataclass dumped
  have version : members.lookup (.text "schema_version") = some (.int event.schemaVersion) :=
    lookup_of_mem (nodup_of_keys nodup keys) (mem_of_dumpsMembers dumped version_mem rfl)
  refine ⟨_, List.mem_of_find?_eq_some byClass, .obj members, rfl, ordinary, terminal, ?_, ?_⟩
  · simp only [encode, RenderEvent.toPyObject, byClass, stdBranch, makeStdEncode]
    rw [← RenderEvent.toPyObject, serialized]
    rfl
  · have checked : checkSchemaVersion (.obj members) 1 =
        .ok (decide (event.schemaVersion = 1)) := by
      have within : (0 < event.schemaVersion ∧ event.schemaVersion ≤ 1) ↔
          event.schemaVersion = 1 := by omega
      simp only [checkSchemaVersion, Json.get, version, Option.getD_some]
      simp only [← within]
      rfl
    have decodes : makeStdDecode validate (.dataclass event.cls declared)
        (.obj members) = .ok event.toPyObject := by
      simp only [makeStdDecode, dumps_ofJson_of_serialize serialized]
      exact decoded
    have registered : ¬ (eventType ∈ syntheticTerminals ∨
        eventType ∈ syntheticNonTerminals) := by
      simpa using ordinary
    change decode validate eventType (.obj members) = _
    rw [decode, if_neg registered, byType]
    simp only [stdBranch, checked, decodes]
    by_cases current : event.schemaVersion = 1
    · simp only [current, decide_true, if_true]
      rfl
    · simp only [current, decide_false, if_false]
      rfl

theorem encodableInput_of_encode {encoded : Encoded}
    (returns : encode validate event.toPyObject = .ok encoded) :
    event.EncodableInput := by
  cases event with
  | toolCallStart toolCallId toolName input schemaVersion =>
    rintro json ⟨⟩
    have serializes : (do
        let payload ← serialize (RenderEvent.toolCallStart toolCallId
          toolName (some json) schemaVersion).toPyObject
        return ("tool_call_start", payload, false)) = .ok encoded := returns
    obtain ⟨payload, serialized, -⟩ := Py.bind_eq_ok.mp serializes
    have plain : (PyObject.optional .ofJson (some json)).isCallable =
        false := isCallable_ofJson json
    have dumped : dumps (.dict [(.text "tool_call_id", .ofString toolCallId),
        (.text "tool_name", .ofString toolName), (.text "input", .ofJson json),
        (.text "schema_version", .int schemaVersion)]) = .ok payload := by
      rw [← serialized, ← encode_ofJson json]
      simp only [serialize, RenderEvent.toPyObject, RenderEvent.fields,
        DataclassCodec.encode, encodeFields, plain, Bool.false_eq_true,
        if_false]
      rfl
    obtain ⟨members, dumpedMembers, -⟩ := Py.bind_eq_ok.mp dumped
    obtain ⟨_, _, dumpedMembers⟩ := Py.bind_eq_ok.mp dumpedMembers
    obtain ⟨rest, dumpedRest, -⟩ := Py.bind_eq_ok.mp dumpedMembers
    obtain ⟨_, _, dumpedRest⟩ := Py.bind_eq_ok.mp dumpedRest
    obtain ⟨last, dumpedLast, -⟩ := Py.bind_eq_ok.mp dumpedRest
    obtain ⟨input, dumpedInput, -⟩ := Py.bind_eq_ok.mp dumpedLast
    exact encodable_of_dumps_ofJson dumpedInput
  | _ => trivial

theorem clsName_of_eventType {left right : CodecBranch}
    (leftMember : left ∈ buildCodecRegistry validate)
    (rightMember : right ∈ buildCodecRegistry validate)
    (same : left.eventType = right.eventType) :
    left.clsName = right.clsName := by
  have nodup : ((buildCodecRegistry validate).map CodecBranch.eventType).Nodup := by
    rw [show (buildCodecRegistry validate).map CodecBranch.eventType =
      ["text_start", "text_delta", "text_end", "text_chunk", "run_started",
        "run_finished", "run_error", "tool_call_start", "tool_call_args",
        "tool_call_end", "tool_call_result", "reasoning_start",
        "reasoning_delta", "reasoning_end"] from rfl]
    decide
  rw [List.inj_on_of_nodup_map nodup leftMember rightMember same]

/-- Decoding the payload of an event gives the event back exactly when its
version is the one of its class; the event types tell the classes apart, and
`is_done` marks the terminal events. -/
theorem wire_roundTrip (validate : ModelValidate) : (∀ event : RenderEvent String, event.JsonInput →
      ∃ branch ∈ buildCodecRegistry validate, ∃ payload, branch.clsName = event.cls ∧
        encode validate event.toPyObject = .ok (branch.eventType, payload, event.isTerminal) ∧
        (decode validate branch.eventType payload =
            .ok (some event.toPyObject) ↔ event.schemaVersion = 1)) ∧
      ∀ left ∈ buildCodecRegistry validate, ∀ right ∈ buildCodecRegistry validate,
          left.eventType = right.eventType → left.clsName = right.clsName := by
  refine ⟨fun event wellTyped => ?_, fun left leftMember right rightMember =>
    clsName_of_eventType leftMember rightMember⟩
  obtain ⟨branch, member, payload, ofClass, -, -, encoded, decoded⟩ :=
    exists_encoded validate wellTyped.encodable
  refine ⟨branch, member, payload, ofClass, encoded, ?_⟩
  rw [decoded]
  by_cases current : event.schemaVersion = 1 <;> simp [current]

/-- A version that is not the one of its class is dropped. -/
theorem exists_event_dropped : ∃ payload, encode (fun _ _ => .error .validationError)
        (RenderEvent.textEnd "block" 2).toPyObject = .ok ("text_end", payload, false) ∧
      decode (fun _ _ => .error .validationError) "text_end" payload = .ok none :=
  ⟨.obj [(.text "message_id", .ofString "block"), (.text "schema_version", .int 2)], rfl, rfl⟩

theorem wire_roundTrip_toolCall :
    let event : RenderEvent String := .toolCallStart "call" "Bash"
      (some (.obj [(.text "command", .ofString "ls")])) 1
    ∃ eventType payload, encode (fun _ _ => .error .validationError) event.toPyObject =
        .ok (eventType, payload, false) ∧
      decode (fun _ _ => .error .validationError) eventType payload =
        .ok (some event.toPyObject) := by
  intro event
  have wellTyped : event.JsonInput := by
    rintro _ ⟨⟩
    exact ⟨⟨_, rfl⟩, rfl⟩
  obtain ⟨branch, -, payload, -, encoded, decoded⟩ :=
    (wire_roundTrip fun _ _ => .error .validationError).1 event wellTyped
  exact ⟨branch.eventType, payload, encoded, decoded.mpr rfl⟩

end RenderEventCodec

end RoxabiFactory

import RoxabiFactory.DataclassRoundTrips
import RoxabiFactory.WireMessages

/-!
# Messages on the wire

An `OutboundMessage` comes back as it was sent.  An `InboundMessage` never
does: a tuple is written as an array and no hint turns it back, so `roles`
comes back as a list.  A reference that is a string comes back as bytes when
it starts with the prefix of encoded bytes.
-/

namespace RoxabiFactory

open DataclassCodec

namespace Wire

section Parts

variable {validate : ModelValidate}

theorem PlatformMeta.roundTrips (platformMeta : PlatformMeta) :
    RoundTrips validate PlatformMeta.hint platformMeta.toPyObject := by
  cases platformMeta with
  | telegram platformMeta =>
    exact roundTrips_union 0 (by decide)
      (.cons (int_field _) (.cons (optionalInt_field _)
        (.cons (optionalInt_field _) (.cons (bool_field _) .nil))))
      rfl (by decide) (by decide)
  | discord platformMeta =>
    exact roundTrips_union 1 (by decide)
      (.cons (int_field _) (.cons (int_field _)
        (.cons (optionalInt_field _) (.cons (optionalInt_field _)
          (.cons (optionalText_field _) .nil)))))
      rfl (by decide) (by decide)
  | web platformMeta =>
    exact roundTrips_union 2 (by decide)
      (.cons (text_field _) (.cons (optionalText_field _) (.cons (optionalText_field _) .nil)))
      rfl (by decide) (by decide)
  | generic =>
    exact roundTrips_union 3 (by decide) .nil rfl (by decide)
      (by decide)

theorem RoutingContext.roundTrips (routing : RoutingContext) :
    RoundTrips validate RoutingContext.hint routing.toPyObject :=
  roundTrips_dataclass (by decide)
    (.cons (text_field _) (.cons (text_field _) (.cons (text_field _)
      (.cons (optionalText_field _) (.cons (optionalText_field _)
        (.cons ⟨rfl, routing.platformMeta.roundTrips⟩ .nil))))))

theorem ContentPart.roundTrips (part : ContentPart) :
    RoundTrips validate ContentPart.hint part.toPyObject := by
  cases part with
  | text characters =>
    exact roundTrips_union_text characters (by decide) rfl
  | codeBlock code language =>
    exact roundTrips_union 1 (by decide)
      (.cons (text_field _) (.cons (optionalText_field _) .nil))
      rfl (by decide) (by decide)
  | mediaPart url mediaType caption =>
    exact roundTrips_union 2 (by decide)
      (.cons (text_field _) (.cons (text_field _) (.cons (optionalText_field _) .nil)))
      rfl (by decide) (by decide)

theorem Button.roundTrips (button : Button) : RoundTrips validate Button.hint button.toPyObject :=
  roundTrips_dataclass (by decide)
    (.cons (text_field _) (.cons (text_field _) .nil))

theorem CommandContext.roundTrips (command : CommandContext) :
    RoundTrips validate CommandContext.hint command.toPyObject :=
  roundTrips_dataclass (by decide)
    (.cons (text_field _) (.cons (text_field _) (.cons (text_field _) (.cons (text_field _) .nil))))

def Reference.LooksEncoded : Reference → Prop
  | .text characters => b64Prefix.toList <+: characters.toList
  | .bytes _ => False

/-- A reference comes back unless it is a string with the prefix of encoded
bytes. -/
theorem Reference.roundTrips_iff (reference : Reference) :
    RoundTrips validate (.union [.str, .bytes]) reference.toPyObject ↔
      ¬ reference.LooksEncoded := by
  have bytesKnown : ([Hint.str, .bytes].filter fun arg =>
      !arg.isNone).any Hint.isBytes = true := rfl
  cases reference with
  | bytes data =>
    refine iff_of_true ⟨_, rfl, ?_⟩ not_false
    have payload := b64Payload_prefixed (Base64.encode data)
    unfold Json.ofString at payload ⊢
    simp only [decode, payload, Option.filter_some, bytesKnown, if_true,
      Py.ok_bind, b64decode_encode]
    rfl
  | text characters =>
    have payload := b64Payload_text characters
    unfold Json.ofString at payload
    by_cases looks : b64Prefix.toList <+: characters.toList
    · refine iff_of_false ?_ (not_not.mpr looks)
      rintro ⟨json, ⟨⟩, decoded⟩
      rw [if_pos looks] at payload
      simp only [Json.ofString, decode, payload, Option.filter_some,
        bytesKnown, if_true, Py.ok_bind] at decoded
      unfold b64decode at decoded
      split at decoded
      · split at decoded <;> cases decoded
      · cases decoded
    · refine iff_of_true ⟨.ofString characters, rfl, ?_⟩ looks
      rw [if_neg looks] at payload
      simp only [Json.ofString, decode, payload, Option.filter_none]
      rfl

end Parts

namespace BlobRef

variable {lax : Lax} {blob : BlobRef}

/-- What `None` or a string is written as. -/
def textJson : Option String → Json
  | none => .null
  | some characters => .ofString characters

/-- The members that the model is written as. -/
def members (blob : BlobRef) : List (PyStr × Json) := [(.text "store_key", .ofString blob.storeKey),
    (.text "content_hash", .ofString blob.contentHash),
    (.text "mime", .ofString blob.mime), (.text "size", .int blob.size),
    (.text "source", .ofString blob.source),
    (.text "filename", textJson blob.filename),
    (.text "platform_ref", textJson blob.platformRef),
    (.text "platform_message_id", textJson blob.platformMessageId),
    (.text "created_at", .ofString (String.ofList blob.createdAt.val.isoformat))]

theorem serialize_eq : serialize blob.toPyObject = .ok (.obj blob.members) := by
  obtain ⟨storeKey, contentHash, mime, size, source, filename, platformRef,
    platformMessageId, createdAt, notEmpty, isUtc⟩ := blob
  cases filename <;> cases platformRef <;> cases platformMessageId <;> rfl

theorem validateOptionalStr_eq (value : Option String) :
    validateOptionalStr (textJson value) = .ok (Wire.text value) := by
  cases value <;> rfl

theorem validateContentHash_eq : validateContentHash (.ofString blob.contentHash) =
      .ok (.ofString blob.contentHash) :=
  if_neg blob.contentHash_ne

theorem validateDatetime_eq : validateDatetime lax
      (.ofString (String.ofList blob.createdAt.val.isoformat)) =
        .ok (.datetime blob.createdAt) := by
  have decoded : decodeDatetime (.ofString (String.ofList blob.createdAt.val.isoformat)) =
        .ok (.datetime blob.createdAt) := by
    simp [decodeDatetime, Json.ofString, TimeFields.fromisoformat_isoformat blob.createdAt.property,
      blob.createdAt.property]
  simp [validateDatetime, decoded, blob.createdAt_utc]

theorem validateFields_cons {members : List (PyStr × Json)} {name : String}
    {validate : Json → Py PyObject} {default : Option PyObject}
    {fields : List (String × (Json → Py PyObject) × Option PyObject)}
    {json : Json} {value : PyObject} {rest : List (String × PyObject)}
    (found : members.lookup (.text name) = some json)
    (validated : validate json = .ok value)
    (later : validateFields members fields = .ok rest) :
    validateFields members ((name, validate, default) :: fields) = .ok ((name, value) :: rest) := by
  simp only [validateFields, found, validated, later]
  rfl

theorem modelValidate_members : modelValidate lax blob.members = .ok blob.toPyObject := by
  have known : (blob.members.all fun member =>
      (validators lax).any fun field =>
        decide (member.1 = .text field.1)) = true := rfl
  have fields : validateFields blob.members (validators lax) = .ok
      [("store_key", .ofString blob.storeKey), ("content_hash", .ofString blob.contentHash),
        ("mime", .ofString blob.mime), ("size", .int blob.size),
        ("source", .ofString blob.source),
        ("filename", Wire.text blob.filename),
        ("platform_ref", Wire.text blob.platformRef),
        ("platform_message_id", Wire.text blob.platformMessageId),
        ("created_at", .datetime blob.createdAt)] :=
    validateFields_cons rfl rfl <| validateFields_cons rfl validateContentHash_eq <|
      validateFields_cons rfl rfl <| validateFields_cons rfl rfl <|
      validateFields_cons rfl rfl <|
      validateFields_cons rfl (validateOptionalStr_eq _) <|
      validateFields_cons rfl (validateOptionalStr_eq _) <|
      validateFields_cons rfl (validateOptionalStr_eq _) <|
      validateFields_cons rfl validateDatetime_eq rfl
  rw [modelValidate, if_pos known, fields]
  rfl

theorem roundTrips (lax : Lax) (blob : BlobRef) : RoundTrips (validate lax) hint blob.toPyObject :=
  ⟨_, serialize_eq, modelValidate_members⟩

end BlobRef

theorem optionalBlob_field {lax : BlobRef.Lax} {name : String}
    {default : Option PyObject} (blob : Option BlobRef) :
    FieldTrips (BlobRef.validate lax) (name, .optional BlobRef.toPyObject blob)
      (name, BlobRef.hint.optional, default) :=
  ⟨rfl, roundTrips_optional (fun inner _ => inner.roundTrips lax) (fun _ => nofun) rfl rfl⟩

theorem Attachment.roundTrips {lax : BlobRef.Lax} {attachment : Attachment}
    (plain : ¬ attachment.urlOrPathOrBytes.LooksEncoded) :
    RoundTrips (BlobRef.validate lax) Attachment.hint
      attachment.toPyObject := by
  have type : RoundTrips (BlobRef.validate lax) .literal
      attachment.type.toPyObject := by
    cases attachment.type <;> exact ⟨_, rfl, rfl⟩
  exact roundTrips_dataclass (by decide)
    (.cons ⟨rfl, type⟩ (.cons ⟨rfl, (Reference.roundTrips_iff _).mpr plain⟩
      (.cons (text_field _) (.cons (optionalText_field _) (.cons (optionalBlob_field _) .nil)))))

theorem Attachment.roundTrips_reference {validate : ModelValidate} {attachment : Attachment}
    (trips : RoundTrips validate Attachment.hint attachment.toPyObject) :
    RoundTrips validate (.union [.str, .bytes])
      attachment.urlOrPathOrBytes.toPyObject := by
  have names : ["type", "url_or_path_or_bytes", "mime_type", "filename",
    "blob_ref"].Nodup := by decide
  have member : ("url_or_path_or_bytes", attachment.urlOrPathOrBytes.toPyObject) ∈
        [("type", attachment.type.toPyObject),
          ("url_or_path_or_bytes", attachment.urlOrPathOrBytes.toPyObject),
          ("mime_type", .ofString attachment.mimeType),
          ("filename", text attachment.filename),
          ("blob_ref", .optional BlobRef.toPyObject attachment.blobRef)] := by
    simp
  have annotated : ("url_or_path_or_bytes", Hint.union [.str, .bytes], none) ∈
      [required "type" .literal, required "url_or_path_or_bytes" (.union [.str, .bytes]),
        required "mime_type" .str, optionalField "filename" .str,
        optionalField "blob_ref" BlobRef.hint] := by simp [required]
  exact trips.field names names member annotated (by cases attachment.urlOrPathOrBytes <;> rfl)

theorem AudioPayload.roundTrips (lax : BlobRef.Lax) (audio : AudioPayload) :
    RoundTrips (BlobRef.validate lax) AudioPayload.hint audio.toPyObject :=
  roundTrips_dataclass (by decide)
    (.cons (optionalBlob_field _) (.cons (text_field _)
      (.cons (optionalInt_field _) (.cons (optionalText_field _)
        (.cons (optionalText_field _) .nil)))))

namespace InboundMessage

def fieldNames : List String := ["id", "platform", "bot_id", "scope_id", "user_id", "user_name",
    "is_mention", "text", "text_raw", "trust_level", "schema_version",
    "is_admin", "roles", "attachments", "reply_to_id", "thread_id",
    "timestamp", "locale", "language", "platform_meta", "routing", "command",
    "modality", "processor_enriched", "audio", "session_update_fn",
    "pending_attachment", "pending_attachments", "root_job_id", "trace_id"]

theorem not_roundTrips {validate : ModelValidate} {now : DateTime} (msg : InboundMessage) :
    ¬ RoundTrips validate (hint now) msg.toPyObject := by
  intro trips
  have names : fieldNames.Nodup := by decide
  have annotated : ("roles", Hint.other, some (PyObject.tuple [])) ∈
      declared now := by simp [declared]
  have member : ("roles", PyObject.tuple (msg.roles.map .ofString)) ∈
      msg.fields := by simp [fields]
  exact not_roundTrips_tuple (fun _ => rfl) (trips.field
    (names : ((declared now).map fun field => field.1).Nodup)
    (names : (msg.fields.map Prod.fst).Nodup) member annotated rfl)

/-- A tuple as a list. -/
def untuple : PyObject → PyObject
  | .tuple items => .list items
  | value => value

def tupleFields : List String := ["roles", "pending_attachments"]

def untupledField (field : String × PyObject) : String × PyObject :=
  if field.1 ∈ tupleFields then (field.1, untuple field.2) else field

/-- The message with lists in place of its tuples. -/
def untupled (msg : InboundMessage) : PyObject :=
  .dataclass "InboundMessage" (msg.fields.map untupledField)

theorem encodeItems_texts (texts : List String) :
    encodeItems (texts.map .ofString) = texts.map .ofString := by
  induction texts with
  | nil => rfl
  | cons first texts ih =>
    simp only [List.map_cons, encodeItems, ih]
    rfl

/-- A tuple, if the value is one, has items that are their own encoding. -/
def PlainTuple (value : PyObject) : Prop :=
  ∀ items, value = .tuple items → encodeItems items = items

theorem dumps_encode_untuple {value : PyObject} (plain : PlainTuple value) :
    dumps (encode (untuple value)) = dumps (encode value) := by
  cases value with
  | tuple items =>
    simp only [untuple, encode, dumps, plain items rfl]
  | _ => rfl

theorem isCallable_untuple (value : PyObject) : (untuple value).isCallable = value.isCallable := by
  cases value <;> rfl

theorem dumpsMembers_untupled {fields : List (String × PyObject)}
    (plain : ∀ field ∈ fields, field.1 ∈ tupleFields → PlainTuple field.2) :
    dumpsMembers (encodeFields (fields.map untupledField)) =
      dumpsMembers (encodeFields fields) := by
  induction fields with
  | nil => rfl
  | cons field fields ih =>
    obtain ⟨name, value⟩ := field
    have rest := ih fun later member => plain later (by simp [member])
    by_cases named : name ∈ tupleFields
    · have first := dumps_encode_untuple (plain (name, value) (by simp)
        named)
      simp only [List.map_cons, untupledField, if_pos named, encodeFields, isCallable_untuple]
      split
      · exact rest
      · simp only [dumpsMembers, first]
        rw [← rest]
    · simp only [List.map_cons, untupledField, if_neg named, encodeFields]
      split
      · exact rest
      · simp only [dumpsMembers]
        rw [← rest]

/-- A message without the fields that only its sender can use. -/
structure Wired (msg : InboundMessage) : Prop where
  sessionUpdateFn : msg.sessionUpdateFn = false
  pendingAttachment : msg.pendingAttachment = .null
  pendingAttachments : msg.pendingAttachments.items = []

theorem wireInbound_attachments (msg : InboundMessage) :
    msg.wireInbound.attachments = msg.attachments := by
  unfold wireInbound
  split <;> rfl

theorem wired_wireInbound (msg : InboundMessage) : Wired msg.wireInbound := by
  unfold wireInbound
  split
  case isTrue bare =>
    obtain ⟨noCallback, noCarrier, noCarriers⟩ := bare
    refine ⟨noCallback, ?_, List.isEmpty_iff.mp noCarriers⟩
    cases same : msg.pendingAttachment <;> rw [same] at noCarrier <;>
      first | rfl | cases noCarrier
  case isFalse => exact ⟨rfl, rfl, rfl⟩

theorem plainTuple_fields {msg : InboundMessage} (wired : Wired msg) :
    ∀ field ∈ msg.fields, field.1 ∈ tupleFields → PlainTuple field.2 := by
  have roles : PlainTuple (.tuple (msg.roles.map .ofString)) := by
    rintro items ⟨⟩
    exact encodeItems_texts msg.roles
  have carriers : PlainTuple msg.pendingAttachments.toPyObject := by
    have none := wired.pendingAttachments
    cases same : msg.pendingAttachments with
    | list items => rintro items ⟨⟩
    | tuple items =>
      rw [same] at none
      obtain rfl : items = [] := none
      rintro items ⟨⟩
      rfl
  intro field member named
  simp only [fields, List.mem_cons, List.not_mem_nil, or_false] at member
  rcases member with rfl | rfl | rfl | rfl | rfl | rfl | rfl | rfl | rfl |
    rfl | rfl | rfl | rfl | rfl | rfl | rfl | rfl | rfl | rfl | rfl | rfl |
    rfl | rfl | rfl | rfl | rfl | rfl | rfl | rfl | rfl
  all_goals first
    | exact roles
    | exact carriers
    | simp [tupleFields] at named

theorem serialize_untupled {msg : InboundMessage} (wired : Wired msg) :
    serialize msg.untupled = serialize msg.toPyObject := by
  simp only [serialize, untupled, toPyObject, encode, dumps,
    dumpsMembers_untupled (plainTuple_fields wired)]

/-- What comes back is the message with lists in place of its tuples, unless a
reference looks like encoded bytes. -/
theorem untupled_roundTrips_iff {lax : BlobRef.Lax} {now : DateTime}
    {msg : InboundMessage} (wired : Wired msg) :
    RoundTrips (BlobRef.validate lax) (hint now) msg.untupled ↔ ∀ attachment ∈ msg.attachments,
        ¬ attachment.urlOrPathOrBytes.LooksEncoded := by
  have names : fieldNames.Nodup := by decide
  constructor
  · intro trips attachment member
    have attachments : ("attachments", PyObject.list (msg.attachments.map Attachment.toPyObject)) ∈
          msg.fields.map untupledField :=
      List.mem_map.mpr ⟨("attachments", _), by simp [fields], rfl⟩
    have annotated : ("attachments", Hint.list Attachment.hint,
        some (PyObject.list [])) ∈ declared now := by simp [declared]
    have list : RoundTrips (BlobRef.validate lax) (.list Attachment.hint)
        (.list (msg.attachments.map Attachment.toPyObject)) :=
      trips.field (names : ((declared now).map fun field => field.1).Nodup)
        names attachments annotated rfl
    have item := list.item (List.mem_map_of_mem member)
    exact (Reference.roundTrips_iff _).mp (Attachment.roundTrips_reference item)
  · intro plain
    have level : RoundTrips (BlobRef.validate lax) TrustLevel.hint
        msg.trustLevel.toPyObject := by
      cases msg.trustLevel <;> exact roundTrips_enum (by decide)
    have modality : RoundTrips (BlobRef.validate lax) (Hint.optional .literal)
        (.optional Modality.toPyObject msg.modality) :=
      roundTrips_optional (fun inner _ => by cases inner <;> exact ⟨_, rfl, rfl⟩)
        (fun inner => by cases inner <;> exact nofun) rfl rfl
    have roles : RoundTrips (BlobRef.validate lax) .other (.list (msg.roles.map .ofString)) := by
      have items : msg.roles.map PyObject.ofString =
          PyObject.ofJsonItems (msg.roles.map .ofString) := by
        induction msg.roles with
        | nil => rfl
        | cons first roles ih => rw [List.map_cons, ih]; rfl
      have written : Json.encodableItems (msg.roles.map .ofString) = true := by
        clear items
        induction msg.roles with
        | nil => rfl
        | cons first roles ih => exact ih
      rw [items]
      exact roundTrips_ofJson (.arr _) written fun _ => rfl
    have attachments : RoundTrips (BlobRef.validate lax) (.list Attachment.hint)
        (.list (msg.attachments.map Attachment.toPyObject)) := by
      refine roundTrips_list fun value member => ?_
      obtain ⟨attachment, inList, rfl⟩ := List.mem_map.mp member
      exact Attachment.roundTrips (plain attachment inList)
    have routing : RoundTrips (BlobRef.validate lax) RoutingContext.hint.optional
        (.optional RoutingContext.toPyObject msg.routing) :=
      roundTrips_optional (fun inner _ => inner.roundTrips) (fun _ => nofun)
        rfl rfl
    have command : RoundTrips (BlobRef.validate lax) CommandContext.hint.optional
        (.optional CommandContext.toPyObject msg.command) :=
      roundTrips_optional (fun inner _ => inner.roundTrips) (fun _ => nofun)
        rfl rfl
    have audio : RoundTrips (BlobRef.validate lax) AudioPayload.hint.optional
        (.optional AudioPayload.toPyObject msg.audio) :=
      roundTrips_optional (fun inner _ => inner.roundTrips lax) (fun _ => nofun) rfl rfl
    have callback : RoundTrips (BlobRef.validate lax) (Hint.optional .other)
        (if msg.sessionUpdateFn then .callable else .null) := by
      rw [wired.sessionUpdateFn]
      exact roundTrips_null_optional _
    have carrier : RoundTrips (BlobRef.validate lax) .any
        msg.pendingAttachment := by
      rw [wired.pendingAttachment]
      exact ⟨.null, rfl, rfl⟩
    have carriers : RoundTrips (BlobRef.validate lax) (.list .any)
        (untuple msg.pendingAttachments.toPyObject) := by
      have same : untuple msg.pendingAttachments.toPyObject = .list [] := by
        have none := wired.pendingAttachments
        cases same : msg.pendingAttachments <;> rw [same] at none <;>
          obtain rfl := none <;> rfl
      rw [same]
      exact ⟨.arr [], rfl, rfl⟩
    refine roundTrips_dataclass names ?_
    exact .cons (text_field _) (.cons (text_field _) (.cons (text_field _)
      (.cons (text_field _) (.cons (text_field _) (.cons (text_field _)
      (.cons (bool_field _) (.cons (text_field _) (.cons (text_field _)
      (.cons ⟨rfl, level⟩ (.cons (int_field _) (.cons (bool_field _)
      (.cons ⟨rfl, roles⟩ (.cons ⟨rfl, attachments⟩
      (.cons (optionalText_field _) (.cons (optionalText_field _)
      (.cons ⟨rfl, roundTrips_datetime _⟩ (.cons (optionalText_field _)
      (.cons (optionalText_field _)
      (.cons ⟨rfl, msg.platformMeta.roundTrips⟩ (.cons ⟨rfl, routing⟩
      (.cons ⟨rfl, command⟩ (.cons ⟨rfl, modality⟩ (.cons (bool_field _)
      (.cons ⟨rfl, audio⟩ (.cons ⟨rfl, callback⟩ (.cons ⟨rfl, carrier⟩
      (.cons ⟨rfl, carriers⟩ (.cons (optionalText_field _)
      (.cons (optionalText_field _) .nil)))))))))))))))))))))))))))))

end InboundMessage

namespace OutboundMessage

/-- Every value of the metadata that is not local to the hub is a JSON value.
-/
def JsonMetadata (outbound : OutboundMessage) : Prop :=
  ∀ entry ∈ outbound.metadata, entry.1 ∉ hubLocalMetadataKeys →
    ∃ key json, entry = (.text key, .ofJson json) ∧ json.encodable = true

theorem exists_members_of_json (entries : List (PyStr × PyObject))
    (values : ∀ entry ∈ entries, ∃ key json,
      entry = (.text key, .ofJson json) ∧ json.encodable = true) :
    ∃ members, entries = PyObject.ofJsonMembers members ∧ Json.encodableMembers members = true := by
  induction entries with
  | nil => exact ⟨[], rfl, rfl⟩
  | cons entry entries ih =>
    obtain ⟨key, json, rfl, encodable⟩ := values entry (by simp)
    obtain ⟨members, rfl, rest⟩ := ih fun later member =>
      values later (by simp [member])
    refine ⟨(.text key, json) :: members, rfl, ?_⟩
    rw [Json.encodableMembers, encodable, rest]
    rfl

theorem wireOutbound_metadata (outbound : OutboundMessage) :
    outbound.wireOutbound.metadata = outbound.metadata.filter fun entry =>
      entry.1 ∉ hubLocalMetadataKeys := by
  unfold wireOutbound
  split
  case isTrue local_ =>
    exact (List.filter_eq_self.mpr (List.all_eq_true.mp local_)).symm
  case isFalse => rfl

theorem roundTrips_of_metadata {validate : ModelValidate} {outbound : OutboundMessage}
    (metadata : RoundTrips validate .other (.dict outbound.metadata)) :
    RoundTrips validate hint outbound.toPyObject := by
  have content : RoundTrips validate (.list ContentPart.hint)
      (.list (outbound.content.map ContentPart.toPyObject)) := by
    refine roundTrips_list fun value member => ?_
    obtain ⟨part, -, rfl⟩ := List.mem_map.mp member
    exact part.roundTrips
  have buttons : RoundTrips validate (.list Button.hint)
      (.list (outbound.buttons.map Button.toPyObject)) := by
    refine roundTrips_list fun value member => ?_
    obtain ⟨button, -, rfl⟩ := List.mem_map.mp member
    exact button.roundTrips
  have routing : RoundTrips validate RoutingContext.hint.optional
      (.optional RoutingContext.toPyObject outbound.routing) :=
    roundTrips_optional (fun inner _ => inner.roundTrips) (fun _ => nofun)
      rfl rfl
  exact roundTrips_dataclass (by decide)
    (.cons ⟨rfl, content⟩ (.cons ⟨rfl, buttons⟩ (.cons (optionalText_field _) (.cons (bool_field _)
        (.cons (bool_field _) (.cons ⟨rfl, metadata⟩
          (.cons ⟨rfl, routing⟩ (.cons (int_field _) .nil))))))))

theorem roundTrips {validate : ModelValidate} {outbound : OutboundMessage}
    (values : outbound.JsonMetadata) :
    RoundTrips validate hint outbound.wireOutbound.toPyObject := by
  apply roundTrips_of_metadata
  rw [wireOutbound_metadata]
  obtain ⟨members, same, encodable⟩ := exists_members_of_json (outbound.metadata.filter fun entry =>
      entry.1 ∉ hubLocalMetadataKeys) fun entry member => by
        rw [List.mem_filter, decide_eq_true_iff] at member
        exact values entry member.1 member.2
  rw [same]
  exact roundTrips_ofJson (.obj members) encodable fun _ => rfl

end OutboundMessage

/-- No inbound message comes back equal.  It comes back with lists in place of
its tuples exactly when no reference looks like encoded bytes.  Every outbound
message comes back. -/
theorem wire_roundTrips (lax : BlobRef.Lax) (now : DateTime) : (∀ msg : InboundMessage,
      ¬ RoundTrips (BlobRef.validate lax) (InboundMessage.hint now) msg.wireInbound.toPyObject ∧
      ((∃ json, serialize msg.wireInbound.toPyObject = .ok json ∧
          deserialize (BlobRef.validate lax) json (InboundMessage.hint now) =
            .ok msg.wireInbound.untupled) ↔
        ∀ attachment ∈ msg.attachments, ¬ attachment.urlOrPathOrBytes.LooksEncoded)) ∧
    ∀ outbound : OutboundMessage, outbound.JsonMetadata →
      RoundTrips (BlobRef.validate lax) OutboundMessage.hint
        outbound.wireOutbound.toPyObject := by
  refine ⟨fun msg => ⟨msg.wireInbound.not_roundTrips, ?_⟩,
    fun _ values => OutboundMessage.roundTrips values⟩
  have wired := msg.wired_wireInbound
  rw [← InboundMessage.serialize_untupled wired, ← msg.wireInbound_attachments]
  exact InboundMessage.untupled_roundTrips_iff wired

theorem exampleTime_valid : TimeFields.Valid
    { year := 2026, month := 1, day := 1, offset := some 0 } := by
  decide

/-- The first of January 2026 in UTC. -/
def exampleTime : DateTime :=
  ⟨{ year := 2026, month := 1, day := 1, offset := some 0 }, exampleTime_valid⟩

/-- The outbound message of a text with a metadata entry. -/
theorem wire_roundTrips_text : RoundTrips (BlobRef.validate ⟨fun _ => .error .validationError,
        fun _ => .error .validationError, exampleTime⟩) OutboundMessage.hint
      (OutboundMessage.wireOutbound
        { content := [.text "done"]
          metadata := [(.text "reply_message_id", .int 7)] }).toPyObject :=
  (wire_roundTrips _ exampleTime).2 _ fun entry member _ => by
    obtain rfl := List.mem_singleton.mp member
    exact ⟨"reply_message_id", .int 7, rfl, rfl⟩

/-- The roles of a sender come back as a list. -/
theorem exists_inbound_changed : ∃ (msg : InboundMessage) (lax : BlobRef.Lax),
      msg.roles = ["admin"] ∧ msg.attachments = [] ∧
      ¬ RoundTrips (BlobRef.validate lax) (InboundMessage.hint exampleTime)
        msg.wireInbound.toPyObject :=
  ⟨{ id := "m1", platform := "discord", botId := "main", scopeId := "42"
     userId := "7", userName := "Ada", isMention := false, text := "hi"
     textRaw := "hi", trustLevel := .trusted, roles := ["admin"]
     timestamp := exampleTime },
    ⟨fun _ => .error .validationError, fun _ => .error .validationError,
      exampleTime⟩, rfl, rfl, InboundMessage.not_roundTrips _⟩

end Wire

end RoxabiFactory

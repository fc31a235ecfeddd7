import RoxabiFactory.DataclassCodec

/-!
# Messages between the hub and the adapters

An `InboundMessage` and an `OutboundMessage` travel as JSON.  Before that,
`wire_inbound` and `wire_outbound` take out what only the sender can use.  The
hints of a class are the annotations of its fields, with their defaults.
-/

namespace RoxabiFactory

open DataclassCodec

namespace Wire

/-- A `str` that may be `None`. -/
def text : Option String → PyObject := .optional .ofString

/-- An `int` that may be `None`. -/
def number : Option Int → PyObject := .optional .int

structure TelegramMeta where
  chatId : Int := 0
  messageId : Option Int := none
  topicId : Option Int := none
  isGroup : Bool := false

structure DiscordMeta where
  channelId : Int := 0
  messageId : Int := 0
  guildId : Option Int := none
  threadId : Option Int := none
  channelType : Option String := none

structure WebMeta where
  sessionId : String := ""
  harness : Option String := none
  model : Option String := none

inductive PlatformMeta
  | telegram (platformMeta : TelegramMeta)
  | discord (platformMeta : DiscordMeta)
  | web (platformMeta : WebMeta)
  | generic

namespace PlatformMeta

def toPyObject : PlatformMeta → PyObject
  | .telegram platformMeta => .dataclass "TelegramMeta" [("chat_id", .int platformMeta.chatId),
        ("message_id", number platformMeta.messageId),
        ("topic_id", number platformMeta.topicId),
        ("is_group", .bool platformMeta.isGroup)]
  | .discord platformMeta => .dataclass "DiscordMeta" [("channel_id", .int platformMeta.channelId),
        ("message_id", .int platformMeta.messageId),
        ("guild_id", number platformMeta.guildId),
        ("thread_id", number platformMeta.threadId),
        ("channel_type", text platformMeta.channelType)]
  | .web platformMeta => .dataclass "WebMeta" [("session_id", .ofString platformMeta.sessionId),
        ("harness", text platformMeta.harness),
        ("model", text platformMeta.model)]
  | .generic => .dataclass "GenericMeta" []

def telegramHint : Hint := .dataclass "TelegramMeta"
  [("chat_id", .other, some (.int 0)), optionalField "message_id" .other,
    optionalField "topic_id" .other, ("is_group", .other, some (.bool false))]

def discordHint : Hint := .dataclass "DiscordMeta" [("channel_id", .other, some (.int 0)),
    ("message_id", .other, some (.int 0)), optionalField "guild_id" .other,
    optionalField "thread_id" .other, optionalField "channel_type" .str]

def webHint : Hint := .dataclass "WebMeta"
  [("session_id", .str, some (.ofString "")), optionalField "harness" .str,
    optionalField "model" .str]

def genericHint : Hint := .dataclass "GenericMeta" []

/-- The union `PlatformMeta`. -/
def hint : Hint := .union [telegramHint, discordHint, webHint, genericHint]

/-- `field(default_factory=GenericMeta)`. -/
def field : String × Hint × Option PyObject :=
  ("platform_meta", hint, some PlatformMeta.generic.toPyObject)

end PlatformMeta

structure RoutingContext where
  platform : String
  botId : String
  scopeId : String
  threadId : Option String := none
  replyToMessageId : Option String := none
  platformMeta : PlatformMeta := .generic

namespace RoutingContext

def toPyObject (routing : RoutingContext) : PyObject := .dataclass "RoutingContext"
    [("platform", .ofString routing.platform), ("bot_id", .ofString routing.botId),
      ("scope_id", .ofString routing.scopeId),
      ("thread_id", text routing.threadId),
      ("reply_to_message_id", text routing.replyToMessageId),
      ("platform_meta", routing.platformMeta.toPyObject)]

def hint : Hint := .dataclass "RoutingContext" [required "platform" .str, required "bot_id" .str,
    required "scope_id" .str, optionalField "thread_id" .str,
    optionalField "reply_to_message_id" .str, PlatformMeta.field]

end RoutingContext

/-- A pydantic model; the validator refuses an empty hash, and the time is in
UTC. -/
structure BlobRef where
  storeKey : String
  contentHash : String
  mime : String
  size : Int
  source : String
  filename : Option String := none
  platformRef : Option String := none
  platformMessageId : Option String := none
  createdAt : DateTime
  contentHash_ne : contentHash ≠ ""
  createdAt_utc : createdAt.val.offset = some 0

namespace BlobRef

def toPyObject (blob : BlobRef) : PyObject := .model "BlobRef"
    [("store_key", .ofString blob.storeKey), ("content_hash", .ofString blob.contentHash),
      ("mime", .ofString blob.mime), ("size", .int blob.size),
      ("source", .ofString blob.source), ("filename", text blob.filename),
      ("platform_ref", text blob.platformRef),
      ("platform_message_id", text blob.platformMessageId),
      ("created_at", .datetime blob.createdAt)]

/-- What pydantic makes of values of other types, and of a missing time. -/
structure Lax where
  int : Json → Py PyObject
  datetime : Json → Py PyObject
  now : DateTime

variable (lax : Lax)

def validateStr : Json → Py PyObject
  | .str (.text characters) => .ok (.ofString characters)
  | _ => .error .validationError

def validateOptionalStr : Json → Py PyObject
  | .null => .ok .null
  | value => validateStr value

def validateInt : Json → Py PyObject
  | .int value => .ok (.int value)
  | value => lax.int value

/-- A time in UTC as `isoformat` writes it; other times are up to pydantic. -/
def validateDatetime (value : Json) : Py PyObject :=
  match decodeDatetime value with
  | .ok (.datetime time) =>
    if time.val.offset = some 0 then .ok (.datetime time)
    else lax.datetime value
  | _ => lax.datetime value

/-- `content_hash` with its validator. -/
def validateContentHash : Json → Py PyObject
  | .str (.text characters) =>
    if characters = "" then .error .validationError
    else .ok (.ofString characters)
  | _ => .error .validationError

/-- The fields of the model, with their validation and their default. -/
def validators : List (String × (Json → Py PyObject) × Option PyObject) :=
  [("store_key", validateStr, none),
    ("content_hash", validateContentHash, none), ("mime", validateStr, none),
    ("size", validateInt lax, none), ("source", validateStr, none),
    ("filename", validateOptionalStr, some .null),
    ("platform_ref", validateOptionalStr, some .null),
    ("platform_message_id", validateOptionalStr, some .null),
    ("created_at", validateDatetime lax, some (.datetime lax.now))]

def validateFields (members : List (PyStr × Json)) :
    List (String × (Json → Py PyObject) × Option PyObject) → Py (List (String × PyObject))
  | [] => .ok []
  | (name, validate, default) :: fields => do
    let value ← match members.lookup (.text name), default with
      | some json, _ => validate json
      | none, some default => .ok default
      | none, none => .error .validationError
    return (name, value) :: (← validateFields members fields)

/-- `BlobRef.model_validate`, with `extra="forbid"`. -/
def modelValidate (members : List (PyStr × Json)) : Py PyObject :=
  if members.all fun member => (validators lax).any fun field =>
      decide (member.1 = .text field.1) then do
    return .model "BlobRef" (← validateFields members (validators lax))
  else .error .validationError

/-- `model_validate` of the models on the wire. -/
def validate : ModelValidate := fun cls members =>
  if cls = "BlobRef" then modelValidate lax members
  else .error .attributeError

def hint : Hint := .model "BlobRef"

end BlobRef

/-- `Literal["image", "audio", "video", "file"]`. -/
inductive AttachmentType
  | image
  | audio
  | video
  | file

def AttachmentType.toPyObject : AttachmentType → PyObject
  | .image => .ofString "image"
  | .audio => .ofString "audio"
  | .video => .ofString "video"
  | .file => .ofString "file"

/-- `str | bytes`. -/
inductive Reference
  | text (characters : String)
  | bytes (data : List UInt8)

def Reference.toPyObject : Reference → PyObject
  | .text characters => .ofString characters
  | .bytes data => .bytes data

structure Attachment where
  type : AttachmentType
  urlOrPathOrBytes : Reference
  mimeType : String
  filename : Option String := none
  blobRef : Option BlobRef := none

namespace Attachment

def toPyObject (attachment : Attachment) : PyObject := .dataclass "Attachment"
    [("type", attachment.type.toPyObject),
      ("url_or_path_or_bytes", attachment.urlOrPathOrBytes.toPyObject),
      ("mime_type", .ofString attachment.mimeType),
      ("filename", text attachment.filename),
      ("blob_ref", PyObject.optional BlobRef.toPyObject attachment.blobRef)]

def hint : Hint := .dataclass "Attachment" [required "type" .literal,
    required "url_or_path_or_bytes" (.union [.str, .bytes]),
    required "mime_type" .str, optionalField "filename" .str,
    optionalField "blob_ref" BlobRef.hint]

end Attachment

structure AudioPayload where
  blobRef : Option BlobRef
  mimeType : String
  durationMs : Option Int := none
  fileId : Option String := none
  waveformB64 : Option String := none

namespace AudioPayload

def toPyObject (audio : AudioPayload) : PyObject := .dataclass "AudioPayload"
    [("blob_ref", PyObject.optional BlobRef.toPyObject audio.blobRef),
      ("mime_type", .ofString audio.mimeType),
      ("duration_ms", number audio.durationMs),
      ("file_id", text audio.fileId),
      ("waveform_b64", text audio.waveformB64)]

def hint : Hint := .dataclass "AudioPayload"
  [required "blob_ref" BlobRef.hint.optional, required "mime_type" .str,
    optionalField "duration_ms" .other, optionalField "file_id" .str,
    optionalField "waveform_b64" .str]

end AudioPayload

structure CommandContext where
  commandPrefix : String
  name : String
  args : String
  raw : String

namespace CommandContext

def toPyObject (command : CommandContext) : PyObject := .dataclass "CommandContext"
    [("prefix", .ofString command.commandPrefix),
      ("name", .ofString command.name), ("args", .ofString command.args),
      ("raw", .ofString command.raw)]

def hint : Hint := .dataclass "CommandContext"
  [required "prefix" .str, required "name" .str, required "args" .str, required "raw" .str]

end CommandContext

inductive TrustLevel
  | owner
  | trusted
  | pub
  | blocked

namespace TrustLevel

def value : TrustLevel → String
  | .owner => "owner"
  | .trusted => "trusted"
  | .pub => "public"
  | .blocked => "blocked"

def toPyObject (level : TrustLevel) : PyObject := .enum "TrustLevel" level.value

def hint : Hint := .enum "TrustLevel" ["owner", "trusted", "public", "blocked"]

end TrustLevel

/-- `Literal["text", "voice"]`. -/
inductive Modality
  | text
  | voice

def Modality.toPyObject : Modality → PyObject
  | .text => .ofString "text"
  | .voice => .ofString "voice"

/-- A list or a tuple; `wire_inbound` puts a tuple in place of a list. -/
inductive Sequence
  | list (items : List PyObject)
  | tuple (items : List PyObject)

namespace Sequence

def items : Sequence → List PyObject
  | .list items | .tuple items => items

def toPyObject : Sequence → PyObject
  | .list items => .list items
  | .tuple items => .tuple items

end Sequence

structure InboundMessage where
  id : String
  platform : String
  botId : String
  scopeId : String
  userId : String
  userName : String
  isMention : Bool
  text : String
  textRaw : String
  trustLevel : TrustLevel
  schemaVersion : Int := 1
  isAdmin : Bool := false
  roles : List String := []
  attachments : List Attachment := []
  replyToId : Option String := none
  threadId : Option String := none
  timestamp : DateTime
  locale : Option String := none
  language : Option String := none
  platformMeta : PlatformMeta := .generic
  routing : Option RoutingContext := none
  command : Option CommandContext := none
  modality : Option Modality := none
  processorEnriched : Bool := false
  audio : Option AudioPayload := none
  /-- There is a callback. -/
  sessionUpdateFn : Bool := false
  pendingAttachment : PyObject := .null
  pendingAttachments : Sequence := .list []
  rootJobId : Option String := none
  traceId : Option String := none

namespace InboundMessage

/-- The fields in their order; `roles` is a tuple. -/
def fields (msg : InboundMessage) : List (String × PyObject) :=
  [("id", .ofString msg.id), ("platform", .ofString msg.platform),
    ("bot_id", .ofString msg.botId), ("scope_id", .ofString msg.scopeId),
    ("user_id", .ofString msg.userId), ("user_name", .ofString msg.userName),
    ("is_mention", .bool msg.isMention), ("text", .ofString msg.text),
    ("text_raw", .ofString msg.textRaw),
    ("trust_level", msg.trustLevel.toPyObject),
    ("schema_version", .int msg.schemaVersion),
    ("is_admin", .bool msg.isAdmin),
    ("roles", .tuple (msg.roles.map .ofString)),
    ("attachments", .list (msg.attachments.map Attachment.toPyObject)),
    ("reply_to_id", Wire.text msg.replyToId),
    ("thread_id", Wire.text msg.threadId),
    ("timestamp", .datetime msg.timestamp),
    ("locale", Wire.text msg.locale), ("language", Wire.text msg.language),
    ("platform_meta", msg.platformMeta.toPyObject),
    ("routing", PyObject.optional RoutingContext.toPyObject msg.routing),
    ("command", PyObject.optional CommandContext.toPyObject msg.command),
    ("modality", PyObject.optional Modality.toPyObject msg.modality),
    ("processor_enriched", .bool msg.processorEnriched),
    ("audio", PyObject.optional AudioPayload.toPyObject msg.audio),
    ("session_update_fn", if msg.sessionUpdateFn then .callable else .null),
    ("pending_attachment", msg.pendingAttachment),
    ("pending_attachments", msg.pendingAttachments.toPyObject),
    ("root_job_id", Wire.text msg.rootJobId),
    ("trace_id", Wire.text msg.traceId)]

def toPyObject (msg : InboundMessage) : PyObject := .dataclass "InboundMessage" msg.fields

/-- The annotations, with `datetime.now` for the default of the timestamp. -/
def declared (now : DateTime) : List (String × Hint × Option PyObject) :=
  [required "id" .str, required "platform" .str, required "bot_id" .str,
    required "scope_id" .str, required "user_id" .str,
    required "user_name" .str, required "is_mention" .other,
    required "text" .str, required "text_raw" .str,
    required "trust_level" TrustLevel.hint,
    ("schema_version", .other, some (.int 1)),
    ("is_admin", .other, some (.bool false)),
    ("roles", .other, some (.tuple [])),
    ("attachments", .list Attachment.hint, some (.list [])),
    optionalField "reply_to_id" .str, optionalField "thread_id" .str,
    ("timestamp", .datetime, some (.datetime now)),
    optionalField "locale" .str, optionalField "language" .str,
    PlatformMeta.field, optionalField "routing" RoutingContext.hint,
    optionalField "command" CommandContext.hint,
    optionalField "modality" .literal,
    ("processor_enriched", .other, some (.bool false)),
    optionalField "audio" AudioPayload.hint,
    optionalField "session_update_fn" .other,
    ("pending_attachment", .any, some .null),
    ("pending_attachments", .list .any, some (.list [])),
    optionalField "root_job_id" .str, optionalField "trace_id" .str]

def hint (now : DateTime) : Hint := .dataclass "InboundMessage" (declared now)

/-- `wire_inbound`. -/
def wireInbound (msg : InboundMessage) : InboundMessage :=
  if msg.sessionUpdateFn = false ∧ msg.pendingAttachment.isNull = true ∧
      msg.pendingAttachments.items.isEmpty = true then msg
  else { msg with
    sessionUpdateFn := false
    pendingAttachment := .null
    pendingAttachments := .tuple [] }

end InboundMessage

structure Button where
  text : String
  callbackData : String

namespace Button

def toPyObject (button : Button) : PyObject := .dataclass "Button" [("text", .ofString button.text),
    ("callback_data", .ofString button.callbackData)]

def hint : Hint := .dataclass "Button" [required "text" .str, required "callback_data" .str]

end Button

/-- `str | CodeBlock | MediaPart`. -/
inductive ContentPart
  | text (characters : String)
  | codeBlock (code : String) (language : Option String)
  | mediaPart (url mediaType : String) (caption : Option String)

namespace ContentPart

def toPyObject : ContentPart → PyObject
  | .text characters => .ofString characters
  | .codeBlock code language => .dataclass "CodeBlock"
      [("code", .ofString code), ("language", Wire.text language)]
  | .mediaPart url mediaType caption => .dataclass "MediaPart"
      [("url", .ofString url), ("media_type", .ofString mediaType), ("caption", Wire.text caption)]

def codeBlockHint : Hint := .dataclass "CodeBlock"
  [required "code" .str, optionalField "language" .str]

def mediaPartHint : Hint := .dataclass "MediaPart" [required "url" .str, required "media_type" .str,
    optionalField "caption" .str]

def hint : Hint := .union [.str, codeBlockHint, mediaPartHint]

end ContentPart

structure OutboundMessage where
  content : List ContentPart
  buttons : List Button := []
  editId : Option String := none
  isFinal : Bool := true
  intermediate : Bool := false
  metadata : List (PyStr × PyObject) := []
  routing : Option RoutingContext := none
  schemaVersion : Int := 1

/-- `_HUB_LOCAL_METADATA_KEYS`. -/
def hubLocalMetadataKeys : List PyStr := [.text "_on_dispatched"]

namespace OutboundMessage

def fields (outbound : OutboundMessage) : List (String × PyObject) :=
  [("content", .list (outbound.content.map ContentPart.toPyObject)),
    ("buttons", .list (outbound.buttons.map Button.toPyObject)),
    ("edit_id", Wire.text outbound.editId),
    ("is_final", .bool outbound.isFinal),
    ("intermediate", .bool outbound.intermediate),
    ("metadata", .dict outbound.metadata),
    ("routing", PyObject.optional RoutingContext.toPyObject outbound.routing),
    ("schema_version", .int outbound.schemaVersion)]

def toPyObject (outbound : OutboundMessage) : PyObject :=
  .dataclass "OutboundMessage" outbound.fields

def declared : List (String × Hint × Option PyObject) :=
  [required "content" (.list ContentPart.hint), ("buttons", .list Button.hint, some (.list [])),
    optionalField "edit_id" .str, ("is_final", .other, some (.bool true)),
    ("intermediate", .other, some (.bool false)),
    ("metadata", .other, some (.dict [])),
    optionalField "routing" RoutingContext.hint,
    ("schema_version", .other, some (.int 1))]

def hint : Hint := .dataclass "OutboundMessage" declared

/-- `wire_outbound`. -/
def wireOutbound (outbound : OutboundMessage) : OutboundMessage :=
  if outbound.metadata.all fun entry => entry.1 ∉ hubLocalMetadataKeys then
    outbound
  else { outbound with
    metadata := outbound.metadata.filter fun entry =>
      entry.1 ∉ hubLocalMetadataKeys }

end OutboundMessage

end Wire

end RoxabiFactory

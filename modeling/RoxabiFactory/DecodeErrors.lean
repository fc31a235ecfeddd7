import RoxabiFactory.WireMessages

/-!
# The exceptions of the decoder

Whatever the fields of a message hold, `deserialize_dict` raises nothing but
the exceptions that the message handlers catch.
-/

namespace RoxabiFactory

namespace Py

/-- The computation may raise only such exceptions. -/
def RaisesOnly {α : Type} (allowed : PyError → Prop) (computation : Py α) :
    Prop :=
  ∀ raised, computation = .error raised → allowed raised

namespace RaisesOnly

variable {α β : Type} {allowed : PyError → Prop}

theorem ok (value : α) : RaisesOnly allowed (.ok value : Py α) := nofun

theorem error {raised : PyError} (isAllowed : allowed raised) :
    RaisesOnly allowed (.error raised : Py α) := by
  rintro _ ⟨⟩
  exact isAllowed

theorem bind {first : Py α} {next : α → Py β} (firstRaises : RaisesOnly allowed first)
    (nextRaises : ∀ value, RaisesOnly allowed (next value)) :
    RaisesOnly allowed (first >>= next) := by
  intro raised raises
  cases first with
  | error other =>
    cases raises
    exact firstRaises raised rfl
  | ok value => exact nextRaises value raised raises

theorem mapM {visit : α → Py β} (items : List α)
    (visits : ∀ item, RaisesOnly allowed (visit item)) :
    RaisesOnly allowed (items.mapM visit) := by
  induction items with
  | nil => exact ok []
  | cons item items ih =>
    rw [List.mapM_cons]
    exact bind (visits item) fun _ => bind ih fun _ => ok _

end RaisesOnly

end Py

/-- `except (TypeError, ValueError, KeyError)`; `binascii.Error` is a
`ValueError`. -/
def PyError.IsDecodeError (raised : PyError) : Prop :=
  raised = .typeError ∨ raised.isValueError = true ∨ raised = .keyError ∨
    raised = .other "binascii.Error"

instance (raised : PyError) : Decidable raised.IsDecodeError := inferInstanceAs (Decidable (_ ∨ _))

namespace Hint

mutual

/-- The pydantic models that occur in the hint are among these. -/
def UsesModels (models : List String) : Hint → Prop
  | .model cls => cls ∈ models
  | .list item => item.UsesModels models
  | .union args => AllUseModels models args
  | .dataclass _ fields => FieldsUseModels models fields
  | .any | .str | .bytes | .none | .datetime | .literal | .other
  | .enum _ _ => True

def AllUseModels (models : List String) : List Hint → Prop
  | [] => True
  | arg :: args => arg.UsesModels models ∧ AllUseModels models args

def FieldsUseModels (models : List String) : List (String × Hint × Option PyObject) → Prop
  | [] => True
  | (_, hint, _) :: fields =>
    hint.UsesModels models ∧ FieldsUseModels models fields

end

end Hint

namespace DataclassCodec

open Py (RaisesOnly)

theorem typeError_isDecodeError : PyError.typeError.IsDecodeError := .inl rfl

theorem valueError_isDecodeError : PyError.valueError.IsDecodeError := .inr (.inl rfl)

theorem raises_b64decode (characters : List Char) :
    RaisesOnly PyError.IsDecodeError (b64decode characters) := by
  unfold b64decode
  split
  · split
    · exact .ok _
    · exact .error (.inr (.inr (.inr rfl)))
  · exact .error valueError_isDecodeError

theorem raises_b64Payload {value : Json} {payload : Py (List Char)}
    (found : b64Payload value = some payload) :
    RaisesOnly PyError.IsDecodeError (payload >>= b64decode) := by
  unfold b64Payload at found
  split at found
  · obtain ⟨-, same⟩ := Option.ite_none_right_eq_some.mp found
    cases same
    exact raises_b64decode _
  · obtain ⟨-, same⟩ := Option.ite_none_right_eq_some.mp found
    cases same
    exact .error valueError_isDecodeError
  · cases found

theorem raises_decodeBytes (value : Json) :
    RaisesOnly PyError.IsDecodeError (decodeBytes value) := by
  unfold decodeBytes
  split
  · rename_i payload found
    exact raises_b64Payload found
  · exact .error valueError_isDecodeError

theorem raises_decodeDatetime (value : Json) :
    RaisesOnly PyError.IsDecodeError (decodeDatetime value) := by
  unfold decodeDatetime
  split
  · split
    · split
      · exact .ok _
      · exact .error valueError_isDecodeError
    · exact .error valueError_isDecodeError
  · exact .error valueError_isDecodeError
  · exact .ok _

theorem raises_decodeEnum (cls : String) (values : List String) (value : Json) :
    RaisesOnly PyError.IsDecodeError (decodeEnum cls values value) := by
  unfold decodeEnum
  split
  · split
    · exact .ok _
    · exact .error valueError_isDecodeError
  · exact .error valueError_isDecodeError

theorem raises_iterate (value : Json) :
    RaisesOnly PyError.IsDecodeError value.iterate := by
  unfold Json.iterate
  split
  all_goals first
    | exact .ok _
    | exact .error typeError_isDecodeError

theorem raises_construct (kwargs : List (String × PyObject))
    (fields : List (String × Hint × Option PyObject)) :
    RaisesOnly PyError.IsDecodeError (construct kwargs fields) := by
  induction fields with
  | nil => exact .ok []
  | cons field fields ih =>
    obtain ⟨name, hint, default⟩ := field
    unfold construct
    split
    · exact .error typeError_isDecodeError
    · exact .bind ih fun _ => .ok _

variable {validate : ModelValidate} {models : List String}

/-- The known models raise only such exceptions. -/
def ValidatesOnly (validate : ModelValidate) (models : List String) : Prop :=
  ∀ cls ∈ models, ∀ members, RaisesOnly PyError.IsDecodeError (validate cls members)

mutual

theorem raises_decode (validates : ValidatesOnly validate models) :
    ∀ (hint : Hint) (value : Json), hint.UsesModels models →
      RaisesOnly PyError.IsDecodeError (decode validate hint value)
  | .any, value, _ | .str, value, _ | .none, value, _ | .literal, value, _
  | .other, value, _ => .ok _
  | .bytes, value, _ => raises_decodeBytes value
  | .datetime, value, _ => raises_decodeDatetime value
  | .enum cls values, value, _ => raises_decodeEnum cls values value
  | .model cls, value, known => by
    unfold decode
    split
    · exact validates cls known _
    · exact .ok _
  | .list item, value, known => by
    unfold decode
    split
    · exact .ok _
    · refine .bind (raises_iterate value) fun items => ?_
      refine .bind (.mapM items fun value => ?_) fun _ => .ok _
      exact raises_decode validates item value known
  | .dataclass cls fields, value, known => by
    unfold decode
    split
    · refine .bind (raises_decodeKwargs validates fields _ known) ?_
      intro kwargs
      exact .bind (raises_construct kwargs fields) fun _ => .ok _
    · exact .ok _
  | .union args, value, known => by
    unfold decode
    dsimp only
    split
    · exact .ok _
    · split
      · rename_i payload found
        exact raises_b64Payload (Option.filter_eq_some_iff.mp found).1
      · split
        · exact raises_decodeAt validates args _ value known
        · split
          · split
            · exact raises_decodeAt validates args _ _ known
            · exact .ok _
          · exact .ok _

theorem raises_decodeAt (validates : ValidatesOnly validate models) :
    ∀ (args : List Hint) (place : Nat) (value : Json), Hint.AllUseModels models args →
        RaisesOnly PyError.IsDecodeError (decodeAt validate args place value)
  | [], place, value, _ => by
    unfold decodeAt
    exact .ok _
  | arg :: args, 0, value, known => by
    unfold decodeAt
    exact raises_decode validates arg value known.1
  | _ :: args, place + 1, value, known => by
    unfold decodeAt
    exact raises_decodeAt validates args place value known.2

theorem raises_decodeKwargs (validates : ValidatesOnly validate models) :
    ∀ (fields : List (String × Hint × Option PyObject))
      (members : List (PyStr × Json)), Hint.FieldsUseModels models fields →
        RaisesOnly PyError.IsDecodeError (decodeKwargs validate fields members)
  | [], members, _ => by
    unfold decodeKwargs
    exact .ok _
  | (name, hint, default) :: fields, members, known => by
    unfold decodeKwargs
    split
    · exact raises_decodeKwargs validates fields members known.2
    · refine .bind (raises_decode validates hint _ known.1) ?_
      intro decoded
      exact .bind (raises_decodeKwargs validates fields members known.2)
        fun _ => .ok _

end

end DataclassCodec

namespace Wire

open Py (RaisesOnly)

namespace BlobRef

/-- What pydantic makes of values of other types, if it rejects them with a
`ValidationError`. -/
structure Rejects (lax : Lax) : Prop where
  int : ∀ value, RaisesOnly (· = .validationError) (lax.int value)
  datetime : ∀ value, RaisesOnly (· = .validationError) (lax.datetime value)

variable {lax : Lax}

theorem raises_validateStr (value : Json) :
    RaisesOnly (· = .validationError) (validateStr value) := by
  unfold validateStr
  split
  · exact .ok _
  · exact .error rfl

theorem raises_validateOptionalStr (value : Json) :
    RaisesOnly (· = .validationError) (validateOptionalStr value) := by
  unfold validateOptionalStr
  split
  · exact .ok _
  · exact raises_validateStr _

theorem raises_validateContentHash (value : Json) :
    RaisesOnly (· = .validationError) (validateContentHash value) := by
  unfold validateContentHash
  split
  · split
    · exact .error rfl
    · exact .ok _
  · exact .error rfl

theorem Rejects.validateInt (rejects : Rejects lax) (value : Json) :
    RaisesOnly (· = .validationError) (BlobRef.validateInt lax value) := by
  unfold BlobRef.validateInt
  split
  · exact .ok _
  · exact rejects.int _

theorem Rejects.validateDatetime (rejects : Rejects lax) (value : Json) :
    RaisesOnly (· = .validationError) (BlobRef.validateDatetime lax value) := by
  unfold BlobRef.validateDatetime
  split
  · split
    · exact .ok _
    · exact rejects.datetime _
  · exact rejects.datetime _

theorem Rejects.validators (rejects : Rejects lax) : ∀ field ∈ validators lax, ∀ value,
      RaisesOnly (· = .validationError) (field.2.1 value) := by
  unfold BlobRef.validators
  simp only [List.forall_mem_cons]
  exact ⟨raises_validateStr, raises_validateContentHash, raises_validateStr,
    rejects.validateInt, raises_validateStr, raises_validateOptionalStr,
    raises_validateOptionalStr, raises_validateOptionalStr,
    rejects.validateDatetime, nofun⟩

theorem raises_validateFields (members : List (PyStr × Json))
    (fields : List (String × (Json → Py PyObject) × Option PyObject))
    (raises : ∀ field ∈ fields, ∀ value, RaisesOnly (· = .validationError) (field.2.1 value)) :
    RaisesOnly (· = .validationError) (validateFields members fields) := by
  induction fields with
  | nil => exact .ok []
  | cons field fields ih =>
    obtain ⟨first, rest⟩ := List.forall_mem_cons.mp raises
    obtain ⟨name, validate, default⟩ := field
    unfold validateFields
    dsimp only
    split
    · exact .bind (first _) fun _ => .bind (ih rest) fun _ => .ok _
    · exact .bind (.ok _) fun _ => .bind (ih rest) fun _ => .ok _
    · exact .bind (.error rfl) fun _ => .bind (ih rest) fun _ => .ok _

/-- The model raises a `ValidationError` only. -/
theorem Rejects.validatesOnly (rejects : Rejects lax) :
    DataclassCodec.ValidatesOnly (validate lax) ["BlobRef"] := by
  intro cls isBlobRef members raised raises
  rw [List.mem_singleton.mp isBlobRef] at raises
  have only : RaisesOnly (· = .validationError) (modelValidate lax members) := by
    unfold modelValidate
    split
    · exact .bind (raises_validateFields _ _ rejects.validators)
        fun _ => .ok _
    · exact .error rfl
  rw [only raised raises]
  exact .inr (.inl rfl)

end BlobRef

theorem InboundMessage.usesModels_hint (now : DateTime) :
    (InboundMessage.hint now).UsesModels ["BlobRef"] := by
  simp [InboundMessage.hint, InboundMessage.declared, Hint.UsesModels,
    Hint.FieldsUseModels, Hint.AllUseModels, DataclassCodec.required,
    DataclassCodec.optionalField, Hint.optional, TrustLevel.hint,
    Attachment.hint, PlatformMeta.field, PlatformMeta.hint,
    PlatformMeta.telegramHint, PlatformMeta.discordHint, PlatformMeta.webHint,
    PlatformMeta.genericHint, RoutingContext.hint, CommandContext.hint,
    AudioPayload.hint, BlobRef.hint]

/-- Decoding an `InboundMessage` raises nothing that is not caught. -/
theorem InboundMessage.raises_deserialize {lax : BlobRef.Lax}
    (rejects : BlobRef.Rejects lax) (payload : Json) (now : DateTime) :
    RaisesOnly PyError.IsDecodeError (DataclassCodec.deserialize (BlobRef.validate lax) payload
        (InboundMessage.hint now)) :=
  DataclassCodec.raises_decode rejects.validatesOnly _ _ (InboundMessage.usesModels_hint now)

end Wire

end RoxabiFactory

import RoxabiFactory.Base64
import RoxabiFactory.IsoTime
import RoxabiFactory.PythonValues

/-!
# The type-aware JSON serializer

`serialize` turns a dataclass into JSON text and `deserialize` builds a
dataclass from such a text, driven by the type hints of its fields.  A JSON
text is represented by what `json.loads` makes of it.  The hints of a class
are a tree, as none of the classes on the wire refers to itself.  Pydantic
models are validated by a parameter.
-/

namespace RoxabiFactory

/-- The objects that the serializer meets.  A `str` that an enumeration
defines is a member of the enumeration. -/
inductive PyObject
  | null
  | bool (value : Bool)
  | int (value : Int)
  | float (value : ℚ)
  | nonFinite (name : String)
  | str (value : PyStr)
  | bytes (value : List UInt8)
  | datetime (value : DateTime)
  | enum (cls value : String)
  | list (items : List PyObject)
  | tuple (items : List PyObject)
  | dict (members : List (PyStr × PyObject))
  | dataclass (cls : String) (fields : List (String × PyObject))
  /-- A pydantic model. -/
  | model (cls : String) (fields : List (String × PyObject))
  | callable

namespace PyObject

/-- `callable(value)`. -/
def isCallable : PyObject → Bool
  | .callable => true
  | _ => false

/-- `value is None`. -/
def isNull : PyObject → Bool
  | .null => true
  | _ => false

def ofString (characters : String) : PyObject := .str (.text characters)

mutual

/-- The object that `json.loads` makes. -/
def ofJson : Json → PyObject
  | .null => .null
  | .bool value => .bool value
  | .int value => .int value
  | .float value => .float value
  | .nonFinite name => .nonFinite name
  | .str value => .str value
  | .arr items => .list (ofJsonItems items)
  | .obj members => .dict (ofJsonMembers members)

def ofJsonItems : List Json → List PyObject
  | [] => []
  | item :: items => ofJson item :: ofJsonItems items

def ofJsonMembers : List (PyStr × Json) → List (PyStr × PyObject)
  | [] => []
  | (key, value) :: members => (key, ofJson value) :: ofJsonMembers members

end

end PyObject

/-- The type hints that the serializer tells apart. -/
inductive Hint
  /-- `Any`. -/
  | any
  | str
  | bytes
  | none
  | datetime
  | literal
  /-- A hint for which a value is returned as it is: `int`, `bool`, `dict`,
  `tuple[...]`, `Callable[...]`. -/
  | other
  | enum (cls : String) (values : List String)
  | list (item : Hint)
  | union (args : List Hint)
  | model (cls : String)
  /-- A field has a name, a hint and perhaps a default. -/
  | dataclass (cls : String) (fields : List (String × Hint × Option PyObject))

namespace Hint

/-- `X | None`. -/
def optional (hint : Hint) : Hint := .union [hint, .none]

def isNone : Hint → Bool
  | .none => true
  | _ => false

def isBytes : Hint → Bool
  | .bytes => true
  | _ => false

/-- The names of the hints of a dataclass. -/
def names : Hint → Option (List String)
  | .dataclass _ fields => some (fields.map fun field => field.1)
  | _ => Option.none

end Hint

/-- A value or `None`. -/
def PyObject.optional {Value : Type} (toPyObject : Value → PyObject)
    (value : Option Value) : PyObject :=
  (value.map toPyObject).getD .null

namespace DataclassCodec

/-- A field without a default. -/
def required (name : String) (hint : Hint) : String × Hint × Option PyObject := (name, hint, none)

/-- A field of type `X | None` whose default is `None`. -/
def optionalField (name : String) (hint : Hint) : String × Hint × Option PyObject :=
  (name, hint.optional, some .null)

/-- `_B64_PREFIX`. -/
def b64Prefix : String := "b64:"

section Encoding

mutual

/-- `_encode`. -/
def encode : PyObject → PyObject
  | .dataclass _ fields => .dict (encodeFields fields)
  | .model _ fields => .dict (encodeFields fields)
  | .enum _ value => .ofString value
  | .datetime value => .ofString (String.ofList value.val.isoformat)
  | .bytes value =>
    .ofString (b64Prefix ++ String.ofList (Base64.encode value))
  | .list items => .list (encodeItems items)
  | .dict members => .dict (encodeMembers members)
  | scalar => scalar

def encodeItems : List PyObject → List PyObject
  | [] => []
  | item :: items => encode item :: encodeItems items

def encodeFields : List (String × PyObject) → List (PyStr × PyObject)
  | [] => []
  | (name, value) :: fields =>
    if value.isCallable then encodeFields fields
    else (.text name, encode value) :: encodeFields fields

def encodeMembers : List (PyStr × PyObject) → List (PyStr × PyObject)
  | [] => []
  | (key, value) :: members =>
    if value.isCallable then encodeMembers members
    else (key, encode value) :: encodeMembers members

end

mutual

/-- `json.dumps` and the encoding of its result in UTF-8. -/
def dumps : PyObject → Py Json
  | .null => .ok .null
  | .bool value => .ok (.bool value)
  | .int value => .ok (.int value)
  | .float value => .ok (.float value)
  | .nonFinite name => .ok (.nonFinite name)
  | .str (.text characters) => .ok (.ofString characters)
  | .str (.loneSurrogate _) => .error (.other "UnicodeEncodeError")
  | .enum _ value => .ok (.ofString value)
  | .list items | .tuple items => do return .arr (← dumpsItems items)
  | .dict members => do return .obj (← dumpsMembers members)
  | .bytes _ | .datetime _ | .dataclass _ _ | .model _ _ | .callable =>
    .error .typeError

def dumpsItems : List PyObject → Py (List Json)
  | [] => .ok []
  | item :: items => do
    let dumped ← dumps item
    return dumped :: (← dumpsItems items)

def dumpsMembers : List (PyStr × PyObject) → Py (List (PyStr × Json))
  | [] => .ok []
  | (.loneSurrogate _, _) :: _ => .error (.other "UnicodeEncodeError")
  | (.text key, value) :: members => do
    let dumped ← dumps value
    return (.text key, dumped) :: (← dumpsMembers members)

end

/-- `serialize`. -/
def serialize (item : PyObject) : Py Json := dumps (encode item)

end Encoding

section Decoding

/-- The candidates that the loop of `_best_dataclass_candidate` has seen. -/
structure Candidates where
  best : Option Nat := none
  bestScore : Int := -1
  fallback : Option Nat := none

/-- One turn of the loop, for the argument at this place. -/
def Candidates.see (seen : Candidates) (members : List (PyStr × Json))
    (place : Nat) (candidate : Hint) : Candidates :=
  match candidate.names with
  | none => seen
  | some [] => { seen with fallback := seen.fallback.or (some place) }
  | some names =>
    let score : Int := (names.filter fun name =>
      (members.lookup (.text name)).isSome).length
    if seen.bestScore < score then
      { seen with best := some place, bestScore := score }
    else seen

/-- `_best_dataclass_candidate`, as a place among the arguments. -/
def bestDataclassCandidate (members : List (PyStr × Json)) (args : List Hint) : Option Nat :=
  let seen := args.zipIdx.foldl (fun (seen : Candidates) candidate =>
    seen.see members candidate.2 candidate.1) {}
  if seen.best.isSome ∧ 0 < seen.bestScore then seen.best else seen.fallback

/-- `base64.b64decode` of the text after the prefix. -/
def b64decode (characters : List Char) : Py PyObject :=
  if characters.all fun character => character.toNat < 128 then
    match Base64.decode characters with
    | some bytes => .ok (.bytes bytes)
    | none => .error (.other "binascii.Error")
  else .error .valueError

/-- The text after the prefix of encoded bytes; a lone surrogate in it is not
ASCII. -/
def b64Payload : Json → Option (Py (List Char))
  | .str (.text characters) =>
    if b64Prefix.toList <+: characters.toList then
      some (.ok (characters.toList.drop b64Prefix.length))
    else none
  | .str (.loneSurrogate codePoints) =>
    if b64Prefix.toList.map Char.toNat <+: codePoints then
      some (.error .valueError)
    else none
  | _ => none

/-- `_decode_bytes`. -/
def decodeBytes (value : Json) : Py PyObject :=
  match b64Payload value with
  | some payload => payload >>= b64decode
  | none => .error .valueError

/-- `datetime.fromisoformat`. -/
def decodeDatetime : Json → Py PyObject
  | .str (.text characters) =>
    match TimeFields.fromisoformat characters.toList with
    | some time =>
      if valid : time.Valid then .ok (.datetime ⟨time, valid⟩)
      else .error .valueError
    | none => .error .valueError
  | .str (.loneSurrogate _) => .error .valueError
  | value => .ok (.ofJson value)

/-- `target_type(value)` for an enumeration of strings. -/
def decodeEnum (cls : String) (values : List String) (value : Json) : Py PyObject :=
  match value with
  | .str (.text characters) =>
    if characters ∈ values then .ok (.enum cls characters)
    else .error .valueError
  | _ => .error .valueError

/-- `dc_type(**kwargs)`. -/
def construct (kwargs : List (String × PyObject)) :
    List (String × Hint × Option PyObject) → Py (List (String × PyObject))
  | [] => .ok []
  | (name, _, default) :: fields =>
    match (kwargs.lookup name).or default with
    | none => .error .typeError
    | some value => do return (name, value) :: (← construct kwargs fields)

/-- `model_validate` of the pydantic models. -/
abbrev ModelValidate := String → List (PyStr × Json) → Py PyObject

variable (validate : ModelValidate)

mutual

/-- `_decode`. -/
def decode : Hint → Json → Py PyObject
  | .any, value | .str, value | .none, value | .literal, value
  | .other, value => .ok (.ofJson value)
  | .bytes, value => decodeBytes value
  | .datetime, value => decodeDatetime value
  | .enum cls values, value => decodeEnum cls values value
  | .model cls, value =>
    match value with
    | .obj members => validate cls members
    | _ => .ok (.ofJson value)
  | .list item, value =>
    match value with
    | .null => .ok .null
    | _ => do
      let items ← value.iterate
      return .list (← items.mapM fun value => decode item value)
  | .dataclass cls fields, value =>
    match value with
    | .obj members => do
      let kwargs ← decodeKwargs fields members
      return .dataclass cls (← construct kwargs fields)
    | _ => .ok (.ofJson value)
  | .union args, value =>
    let nonNone := args.filter fun arg => !arg.isNone
    match value with
    | .null => .ok .null
    | _ =>
      match (b64Payload value).filter fun _ => nonNone.any Hint.isBytes with
      | some payload => payload >>= b64decode
      | none =>
        if nonNone.length = 1 then
          decodeAt args (args.findIdx fun arg => !arg.isNone) value
        else
          match value with
          | .obj members =>
            match bestDataclassCandidate members args with
            | some place => decodeAt args place value
            | none => .ok (.ofJson value)
          -- also a string, whether `str` is an argument or not
          | _ => .ok (.ofJson value)

/-- Decode with the argument at this place. -/
def decodeAt : List Hint → Nat → Json → Py PyObject
  | [], _, value => .ok (.ofJson value)
  | arg :: _, 0, value => decode arg value
  | _ :: args, place + 1, value => decodeAt args place value

/-- The loop of `_decode_dataclass` over the fields. -/
def decodeKwargs : List (String × Hint × Option PyObject) →
    List (PyStr × Json) → Py (List (String × PyObject))
  | [], _ => .ok []
  | (name, hint, _) :: fields, members =>
    match members.lookup (.text name) with
    | none => decodeKwargs fields members
    | some value => do
      let decoded ← decode hint value
      return (name, decoded) :: (← decodeKwargs fields members)

end

/-- `deserialize`. -/
def deserialize (item : Json) (hint : Hint) : Py PyObject := decode validate hint item

end Decoding

end DataclassCodec

end RoxabiFactory

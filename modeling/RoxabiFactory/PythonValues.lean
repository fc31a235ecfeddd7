import Mathlib.Algebra.Order.Ring.Unbundled.Rat
import Mathlib.Data.List.Infix
import Mathlib.Data.List.Lex

/-!
# Python values that come from JSON

`json.loads` returns a tree of built-in objects, and code that has not looked
at the type of such an object meets the exceptions of the built-in types: an
attribute or a method that is not there, a value that cannot be hashed,
iterated or indexed.  An operation is a function into `Py`, which is `Except`
with the class of the exception.
-/

namespace RoxabiFactory

/-- The classes of exceptions that operations on JSON values raise. -/
inductive PyError
  | attributeError
  | typeError
  | keyError
  | valueError
  | unicodeDecodeError
  | recursionError
  /-- A pydantic model rejects a field. -/
  | validationError
  /-- `model_dump_json` cannot encode a value. -/
  | serializationError
  | timeoutError
  | other (name : String)
  deriving DecidableEq, Repr

/-- `type(exc).__name__`. -/
def PyError.name : PyError → String
  | attributeError => "AttributeError"
  | typeError => "TypeError"
  | keyError => "KeyError"
  | valueError => "ValueError"
  | unicodeDecodeError => "UnicodeDecodeError"
  | recursionError => "RecursionError"
  | validationError => "ValidationError"
  | serializationError => "PydanticSerializationError"
  | timeoutError => "TimeoutError"
  | other name => name

/-- `isinstance(exc, ValueError)`. -/
def PyError.isValueError : PyError → Bool
  | valueError | unicodeDecodeError | validationError
  | serializationError => true
  | _ => false

abbrev Py := Except PyError

namespace Py

theorem ok_bind {α β : Type} (value : α) (next : α → Py β) :
    ((Except.ok value : Py α) >>= next) = next value :=
  rfl

theorem bind_eq_ok {α β : Type} {first : Py α} {next : α → Py β} {result : β} :
    (first >>= next) = .ok result ↔ ∃ value, first = .ok value ∧ next value = .ok result := by
  cases first with
  | error raised => simp [bind, Except.bind]
  | ok value => simp [bind, Except.bind]

/-- Whatever the computation returns has the property; it may also raise. -/
def Ensures {α : Type} (computation : Py α) (property : α → Prop) : Prop :=
  ∀ value, computation = .ok value → property value

namespace Ensures

variable {α β : Type} {property : β → Prop}

theorem pure {value : β} (holds : property value) : Ensures (Pure.pure value : Py β) property := by
  rintro _ ⟨⟩
  exact holds

theorem raise (raised : PyError) : Ensures (Except.error raised : Py β) property := by
  rintro _ ⟨⟩

theorem bind {first : Py α} {next : α → Py β} {middle : α → Prop}
    (firstEnsures : Ensures first middle)
    (nextEnsures : ∀ value, middle value → Ensures (next value) property) :
    Ensures (first >>= next) property := by
  intro result returns
  obtain ⟨value, firstOk, nextOk⟩ := bind_eq_ok.mp returns
  exact nextEnsures value (firstEnsures value firstOk) result nextOk

/-- The sequencing rule when nothing is needed of the first result. -/
theorem andThen {first : Py α} {next : α → Py β}
    (nextEnsures : ∀ value, Ensures (next value) property) :
    Ensures (first >>= next) property :=
  bind (fun _ _ => trivial) fun value _ => nextEnsures value

theorem mono {computation : Py β} {weaker : β → Prop} (ensures : Ensures computation property)
    (implies : ∀ value, property value → weaker value) :
    Ensures computation weaker :=
  fun value returns => implies value (ensures value returns)

end Ensures

end Py

/-- A `str`.  An escape such as `\ud800` makes a string that no encoder and
no pydantic model accepts, and that is equal to no ordinary string. -/
inductive PyStr
  | text (characters : String)
  | loneSurrogate (codePoints : List Nat)
  deriving DecidableEq, Repr

/-- What `json.loads` returns. -/
inductive Json
  | null
  | bool (value : Bool)
  | int (value : Int)
  | float (value : ℚ)
  /-- `NaN` and the infinities. -/
  | nonFinite (name : String)
  | str (value : PyStr)
  | arr (items : List Json)
  | obj (members : List (PyStr × Json))

/-- The keys of sets and dictionaries; numbers of different types that are
equal are the same key. -/
inductive HashKey
  | null
  | number (value : ℚ)
  | nonFinite (name : String)
  | str (value : PyStr)
  deriving DecidableEq

namespace Json

def ofString (characters : String) : Json := .str (.text characters)

/-- `bool(value)`. -/
def truthy : Json → Bool
  | .null => false
  | .bool value => value
  | .int value => decide (value ≠ 0)
  | .float value => decide (value ≠ 0)
  | .nonFinite _ => true
  | .str (.text characters) => decide (characters ≠ "")
  | .str (.loneSurrogate _) => true
  | .arr items => !items.isEmpty
  | .obj members => !members.isEmpty

@[simp]
theorem truthy_null : Json.null.truthy = false :=
  rfl

/-- `left or right`. -/
def orElse (left right : Json) : Json :=
  if left.truthy then left else right

/-- `value == literal` for a string literal. -/
def isText (value : Json) (characters : String) : Bool :=
  match value with
  | .str (.text others) => decide (others = characters)
  | _ => false

theorem isText_of_isText {value : Json} {characters : String}
    (same : value.isText characters = true) (others : String) :
    value.isText others = decide (characters = others) := by
  unfold isText at same ⊢
  split at same
  · rw [of_decide_eq_true same]
  · cases same

/-- `value.get(key, default)`. -/
def get (value : Json) (key : String) (default : Json) : Py Json :=
  match value with
  | .obj members => .ok ((members.lookup (.text key)).getD default)
  | _ => .error .attributeError

theorem get_obj (members : List (PyStr × Json)) (key : String) (default : Json) :
    (obj members).get key default = .ok ((members.lookup (.text key)).getD default) :=
  rfl

/-- The objects that `for item in value` visits. -/
def iterate : Json → Py (List Json)
  | .arr items => .ok items
  | .obj members => .ok (members.map fun member => .str member.1)
  | .str (.text characters) =>
    .ok (characters.toList.map fun character => ofString character.toString)
  | .str (.loneSurrogate codePoints) =>
    .ok (codePoints.map fun codePoint => .str (.loneSurrogate [codePoint]))
  | _ => .error .typeError

/-- `isinstance(value, int)`, with the integer; `bool` is a subclass. -/
def asInt : Json → Option Int
  | .int value => some value
  | .bool value => some (if value then 1 else 0)
  | _ => none

/-- `hash(value)`. -/
def hashKey : Json → Py HashKey
  | .null => .ok .null
  | .bool value => .ok (.number (if value then 1 else 0))
  | .int value => .ok (.number value)
  | .float value => .ok (.number value)
  | .nonFinite name => .ok (.nonFinite name)
  | .str value => .ok (.str value)
  | .arr _ | .obj _ => .error .typeError

/-- `value[0]` for a value that is not empty. -/
def first : Json → Py Json
  | .arr (item :: _) => .ok item
  | .arr [] => .error (.other "IndexError")
  | .str (.text characters) =>
    match characters.toList with
    | character :: _ => .ok (ofString character.toString)
    | [] => .error (.other "IndexError")
  | .str (.loneSurrogate codePoints) =>
    .ok (.str (.loneSurrogate (codePoints.take 1)))
  | .obj _ => .error .keyError
  | _ => .error .typeError

/-- `value[:n]` of a value, for its exception only. -/
def checkSlice : Json → Py Unit
  | .arr _ | .str _ => .ok ()
  | .obj _ => .error .keyError
  | _ => .error .typeError

/-- The value is an ordinary string. -/
def asText : Json → Option String
  | .str (.text characters) => some characters
  | _ => none

mutual

/-- `model_dump_json` can encode the value. -/
def encodable : Json → Bool
  | .str (.loneSurrogate _) => false
  | .arr items => encodableItems items
  | .obj members => encodableMembers members
  | _ => true

def encodableItems : List Json → Bool
  | [] => true
  | item :: items => item.encodable && encodableItems items

def encodableMembers : List (PyStr × Json) → Bool
  | [] => true
  | (.loneSurrogate _, _) :: _ => false
  | (.text _, value) :: members => value.encodable && encodableMembers members

end

mutual

def same : Json → Json → Bool
  | .null, .null => true
  | .bool value, .bool other => value == other
  | .int value, .int other => value == other
  | .float value, .float other => decide (value = other)
  | .nonFinite name, .nonFinite other => name == other
  | .str value, .str other => decide (value = other)
  | .arr items, .arr others => sameItems items others
  | .obj members, .obj others => sameMembers members others
  | _, _ => false

def sameItems : List Json → List Json → Bool
  | [], [] => true
  | item :: items, other :: others => item.same other && sameItems items others
  | _, _ => false

def sameMembers : List (PyStr × Json) → List (PyStr × Json) → Bool
  | [], [] => true
  | (key, value) :: members, (other, otherValue) :: others =>
    decide (key = other) && value.same otherValue && sameMembers members others
  | _, _ => false

end

mutual

theorem same_iff : ∀ value other : Json, value.same other = true ↔ value = other
  | .null, other | .bool _, other | .int _, other | .float _, other
  | .nonFinite _, other | .str _, other => by cases other <;> simp [same]
  | .arr items, other => by
    cases other with
    | arr others => simp [same, sameItems_iff items others]
    | _ => simp [same]
  | .obj members, other => by
    cases other with
    | obj others => simp [same, sameMembers_iff members others]
    | _ => simp [same]

theorem sameItems_iff : ∀ items others : List Json, sameItems items others = true ↔ items = others
  | [], others => by cases others <;> simp [sameItems]
  | item :: items, others => by
    cases others with
    | nil => simp [sameItems]
    | cons other others =>
      simp [sameItems, same_iff item other, sameItems_iff items others]

theorem sameMembers_iff : ∀ members others : List (PyStr × Json),
    sameMembers members others = true ↔ members = others
  | [], others => by cases others <;> simp [sameMembers]
  | (key, value) :: members, others => by
    cases others with
    | nil => simp [sameMembers]
    | cons other others =>
      obtain ⟨otherKey, otherValue⟩ := other
      simp [sameMembers, same_iff value otherValue, sameMembers_iff members others, and_assoc]

end

instance : DecidableEq Json := fun value other =>
  decidable_of_iff _ (same_iff value other)

end Json

end RoxabiFactory

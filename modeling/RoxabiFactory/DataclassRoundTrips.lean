import Mathlib.Data.List.Nodup
import RoxabiFactory.DataclassCodec

/-!
# Round trips of the serializer

A value makes a round trip under a hint when its JSON text is decoded to the
same value.  There is one rule for every form of a hint; the rule for a union
of dataclasses asks that the search by field names finds the class of the
value.
-/

namespace RoxabiFactory

namespace DataclassCodec

variable {validate : ModelValidate}

/-- What is decoded from the serialized value is the value. -/
def RoundTrips (validate : ModelValidate) (hint : Hint) (value : PyObject) :
    Prop :=
  ∃ json, serialize value = .ok json ∧ decode validate hint json = .ok value

section Decoding

attribute [local simp] decode

theorem decode_dataclass (cls : String) (declared : List (String × Hint × Option PyObject))
    (members : List (PyStr × Json)) :
    decode validate (.dataclass cls declared) (.obj members) = (do
      let kwargs ← decodeKwargs validate declared members
      return .dataclass cls (← construct kwargs declared)) := by
  simp

end Decoding

theorem isCallable_ofJson (json : Json) : (PyObject.ofJson json).isCallable = false := by
  cases json <;> rfl

mutual

theorem encode_ofJson : ∀ json : Json, encode (.ofJson json) = .ofJson json
  | .null | .bool _ | .int _ | .float _ | .nonFinite _ | .str _ => rfl
  | .arr items => by
    rw [PyObject.ofJson, encode, encode_ofJsonItems items]
  | .obj members => by
    rw [PyObject.ofJson, encode, encode_ofJsonMembers members]

theorem encode_ofJsonItems : ∀ items : List Json,
    encodeItems (PyObject.ofJsonItems items) = PyObject.ofJsonItems items
  | [] => rfl
  | item :: items => by
    rw [PyObject.ofJsonItems, encodeItems, encode_ofJson item, encode_ofJsonItems items]

theorem encode_ofJsonMembers : ∀ members : List (PyStr × Json),
    encodeMembers (PyObject.ofJsonMembers members) = PyObject.ofJsonMembers members
  | [] => rfl
  | (key, value) :: members => by
    simp only [PyObject.ofJsonMembers, encodeMembers, isCallable_ofJson,
      Bool.false_eq_true, if_false, encode_ofJson value,
      encode_ofJsonMembers members]

end

mutual

theorem dumps_ofJson : ∀ json : Json, json.encodable = true → dumps (.ofJson json) = .ok json
  | .null, _ | .bool _, _ | .int _, _ | .float _, _ | .nonFinite _, _ => rfl
  | .str (.text _), _ => rfl
  | .arr items, encodable => by
    simp only [PyObject.ofJson, dumps, dumps_ofJsonItems items encodable]
    rfl
  | .obj members, encodable => by
    simp only [PyObject.ofJson, dumps, dumps_ofJsonMembers members encodable]
    rfl

theorem dumps_ofJsonItems : ∀ items : List Json, Json.encodableItems items = true →
      dumpsItems (PyObject.ofJsonItems items) = .ok items
  | [], _ => rfl
  | item :: items, encodable => by
    rw [Json.encodableItems, Bool.and_eq_true] at encodable
    simp only [PyObject.ofJsonItems, dumpsItems,
      dumps_ofJson item encodable.1, dumps_ofJsonItems items encodable.2]
    rfl

theorem dumps_ofJsonMembers : ∀ members : List (PyStr × Json),
    Json.encodableMembers members = true →
      dumpsMembers (PyObject.ofJsonMembers members) = .ok members
  | [], _ => rfl
  | (.text key, value) :: members, encodable => by
    rw [Json.encodableMembers, Bool.and_eq_true] at encodable
    simp only [PyObject.ofJsonMembers, dumpsMembers, dumps_ofJson value encodable.1,
      dumps_ofJsonMembers members encodable.2]
    rfl

end

mutual

theorem encodable_of_dumps_ofJson : ∀ {json dumped : Json},
    dumps (.ofJson json) = .ok dumped → json.encodable = true
  | .null, _, _ | .bool _, _, _ | .int _, _, _ | .float _, _, _
  | .nonFinite _, _, _ | .str (.text _), _, _ => rfl
  | .arr _, _, dumped => by
    obtain ⟨items, dumpedItems, -⟩ := Py.bind_eq_ok.mp dumped
    exact encodable_of_dumpsItems_ofJson dumpedItems
  | .obj _, _, dumped => by
    obtain ⟨members, dumpedMembers, -⟩ := Py.bind_eq_ok.mp dumped
    exact encodable_of_dumpsMembers_ofJson dumpedMembers

theorem encodable_of_dumpsItems_ofJson : ∀ {items dumped : List Json},
    dumpsItems (PyObject.ofJsonItems items) = .ok dumped → Json.encodableItems items = true
  | [], _, _ => rfl
  | _ :: _, _, dumped => by
    obtain ⟨first, dumpedFirst, later⟩ := Py.bind_eq_ok.mp dumped
    obtain ⟨rest, dumpedRest, -⟩ := Py.bind_eq_ok.mp later
    rw [Json.encodableItems, encodable_of_dumps_ofJson dumpedFirst,
      encodable_of_dumpsItems_ofJson dumpedRest]
    rfl

theorem encodable_of_dumpsMembers_ofJson : ∀ {members dumped : List (PyStr × Json)},
      dumpsMembers (PyObject.ofJsonMembers members) = .ok dumped →
        Json.encodableMembers members = true
  | [], _, _ => rfl
  | (.text _, _) :: _, _, dumped => by
    obtain ⟨first, dumpedFirst, later⟩ := Py.bind_eq_ok.mp dumped
    obtain ⟨rest, dumpedRest, -⟩ := Py.bind_eq_ok.mp later
    rw [Json.encodableMembers, encodable_of_dumps_ofJson dumpedFirst,
      encodable_of_dumpsMembers_ofJson dumpedRest]
    rfl

end

theorem serialize_ofJson {json : Json} (encodable : json.encodable = true) :
    serialize (.ofJson json) = .ok json := by
  rw [serialize, encode_ofJson, dumps_ofJson json encodable]

mutual

theorem encodable_of_dumps : ∀ {value : PyObject} {json : Json},
    dumps value = .ok json → json.encodable = true
  | .null, _, rfl | .bool _, _, rfl | .int _, _, rfl | .float _, _, rfl
  | .nonFinite _, _, rfl | .str (.text _), _, rfl | .enum _ _, _, rfl => rfl
  | .list _, _, dumped | .tuple _, _, dumped => by
    obtain ⟨items, dumpedItems, ⟨⟩⟩ := Py.bind_eq_ok.mp dumped
    exact encodable_of_dumpsItems dumpedItems
  | .dict _, _, dumped => by
    obtain ⟨members, dumpedMembers, ⟨⟩⟩ := Py.bind_eq_ok.mp dumped
    exact encodable_of_dumpsMembers dumpedMembers

theorem encodable_of_dumpsItems : ∀ {items : List PyObject}
    {json : List Json}, dumpsItems items = .ok json → Json.encodableItems json = true
  | [], _, rfl => rfl
  | _ :: _, _, dumped => by
    obtain ⟨first, dumpedFirst, later⟩ := Py.bind_eq_ok.mp dumped
    obtain ⟨rest, dumpedRest, ⟨⟩⟩ := Py.bind_eq_ok.mp later
    rw [Json.encodableItems, encodable_of_dumps dumpedFirst, encodable_of_dumpsItems dumpedRest]
    rfl

theorem encodable_of_dumpsMembers : ∀ {members : List (PyStr × PyObject)}
    {json : List (PyStr × Json)}, dumpsMembers members = .ok json →
      Json.encodableMembers json = true
  | [], _, rfl => rfl
  | (.text _, _) :: _, _, dumped => by
    obtain ⟨first, dumpedFirst, later⟩ := Py.bind_eq_ok.mp dumped
    obtain ⟨rest, dumpedRest, ⟨⟩⟩ := Py.bind_eq_ok.mp later
    rw [Json.encodableMembers, encodable_of_dumps dumpedFirst, encodable_of_dumpsMembers dumpedRest]
    rfl

end

theorem dumps_ofJson_of_serialize {value : PyObject} {json : Json}
    (serialized : serialize value = .ok json) :
    dumps (.ofJson json) = .ok json :=
  dumps_ofJson json (encodable_of_dumps serialized)

theorem roundTrips_ofJson {hint : Hint} (json : Json) (encodable : json.encodable = true)
    (plain : ∀ json, decode validate hint json = .ok (.ofJson json)) :
    RoundTrips validate hint (.ofJson json) :=
  ⟨json, serialize_ofJson encodable, plain json⟩

theorem roundTrips_datetime (time : DateTime) :
    RoundTrips validate .datetime (.datetime time) := by
  refine ⟨_, rfl, ?_⟩
  simp [decode, decodeDatetime, Json.ofString,
    TimeFields.fromisoformat_isoformat time.property, time.property]

theorem roundTrips_enum {cls value : String} {values : List String} (member : value ∈ values) :
    RoundTrips validate (.enum cls values) (.enum cls value) := by
  refine ⟨_, rfl, ?_⟩
  simp [decode, decodeEnum, Json.ofString, member]

/-- Only `None` is written as `null`. -/
theorem eq_null_of_serialize {value : PyObject}
    (serialized : serialize value = .ok .null) : value = .null := by
  cases value with
  | null => rfl
  | str text => cases text <;> cases serialized
  | list items =>
    obtain ⟨dumped, -, same⟩ := Py.bind_eq_ok.mp serialized
    cases same
  | tuple items =>
    obtain ⟨dumped, -, same⟩ := Py.bind_eq_ok.mp serialized
    cases same
  | dict members =>
    obtain ⟨dumped, -, same⟩ := Py.bind_eq_ok.mp serialized
    cases same
  | dataclass cls fields =>
    obtain ⟨dumped, -, same⟩ := Py.bind_eq_ok.mp serialized
    cases same
  | model cls fields =>
    obtain ⟨dumped, -, same⟩ := Py.bind_eq_ok.mp serialized
    cases same
  | _ => cases serialized

theorem roundTrips_null_optional (hint : Hint) : RoundTrips validate hint.optional .null :=
  ⟨.null, rfl, rfl⟩

/-- A value of the type in `X | None`. -/
theorem RoundTrips.optional {hint : Hint} {value : PyObject}
    (trips : RoundTrips validate hint value) (present : value ≠ .null)
    (noBytes : hint.isBytes = false) (noNone : hint.isNone = false) :
    RoundTrips validate hint.optional value := by
  obtain ⟨json, serialized, decoded⟩ := trips
  refine ⟨json, serialized, ?_⟩
  have written : json ≠ .null := by
    rintro rfl
    exact present (eq_null_of_serialize serialized)
  have noneIsNone : Hint.none.isNone = true := rfl
  cases json with
  | null => exact absurd rfl written
  | _ =>
    simpa [Hint.optional, decode, noBytes, noNone, noneIsNone, decodeAt,
      List.findIdx_cons] using decoded

theorem serialize_list {items : List PyObject} {json : List Json}
    (dumped : dumpsItems (encodeItems items) = .ok json) :
    serialize (.list items) = .ok (.arr json) := by
  simp only [serialize, encode, dumps, dumped]
  rfl

theorem roundTrips_list {item : Hint} {items : List PyObject}
    (trips : ∀ value ∈ items, RoundTrips validate item value) :
    RoundTrips validate (.list item) (.list items) := by
  have all : ∃ json, dumpsItems (encodeItems items) = .ok json ∧
      json.mapM (fun value => decode validate item value) = .ok items := by
    induction items with
    | nil => exact ⟨[], rfl, rfl⟩
    | cons value items ih =>
      obtain ⟨json, serialized, decoded⟩ := trips value (by simp)
      obtain ⟨rest, dumped, decodedRest⟩ := ih fun value member => trips value (by simp [member])
      refine ⟨json :: rest, ?_, ?_⟩
      · unfold serialize at serialized
        simp only [encodeItems, dumpsItems, serialized, dumped]
        rfl
      · simp only [List.mapM_cons, decoded, decodedRest]
        rfl
  obtain ⟨json, dumped, decoded⟩ := all
  refine ⟨.arr json, serialize_list dumped, ?_⟩
  simp only [decode, Json.iterate]
  rw [show (Except.ok json : Py (List Json)) = pure json from rfl, pure_bind, decoded]
  rfl

/-- Every item of a list that makes a round trip makes one. -/
theorem RoundTrips.item {item : Hint} {items : List PyObject}
    (trips : RoundTrips validate (.list item) (.list items))
    {value : PyObject} (member : value ∈ items) :
    RoundTrips validate item value := by
  obtain ⟨whole, serialized, decoded⟩ := trips
  obtain ⟨json, dumped, ⟨⟩⟩ := Py.bind_eq_ok.mp serialized
  unfold decode at decoded
  obtain ⟨values, iterated, more⟩ := Py.bind_eq_ok.mp decoded
  obtain rfl : json = values := Except.ok.inj iterated
  obtain ⟨built, mapped, same⟩ := Py.bind_eq_ok.mp more
  obtain rfl : built = items := PyObject.list.inj (Except.ok.inj same)
  clear iterated more same decoded serialized
  induction built generalizing json with
  | nil => cases member
  | cons first items ih =>
    obtain ⟨firstJson, dumpedFirst, later⟩ := Py.bind_eq_ok.mp dumped
    obtain ⟨rest, dumpedRest, ⟨⟩⟩ := Py.bind_eq_ok.mp later
    rw [List.mapM_cons] at mapped
    obtain ⟨decodedFirst, ofFirst, mapped⟩ := Py.bind_eq_ok.mp mapped
    obtain ⟨decodedRest, ofRest, same⟩ := Py.bind_eq_ok.mp mapped
    obtain ⟨rfl, rfl⟩ := List.cons.inj (Except.ok.inj same)
    rcases List.mem_cons.mp member with rfl | inRest
    · exact ⟨firstJson, dumpedFirst, ofFirst⟩
    · exact ih rest ofRest inRest dumpedRest

theorem lookup_of_mem {Key Value : Type} [DecidableEq Key]
    {entries : List (Key × Value)} (nodup : (entries.map Prod.fst).Nodup)
    {entry : Key × Value} (member : entry ∈ entries) :
    entries.lookup entry.1 = some entry.2 := by
  induction entries with
  | nil => cases member
  | cons first entries ih =>
    rw [List.map_cons, List.nodup_cons] at nodup
    rcases List.mem_cons.mp member with rfl | later
    · exact List.lookup_cons_self
    · have other : entry.1 ≠ first.1 := by
        rintro same
        exact nodup.1 (same ▸ List.mem_map_of_mem later)
      have differs : (entry.1 == first.1) = false := by simpa using other
      rw [show first = (first.1, first.2) from rfl, List.lookup_cons, differs]
      exact ih nodup.2 later

def FieldTrips (validate : ModelValidate) (field : String × PyObject)
    (declared : String × Hint × Option PyObject) : Prop :=
  field.1 = declared.1 ∧ RoundTrips validate declared.2.1 field.2

theorem isCallable_of_serialize {value : PyObject} {json : Json}
    (serialized : serialize value = .ok json) : value.isCallable = false := by
  cases value with
  | callable => cases serialized
  | _ => rfl

theorem encodeFields_cons (name : String) (value : PyObject)
    (fields : List (String × PyObject)) :
    encodeFields ((name, value) :: fields) =
      if value.isCallable then encodeFields fields
      else (.text name, encode value) :: encodeFields fields :=
  rfl

variable {fields : List (String × PyObject)}
variable {declared : List (String × Hint × Option PyObject)}

/-- The members that the fields become are decoded to the fields in every
dictionary that has them. -/
theorem exists_members (trips : List.Forall₂ (FieldTrips validate) fields declared) :
    ∃ members, dumpsMembers (encodeFields fields) = .ok members ∧
      members.map Prod.fst = declared.map (fun field => .text field.1) ∧
      ∀ dict : List (PyStr × Json), (∀ member ∈ members, dict.lookup member.1 = some member.2) →
          decodeKwargs validate declared dict = .ok fields := by
  induction trips with
  | nil => exact ⟨[], rfl, rfl, fun _ _ => rfl⟩
  | @cons field hint fields declared trip trips ih =>
    obtain ⟨name, value⟩ := field
    obtain ⟨declaredName, declaredHint, default⟩ := hint
    obtain ⟨sameName, json, serialized, decoded⟩ := trip
    obtain rfl : name = declaredName := sameName
    obtain ⟨members, dumped, keys, decodedRest⟩ := ih
    refine ⟨(.text name, json) :: members, ?_, by simp [keys], ?_⟩
    · have kept := isCallable_of_serialize serialized
      unfold serialize at serialized
      simp only [encodeFields_cons, kept, Bool.false_eq_true, if_false, dumpsMembers, serialized,
        dumped]
      rfl
    · intro dict found
      have first := found (.text name, json) (by simp)
      have rest := decodedRest dict fun member later =>
        found member (by simp [later])
      simp only [decodeKwargs, first, decoded, rest]
      rfl

theorem mem_of_dumpsMembers {members : List (PyStr × Json)}
    (dumped : dumpsMembers (encodeFields fields) = .ok members)
    {field : String × PyObject} (member : field ∈ fields) {json : Json}
    (serialized : serialize field.2 = .ok json) :
    (.text field.1, json) ∈ members := by
  induction fields generalizing members with
  | nil => cases member
  | cons first fields ih =>
    obtain ⟨name, value⟩ := first
    by_cases skipped : value.isCallable = true
    · rw [encodeFields_cons, if_pos skipped] at dumped
      rcases List.mem_cons.mp member with rfl | later
      · rw [isCallable_of_serialize serialized] at skipped
        cases skipped
      · exact ih dumped later
    · rw [encodeFields_cons, if_neg skipped] at dumped
      obtain ⟨firstJson, dumpedFirst, more⟩ := Py.bind_eq_ok.mp dumped
      obtain ⟨rest, dumpedRest, ⟨⟩⟩ := Py.bind_eq_ok.mp more
      rcases List.mem_cons.mp member with rfl | later
      · cases serialized.symm.trans dumpedFirst
        exact List.mem_cons_self
      · exact List.mem_cons_of_mem _ (ih dumpedRest later)

theorem exists_serialized {members : List (PyStr × Json)}
    (dumped : dumpsMembers (encodeFields fields) = .ok members)
    {field : String × PyObject} (member : field ∈ fields)
    (kept : field.2.isCallable = false) :
    ∃ json, serialize field.2 = .ok json := by
  induction fields generalizing members with
  | nil => cases member
  | cons first fields ih =>
    obtain ⟨name, value⟩ := first
    by_cases skipped : value.isCallable = true
    · rw [encodeFields_cons, if_pos skipped] at dumped
      rcases List.mem_cons.mp member with rfl | later
      · cases skipped.symm.trans kept
      · exact ih dumped later
    · rw [encodeFields_cons, if_neg skipped] at dumped
      obtain ⟨firstJson, dumpedFirst, more⟩ := Py.bind_eq_ok.mp dumped
      obtain ⟨rest, dumpedRest, ⟨⟩⟩ := Py.bind_eq_ok.mp more
      rcases List.mem_cons.mp member with rfl | later
      · exact ⟨firstJson, dumpedFirst⟩
      · exact ih dumpedRest later

theorem keys_sublist {members : List (PyStr × Json)}
    (dumped : dumpsMembers (encodeFields fields) = .ok members) :
    (members.map Prod.fst).Sublist (fields.map fun field => PyStr.text field.1) := by
  induction fields generalizing members with
  | nil =>
    cases dumped
    exact .slnil
  | cons first fields ih =>
    obtain ⟨name, value⟩ := first
    by_cases skipped : value.isCallable = true
    · rw [encodeFields_cons, if_pos skipped] at dumped
      exact (ih dumped).cons _
    · rw [encodeFields_cons, if_neg skipped] at dumped
      obtain ⟨firstJson, dumpedFirst, more⟩ := Py.bind_eq_ok.mp dumped
      obtain ⟨rest, dumpedRest, ⟨⟩⟩ := Py.bind_eq_ok.mp more
      exact (ih dumpedRest).cons_cons _

theorem nodup_text {names : List String} (nodup : names.Nodup) : (names.map PyStr.text).Nodup :=
  List.Nodup.map (fun _ _ => PyStr.text.inj) nodup

theorem construct_eq {kwargs : List (String × PyObject)}
    (names : fields.map Prod.fst = declared.map fun field => field.1)
    (found : ∀ field ∈ fields, kwargs.lookup field.1 = some field.2) :
    construct kwargs declared = .ok fields := by
  induction declared generalizing fields with
  | nil =>
    obtain rfl : fields = [] := by simpa using names
    rfl
  | cons hint declared ih =>
    obtain ⟨name, hint, default⟩ := hint
    cases fields with
    | nil => simp at names
    | cons field fields =>
      obtain ⟨fieldName, value⟩ := field
      rw [List.map_cons, List.map_cons, List.cons.injEq] at names
      obtain ⟨rfl, names⟩ := names
      have first := found (fieldName, value) (by simp)
      have rest := ih names fun field later => found field (by simp [later])
      simp only [construct, first, Option.some_or, rest]
      rfl

theorem nodup_of_keys {members : List (PyStr × Json)}
    (nodup : (declared.map fun field => field.1).Nodup)
    (keys : members.map Prod.fst = declared.map fun field => .text field.1) :
    (members.map Prod.fst).Nodup := by
  simpa [keys, List.map_map, Function.comp_def] using nodup_text nodup

/-- The dictionary that a dataclass becomes when its fields make round trips.
-/
theorem exists_object (cls : String) (nodup : (declared.map fun field => field.1).Nodup)
    (trips : List.Forall₂ (FieldTrips validate) fields declared) :
    ∃ members, dumpsMembers (encodeFields fields) = .ok members ∧
      members.map Prod.fst = declared.map (fun field => .text field.1) ∧
      decode validate (.dataclass cls declared) (.obj members) =
        .ok (.dataclass cls fields) := by
  obtain ⟨members, dumped, keys, decodes⟩ := exists_members trips
  have names : fields.map Prod.fst = declared.map fun field => field.1 := by
    clear nodup keys decodes dumped
    induction trips with
    | nil => rfl
    | cons trip trips ih => simp [trip.1, ih]
  have memberKeys := nodup_of_keys nodup keys
  have kwargs := decodes members fun member => lookup_of_mem memberKeys
  have built := construct_eq names fun field =>
    lookup_of_mem (names ▸ nodup : (fields.map Prod.fst).Nodup)
  refine ⟨members, dumped, keys, ?_⟩
  simp only [decode, kwargs]
  rw [show (Except.ok fields : Py (List (String × PyObject))) = pure fields
    from rfl, pure_bind, built]
  rfl

theorem serialize_dataclass {cls : String} {members : List (PyStr × Json)}
    (dumped : dumpsMembers (encodeFields fields) = .ok members) :
    serialize (.dataclass cls fields) = .ok (.obj members) := by
  simp only [serialize, encode, dumps, dumped]
  rfl

theorem roundTrips_dataclass {cls : String} (nodup : (declared.map fun field => field.1).Nodup)
    (trips : List.Forall₂ (FieldTrips validate) fields declared) :
    RoundTrips validate (.dataclass cls declared) (.dataclass cls fields) := by
  obtain ⟨members, dumped, -, decoded⟩ := exists_object cls nodup trips
  exact ⟨.obj members, serialize_dataclass dumped, decoded⟩

theorem lookup_of_decodeKwargs {dict : List (PyStr × Json)} {kwargs : List (String × PyObject)}
    (nodup : (declared.map fun field => field.1).Nodup)
    (decoded : decodeKwargs validate declared dict = .ok kwargs)
    {field : String × Hint × Option PyObject} (member : field ∈ declared)
    {json : Json} (found : dict.lookup (.text field.1) = some json) :
    ∃ value, decode validate field.2.1 json = .ok value ∧ kwargs.lookup field.1 = some value := by
  induction declared generalizing kwargs with
  | nil => cases member
  | cons first declared ih =>
    obtain ⟨name, hint, default⟩ := first
    rw [List.map_cons, List.nodup_cons] at nodup
    unfold decodeKwargs at decoded
    split at decoded
    case h_1 absent =>
      rcases List.mem_cons.mp member with rfl | later
      · cases absent.symm.trans found
      · exact ih nodup.2 decoded later
    case h_2 firstJson present =>
      obtain ⟨value, decodedFirst, more⟩ := Py.bind_eq_ok.mp decoded
      obtain ⟨rest, decodedRest, ⟨⟩⟩ := Py.bind_eq_ok.mp more
      rcases List.mem_cons.mp member with rfl | later
      · cases present.symm.trans found
        exact ⟨value, decodedFirst, List.lookup_cons_self⟩
      · obtain ⟨other, decodedOther, inRest⟩ := ih nodup.2 decodedRest later
        refine ⟨other, decodedOther, ?_⟩
        have differs : (field.1 == name) = false := by
          have distinct : field.1 ≠ name := by
            intro same
            exact nodup.1 (List.mem_map.mpr ⟨field, later, same⟩)
          simpa using distinct
        rw [List.lookup_cons, differs]
        exact inRest

theorem eq_of_construct {kwargs : List (String × PyObject)}
    (built : construct kwargs declared = .ok fields)
    {field : String × PyObject} (member : field ∈ fields) {value : PyObject}
    (given : kwargs.lookup field.1 = some value) : field.2 = value := by
  induction declared generalizing fields with
  | nil =>
    cases built
    cases member
  | cons first declared ih =>
    obtain ⟨name, hint, default⟩ := first
    unfold construct at built
    split at built
    case h_1 => cases built
    case h_2 chosen same =>
      obtain ⟨rest, builtRest, ⟨⟩⟩ := Py.bind_eq_ok.mp built
      rcases List.mem_cons.mp member with rfl | later
      · simp only [given, Option.some_or, Option.some.injEq] at same
        exact same.symm
      · exact ih builtRest later

/-- Every field of a dataclass that makes a round trip makes one. -/
theorem RoundTrips.field {cls : String} (trips : RoundTrips validate (.dataclass cls declared)
      (.dataclass cls fields))
    (nodup : (declared.map fun field => field.1).Nodup)
    (names : (fields.map Prod.fst).Nodup)
    {field : String × PyObject} (member : field ∈ fields)
    {hint : Hint} {default : Option PyObject}
    (annotated : (field.1, hint, default) ∈ declared)
    (kept : field.2.isCallable = false) :
    RoundTrips validate hint field.2 := by
  obtain ⟨whole, serialized, decoded⟩ := trips
  obtain ⟨members, dumped, ⟨⟩⟩ := Py.bind_eq_ok.mp serialized
  obtain ⟨json, written⟩ := exists_serialized dumped member kept
  have keys : (members.map Prod.fst).Nodup := by
    refine (keys_sublist dumped).nodup ?_
    simpa [List.map_map, Function.comp_def] using nodup_text names
  have found := lookup_of_mem keys (mem_of_dumpsMembers dumped member written)
  rw [decode_dataclass] at decoded
  obtain ⟨kwargs, decodedKwargs, more⟩ := Py.bind_eq_ok.mp decoded
  obtain ⟨built, constructed, ⟨⟩⟩ := Py.bind_eq_ok.mp more
  obtain ⟨value, decodedValue, given⟩ := lookup_of_decodeKwargs nodup decodedKwargs annotated found
  rw [← eq_of_construct constructed member given] at decodedValue
  exact ⟨json, written, decodedValue⟩

theorem not_roundTrips_tuple {hint : Hint} {items : List PyObject}
    (plain : ∀ json, decode validate hint json = .ok (.ofJson json)) :
    ¬ RoundTrips validate hint (.tuple items) := by
  rintro ⟨json, serialized, decoded⟩
  obtain ⟨dumped, -, ⟨⟩⟩ := Py.bind_eq_ok.mp serialized
  rw [plain] at decoded
  cases decoded

theorem decodeAt_eq {args : List Hint} {place : Nat} {chosen : Hint}
    (stands : args[place]? = some chosen) (json : Json) :
    decodeAt validate args place json = decode validate chosen json := by
  induction args generalizing place with
  | nil => cases stands
  | cons arg args ih =>
    cases place with
    | zero =>
      cases stands
      rfl
    | succ place => exact ih stands

theorem isSome_lookup (members : List (PyStr × Json)) (key : PyStr) :
    (members.lookup key).isSome = decide (key ∈ members.map Prod.fst) := by
  induction members with
  | nil => rfl
  | cons member members ih =>
    obtain ⟨name, value⟩ := member
    by_cases same : key = name
    · subst same
      simp
    · have differs : (key == name) = false := by simpa using same
      rw [List.lookup_cons, differs]
      simp [ih, same]

theorem bestDataclassCandidate_congr {members others : List (PyStr × Json)}
    (keys : members.map Prod.fst = others.map Prod.fst) (args : List Hint) :
    bestDataclassCandidate members args =
      bestDataclassCandidate others args := by
  have sees : ∀ (seen : Candidates) (place : Nat) (candidate : Hint),
      seen.see members place candidate = seen.see others place candidate := by
    intro seen place candidate
    simp only [Candidates.see, isSome_lookup, keys]
  simp only [bestDataclassCandidate, sees]

theorem roundTrips_union {cls : String} {args : List Hint} (place : Nat)
    (nodup : (declared.map fun field => field.1).Nodup)
    (trips : List.Forall₂ (FieldTrips validate) fields declared)
    (stands : args[place]? = some (.dataclass cls declared))
    (several : (args.filter fun arg => !arg.isNone).length ≠ 1)
    (found : bestDataclassCandidate
      (declared.map fun field => (.text field.1, .null)) args = some place) :
    RoundTrips validate (.union args) (.dataclass cls fields) := by
  obtain ⟨members, dumped, keys, decoded⟩ :=
    exists_object cls nodup trips
  have placed : bestDataclassCandidate members args = some place := by
    rw [← found]
    exact bestDataclassCandidate_congr (by simp [keys]) args
  refine ⟨.obj members, serialize_dataclass dumped, ?_⟩
  simp only [decode, b64Payload, Option.filter_none, if_neg several, placed, decodeAt_eq stands]
  simpa only [decode] using decoded

theorem roundTrips_union_text {args : List Hint} (characters : String)
    (several : (args.filter fun arg => !arg.isNone).length ≠ 1)
    (noBytes : (args.filter fun arg => !arg.isNone).any Hint.isBytes = false) :
    RoundTrips validate (.union args) (.ofString characters) := by
  refine ⟨.ofString characters, rfl, ?_⟩
  have ignored : (b64Payload (.ofString characters)).filter (fun _ =>
      (args.filter fun arg => !arg.isNone).any Hint.isBytes) = none := by
    rw [noBytes]
    cases b64Payload (.ofString characters) <;> rfl
  unfold Json.ofString at ignored ⊢
  simp only [decode, ignored, if_neg several]
  rfl

/-- The characters of encoded bytes are ASCII, and decoding gives the bytes
back. -/
theorem b64decode_encode (data : List UInt8) :
    b64decode (Base64.encode data) = .ok (.bytes data) := by
  have ascii : (Base64.encode data).all (fun character => character.toNat < 128) = true := by
    simpa [List.all_eq_true] using Base64.isAscii_encode data
  simp [b64decode, ascii, Base64.decode_encode]

theorem b64Payload_prefixed (payload : List Char) :
    b64Payload (.ofString (b64Prefix ++ String.ofList payload)) =
      some (.ok payload) := by
  have dropped : ('b' :: '6' :: '4' :: ':' :: payload).drop b64Prefix.length = payload := rfl
  simpa [b64Payload, Json.ofString, b64Prefix] using dropped

theorem b64Payload_text (characters : String) : b64Payload (.ofString characters) =
      if b64Prefix.toList <+: characters.toList then
        some (.ok (characters.toList.drop b64Prefix.length))
      else none :=
  rfl

section Fields

variable {name : String} {default : Option PyObject}

theorem text_field (value : String) :
    FieldTrips validate (name, .ofString value) (name, .str, default) :=
  ⟨rfl, roundTrips_ofJson (.ofString value) rfl fun _ => rfl⟩

theorem int_field (value : Int) : FieldTrips validate (name, .int value) (name, .other, default) :=
  ⟨rfl, roundTrips_ofJson (.int value) rfl fun _ => rfl⟩

theorem bool_field (value : Bool) :
    FieldTrips validate (name, .bool value) (name, .other, default) :=
  ⟨rfl, roundTrips_ofJson (.bool value) rfl fun _ => rfl⟩

theorem roundTrips_optional {Value : Type} {toPyObject : Value → PyObject}
    {hint : Hint} {value : Option Value}
    (trips : ∀ inner ∈ value, RoundTrips validate hint (toPyObject inner))
    (present : ∀ inner, toPyObject inner ≠ .null)
    (noBytes : hint.isBytes = false) (noNone : hint.isNone = false) :
    RoundTrips validate hint.optional (.optional toPyObject value) := by
  cases value with
  | none => exact roundTrips_null_optional hint
  | some inner =>
    exact (trips inner rfl).optional (present inner) noBytes noNone

theorem optionalText_field (value : Option String) :
    FieldTrips validate (name, .optional .ofString value) (name, Hint.optional .str, default) :=
  ⟨rfl, roundTrips_optional (fun inner _ => roundTrips_ofJson (.ofString inner) rfl fun _ => rfl)
    (fun _ => nofun) rfl rfl⟩

theorem optionalInt_field (value : Option Int) : FieldTrips validate (name, .optional .int value)
      (name, Hint.optional .other, default) :=
  ⟨rfl, roundTrips_optional (fun inner _ => roundTrips_ofJson (.int inner) rfl fun _ => rfl)
    (fun _ => nofun) rfl rfl⟩

end Fields

end DataclassCodec

end RoxabiFactory

import Mathlib.Logic.Function.Basic
import RoxabiFactory.PythonValues

/-!
# The version checks of envelopes

A receiver takes an envelope whose schema version, and for a worker also whose
contract version, is not above its own, and counts the other ones by the name
of the envelope and the kind of the check.
-/

namespace RoxabiFactory

namespace VersionChecks

/-- The drops that were counted for each key; a missing key counts none. -/
abbrev Counter := String → Nat

/-- The key of `_drop`. -/
def dropKey (envelopeName kind : String) : String := envelopeName ++ ":" ++ kind

/-- What `_drop` does to the counter. -/
def drop (counter : Counter) (envelopeName kind : String) : Counter :=
  Function.update counter (dropKey envelopeName kind) (counter (dropKey envelopeName kind) + 1)

/-- `check_schema_version`, with the counter afterwards; a `bool` is no
version. -/
def checkSchemaVersion (payload : Json) (envelopeName : String)
    (expected : Int) (counter : Counter) : Py (Bool × Counter) := do
  let raw ← payload.get "schema_version" (.int 1)
  match raw with
  | .int version =>
    if version ≤ 0 then
      return (false, drop counter envelopeName "schema")
    else if version > expected then
      return (false, drop counter envelopeName "schema")
    else return (true, counter)
  | _ => return (false, drop counter envelopeName "schema")

/-- `_CONTRACT_VERSION_RE.fullmatch`. -/
def isContractVersion (raw : String) : Bool :=
  match raw.toList with
  | [] => false
  | first :: rest =>
    decide (first ≠ '0') && first.isDigit && rest.all Char.isDigit

/-- The longest decimal text that `int` converts. -/
def maxStrDigits : Nat := 4300

/-- The number of a text of decimal digits. -/
def decimalValue (raw : String) : Nat := Nat.ofDigitChars 10 raw.toList 0

/-- `int` of a text of decimal digits. -/
def intOfDigits (raw : String) : Py Int :=
  if maxStrDigits < raw.length then .error .valueError
  else .ok (decimalValue raw)

/-- `check_contract_version`, with the counter afterwards. -/
def checkContractVersion (payload : Json) (envelopeName expected : String)
    (counter : Counter) : Py (Bool × Counter) := do
  let raw ← payload.get "contract_version" (.ofString "1")
  match raw with
  | .str (.text raw) =>
    if isContractVersion raw = true then do
      let payloadVersion ← intOfDigits raw
      let expectedVersion ← intOfDigits expected
      if payloadVersion > expectedVersion then
        return (false, drop counter envelopeName "contract")
      else return (true, counter)
    else return (false, drop counter envelopeName "contract")
  | _ => return (false, drop counter envelopeName "contract")

/-! ## What the checks are for -/

/-- The schema version is not above this one. -/
def SchemaAccepts (expected : Int) (members : List (PyStr × Json)) : Prop :=
  ∃ version, (members.lookup (.text "schema_version")).getD (.int 1) =
    .int version ∧ 0 < version ∧ version ≤ expected

/-- The contract version is a number, of any length, that is not above this
one. -/
def ContractAccepts (expected : String) (members : List (PyStr × Json)) :
    Prop :=
  ∃ raw, (members.lookup (.text "contract_version")).getD (.ofString "1") =
    .ofString raw ∧ isContractVersion raw = true ∧ decimalValue raw ≤ decimalValue expected

/-- The contract version is no number that is too long for `int`. -/
def ContractConverts (members : List (PyStr × Json)) : Prop :=
  ∀ raw, (members.lookup (.text "contract_version")).getD (.ofString "1") =
    .ofString raw → isContractVersion raw = true → raw.length ≤ maxStrDigits

/-- The payload is a JSON object. -/
def IsObject (payload : Json) : Prop := ∃ members, payload = .obj members

section Checks

variable {members : List (PyStr × Json)} {expected : Int}
variable {contract : String}

instance : Decidable (SchemaAccepts expected members) :=
  match found : (members.lookup (.text "schema_version")).getD (.int 1) with
  | .int version =>
    decidable_of_iff (0 < version ∧ version ≤ expected) (by
      constructor
      · intro within
        exact ⟨version, found, within⟩
      · rintro ⟨other, same, within⟩
        cases found.symm.trans same
        exact within)
  | .null | .bool _ | .float _ | .nonFinite _ | .str _ | .arr _ | .obj _ =>
    .isFalse (by
      rintro ⟨other, same, -⟩
      cases found.symm.trans same)

instance : Decidable (ContractAccepts contract members) :=
  match found : (members.lookup (.text "contract_version")).getD (.ofString "1") with
  | .str (.text raw) =>
    decidable_of_iff (isContractVersion raw = true ∧ decimalValue raw ≤ decimalValue contract) (by
      constructor
      · intro within
        exact ⟨raw, found, within⟩
      · rintro ⟨other, same, within⟩
        cases found.symm.trans same
        exact within)
  | .str (.loneSurrogate _) | .null | .bool _ | .int _ | .float _
  | .nonFinite _ | .arr _ | .obj _ =>
    .isFalse (by
      rintro ⟨other, same, -⟩
      cases found.symm.trans same)

/-- A payload that is no object has no `get`. -/
theorem get_of_not_isObject {payload : Json} (notObject : ¬ IsObject payload)
    (key : String) (default : Json) :
    payload.get key default = .error .attributeError := by
  cases payload with
  | obj members => exact absurd ⟨members, rfl⟩ notObject
  | _ => rfl

theorem checkSchemaVersion_of_not_isObject {payload : Json}
    (notObject : ¬ IsObject payload) (envelopeName : String)
    (expected : Int) (counter : Counter) :
    checkSchemaVersion payload envelopeName expected counter =
      .error .attributeError := by
  unfold checkSchemaVersion
  rw [get_of_not_isObject notObject]
  rfl

theorem checkSchemaVersion_eq (envelopeName : String) (counter : Counter) :
    checkSchemaVersion (.obj members) envelopeName expected counter =
      .ok (if SchemaAccepts expected members then (true, counter)
        else (false, drop counter envelopeName "schema")) := by
  unfold checkSchemaVersion
  rw [Json.get_obj, Py.ok_bind]
  cases found : (members.lookup (.text "schema_version")).getD (.int 1) with
  | int version =>
    have accepts : SchemaAccepts expected members ↔ 0 < version ∧ version ≤ expected := by
      unfold SchemaAccepts
      rw [found]
      simp
    dsimp only
    split
    · rw [if_neg]
      · rfl
      · rw [accepts]
        omega
    · split
      · rw [if_neg]
        · rfl
        · rw [accepts]
          omega
      · rw [if_pos]
        · rfl
        · rw [accepts]
          omega
  | _ =>
    rw [if_neg]
    · rfl
    · rintro ⟨version, same, -⟩
      cases found.symm.trans same

theorem intOfDigits_of_le {raw : String} (short : raw.length ≤ maxStrDigits) :
    intOfDigits raw = .ok (decimalValue raw) :=
  if_neg (Nat.not_lt.mpr short)

/-- The check raises on an object only when `int` does, and counts a refused
one. -/
theorem checkContractVersion_eq (envelopeName : String) (counter : Counter)
    (expectedShort : contract.length ≤ maxStrDigits)
    (converts : ContractConverts members) :
    checkContractVersion (.obj members) envelopeName contract counter =
      .ok (if ContractAccepts contract members then (true, counter)
        else (false, drop counter envelopeName "contract")) := by
  unfold checkContractVersion
  rw [Json.get_obj, Py.ok_bind]
  cases found : (members.lookup (.text "contract_version")).getD (.ofString "1") with
  | str value =>
    cases value with
    | text raw =>
      have accepts : ContractAccepts contract members ↔ isContractVersion raw = true ∧
            decimalValue raw ≤ decimalValue contract := by
        unfold ContractAccepts
        rw [found]
        simp [Json.ofString]
      dsimp only
      by_cases version : isContractVersion raw = true
      · rw [if_pos version, intOfDigits_of_le (converts raw found version),
          Py.ok_bind, intOfDigits_of_le expectedShort, Py.ok_bind]
        by_cases above : decimalValue raw > decimalValue contract
        · rw [if_pos (Int.ofNat_lt.mpr above), if_neg]
          · rfl
          · rw [accepts]
            exact fun both => absurd both.2 (Nat.not_le.mpr above)
        · rw [if_neg (fun more => above (Int.ofNat_lt.mp more)), if_pos]
          · rfl
          · rw [accepts]
            exact ⟨version, Nat.not_lt.mp above⟩
      · rw [if_neg version, if_neg]
        · rfl
        · rw [accepts]
          exact fun both => version both.1
    | loneSurrogate codePoints =>
      rw [if_neg]
      · rfl
      · rintro ⟨raw, same, -⟩
        cases found.symm.trans same
  | _ =>
    rw [if_neg]
    · rfl
    · rintro ⟨raw, same, -⟩
      cases found.symm.trans same

theorem checkContractVersion_of_not_converts (envelopeName : String)
    (counter : Counter) (long : ¬ ContractConverts members) :
    checkContractVersion (.obj members) envelopeName contract counter =
      .error .valueError := by
  unfold ContractConverts at long
  push Not at long
  obtain ⟨raw, found, version, long⟩ := long
  unfold checkContractVersion
  rw [Json.get_obj, Py.ok_bind, found]
  unfold Json.ofString
  dsimp only
  rw [if_pos version]
  unfold intOfDigits
  rw [if_pos long]
  rfl

end Checks

end VersionChecks

end RoxabiFactory

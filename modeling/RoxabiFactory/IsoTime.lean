import Mathlib.Data.List.Lex
import Mathlib.Data.Nat.Digits.Defs

/-!
# Times as text

`datetime.isoformat` writes every field with a fixed number of digits and
leaves the microseconds out when they are zero, and `datetime.fromisoformat`
reads such a text back.  A time with an offset is an instant; the texts of
times in UTC are ordered as the times are.
-/

namespace RoxabiFactory

namespace Decimal

/-- The digit of a number below ten. -/
def digit (value : Nat) : Char := Char.ofNat (48 + value)

/-- The number with leading zeros. -/
def write : Nat → Nat → List Char
  | 0, _ => []
  | width + 1, value => write width (value / 10) ++ [digit (value % 10)]

def digitValue (character : Char) : Option Nat :=
  if 48 ≤ character.toNat ∧ character.toNat ≤ 57 then
    some (character.toNat - 48)
  else none

/-- The number that these digits make after `value`. -/
def readAfter (value : Nat) : List Char → Option Nat
  | [] => some value
  | character :: characters =>
    (digitValue character).bind fun read =>
      readAfter (value * 10 + read) characters

/-- A number of `width` digits and the characters after it. -/
def read (width : Nat) (characters : List Char) : Option (Nat × List Char) :=
  if characters.length < width then none
  else (readAfter 0 (characters.take width)).map fun value =>
    (value, characters.drop width)

theorem toNat_digit {value : Nat} (small : value < 10) : (digit value).toNat = 48 + value := by
  have all : ∀ value : Fin 10, (digit value).toNat = 48 + value := by decide
  exact all ⟨value, small⟩

theorem digitValue_digit {value : Nat} (small : value < 10) :
    digitValue (digit value) = some value := by
  rw [digitValue, toNat_digit small, if_pos (by omega)]
  simp

@[simp]
theorem length_write (width value : Nat) : (write width value).length = width := by
  induction width generalizing value with
  | zero => rfl
  | succ width ih => simp [write, ih]

theorem readAfter_append (value : Nat) (first second : List Char) :
    readAfter value (first ++ second) =
      (readAfter value first).bind fun read => readAfter read second := by
  induction first generalizing value with
  | nil => rfl
  | cons character first ih =>
    cases read : digitValue character <;> simp [readAfter, read, ih]

theorem readAfter_write {width value : Nat} (small : value < 10 ^ width) (before : Nat) :
    readAfter before (write width value) =
      some (before * 10 ^ width + value) := by
  induction width generalizing value with
  | zero =>
    obtain rfl : value = 0 := by omega
    simp [write, readAfter]
  | succ width ih =>
    have quotient : value / 10 < 10 ^ width := by
      rw [Nat.pow_succ] at small
      omega
    rw [write, readAfter_append, ih quotient]
    simp only [Option.bind_some, readAfter,
      digitValue_digit (Nat.mod_lt value (by decide)), Nat.pow_succ]
    congr 1
    rw [Nat.add_mul, Nat.mul_assoc]
    omega

@[simp]
theorem read_write {width value : Nat} (small : value < 10 ^ width) (rest : List Char) :
    read width (write width value ++ rest) = some (value, rest) := by
  have long : ¬ (write width value ++ rest).length < width := by simp
  rw [read, if_neg long, List.take_left' (length_write width value),
    List.drop_left' (length_write width value), readAfter_write small]
  simp

end Decimal

/-- The fields of a `datetime`; the offset is `utcoffset()` in microseconds.
-/
structure TimeFields where
  year : Nat
  month : Nat
  day : Nat
  hour : Nat := 0
  minute : Nat := 0
  second : Nat := 0
  microsecond : Nat := 0
  offset : Option Int := none
  deriving DecidableEq, Repr

namespace TimeFields

def isLeap (year : Nat) : Bool :=
  decide (year % 4 = 0 ∧ (year % 100 ≠ 0 ∨ year % 400 = 0))

def daysInMonth (year month : Nat) : Nat :=
  if month = 2 then if isLeap year then 29 else 28
  else if month ∈ [4, 6, 9, 11] then 30
  else 31

def dayLength : Nat := 86400000000

/-- The constructor of `datetime` accepts the fields. -/
def Valid (time : TimeFields) : Prop :=
  (1 ≤ time.year ∧ time.year ≤ 9999) ∧ (1 ≤ time.month ∧ time.month ≤ 12) ∧
    (1 ≤ time.day ∧ time.day ≤ daysInMonth time.year time.month) ∧
    time.hour < 24 ∧ time.minute < 60 ∧ time.second < 60 ∧
    time.microsecond < 1000000 ∧
    ∀ offset ∈ time.offset, offset.natAbs < dayLength

instance (time : TimeFields) : Decidable time.Valid := by
  unfold Valid
  infer_instance

/-- The microseconds, when there are any. -/
def fractionText (microsecond : Nat) : List Char :=
  if microsecond = 0 then [] else '.' :: Decimal.write 6 microsecond

/-- The seconds of an offset, when it has any. -/
def secondsText (size : Nat) : List Char :=
  if size % 60000000 = 0 then []
  else ':' :: (Decimal.write 2 (size / 1000000 % 60) ++ fractionText (size % 1000000))

def offsetText (offset : Int) : List Char :=
  let size := offset.natAbs
  (if offset < 0 then '-' else '+') :: (Decimal.write 2 (size / 3600000000) ++
      ':' :: (Decimal.write 2 (size / 60000000 % 60) ++ secondsText size))

/-- `isoformat`. -/
def isoformat (time : TimeFields) : List Char :=
  Decimal.write 4 time.year ++ '-' :: (Decimal.write 2 time.month ++
    '-' :: (Decimal.write 2 time.day ++ 'T' :: (Decimal.write 2 time.hour ++
      ':' :: (Decimal.write 2 time.minute ++ ':' :: (Decimal.write 2 time.second ++
          (fractionText time.microsecond ++ (time.offset.map offsetText).getD []))))))

def expect (wanted : Char) : List Char → Option (List Char)
  | [] => none
  | character :: characters =>
    if character = wanted then some characters else none

/-- A number after a mark; without the mark it is zero. -/
def readOptional (mark : Char) (width : Nat) : List Char → Option (Nat × List Char)
  | [] => some (0, [])
  | character :: characters =>
    if character = mark then Decimal.read width characters
    else some (0, character :: characters)

/-- The seconds of an offset, in microseconds; nothing follows them. -/
def readSeconds : List Char → Option Nat
  | [] => some 0
  | character :: characters =>
    if character = ':' then do
      let (seconds, rest) ← Decimal.read 2 characters
      let (microseconds, rest) ← readOptional '.' 6 rest
      if rest = [] then some (seconds * 1000000 + microseconds) else none
    else none

def readOffset : List Char → Option (Option Int)
  | [] => some none
  | sign :: characters =>
    if sign = '+' ∨ sign = '-' then do
      let (hours, rest) ← Decimal.read 2 characters
      let rest ← expect ':' rest
      let (minutes, rest) ← Decimal.read 2 rest
      let microseconds ← readSeconds rest
      let size := (hours * 60 + minutes) * 60000000 + microseconds
      some (some (if sign = '-' then -(size : Int) else size))
    else none

/-- `fromisoformat` on the texts that `isoformat` makes; it takes any other
text for an invalid one. -/
def fromisoformat (characters : List Char) : Option TimeFields := do
  let (year, rest) ← Decimal.read 4 characters
  let rest ← expect '-' rest
  let (month, rest) ← Decimal.read 2 rest
  let rest ← expect '-' rest
  let (day, rest) ← Decimal.read 2 rest
  let rest ← expect 'T' rest
  let (hour, rest) ← Decimal.read 2 rest
  let rest ← expect ':' rest
  let (minute, rest) ← Decimal.read 2 rest
  let rest ← expect ':' rest
  let (second, rest) ← Decimal.read 2 rest
  let (microsecond, rest) ← readOptional '.' 6 rest
  let offset ← readOffset rest
  let time : TimeFields := ⟨year, month, day, hour, minute, second, microsecond, offset⟩
  if time.Valid then some time else none

@[simp]
theorem expect_cons (wanted : Char) (characters : List Char) :
    expect wanted (wanted :: characters) = some characters :=
  if_pos rfl

theorem readOptional_fractionText {microsecond : Nat}
    (small : microsecond < 1000000) {rest : List Char}
    (bare : rest.head? ≠ some '.') :
    readOptional '.' 6 (fractionText microsecond ++ rest) =
      some (microsecond, rest) := by
  unfold fractionText
  split
  case isTrue zero =>
    subst zero
    cases rest with
    | nil => rfl
    | cons character rest =>
      have other : character ≠ '.' := by simpa using bare
      simp [readOptional, other]
  case isFalse positive =>
    simp [readOptional, @Decimal.read_write 6 microsecond small]

theorem readSeconds_secondsText (size : Nat) :
    readSeconds (secondsText size) = some (size % 60000000) := by
  unfold secondsText
  split
  case isTrue whole => rw [whole, readSeconds]
  case isFalse positive =>
    have seconds : size / 1000000 % 60 < 10 ^ 2 := by omega
    have fraction := @readOptional_fractionText (size % 1000000)
      (Nat.mod_lt size (by decide)) [] (by simp)
    rw [List.append_nil] at fraction
    simp only [readSeconds, if_true, Decimal.read_write seconds, fraction,
      Option.bind_eq_bind, Option.bind_some]
    congr 1
    omega

theorem readOffset_offsetText {offset : Int} (small : offset.natAbs < dayLength) :
    readOffset (offsetText offset) = some (some offset) := by
  have hours : offset.natAbs / 3600000000 < 10 ^ 2 := by
    unfold dayLength at small
    omega
  have minutes : offset.natAbs / 60000000 % 60 < 10 ^ 2 := by omega
  have total : (offset.natAbs / 3600000000 * 60 + offset.natAbs / 60000000 % 60) * 60000000 +
        offset.natAbs % 60000000 = offset.natAbs := by omega
  unfold offsetText
  simp only [readOffset, Decimal.read_write hours, Decimal.read_write minutes,
    readSeconds_secondsText, Option.bind_eq_bind, Option.bind_some,
    expect_cons, total]
  by_cases negative : offset < 0
  · simp only [if_pos negative, or_true, if_true]
    congr 2
    omega
  · simp only [if_neg negative, true_or, if_true]
    rw [if_neg (by decide)]
    congr 2
    omega

theorem head_offsetText (offset : Option Int) :
    ((offset.map offsetText).getD []).head? ≠ some '.' := by
  cases offset with
  | none => simp
  | some offset =>
    simp only [Option.map_some, Option.getD_some, offsetText, List.head?_cons]
    split <;> simp

theorem fromisoformat_isoformat {time : TimeFields} (valid : time.Valid) :
    fromisoformat time.isoformat = some time := by
  have checked := valid
  obtain ⟨year, month, day, hour, minute, second, microsecond, offset⟩ := valid
  have dayBound : time.day < 10 ^ 2 := by
    have longest : daysInMonth time.year time.month ≤ 31 := by
      unfold daysInMonth
      split
      · split <;> decide
      · split <;> decide
    omega
  have readBack : readOffset ((time.offset.map offsetText).getD []) =
      some time.offset := by
    cases same : time.offset with
    | none => rfl
    | some value => exact readOffset_offsetText (offset value same)
  have fraction := readOptional_fractionText microsecond (head_offsetText time.offset)
  unfold fromisoformat isoformat
  rw [Decimal.read_write (by omega)]
  simp only [Option.bind_eq_bind, Option.bind_some, expect_cons]
  rw [Decimal.read_write (by omega)]
  simp only [Option.bind_some, expect_cons]
  rw [Decimal.read_write dayBound]
  simp only [Option.bind_some, expect_cons]
  rw [Decimal.read_write (by omega)]
  simp only [Option.bind_some, expect_cons]
  rw [Decimal.read_write (by omega)]
  simp only [Option.bind_some, expect_cons]
  rw [Decimal.read_write (by omega)]
  simp only [Option.bind_some, fraction, readBack]
  exact if_pos checked

end TimeFields

/-- A `datetime`. -/
abbrev DateTime := {time : TimeFields // time.Valid}

end RoxabiFactory

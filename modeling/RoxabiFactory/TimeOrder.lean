import RoxabiFactory.IsoTime

/-!
# The order of times in UTC

The instant of a time counts the microseconds from the beginning of the first
year.  Two times in UTC are ordered as the texts that `isoformat` makes of
them, since every field is written with a fixed number of digits, the most
significant first, and the sign of the offset sorts before the decimal point
of the microseconds.
-/

namespace RoxabiFactory

theorem append_lt_append_iff {Letter : Type*} [LT Letter]
    {first second : List Letter} (sameLength : first.length = second.length)
    (firstRest secondRest : List Letter) :
    first ++ firstRest < second ++ secondRest ↔
      first < second ∨ first = second ∧ firstRest < secondRest := by
  induction first generalizing second with
  | nil =>
    obtain rfl : second = [] := List.eq_nil_of_length_eq_zero (by simpa using sameLength.symm)
    simp
  | cons letter first ih =>
    cases second with
    | nil => simp at sameLength
    | cons other second =>
      have tails := @ih second (by simpa using sameLength)
      simp only [List.cons_append, List.cons_lt_cons_iff, tails, List.cons.injEq]
      constructor
      · rintro (less | ⟨same, less | ⟨rfl, less⟩⟩)
        · exact .inl (.inl less)
        · exact .inl (.inr ⟨same, less⟩)
        · exact .inr ⟨⟨same, rfl⟩, less⟩
      · rintro ((less | ⟨same, less⟩) | ⟨⟨same, rfl⟩, less⟩)
        · exact .inl less
        · exact .inr ⟨same, .inl less⟩
        · exact .inr ⟨same, .inr ⟨rfl, less⟩⟩

namespace Decimal

theorem digit_lt_digit_iff {first second : Nat} (firstSmall : first < 10)
    (secondSmall : second < 10) :
    digit first < digit second ↔ first < second := by
  have all : ∀ first second : Fin 10,
      digit first < digit second ↔ first < second := by decide
  exact all ⟨first, firstSmall⟩ ⟨second, secondSmall⟩

theorem write_injective {width first second : Nat}
    (firstSmall : first < 10 ^ width) (secondSmall : second < 10 ^ width) :
    write width first = write width second ↔ first = second := by
  constructor
  · intro same
    have reads := read_write firstSmall []
    rw [same, read_write secondSmall []] at reads
    simpa using reads.symm
  · exact congrArg (write width)

theorem write_lt_write_iff {width first second : Nat}
    (firstSmall : first < 10 ^ width) (secondSmall : second < 10 ^ width) :
    write width first < write width second ↔ first < second := by
  induction width generalizing first second with
  | zero =>
    obtain rfl : first = 0 := by omega
    obtain rfl : second = 0 := by omega
    simp
  | succ width ih =>
    rw [Nat.pow_succ] at firstSmall secondSmall
    have firstQuotient : first / 10 < 10 ^ width := by omega
    have secondQuotient : second / 10 < 10 ^ width := by omega
    simp only [write]
    rw [append_lt_append_iff (by simp), ih firstQuotient secondQuotient,
      write_injective firstQuotient secondQuotient,
      List.cons_lt_cons_iff,
      digit_lt_digit_iff (by omega) (by omega)]
    simp only [List.lt_irrefl, and_false, or_false]
    omega

theorem field_lt_iff {width first second : Nat}
    (firstSmall : first < 10 ^ width) (secondSmall : second < 10 ^ width)
    (mark : Char) (firstRest secondRest : List Char) :
    write width first ++ mark :: firstRest < write width second ++ mark :: secondRest ↔
      first < second ∨ first = second ∧ firstRest < secondRest := by
  rw [append_lt_append_iff (by simp), write_lt_write_iff firstSmall secondSmall,
    write_injective firstSmall secondSmall, List.cons_lt_cons_iff]
  simp [Char.lt_irrefl]

end Decimal

namespace TimeFields

/-- The days before the first of January. -/
def daysBeforeYear (year : Nat) : Nat :=
  (year - 1) * 365 + (year - 1) / 4 - (year - 1) / 100 + (year - 1) / 400

def daysInYear (year : Nat) : Nat :=
  if isLeap year then 366 else 365

def daysBeforeMonth (year : Nat) : Nat → Nat
  | 0 | 1 => 0
  | month + 2 =>
    daysBeforeMonth year (month + 1) + daysInMonth year (month + 1)

/-- `date.toordinal`. -/
def toOrdinal (time : TimeFields) : Nat :=
  daysBeforeYear time.year + daysBeforeMonth time.year time.month + time.day

/-- The microseconds of the day. -/
def sinceMidnight (time : TimeFields) : Nat :=
  ((time.hour * 60 + time.minute) * 60 + time.second) * 1000000 + time.microsecond

/-- The microseconds in UTC, from the day before the first year. -/
def instant (time : TimeFields) : Int :=
  time.toOrdinal * dayLength + time.sinceMidnight - time.offset.getD 0

theorem daysBeforeYear_succ {year : Nat} (positive : 1 ≤ year) :
    daysBeforeYear (year + 1) = daysBeforeYear year + daysInYear year := by
  obtain ⟨before, rfl⟩ := Nat.exists_eq_add_of_le' positive
  have fourth : (before + 1) / 4 = before / 4 +
      if (before + 1) % 4 = 0 then 1 else 0 := by split <;> omega
  have hundredth : (before + 1) / 100 = before / 100 +
      if (before + 1) % 100 = 0 then 1 else 0 := by split <;> omega
  have fourHundredth : (before + 1) / 400 = before / 400 +
      if (before + 1) % 400 = 0 then 1 else 0 := by split <;> omega
  have fewer : before / 100 ≤ before / 4 := by omega
  simp only [daysBeforeYear, daysInYear, isLeap, decide_eq_true_eq,
    Nat.add_sub_cancel, fourth, hundredth, fourHundredth]
  clear fourth hundredth fourHundredth
  by_cases four : (before + 1) % 4 = 0 <;>
    by_cases hundred : (before + 1) % 100 = 0 <;>
    by_cases fourHundred : (before + 1) % 400 = 0 <;>
    simp only [four, hundred, fourHundred, not_true_eq_false, not_false_eq_true,
      true_and, false_and, or_true, or_false, or_self, ne_eq, if_true,
      if_false] <;> omega

theorem daysBeforeYear_add_le {first second : Nat} (positive : 1 ≤ first) (less : first < second) :
    daysBeforeYear first + daysInYear first ≤ daysBeforeYear second := by
  induction second, less using Nat.le_induction with
  | base => rw [daysBeforeYear_succ positive]
  | succ second above ih =>
    rw [daysBeforeYear_succ (by omega)]
    omega

theorem daysBeforeMonth_succ {year month : Nat} (positive : 1 ≤ month) :
    daysBeforeMonth year (month + 1) =
      daysBeforeMonth year month + daysInMonth year month := by
  obtain ⟨before, rfl⟩ := Nat.exists_eq_add_of_le' positive
  rfl

theorem daysBeforeMonth_add_le {year first second : Nat}
    (positive : 1 ≤ first) (less : first < second) :
    daysBeforeMonth year first + daysInMonth year first ≤
      daysBeforeMonth year second := by
  induction second, less using Nat.le_induction with
  | base => rw [daysBeforeMonth_succ positive]
  | succ second above ih =>
    rw [daysBeforeMonth_succ (by omega)]
    omega

theorem daysBeforeMonth_thirteen (year : Nat) : daysBeforeMonth year 13 = daysInYear year := by
  simp only [daysBeforeMonth, daysInMonth, daysInYear]
  cases isLeap year <;> rfl

theorem daysInMonth_le (year month : Nat) : daysInMonth year month ≤ 31 := by
  simp only [daysInMonth]
  split
  · split <;> omega
  · split <;> omega

section Valid

variable {first second : TimeFields}

theorem Valid.dayOfYear_le (valid : first.Valid) :
    daysBeforeMonth first.year first.month + first.day ≤
      daysInYear first.year := by
  obtain ⟨-, month, day, -⟩ := valid
  have last := @daysBeforeMonth_add_le first.year first.month 13 month.1 (by omega)
  rw [daysBeforeMonth_thirteen] at last
  omega

theorem Valid.sinceMidnight_lt (valid : first.Valid) :
    first.sinceMidnight < dayLength := by
  obtain ⟨-, -, -, hour, minute, second, microsecond, -⟩ := valid
  simp only [sinceMidnight, dayLength]
  omega

/-- One date is before the other, read from the year on. -/
def DateBefore (first second : TimeFields) : Prop :=
  first.year < second.year ∨ first.year = second.year ∧
    (first.month < second.month ∨ first.month = second.month ∧
      first.day < second.day)

theorem DateBefore.toOrdinal_lt (before : first.DateBefore second)
    (firstValid : first.Valid) (secondValid : second.Valid) :
    first.toOrdinal < second.toOrdinal := by
  have firstDay := firstValid.2.2.1
  have secondDay := secondValid.2.2.1
  simp only [toOrdinal]
  rcases before with year | ⟨sameYear, month | ⟨sameMonth, day⟩⟩
  · have years := daysBeforeYear_add_le firstValid.1.1 year
    have within := firstValid.dayOfYear_le
    omega
  · have months := @daysBeforeMonth_add_le first.year _ _
      firstValid.2.1.1 month
    rw [← sameYear]
    omega
  · rw [sameYear, sameMonth]
    omega

theorem toOrdinal_lt_iff (firstValid : first.Valid) (secondValid : second.Valid) :
    first.toOrdinal < second.toOrdinal ↔ first.DateBefore second := by
  constructor
  · intro less
    by_contra notBefore
    have other : second.DateBefore first ∨ first.year = second.year ∧
        first.month = second.month ∧ first.day = second.day := by
      simp only [DateBefore] at notBefore ⊢
      omega
    rcases other with after | ⟨year, month, day⟩
    · have := after.toOrdinal_lt secondValid firstValid
      omega
    · simp [toOrdinal, year, month, day] at less
  · exact fun before => before.toOrdinal_lt firstValid secondValid

theorem toOrdinal_eq_iff (firstValid : first.Valid) (secondValid : second.Valid) :
    first.toOrdinal = second.toOrdinal ↔ first.year = second.year ∧
      first.month = second.month ∧ first.day = second.day := by
  have less := toOrdinal_lt_iff firstValid secondValid
  have greater := toOrdinal_lt_iff secondValid firstValid
  simp only [DateBefore] at less greater
  omega

end Valid

end TimeFields

/-- A `datetime` in UTC. -/
abbrev UtcTime := {time : TimeFields // time.Valid ∧ time.offset = some 0}

namespace UtcTime

open TimeFields

theorem instant_lt_iff (first second : UtcTime) :
    first.val.instant < second.val.instant ↔
      first.val.toOrdinal < second.val.toOrdinal ∨
        first.val.toOrdinal = second.val.toOrdinal ∧
          first.val.sinceMidnight < second.val.sinceMidnight := by
  have firstDay := first.property.1.sinceMidnight_lt
  have secondDay := second.property.1.sinceMidnight_lt
  simp only [instant, first.property.2, second.property.2, Option.getD_some,
    dayLength] at firstDay secondDay ⊢
  omega

theorem fractionText_lt_iff {first second : Nat} (firstSmall : first < 1000000)
    (secondSmall : second < 1000000) :
    fractionText first ++ offsetText 0 < fractionText second ++ offsetText 0 ↔
      first < second := by
  have sign : offsetText 0 = '+' :: "00:00".toList := by decide
  have sorts : '+' < '.' := by decide
  have reversed : ¬ '.' < '+' := by decide
  have differs : '.' ≠ '+' := by decide
  by_cases firstZero : first = 0 <;> by_cases secondZero : second = 0
  · simp [firstZero, secondZero]
  · simp only [fractionText, firstZero, secondZero, sign, if_true, if_false,
      List.nil_append, List.cons_append, List.cons_lt_cons_iff, sorts, true_or,
      true_iff]
    omega
  · simp only [fractionText, firstZero, secondZero, sign, if_true, if_false,
      List.nil_append, List.cons_append, List.cons_lt_cons_iff, reversed,
      differs, false_or, false_and, false_iff]
    omega
  · have written := @Decimal.write_lt_write_iff 6 first second (by omega) (by omega)
    simp only [fractionText, firstZero, secondZero, if_false,
      List.cons_append, List.cons_lt_cons_iff, Char.lt_irrefl, false_or,
      true_and]
    rw [append_lt_append_iff (by simp), written]
    simp

theorem isoformat_lt_iff (first second : UtcTime) :
    first.val.isoformat < second.val.isoformat ↔
      first.val.instant < second.val.instant := by
  obtain ⟨firstYear, firstMonth, firstDay, firstHour, firstMinute, firstSecond,
    firstMicrosecond, -⟩ := first.property.1
  obtain ⟨secondYear, secondMonth, secondDay, secondHour, secondMinute,
    secondSecond, secondMicrosecond, -⟩ := second.property.1
  have firstLength := daysInMonth_le first.val.year first.val.month
  have secondLength := daysInMonth_le second.val.year second.val.month
  rw [instant_lt_iff, toOrdinal_lt_iff first.property.1 second.property.1,
    toOrdinal_eq_iff first.property.1 second.property.1]
  simp only [isoformat, first.property.2, second.property.2, Option.map_some, Option.getD_some]
  rw [Decimal.field_lt_iff (by omega) (by omega),
    Decimal.field_lt_iff (by omega) (by omega),
    Decimal.field_lt_iff (by omega) (by omega),
    Decimal.field_lt_iff (by omega) (by omega),
    Decimal.field_lt_iff (by omega) (by omega),
    append_lt_append_iff (by simp),
    Decimal.write_lt_write_iff (by omega) (by omega),
    Decimal.write_injective (by omega) (by omega),
    fractionText_lt_iff firstMicrosecond secondMicrosecond]
  simp only [DateBefore, sinceMidnight]
  omega

end UtcTime

end RoxabiFactory

import Mathlib.Data.List.Basic

/-!
# Base64

Three bytes make four symbols; the last group is padded.  Decoding follows
the decoder of `binascii` that is not strict: characters outside the alphabet
are skipped, and a padding that completes a group ends the data.
-/

namespace RoxabiFactory

namespace Base64

/-- The symbol of a digit below 64. -/
def symbol (digit : Nat) : Char :=
  if digit < 26 then Char.ofNat (65 + digit)
  else if digit < 52 then Char.ofNat (97 + (digit - 26))
  else if digit < 62 then Char.ofNat (48 + (digit - 52))
  else if digit = 62 then '+'
  else '/'

def digit (character : Char) : Option Nat :=
  let code := character.toNat
  if 65 ≤ code ∧ code ≤ 90 then some (code - 65)
  else if 97 ≤ code ∧ code ≤ 122 then some (code - 97 + 26)
  else if 48 ≤ code ∧ code ≤ 57 then some (code - 48 + 52)
  else if character = '+' then some 62
  else if character = '/' then some 63
  else none

/-- `b64encode`. -/
def encode : List UInt8 → List Char
  | [] => []
  | [first] =>
    [symbol (first.toNat / 4), symbol (first.toNat % 4 * 16), '=', '=']
  | [first, second] =>
    [symbol (first.toNat / 4), symbol (first.toNat % 4 * 16 + second.toNat / 16),
      symbol (second.toNat % 16 * 4), '=']
  | first :: second :: third :: bytes =>
    symbol (first.toNat / 4) :: symbol (first.toNat % 4 * 16 + second.toNat / 16) ::
      symbol (second.toNat % 16 * 4 + third.toNat / 64) ::
      symbol (third.toNat % 64) :: encode bytes

/-- The loop of `a2b_base64`: the position in the group of four, the bits that
are left over and the number of paddings that came last. -/
def decodeFrom (position left pads : Nat) : List Char → Option (List UInt8)
  | [] => if position = 0 then some [] else none
  | character :: characters =>
    if character = '=' then
      if 2 ≤ position ∧ 4 ≤ position + (pads + 1) then some []
      else decodeFrom position left (if 2 ≤ position then pads + 1 else pads) characters
    else match digit character with
      | none => decodeFrom position left pads characters
      | some value =>
        match position with
        | 0 => decodeFrom 1 value 0 characters
        | 1 => (decodeFrom 2 (value % 16) 0 characters).map
            (UInt8.ofNat (left * 4 + value / 16) :: ·)
        | 2 => (decodeFrom 3 (value % 4) 0 characters).map
            (UInt8.ofNat (left * 16 + value / 4) :: ·)
        | _ => (decodeFrom 0 0 0 characters).map (UInt8.ofNat (left * 64 + value) :: ·)

/-- `a2b_base64`; `none` is an error. -/
def decode (characters : List Char) : Option (List UInt8) := decodeFrom 0 0 0 characters

theorem digit_symbol {value : Nat} (small : value < 64) :
    digit (symbol value) = some value ∧ symbol value ≠ '=' := by
  have all : ∀ value : Fin 64,
      digit (symbol value) = some value.val ∧ symbol value ≠ '=' := by decide
  exact all ⟨value, small⟩

section Steps

variable {left pads value : Nat} {characters : List Char}

attribute [local simp] decodeFrom

theorem decodeFrom_zero (small : value < 64) : decodeFrom 0 left pads (symbol value :: characters) =
      decodeFrom 1 value 0 characters := by
  simp [digit_symbol small]

theorem decodeFrom_one (small : value < 64) : decodeFrom 1 left pads (symbol value :: characters) =
      (decodeFrom 2 (value % 16) 0 characters).map (UInt8.ofNat (left * 4 + value / 16) :: ·) := by
  simp [digit_symbol small]

theorem decodeFrom_two (small : value < 64) : decodeFrom 2 left pads (symbol value :: characters) =
      (decodeFrom 3 (value % 4) 0 characters).map (UInt8.ofNat (left * 16 + value / 4) :: ·) := by
  simp [digit_symbol small]

theorem decodeFrom_three (small : value < 64) :
    decodeFrom 3 left pads (symbol value :: characters) = (decodeFrom 0 0 0 characters).map
        (UInt8.ofNat (left * 64 + value) :: ·) := by
  simp [digit_symbol small]

end Steps

theorem ofNat_eq (byte : UInt8) {value : Nat} (same : value = byte.toNat) :
    UInt8.ofNat value = byte := by
  rw [same, UInt8.ofNat_toNat]

theorem decode_encode (bytes : List UInt8) : decode (encode bytes) = some bytes := by
  unfold decode
  induction bytes using encode.induct with
  | case1 => rfl
  | case2 first =>
    have bound := first.toNat_lt
    rw [encode, decodeFrom_zero (by omega), decodeFrom_one (by omega),
      ofNat_eq first (by omega)]
    simp [decodeFrom]
  | case3 first second =>
    have bound := first.toNat_lt
    have secondBound := second.toNat_lt
    rw [encode, decodeFrom_zero (by omega), decodeFrom_one (by omega),
      decodeFrom_two (by omega), ofNat_eq first (by omega),
      ofNat_eq second (by omega)]
    simp [decodeFrom]
  | case4 first second third bytes ih =>
    have bound := first.toNat_lt
    have secondBound := second.toNat_lt
    have thirdBound := third.toNat_lt
    rw [encode, decodeFrom_zero (by omega), decodeFrom_one (by omega),
      decodeFrom_two (by omega), decodeFrom_three (by omega),
      ofNat_eq first (by omega),
      ofNat_eq second (by omega),
      ofNat_eq third (by omega), ih]
    rfl

theorem toNat_symbol_lt (value : Nat) : (symbol value).toNat < 128 := by
  by_cases small : value < 64
  · have all : ∀ value : Fin 64, (symbol value).toNat < 128 := by decide
    exact all ⟨value, small⟩
  · have slash : symbol value = '/' := by
      unfold symbol
      rw [if_neg (by omega), if_neg (by omega), if_neg (by omega),
        if_neg (by omega)]
    rw [slash]
    decide

theorem isAscii_encode (bytes : List UInt8) :
    ∀ character ∈ encode bytes, character.toNat < 128 := by
  induction bytes using encode.induct with
  | case1 => simp [encode]
  | case2 first => simp [encode, toNat_symbol_lt]
  | case3 first second => simp [encode, toNat_symbol_lt]
  | case4 first second third bytes ih =>
    simpa [encode, toNat_symbol_lt] using ih

end Base64

end RoxabiFactory

import Mathlib.Data.List.Basic
import Mathlib.Tactic.IntervalCases

/-! Percent-encoding of bytes: those that may stand for themselves do, and every other is written
as two hexadecimal digits behind a percent sign. -/

namespace PercentEncoding

def hexDigit (value : Nat) : Char := Char.ofNat (if value < 10 then 48 + value else 55 + value)

def hexValue (digit : Char) : Option Nat :=
  let point := digit.toNat
  if 48 ≤ point ∧ point ≤ 57 then some (point - 48)
  else if 65 ≤ point ∧ point ≤ 70 then some (point - 55)
  else if 97 ≤ point ∧ point ≤ 102 then some (point - 87)
  else none

section
variable (plain : UInt8 → Bool)

def encodeByte (byte : UInt8) : List Char :=
  if plain byte then [Char.ofNat byte.toNat] else ['%', hexDigit (byte.toNat / 16), hexDigit (byte.toNat % 16)]

def encode (bytes : List UInt8) : List Char := bytes.flatMap (encodeByte plain)

/-- A percent sign is read with the two characters behind it, and any other character as its byte. -/
def decode : List Char → Option (List UInt8)
  | [] => some []
  | ['%'] => none
  | ['%', _] => none
  | '%' :: high :: low :: rest =>
    match hexValue high, hexValue low with
    | some high, some low => (decode rest).map (UInt8.ofNat (16 * high + low) :: ·)
    | _, _ => none
  | character :: rest => (decode rest).map (UInt8.ofNat character.toNat :: ·)

end

variable {plain : UInt8 → Bool}

theorem toNat_ofNat {point : Nat} (ascii : point < 128) : (Char.ofNat point).toNat = point := by
  have valid : point.isValidChar := .inl (by omega)
  rw [Char.ofNat, dif_pos valid]
  rfl

theorem hexValue_hexDigit {value : Nat} (small : value < 16) : hexValue (hexDigit value) = some value := by
  interval_cases value <;> rfl

theorem decode_byte (byte : UInt8) (rest : List Char) :
    decode ('%' :: hexDigit (byte.toNat / 16) :: hexDigit (byte.toNat % 16) :: rest) = (decode rest).map (byte :: ·) := by
  have bound := byte.toNat_lt
  rw [decode, hexValue_hexDigit (by omega), hexValue_hexDigit (by omega)]
  simp only [Nat.div_add_mod, UInt8.ofNat_toNat]

theorem decode_plain {character : Char} (other : character ≠ '%') (rest : List Char) :
    decode (character :: rest) = (decode rest).map (UInt8.ofNat character.toNat :: ·) := by
  match rest with
  | [] => simp [decode, other]
  | [_] => simp [decode, other]
  | _ :: _ :: _ => simp [decode, other]

/-- Encoding is undone by decoding, as long as only ASCII stands for itself and the percent sign
does not. -/
theorem decode_encode (ascii : ∀ byte, plain byte = true → byte.toNat < 128 ∧ byte.toNat ≠ 37) (bytes : List UInt8) :
    decode (encode plain bytes) = some bytes := by
  induction bytes with
  | nil => rfl
  | cons byte bytes rest =>
    rw [encode, List.flatMap_cons, encodeByte]
    split
    next itself =>
      obtain ⟨small, other⟩ := ascii byte itself
      have same := toNat_ofNat small
      have different : Char.ofNat byte.toNat ≠ '%' := fun equal => other (same.symm.trans (congrArg Char.toNat equal))
      rw [List.singleton_append, decode_plain different, same, ← encode, rest, UInt8.ofNat_toNat]
      rfl
    next =>
      rw [List.cons_append, List.cons_append, List.cons_append, List.nil_append, decode_byte, ← encode, rest]
      rfl

/-- What holds of the percent sign, the digits and the characters that stand for themselves holds of
every character of an encoding. -/
theorem encode_all {holds : Char → Prop} (percent : holds '%') (digits : ∀ value < 16, holds (hexDigit value))
    (itself : ∀ byte, plain byte = true → holds (Char.ofNat byte.toNat)) (bytes : List UInt8) :
    ∀ character ∈ encode plain bytes, holds character := by
  intro character among
  obtain ⟨byte, _, written⟩ := List.mem_flatMap.mp among
  have bound := byte.toNat_lt
  unfold encodeByte at written
  split at written
  next stands =>
    rw [List.mem_singleton.mp written]
    exact itself byte stands
  next =>
    simp only [List.mem_cons, List.not_mem_nil, or_false] at written
    rcases written with rfl | rfl | rfl
    · exact percent
    · exact digits _ (by omega)
    · exact digits _ (by omega)

end PercentEncoding

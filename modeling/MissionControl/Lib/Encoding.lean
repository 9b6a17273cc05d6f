import Mathlib.Data.List.Basic
import Mathlib.Data.Nat.ModEq

/-! Encodings into a stream of symbols, and when the stream determines what was
written. An encoding delimits its values when no continuation of one reads as a
continuation of another; such encodings compose in sequence, and a whole record
is recovered field after field. -/

namespace Encoding
variable {Symbol : Type} {α β : Type}

def Delimits (valid : α → Prop) (encode : α → List Symbol) : Prop :=
  ∀ ⦃first second : α⦄ ⦃rest other : List Symbol⦄, valid first → valid second →
    encode first ++ rest = encode second ++ other → first = second ∧ rest = other

def Apart (valid : α → Prop) (encode : α → List Symbol) (stream : List Symbol) : Prop :=
  ∀ value rest, valid value → encode value ++ rest ≠ stream

namespace Delimits
variable {valid : α → Prop} {encode : α → List Symbol}

theorem injOn (delimits : Delimits valid encode) {first second : α} (left : valid first)
    (right : valid second) (same : encode first = encode second) : first = second := by
  refine (@delimits first second [] [] left right ?_).1
  rw [same]

/-- Encodings of one width need only be distinct. -/
theorem of_length (width : Nat) (sized : ∀ value, valid value → (encode value).length = width)
    (distinct : ∀ first second, valid first → valid second → encode first = encode second → first = second) :
    Delimits valid encode := by
  intro first second rest other left right same
  obtain ⟨head, tail⟩ := List.append_inj same (by rw [sized first left, sized second right])
  exact ⟨distinct first second left right head, tail⟩

theorem comap {source : β → α} (delimits : Delimits valid encode) (injective : Function.Injective source) :
    Delimits (fun value => valid (source value)) (fun value => encode (source value)) := by
  intro first second rest other left right same
  obtain ⟨value, tail⟩ := delimits left right same
  exact ⟨injective value, tail⟩

theorem weaken {stronger : α → Prop} (delimits : Delimits valid encode)
    (implied : ∀ value, stronger value → valid value) : Delimits stronger encode :=
  fun _ _ _ _ left right same => delimits (implied _ left) (implied _ right) same

/-- Items one after another, when both streams hold equally many. -/
theorem items (delimits : Delimits valid encode) {first second : List α} {rest other : List Symbol}
    (length : first.length = second.length) (left : ∀ item ∈ first, valid item)
    (right : ∀ item ∈ second, valid item)
    (same : first.flatMap encode ++ rest = second.flatMap encode ++ other) :
    first = second ∧ rest = other := by
  induction first generalizing second with
  | nil =>
    cases second with
    | nil => exact ⟨rfl, same⟩
    | cons _ _ => cases length
  | cons head tail step =>
    cases second with
    | nil => cases length
    | cons head' tail' =>
      simp only [List.flatMap_cons, List.append_assoc] at same
      rw [List.forall_mem_cons] at left right
      obtain ⟨rfl, following⟩ := delimits left.1 right.1 same
      obtain ⟨rfl, tails⟩ := step (Nat.succ.inj length) left.2 right.2 following
      exact ⟨rfl, tails⟩

/-- A list written as its length and then its items. -/
theorem counted {bound : Nat → Prop} {count : Nat → List Symbol} (counts : Delimits bound count)
    (delimits : Delimits valid encode) :
    Delimits (fun list : List α => bound list.length ∧ ∀ item ∈ list, valid item)
      (fun list => count list.length ++ list.flatMap encode) := by
  intro first second rest other left right same
  rw [List.append_assoc, List.append_assoc] at same
  obtain ⟨length, same⟩ := counts left.1 right.1 same
  exact delimits.items length left.2 right.2 same

/-- A list needs no count where what follows it never reads as one more item. -/
theorem terminated (delimits : Delimits valid encode) {first second : List α} {rest other : List Symbol}
    (left : ∀ item ∈ first, valid item) (right : ∀ item ∈ second, valid item) (ends : Apart valid encode rest)
    (ends' : Apart valid encode other) (same : first.flatMap encode ++ rest = second.flatMap encode ++ other) :
    first = second ∧ rest = other := by
  induction first generalizing second with
  | nil =>
    cases second with
    | nil => exact ⟨rfl, same⟩
    | cons head tail =>
      rw [List.flatMap_cons, List.append_assoc] at same
      exact absurd same.symm (ends _ _ (right head List.mem_cons_self))
  | cons head tail step =>
    cases second with
    | nil =>
      rw [List.flatMap_cons, List.append_assoc] at same
      exact absurd same (ends' _ _ (left head List.mem_cons_self))
    | cons head' tail' =>
      simp only [List.flatMap_cons, List.append_assoc] at same
      rw [List.forall_mem_cons] at left right
      obtain ⟨rfl, following⟩ := delimits left.1 right.1 same
      obtain ⟨rfl, tails⟩ := step left.2 right.2 following
      exact ⟨rfl, tails⟩

/-- A text written as its length and then itself. -/
theorem framed {bound : Nat → Prop} {count : Nat → List Symbol} (counts : Delimits bound count) :
    Delimits (fun text : List Symbol => bound text.length) (fun text => count text.length ++ text) := by
  intro first second rest other left right same
  rw [List.append_assoc, List.append_assoc] at same
  obtain ⟨length, same⟩ := counts left right same
  exact List.append_inj same length

end Delimits

/-- The `width` low bytes of a number, the highest first. -/
def bigEndian : Nat → Nat → List UInt8
  | 0, _ => []
  | width + 1, number => bigEndian width (number / 256) ++ [UInt8.ofNat (number % 256)]

@[simp] theorem length_bigEndian (width number : Nat) : (bigEndian width number).length = width := by
  induction width generalizing number with
  | zero => rfl
  | succ width step => simp [bigEndian, step]

theorem bigEndian_injOn {width first second : Nat} (left : first < 256 ^ width)
    (right : second < 256 ^ width) (same : bigEndian width first = bigEndian width second) :
    first = second := by
  induction width generalizing first second with
  | zero => omega
  | succ width step =>
    rw [Nat.pow_succ] at left right
    obtain ⟨high, low⟩ := List.append_inj same (by simp)
    have quotient := step (by omega) (by omega) high
    have remainder : first % 256 = second % 256 := by
      have bytes := congrArg UInt8.toNat (List.singleton_inj.mp low)
      simpa using bytes
    omega

theorem delimits_bigEndian (width : Nat) :
    Delimits (fun number => number < 256 ^ width) (bigEndian width) :=
  .of_length width (fun number _ => length_bigEndian width number)
    fun _ _ left right same => bigEndian_injOn left right same

end Encoding

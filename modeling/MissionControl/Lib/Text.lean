import MissionControl.Lib.Encoding
import Mathlib.Data.String.Basic

/-! Texts made of keyed lines, and when they determine what was written. A value
ends at a character it cannot hold; a line that may be missing, or a list of any
length, ends where a key stands that is not its own. -/

namespace Encoding
variable {Symbol : Type} {α : Type}

namespace Delimits
variable {valid : α → Prop} {encode : α → List Symbol}

/-- A value up to a symbol that it does not hold. -/
theorem closed (last : Symbol) :
    Delimits (fun value : List Symbol => last ∉ value) (fun value => value ++ [last]) := by
  intro first second rest other left right same
  rw [List.append_assoc, List.append_assoc] at same
  induction first generalizing second with
  | nil =>
    cases second with
    | nil =>
      obtain ⟨-, tails⟩ := List.cons.inj same
      exact ⟨rfl, tails⟩
    | cons head tail =>
      obtain ⟨heads, -⟩ := List.cons.inj same
      exact absurd (heads ▸ List.mem_cons_self) right
  | cons head tail step =>
    cases second with
    | nil =>
      obtain ⟨heads, -⟩ := List.cons.inj same
      exact absurd (heads ▸ List.mem_cons_self) left
    | cons head' tail' =>
      obtain ⟨rfl, following⟩ := List.cons.inj same
      rw [List.mem_cons, not_or] at left right
      obtain ⟨rfl, tails⟩ := step left.2 right.2 following
      exact ⟨rfl, tails⟩

/-- The same text before every value. -/
theorem prefixed (opening : List Symbol) (delimits : Delimits valid encode) :
    Delimits valid fun value => opening ++ encode value := by
  intro first second rest other left right same
  rw [List.append_assoc, List.append_assoc] at same
  exact delimits left right (List.append_cancel_left same)

/-- The same text after every value. -/
theorem suffixed (closing : List Symbol) (delimits : Delimits valid encode) :
    Delimits valid fun value => encode value ++ closing := by
  intro first second rest other left right same
  rw [List.append_assoc, List.append_assoc] at same
  obtain ⟨values, tails⟩ := delimits left right same
  exact ⟨values, List.append_cancel_left tails⟩

variable {rest other : List Symbol}

/-- Values each behind a mark they do not hold are read from the end, whatever stands
before them. -/
theorem trailing (mark : Symbol) {first second : List (List Symbol)} (length : first.length = second.length)
    (left : ∀ value ∈ first, mark ∉ value) (right : ∀ value ∈ second, mark ∉ value)
    (same : rest ++ first.flatMap (mark :: ·) = other ++ second.flatMap (mark :: ·)) :
    first = second ∧ rest = other := by
  have backwards := congrArg List.reverse same
  have turned (values : List (List Symbol)) : (values.flatMap (mark :: ·)).reverse =
      (values.reverse.map List.reverse).flatMap fun value => value ++ [mark] := by
    rw [List.reverse_flatMap, List.flatMap_map]
    congr 1
    funext value
    simp
  rw [List.reverse_append, List.reverse_append, turned, turned] at backwards
  have plain {values : List (List Symbol)} (plain : ∀ value ∈ values, mark ∉ value) :
      ∀ value ∈ values.reverse.map List.reverse, mark ∉ value := by
    intro value member
    obtain ⟨source, among, rfl⟩ := List.mem_map.mp member
    rw [List.mem_reverse]
    exact plain source (List.mem_reverse.mp among)
  obtain ⟨values, rests⟩ := (closed mark).items (by simpa using length) (plain left) (plain right) backwards
  refine ⟨?_, List.reverse_inj.mp rests⟩
  have unturned := List.map_injective_iff.mpr List.reverse_injective values
  exact List.reverse_inj.mp unturned

/-- A part that may be missing, where what follows never reads as that part. -/
theorem optional (delimits : Delimits valid encode) {first second : Option α} (left : ∀ item ∈ first, valid item)
    (right : ∀ item ∈ second, valid item) (ends : Apart valid encode rest) (ends' : Apart valid encode other)
    (same : (first.map encode).getD [] ++ rest = (second.map encode).getD [] ++ other) :
    first = second ∧ rest = other := by
  cases first with
  | none =>
    cases second with
    | none => exact ⟨rfl, same⟩
    | some value => exact absurd same.symm (ends _ _ (right value rfl))
  | some value =>
    cases second with
    | none => exact absurd same (ends' _ _ (left value rfl))
    | some shown =>
      obtain ⟨rfl, tails⟩ := delimits (left value rfl) (right shown rfl) same
      exact ⟨rfl, tails⟩

/-- A list under a heading, left out with the heading when it is empty. -/
theorem headed (heading : List Symbol) (delimits : Delimits valid encode) {first second : List α}
    (left : ∀ item ∈ first, valid item) (right : ∀ item ∈ second, valid item) (ends : Apart valid encode rest)
    (ends' : Apart valid encode other) (apart : ∀ later, heading ++ later ≠ rest)
    (apart' : ∀ later, heading ++ later ≠ other)
    (same : (if first.isEmpty then [] else heading ++ first.flatMap encode) ++ rest =
      (if second.isEmpty then [] else heading ++ second.flatMap encode) ++ other) : first = second ∧ rest = other := by
  cases first with
  | nil =>
    cases second with
    | nil => exact ⟨rfl, same⟩
    | cons head tail =>
      simp only [List.isEmpty_nil, List.isEmpty_cons, ↓reduceIte, Bool.false_eq_true, List.nil_append,
        List.append_assoc] at same
      exact absurd same.symm (apart _)
  | cons head tail =>
    cases second with
    | nil =>
      simp only [List.isEmpty_nil, List.isEmpty_cons, ↓reduceIte, Bool.false_eq_true, List.nil_append,
        List.append_assoc] at same
      exact absurd same (apart' _)
    | cons head' tail' =>
      simp only [List.isEmpty_cons, ↓reduceIte, Bool.false_eq_true, List.append_assoc] at same
      exact delimits.terminated left right ends ends' (List.append_cancel_left same)

end Delimits

def Opens (mark : Symbol) (keys : List (List Symbol)) (stream : List Symbol) : Prop :=
  ∃ key ∈ keys, ∃ rest, stream = key ++ mark :: rest

theorem Opens.weaken {mark : Symbol} {keys more : List (List Symbol)} {stream : List Symbol}
    (opens : Opens mark keys stream) (subset : keys ⊆ more) : Opens mark more stream := by
  obtain ⟨key, member, rest⟩ := opens
  exact ⟨key, subset member, rest⟩

theorem Opens.ne {mark : Symbol} {key : List Symbol} {keys : List (List Symbol)} {stream : List Symbol}
    (plain : ∀ other ∈ key :: keys, mark ∉ other) (different : key ∉ keys) (opens : Opens mark keys stream)
    (rest : List Symbol) : key ++ mark :: rest ≠ stream := by
  obtain ⟨other, member, tail, rfl⟩ := opens
  intro same
  rw [List.append_cons, List.append_cons other] at same
  have keysEqual := Delimits.closed mark (plain key List.mem_cons_self)
    (plain other (List.mem_cons_of_mem _ member)) same
  exact different (keysEqual.1 ▸ member)

theorem intercalate_cons (mark : Symbol) (first : List Symbol) (rest : List (List Symbol)) :
    [mark].intercalate (first :: rest) = first ++ rest.flatMap (mark :: ·) := by
  induction rest generalizing first with
  | nil => simp
  | cons second rest step => rw [List.intercalate_cons_cons, step, List.flatMap_cons]; simp

theorem repr_injective : Function.Injective Nat.repr := by
  intro first second same
  rw [Nat.repr_eq_ofList_toDigits, Nat.repr_eq_ofList_toDigits] at same
  have digits := congrArg (fun text => Nat.ofDigitChars 10 text.toList 0) same
  simpa using digits

theorem isDigit_of_mem_repr {number : Nat} {character : Char} (member : character ∈ number.repr.toList) :
    character.isDigit = true := by
  rw [Nat.repr_eq_ofList_toDigits, String.toList_ofList] at member
  exact Nat.isDigit_of_mem_toDigits (by decide) (by decide) member

theorem utf8Len_le (characters : List Char) : String.utf8Len characters ≤ 4 * characters.length := by
  induction characters with
  | nil => simp
  | cons character characters step =>
    have := character.utf8Size_le_four
    simp only [String.utf8Len_cons, List.length_cons]
    omega

theorem utf8Len_narrow {characters : List Char} (narrow : ∀ character ∈ characters, character.utf8Size = 1) :
    String.utf8Len characters = characters.length := by
  induction characters with
  | nil => rfl
  | cons character characters step =>
    rw [List.forall_mem_cons] at narrow
    rw [String.utf8Len_cons, narrow.1, step narrow.2, List.length_cons]

theorem size_repr {number : Nat} (bound : number < 2 ^ 64) : number.repr.utf8ByteSize < 2 ^ 64 := by
  have short : number.repr.length ≤ 20 := (Nat.length_repr_le_iff (by decide)).mpr (by omega)
  have size := utf8Len_le number.repr.toList
  rw [String.utf8Len_toList, String.length_toList] at size
  omega

/-- A decimal number up to a mark that is no digit. -/
theorem delimits_repr (mark : Char) (digit : mark.isDigit = false) :
    Delimits (fun _ : Nat => True) (fun number => number.repr.toList ++ [mark]) := by
  have injective : Function.Injective fun number : Nat => number.repr.toList := by
    intro first second same
    exact repr_injective (String.toList_injective same)
  refine ((Delimits.closed mark).comap injective).weaken fun number _ member => ?_
  rw [isDigit_of_mem_repr member] at digit
  cases digit

end Encoding

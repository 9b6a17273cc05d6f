import Mathlib.Computability.Language

/-! Whether a text is made of given pieces, decided from left to right by the positions that a row
of pieces ends at. -/

namespace WordBreak
open scoped Computability
variable {α : Type} (pieces : List (List α)) (text : List α)

def language (pieces : List (List α)) : Language α := {piece | piece ∈ pieces}

def Stands (start : Nat) (piece : List α) : Prop :=
  start + piece.length ≤ text.length ∧ (text.drop start).take piece.length = piece

inductive Reach (bound : Nat) : Nat → Prop where
  | here : Reach bound 0
  | step {start : Nat} {piece : List α} (before : Reach bound start) (early : start < bound) (among : piece ∈ pieces)
      (stands : Stands text start piece) : Reach bound (start + piece.length)

variable {pieces text}

theorem Reach.mono {bound wider index : Nat} (reach : Reach pieces text bound index) (within : bound ≤ wider) :
    Reach pieces text wider index := by
  induction reach with
  | here => exact .here
  | step _ early among stands before => exact .step before (by omega) among stands

/-- One position further, what is new starts there. -/
theorem reach_succ {bound index : Nat} : Reach pieces text (bound + 1) index ↔ Reach pieces text bound index ∨
    (Reach pieces text bound bound ∧ ∃ piece ∈ pieces, Stands text bound piece ∧ index = bound + piece.length) := by
  constructor
  · intro reach
    induction reach with
    | here => exact .inl .here
    | @step start piece _ early among stands earlier =>
      by_cases last : start = bound
      · subst last
        refine .inr ⟨?_, piece, among, stands, rfl⟩
        exact earlier.elim id fun reached => reached.1
      · rcases earlier with reached | ⟨_, other, _, _, ends⟩
        · exact .inl (.step reached (by omega) among stands)
        · omega
  · rintro (reach | ⟨reach, piece, among, stands, rfl⟩)
    · exact reach.mono (Nat.le_succ bound)
    · exact .step (reach.mono (Nat.le_succ bound)) (Nat.lt_succ_self bound) among stands

theorem Reach.take {bound index : Nat} (reach : Reach pieces text bound index) : text.take index ∈ (language pieces)∗ := by
  induction reach with
  | here => exact Language.nil_mem_kstar _
  | @step start piece _ _ among stands before =>
    obtain ⟨row, flat, each⟩ := Language.mem_kstar.mp before
    refine Language.mem_kstar.mpr ⟨row ++ [piece], ?_, ?_⟩
    · rw [List.take_add, flat, stands.2, List.flatten_append, List.flatten_singleton]
    · intro other member
      rcases List.mem_append.mp member with earlier | last
      · exact each other earlier
      · rw [List.mem_singleton.mp last]
        exact among

theorem reach_row {row : List (List α)} (each : ∀ piece ∈ row, piece ∈ pieces) (opens : row.flatten <+: text) :
    Reach pieces text text.length row.flatten.length := by
  induction row using List.reverseRecOn with
  | nil => exact .here
  | append_singleton row piece reached =>
    rw [List.flatten_append, List.flatten_singleton] at opens ⊢
    obtain ⟨rest, flat⟩ := opens
    have before := reached (fun other member => each other (List.mem_append_left _ member))
      ⟨piece ++ rest, by rw [← flat, List.append_assoc]⟩
    rw [List.length_append]
    have total := congrArg List.length flat
    simp only [List.length_append] at total
    by_cases early : row.flatten.length < text.length
    · refine .step before early (each piece (by simp)) ⟨by omega, ?_⟩
      rw [← flat, List.append_assoc, List.drop_left, List.take_left]
    · have empty : piece.length = 0 := by omega
      rw [empty]
      exact before

theorem append_mem {first second : List α} (left : first ∈ (language pieces)∗) (right : second ∈ (language pieces)∗) :
    first ++ second ∈ (language pieces)∗ := by
  obtain ⟨before, rfl, each⟩ := Language.mem_kstar.mp left
  obtain ⟨after, rfl, every⟩ := Language.mem_kstar.mp right
  rw [← List.flatten_append]
  apply Language.join_mem_kstar
  intro piece among
  exact (List.mem_append.mp among).elim (each piece) (every piece)

theorem piece_mem {piece : List α} (among : piece ∈ pieces) : piece ∈ (language pieces)∗ :=
  Language.mem_kstar.mpr ⟨[piece], by simp, fun other same => by rwa [List.mem_singleton.mp same]⟩

theorem flatten_mem {texts : List (List α)} (each : ∀ text ∈ texts, text ∈ (language pieces)∗) :
    texts.flatten ∈ (language pieces)∗ := by
  induction texts with
  | nil => exact Language.nil_mem_kstar _
  | cons text texts rest =>
    rw [List.flatten_cons]
    exact append_mem (each text List.mem_cons_self) (rest fun other later => each other (List.mem_cons_of_mem _ later))

section
variable {β : Type} (encode : List α → List β)

/-- Encoding part by part neither makes nor breaks a row of pieces. -/
theorem encoded_iff (nil : encode [] = []) (append : ∀ first second, encode (first ++ second) = encode first ++ encode second)
    (injective : Function.Injective encode) : encode text ∈ (language (pieces.map encode))∗ ↔ text ∈ (language pieces)∗ := by
  have flat : ∀ row : List (List α), encode row.flatten = (row.map encode).flatten := by
    intro row
    induction row with
    | nil => exact nil
    | cons piece row rest => rw [List.flatten_cons, append, rest, List.map_cons, List.flatten_cons]
  constructor
  · intro member
    obtain ⟨row, same, each⟩ := Language.mem_kstar.mp member
    have decoded : ∃ texts : List (List α), texts.map encode = row ∧ ∀ piece ∈ texts, piece ∈ pieces := by
      clear same member
      induction row with
      | nil => exact ⟨[], rfl, by simp⟩
      | cons piece row rest =>
        obtain ⟨texts, rfl, every⟩ := rest fun other later => each other (List.mem_cons_of_mem _ later)
        obtain ⟨first, among, rfl⟩ := List.mem_map.mp (each piece List.mem_cons_self)
        exact ⟨first :: texts, rfl, List.forall_mem_cons.mpr ⟨among, every⟩⟩
    obtain ⟨texts, rfl, every⟩ := decoded
    rw [← flat] at same
    exact Language.mem_kstar.mpr ⟨texts, injective same, every⟩
  · intro member
    obtain ⟨row, rfl, each⟩ := Language.mem_kstar.mp member
    rw [flat]
    apply Language.join_mem_kstar
    intro piece among
    obtain ⟨first, member, rfl⟩ := List.mem_map.mp among
    exact List.mem_map_of_mem (each first member)

end

/-- A pattern in two texts is in one of them, or lies across the seam. -/
theorem infix_seam {pattern first second : List α} (within : pattern <:+: first ++ second) :
    pattern <:+: first ∨ pattern <:+: second ∨
      ∃ head tail, pattern = head ++ tail ∧ head ≠ [] ∧ tail ≠ [] ∧ head <:+ first ∧ tail <+: second := by
  obtain ⟨before, after, split⟩ := within
  rw [List.append_assoc, List.append_eq_append_iff] at split
  rcases split with ⟨middle, rfl, rest⟩ | ⟨middle, rfl, rfl⟩
  · rcases List.append_eq_append_iff.mp rest with ⟨spare, rfl, rfl⟩ | ⟨tail, rfl, rfl⟩
    · exact .inl (List.infix_append' _ _ _)
    · by_cases unmet : middle = []
      · subst unmet
        exact .inr (.inl (List.prefix_append _ _).isInfix)
      by_cases whole : tail = []
      · subst whole
        rw [List.append_nil]
        exact .inl (List.suffix_append _ _).isInfix
      · exact .inr (.inr ⟨middle, tail, rfl, unmet, whole, List.suffix_append _ _, List.prefix_append _ _⟩)
  · exact .inr (.inl (List.infix_append' _ _ _))

/-- Three letters that no piece holds, the first two of which end none and the last two of which
begin none, are in no row of pieces. -/
theorem no_triple {a b c : α} (wide : ∀ piece ∈ pieces, 2 ≤ piece.length) (inside : ∀ piece ∈ pieces, ¬[a, b, c] <:+: piece)
    (ending : ∀ piece ∈ pieces, ¬[a, b] <:+ piece) (starting : ∀ piece ∈ pieces, ¬[b, c] <+: piece) {row : List (List α)}
    (each : ∀ piece ∈ row, piece ∈ pieces) : ¬[a, b, c] <:+: row.flatten := by
  induction row with
  | nil => simp
  | cons piece row rest =>
    obtain ⟨among, later⟩ := List.forall_mem_cons.mp each
    intro within
    rcases infix_seam within with own | other | ⟨head, tail, split, some, more, ends, begins⟩
    · exact inside piece among own
    · exact rest later other
    · match head, split with
      | [], _ => exact some rfl
      | [_], split =>
        obtain ⟨rfl, rfl⟩ := List.cons.inj split
        cases row with
        | nil => simp at begins
        | cons next row =>
          have opens := (List.forall_mem_cons.mp later).1
          rw [List.flatten_cons] at begins
          exact starting next opens (List.prefix_of_prefix_length_le begins (List.prefix_append _ _) (wide next opens))
      | [_, _], split =>
        have first := (List.cons.inj split).1
        have second := (List.cons.inj (List.cons.inj split).2).1
        rw [← first, ← second] at ends
        exact ending piece among ends
      | _ :: _ :: _ :: head, split =>
        have lengths := congrArg List.length split
        have positive := List.length_pos_of_ne_nil more
        simp only [List.length_cons, List.length_append, List.length_nil] at lengths
        omega

variable [DecidableEq α] (pieces : List (List α)) (text : List α)

instance (start : Nat) (piece : List α) : Decidable (Stands text start piece) :=
  inferInstanceAs (Decidable (_ ∧ _))

def mark (start : Nat) (reachable : List Bool) (piece : List α) : List Bool :=
  if Stands text start piece then reachable.set (start + piece.length) true else reachable

def advance (reachable : List Bool) (start : Nat) : List Bool :=
  if reachable.getD start false then pieces.foldl (mark text start) reachable else reachable

def reachable (steps : Nat) : List Bool :=
  (List.range steps).foldl (advance pieces text) (true :: List.replicate text.length false)

def splits : Bool := (reachable pieces text text.length).getD text.length false

section
variable {pieces text}

@[simp] theorem length_mark (start : Nat) (marks : List Bool) (piece : List α) :
    (mark text start marks piece).length = marks.length := by
  unfold mark
  split <;> simp

variable {marks : List Bool}

theorem mark_iff {start : Nat} (sized : marks.length = text.length + 1) {piece : List α} {index : Nat} :
    (mark text start marks piece).getD index false = true ↔
      marks.getD index false = true ∨ (Stands text start piece ∧ index = start + piece.length) := by
  unfold mark
  split
  next stands =>
    have bound : start + piece.length < marks.length := by
      have := stands.1
      omega
    by_cases same : index = start + piece.length
    · subst same
      simp [stands, List.getD_eq_getElem?_getD, List.getElem?_set_self bound]
    · simp [stands, same, List.getD_eq_getElem?_getD, List.getElem?_set_ne (Ne.symm same)]
  next absent => simp [absent]

theorem marks_iff {start : Nat} (pieces : List (List α)) (sized : marks.length = text.length + 1) {index : Nat} :
    (pieces.foldl (mark text start) marks).getD index false = true ↔ marks.getD index false = true ∨
      ∃ piece ∈ pieces, Stands text start piece ∧ index = start + piece.length := by
  induction pieces generalizing marks with
  | nil => simp
  | cons piece pieces rest =>
    rw [List.foldl_cons, rest ((length_mark _ _ _).trans sized), mark_iff sized]
    simp only [List.mem_cons, exists_eq_or_imp, or_assoc]

theorem length_marks {start : Nat} (pieces : List (List α)) (marks : List Bool) :
    (pieces.foldl (mark text start) marks).length = marks.length := by
  induction pieces generalizing marks with
  | nil => rfl
  | cons piece pieces rest => rw [List.foldl_cons, rest, length_mark]

theorem length_advance (marks : List Bool) (start : Nat) : (advance pieces text marks start).length = marks.length := by
  unfold advance
  split
  · exact length_marks pieces marks
  · rfl

theorem advance_iff (sized : marks.length = text.length + 1) {start index : Nat} :
    (advance pieces text marks start).getD index false = true ↔ marks.getD index false = true ∨
      (marks.getD start false = true ∧ ∃ piece ∈ pieces, Stands text start piece ∧ index = start + piece.length) := by
  unfold advance
  split
  next reached => rw [marks_iff pieces sized]; simp only [reached, true_and]
  next missed =>
    rw [Bool.not_eq_true] at missed
    simp only [missed, Bool.false_eq_true, false_and, or_false]

end

variable {pieces text}

theorem reachable_iff (steps : Nat) : (reachable pieces text steps).length = text.length + 1 ∧
    ∀ index, (reachable pieces text steps).getD index false = true ↔ Reach pieces text steps index := by
  induction steps with
  | zero =>
    refine ⟨by simp [reachable], fun index => ?_⟩
    have only : Reach pieces text 0 index ↔ index = 0 := by
      constructor
      · intro reach
        cases reach with
        | here => rfl
        | step _ early => exact absurd early (Nat.not_lt_zero _)
      · rintro rfl
        exact .here
    rw [only]
    cases index with
    | zero => simp [reachable]
    | succ index =>
      simp only [reachable, List.range_zero, List.foldl_nil, List.getD_eq_getElem?_getD, List.getElem?_cons_succ,
        List.getElem?_replicate]
      split <;> simp
  | succ steps marked =>
    obtain ⟨sized, marks⟩ := marked
    have next : reachable pieces text (steps + 1) = advance pieces text (reachable pieces text steps) steps := by
      rw [reachable, List.range_succ, List.foldl_append]
      rfl
    refine ⟨by rw [next, length_advance, sized], fun index => ?_⟩
    rw [next, advance_iff sized, reach_succ, marks, marks]

theorem splits_iff : splits pieces text = true ↔ text ∈ (language pieces)∗ := by
  rw [splits, (reachable_iff text.length).2]
  constructor
  · intro reach
    have whole := reach.take
    rwa [List.take_length] at whole
  · intro member
    obtain ⟨row, flat, each⟩ := Language.mem_kstar.mp member
    have opens : row.flatten <+: text := by rw [← flat]
    have reach := reach_row each opens
    rwa [← flat] at reach

end WordBreak

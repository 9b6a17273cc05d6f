import Mathlib.Data.List.Basic

/-! Streams read in pieces. A reader hands out what a stream holds in pieces of its own
choosing, and then its end or its failure. -/

namespace Streaming
variable {State Symbol Failure : Type}

/-- The symbols a reader still has to deliver, and the failure that stands in for the end. -/
structure Contents (Symbol Failure : Type) where
  symbols : List Symbol
  failure : Option Failure

inductive Delivers (size : Nat) : Contents Symbol Failure → Except Failure (List Symbol) → Contents Symbol Failure → Prop where
  | piece {head tail : List Symbol} {failure : Option Failure} (some : head ≠ []) (fits : head.length ≤ size) :
      Delivers size ⟨head ++ tail, failure⟩ (.ok head) ⟨tail, failure⟩
  | ended : Delivers size ⟨[], none⟩ (.ok []) ⟨[], none⟩
  | failed {failure : Failure} {later : Contents Symbol Failure} :
      Delivers size ⟨[], some failure⟩ (.error failure) later

abbrev Read (State Symbol Failure : Type) := Nat → State → Except Failure (List Symbol) × State

def Serves (read : Read State Symbol Failure) (contents : State → Contents Symbol Failure) : Prop :=
  ∀ size state, 0 < size → Delivers size (contents state) (read size state).1 (contents (read size state).2)

/-- The loop that reads to the end through a buffer of the size. -/
def drain (read : Read State Symbol Failure) (size : Nat) : Nat → State → Except Failure (List Symbol)
  | 0, _ => .ok []
  | fuel + 1, state =>
    match read size state with
    | (.ok [], _) => .ok []
    | (.ok head, later) => (head ++ ·) <$> drain read size fuel later
    | (.error failure, _) => .error failure

def Contents.all (contents : Contents Symbol Failure) : Except Failure (List Symbol) :=
  match contents.failure with
  | some failure => .error failure
  | none => .ok contents.symbols

/-- However a reader cuts a stream, reading to the end gives the whole of it. -/
theorem drain_eq {read : Read State Symbol Failure} {contents : State → Contents Symbol Failure} {size : Nat}
    (serves : Serves read contents) (room : 0 < size) {fuel : Nat} {state : State}
    (fueled : (contents state).symbols.length < fuel) : drain read size fuel state = (contents state).all := by
  induction fuel generalizing state with
  | zero => exact absurd fueled (Nat.not_lt_zero _)
  | succ fuel ih =>
    have served := serves size state room
    unfold drain
    generalize read size state = answer at served
    obtain ⟨outcome, later⟩ := answer
    generalize held : contents state = before at served fueled
    generalize after : contents later = rest at served
    cases served with
    | ended => rfl
    | failed => rfl
    | @piece head tail failure some _ =>
      have shorter : (contents later).symbols.length < fuel := by
        rw [after]
        have := List.length_pos_iff.mpr some
        simp only [List.length_append] at fueled
        simp only
        omega
      have onward := ih shorter
      rw [after] at onward
      cases head with
      | nil => exact absurd rfl some
      | cons first others =>
        simp only [onward]
        cases failure <;> rfl

def Contents.capped (contents : Contents Symbol Failure) (overflow : Failure) (ceiling : Nat) : Contents Symbol Failure :=
  if contents.symbols.length ≤ ceiling then contents else ⟨contents.symbols.take ceiling, some overflow⟩

theorem capped_of_le {contents : Contents Symbol Failure} {overflow : Failure} {ceiling : Nat}
    (fits : contents.symbols.length ≤ ceiling) : contents.capped overflow ceiling = contents := if_pos fits

end Streaming

import Mathlib.Order.Lattice
import Mathlib.Data.List.Induction

/-! Levels folded upward over a list of items, with a note of the item that last raised the
level. -/

namespace Raising
variable {Item Level Note : Type} [SemilatticeSup Level] (level : Item → Level)

def joined (start : Level) (items : List Item) : Level := items.foldl (fun held item => held ⊔ level item) start

variable {level} {start : Level} {items : List Item}

theorem joined_append (first second : List Item) :
    joined level start (first ++ second) = joined level (joined level start first) second := List.foldl_append

theorem start_le_joined : start ≤ joined level start items := by
  induction items generalizing start with
  | nil => exact le_rfl
  | cons item items grown => exact le_sup_left.trans grown

variable [DecidableEq Level] (level) (note : Item → Level → Note)

def raise (held : Level × Option Note) (item : Item) : Level × Option Note :=
  let next := held.1 ⊔ level item
  if next ≠ held.1 then (next, some (note item next)) else held

structure Raised (start : Level) (items : List Item) (held : Level × Option Note) : Prop where
  ends : held.1 = joined level start items
  unforced : held.2 = none ↔ held.1 = start
  forced : ∀ named, held.2 = some named → ∃ before item after, items = before ++ item :: after ∧
    named = note item held.1 ∧ joined level start before ≠ held.1 ∧
      joined level start before ⊔ level item = held.1

variable {level note}

theorem Raised.step {held : Level × Option Note} (raised : Raised level note start items held) (item : Item) :
    Raised level note start (items ++ [item]) (raise level note held item) := by
  have next : joined level start (items ++ [item]) = held.1 ⊔ level item := by
    rw [joined_append, ← raised.ends]
    rfl
  simp only [raise]
  split
  next risen =>
    have above : start ≤ held.1 := by
      rw [raised.ends]
      exact start_le_joined
    refine ⟨next.symm, ⟨nofun, fun same => ?_⟩, ?_⟩
    · exact absurd (le_antisymm (same.le.trans above) le_sup_left) risen
    · rintro named ⟨rfl⟩
      refine ⟨items, item, [], rfl, rfl, ?_, ?_⟩
      · rw [← raised.ends]
        exact fun same => risen same.symm
      · rw [← raised.ends]
  next still =>
    refine ⟨(next.trans (not_not.mp still)).symm, raised.unforced, fun named noted => ?_⟩
    obtain ⟨before, cause, after, rfl, same⟩ := raised.forced named noted
    exact ⟨before, cause, after ++ [item], by simp, same⟩

theorem raised_fold (items : List Item) : Raised level note start items (items.foldl (raise level note) (start, none)) := by
  induction items using List.reverseRecOn with
  | nil => exact ⟨rfl, ⟨fun _ => rfl, fun _ => rfl⟩, nofun⟩
  | append_singleton items item raised =>
    rw [List.foldl_append]
    exact raised.step item

end Raising

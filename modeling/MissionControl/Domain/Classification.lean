import MissionControl.Domain.Value

/-! Data classifications ordered by how much they restrict. An unclassified
value restricts the most, so combining two classifications is taking the more
restrictive one. -/

namespace MissionControl

inductive DataClassification where
  | «public» | internal | confidential | restricted | unclassified
  deriving DecidableEq, Repr

namespace DataClassification

def restrictionRank : DataClassification → Nat
  | .«public» => 0
  | .internal => 1
  | .confidential => 2
  | .restricted => 3
  | .unclassified => 4

def combine (first second : DataClassification) : DataClassification :=
  if first = .unclassified ∨ second = .unclassified then .unclassified
  else if first.restrictionRank ≥ second.restrictionRank then first
  else second

def asPersisted : DataClassification → String
  | .«public» => "public"
  | .internal => "internal"
  | .confidential => "confidential"
  | .restricted => "restricted"
  | .unclassified => "unclassified"

theorem asPersisted_injective : Function.Injective asPersisted := by
  intro first second same
  cases first <;> cases second <;> simp_all [asPersisted]

theorem restrictionRank_injective : Function.Injective restrictionRank := by
  intro first second same
  cases first <;> cases second <;> simp_all [restrictionRank]

instance : LinearOrder DataClassification :=
  LinearOrder.lift' restrictionRank restrictionRank_injective

theorem combine_eq_sup (first second : DataClassification) :
    first.combine second = first ⊔ second := by
  cases first <;> cases second <;> decide

theorem combine_eq_right {first second : DataClassification} :
    first.combine second = second ↔ first ≤ second := by
  rw [combine_eq_sup, sup_eq_right]

theorem combine_eq_left {first second : DataClassification} :
    first.combine second = first ↔ second ≤ first := by
  rw [combine_eq_sup, sup_eq_left]

theorem le_combine_left (first second : DataClassification) : first ≤ first.combine second := by
  rw [combine_eq_sup]
  exact le_sup_left

theorem le_combine_right (first second : DataClassification) : second ≤ first.combine second := by
  rw [combine_eq_sup]
  exact le_sup_right

theorem combine_comm (first second : DataClassification) :
    first.combine second = second.combine first := by
  simp only [combine_eq_sup, sup_comm]

theorem unclassified_combine (classification : DataClassification) :
    combine .unclassified classification = .unclassified := by
  simp [combine]

/-- The fold the source writes as `.fold(initial, |total, item| total.combine(item))`. -/
def combineAll (initial : DataClassification) (rest : List DataClassification) : DataClassification :=
  rest.foldl combine initial

@[simp] theorem combineAll_nil (initial : DataClassification) : combineAll initial [] = initial := rfl

@[simp] theorem combineAll_cons (initial head : DataClassification) (tail : List DataClassification) :
    combineAll initial (head :: tail) = combineAll (initial.combine head) tail := rfl

theorem combineAll_append (initial : DataClassification) (first second : List DataClassification) :
    combineAll initial (first ++ second) = combineAll (combineAll initial first) second := by
  simp [combineAll]

theorem combineAll_le_iff {initial bound : DataClassification} {rest : List DataClassification} :
    combineAll initial rest ≤ bound ↔ initial ≤ bound ∧ ∀ item ∈ rest, item ≤ bound := by
  induction rest generalizing initial with
  | nil => simp
  | cons head tail rest =>
    rw [combineAll_cons, rest, combine_eq_sup, sup_le_iff, List.forall_mem_cons, and_assoc]

theorem le_combineAll (initial : DataClassification) (rest : List DataClassification) :
    initial ≤ combineAll initial rest :=
  (combineAll_le_iff.mp le_rfl).1

theorem mem_le_combineAll {initial item : DataClassification} {rest : List DataClassification}
    (member : item ∈ rest) : item ≤ combineAll initial rest :=
  (combineAll_le_iff.mp le_rfl).2 item member

end DataClassification

end MissionControl

import Mathlib.Data.List.Sort
import Mathlib.Data.List.Perm.Basic

/-! Stable sorting of a list, by a key of its items or by a comparison of two. -/

namespace Sorting
variable {α β : Type}

section
variable [LinearOrder β] (key : α → β)

theorem sorted (items : List α) :
    (items.insertionSort fun left right => key left ≤ key right).Pairwise fun left right => key left ≤ key right := by
  have total : Std.Total fun left right : α => key left ≤ key right := ⟨fun left right => le_total _ _⟩
  have trans : IsTrans α fun left right => key left ≤ key right := ⟨fun _ _ _ => le_trans⟩
  exact List.pairwise_insertionSort _ items

theorem again (items : List α) :
    (items.insertionSort fun left right => key left ≤ key right).insertionSort
      (fun left right => key left ≤ key right) = items.insertionSort fun left right => key left ≤ key right :=
  (sorted key items).insertionSort_eq

/-- Items told apart by their keys are sorted alike in every order. -/
theorem insertionSort_eq_of_perm {items others : List α} (distinct : (items.map key).Nodup)
    (permuted : items.Perm others) : (items.insertionSort fun left right => key left ≤ key right) =
      others.insertionSort fun left right => key left ≤ key right := by
  have same := ((List.perm_insertionSort (fun left right => key left ≤ key right) items).trans permuted).trans
    (List.perm_insertionSort (fun left right => key left ≤ key right) others).symm
  refine same.eq_of_pairwise ?_ (sorted key items) (sorted key others)
  intro left right first second forward backward
  have firstMember : left ∈ items := (List.mem_insertionSort _).mp first
  have secondMember : right ∈ items := permuted.mem_iff.mpr ((List.mem_insertionSort _).mp second)
  exact List.inj_on_of_nodup_map distinct firstMember secondMember (le_antisymm forward backward)

end

/-! Sorting by a comparison, which must be transitive. -/

def comparing (compare : β → β → Ordering) (key : α → β) (left right : α) : Ordering := compare (key left) (key right)

instance (compare : β → β → Ordering) [Std.TransCmp compare] (key : α → β) : Std.TransCmp (comparing compare key) where
  eq_swap {_ _} := @Std.OrientedCmp.eq_swap _ compare _ _ _
  isLE_trans {_ _ _} := @Std.TransCmp.isLE_trans _ compare _ _ _ _

section
variable (compare : α → α → Ordering)

def sortBy (items : List α) : List α := items.insertionSort fun left right => (compare left right).isLE = true

theorem sortBy_perm (items : List α) : (sortBy compare items).Perm items := List.perm_insertionSort _ items

@[simp] theorem mem_sortBy {item : α} {items : List α} : item ∈ sortBy compare items ↔ item ∈ items :=
  (sortBy_perm compare items).mem_iff

@[simp] theorem length_sortBy (items : List α) : (sortBy compare items).length = items.length :=
  (sortBy_perm compare items).length_eq

def Separates (items : List α) : Prop :=
  ∀ left ∈ items, ∀ right ∈ items, compare left right = .eq → left = right

variable {compare} {items others : List α}

theorem Separates.mono (separates : Separates compare items) (fewer : others ⊆ items) : Separates compare others :=
  fun left first right second => separates left (fewer first) right (fewer second)

variable [Std.TransCmp compare]

private theorem swapped (compare : α → α → Ordering) [Std.OrientedCmp compare] (left right : α) :
    compare left right = (compare right left).swap := Std.OrientedCmp.eq_swap

theorem sortBy_sorted (items : List α) :
    (sortBy compare items).Pairwise fun left right => (compare left right).isLE = true := by
  have total : Std.Total fun left right : α => (compare left right).isLE = true := by
    constructor
    intro left right
    rw [swapped compare right left]
    cases compare left right <;> simp
  have trans : IsTrans α fun left right => (compare left right).isLE = true := ⟨fun _ _ _ => Std.TransCmp.isLE_trans⟩
  exact List.pairwise_insertionSort _ items

theorem head_sortBy {first : α} (shown : (sortBy compare items).head? = some first) :
    first ∈ items ∧ ∀ item ∈ items, (compare first item).isLE = true := by
  obtain ⟨rest, listed⟩ := List.head?_eq_some_iff.mp shown
  refine ⟨(mem_sortBy compare).mp (by simp [listed]), ?_⟩
  intro item member
  have ordered : (sortBy compare items).Pairwise _ := sortBy_sorted items
  rw [← mem_sortBy compare, listed, List.mem_cons] at member
  rw [listed, List.pairwise_cons] at ordered
  rcases member with rfl | later
  · exact Std.ReflCmp.isLE_rfl
  · exact ordered.1 item later

omit [Std.TransCmp compare] in
theorem head_sortBy_none : (sortBy compare items).head? = none ↔ items = [] := by
  rw [List.head?_eq_none_iff]
  constructor
  · intro empty
    have same := sortBy_perm compare items
    rw [empty] at same
    exact same.symm.eq_nil
  · rintro rfl
    rfl

theorem sortBy_eq_of_perm (separates : Separates compare items) (permuted : items.Perm others) :
    sortBy compare items = sortBy compare others := by
  have same := ((sortBy_perm compare items).trans permuted).trans (sortBy_perm compare others).symm
  refine same.eq_of_pairwise ?_ (sortBy_sorted items) (sortBy_sorted others)
  intro left right first second forward backward
  have firstMember : left ∈ items := by simpa using first
  have secondMember : right ∈ items := permuted.mem_iff.mpr (by simpa using second)
  exact separates left firstMember right secondMember (Std.OrientedCmp.isLE_antisymm forward backward)

/-- Sorting fewer items leaves out of the sorted list what was left out. -/
theorem filter_sortBy (separates : Separates compare items) (admits : α → Bool) :
    (sortBy compare items).filter admits = sortBy compare (items.filter admits) := by
  have same := ((sortBy_perm compare items).filter admits).trans (sortBy_perm compare (items.filter admits)).symm
  refine same.eq_of_pairwise ?_ ((sortBy_sorted items).filter admits) (sortBy_sorted _)
  intro left right first second forward backward
  have firstMember : left ∈ items := by simpa using List.mem_of_mem_filter first
  have secondMember : right ∈ items := by
    rw [mem_sortBy] at second
    exact List.mem_of_mem_filter second
  exact separates left firstMember right secondMember (Std.OrientedCmp.isLE_antisymm forward backward)

theorem before_sortBy (separates : Separates compare items) (distinct : items.Nodup) {left right : α} :
    [left, right].Sublist (sortBy compare items) ↔ left ∈ items ∧ right ∈ items ∧ compare left right = .lt := by
  have distinctSorted := (sortBy_perm compare items).nodup_iff.mpr distinct
  constructor
  · intro before
    have first : left ∈ items := by simpa using before.subset (List.mem_cons_self)
    have second : right ∈ items := by simpa using before.subset (List.mem_cons_of_mem _ List.mem_cons_self)
    have ordered : (compare left right).isLE = true := by simpa using (sortBy_sorted items).sublist before
    have different : left ≠ right := by simpa using distinctSorted.sublist before
    refine ⟨first, second, ?_⟩
    cases shown : compare left right with
    | lt => rfl
    | eq => exact absurd (separates left first right second shown) different
    | gt => simp [shown] at ordered
  · intro ⟨first, second, less⟩
    obtain ⟨earlier, later, split⟩ := List.mem_iff_append.mp ((mem_sortBy compare).mpr first)
    have placed := (mem_sortBy compare).mpr second
    have ordered : (sortBy compare items).Pairwise _ := sortBy_sorted items
    rw [split] at placed ordered ⊢
    rw [List.mem_append, List.mem_cons] at placed
    rcases placed with before | same | after
    · have reversed := (List.pairwise_append.mp ordered).2.2 right before left List.mem_cons_self
      rw [swapped compare right left, less] at reversed
      cases reversed
    · subst same
      have equal : compare right right = .eq := Std.ReflCmp.compare_self
      rw [equal] at less
      cases less
    · have shown : [left, right].Sublist (left :: later) := (List.singleton_sublist.mpr after).cons_cons left
      exact shown.trans (List.sublist_append_right earlier _)

end

variable {compare : α → α → Ordering} {items : List α}

/-- A list without repetitions has a pair in one order only. -/
theorem pair_once (distinct : items.Nodup) {first second : α} (before : [first, second].Sublist items) :
    ¬[second, first].Sublist items := by
  induction items with
  | nil => cases before
  | cons head tail step =>
    obtain ⟨absent, rest⟩ := List.nodup_cons.mp distinct
    intro after
    cases before with
    | cons _ before =>
      cases after with
      | cons _ after => exact step rest before after
      | cons_cons _ after => exact absent (before.subset (List.mem_cons_of_mem _ List.mem_cons_self))
    | cons_cons _ before =>
      cases after with
      | cons _ after => exact absent (after.subset (List.mem_cons_of_mem _ List.mem_cons_self))
      | cons_cons _ after => exact absent (before.subset List.mem_cons_self)

variable [Std.TransCmp compare]

/-- The sort is stable: a pair that need not be swapped keeps its order. -/
theorem pair_sortBy {first second : α} (ordered : (compare first second).isLE = true)
    (before : [first, second].Sublist items) : [first, second].Sublist (sortBy compare items) := by
  have total : Std.Total fun left right : α => (compare left right).isLE = true := by
    constructor
    intro left right
    rw [@Std.OrientedCmp.eq_swap _ compare _ right left]
    cases compare left right <;> simp
  have trans : IsTrans α fun left right => (compare left right).isLE = true := ⟨fun _ _ _ => Std.TransCmp.isLE_trans⟩
  exact List.pair_sublist_insertionSort ordered before

/-- A list without repetitions sorts alike in every order exactly when no two of its items tie. -/
theorem sortBy_order_free (distinct : items.Nodup) :
    (∀ others, items.Perm others → sortBy compare items = sortBy compare others) ↔ Separates compare items := by
  constructor
  · intro free left first right second tie
    by_contra different
    obtain ⟨earlier, later, rfl⟩ := List.append_of_mem first
    have brought := @List.perm_middle α left earlier later
    have other : right ∈ earlier ++ later := by
      have among := brought.mem_iff.mp second
      exact (List.mem_cons.mp among).resolve_left (Ne.symm different)
    obtain ⟨front, back, split⟩ := List.append_of_mem other
    rw [split] at brought
    have leftFirst := brought.trans (List.Perm.cons left (@List.perm_middle α right front back))
    have rightFirst := leftFirst.trans (List.Perm.swap right left (front ++ back))
    have forwards : [left, right].Sublist (sortBy compare (left :: right :: (front ++ back))) :=
      pair_sortBy (by rw [tie]; rfl) (by simp)
    have backwards : [right, left].Sublist (sortBy compare (right :: left :: (front ++ back))) := by
      refine pair_sortBy ?_ (by simp)
      rw [@Std.OrientedCmp.eq_swap _ compare _ right left, tie]
      rfl
    rw [← free _ leftFirst] at forwards
    rw [← free _ rightFirst] at backwards
    exact pair_once ((sortBy_perm _ _).nodup_iff.mpr distinct) forwards backwards
  · intro separates others permuted
    exact sortBy_eq_of_perm separates permuted

end Sorting

import Mathlib.Data.List.Nodup
import Mathlib.Data.List.Perm.Basic
import Mathlib.Tactic.Linarith

/-! Lists in which an item's entries stand once for each way that leads to the item. -/

namespace Repeats
variable {Item Way Entry : Type} (ways : Item → List Way) (entries : Item → List Entry)

def repeated (items : List Item) : List Entry := items.flatMap fun item => (ways item).flatMap fun _ => entries item

def once (items : List Item) : List Entry := (items.filter fun item => !(ways item).isEmpty).flatMap entries

variable {ways entries} {items : List Item}

theorem once_cons (item : Item) :
    once ways entries (item :: items) = (if (ways item).isEmpty then [] else entries item) ++ once ways entries items := by
  unfold once
  rw [List.filter_cons]
  cases (ways item).isEmpty <;> rfl

theorem length_repeat (item : Item) :
    ((ways item).flatMap fun _ => entries item).length = (ways item).length * (entries item).length := by
  induction ways item with
  | nil => simp
  | cons way rest grown =>
    rw [List.flatMap_cons, List.length_append, grown, List.length_cons, Nat.succ_mul, Nat.add_comm]

/-- An item that is reached is reached at least once. -/
theorem length_entries_le (item : Item) :
    (if (ways item).isEmpty then [] else entries item).length ≤ (ways item).length * (entries item).length := by
  cases ways item with
  | nil => simp
  | cons way rest =>
    simp only [List.isEmpty_cons, Bool.false_eq_true, if_false, List.length_cons, Nat.succ_mul]
    exact Nat.le_add_left _ _

theorem length_once_le : (once ways entries items).length ≤ (repeated ways entries items).length := by
  induction items with
  | nil => exact le_rfl
  | cons item items shorter =>
    rw [once_cons, repeated, List.flatMap_cons, List.length_append, List.length_append, length_repeat]
    exact Nat.add_le_add (length_entries_le item) shorter

/-- Where no item with entries is reached twice, nothing is repeated. -/
theorem repeated_eq_once (single : ∀ item ∈ items, entries item ≠ [] → (ways item).length ≤ 1) :
    repeated ways entries items = once ways entries items := by
  induction items with
  | nil => rfl
  | cons item items same =>
    rw [once_cons, repeated, List.flatMap_cons, ← repeated, same fun other later => single other (List.mem_cons_of_mem _ later)]
    congr 1
    by_cases none : entries item = []
    · simp [none]
    · have bound := single item List.mem_cons_self none
      match listed : ways item, bound with
      | [], _ => rfl
      | [_], _ => simp
      | _ :: _ :: _, bound => simp at bound

/-- And where some item is, there are more entries. -/
theorem single_of_length (fewer : (repeated ways entries items).length ≤ (once ways entries items).length) :
    ∀ item ∈ items, entries item ≠ [] → (ways item).length ≤ 1 := by
  induction items with
  | nil => exact fun _ among => nomatch among
  | cons head items single =>
    have rest : (once ways entries items).length ≤ (repeated ways entries items).length := length_once_le
    rw [once_cons, repeated, List.flatMap_cons, ← repeated, List.length_append, List.length_append, length_repeat] at fewer
    intro item among some
    rcases List.mem_cons.mp among with rfl | later
    · by_contra twice
      have entry : 0 < (entries item).length := List.length_pos_of_ne_nil some
      have reached : (ways item).isEmpty = false := by
        cases listed : ways item with
        | nil => simp [listed] at twice
        | cons => rfl
      rw [reached] at fewer
      simp only [Bool.false_eq_true, if_false] at fewer
      nlinarith
    · refine single ?_ item later some
      have first : (if (ways head).isEmpty then [] else entries head).length ≤
          (ways head).length * (entries head).length := length_entries_le head
      omega

/-- Entries that do not repeat within an item do not repeat under the items' keys, if those are
distinct. -/
theorem nodup_keyed {Key : Type} {key : Item → Key} (keys : (items.map key).Nodup)
    (within : ∀ item ∈ items, (entries item).Nodup) :
    (items.flatMap fun item => (entries item).map (Prod.mk (key item))).Nodup := by
  rw [List.nodup_flatMap]
  refine ⟨fun item member => (within item member).map fun _ _ same => (Prod.mk.inj same).2, ?_⟩
  refine (List.pairwise_map.mp keys).imp fun {one other} different => ?_
  intro pair first second
  obtain ⟨_, _, rfl⟩ := List.mem_map.mp first
  obtain ⟨_, _, same⟩ := List.mem_map.mp second
  exact different (Prod.mk.inj same).1.symm

section
variable {First Second : Type}

/-- Two loops, one in the other, give the same entries in another order when exchanged. -/
theorem exchange (outer : List First) (inner : List Second) (give : First → Second → List Entry) :
    (outer.flatMap fun one => inner.flatMap (give one)).Perm (inner.flatMap fun other => outer.flatMap (give · other)) := by
  induction outer with
  | nil =>
    have none : (inner.flatMap fun _ => ([] : List Entry)) = [] := List.flatMap_eq_nil_iff.mpr fun _ _ => rfl
    simp only [List.flatMap_nil, none, List.Perm.refl]
  | cons one rest same =>
    simp only [List.flatMap_cons]
    exact (same.append_left _).trans (List.flatMap_append_perm inner (give one) _)

theorem flatMap_filter (kept : Second → Bool) (give : Second → List Entry) (items : List Second) :
    (items.filter kept).flatMap give = items.flatMap fun item => if kept item then give item else [] := by
  induction items with
  | nil => rfl
  | cons item items same =>
    rw [List.filter_cons, List.flatMap_cons, ← same]
    cases kept item <;> rfl

/-- The items a way leads to, way by way, are the items, as often as ways lead to them. -/
theorem ways_repeated (all : List Way) (leads : Way → Item → Bool) (items : List Item) :
    (all.flatMap fun way => (items.filter (leads way)).flatMap entries).Perm
      (repeated (fun item => all.filter (leads · item)) entries items) := by
  simp only [repeated, flatMap_filter]
  exact exchange all items fun way item => if leads way item then entries item else []

end

variable {give : Item → List Entry} {own : Item → Entry → Bool}

/-- The entries of one item among those of all, where no entry is another item's. -/
theorem filter_own {item : Item} {earlier later : List Item} (mine : ∀ entry ∈ give item, own item entry = true)
    (before : ∀ other ∈ earlier, ∀ entry ∈ give other, own item entry = false)
    (after : ∀ other ∈ later, ∀ entry ∈ give other, own item entry = false) :
    ((earlier ++ item :: later).flatMap give).filter (own item) = give item := by
  have others {items : List Item} (apart : ∀ other ∈ items, ∀ entry ∈ give other, own item entry = false) :
      (items.flatMap give).filter (own item) = [] := by
    rw [List.filter_eq_nil_iff]
    intro entry among
    obtain ⟨other, member, given⟩ := List.mem_flatMap.mp among
    simp [apart other member entry given]
  rw [List.flatMap_append, List.flatMap_cons, List.filter_append, List.filter_append, others before, others after,
    List.filter_eq_self.mpr mine, List.nil_append, List.append_nil]

/-- Of items with keys of their own, an item's entries are those that name its key. -/
theorem filter_named {Key : Type} {key : Item → Key} (names : Entry → Key → Bool) {items : List Item}
    (distinct : (items.map key).Nodup)
    (only : ∀ item ∈ items, ∀ entry ∈ give item, ∀ wanted, names entry wanted = true ↔ wanted = key item) {item : Item}
    (among : item ∈ items) : ((items.flatMap give).filter fun entry => names entry (key item)) = give item := by
  obtain ⟨earlier, later, rfl⟩ := List.append_of_mem among
  simp only [List.map_append, List.map_cons, List.nodup_append, List.nodup_cons, List.mem_map, List.mem_cons] at distinct
  obtain ⟨_, ⟨alone, _⟩, apart⟩ := distinct
  apply @filter_own _ _ give fun item entry => names entry (key item)
  · intro entry given
    exact (only item among entry given _).mpr rfl
  · intro other member entry given
    rw [← Bool.not_eq_true, only other (List.mem_append_left _ member) entry given]
    exact fun same => apart _ ⟨other, member, rfl⟩ _ (.inl rfl) same.symm
  · intro other member entry given
    rw [← Bool.not_eq_true, only other (List.mem_append_right _ (List.mem_cons_of_mem _ member)) entry given]
    exact fun same => alone ⟨other, member, same.symm⟩

end Repeats

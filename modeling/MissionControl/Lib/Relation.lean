import Mathlib.Data.List.Nodup

/-! Tables of rows under a primary key. An insertion under a key already taken is
refused, and an update keeps the keys. -/

structure Relation (Row Key : Type) (keyOf : Row → Key) where
  rows : List Row
  keyed : (rows.map keyOf).Nodup

namespace Relation
variable {Row Key : Type} [DecidableEq Key] {keyOf : Row → Key}

def empty : Relation Row Key keyOf := ⟨[], List.nodup_nil⟩

def find (table : Relation Row Key keyOf) (key : Key) : Option Row := table.rows.find? fun row => keyOf row = key

def insert (table : Relation Row Key keyOf) (row : Row) : Option (Relation Row Key keyOf) :=
  if taken : keyOf row ∈ table.rows.map keyOf then none
  else some ⟨table.rows ++ [row], by
    rw [List.map_append, List.nodup_append]
    refine ⟨table.keyed, List.nodup_singleton _, ?_⟩
    intro first held second last same
    rw [List.map_singleton, List.mem_singleton] at last
    exact taken (last ▸ same ▸ held)⟩

def update (table : Relation Row Key keyOf) (key : Key) (change : Row → Row)
    (keeps : ∀ row, keyOf (change row) = keyOf row := by intro; rfl) : Relation Row Key keyOf where
  rows := table.rows.map fun row => if keyOf row = key then change row else row
  keyed := by
    have same : (table.rows.map fun row => if keyOf row = key then change row else row).map keyOf =
        table.rows.map keyOf := by
      rw [List.map_map]
      apply List.map_congr_left
      intro row _
      simp only [Function.comp_apply]
      split
      · exact keeps row
      · rfl
    exact same ▸ table.keyed

variable {table later : Relation Row Key keyOf} {row other : Row} {key : Key}

@[simp] theorem find_empty (key : Key) : (empty : Relation Row Key keyOf).find key = none := rfl

theorem find_key (found : table.find key = some row) : keyOf row = key := by
  simpa using List.find?_some found

theorem mem_of_find (found : table.find key = some row) : row ∈ table.rows := List.mem_of_find?_eq_some found

theorem find_mem (member : row ∈ table.rows) : table.find (keyOf row) = some row := by
  cases found : table.find (keyOf row) with
  | none => simpa using List.find?_eq_none.mp found row member
  | some other => rw [List.inj_on_of_nodup_map table.keyed (mem_of_find found) member (find_key found)]

theorem mem_iff : row ∈ table.rows ↔ table.find (keyOf row) = some row := ⟨find_mem, mem_of_find⟩

theorem insert_rows (inserted : table.insert row = some later) : later.rows = table.rows ++ [row] := by
  unfold insert at inserted
  split at inserted
  · cases inserted
  · cases inserted; rfl

theorem insert_fresh (inserted : table.insert row = some later) : table.find (keyOf row) = none := by
  unfold insert at inserted
  split at inserted
  · cases inserted
  next free =>
    apply List.find?_eq_none.mpr
    intro other member same
    have equal : keyOf other = keyOf row := by simpa using same
    exact free (equal ▸ List.mem_map_of_mem member)

theorem find_insert (inserted : table.insert row = some later) (key : Key) :
    later.find key = if keyOf row = key then some row else table.find key := by
  have fresh := insert_fresh inserted
  rw [find, insert_rows inserted, List.find?_append, ← find]
  by_cases same : keyOf row = key
  · subst same
    simp [fresh]
  · simp [same]

theorem find_inserted (inserted : table.insert row = some later) : later.find (keyOf row) = some row := by
  rw [find_insert inserted, if_pos rfl]

/-- An inserted row leaves the others where they are. -/
theorem find_insert_kept (inserted : table.insert row = some later) (found : table.find key = some other) :
    later.find key = some other := by
  rw [find_insert inserted]
  split
  next same => rw [← same, insert_fresh inserted] at found; cases found
  next => exact found

variable {change : Row → Row}

variable {keeps : ∀ row, keyOf (change row) = keyOf row}

theorem find_update (other : Key) :
    (table.update key change keeps).find other =
      (table.find other).map fun row => if key = other then change row else row := by
  have same : (fun row => decide (keyOf row = other)) ∘ (fun row => if keyOf row = key then change row else row) =
      fun row => decide (keyOf row = other) := by
    funext row
    simp only [Function.comp_apply]
    split
    · rw [keeps]
    · rfl
  rw [find, update, List.find?_map, same, ← find]
  cases found : table.find other with
  | none => rfl
  | some row =>
    have keyed := find_key found
    simp only [Option.map_some, keyed, eq_comm]

theorem find_update_self (found : table.find key = some row) :
    (table.update key change keeps).find key = some (change row) := by
  rw [find_update, found, Option.map_some, if_pos rfl]

theorem find_update_other {other : Key} (different : key ≠ other) :
    (table.update key change keeps).find other = table.find other := by
  rw [find_update]
  simp [different]

theorem update_keys (updated : later = table.update key change keeps) :
    later.rows.map keyOf = table.rows.map keyOf := by
  rw [updated, update, List.map_map]
  apply List.map_congr_left
  intro row _
  simp only [Function.comp_apply]
  split
  · exact keeps row
  · rfl

theorem mem_insert (inserted : table.insert row = some later) : other ∈ later.rows ↔ other ∈ table.rows ∨ other = row := by
  rw [insert_rows inserted, List.mem_append, List.mem_singleton]

theorem mem_update :
    other ∈ (table.update key change keeps).rows ↔
      (∃ row ∈ table.rows, keyOf row = key ∧ other = change row) ∨ (other ∈ table.rows ∧ keyOf other ≠ key) := by
  rw [update, List.mem_map]
  constructor
  · intro ⟨row, held, same⟩
    by_cases named : keyOf row = key
    · rw [if_pos named] at same
      exact .inl ⟨row, held, named, same.symm⟩
    · rw [if_neg named] at same
      exact .inr ⟨same ▸ held, same ▸ named⟩
  · intro found
    rcases found with ⟨row, held, named, rfl⟩ | ⟨held, different⟩
    · exact ⟨row, held, if_pos named⟩
    · exact ⟨other, held, if_neg different⟩

end Relation

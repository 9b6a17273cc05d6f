import Mathlib.Data.List.Sort
import Std.Data.ExtTreeMap

/-! Finite maps over linearly ordered keys, compared by what they hold and not
by how they were filled. The rules restate the tree map's lemmas with equality
of keys in place of the comparison's result. -/

abbrev KeyMap (K V : Type) [LinearOrder K] := Std.ExtTreeMap K V compare

namespace KeyMap
variable {K V W : Type} [LinearOrder K]

instance : Std.TransCmp (compare : K → K → Ordering) := inferInstance

instance : Std.LawfulEqCmp (compare : K → K → Ordering) where
  compare_self := compare_eq_iff_eq.mpr rfl
  eq_of_compare := compare_eq_iff_eq.mp

@[simp] theorem get_empty (key : K) : (∅ : KeyMap K V)[key]? = none :=
  Std.ExtTreeMap.getElem?_empty

@[grind =] theorem get_insert (map : KeyMap K V) (key other : K) (value : V) :
    (map.insert key value)[other]? = if key = other then some value else map[other]? := by
  simp only [Std.ExtTreeMap.getElem?_insert, compare_eq_iff_eq]

@[simp] theorem get_insert_self (map : KeyMap K V) (key : K) (value : V) :
    (map.insert key value)[key]? = some value := by
  simp

variable {map : KeyMap K V}

/-- A value placed under its own name keeps the values under theirs. -/
theorem named_insert {name : V → K} (named : ∀ key value, map[key]? = some value → name value = key) (placed : V) :
    ∀ key value, (map.insert (name placed) placed)[key]? = some value → name value = key := by
  intro key value found
  rw [get_insert] at found
  split at found
  next same => cases found; exact same
  next => exact named key value found

theorem get_insert_other (map : KeyMap K V) {key other : K} (value : V) (different : key ≠ other) :
    (map.insert key value)[other]? = map[other]? := by
  simp [get_insert, different]

@[grind =] theorem get_erase (map : KeyMap K V) (key other : K) :
    (map.erase key)[other]? = if key = other then none else map[other]? := by
  simp only [Std.ExtTreeMap.getElem?_erase, compare_eq_iff_eq]

@[simp] theorem get_erase_self (map : KeyMap K V) (key : K) : (map.erase key)[key]? = none := by
  simp

theorem get_of_erase {key other : K} {value : V} (found : (map.erase key)[other]? = some value) :
    key ≠ other ∧ map[other]? = some value := by
  rw [get_erase] at found
  split at found
  · cases found
  next different => exact ⟨different, found⟩

theorem get_filter (map : KeyMap K V) (keep : K → V → Bool) (key : K) :
    (map.filter keep)[key]? = map[key]?.filter (keep key) :=
  Std.ExtTreeMap.getElem?_filter'

@[simp] theorem get_map (map : KeyMap K V) (change : K → V → W) (key : K) :
    (map.map change)[key]? = map[key]?.map (change key) :=
  Std.ExtTreeMap.getElem?_map

theorem ext {first second : KeyMap K V} (same : ∀ key : K, first[key]? = second[key]?) :
    first = second :=
  Std.ExtTreeMap.ext_getElem? same

theorem mem_toList {key : K} {value : V} : (key, value) ∈ map.toList ↔ map[key]? = some value :=
  Std.ExtTreeMap.mem_toList_iff_getElem?_eq_some

/-- The values in the order of their keys. -/
def held (map : KeyMap K V) : List V := map.toList.map Prod.snd

theorem mem_held {value : V} : value ∈ held map ↔ ∃ key : K, map[key]? = some value := by
  rw [held, List.mem_map]
  constructor
  · rintro ⟨⟨key, _⟩, member, rfl⟩
    exact ⟨key, mem_toList.mp member⟩
  · rintro ⟨key, found⟩
    exact ⟨(key, value), mem_toList.mpr found, rfl⟩

theorem nodup_toList (map : KeyMap K V) : (map.toList.map Prod.fst).Nodup := by
  rw [List.Nodup, List.pairwise_map]
  exact Std.ExtTreeMap.distinct_keys_toList.imp fun distinct same => distinct (compare_eq_iff_eq.mpr same)

/-- Values that carry their own key, in the order of their keys. -/
theorem held_keyed {keyOf : V → K} (keyed : ∀ (key : K) (value : V), map[key]? = some value → keyOf value = key) :
    (held map).map (fun value => (keyOf value, value)) = map.toList := by
  have same : ∀ pair ∈ map.toList, (keyOf pair.2, pair.2) = pair := by
    rintro ⟨key, value⟩ member
    rw [keyed key value (mem_toList.mp member)]
  rw [held, List.map_map]
  exact (List.map_congr_left same).trans (List.map_id _)

theorem nodup_held {keyOf : V → K} (keyed : ∀ (key : K) (value : V), map[key]? = some value → keyOf value = key) :
    ((held map).map keyOf).Nodup := by
  have once := nodup_toList map
  rw [← held_keyed keyed, List.map_map] at once
  exact once

theorem contains_iff {key : K} : map.contains key = true ↔ ∃ value, map[key]? = some value := by
  rw [← Option.isSome_iff_exists, Std.ExtTreeMap.isSome_getElem?_eq_contains]

theorem contains_false {key : K} : map.contains key = false ↔ map[key]? = none := by
  rw [← Option.isNone_iff_eq_none, ← Option.not_isSome, Std.ExtTreeMap.isSome_getElem?_eq_contains]
  simp

/-- The map filled with one pair after the other; a later pair replaces an earlier one. -/
def collect (pairs : List (K × V)) : KeyMap K V :=
  pairs.foldl (fun map pair => map.insert pair.1 pair.2) ∅

theorem get_foldl_insert (pairs : List (K × V)) (map : KeyMap K V) (once : (pairs.map Prod.fst).Nodup) (key : K) :
    (pairs.foldl (fun map pair => map.insert pair.1 pair.2) map)[key]? =
      ((pairs.find? (·.1 = key)).map Prod.snd).or map[key]? := by
  induction pairs generalizing map with
  | nil => simp
  | cons head tail ih =>
    obtain ⟨fresh, rest⟩ := List.nodup_cons.mp once
    rw [List.foldl_cons, ih _ rest, get_insert, List.find?_cons]
    by_cases named : head.1 = key
    · have none : tail.find? (·.1 = key) = none := by
        rw [List.find?_eq_none]
        intro pair member same
        have equal : pair.1 = key := by simpa using same
        exact fresh (named.trans equal.symm ▸ List.mem_map_of_mem member)
      simp [none, named]
    · simp [named]

/-- Values that carry their own key, each key once, are found under it. -/
theorem get_collect {values : List V} {keyOf : V → K} (once : (values.map keyOf).Nodup) {key : K} {value : V} :
    (collect (values.map fun value => (keyOf value, value)))[key]? = some value ↔ value ∈ values ∧ keyOf value = key := by
  have distinct : ((values.map fun value => (keyOf value, value)).map Prod.fst).Nodup := by
    rw [List.map_map]
    exact once
  rw [collect, get_foldl_insert _ ∅ distinct, get_empty, Option.or_none, List.find?_map, Option.map_map]
  constructor
  · intro found
    obtain ⟨other, first, rfl⟩ := Option.map_eq_some_iff.mp found
    exact ⟨List.mem_of_find?_eq_some first, by simpa using List.find?_some first⟩
  · rintro ⟨member, named⟩
    cases found : values.find? ((fun pair : K × V => decide (pair.1 = key)) ∘ fun value => (keyOf value, value)) with
    | none => simpa [named] using List.find?_eq_none.mp found value member
    | some other =>
      have same : keyOf other = key := by simpa using List.find?_some found
      have equal := List.inj_on_of_nodup_map once (List.mem_of_find?_eq_some found) member (same.trans named.symm)
      rw [equal]
      rfl

/-- The pairs a map holds, in any order, make the map again. -/
theorem collect_of_perm {pairs : List (K × V)} (same : pairs.Perm map.toList) : collect pairs = map := by
  have once : (pairs.map Prod.fst).Nodup := (same.map Prod.fst).nodup_iff.mpr (nodup_toList map)
  apply ext
  intro key
  rw [collect, get_foldl_insert pairs ∅ once, get_empty, Option.or_none]
  cases found : pairs.find? (·.1 = key) with
  | none =>
    symm
    rw [Option.map_none, ← contains_false]
    by_contra present
    rw [Bool.not_eq_false, contains_iff] at present
    obtain ⟨value, held⟩ := present
    have member : (key, value) ∈ pairs := same.mem_iff.mpr (mem_toList.mpr held)
    simpa using List.find?_eq_none.mp found _ member
  | some pair =>
    have member : pair ∈ map.toList := same.mem_iff.mp (List.mem_of_find?_eq_some found)
    have named : pair.1 = key := by simpa using List.find?_some found
    symm
    rw [← named]
    exact mem_toList.mp member

end KeyMap

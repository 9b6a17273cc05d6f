import MissionControl.Composition.Cache

/-! The cache of composed answers can be dropped at any time. What it holds was put there since it
was last cleared, it holds no more than its capacity, and it gives up what was not used for longest. -/

namespace MissionControl.Composition
open BoundedCompositionCache

variable {T : Type}

def CacheOperation.uses : CacheOperation T → CompositionCacheKey → Prop
  | .get asked, key | .put asked _, key => asked = key
  | .clear, _ => False

instance (operation : CacheOperation T) (key : CompositionCacheKey) : Decidable (operation.uses key) := by
  cases operation <;> unfold CacheOperation.uses <;> infer_instance

/-! Histories have the latest operation first. -/

/-- When a key was last asked for or stored, counted from one; never is zero. -/
def lastUse : List (CacheOperation T) → CompositionCacheKey → Nat
  | [], _ => 0
  | operation :: earlier, key => if operation.uses key then earlier.length + 1 else lastUse earlier key

def lastPut : List (CacheOperation T) → CompositionCacheKey → Option T
  | [], _ | .clear :: _, _ => none
  | .put stored value :: earlier, key => if stored = key then some value else lastPut earlier key
  | .get _ :: earlier, key => lastPut earlier key

def cached (capacity : Nat) : List (CacheOperation T) → BoundedCompositionCache T
  | [] => new capacity
  | operation :: earlier => (cached capacity earlier).apply operation

section
variable {history : List (CacheOperation T)} {operation : CacheOperation T} {key other : CompositionCacheKey}
  {usage : List CompositionCacheKey}

theorem lastUse_le (history : List (CacheOperation T)) (key : CompositionCacheKey) : lastUse history key ≤ history.length := by
  induction history with
  | nil => exact Nat.le_refl _
  | cons operation earlier kept =>
    unfold lastUse
    rw [List.length_cons]
    split <;> omega

theorem lastUse_used (used : operation.uses key) : lastUse (operation :: history) key = history.length + 1 := if_pos used

theorem lastUse_unused (unused : ¬ operation.uses key) : lastUse (operation :: history) key = lastUse history key :=
  if_neg unused

/-- The least recently used comes first. -/
def InOrder (history : List (CacheOperation T)) (usage : List CompositionCacheKey) : Prop :=
  usage.Pairwise fun left right => lastUse history left < lastUse history right

theorem InOrder.nodup (ordered : InOrder history usage) : usage.Nodup :=
  ordered.imp fun before same => absurd (same ▸ before) (lt_irrefl _)

theorem InOrder.idle (ordered : InOrder history usage) (unused : ∀ listed ∈ usage, ¬ operation.uses listed) :
    InOrder (operation :: history) usage := by
  refine List.Pairwise.imp_of_mem ?_ ordered
  intro left right first second before
  rw [lastUse_unused (unused left first), lastUse_unused (unused right second)]
  exact before

theorem InOrder.touched (ordered : InOrder history usage) (only : ∀ other, operation.uses other ↔ key = other) :
    InOrder (operation :: history) (usage.erase key ++ [key]) := by
  have used : operation.uses key := (only key).mpr rfl
  have others : ∀ listed ∈ usage.erase key, ¬ operation.uses listed := by
    intro listed member uses
    have same := (only listed).mp uses
    exact (ordered.nodup.mem_erase_iff.mp member).1 same.symm
  refine List.pairwise_append.mpr ⟨InOrder.idle (ordered.sublist List.erase_sublist) others, List.pairwise_singleton _ _, ?_⟩
  intro left member right last
  rw [List.mem_singleton.mp last, lastUse_used used, lastUse_unused (others left member)]
  exact Nat.lt_succ_of_le (lastUse_le history left)

theorem mem_touched (ordered : InOrder history usage) : other ∈ usage.erase key ++ [key] ↔ other ∈ usage ∨ other = key := by
  rw [List.mem_append, List.mem_singleton, ordered.nodup.mem_erase_iff]
  constructor
  · rintro (⟨_, member⟩ | last)
    · exact .inl member
    · exact .inr last
  · intro either
    by_cases last : other = key
    · exact .inr last
    · exact .inl ⟨last, either.resolve_right last⟩

end

structure Kept (capacity : Nat) (history : List (CacheOperation T)) (cache : BoundedCompositionCache T) : Prop where
  sized : cache.capacity = capacity
  listed : ∀ key, key ∈ cache.usage ↔ key ∈ cache.entries
  ordered : InOrder history cache.usage
  bounded : cache.usage.length ≤ capacity
  stored : ∀ key value, cache.entries[key]? = some value → lastPut history key = some value

section
variable {capacity : Nat} {history : List (CacheOperation T)} {cache : BoundedCompositionCache T}
  {key : CompositionCacheKey} {value : T}

theorem Kept.permuted (kept : Kept capacity history cache) : cache.usage.Perm cache.entries.keys := by
  rw [List.perm_ext_iff_of_nodup kept.ordered.nodup Std.ExtTreeMap.nodup_keys]
  intro key
  rw [kept.listed, Std.ExtTreeMap.mem_keys]

theorem Kept.length (kept : Kept capacity history cache) : cache.entries.size = cache.usage.length := by
  rw [← Std.ExtTreeMap.length_keys, kept.permuted.length_eq]

theorem Kept.get (kept : Kept capacity history cache) : Kept capacity (.get key :: history) (cache.get key).1 := by
  unfold BoundedCompositionCache.get
  split
  next held =>
    have member : key ∈ cache.usage := (kept.listed key).mpr (Std.ExtTreeMap.contains_iff_mem.mp held)
    refine ⟨kept.sized, ?_, kept.ordered.touched fun _ => Iff.rfl, ?_, kept.stored⟩
    · intro other
      rw [touch, mem_touched kept.ordered, kept.listed]
      constructor
      · rintro (there | rfl)
        · exact there
        · exact (kept.listed other).mp member
      · exact .inl
    · rw [touch, List.length_append, List.length_erase_of_mem member, List.length_singleton,
        Nat.sub_add_cancel (List.length_pos_of_mem member)]
      exact kept.bounded
  next missed =>
    refine ⟨kept.sized, kept.listed, kept.ordered.idle ?_, kept.bounded, kept.stored⟩
    intro listed member used
    cases used
    exact missed (Std.ExtTreeMap.contains_iff_mem.mpr ((kept.listed key).mp member))

theorem Kept.clear (kept : Kept capacity history cache) : Kept capacity (.clear :: history) cache.clear where
  sized := kept.sized
  listed := fun key => by simp [BoundedCompositionCache.clear]
  ordered := .nil
  bounded := Nat.zero_le _
  stored := fun key value found => by
    rw [BoundedCompositionCache.clear, KeyMap.get_empty] at found
    cases found

theorem Kept.evict (kept : Kept capacity history cache) : Kept capacity history cache.evict := by
  unfold BoundedCompositionCache.evict
  split
  · exact kept
  next evicted usage first =>
    have ordered := kept.ordered
    have bounded := kept.bounded
    rw [first] at ordered bounded
    refine ⟨kept.sized, ?_, (List.pairwise_cons.mp ordered).2, (Nat.le_succ _).trans bounded, ?_⟩
    · intro key
      rw [Std.ExtTreeMap.mem_erase, ← kept.listed, first, List.mem_cons, ne_eq, compare_eq_iff_eq]
      have fresh := (List.nodup_cons.mp (first ▸ kept.ordered.nodup)).1
      constructor
      · intro member
        exact ⟨fun same => fresh (same ▸ member), .inr member⟩
      · rintro ⟨different, rfl | member⟩
        · exact absurd rfl different
        · exact member
    · intro key value found
      exact kept.stored key value (KeyMap.get_of_erase found).2

theorem Kept.insert (kept : Kept capacity history cache)
    (fits : key ∈ cache.entries ∨ cache.usage.length < capacity) :
    Kept capacity (.put key value :: history) (touch { cache with entries := cache.entries.insert key value } key) := by
  refine ⟨kept.sized, ?_, kept.ordered.touched fun _ => Iff.rfl, ?_, ?_⟩
  · intro other
    rw [touch, mem_touched kept.ordered, Std.ExtTreeMap.mem_insert, compare_eq_iff_eq, kept.listed, or_comm, eq_comm]
  · rw [touch, List.length_append, List.length_singleton]
    rcases fits with held | room
    · have member := (kept.listed key).mpr held
      rw [List.length_erase_of_mem member, Nat.sub_add_cancel (List.length_pos_of_mem member)]
      exact kept.bounded
    · exact Nat.succ_le_of_lt (lt_of_le_of_lt List.length_erase_le room)
  · intro other stored found
    unfold lastPut
    rw [touch, KeyMap.get_insert] at found
    split at found
    next same =>
      rw [if_pos same]
      exact found
    next different =>
      rw [if_neg different]
      exact kept.stored other stored found

theorem Kept.put (kept : Kept capacity history cache) : Kept capacity (.put key value :: history) (cache.put key value) := by
  unfold BoundedCompositionCache.put
  split
  next none =>
    have empty : cache.usage = [] := by
      have bounded := kept.bounded
      rw [← kept.sized, none] at bounded
      exact List.eq_nil_of_length_eq_zero (Nat.le_zero.mp bounded)
    refine ⟨kept.sized, kept.listed, ?_, kept.bounded, ?_⟩
    · rw [empty]
      exact .nil
    · intro other stored found
      have held := (kept.listed other).mpr (Std.ExtTreeMap.mem_iff_isSome_getElem?.mpr (by rw [found]; rfl))
      rw [empty] at held
      cases held
  next some =>
    dsimp only
    split
    next full =>
      refine kept.evict.insert (.inr ?_)
      simp only [Bool.and_eq_true, decide_eq_true_eq] at full
      have same := kept.length
      rw [full.2] at same
      unfold BoundedCompositionCache.evict
      split
      next empty => rw [empty] at same; exact absurd same some
      next first => rw [first] at same; rw [← kept.sized, same]; exact Nat.lt_succ_self _
    next room =>
      refine kept.insert ?_
      by_cases held : key ∈ cache.entries
      · exact .inl held
      · refine .inr (lt_of_le_of_ne kept.bounded fun full => room ?_)
        rw [← kept.length, ← kept.sized] at full
        have absent : cache.entries.contains key = false :=
          Bool.eq_false_iff.mpr fun there => held (Std.ExtTreeMap.contains_iff_mem.mp there)
        simp [absent, full]

theorem cached_kept (capacity : Nat) (history : List (CacheOperation T)) : Kept capacity history (cached capacity history) := by
  induction history with
  | nil =>
    exact ⟨rfl, fun key => by simp [cached, new], .nil, Nat.zero_le _, fun key value found => by
      rw [cached, new, KeyMap.get_empty] at found
      cases found⟩
  | cons operation earlier kept =>
    cases operation with
    | get key => exact kept.get
    | put key value => exact kept.put
    | clear => exact kept.clear

end

structure Lawful (capacity : Nat) (history : List (CacheOperation T)) (cache : BoundedCompositionCache T) : Prop where
  bounded : cache.len ≤ capacity
  once : cache.usage.Nodup
  permuted : cache.usage.Perm cache.entries.keys
  ordered : cache.usage.Pairwise fun left right => lastUse history left < lastUse history right
  honest : ∀ key, (cache.get key).2 = none ∨ ((cache.get key).2 = lastPut history key ∧ (lastPut history key).isSome = true)
  replaces : ∀ key value, key ∈ cache.entries → ∀ other ∈ cache.entries, other ∈ (cache.put key value).entries
  evicts : ∀ key value victim, victim ∈ cache.entries → victim ∉ (cache.put key value).entries →
    ∀ other ∈ cache.entries, other ≠ victim →
      lastUse history victim < lastUse history other ∧ other ∈ (cache.put key value).entries

section
variable {capacity : Nat} {history : List (CacheOperation T)} {cache : BoundedCompositionCache T}
  {key victim : CompositionCacheKey} {value : T}

theorem Kept.honest (kept : Kept capacity history cache) : (cache.get key).2 = none ∨
    ((cache.get key).2 = lastPut history key ∧ (lastPut history key).isSome = true) := by
  unfold BoundedCompositionCache.get
  split
  · dsimp only
    cases found : cache.entries[key]? with
    | none => exact .inl rfl
    | some value =>
      rw [kept.stored key value found]
      exact .inr ⟨rfl, rfl⟩
  · exact .inl rfl

theorem put_replaced (held : key ∈ cache.entries) {other : CompositionCacheKey} (there : other ∈ cache.entries) :
    other ∈ (cache.put key value).entries := by
  unfold put
  split
  · exact there
  · have present : cache.entries.contains key = true := Std.ExtTreeMap.contains_iff_mem.mpr held
    rw [present]
    exact Std.ExtTreeMap.mem_insert.mpr (.inr there)

theorem put_dropped (held : victim ∈ cache.entries) (dropped : victim ∉ (cache.put key value).entries) :
    cache.usage.head? = some victim ∧ ∀ other ∈ cache.entries, other ≠ victim → other ∈ (cache.put key value).entries := by
  unfold put at dropped ⊢
  split at dropped
  · exact absurd held dropped
  next some =>
    rw [if_neg some]
    dsimp only at dropped ⊢
    split at dropped
    next full =>
      rw [if_pos full]
      unfold BoundedCompositionCache.evict at dropped ⊢
      split at dropped
      · exact absurd (Std.ExtTreeMap.mem_insert.mpr (.inr held)) dropped
      next evicted usage listed =>
        have same : evicted = victim := by
          by_contra different
          refine dropped (Std.ExtTreeMap.mem_insert.mpr (.inr (Std.ExtTreeMap.mem_erase.mpr ⟨?_, held⟩)))
          rwa [ne_eq, compare_eq_iff_eq]
        subst same
        refine ⟨by rw [listed]; rfl, fun other there different => ?_⟩
        refine Std.ExtTreeMap.mem_insert.mpr (.inr (Std.ExtTreeMap.mem_erase.mpr ⟨?_, there⟩))
        rw [ne_eq, compare_eq_iff_eq]
        exact Ne.symm different
    next room => exact absurd (Std.ExtTreeMap.mem_insert.mpr (.inr held)) dropped

theorem Kept.lawful (kept : Kept capacity history cache) : Lawful capacity history cache where
  bounded := by
    rw [len, kept.length]
    exact kept.bounded
  once := kept.ordered.nodup
  permuted := kept.permuted
  ordered := kept.ordered
  honest := fun _ => kept.honest
  replaces := fun _ _ held _ there => put_replaced held there
  evicts := by
    intro key value victim held dropped other there different
    obtain ⟨first, stays⟩ := put_dropped held dropped
    obtain ⟨rest, listed⟩ := List.head?_eq_some_iff.mp first
    have ordered := kept.ordered
    have member := (kept.listed other).mpr there
    rw [InOrder, listed, List.pairwise_cons] at ordered
    rw [listed, List.mem_cons] at member
    exact ⟨ordered.1 other (member.resolve_left different), stays other there different⟩

end

def request (compute : CompositionCacheKey → T) (cache : BoundedCompositionCache T) (key : CompositionCacheKey) :
    BoundedCompositionCache T × T :=
  match cache.get key with
  | (cache, some value) => (cache, value)
  | (cache, none) => (cache.put key (compute key), compute key)

def answers (compute : CompositionCacheKey → T) : BoundedCompositionCache T → List (Option CompositionCacheKey) → List T
  | _, [] => []
  | cache, none :: rest => answers compute cache.clear rest
  | cache, some key :: rest =>
    let (cache, answer) := request compute cache key
    answer :: answers compute cache rest

section
variable {compute : CompositionCacheKey → T} {cache : BoundedCompositionCache T}

/-- The cache holds nothing but what would be computed. -/
def Computed (compute : CompositionCacheKey → T) (cache : BoundedCompositionCache T) : Prop :=
  ∀ key value, cache.entries[key]? = some value → value = compute key

theorem Computed.put (computed : Computed compute cache) (key : CompositionCacheKey) :
    Computed compute (cache.put key (compute key)) := by
  have inserted : ∀ cache : BoundedCompositionCache T, Computed compute cache →
      Computed compute (touch { cache with entries := cache.entries.insert key (compute key) } key) := by
    intro cache computed other value found
    rw [touch, KeyMap.get_insert] at found
    split at found
    next same => exact same ▸ (Option.some.inj found).symm
    next => exact computed other value found
  unfold BoundedCompositionCache.put
  split
  · exact computed
  · refine inserted _ ?_
    split
    · unfold BoundedCompositionCache.evict
      split
      · exact computed
      · exact fun other value found => computed other value (KeyMap.get_of_erase found).2
    · exact computed

theorem request_answer (computed : Computed compute cache) (key : CompositionCacheKey) :
    (request compute cache key).2 = compute key ∧ Computed compute (request compute cache key).1 := by
  unfold request BoundedCompositionCache.get
  by_cases held : cache.entries.contains key = true
  · obtain ⟨value, found⟩ := Option.isSome_iff_exists.mp
      (Std.ExtTreeMap.mem_iff_isSome_getElem?.mp (Std.ExtTreeMap.contains_iff_mem.mp held))
    rw [if_pos held, found]
    exact ⟨computed key value found, computed⟩
  · rw [if_neg held]
    exact ⟨rfl, computed.put key⟩

theorem answers_computed (computed : Computed compute cache) (requests : List (Option CompositionCacheKey)) :
    answers compute cache requests = (requests.filterMap id).map compute := by
  induction requests generalizing cache with
  | nil => rfl
  | cons first rest following =>
    cases first with
    | none =>
      refine following fun key value found => ?_
      rw [BoundedCompositionCache.clear, KeyMap.get_empty] at found
      cases found
    | some key =>
      obtain ⟨answer, kept⟩ := request_answer computed key
      calc answers compute cache (some key :: rest)
          = (request compute cache key).2 :: answers compute (request compute cache key).1 rest := rfl
        _ = compute key :: (rest.filterMap id).map compute := by rw [answer, following kept]
        _ = ((some key :: rest).filterMap id).map compute := rfl

end

/-- The cache is disposable: after any history it holds, within its capacity and in the order of use,
nothing but what was put last, and it never changes what requests are answered with. -/
theorem cache_disposable (capacity : Nat) : (∀ history : List (CacheOperation T),
      Lawful capacity history (cached capacity history)) ∧
    ∀ (compute : CompositionCacheKey → T) (requests : List (Option CompositionCacheKey)),
      answers compute (new capacity) requests = (requests.filterMap id).map compute := by
  refine ⟨fun history => (cached_kept capacity history).lawful, fun compute requests => answers_computed ?_ requests⟩
  intro key value found
  rw [new, KeyMap.get_empty] at found
  cases found

end MissionControl.Composition

import MissionControl.Lib.KeyMap
import Mathlib.Data.Prod.Lex
import Mathlib.Data.String.Basic

/-! The bounded cache of composed answers. Eviction is by use and never by age, and the
revision of the Ledger is a part of the key. -/

namespace MissionControl.Composition

structure CompositionCacheKey where
  query : String
  scope : String
  ledgerRevision : Nat

namespace CompositionCacheKey

def fields (key : CompositionCacheKey) : Lex (String × Lex (String × Nat)) :=
  toLex (key.query, toLex (key.scope, key.ledgerRevision))

theorem fields_injective : Function.Injective fields := by
  rintro ⟨query, scope, ledgerRevision⟩ ⟨_, _, _⟩ same
  cases same
  rfl

instance : LinearOrder CompositionCacheKey := LinearOrder.lift' fields fields_injective

instance : Std.TransCmp (compare : CompositionCacheKey → CompositionCacheKey → Ordering) := inferInstance

end CompositionCacheKey

/-- `usage` has the least recently used first. -/
structure BoundedCompositionCache (T : Type) where
  capacity : Nat
  entries : KeyMap CompositionCacheKey T
  usage : List CompositionCacheKey

namespace BoundedCompositionCache
variable {T : Type}

def new (capacity : Nat) : BoundedCompositionCache T := ⟨capacity, ∅, []⟩

def len (cache : BoundedCompositionCache T) : Nat := cache.entries.size

def touch (cache : BoundedCompositionCache T) (key : CompositionCacheKey) : BoundedCompositionCache T :=
  { cache with usage := cache.usage.erase key ++ [key] }

def get (cache : BoundedCompositionCache T) (key : CompositionCacheKey) : BoundedCompositionCache T × Option T :=
  if cache.entries.contains key then (cache.touch key, cache.entries[key]?) else (cache, none)

/-- Drops the least recently used entry. -/
def evict (cache : BoundedCompositionCache T) : BoundedCompositionCache T :=
  match cache.usage with
  | [] => cache
  | evicted :: usage => { cache with entries := cache.entries.erase evicted, usage }

def put (cache : BoundedCompositionCache T) (key : CompositionCacheKey) (value : T) : BoundedCompositionCache T :=
  if cache.capacity = 0 then cache
  else
    let cache := if !cache.entries.contains key && cache.entries.size = cache.capacity then cache.evict else cache
    touch { cache with entries := cache.entries.insert key value } key

def clear (cache : BoundedCompositionCache T) : BoundedCompositionCache T :=
  { cache with entries := ∅, usage := [] }

end BoundedCompositionCache

inductive CacheOperation (T : Type) where
  | get (key : CompositionCacheKey)
  | put (key : CompositionCacheKey) (value : T)
  | clear

def BoundedCompositionCache.apply {T : Type} (cache : BoundedCompositionCache T) :
    CacheOperation T → BoundedCompositionCache T
  | .get key => (cache.get key).1
  | .put key value => cache.put key value
  | .clear => cache.clear

end MissionControl.Composition

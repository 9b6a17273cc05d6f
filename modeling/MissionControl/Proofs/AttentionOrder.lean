import MissionControl.Queue.Ranking

/-! The order of attention flags depends on the order they come in exactly where two of them share
their tier, their time and the identifier of their record. -/

namespace MissionControl.AttentionOrder
open Queue Sorting

def rankKey (item : RankableAttentionItem) : AttentionTier × Option UtcTimestamp × String :=
  (tierOf item.flag.reason, item.relevantAt, canonicalIdOf item.flag.target)

def DistinctFlags (items : List RankableAttentionItem) : Prop :=
  (items.map fun item => (item.flag.target, item.flag.reason)).Nodup

instance (items : List RankableAttentionItem) : Decidable (DistinctFlags items) := inferInstanceAs (Decidable (List.Nodup _))

section
variable {items : List RankableAttentionItem}

theorem compareTimes_eq {left right : Option UtcTimestamp} : compareTimes left right = .eq ↔ left = right := by
  cases left with
  | none => cases right <;> simp [compareTimes]
  | some left =>
    cases right with
    | none => simp [compareTimes]
    | some right => simp [compareTimes, UtcTimestamp.unixMillis_injective.eq_iff]

theorem compare_ranked {left right : RankableAttentionItem} :
    left.ranked.compare right.ranked = .eq ↔ rankKey left = rankKey right := by
  have tiers : (tierOf left.flag.reason).compare (tierOf right.flag.reason) = .eq ↔
      tierOf left.flag.reason = tierOf right.flag.reason :=
    ⟨AttentionTier.eq_of_compare, fun same => by rw [same]; exact Std.ReflCmp.compare_self⟩
  simp only [RankedAttentionItem.compare, RankableAttentionItem.ranked, rankKey, Ordering.then_eq_eq, Prod.mk.injEq,
    tiers, compareTimes_eq, Std.LawfulEqOrd.compare_eq_iff_eq]

theorem ranked_injective : Function.Injective RankableAttentionItem.ranked := by
  rintro ⟨flag, relevantAt⟩ ⟨flag', relevantAt'⟩ same
  simp only [RankableAttentionItem.ranked, RankedAttentionItem.mk.injEq] at same
  rw [same.1, same.2.1]

theorem separates_ranked (distinct : items.Nodup) :
    Separates RankedAttentionItem.compare (items.map (·.ranked)) ↔ (items.map rankKey).Nodup := by
  rw [List.nodup_map_iff_inj_on distinct]
  constructor
  · intro separates left first right second same
    apply ranked_injective
    exact separates _ (List.mem_map_of_mem first) _ (List.mem_map_of_mem second) (compare_ranked.mpr same)
  · intro separates _ first _ second tie
    obtain ⟨left, among, rfl⟩ := List.mem_map.mp first
    obtain ⟨right, within, rfl⟩ := List.mem_map.mp second
    rw [separates left among right within (compare_ranked.mp tie)]

end

/-! An Issue that recurred, of which the data is out of date. -/

namespace Recurred

def metadata : AttentionMetadata := ⟨.internal, .stale, false⟩

def target : AttentionTarget := .issue ⟨"issue-1", .refl true⟩

def stale : RankableAttentionItem :=
  ⟨⟨target, .issueStale, metadata, "issue information is stale", none⟩, none⟩

def recurrence : RankableAttentionItem :=
  ⟨⟨target, .issueRecurrence, metadata, "the issue has a recurrence link", none⟩, none⟩

end Recurred

open Recurred

end MissionControl.AttentionOrder

import MissionControl.Queue.Adapter
import MissionControl.Proofs.WorkQueueOrder

/-! What a record's data going stale does to its place in the Work Queue. The place of
every record is a function of the reasons raised against it, and of its own deadline. -/

namespace MissionControl.Staleness
open Queue Sorting WorkQueueOrder

def raised (input : AttentionInputs) (key : WorkItemKind × String) : List AttentionReason :=
  (input.checked.filter fun checked => checked.target.key = key).flatMap fun checked =>
    (checked.checks.filter (·.enabled)).map (·.reason)

/-- Where a record stands: what the queue compares. -/
structure Place where
  placement : WorkItemPlacement
  time : Option UtcTimestamp
  kind : WorkItemKind
  id : String

def Place.compare (left right : Place) : Ordering :=
  (left.placement.compare right.placement).then <|
    (compareTimes left.time right.time).then <|
      (Ord.compare left.kind.asStr right.kind.asStr).then (Ord.compare left.id right.id)

def itemPlace (item : WorkQueueItem) : Place := ⟨item.placement, item.placingTimestamp, item.kind, item.id⟩

def placedBy (reasons : List AttentionReason) : WorkItemPlacement :=
  match (sortBy AttentionTier.compare (reasons.map tierOf)).head? with
  | some tier => .flagged tier
  | none => .unflagged

def flagTime (record : WorkItemFacts) : Option UtcTimestamp :=
  match record.kind with
  | .actionRequest | .action | .risk => record.relevantAt
  | .decisionRequest | .issue => none

def placeOf (input : AttentionInputs) (record : WorkItemFacts) : Place where
  placement := placedBy (raised input record.key)
  time := if raised input record.key = [] then record.relevantAt else flagTime record
  kind := record.kind
  id := record.id

instance : Std.TransCmp Place.compare :=
  inferInstanceAs (Std.TransCmp (compareLex (comparing WorkItemPlacement.compare Place.placement)
    (compareLex (comparing compareTimes Place.time)
      (compareLex (compareOn fun place : Place => place.kind.asStr) (compareOn Place.id)))))

theorem Place.eq_of_compare {left right : Place} (same : left.compare right = .eq) :
    (left.kind, left.id) = (right.kind, right.id) := by
  simp only [compare, Ordering.then_eq_eq] at same
  rw [WorkItemKind.asStr_injective (Std.LawfulEqOrd.eq_of_compare same.2.2.1),
    Std.LawfulEqOrd.eq_of_compare same.2.2.2]

theorem compare_itemPlace (left right : WorkQueueItem) :
    left.compare right = (itemPlace left).compare (itemPlace right) := rfl

section
variable {input : AttentionInputs} {records : List WorkItemFacts} {record : WorkItemFacts}

theorem tier_eq {first second : AttentionTier} (forward : (first.compare second).isLE = true)
    (backward : (second.compare first).isLE = true) : first = second :=
  AttentionTier.eq_of_compare (Std.OrientedCmp.isLE_antisymm forward backward)

theorem placedBy_nil : placedBy [] = .unflagged := rfl

theorem placedBy_eq_flagged {reasons : List AttentionReason} {tier : AttentionTier} :
    placedBy reasons = .flagged tier ↔
      (∃ reason ∈ reasons, tierOf reason = tier) ∧
        ∀ reason ∈ reasons, (tier.compare (tierOf reason)).isLE = true := by
  unfold placedBy
  split
  next first shown =>
    obtain ⟨member, least⟩ := head_sortBy shown
    rw [List.mem_map] at member
    rw [List.forall_mem_map] at least
    rw [WorkItemPlacement.flagged.injEq]
    constructor
    · rintro rfl
      exact ⟨member, least⟩
    · rintro ⟨⟨reason, raised, rfl⟩, lowest⟩
      obtain ⟨other, placing, rfl⟩ := member
      exact tier_eq (least reason raised) (lowest other placing)
  next empty =>
    have nothing : reasons = [] := by simpa using head_sortBy_none.mp empty
    simp [nothing]

theorem placedBy_eq_unflagged {reasons : List AttentionReason} : placedBy reasons = .unflagged ↔ reasons = [] := by
  unfold placedBy
  split
  next first shown =>
    obtain ⟨member, _⟩ := head_sortBy shown
    rw [List.mem_map] at member
    obtain ⟨reason, raised, _⟩ := member
    simp [List.ne_nil_of_mem raised]
  next empty => simpa using head_sortBy_none.mp empty

theorem placedBy_congr {reasons others : List AttentionReason} (same : ∀ reason, reason ∈ reasons ↔ reason ∈ others) :
    placedBy reasons = placedBy others := by
  cases placed : placedBy others with
  | unflagged =>
    rw [placedBy_eq_unflagged] at placed ⊢
    rw [List.eq_nil_iff_forall_not_mem]
    intro reason
    rw [same, placed]
    exact List.not_mem_nil
  | flagged tier =>
    rw [placedBy_eq_flagged] at placed ⊢
    simpa only [same] using placed

theorem mem_raised {key : WorkItemKind × String} {reason : AttentionReason} : reason ∈ raised input key ↔
    ∃ flag ∈ (deriveAttention input).flags, flag.target.key = key ∧ flag.reason = reason := by
  simp only [raised, deriveAttention, mem_sortBy, List.mem_flatMap, List.mem_filter, decide_eq_true_eq, List.mem_map,
    Checked.flags]
  constructor
  · rintro ⟨checked, ⟨member, named⟩, check, holds, rfl⟩
    exact ⟨_, ⟨checked, member, check, holds, rfl⟩, named, rfl⟩
  · rintro ⟨_, ⟨checked, member, check, holds, rfl⟩, named, rfl⟩
    exact ⟨checked, ⟨member, named⟩, check, holds, rfl⟩

theorem relevantAtFor_own (distinct : DistinctRecords records) (member : record ∈ records) :
    relevantAtFor records record.kind record.id = flagTime record := by
  have found : records.find? (fun other => other.key = (record.kind, record.id)) = some record := by
    cases shown : records.find? (fun other => other.key = (record.kind, record.id)) with
    | none => simpa [WorkItemFacts.key] using List.find?_eq_none.mp shown record member
    | some other =>
      have named : other.key = (record.kind, record.id) := by simpa using List.find?_some shown
      rw [List.inj_on_of_nodup_map distinct (List.mem_of_find?_eq_some shown) member named]
  cases kind : record.kind with
  | decisionRequest | issue => simp [relevantAtFor, flagTime, kind]
  | actionRequest | action | risk =>
    rw [kind] at found
    simp [relevantAtFor, flagTime, kind, found]

theorem place_attached (distinct : DistinctRecords records) (member : record ∈ records) :
    itemPlace (toItem { record with
      attention := attentionFor (deriveAttention input).flags records record.key }) = placeOf input record := by
  have reasons : ∀ reason, reason ∈ raised input record.key ↔
      ∃ item ∈ attentionFor (deriveAttention input).flags records record.key, item.flag.reason = reason := by
    intro reason
    simp [mem_raised, attentionFor, and_assoc]
  have times : ∀ item ∈ attentionFor (deriveAttention input).flags records record.key,
      item.relevantAt = flagTime record := by
    intro item attached
    obtain ⟨flag, _, rfl⟩ := List.mem_map.mp attached
    exact relevantAtFor_own distinct member
  generalize attentionFor (deriveAttention input).flags records record.key = attention at reasons times
  unfold itemPlace toItem placeOf WorkQueueItem.placingTimestamp rankAttention
  cases shown : (sortBy RankedAttentionItem.compare (attention.map (·.ranked))).head? with
  | none =>
    have nothing : attention = [] := by simpa using head_sortBy_none.mp shown
    have quiet : raised input record.key = [] := by
      rw [List.eq_nil_iff_forall_not_mem]
      intro reason
      rw [reasons, nothing]
      simp
    simp [shown, quiet, placedBy_nil]
  | some first =>
    obtain ⟨placing, least⟩ := head_sortBy shown
    obtain ⟨item, attached, rfl⟩ := List.mem_map.mp placing
    have loud : raised input record.key ≠ [] := List.ne_nil_of_mem ((reasons _).mpr ⟨item, attached, rfl⟩)
    have placed : placedBy (raised input record.key) = .flagged item.ranked.tier := by
      rw [placedBy_eq_flagged]
      refine ⟨⟨_, (reasons _).mpr ⟨item, attached, rfl⟩, rfl⟩, ?_⟩
      intro reason raised
      obtain ⟨other, also, rfl⟩ := (reasons reason).mp raised
      have ordered := least other.ranked (List.mem_map_of_mem also)
      rw [RankedAttentionItem.compare, Ordering.isLE_then_iff_and] at ordered
      exact ordered.1
    have time : item.ranked.relevantAt = flagTime record := times item attached
    simp [shown, loud, placed, time]

end

/-- A record's data is fresh no longer: one input's metadata changes, and nothing else.
The proposition says whether staleness raises a flag of its own against that record. -/
inductive Ages (freshness : Freshness) (degraded : Bool) (input : AttentionInputs) :
    AttentionTarget → Prop → AttentionInputs → Prop where
  | actionRequest {before after : List ActionRequestAttentionInput} {item : ActionRequestAttentionInput} :
      input.actionRequests = before ++ item :: after → item.metadata.freshness = .fresh →
      Ages freshness degraded input (.actionRequest item.id) (item.state = .draft ∨ item.state = .open)
        { input with
          actionRequests := before ++ { item with metadata := { item.metadata with freshness, degraded } } :: after }
  | action {before after : List ActionAttentionInput} {item : ActionAttentionInput} :
      input.actions = before ++ item :: after → item.metadata.freshness = .fresh →
      Ages freshness degraded input (.action item.id) False
        { input with
          actions := before ++ { item with metadata := { item.metadata with freshness, degraded } } :: after }
  | decisionRequest {before after : List DecisionRequestAttentionInput} {item : DecisionRequestAttentionInput} :
      input.decisionRequests = before ++ item :: after → item.metadata.freshness = .fresh →
      Ages freshness degraded input (.decisionRequest item.id) (item.state = .draft ∨ item.state = .open)
        { input with
          decisionRequests := before ++ { item with metadata := { item.metadata with freshness, degraded } } :: after }
  | risk {before after : List RiskAttentionInput} {item : RiskAttentionInput} :
      input.risks = before ++ item :: after → item.metadata.freshness = .fresh →
      Ages freshness degraded input (.risk item.id) False
        { input with
          risks := before ++ { item with metadata := { item.metadata with freshness, degraded } } :: after }
  | issue {before after : List IssueAttentionInput} {item : IssueAttentionInput} :
      input.issues = before ++ item :: after → item.metadata.freshness = .fresh →
      Ages freshness degraded input (.issue item.id) (item.snapshot ≠ .closed)
        { input with
          issues := before ++ { item with metadata := { item.metadata with freshness, degraded } } :: after }

def Checked.reasons (checked : Checked) : List AttentionReason := (checked.checks.filter (·.enabled)).map (·.reason)

/-- Aging changes one record's checks, by the flag that staleness raises. -/
structure ChecksAged (freshness : Freshness) (target : AttentionTarget) (tracks : Prop) (stale : AttentionReason)
    (checked aged : Checked) : Prop where
  target_eq : checked.target = target
  aged_target : aged.target = target
  reasons : ∀ reason, reason ∈ Checked.reasons aged ↔
    reason ∈ Checked.reasons checked ∨ (tracks ∧ freshness = .stale ∧ stale = reason)

theorem mem_reasons {checked : Checked} {reason : AttentionReason} : reason ∈ Checked.reasons checked ↔
    ∃ check ∈ checked.checks, check.enabled = true ∧ check.reason = reason := by
  simp [Checked.reasons, and_assoc]

section
variable {freshness : Freshness} {degraded : Bool} {asOf : UtcTimestamp} {thresholds : AttentionThresholds}

variable {target : AttentionTarget}

variable {tracks : Prop}

/-- A record whose checks tell staleness has one check that does, and it is off while the
record is fresh. -/
theorem ChecksAged.tracked {stale : AttentionReason} {checked aged : Checked} {off : Check} (before after : List Check)
    (on : Check) (named : checked.target = target) (same : aged.target = target) (tracked : tracks)
    (was : checked.checks = before ++ off :: after) (becomes : aged.checks = before ++ on :: after)
    (unset : off.enabled = false) (reason : on.reason = stale) (set : on.enabled = decide (freshness = .stale)) :
    ChecksAged freshness target tracks stale checked aged where
  target_eq := named
  aged_target := same
  reasons other := by
    simp only [mem_reasons, was, becomes, List.mem_append, List.mem_cons]
    constructor
    · rintro ⟨check, member, enabled, rfl⟩
      rcases member with early | rfl | late
      · exact .inl ⟨check, .inl early, enabled, rfl⟩
      · rw [set, decide_eq_true_eq] at enabled
        exact .inr ⟨tracked, enabled, reason.symm⟩
      · exact .inl ⟨check, .inr (.inr late), enabled, rfl⟩
    · rintro (⟨check, member, enabled, rfl⟩ | ⟨-, aging, rfl⟩)
      · rcases member with early | rfl | late
        · exact ⟨check, .inl early, enabled, rfl⟩
        · rw [unset] at enabled
          cases enabled
        · exact ⟨check, .inr (.inr late), enabled, rfl⟩
      · exact ⟨on, .inr (.inl rfl), by rw [set, decide_eq_true aging], reason⟩

theorem ChecksAged.untracked {stale : AttentionReason} {checked aged : Checked} (named : checked.target = target)
    (same : aged.target = target) (untracked : ¬ tracks) (checks : aged.checks = checked.checks) :
    ChecksAged freshness target tracks stale checked aged where
  target_eq := named
  aged_target := same
  reasons reason := by
    rw [mem_reasons, mem_reasons, checks, or_iff_left]
    intro ⟨tracks, _⟩
    exact untracked tracks

theorem actionRequest_aged (freshness : Freshness) (degraded : Bool) (item : ActionRequestAttentionInput)
    (fresh : item.metadata.freshness = .fresh) :
    ChecksAged freshness (.actionRequest item.id) (item.state = .draft ∨ item.state = .open) .actionRequestStale
      (item.checked asOf) (({ item with metadata := { item.metadata with freshness, degraded } } :
        ActionRequestAttentionInput).checked asOf) := by
  have unset : decide (item.metadata.freshness = .stale) = false := by rw [fresh]; rfl
  obtain ⟨id, state, owner, due, info, metadata⟩ := item
  cases state with
  | draft => exact .tracked [_] ([_] ++ _) _ rfl rfl (.inl rfl) rfl rfl unset rfl rfl
  | «open» => exact .tracked [_] ([_] ++ _) _ rfl rfl (.inr rfl) rfl rfl unset rfl rfl
  | accepted | declined | withdrawn => exact .untracked rfl rfl (by simp) rfl

theorem decisionRequest_aged (freshness : Freshness) (degraded : Bool) (item : DecisionRequestAttentionInput)
    (fresh : item.metadata.freshness = .fresh) :
    ChecksAged freshness (.decisionRequest item.id) (item.state = .draft ∨ item.state = .open) .decisionRequestStale
      (item.checked asOf thresholds) (({ item with metadata := { item.metadata with freshness, degraded } } :
        DecisionRequestAttentionInput).checked asOf thresholds) := by
  have unset : decide (item.metadata.freshness = .stale) = false := by rw [fresh]; rfl
  obtain ⟨id, state, owner, due, info, metadata⟩ := item
  cases state with
  | draft => exact .tracked [_, _] _ _ rfl rfl (.inl rfl) rfl rfl unset rfl rfl
  | «open» => exact .tracked [_, _] _ _ rfl rfl (.inr rfl) rfl rfl unset rfl rfl
  | resolved | withdrawn => exact .untracked rfl rfl (by simp) rfl

theorem issue_aged (freshness : Freshness) (degraded : Bool) (item : IssueAttentionInput)
    (fresh : item.metadata.freshness = .fresh) :
    ChecksAged freshness (.issue item.id) (item.snapshot ≠ .closed) .issueStale
      (item.checked asOf) (({ item with metadata := { item.metadata with freshness, degraded } } :
        IssueAttentionInput).checked asOf) := by
  have unset : decide (item.metadata.freshness = .stale) = false := by rw [fresh]; rfl
  obtain ⟨id, snapshot, due, blocked, recurrence, metadata⟩ := item
  cases snapshot with
  | «open» => exact .tracked _ [_] _ rfl rfl (by simp) rfl rfl unset rfl rfl
  | resolved => exact .tracked _ [_] _ rfl rfl (by simp) rfl rfl unset rfl rfl
  | closed => exact .untracked rfl rfl (by simp) rfl

theorem action_aged (freshness : Freshness) (degraded : Bool) (item : ActionAttentionInput) :
    ChecksAged freshness (.action item.id) False .actionRequestStale (item.checked asOf thresholds)
      (({ item with metadata := { item.metadata with freshness, degraded } } : ActionAttentionInput).checked asOf
        thresholds) :=
  .untracked rfl rfl not_false rfl

theorem risk_aged (freshness : Freshness) (degraded : Bool) (item : RiskAttentionInput) :
    ChecksAged freshness (.risk item.id) False .actionRequestStale (item.checked asOf)
      (({ item with metadata := { item.metadata with freshness, degraded } } : RiskAttentionInput).checked asOf) :=
  .untracked rfl rfl not_false rfl

def OneAged (freshness : Freshness) (target : AttentionTarget) (tracks : Prop) (stale : AttentionReason)
    (checked aged : List Checked) : Prop :=
  ∃ before here there after, ChecksAged freshness target tracks stale here there ∧
    checked = before ++ here :: after ∧ aged = before ++ there :: after

section
variable {target : AttentionTarget} {tracks : Prop} {stale : AttentionReason} {checked aged : List Checked}

theorem OneAged.of_map {Input : Type} {items : List Input} (check : Input → Checked) {before after : List Input}
    {item older : Input} (split : items = before ++ item :: after)
    (one : ChecksAged freshness target tracks stale (check item) (check older)) :
    OneAged freshness target tracks stale (items.map check) ((before ++ older :: after).map check) :=
  ⟨before.map check, check item, check older, after.map check, one, by simp [split], by simp⟩

theorem OneAged.before (one : OneAged freshness target tracks stale checked aged) (more : List Checked) :
    OneAged freshness target tracks stale (checked ++ more) (aged ++ more) := by
  obtain ⟨before, here, there, after, one, rfl, rfl⟩ := one
  exact ⟨before, here, there, after ++ more, one, by simp, by simp⟩

theorem OneAged.after (one : OneAged freshness target tracks stale checked aged) (more : List Checked) :
    OneAged freshness target tracks stale (more ++ checked) (more ++ aged) := by
  obtain ⟨before, here, there, after, one, rfl, rfl⟩ := one
  exact ⟨more ++ before, here, there, after, one, by simp, by simp⟩

end

theorem Ages.checked {input aged : AttentionInputs} (ages : Ages freshness degraded input target tracks aged) :
    ∃ stale, tierOf stale = .other ∧ OneAged freshness target tracks stale input.checked aged.checked := by
  cases ages with
  | actionRequest split fresh =>
    have one := OneAged.of_map (·.checked input.asOf) split (actionRequest_aged freshness degraded _ fresh)
    exact ⟨.actionRequestStale, rfl, (((one.before _).before _).before _).before _⟩
  | action split _ =>
    have one := OneAged.of_map (·.checked input.asOf input.thresholds) split (action_aged freshness degraded _)
    exact ⟨.actionRequestStale, rfl, (((one.after _).before _).before _).before _⟩
  | decisionRequest split fresh =>
    have one := OneAged.of_map (·.checked input.asOf input.thresholds) split (decisionRequest_aged freshness degraded _ fresh)
    exact ⟨.decisionRequestStale, rfl, ((one.after _).before _).before _⟩
  | risk split _ =>
    have one := OneAged.of_map (·.checked input.asOf) split (risk_aged freshness degraded _)
    exact ⟨.actionRequestStale, rfl, (one.after _).before _⟩
  | issue split fresh =>
    have one := OneAged.of_map (·.checked input.asOf) split (issue_aged freshness degraded _ fresh)
    exact ⟨.issueStale, rfl, one.after _⟩

theorem Ages.raised {input aged : AttentionInputs} (ages : Ages freshness degraded input target tracks aged) :
    ∃ stale, tierOf stale = .other ∧
    ∀ key reason, reason ∈ raised aged key ↔
      reason ∈ raised input key ∨ (key = target.key ∧ tracks ∧ freshness = .stale ∧ stale = reason) := by
  obtain ⟨stale, last, before, here, there, after, one, split, later⟩ := ages.checked
  refine ⟨stale, last, ?_⟩
  intro key reason
  have shown : ∀ checks : List Checked,
      reason ∈ (checks.filter fun checked => checked.target.key = key).flatMap Checked.reasons ↔
        ∃ checked ∈ checks, checked.target.key = key ∧ reason ∈ Checked.reasons checked := by
    intro checks
    simp [and_assoc]
  change reason ∈ List.flatMap Checked.reasons _ ↔ reason ∈ List.flatMap Checked.reasons _ ∨ _
  rw [shown, shown, split, later]
  simp only [List.mem_append, List.mem_cons, or_and_right, exists_or, exists_eq_left, one.target_eq, one.aged_target,
    one.reasons]
  rw [@eq_comm _ target.key key, and_or_left]
  simp only [or_assoc, or_left_comm, or_comm]

end

structure Shown (input : AttentionInputs) (filter : WorkQueueFilter) (record : WorkItemFacts) : Prop where
  outstanding : isOutstanding record = true
  kinds : filter.kinds = [] ∨ record.kind ∈ filter.kinds
  flags : filter.onlyFlagged = true → raised input record.key ≠ []

section
variable {input : AttentionInputs} {filter : WorkQueueFilter} {records : List WorkItemFacts}
  {record other : WorkItemFacts}

def attached (input : AttentionInputs) (records : List WorkItemFacts) (record : WorkItemFacts) : WorkQueueItem :=
  toItem { record with attention := attentionFor (deriveAttention input).flags records record.key }

theorem attach_distinct (distinct : DistinctRecords records) : DistinctRecords (attach input records) := by
  unfold DistinctRecords attach
  rw [List.map_map]
  exact distinct

theorem attention_empty : (attached input records record).attention.isEmpty = (raised input record.key).isEmpty := by
  have same : (attached input records record).attention = [] ↔ raised input record.key = [] := by
    simp only [List.eq_nil_iff_forall_not_mem, mem_raised, attached, toItem, rankAttention, attentionFor, mem_sortBy,
      List.mem_map, List.mem_filter, decide_eq_true_eq]
    constructor
    · rintro nothing reason ⟨flag, member, named, _⟩
      exact nothing _ ⟨_, ⟨flag, ⟨member, named⟩, rfl⟩, rfl⟩
    · rintro nothing _ ⟨_, ⟨flag, ⟨member, named⟩, rfl⟩, rfl⟩
      exact nothing flag.reason ⟨flag, member, named, rfl⟩
  rw [Bool.eq_iff_iff, List.isEmpty_iff, List.isEmpty_iff, same]

theorem mem_queue {item : WorkQueueItem} : item ∈ queue filter (attach input records) ↔
    ∃ record ∈ records, Shown input filter record ∧ attached input records record = item := by
  have admits : ∀ record, filter.admits (attached input records record) = true ↔
      (filter.kinds = [] ∨ record.kind ∈ filter.kinds) ∧
        (filter.onlyFlagged = true → raised input record.key ≠ []) := by
    intro record
    simp only [WorkQueueFilter.admits, WorkQueueFilter.admitsFlag, attention_empty, Bool.and_eq_true, Bool.or_eq_true,
      Bool.not_eq_true', List.isEmpty_iff, List.isEmpty_eq_false_iff, List.contains_iff_mem]
    rw [and_comm, imp_iff_not_or, Bool.not_eq_true]
    rfl
  simp only [queue, outstanding, attach, mem_sortBy, List.mem_filter, List.mem_map]
  constructor
  · rintro ⟨⟨_, ⟨⟨record, member, rfl⟩, offers⟩, rfl⟩, admitted⟩
    have shown := (admits record).mp admitted
    exact ⟨record, member, ⟨offers, shown.1, shown.2⟩, rfl⟩
  · rintro ⟨record, member, shown, rfl⟩
    exact ⟨⟨_, ⟨⟨record, member, rfl⟩, shown.outstanding⟩, rfl⟩, (admits record).mpr ⟨shown.kinds, shown.flags⟩⟩

theorem before_queue (distinct : DistinctRecords records) (first : record ∈ records) (second : other ∈ records) :
    [record.key, other.key].Sublist ((queue filter (attach input records)).map (·.key)) ↔
      Shown input filter record ∧ Shown input filter other ∧
        (placeOf input record).compare (placeOf input other) = .lt := by
  have separated := separates_admitted (@attach_distinct input records distinct) filter
  have nodup : ((outstanding (attach input records)).filter filter.admits).Nodup :=
    (outstanding_distinct (attach_distinct distinct)).of_map _ |>.filter _
  have ordered : ∀ {left right}, [left, right].Sublist (queue filter (attach input records)) ↔
      left ∈ queue filter (attach input records) ∧ right ∈ queue filter (attach input records) ∧
        left.compare right = .lt := by
    intro left right
    rw [queue, before_sortBy separated nodup, mem_sortBy, mem_sortBy]
  rw [← place_attached distinct first, ← place_attached distinct second, ← compare_itemPlace]
  constructor
  · intro before
    obtain ⟨items, within, keys⟩ := List.sublist_map_iff.mp before
    obtain ⟨left, right, rfl⟩ : ∃ left right, items = [left, right] := by
      have two : items.length = 2 := by simpa using (congrArg List.length keys).symm
      exact List.length_eq_two.mp two
    obtain ⟨leftMember, rightMember, less⟩ := ordered.mp within
    obtain ⟨shownLeft, leftRecord, leftShown, rfl⟩ := mem_queue.mp leftMember
    obtain ⟨shownRight, rightRecord, rightShown, rfl⟩ := mem_queue.mp rightMember
    obtain ⟨leftKey, rightKey⟩ : record.key = shownLeft.key ∧ other.key = shownRight.key := by
      simpa [attached, toItem, WorkQueueItem.key, WorkItemFacts.key] using keys
    rw [List.inj_on_of_nodup_map distinct first leftRecord leftKey,
      List.inj_on_of_nodup_map distinct second rightRecord rightKey]
    exact ⟨leftShown, rightShown, less⟩
  · rintro ⟨shownFirst, shownSecond, less⟩
    have within := ordered.mpr ⟨mem_queue.mpr ⟨record, first, shownFirst, rfl⟩,
      mem_queue.mpr ⟨other, second, shownSecond, rfl⟩, less⟩
    exact within.map (·.key)

theorem record_of_queue {key : WorkItemKind × String} (member : key ∈ (queue filter (attach input records)).map (·.key)) :
    ∃ record ∈ records, record.key = key := by
  obtain ⟨_, queued, rfl⟩ := List.mem_map.mp member
  obtain ⟨record, listed, _, rfl⟩ := mem_queue.mp queued
  exact ⟨record, listed, rfl⟩

end

/-- Whatever precedes the record in the first queue precedes it in the second. -/
def NeverPromotes (key : WorkItemKind × String) (before after : List WorkQueueItem) : Prop :=
  ∀ other, other ≠ key → [other, key].Sublist (before.map (·.key)) → [other, key].Sublist (after.map (·.key))

def stalePlace (record : WorkItemFacts) : Place := ⟨.flagged .other, flagTime record, record.kind, record.id⟩

/-- The record gets a flag for its staleness and has no other, in a queue that shows
unflagged records; and another record stands between its old place and its new one. -/
structure Promotes (freshness : Freshness) (tracks : Prop) (input : AttentionInputs) (filter : WorkQueueFilter)
    (records : List WorkItemFacts) (key : WorkItemKind × String) : Prop where
  stale : freshness = .stale
  tracked : tracks
  quiet : raised input key = []
  between : ∃ record ∈ records, record.key = key ∧ Shown input filter record ∧
    ∃ other ∈ records, other.key ≠ key ∧ Shown input filter other ∧
      (stalePlace record).compare (placeOf input other) = .lt ∧
      (placeOf input other).compare (placeOf input record) = .lt

section
variable {freshness : Freshness} {degraded : Bool} {input aged : AttentionInputs} {target : AttentionTarget}
  {tracks : Prop} {filter : WorkQueueFilter} {records : List WorkItemFacts} {record other : WorkItemFacts}

theorem place_same (same : ∀ reason, reason ∈ raised aged record.key ↔ reason ∈ raised input record.key) :
    placeOf aged record = placeOf input record ∧ (Shown aged filter record ↔ Shown input filter record) := by
  have quiet : raised aged record.key = [] ↔ raised input record.key = [] := by
    simp only [List.eq_nil_iff_forall_not_mem, same]
  constructor
  · simp only [placeOf, placedBy_congr same, quiet]
  · constructor
    · intro shown
      exact ⟨shown.outstanding, shown.kinds, fun only => quiet.not.mp (shown.flags only)⟩
    · intro shown
      exact ⟨shown.outstanding, shown.kinds, fun only => quiet.not.mpr (shown.flags only)⟩

theorem place_loud {stale : AttentionReason} (last : tierOf stale = .other) (loud : raised input record.key ≠ [])
    (more : ∀ reason, reason ∈ raised aged record.key ↔ reason ∈ raised input record.key ∨ stale = reason) :
    placeOf aged record = placeOf input record := by
  have also : raised aged record.key ≠ [] := by
    obtain ⟨reason, member⟩ := List.exists_mem_of_ne_nil _ loud
    exact List.ne_nil_of_mem ((more reason).mpr (.inl member))
  have placed : placedBy (raised aged record.key) = placedBy (raised input record.key) := by
    cases shown : placedBy (raised input record.key) with
    | unflagged => exact absurd (placedBy_eq_unflagged.mp shown) loud
    | flagged tier =>
      obtain ⟨⟨reason, member, tiered⟩, least⟩ := placedBy_eq_flagged.mp shown
      refine placedBy_eq_flagged.mpr ⟨⟨reason, (more reason).mpr (.inl member), tiered⟩, ?_⟩
      intro next raised
      rcases (more next).mp raised with old | rfl
      · exact least next old
      · rw [last]
        cases tier <;> decide
  simp only [placeOf, placed, loud, also, if_false]

theorem place_quiet {stale : AttentionReason} (last : tierOf stale = .other) (quiet : raised input record.key = [])
    (more : ∀ reason, reason ∈ raised aged record.key ↔ reason ∈ raised input record.key ∨ stale = reason) :
    placeOf aged record = stalePlace record := by
  have only : ∀ reason, reason ∈ raised aged record.key ↔ stale = reason := by
    intro reason
    simp [more, quiet]
  have loud : raised aged record.key ≠ [] := List.ne_nil_of_mem ((only stale).mpr rfl)
  have placed : placedBy (raised aged record.key) = .flagged .other := by
    refine placedBy_eq_flagged.mpr ⟨⟨stale, (only stale).mpr rfl, last⟩, ?_⟩
    intro reason raised
    rw [← (only reason).mp raised, last]
    decide
  simp only [placeOf, placed, loud, if_false, stalePlace]

theorem Shown.stays (shown : Shown input filter record)
    (more : ∀ reason, reason ∈ raised input record.key → reason ∈ raised aged record.key) :
    Shown aged filter record := by
  refine ⟨shown.outstanding, shown.kinds, ?_⟩
  intro only
  obtain ⟨reason, member⟩ := List.exists_mem_of_ne_nil _ (shown.flags only)
  exact List.ne_nil_of_mem (more reason member)

theorem queue_never_promotes (ages : Ages freshness degraded input target tracks aged)
    (distinct : DistinctRecords records) :
    NeverPromotes target.key (queue filter (attach input records)) (queue filter (attach aged records)) ↔
      ¬ Promotes freshness tracks input filter records target.key := by
  obtain ⟨stale, last, reasons⟩ := ages.raised
  have others : ∀ {record : WorkItemFacts}, record.key ≠ target.key → ∀ reason,
      reason ∈ raised aged record.key ↔ reason ∈ raised input record.key := by
    intro record different reason
    simp [reasons, different]
  constructor
  · rintro never ⟨isStale, tracked, quiet, record, member, named, shown, other, otherMember, different, otherShown,
      above, below⟩
    have more : ∀ reason, reason ∈ raised aged record.key ↔ reason ∈ raised input record.key ∨ stale = reason := by
      intro reason
      simp [reasons, named, isStale, tracked]
    have before := (before_queue distinct otherMember member).mpr ⟨otherShown, shown, below⟩
    rw [named] at before
    have after := never other.key different before
    have same := @place_same _ _ filter _ (others different)
    rw [← named, before_queue distinct otherMember member, same.1, place_quiet last (named ▸ quiet) more] at after
    have swapped := @Std.OrientedCmp.eq_swap _ Place.compare _ (stalePlace record) (placeOf input other)
    rw [above, after.2.2] at swapped
    cases swapped
  · intro never otherKey different before
    obtain ⟨record, member, named⟩ := record_of_queue (before.subset (List.mem_cons_of_mem _ List.mem_cons_self))
    obtain ⟨other, otherMember, rfl⟩ := record_of_queue (before.subset List.mem_cons_self)
    rw [← named, before_queue distinct otherMember member] at before
    obtain ⟨otherShown, shown, less⟩ := before
    have same := @place_same _ _ filter _ (others different)
    have stays : Shown aged filter record := shown.stays fun reason old => (reasons _ _).mpr (.inl old)
    rw [← named, before_queue distinct otherMember member, same.1]
    refine ⟨same.2.mpr otherShown, stays, ?_⟩
    by_cases flagged : tracks ∧ freshness = .stale
    · have more : ∀ reason, reason ∈ raised aged record.key ↔ reason ∈ raised input record.key ∨ stale = reason := by
        intro reason
        simp [reasons, named, flagged]
      by_cases quiet : raised input record.key = []
      · rw [place_quiet last quiet more]
        cases order : (placeOf input other).compare (stalePlace record) with
        | lt => rfl
        | eq => exact absurd ((Place.eq_of_compare order).trans named) different
        | gt =>
          have above := Std.OrientedCmp.gt_iff_lt.mp order
          exact absurd ⟨flagged.2, flagged.1, named ▸ quiet, record, member, named, shown, other, otherMember,
            different, otherShown, above, less⟩ never
      · rwa [place_loud last quiet more]
    · have unmoved : ∀ reason, reason ∈ raised aged record.key ↔ reason ∈ raised input record.key := by
        intro reason
        rw [reasons, or_iff_left]
        exact fun more => flagged ⟨more.2.1, more.2.2.1⟩
      rwa [(@place_same _ _ filter _ unmoved).1]

/-- Staleness promotes a record exactly when it is the first to flag it. -/
theorem never_promotes_iff (request : GetWorkQueue) (ledgerRevision : Nat) (shows : ShowsAll request records)
    (distinct : DistinctRecords records) (ages : Ages freshness degraded input target tracks aged) :
    NeverPromotes target.key (composeWorkQueue request (attach input records) ledgerRevision).body.items
        (composeWorkQueue request (attach aged records) ledgerRevision).body.items ↔
      ¬ Promotes freshness tracks input request.filter records target.key := by
  have all : ∀ input, ShowsAll request (attach input records) := by
    intro input
    simpa [ShowsAll, attach] using shows
  rw [items_whole (all input), items_whole (all aged)]
  exact queue_never_promotes ages distinct

end

open WorkQueueOrder.Morning

def fresh : AttentionMetadata := ⟨.internal, .fresh, false⟩

def requestInput : ActionRequestAttentionInput := ⟨⟨"request-1", by decide⟩, .open, true, none, false, fresh⟩

def inputs : AttentionInputs where
  asOf := today
  thresholds := ⟨0, none⟩
  actionRequests := [requestInput]
  actions := []
  decisionRequests := []
  risks := [.inQueue ⟨"risk-1", .refl true⟩ .open (some tomorrow) false false false true fresh]
  issues := []

def staleInputs : AttentionInputs :=
  { inputs with actionRequests := [{ requestInput with metadata := { fresh with freshness := .stale } }] }

def unknownInputs : AttentionInputs :=
  { inputs with actionRequests := [{ requestInput with metadata := { fresh with freshness := .unknown } }] }

theorem never_promotes_unknown : NeverPromotes request.key
    (composeWorkQueue wholeQueue (attach inputs records) 7).body.items
    (composeWorkQueue wholeQueue (attach unknownInputs records) 7).body.items := by
  have ages : Ages .unknown false inputs (.actionRequest requestInput.id) _ unknownInputs :=
    @Ages.actionRequest .unknown false inputs [] [] requestInput rfl rfl
  exact (never_promotes_iff wholeQueue 7 (by decide) (by decide) ages).mpr fun promotes => nomatch promotes.stale

/-- The request is behind the Risk, and before it once its data is stale. -/
theorem stale_promoted :
    (composeWorkQueue wholeQueue (attach inputs records) 7).body.items.map (·.key) = [risk.key, request.key] ∧
    (composeWorkQueue wholeQueue (attach staleInputs records) 7).body.items.map (·.key) = [request.key, risk.key] ∧
    ¬ NeverPromotes request.key (composeWorkQueue wholeQueue (attach inputs records) 7).body.items
      (composeWorkQueue wholeQueue (attach staleInputs records) 7).body.items := by
  have before : (composeWorkQueue wholeQueue (attach inputs records) 7).body.items.map (·.key) =
      [risk.key, request.key] := by decide +kernel
  have after : (composeWorkQueue wholeQueue (attach staleInputs records) 7).body.items.map (·.key) =
      [request.key, risk.key] := by decide +kernel
  refine ⟨before, after, ?_⟩
  intro never
  have kept := never risk.key (by decide)
  rw [before, after] at kept
  exact absurd (kept (List.Sublist.refl _)) (by decide)

end MissionControl.Staleness

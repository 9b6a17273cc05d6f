import MissionControl.Surfaces.ProductAdapter
import MissionControl.Queue.Adapter
import MissionControl.Lib.Repeats

/-! The conditions of a Product: one for each record behind them, as long as each record is
reached once. A record that several relationships lead to is reported for each of them. -/

namespace MissionControl.ProductConditions
open Projections Queue Surfaces Repeats

theorem parsed_asStr {kind : IdKind} {text : String} {id : OpaqueId kind} (parsed : parseEntityId kind text = some id) :
    id.asStr = text := by
  unfold parseEntityId at parsed
  split at parsed
  · cases parsed
    rfl
  · cases parsed

theorem nodup_filterMap {Record Input : Type} {make : Record → Option Input} {of : Record → String} {id : Input → String}
    (same : ∀ record input, make record = some input → id input = of record) {records : List Record}
    (distinct : (records.map of).Nodup) : ((records.filterMap make).map id).Nodup := by
  refine distinct.sublist ?_
  clear distinct
  induction records with
  | nil => exact .slnil
  | cons record rest shorter =>
    cases made : make record with
    | none =>
      rw [List.filterMap_cons_none made]
      exact shorter.cons _
    | some input =>
      rw [List.filterMap_cons_some made, List.map_cons, List.map_cons, same record input made]
      exact shorter.cons_cons _

section
variable (projection : LedgerProjectionSnapshot) (composition : LedgerCompositionSnapshot)
  (thresholds : AttentionThresholds) (productId : String)

structure UniqueIds : Prop where
  actionRequests : (composition.actionRequests.map (·.id)).Nodup
  actions : (projection.actions.map (·.id.asStr)).Nodup
  decisionRequests : (composition.decisionRequests.map (·.id)).Nodup
  risks : (projection.risks.map (·.id.asStr)).Nodup
  issues : (composition.issues.map (·.id)).Nodup
  evidenceReferences : (composition.evidenceReferences.map (·.id.asStr)).Nodup

def accountable : List StakeholderRelationshipReadRecord :=
  (productRelationships composition productId).filter fun relationship => (stakeholderOf composition relationship).isSome

def carriers (item : WorkItemFacts) : List StakeholderRelationshipReadRecord :=
  (accountable composition productId).filter fun relationship => carries composition relationship item

def linksTo (reference : EvidenceReferenceReadRecord) : List EvidenceLinkReadRecord :=
  (productEvidenceLinks composition productId).filter fun link => reference.id.asStr = link.evidenceId.asStr

def evidenceReasons (reference : EvidenceReferenceReadRecord) : List (Sourced String) :=
  ((verificationCondition reference.verification).map fun condition =>
    { value := "Evidence " ++ reference.id.asStr ++ " is linked, but " ++ condition
      provenance := ⟨.evidence, reference.id.asStr, "verification", reference.version.get,
        composition.ledgerAsOfUtc⟩ : Sourced String }).toList

def workReasons (item : WorkItemFacts) : List (Sourced String) :=
  item.attention.map fun flag =>
    ⟨flag.flag.explanation, ⟨ownerOf item.kind, item.id, "attention", item.revision, item.asOf⟩⟩

def carriedWork : List WorkItemFacts :=
  (workItemFactsFromSnapshots projection composition thresholds).filter fun item =>
    !(carriers composition productId item).isEmpty

/-- One reason for each linked Evidence that does not hold, and one for each pair of a carried
record and an attention reason raised on it. -/
def Attributed (facts : ProductDetailFacts) (ledgerRevision : Nat) : Prop :=
  ((carriedWork projection composition thresholds productId).flatMap fun item =>
      item.attention.map fun flag => (item.key, flag.flag.reason)).Nodup ∧
    ∃ shown, composeProductDetail facts ledgerRevision = .ok shown ∧ shown.body.healthReasons.Perm
      (((composition.evidenceReferences.filter fun reference => !(linksTo composition productId reference).isEmpty).flatMap
          (evidenceReasons composition)) ++
        (carriedWork projection composition thresholds productId).flatMap workReasons)

structure ReachedOnce : Prop where
  evidence : ∀ reference ∈ composition.evidenceReferences, evidenceReasons composition reference ≠ [] →
    (linksTo composition productId reference).length ≤ 1
  work : ∀ item ∈ workItemFactsFromSnapshots projection composition thresholds, workReasons item ≠ [] →
    (carriers composition productId item).length ≤ 1

end

section
variable {projection : LedgerProjectionSnapshot} {composition : LedgerCompositionSnapshot}
  {thresholds : AttentionThresholds}

theorem workItems_distinct (unique : UniqueIds projection composition) :
    ((workItemFactsFromSnapshots projection composition thresholds).map (·.key)).Nodup := by
  have keys : (workItemFactsFromSnapshots projection composition thresholds).map (·.key) =
      [(WorkItemKind.actionRequest, composition.actionRequests.map (·.id)),
        (.action, projection.actions.map (·.id.asStr)), (.decisionRequest, composition.decisionRequests.map (·.id)),
        (.risk, projection.risks.map (·.id.asStr)), (.issue, composition.issues.map (·.id))].flatMap
          fun part => part.2.map (Prod.mk part.1) := by
    simp [workItemFactsFromSnapshots, Function.comp_def, WorkItemFacts.key, actionRequestItem, actionItem,
      decisionRequestItem, riskItem, issueItem]
  rw [keys]
  refine nodup_keyed (by simp) ?_
  simp only [List.forall_mem_cons, List.not_mem_nil, false_implies, implies_true, and_true]
  exact ⟨unique.actionRequests, unique.actions, unique.decisionRequests, unique.risks, unique.issues⟩

theorem checked_distinct (unique : UniqueIds projection composition) :
    (((attentionInputs projection composition thresholds).checked).map (·.target.key)).Nodup := by
  have keys : ((attentionInputs projection composition thresholds).checked).map (·.target.key) =
      [(WorkItemKind.actionRequest, (composition.actionRequests.filterMap (·.attentionInput)).map (·.id.asStr)),
        (.action, projection.actions.map (·.id.asStr)),
        (.decisionRequest, (composition.decisionRequests.filterMap (·.attentionInput)).map (·.id.asStr)),
        (.risk, projection.risks.map (·.id.asStr)),
        (.issue, (composition.issues.filterMap (·.attentionInput)).map (·.id.asStr))].flatMap
          fun part => part.2.map (Prod.mk part.1) := by
    simp [AttentionInputs.checked, attentionInputs, Function.comp_def, AttentionTarget.key,
      ActionRequestAttentionInput.checked, ActionAttentionInput.checked, DecisionRequestAttentionInput.checked,
      RiskAttentionInput.checked, IssueAttentionInput.checked, WorkItemKind.ofTarget, canonicalIdOf,
      actionAttentionInput, riskAttentionInput, RiskAttentionInput.inQueue]
  rw [keys]
  refine nodup_keyed (by simp) ?_
  simp only [List.forall_mem_cons, List.not_mem_nil, false_implies, implies_true, and_true]
  refine ⟨?_, unique.actions, ?_, unique.risks, ?_⟩
  · refine nodup_filterMap (fun record input made => ?_) unique.actionRequests
    obtain ⟨id, parsed, rfl⟩ := Option.map_eq_some_iff.mp made
    exact parsed_asStr parsed
  · refine nodup_filterMap (fun record input made => ?_) unique.decisionRequests
    obtain ⟨id, parsed, rfl⟩ := Option.map_eq_some_iff.mp made
    exact parsed_asStr parsed
  · refine nodup_filterMap (fun record input made => ?_) unique.issues
    obtain ⟨id, parsed, rfl⟩ := Option.map_eq_some_iff.mp made
    exact parsed_asStr parsed

theorem reasons_distinct {checked : Checked} (made : checked ∈ (attentionInputs projection composition thresholds).checked) :
    (checked.checks.map (·.reason)).Nodup := by
  simp only [AttentionInputs.checked, attentionInputs, List.mem_append, List.mem_map, List.mem_filterMap] at made
  rcases made with (((⟨input, _, rfl⟩ | ⟨input, _, rfl⟩) | ⟨input, _, rfl⟩) | ⟨input, _, rfl⟩) | ⟨input, made, rfl⟩
  · unfold ActionRequestAttentionInput.checked
    cases input.state <;> cases input.responseDueAt <;> simp
  · unfold ActionAttentionInput.checked
    cases input.state <;> simp
  · unfold DecisionRequestAttentionInput.checked
    cases input.state <;> cases input.decisionDeadlineAt <;> simp
  · unfold RiskAttentionInput.checked
    cases input.state <;> simp
  · obtain ⟨issue, _, made⟩ := made
    obtain ⟨id, _, rfl⟩ := Option.map_eq_some_iff.mp made
    unfold IssueAttentionInput.checked
    cases issue.state <;> simp

theorem flags_distinct (unique : UniqueIds projection composition) :
    ((flagsFromSnapshots projection composition thresholds).map fun item =>
      (item.flag.target.key, item.flag.reason)).Nodup := by
  have listed : ((flagsFromSnapshots projection composition thresholds).map fun item =>
      (item.flag.target.key, item.flag.reason)).Perm
        (((attentionInputs projection composition thresholds).checked).flatMap fun checked =>
          (checked.checks.filter (·.enabled)).map fun check => (checked.target.key, check.reason)) := by
    rw [flagsFromSnapshots, List.map_map, deriveAttention]
    refine ((Sorting.sortBy_perm _ _).map _).trans ?_
    rw [List.map_flatMap]
    simp only [Checked.flags, List.map_map]
    exact .refl _
  rw [listed.nodup_iff]
  have keyed : (((attentionInputs projection composition thresholds).checked).flatMap fun checked =>
      ((checked.checks.filter (·.enabled)).map (·.reason)).map (Prod.mk checked.target.key)).Nodup :=
    nodup_keyed (checked_distinct unique) fun checked made =>
      (reasons_distinct made).sublist (List.filter_sublist.map _)
  simp only [List.map_map] at keyed
  exact keyed

theorem attention_of {item : WorkItemFacts}
    (listed : item ∈ workItemFactsFromSnapshots projection composition thresholds) :
    item.attention = (flagsFromSnapshots projection composition thresholds).filter fun flag =>
      decide (flag.flag.target.key = item.key) := by
  have same : ∀ kind id, attentionFor projection composition thresholds kind id =
      (flagsFromSnapshots projection composition thresholds).filter fun flag =>
        decide (flag.flag.target.key = (kind, id)) := by
    intro kind id
    refine List.filter_congr fun flag _ => ?_
    simp [AttentionTarget.key]
  simp only [workItemFactsFromSnapshots, List.mem_append, List.mem_map] at listed
  rcases listed with (((⟨_, _, rfl⟩ | ⟨_, _, rfl⟩) | ⟨_, _, rfl⟩) | ⟨_, _, rfl⟩) | ⟨_, _, rfl⟩ <;> exact same _ _

theorem attention_key {item : WorkItemFacts}
    (listed : item ∈ workItemFactsFromSnapshots projection composition thresholds) {flag : RankableAttentionItem}
    (raised : flag ∈ item.attention) : flag.flag.target.key = item.key := by
  rw [attention_of listed] at raised
  simpa using (List.mem_filter.mp raised).2

theorem pairs_distinct (unique : UniqueIds projection composition) {items : List WorkItemFacts}
    (among : items.Sublist (workItemFactsFromSnapshots projection composition thresholds)) :
    (items.flatMap fun item => item.attention.map fun flag => (item.key, flag.flag.reason)).Nodup := by
  have distinct : (items.map (·.key)).Nodup := (workItems_distinct unique).sublist (among.map _)
  have within : ∀ item ∈ items, (item.attention.map (·.flag.reason)).Nodup := by
    intro item member
    have listed := among.subset member
    have same : (item.attention.map (·.flag.reason)).map (Prod.mk item.key) =
        item.attention.map fun flag => (flag.flag.target.key, flag.flag.reason) := by
      rw [List.map_map]
      exact List.map_congr_left fun flag raised => by rw [attention_key listed raised]; rfl
    refine List.Nodup.of_map (Prod.mk item.key) ?_
    rw [same, attention_of listed]
    exact (flags_distinct unique).sublist (List.filter_sublist.map _)
  have keyed := nodup_keyed distinct within
  simp only [List.map_map] at keyed
  exact keyed

variable {productId : String} {facts : ProductDetailFacts}

theorem facts_of (found : productDetailFactsFromSnapshots productId projection composition thresholds = some facts) :
    facts.evidence = evidenceOf composition productId ∧
      facts.people = peopleOf composition productId (workItemFactsFromSnapshots projection composition thresholds) := by
  obtain ⟨_, _, rfl⟩ := Option.map_eq_some_iff.mp found
  exact ⟨rfl, rfl⟩

theorem filterMap_flatMap {First Second Third : Type} (make : First → Option Second) (give : First → List Third)
    (shown : Second → List Third) (same : ∀ one other, make one = some other → shown other = give one)
    (items : List First) :
    (items.filterMap make).flatMap shown = (items.filter fun item => (make item).isSome).flatMap give := by
  induction items with
  | nil => rfl
  | cons item items rest =>
    cases made : make item with
    | none => rw [List.filterMap_cons_none made, List.filter_cons, made, rest]; rfl
    | some other =>
      rw [List.filterMap_cons_some made, List.filter_cons, made]
      simp only [Option.isSome_some, if_true, List.flatMap_cons, rest, same item other made]

def flagsOf (item : WorkItemFacts) : List (RankableAttentionItem × ReasonSource) :=
  item.attention.map fun flag => (flag, ⟨flag.flag.target, item.revision, item.asOf⟩)

theorem carriedFlags_eq (found : productDetailFactsFromSnapshots productId projection composition thresholds = some facts) :
    facts.carriedFlags = (accountable composition productId).flatMap fun relationship =>
      ((workItemFactsFromSnapshots projection composition thresholds).filter (carries composition relationship)).flatMap
        flagsOf := by
  rw [ProductDetailFacts.carriedFlags, (facts_of found).2, peopleOf]
  rw [filterMap_flatMap _ (fun relationship => ((workItemFactsFromSnapshots projection composition thresholds).filter
    (carries composition relationship)).flatMap flagsOf)]
  · simp only [Option.isSome_map]
    rfl
  · intro relationship person made
    obtain ⟨_, _, rfl⟩ := Option.map_eq_some_iff.mp made
    rfl

theorem carried_mem (found : productDetailFactsFromSnapshots productId projection composition thresholds = some facts)
    {pair : RankableAttentionItem × ReasonSource} (carried : pair ∈ facts.carriedFlags) :
    ∃ item ∈ workItemFactsFromSnapshots projection composition thresholds, pair ∈ flagsOf item := by
  rw [carriedFlags_eq found] at carried
  obtain ⟨_, _, within⟩ := List.mem_flatMap.mp carried
  obtain ⟨item, kept, raised⟩ := List.mem_flatMap.mp within
  exact ⟨item, List.mem_of_mem_filter kept, raised⟩

theorem sources_agree (unique : UniqueIds projection composition)
    (found : productDetailFactsFromSnapshots productId projection composition thresholds = some facts) :
    ∀ pair ∈ facts.carriedFlags, ∀ other ∈ facts.carriedFlags, pair.2.target = other.2.target → pair.2 = other.2 := by
  intro pair carried other second same
  obtain ⟨item, listed, raised⟩ := carried_mem found carried
  obtain ⟨record, member, flagged⟩ := carried_mem found second
  obtain ⟨flag, first, rfl⟩ := List.mem_map.mp raised
  obtain ⟨again, later, rfl⟩ := List.mem_map.mp flagged
  have target : flag.flag.target = again.flag.target := same
  have keys : item.key = record.key := by
    rw [← attention_key listed first, ← attention_key member later, target]
  have equal : item = record := List.inj_on_of_nodup_map (workItems_distinct unique) listed member keys
  rw [target, equal]

theorem flagsOf_reasons {item : WorkItemFacts}
    (listed : item ∈ workItemFactsFromSnapshots projection composition thresholds) :
    ((flagsOf item).map fun pair => healthReason pair.1.ranked pair.2) = workReasons item := by
  rw [flagsOf, List.map_map, workReasons]
  refine List.map_congr_left fun flag raised => ?_
  have keys : (WorkItemKind.ofTarget flag.flag.target, canonicalIdOf flag.flag.target) = (item.kind, item.id) :=
    attention_key listed raised
  obtain ⟨kind, id⟩ := Prod.mk.inj keys
  simp only [Function.comp_apply, healthReason, RankableAttentionItem.ranked, kind, id]

theorem carried_repeated (found : productDetailFactsFromSnapshots productId projection composition thresholds = some facts) :
    (facts.carriedFlags.map fun pair => healthReason pair.1.ranked pair.2).Perm
      (repeated (carriers composition productId) workReasons
        (workItemFactsFromSnapshots projection composition thresholds)) := by
  have reasons : (facts.carriedFlags.map fun pair => healthReason pair.1.ranked pair.2) =
      (accountable composition productId).flatMap fun relationship =>
        ((workItemFactsFromSnapshots projection composition thresholds).filter (carries composition relationship)).flatMap
          workReasons := by
    rw [carriedFlags_eq found, List.map_flatMap]
    simp only [List.map_flatMap]
    refine List.flatMap_congr fun relationship _ => List.flatMap_congr fun item kept => ?_
    exact flagsOf_reasons (List.mem_of_mem_filter kept)
  rw [reasons]
  exact ways_repeated _ _ _

theorem find_unique {Record : Type} {id : Record → String} {records : List Record} (distinct : (records.map id).Nodup)
    (wanted : String) : (records.find? fun record => id record = wanted).toList = records.filter fun record => id record = wanted := by
  induction records with
  | nil => rfl
  | cons record rest same =>
    rw [List.map_cons, List.nodup_cons] at distinct
    rw [List.find?_cons, List.filter_cons]
    by_cases this : id record = wanted
    · have none : (rest.filter fun other => id other = wanted) = [] := by
        rw [List.filter_eq_nil_iff]
        intro other later equal
        exact distinct.1 (this ▸ (of_decide_eq_true equal) ▸ List.mem_map_of_mem later)
      simp [this, none]
    · simp only [this, decide_false, Bool.false_eq_true, if_false]
      exact same distinct.2

theorem evidence_repeated (unique : UniqueIds projection composition)
    (found : productDetailFactsFromSnapshots productId projection composition thresholds = some facts) :
    (facts.evidence.filterMap evidenceCondition).Perm
      (repeated (linksTo composition productId) (evidenceReasons composition) composition.evidenceReferences) := by
  have reasons : facts.evidence.filterMap evidenceCondition =
      (productEvidenceLinks composition productId).flatMap fun link =>
        (composition.evidenceReferences.filter fun reference => reference.id.asStr = link.evidenceId.asStr).flatMap
          (evidenceReasons composition) := by
    rw [(facts_of found).1, evidenceOf, List.filterMap_filterMap]
    rw [List.filterMap_eq_flatMap_toList]
    refine List.flatMap_congr fun link _ => ?_
    rw [← find_unique unique.evidenceReferences]
    cases composition.evidenceReferences.find? fun reference => reference.id.asStr = link.evidenceId.asStr with
    | none => rfl
    | some reference =>
      simp only [Option.map_some, Option.bind_some, Option.toList_some, List.flatMap_cons, List.flatMap_nil,
        List.append_nil]
      rfl
  rw [reasons]
  exact ways_repeated _ _ _

theorem reported (unique : UniqueIds projection composition)
    (found : productDetailFactsFromSnapshots productId projection composition thresholds = some facts) (ledgerRevision : Nat) :
    ∃ shown, composeProductDetail facts ledgerRevision = .ok shown ∧ shown.body.healthReasons.Perm
      (repeated (linksTo composition productId) (evidenceReasons composition) composition.evidenceReferences ++
        repeated (carriers composition productId) workReasons
          (workItemFactsFromSnapshots projection composition thresholds)) := by
  obtain ⟨shown, reasons, composed, answered, health, _⟩ := composeProductDetail_ok facts ledgerRevision
  obtain ⟨attributed, same, order⟩ := currentConditions_perm (sources_agree unique found)
  refine ⟨shown, composed, ?_⟩
  rw [answered] at same
  rw [health, Except.ok.inj same]
  exact (evidence_repeated unique found).append (order.trans (carried_repeated found))

theorem attributed_iff (unique : UniqueIds projection composition)
    (found : productDetailFactsFromSnapshots productId projection composition thresholds = some facts) (ledgerRevision : Nat) :
    Attributed projection composition thresholds productId facts ledgerRevision ↔
      ReachedOnce projection composition thresholds productId := by
  obtain ⟨shown, composed, order⟩ := reported unique found ledgerRevision
  constructor
  · rintro ⟨_, other, same, expected⟩
    cases composed.symm.trans same
    have evidence : (once (linksTo composition productId) (evidenceReasons composition)
        composition.evidenceReferences).length ≤ _ := length_once_le
    have work : (once (carriers composition productId) workReasons
        (workItemFactsFromSnapshots projection composition thresholds)).length ≤ _ := length_once_le
    have lengths := (order.symm.trans expected).length_eq
    rw [List.length_append, List.length_append] at lengths
    have total : (repeated (linksTo composition productId) (evidenceReasons composition)
        composition.evidenceReferences).length + (repeated (carriers composition productId) workReasons
          (workItemFactsFromSnapshots projection composition thresholds)).length =
      (once (linksTo composition productId) (evidenceReasons composition) composition.evidenceReferences).length +
        (once (carriers composition productId) workReasons
          (workItemFactsFromSnapshots projection composition thresholds)).length := lengths
    constructor
    · refine single_of_length ?_
      omega
    · refine single_of_length ?_
      omega
  · intro reached
    refine ⟨pairs_distinct unique List.filter_sublist, shown, composed, ?_⟩
    rw [repeated_eq_once reached.evidence, repeated_eq_once reached.work] at order
    exact order

/-- The conditions of a Product are attributed totally and once exactly when no record with a
condition is reached twice. -/
theorem conditions_attributed (unique : UniqueIds projection composition)
    (found : productDetailFactsFromSnapshots productId projection composition thresholds = some facts) (ledgerRevision : Nat) :
    Attributed projection composition thresholds productId facts ledgerRevision ↔
      ReachedOnce projection composition thresholds productId :=
  attributed_iff unique found ledgerRevision

end

def instant (unixMillis : Nat) (small : unixMillis < 2 ^ 62 := by decide) : UtcTimestamp :=
  ⟨unixMillis, by omega, by omega⟩

def one : AggregateVersion := ⟨1, AggregateVersion.initial.positive, AggregateVersion.initial.fits⟩

def person : StakeholderId := ⟨"stakeholder-a", by decide⟩

def overdue : ActionProjectionSource where
  id := ⟨"action-1", .refl true⟩
  classification := .internal
  sourceRevision := one
  state := .open
  dueAt := instant 1000
  sourceRequestId := ⟨"request-1", .refl true⟩
  sourceDecisionId := none

def projected : LedgerProjectionSnapshot := ⟨43, 7, instant 5000, [], [], [overdue], [], [], []⟩

def owning (purposes : List Relationships.StakeholderRelationshipPurpose) : LedgerCompositionSnapshot where
  ledgerRevision := 7
  ledgerAsOfUtc := instant 5000
  stakeholders := [⟨person, "A", .internal, one⟩]
  stakeholderRelationships := purposes.map fun purpose => ⟨person, "product", "product-1", purpose, .internal, one⟩
  milestones := []
  actionRequests := []
  decisionRequests := []
  issues := []
  risks := []
  portfolioRelationships := []
  products := [⟨⟨"product-1", .refl true⟩, "P", .internal, one⟩]
  initiatives := []
  projects := []
  roadmaps := []
  kpiDefinitions := []
  kpiObservations := []
  evidenceLinks := []
  evidenceReferences := []
  workOwners := [⟨"action", "action-1", person⟩]

def ordinary : AttentionThresholds := ⟨0, none⟩

theorem unique_owning (purposes : List Relationships.StakeholderRelationshipPurpose) :
    UniqueIds projected (owning purposes) :=
  ⟨.nil, by decide, .nil, .nil, .nil, .nil⟩

theorem responsible_attributed :
    ∃ facts, productDetailFactsFromSnapshots "product-1" projected (owning [.responsibility]) ordinary = some facts ∧
      Attributed projected (owning [.responsibility]) ordinary "product-1" facts 7 := by
  refine ⟨_, rfl, (conditions_attributed (unique_owning _) rfl 7).mpr ⟨fun _ among => ?_, fun item _ _ => ?_⟩⟩
  · cases among
  · exact (List.length_filter_le _ _).trans (by decide)

/-- Responsible for the Product and depending on it, the person carries the Action twice. -/
theorem reported_twice :
    ∃ facts, productDetailFactsFromSnapshots "product-1" projected (owning [.responsibility, .dependency]) ordinary =
        some facts ∧ ¬ Attributed projected (owning [.responsibility, .dependency]) ordinary "product-1" facts 7 := by
  refine ⟨_, rfl, fun attributed => ?_⟩
  have reached := (attributed_iff (unique_owning _) rfl 7).mp attributed
  have twice := reached.work (actionItem projected (owning [.responsibility, .dependency]) ordinary overdue)
    (by simp [workItemFactsFromSnapshots, projected]) (by decide)
  exact absurd twice (by decide)

end MissionControl.ProductConditions

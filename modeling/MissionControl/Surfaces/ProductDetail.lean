import MissionControl.Surfaces.People

/-! The Product detail: its structure, the Evidence linked to it, and the people
accountable for it with the work they carry. -/

namespace MissionControl.Surfaces
open Queue

structure ProductFacts where
  id : String
  name : String
  classification : DataClassification
  revision : Nat
  asOf : UtcTimestamp

structure StructureFacts where
  kind : ComposedEntityKind
  id : String
  label : String
  classification : DataClassification
  revision : Nat
  asOf : UtcTimestamp
  via : Option String

structure EvidenceFacts where
  id : String
  role : Option EvidenceRole
  verification : EvidenceVerification
  pinned : Bool
  classification : DataClassification
  classificationAtLink : DataClassification
  linkedAt : UtcTimestamp
  revision : Nat
  asOf : UtcTimestamp

structure PersonFacts where
  id : String
  displayName : String
  purpose : RelationshipPurpose
  classification : DataClassification
  revision : Nat
  asOf : UtcTimestamp
  otherProductsAccountableFor : Nat
  carried : List WorkItemFacts

structure ProductDetailFacts where
  product : ProductFacts
  structural : List StructureFacts
  evidence : List EvidenceFacts
  people : List PersonFacts

structure ClassificationFold where
  forcedByKind : ComposedEntityKind
  forcedById : String
  classification : DataClassification

structure StructureEntry where
  entity : ComposedEntity
  label : String
  via : Option String

structure EvidenceEntry where
  entity : ComposedEntity
  role : Option EvidenceRole
  verification : EvidenceVerification
  pinned : Bool
  classificationAtLink : DataClassification
  linkedAt : UtcTimestamp

structure CarriedWorkItem where
  kind : WorkItemKind
  id : String
  label : String
  stateLabel : String
  lifecycleLegalIntents : List String
  classification : DataClassification
  revision : Nat
  asOf : UtcTimestamp
  attention : List RankedAttentionItem

structure AccountablePerson where
  entity : ComposedEntity
  displayName : String
  purpose : RelationshipPurpose
  otherProductsAccountableFor : Nat
  carried : List CarriedWorkItem

inductive ImpactJudgment where
  | unassessed

structure ProductDetailBody where
  product : ComposedEntity
  productLabel : String
  classificationForcedBy : Option ClassificationFold
  structural : List StructureEntry
  evidence : List EvidenceEntry
  people : List AccountablePerson
  healthReasons : List (Sourced String)
  impact : ImpactJudgment

def structureOwner : ComposedEntityKind → OwnerModule
  | .kpi => .kpi
  | .project | .milestone | .roadmap => .delivery
  | _ => .portfolio

def kindOfWork : WorkItemKind → ComposedEntityKind
  | .actionRequest => .actionRequest
  | .action => .action
  | .decisionRequest => .decisionRequest
  | .risk => .risk
  | .issue => .issue

def foldClassification (folded : DataClassification × Option ClassificationFold)
    (item : ComposedEntityKind × String × DataClassification) : DataClassification × Option ClassificationFold :=
  let next := folded.1.combine item.2.2
  if next ≠ folded.1 then (next, some ⟨item.1, item.2.1, next⟩) else folded

def ProductDetailFacts.folds (facts : ProductDetailFacts) : List (ComposedEntityKind × String × DataClassification) :=
  (facts.structural.map fun child => (child.kind, child.id, child.classification)) ++
  (facts.evidence.flatMap fun evidence =>
    [(.evidence, evidence.id, evidence.classification), (.evidence, evidence.id, evidence.classificationAtLink)]) ++
  facts.people.flatMap fun person =>
    (.stakeholder, person.id, person.classification) ::
      person.carried.map fun item => (kindOfWork item.kind, item.id, item.classification)

def ProductDetailFacts.effectiveClassification (facts : ProductDetailFacts) :
    DataClassification × Option ClassificationFold :=
  facts.folds.foldl foldClassification (facts.product.classification, none)

structure ReasonSource where
  target : AttentionTarget
  revision : Nat
  asOf : UtcTimestamp

structure UnattributableReason where
  target : AttentionTarget

def ownerOf : WorkItemKind → OwnerModule
  | .actionRequest | .action => .actionManagement
  | .decisionRequest => .decisions
  | .risk => .risks
  | .issue => .issues

def healthReason (item : RankedAttentionItem) (source : ReasonSource) : Sourced String where
  value := item.flag.explanation
  provenance := ⟨ownerOf (.ofTarget item.flag.target), canonicalIdOf item.flag.target, "attention", source.revision,
    source.asOf⟩

def healthReasons (product : ComposedEntity) (sources : List ReasonSource) :
    Except UnattributableReason (List (Sourced String)) :=
  product.attention.mapM fun item =>
    match sources.find? fun source => source.target = item.flag.target with
    | some source => .ok (healthReason item source)
    | none => .error ⟨item.flag.target⟩

def verificationCondition : EvidenceVerification → Option String
  | .verified .. => none
  | .degradedLastVerified .. => some "its last verification is degraded"
  | .observedUnpinned .. => some "it carries no pinned fingerprint, so nothing was verified"
  | .unverified => some "it has not been verified"
  | .integrityMismatch => some "its integrity does not match"

def evidenceCondition (evidence : EvidenceFacts) : Option (Sourced String) :=
  (verificationCondition evidence.verification).map fun condition =>
    { value := "Evidence " ++ evidence.id ++ " is linked, but " ++ condition
      provenance := ⟨.evidence, evidence.id, "verification", evidence.revision, evidence.asOf⟩ }

def ProductDetailFacts.carriedFlags (facts : ProductDetailFacts) : List (RankableAttentionItem × ReasonSource) :=
  facts.people.flatMap fun person => person.carried.flatMap fun item =>
    item.attention.map fun flag => (flag, ⟨flag.flag.target, item.revision, item.asOf⟩)

def ProductDetailFacts.carrier (facts : ProductDetailFacts) : ComposedEntity :=
  { entity .product facts.product.id .portfolio facts.product.classification facts.product.revision facts.product.asOf with
    attention := rankAttention (facts.carriedFlags.map (·.1)) }

def ProductDetailFacts.currentConditions (facts : ProductDetailFacts) :
    Except UnattributableReason (List (Sourced String)) := do
  let reasons ← healthReasons facts.carrier (facts.carriedFlags.map (·.2))
  return facts.evidence.filterMap evidenceCondition ++ reasons

def StructureFacts.entry (child : StructureFacts) : StructureEntry where
  entity := entity child.kind child.id (structureOwner child.kind) child.classification child.revision child.asOf
  label := child.label
  via := child.via

def EvidenceFacts.entry (record : EvidenceFacts) : EvidenceEntry where
  entity := entity .evidence record.id .evidence record.classification record.revision record.asOf
  role := record.role
  verification := record.verification
  pinned := record.pinned
  classificationAtLink := record.classificationAtLink
  linkedAt := record.linkedAt

def carriedItem (item : WorkItemFacts) : CarriedWorkItem where
  kind := item.kind
  id := item.id
  label := item.label
  stateLabel := item.stateLabel
  lifecycleLegalIntents := item.lifecycleLegalIntents
  classification := item.classification
  revision := item.revision
  asOf := item.asOf
  attention := rankAttention item.attention

def PersonFacts.entry (person : PersonFacts) : AccountablePerson where
  entity := entity .stakeholder person.id .stakeholders person.classification person.revision person.asOf
  displayName := person.displayName
  purpose := person.purpose
  otherProductsAccountableFor := person.otherProductsAccountableFor
  carried := person.carried.map carriedItem

def composeProductDetail (facts : ProductDetailFacts) (ledgerRevision : Nat) :
    Except UnattributableReason (CompositionResult ProductDetailBody) := do
  let (classification, classificationForcedBy) := facts.effectiveClassification
  let health ← facts.currentConditions
  return {
    state := .success
    asOf := facts.product.asOf
    ledgerRevision
    body :=
      { product := entity .product facts.product.id .portfolio classification facts.product.revision facts.product.asOf
        productLabel := facts.product.name
        classificationForcedBy
        structural := facts.structural.map (·.entry)
        evidence := facts.evidence.map (·.entry)
        people := facts.people.map (·.entry)
        healthReasons := health
        impact := .unassessed } }

variable {facts : ProductDetailFacts}

theorem carried_target {pair : RankableAttentionItem × ReasonSource} (carried : pair ∈ facts.carriedFlags) :
    pair.2.target = pair.1.flag.target := by
  simp only [ProductDetailFacts.carriedFlags, List.mem_flatMap, List.mem_map] at carried
  obtain ⟨_, _, _, _, _, _, rfl⟩ := carried
  rfl

theorem sourced {item : RankedAttentionItem} (shown : item ∈ rankAttention (facts.carriedFlags.map (·.1))) :
    ∃ pair ∈ facts.carriedFlags, item = pair.1.ranked ∧ pair.2.target = item.flag.target := by
  rw [rankAttention, Sorting.mem_sortBy, List.map_map] at shown
  obtain ⟨pair, carried, rfl⟩ := List.mem_map.mp shown
  exact ⟨pair, carried, rfl, carried_target carried⟩

theorem healthReasons_ok {product : ComposedEntity} {sources : List ReasonSource}
    (all : ∀ item ∈ product.attention, ∃ source ∈ sources, source.target = item.flag.target) :
    ∃ reasons, healthReasons product sources = .ok reasons ∧ List.Forall₂ (fun item reason =>
      ∃ source ∈ sources, source.target = item.flag.target ∧ reason = healthReason item source)
      product.attention reasons := by
  unfold healthReasons
  generalize product.attention = items at all ⊢
  induction items with
  | nil => exact ⟨[], rfl, .nil⟩
  | cons item rest following =>
    obtain ⟨reasons, answered, attributed⟩ := following fun other later => all other (List.mem_cons_of_mem _ later)
    obtain ⟨given, member, targets⟩ := all item List.mem_cons_self
    cases found : sources.find? fun source => source.target = item.flag.target with
    | none =>
      have missing := List.find?_eq_none.mp found given member
      exact absurd targets (by simpa using missing)
    | some source =>
      refine ⟨healthReason item source :: reasons, ?_, .cons ⟨source, List.mem_of_find?_eq_some found, ?_, rfl⟩ attributed⟩
      · rw [List.mapM_cons, found, answered]
        rfl
      · simpa using List.find?_some found

theorem currentConditions_ok (facts : ProductDetailFacts) :
    ∃ reasons, facts.currentConditions = .ok (facts.evidence.filterMap evidenceCondition ++ reasons) ∧
      List.Forall₂ (fun item reason => ∃ source ∈ facts.carriedFlags.map (·.2),
        source.target = item.flag.target ∧ reason = healthReason item source)
        (rankAttention (facts.carriedFlags.map (·.1))) reasons := by
  have all : ∀ item ∈ rankAttention (facts.carriedFlags.map (·.1)),
      ∃ source ∈ facts.carriedFlags.map (·.2), source.target = item.flag.target := by
    intro item shown
    obtain ⟨pair, carried, _, targets⟩ := sourced shown
    exact ⟨pair.2, List.mem_map_of_mem carried, targets⟩
  have carried : ∀ item ∈ facts.carrier.attention,
      ∃ source ∈ facts.carriedFlags.map (·.2), source.target = item.flag.target := all
  obtain ⟨reasons, answered, attributed⟩ := healthReasons_ok carried
  refine ⟨reasons, ?_, attributed⟩
  unfold ProductDetailFacts.currentConditions
  rw [answered]
  rfl

theorem currentConditions_perm (agree : ∀ pair ∈ facts.carriedFlags,
    ∀ other ∈ facts.carriedFlags, pair.2.target = other.2.target → pair.2 = other.2) :
    ∃ reasons, facts.currentConditions = .ok (facts.evidence.filterMap evidenceCondition ++ reasons) ∧
      reasons.Perm (facts.carriedFlags.map fun pair => healthReason pair.1.ranked pair.2) := by
  obtain ⟨reasons, answered, attributed⟩ := currentConditions_ok facts
  refine ⟨reasons, answered, ?_⟩
  have found : ∀ source ∈ facts.carriedFlags.map (·.2), ∀ target, source.target = target →
      (facts.carriedFlags.map (·.2)).find? (fun other => other.target = target) = some source := by
    rintro source member target rfl
    obtain ⟨pair, carried, rfl⟩ := List.mem_map.mp member
    cases sought : (facts.carriedFlags.map (·.2)).find? fun other => other.target = pair.2.target with
    | none =>
      have missing := List.find?_eq_none.mp sought pair.2 member
      simp at missing
    | some other =>
      obtain ⟨second, listed, rfl⟩ := List.mem_map.mp (List.mem_of_find?_eq_some sought)
      have same : second.2.target = pair.2.target := by simpa using List.find?_some sought
      rw [agree second listed pair carried same]
  -- the reason that the attribution rule gives a flag
  let named := fun item : RankedAttentionItem => ((facts.carriedFlags.map (·.2)).find? fun source =>
    source.target = item.flag.target).map (healthReason item)
  have given : reasons.map some = (rankAttention (facts.carriedFlags.map (·.1))).map named := by
    clear answered
    generalize rankAttention (facts.carriedFlags.map (·.1)) = ranked at attributed ⊢
    induction attributed with
    | nil => rfl
    | cons answered _ same =>
      obtain ⟨source, member, targets, rfl⟩ := answered
      rw [List.map_cons, List.map_cons, ← same]
      simp only [named, found source member _ targets, Option.map_some]
  have own : (facts.carriedFlags.map fun pair => healthReason pair.1.ranked pair.2).map some =
      ((facts.carriedFlags.map (·.1)).map (·.ranked)).map named := by
    simp only [List.map_map]
    refine List.map_congr_left fun pair carried => ?_
    have sought := found pair.2 (List.mem_map_of_mem carried) _ (carried_target carried)
    simp only [Function.comp_apply, named, RankableAttentionItem.ranked, sought, Option.map_some]
  have same : (reasons.map some).Perm ((facts.carriedFlags.map fun pair => healthReason pair.1.ranked pair.2).map some) := by
    rw [given, own]
    exact (Sorting.sortBy_perm _ _).map named
  simpa using same.filterMap id

theorem composeProductDetail_ok (facts : ProductDetailFacts) (ledgerRevision : Nat) :
    ∃ shown reasons, composeProductDetail facts ledgerRevision = .ok shown ∧ facts.currentConditions = .ok reasons ∧
      shown.body.healthReasons = reasons ∧
      shown.body.product.classification = facts.effectiveClassification.1 ∧
      shown.body.classificationForcedBy = facts.effectiveClassification.2 ∧
      shown.body.structural = facts.structural.map (·.entry) ∧
      shown.body.evidence = facts.evidence.map (·.entry) ∧ shown.body.people = facts.people.map (·.entry) := by
  obtain ⟨reasons, answered, _⟩ := currentConditions_ok facts
  unfold composeProductDetail
  rw [answered]
  exact ⟨_, _, rfl, rfl, rfl, rfl, rfl, rfl, rfl, rfl⟩

end MissionControl.Surfaces

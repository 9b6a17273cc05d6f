import MissionControl.Surfaces.ProductDetail
import MissionControl.Surfaces.WorkItems

/-! Which records belong to one Product: those that edges of the Ledger lead to from it. -/

namespace MissionControl.Surfaces
open Projections Queue Relationships

section
variable (composition : LedgerCompositionSnapshot) (productId : String)

def related (kind : RelationshipKind) (otherType : String) : List String :=
  (composition.portfolioRelationships.filter fun relationship =>
    relationship.kind = kind && relationship.endpointId "product" = some productId).filterMap
      (·.endpointId otherType)

def namedStructure {kind : IdKind} (shown : ComposedEntityKind) (asOf : UtcTimestamp) (via : Option String)
    (record : NamedReadRecord kind) : StructureFacts where
  kind := shown
  id := record.id.asStr
  label := record.name
  classification := record.classification
  revision := record.version.get
  asOf
  via

def milestoneStructure (asOf : UtcTimestamp) (milestone : MilestoneReadRecord) : StructureFacts where
  kind := .milestone
  id := milestone.id.asStr
  label := milestone.name
  classification := milestone.classification
  revision := milestone.version.get
  asOf
  via := none

def initiativeVia (projectIds : List String) (initiative : String) : Option String :=
  composition.portfolioRelationships.findSome? fun relationship =>
    if relationship.kind = .initiativeProject then
      match relationship.endpointId "project", relationship.endpointId "initiative" with
      | some project, some other =>
        if other = initiative ∧ project ∈ projectIds then some ("project:" ++ project) else none
      | _, _ => none
    else none

def structureOf : List StructureFacts :=
  let asOf := composition.ledgerAsOfUtc
  let projectIds := related composition productId .projectProduct "project"
  let roadmapIds := related composition productId .productRoadmap "roadmap"
  let kpiIds := related composition productId .productKpi "kpi_definition"
  (composition.projects.filter fun project => projectIds.contains project.id.asStr).map
    (namedStructure .project asOf none) ++
  (composition.milestones.filter fun milestone => projectIds.contains milestone.projectId.asStr).map
    (milestoneStructure asOf) ++
  (composition.roadmaps.filter fun roadmap => roadmapIds.contains roadmap.id.asStr).map
    (namedStructure .roadmap asOf none) ++
  (composition.kpiDefinitions.filter fun kpi => kpiIds.contains kpi.id.asStr).map (namedStructure .kpi asOf none) ++
  composition.initiatives.filterMap fun initiative =>
    (initiativeVia composition projectIds initiative.id.asStr).map fun via =>
      namedStructure .initiative asOf (some via) initiative

def productEvidenceLinks : List EvidenceLinkReadRecord :=
  composition.evidenceLinks.filter fun link => link.targetType = "product" && link.targetId = productId

def evidenceFacts (asOf : UtcTimestamp) (link : EvidenceLinkReadRecord) (reference : EvidenceReferenceReadRecord) :
    EvidenceFacts where
  id := reference.id.asStr
  role := reference.role
  verification := reference.verification
  pinned := reference.pinned
  classification := reference.classification
  classificationAtLink := link.classificationAtLink
  linkedAt := link.linkedAt
  revision := reference.version.get
  asOf

def evidenceOf : List EvidenceFacts :=
  (productEvidenceLinks composition productId).filterMap fun link =>
    (composition.evidenceReferences.find? fun reference => reference.id.asStr = link.evidenceId.asStr).map
      (evidenceFacts composition.ledgerAsOfUtc link)

def productRelationships : List StakeholderRelationshipReadRecord :=
  composition.stakeholderRelationships.filter fun relationship =>
    relationship.subjectType = "product" && relationship.subjectId = productId

def stakeholderOf (relationship : StakeholderRelationshipReadRecord) : Option StakeholderReadRecord :=
  composition.stakeholders.find? fun stakeholder => stakeholder.id.asStr = relationship.stakeholderId.asStr

def otherProducts (relationship : StakeholderRelationshipReadRecord) : Nat :=
  (((composition.stakeholderRelationships.filter fun other =>
    other.stakeholderId.asStr = relationship.stakeholderId.asStr && (other.subjectType = "product" &&
      !decide (other.subjectId = productId))).map (·.subjectId)).dedup).length

def carries (relationship : StakeholderRelationshipReadRecord) (item : WorkItemFacts) : Bool :=
  composition.workOwners.any fun owner => owner.ownerId.asStr = relationship.stakeholderId.asStr &&
    (owner.targetType = item.kind.asStr && owner.targetId = item.id)

def personFacts (work : List WorkItemFacts) (relationship : StakeholderRelationshipReadRecord)
    (stakeholder : StakeholderReadRecord) : PersonFacts where
  id := stakeholder.id.asStr
  displayName := stakeholder.displayName
  purpose := purposeOf relationship.purpose
  classification := stakeholder.classification
  revision := stakeholder.version.get
  asOf := composition.ledgerAsOfUtc
  otherProductsAccountableFor := otherProducts composition productId relationship
  carried := work.filter (carries composition relationship)

def peopleOf (work : List WorkItemFacts) : List PersonFacts :=
  (productRelationships composition productId).filterMap fun relationship =>
    (stakeholderOf composition relationship).map (personFacts composition productId work relationship)

end

def productDetailFactsFromSnapshots (productId : String) (projection : LedgerProjectionSnapshot)
    (composition : LedgerCompositionSnapshot) (thresholds : AttentionThresholds) : Option ProductDetailFacts :=
  (composition.products.find? fun product => product.id.asStr = productId).map fun record =>
    { product := ⟨productId, record.name, record.classification, record.version.get, composition.ledgerAsOfUtc⟩
      structural := structureOf composition productId
      evidence := evidenceOf composition productId
      people := peopleOf composition productId (workItemFactsFromSnapshots projection composition thresholds) }

end MissionControl.Surfaces

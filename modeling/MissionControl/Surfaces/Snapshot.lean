import MissionControl.Projections.Artifacts
import MissionControl.Queue.Composition
import MissionControl.Relationships.Removal

/-! What the composed surfaces read of the Ledger in one read, and the envelope of what
they show. -/

namespace MissionControl.Surfaces
open Queue Relationships

structure StakeholderReadRecord where
  id : StakeholderId
  displayName : String
  classification : DataClassification
  version : AggregateVersion

structure StakeholderRelationshipReadRecord where
  stakeholderId : StakeholderId
  subjectType : String
  subjectId : String
  purpose : StakeholderRelationshipPurpose
  classification : DataClassification
  version : AggregateVersion

structure MilestoneReadRecord where
  id : MilestoneId
  projectId : ProjectId
  name : String
  dueAt : UtcTimestamp
  classification : DataClassification
  version : AggregateVersion

structure ActionRequestReadRecord where
  id : String
  title : String
  intendedOwnerId : Option StakeholderId
  state : ActionRequestState
  responseDueAt : Option UtcTimestamp
  intendedActionDueAt : Option UtcTimestamp
  classification : DataClassification
  version : AggregateVersion

structure DecisionRequestReadRecord where
  id : String
  subject : String
  intendedOwnerId : Option StakeholderId
  state : DecisionRequestState
  classification : DataClassification
  version : AggregateVersion

structure IssueReadRecord where
  id : String
  title : String
  state : IssueState
  recurrenceOfId : Option String
  classification : DataClassification
  version : AggregateVersion

structure RiskReadRecord where
  id : String
  title : String

structure RelationshipEndpointReadRecord where
  targetType : String
  targetId : String

structure PortfolioRelationshipReadRecord where
  id : String
  kind : RelationshipKind
  endpoints : RelationshipEndpointReadRecord × RelationshipEndpointReadRecord
  classification : DataClassification
  version : AggregateVersion

def PortfolioRelationshipReadRecord.endpointId (relationship : PortfolioRelationshipReadRecord) (targetType : String) :
    Option String :=
  ([relationship.endpoints.1, relationship.endpoints.2].find? fun endpoint => endpoint.targetType = targetType).map
    (·.targetId)

/-- A product, an initiative, a project, a roadmap or a KPI definition, by name. -/
structure NamedReadRecord (kind : IdKind) where
  id : OpaqueId kind
  name : String
  classification : DataClassification
  version : AggregateVersion

structure KpiObservationReadRecord where
  id : KpiObservationId
  kpiId : KpiId
  observedAt : UtcTimestamp
  classification : DataClassification
  version : AggregateVersion

structure EvidenceLinkReadRecord where
  evidenceId : EvidenceReferenceId
  targetType : String
  targetId : String
  classificationAtLink : DataClassification
  linkedAt : UtcTimestamp

structure EvidenceReferenceReadRecord where
  id : EvidenceReferenceId
  role : Option EvidenceRole
  verification : EvidenceVerification
  pinned : Bool
  classification : DataClassification
  version : AggregateVersion

structure WorkOwnerReadRecord where
  targetType : String
  targetId : String
  ownerId : StakeholderId

structure LedgerCompositionSnapshot where
  ledgerRevision : Nat
  ledgerAsOfUtc : UtcTimestamp
  stakeholders : List StakeholderReadRecord
  stakeholderRelationships : List StakeholderRelationshipReadRecord
  milestones : List MilestoneReadRecord
  actionRequests : List ActionRequestReadRecord
  decisionRequests : List DecisionRequestReadRecord
  issues : List IssueReadRecord
  risks : List RiskReadRecord
  portfolioRelationships : List PortfolioRelationshipReadRecord
  products : List (NamedReadRecord .product)
  initiatives : List (NamedReadRecord .initiative)
  projects : List (NamedReadRecord .project)
  roadmaps : List (NamedReadRecord .roadmap)
  kpiDefinitions : List (NamedReadRecord .kpi)
  kpiObservations : List KpiObservationReadRecord
  evidenceLinks : List EvidenceLinkReadRecord
  evidenceReferences : List EvidenceReferenceReadRecord
  workOwners : List WorkOwnerReadRecord

inductive OwnerModule where
  | portfolio | delivery | actionManagement | decisions | risks | issues | stakeholders | evidence | kpi

inductive ComposedEntityKind where
  | product | initiative | project | milestone | stakeholder | kpi | roadmap | evidence
  | actionRequest | action | decisionRequest | risk | issue

structure ComposedEntity where
  kind : ComposedEntityKind
  id : String
  owner : OwnerModule
  revision : Nat
  asOf : UtcTimestamp
  classification : DataClassification
  freshness : Freshness
  degraded : Bool
  attention : List RankedAttentionItem
  lifecycleLegalIntents : List String

/-- Composition offers no write, and reads nothing that is not current. -/
def entity (kind : ComposedEntityKind) (id : String) (owner : OwnerModule) (classification : DataClassification)
    (revision : Nat) (asOf : UtcTimestamp) : ComposedEntity where
  kind
  id
  owner
  revision
  asOf
  classification
  freshness := .fresh
  degraded := false
  attention := []
  lifecycleLegalIntents := []

structure FieldProvenance where
  owner : OwnerModule
  sourceRecordId : String
  sourceField : String
  sourceRevision : Nat
  asOf : UtcTimestamp

structure Sourced (α : Type) where
  value : α
  provenance : FieldProvenance

end MissionControl.Surfaces

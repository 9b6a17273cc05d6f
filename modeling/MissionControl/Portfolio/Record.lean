import MissionControl.Delivery.Record

/-! Portfolios, Products, Roadmaps, KPI definitions and their observations, the commands on
them, and what the Portfolio service keeps of a command that it has carried out. -/

namespace MissionControl.Portfolio
open Evidence (Provenance)
open Delivery (OperationContext)

abbrev ShortText := BoundedText 160
abbrev LongText := BoundedText 2000

structure PortfolioRecord where
  id : PortfolioId
  name : ShortText
  details : LongText
  classification : DataClassification
  provenance : Provenance
  version : AggregateVersion
  deriving DecidableEq

structure ProductRecord where
  id : ProductId
  name : ShortText
  details : LongText
  classification : DataClassification
  provenance : Provenance
  version : AggregateVersion
  deriving DecidableEq

structure RoadmapRecord where
  id : RoadmapId
  name : ShortText
  details : LongText
  classification : DataClassification
  provenance : Provenance
  version : AggregateVersion
  deriving DecidableEq

structure KpiDefinitionRecord where
  id : KpiId
  name : ShortText
  definition : LongText
  owner : ShortText
  target : ShortText
  cadence : ShortText
  source : LongText
  classification : DataClassification
  provenance : Provenance
  version : AggregateVersion
  deriving DecidableEq

structure KpiObservationRecord where
  id : KpiObservationId
  kpiId : KpiId
  value : ShortText
  observedAt : UtcTimestamp
  source : LongText
  classification : DataClassification
  provenance : Provenance
  version : AggregateVersion
  createdAt : UtcTimestamp
  updatedAt : UtcTimestamp
  deriving DecidableEq

structure MutationOutcome (Record : Type) where
  record : Record
  auditEvent : AuditEvent

/-- The source has one such command for each of Portfolio, Product and Roadmap. -/
structure CreateRecord (Id : Type) where
  id : Id
  name : ShortText
  details : LongText
  classification : Option DataClassification
  provenance : Provenance
  context : OperationContext

structure UpdateRecordDetails (Id : Type) where
  id : Id
  expectedVersion : AggregateVersion
  name : ShortText
  details : LongText
  classification : Option DataClassification
  context : OperationContext

abbrev CreatePortfolio := CreateRecord PortfolioId
abbrev UpdatePortfolioDetails := UpdateRecordDetails PortfolioId
abbrev CreateProduct := CreateRecord ProductId
abbrev UpdateProductDetails := UpdateRecordDetails ProductId
abbrev CreateRoadmap := CreateRecord RoadmapId
abbrev UpdateRoadmapDetails := UpdateRecordDetails RoadmapId

structure CreateKpiDefinition where
  id : KpiId
  name : ShortText
  definition : LongText
  owner : ShortText
  target : ShortText
  cadence : ShortText
  source : LongText
  classification : Option DataClassification
  provenance : Provenance
  context : OperationContext

structure UpdateKpiDefinitionDetails where
  id : KpiId
  expectedVersion : AggregateVersion
  name : ShortText
  definition : LongText
  owner : ShortText
  target : ShortText
  cadence : ShortText
  source : LongText
  classification : Option DataClassification
  context : OperationContext

structure CreateKpiObservation where
  id : KpiObservationId
  kpiId : KpiId
  value : ShortText
  observedAt : UtcTimestamp
  source : LongText
  classification : Option DataClassification
  provenance : Provenance
  context : OperationContext

structure UpdateKpiObservationDetails where
  id : KpiObservationId
  expectedVersion : AggregateVersion
  value : ShortText
  observedAt : UtcTimestamp
  source : LongText
  classification : Option DataClassification
  context : OperationContext

/-- A command without its context. -/
inductive CommandIdentity where
  | createPortfolio (id : PortfolioId) (name : ShortText) (details : LongText)
      (classification : Option DataClassification) (provenance : Provenance)
  | updatePortfolio (id : PortfolioId) (expectedVersion : AggregateVersion) (name : ShortText) (details : LongText)
      (classification : Option DataClassification)
  | createProduct (id : ProductId) (name : ShortText) (details : LongText)
      (classification : Option DataClassification) (provenance : Provenance)
  | updateProduct (id : ProductId) (expectedVersion : AggregateVersion) (name : ShortText) (details : LongText)
      (classification : Option DataClassification)
  | createRoadmap (id : RoadmapId) (name : ShortText) (details : LongText)
      (classification : Option DataClassification) (provenance : Provenance)
  | updateRoadmap (id : RoadmapId) (expectedVersion : AggregateVersion) (name : ShortText) (details : LongText)
      (classification : Option DataClassification)
  | createKpi (id : KpiId) (name : ShortText) (definition : LongText) (owner target cadence : ShortText)
      (source : LongText) (classification : Option DataClassification) (provenance : Provenance)
  | updateKpi (id : KpiId) (expectedVersion : AggregateVersion) (name : ShortText) (definition : LongText)
      (owner target cadence : ShortText) (source : LongText) (classification : Option DataClassification)
  | createObservation (id : KpiObservationId) (kpiId : KpiId) (value : ShortText) (observedAt : UtcTimestamp)
      (source : LongText) (classification : Option DataClassification) (provenance : Provenance)
  | updateObservation (id : KpiObservationId) (expectedVersion : AggregateVersion) (value : ShortText)
      (observedAt : UtcTimestamp) (source : LongText) (classification : Option DataClassification)
  | prepareLowerPortfolioClassification (portfolioId : PortfolioId) (expectedVersion : AggregateVersion)
      (proposedClassification : DataClassification) (rationale : WorkManagementRationale)
  | approveAndExecuteLowerPortfolioClassification (preparedId : PreparedIntentId) (actor : AuditActor)
      (acknowledgedPayloadDigest : WorkManagementPayloadDigest)
  | prepareLowerProductClassification (productId : ProductId) (expectedVersion : AggregateVersion)
      (proposedClassification : DataClassification) (rationale : WorkManagementRationale)
  | approveAndExecuteLowerProductClassification (preparedId : PreparedIntentId) (actor : AuditActor)
      (acknowledgedPayloadDigest : WorkManagementPayloadDigest)
  | prepareLowerRoadmapClassification (roadmapId : RoadmapId) (expectedVersion : AggregateVersion)
      (proposedClassification : DataClassification) (rationale : WorkManagementRationale)
  | approveAndExecuteLowerRoadmapClassification (preparedId : PreparedIntentId) (actor : AuditActor)
      (acknowledgedPayloadDigest : WorkManagementPayloadDigest)
  | prepareLowerKpiClassification (kpiId : KpiId) (expectedVersion : AggregateVersion)
      (proposedClassification : DataClassification) (rationale : WorkManagementRationale)
  | approveAndExecuteLowerKpiClassification (preparedId : PreparedIntentId) (actor : AuditActor)
      (acknowledgedPayloadDigest : WorkManagementPayloadDigest)
  | prepareLowerKpiObservationClassification (observationId : KpiObservationId) (expectedVersion : AggregateVersion)
      (proposedClassification : DataClassification) (rationale : WorkManagementRationale)
  | approveAndExecuteLowerKpiObservationClassification (preparedId : PreparedIntentId) (actor : AuditActor)
      (acknowledgedPayloadDigest : WorkManagementPayloadDigest)
  deriving DecidableEq

inductive StoredResult where
  | portfolio (outcome : MutationOutcome PortfolioRecord)
  | product (outcome : MutationOutcome ProductRecord)
  | roadmap (outcome : MutationOutcome RoadmapRecord)
  | kpi (outcome : MutationOutcome KpiDefinitionRecord)
  | observation (outcome : MutationOutcome KpiObservationRecord)

structure DerivedKpiObservationMutation where
  observationId : KpiObservationId
  previousVersion : AggregateVersion
  resultingVersion : AggregateVersion
  previousClassification : DataClassification
  resultingClassification : DataClassification
  previousUpdatedAt : UtcTimestamp
  resultingUpdatedAt : UtcTimestamp
  auditEventId : AuditEventId

structure StoredOutcome where
  command : CommandIdentity
  result : StoredResult
  correlationId : CorrelationId
  auditEventIds : List AuditEventId
  operationOrdinal : Nat
  derivedKpiObservationMutations : List DerivedKpiObservationMutation

structure PortfolioState where
  portfolios : KeyMap PortfolioId PortfolioRecord
  products : KeyMap ProductId ProductRecord
  roadmaps : KeyMap RoadmapId RoadmapRecord
  kpis : KeyMap KpiId KpiDefinitionRecord
  observations : KeyMap KpiObservationId KpiObservationRecord
  outcomes : KeyMap IdempotencyId StoredOutcome
  auditEvents : List AuditEvent
  nextOperationOrdinal : Nat

def PortfolioState.new : PortfolioState := ⟨∅, ∅, ∅, ∅, ∅, ∅, [], 0⟩

def operationError (code : ErrorCode) (key : MessageKey) (context : OperationContext) : DomainError :=
  .new code key context.correlationId (code = .platformInternal)

def idempotencyError (context : OperationContext) : DomainError :=
  .new .domainIdempotencyConflict ⟨"portfolio.idempotency_conflict", by decide⟩ context.correlationId false

end MissionControl.Portfolio

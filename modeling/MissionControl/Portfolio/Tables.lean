import MissionControl.Portfolio.Service
import MissionControl.Delivery.Tables

/-! The tables of the Portfolio records in the Ledger and the statements that read and write
them. A row that breaks a constraint of the schema is refused. -/

namespace MissionControl.Portfolio
open Checked
open Evidence (Provenance AggregateType RegistryRow fitsInteger)
open Delivery (OperationContext AuditRow PreparedIntentRow ApprovalReceiptRow storageError)

structure DetailsRow (Id : Type) where
  id : Id
  name : ShortText
  details : LongText
  provenance : Provenance

structure KpiDefinitionRow where
  id : KpiId
  name : ShortText
  definition : LongText
  owner : ShortText
  target : ShortText
  cadence : ShortText
  source : LongText
  provenance : Provenance

structure KpiObservationRow where
  id : KpiObservationId
  kpiId : KpiId
  value : ShortText
  observedAt : UtcTimestamp
  source : LongText
  provenance : Provenance

inductive RecordRow where
  | portfolio (row : DetailsRow PortfolioId)
  | product (row : DetailsRow ProductId)
  | roadmap (row : DetailsRow RoadmapId)
  | kpiDefinition (row : KpiDefinitionRow)
  | kpiObservation (row : KpiObservationRow)

/-- A record among all kinds. -/
structure RecordKey where
  aggregateType : AggregateType
  id : String
  deriving DecidableEq

def RecordRow.key : RecordRow → RecordKey
  | .portfolio row => ⟨.portfolio, row.id.asStr⟩
  | .product row => ⟨.product, row.id.asStr⟩
  | .roadmap row => ⟨.roadmap, row.id.asStr⟩
  | .kpiDefinition row => ⟨.kpiDefinition, row.id.asStr⟩
  | .kpiObservation row => ⟨.kpiObservation, row.id.asStr⟩

inductive PortfolioOperation where
  | createPortfolio | updatePortfolio | createProduct | updateProduct | createRoadmap | updateRoadmap
  | createKpiDefinition | updateKpiDefinition | createKpiObservation | updateKpiObservation
  | prepareLowerClassification | executeLowerClassification
  deriving DecidableEq

inductive ResultRecord where
  | portfolio (record : PortfolioRecord)
  | product (record : ProductRecord)
  | roadmap (record : RoadmapRecord)
  | kpiDefinition (record : KpiDefinitionRecord)
  | kpiObservation (record : KpiObservationRecord)

/-- The rows that keep a create or an update, its result, its audits and the observations it
raised. -/
structure CommandResultRow where
  operation : PortfolioOperation
  idempotencyId : IdempotencyId
  correlationId : CorrelationId
  operationOrdinal : Nat
  command : CommandIdentity
  result : ResultRecord
  auditEventIds : List AuditEventId
  derivedKpiObservationMutations : List DerivedKpiObservationMutation

/-- The rows that keep the request for a preview. The source has such tables for each kind of
record. -/
structure CommandPrepareRow where
  idempotencyId : IdempotencyId
  correlationId : CorrelationId
  operationOrdinal : Nat
  target : RecordKey
  expectedVersion : AggregateVersion
  proposedClassification : DataClassification
  rationale : WorkManagementRationale
  resultReference : PreparedIntentId

/-- The rows that keep an executed lowering, again of whichever kind of record. Of the result
they keep only which record it is. -/
structure CommandExecuteRow where
  idempotencyId : IdempotencyId
  correlationId : CorrelationId
  operationOrdinal : Nat
  target : RecordKey
  preparedId : PreparedIntentId
  actor : AuditActor
  acknowledgedDigest : WorkManagementPayloadDigest
  approvalReceiptId : ApprovalReceiptId
  auditEventId : AuditEventId

structure IdempotencyClaimRow where
  idempotencyId : IdempotencyId
  operation : PortfolioOperation

structure PortfolioTables where
  ledgerRevision : Nat
  registry : Relation RegistryRow String RegistryRow.id
  records : Relation RecordRow RecordKey RecordRow.key
  auditEvents : Relation AuditRow AuditEventId AuditRow.id
  commandResults : Relation CommandResultRow (PortfolioOperation × IdempotencyId) fun row => (row.operation, row.idempotencyId)
  commandPrepares : Relation CommandPrepareRow IdempotencyId CommandPrepareRow.idempotencyId
  commandExecutes : Relation CommandExecuteRow IdempotencyId CommandExecuteRow.idempotencyId
  preparedIntents : Relation PreparedIntentRow PreparedIntentId PreparedIntentRow.id
  approvalReceipts : Relation ApprovalReceiptRow ApprovalReceiptId ApprovalReceiptRow.id
  idempotencyClaims : Relation IdempotencyClaimRow IdempotencyId IdempotencyClaimRow.idempotencyId

def PortfolioTables.empty : PortfolioTables where
  ledgerRevision := 0
  registry := .empty
  records := .empty
  auditEvents := .empty
  commandResults := .empty
  commandPrepares := .empty
  commandExecutes := .empty
  preparedIntents := .empty
  approvalReceipts := .empty
  idempotencyClaims := .empty

namespace PortfolioTables
variable (tables : PortfolioTables)

def aggregate (key : RecordKey) : Option RegistryRow :=
  (tables.registry.find key.id).filter fun row => row.aggregateType = key.aggregateType

def standing (key : RecordKey) : Option (RegistryRow × RecordRow) :=
  (tables.aggregate key).bind fun registered => (tables.records.find key).map (registered, ·)

def observationsOf (id : KpiId) : List (RegistryRow × KpiObservationRow) :=
  Sorting.sortBy (fun one other => compare one.2.id other.2.id) (tables.records.rows.filterMap fun
    | .kpiObservation row =>
      if row.kpiId = id then (tables.aggregate (RecordRow.kpiObservation row).key).map (·, row) else none
    | _ => none)

def nextOperationOrdinal : Nat :=
  (tables.commandResults.rows.map CommandResultRow.operationOrdinal).foldl (fun next ordinal => max next (ordinal + 1)) 0

/-- One above the highest ordinal of the previews of this kind of record. -/
def nextPrepareOrdinal (aggregateType : AggregateType) : Nat :=
  (tables.commandPrepares.rows.filter fun row => row.target.aggregateType = aggregateType).foldl
    (fun next row => max next (row.operationOrdinal + 1)) 0

def nextExecuteOrdinal (aggregateType : AggregateType) : Nat :=
  (tables.commandExecutes.rows.filter fun row => row.target.aggregateType = aggregateType).foldl
    (fun next row => max next (row.operationOrdinal + 1)) 0

end PortfolioTables

section
variable (context : OperationContext)

def domainConflict (key : MessageKey) : DomainError := .new .domainConflict key context.correlationId false
def domainNotFound (key : MessageKey) : DomainError := .new .domainNotFound key context.correlationId false

def staleVersion (key : MessageKey) (current : AggregateVersion) : DomainError :=
  (domainConflict context key).withExtension (.currentVersion current)

def policyDenied : DomainError :=
  .new .securityPolicyDenied ⟨"classification.lowering_requires_governed_intent", .refl true⟩ context.correlationId false

end

variable (context : OperationContext)

def raisedClassification (current : DataClassification) : Option DataClassification → Except DomainError DataClassification
  | none => .ok current
  | some requested => if requested.combine current = requested then .ok requested else .error (policyDenied context)

def portfolioDisposition : AuditDisposition :=
  ⟨.notRequired, .notRequired, .succeeded, .complete, [recordMutated], by decide⟩

def buildAudit (id : AuditEventId) (occurredAt : UtcTimestamp) (target : AuditTarget) (code : AuditEventCode)
    (correlationId : CorrelationId) : AuditEvent :=
  .new id occurredAt .headOfProducts ⟨.portfolio, code, target⟩ correlationId portfolioDisposition

def persistPortfolioAudit (audit : AuditEvent) (tables : PortfolioTables) : Except DomainError PortfolioTables := do
  ensure (0 ≤ audit.occurredAt.unixMillis) (storageError context)
  let auditEvents ← require (storageError context) (tables.auditEvents.insert
    { id := audit.id
      occurredAt := audit.occurredAt
      code := audit.code
      target := audit.target
      correlationId := context.correlationId })
  return { tables with auditEvents }

def isPortfolioTarget : AuditTarget → Bool
  | .portfolio _ | .product _ | .roadmap _ | .kpi _ | .kpiObservation _ => true
  | _ => false

def decodeAudit (tables : PortfolioTables) (id : AuditEventId) : Except DomainError AuditEvent := do
  let row ← require (storageError context) (tables.auditEvents.find id)
  ensure (isPortfolioTarget row.target = true) (storageError context)
  return buildAudit id row.occurredAt row.target row.code row.correlationId

/-- A trigger claims the key of every outcome for the whole Ledger. -/
def claimIdempotency (operation : PortfolioOperation) (tables : PortfolioTables) : Except DomainError PortfolioTables := do
  let idempotencyClaims ← require (storageError context)
    (tables.idempotencyClaims.insert ⟨context.idempotencyId, operation⟩)
  return { tables with idempotencyClaims }

def persistIdempotencyClaim (operation : PortfolioOperation) (occurredAt : UtcTimestamp) (tables : PortfolioTables) :
    Except DomainError PortfolioTables := do
  ensure (0 ≤ occurredAt.unixMillis) (storageError context)
  claimIdempotency context operation tables

def advanceRevision (tables : PortfolioTables) : Except DomainError PortfolioTables := do
  ensure (fitsInteger (tables.ledgerRevision + 1)) (storageError context)
  return { tables with ledgerRevision := tables.ledgerRevision + 1 }

def registerAggregate (key : RecordKey) (classification : DataClassification) (occurredAt : UtcTimestamp)
    (tables : PortfolioTables) : Except DomainError PortfolioTables := do
  ensure (0 ≤ occurredAt.unixMillis) (storageError context)
  let registry ← require (storageError context) (tables.registry.insert
    { id := key.id
      aggregateType := key.aggregateType
      version := .initial
      classification
      createdAt := occurredAt
      updatedAt := occurredAt })
  return { tables with registry }

def insertRecord (row : RecordRow) (tables : PortfolioTables) : Except DomainError PortfolioTables := do
  let records ← require (storageError context) (tables.records.insert row)
  return { tables with records }

def reviseAggregate (key : RecordKey) (version : AggregateVersion) (classification : DataClassification)
    (updatedAt : UtcTimestamp) (tables : PortfolioTables) : Except DomainError PortfolioTables := do
  ensure (fitsInteger version.get) (storageError context)
  ensure ((tables.aggregate key).all (fun row => row.createdAt ≤ updatedAt) = true) (storageError context)
  return { tables with
    registry := tables.registry.update key.id (fun row =>
      if row.aggregateType = key.aggregateType then { row with version, classification, updatedAt } else row)
      fun row => by split <;> rfl }

end MissionControl.Portfolio

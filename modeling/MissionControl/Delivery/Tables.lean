import MissionControl.Delivery.Service
import MissionControl.Evidence.Tables

/-! The Delivery tables of the Ledger and the statements that read and write them. A row
that breaks a constraint of the schema is refused. -/

namespace MissionControl.Delivery
open Checked
open Evidence (Provenance AggregateType RegistryRow fitsInteger)

structure InitiativeRow where
  id : InitiativeId
  name : RecordName
  definedOutcome : DefinedOutcome
  provenance : Provenance

structure ProjectRow where
  id : ProjectId
  name : RecordName
  startAt : UtcTimestamp
  endAt : UtcTimestamp
  provenance : Provenance

structure MilestoneRow where
  id : MilestoneId
  projectId : ProjectId
  name : RecordName
  verificationCriteria : VerificationCriteria
  dueAt : UtcTimestamp
  provenance : Provenance

structure AuditRow where
  id : AuditEventId
  occurredAt : UtcTimestamp
  code : AuditEventCode
  target : AuditTarget
  correlationId : CorrelationId

inductive DeliveryOperation where
  | createInitiative | updateInitiative | createProject | updateProject | createMilestone | updateMilestone
  | prepareLowerClassification | executeLowerClassification
  deriving DecidableEq

structure CommandResultRow where
  operation : DeliveryOperation
  idempotencyId : IdempotencyId
  correlationId : CorrelationId
  operationOrdinal : Nat
  command : CommandIdentity
  result : StoredResult
  auditEventIds : List AuditEventId
  derivedMilestoneMutations : List DerivedMilestoneMutation

/-- The rows that keep the request for a preview. -/
structure CommandPrepareRow where
  idempotencyId : IdempotencyId
  correlationId : CorrelationId
  operationOrdinal : Nat
  target : AuditTarget
  expectedVersion : AggregateVersion
  proposedClassification : DataClassification
  rationale : WorkManagementRationale
  resultReference : PreparedIntentId

structure CommandExecuteRow where
  idempotencyId : IdempotencyId
  correlationId : CorrelationId
  operationOrdinal : Nat
  preparedId : PreparedIntentId
  actor : AuditActor
  acknowledgedDigest : WorkManagementPayloadDigest
  approvalReceiptId : ApprovalReceiptId
  result : StoredResult
  auditEventId : AuditEventId

structure PreparedIntentRow where
  id : PreparedIntentId
  payloadDigest : WorkManagementPayloadDigest
  expiresAt : UtcTimestamp
  createdAt : UtcTimestamp
  consumedAt : Option UtcTimestamp

structure ApprovalReceiptRow where
  id : ApprovalReceiptId
  preparedIntentId : PreparedIntentId
  idempotencyId : IdempotencyId
  approvedAt : UtcTimestamp
  expiresAt : UtcTimestamp

structure IdempotencyClaimRow where
  idempotencyId : IdempotencyId
  operation : DeliveryOperation

structure DeliveryTables where
  ledgerRevision : Nat
  registry : Relation RegistryRow String RegistryRow.id
  initiatives : Relation InitiativeRow InitiativeId InitiativeRow.id
  projects : Relation ProjectRow ProjectId ProjectRow.id
  milestones : Relation MilestoneRow MilestoneId MilestoneRow.id
  auditEvents : Relation AuditRow AuditEventId AuditRow.id
  commandResults : Relation CommandResultRow (DeliveryOperation × IdempotencyId) fun row => (row.operation, row.idempotencyId)
  commandPrepares : Relation CommandPrepareRow IdempotencyId CommandPrepareRow.idempotencyId
  commandExecutes : Relation CommandExecuteRow IdempotencyId CommandExecuteRow.idempotencyId
  preparedIntents : Relation PreparedIntentRow PreparedIntentId PreparedIntentRow.id
  approvalReceipts : Relation ApprovalReceiptRow ApprovalReceiptId ApprovalReceiptRow.id
  idempotencyClaims : Relation IdempotencyClaimRow IdempotencyId IdempotencyClaimRow.idempotencyId

def DeliveryTables.empty : DeliveryTables where
  ledgerRevision := 0
  registry := .empty
  initiatives := .empty
  projects := .empty
  milestones := .empty
  auditEvents := .empty
  commandResults := .empty
  commandPrepares := .empty
  commandExecutes := .empty
  preparedIntents := .empty
  approvalReceipts := .empty
  idempotencyClaims := .empty

namespace DeliveryTables
variable (tables : DeliveryTables)

def aggregate (id : String) (aggregateType : AggregateType) : Option RegistryRow :=
  (tables.registry.find id).filter fun row => row.aggregateType = aggregateType

def initiative (id : InitiativeId) : Option (RegistryRow × InitiativeRow) :=
  (tables.aggregate id.asStr .initiative).bind fun registered => (tables.initiatives.find id).map (registered, ·)

def project (id : ProjectId) : Option (RegistryRow × ProjectRow) :=
  (tables.aggregate id.asStr .project).bind fun registered => (tables.projects.find id).map (registered, ·)

def milestone (id : MilestoneId) : Option (RegistryRow × MilestoneRow) :=
  (tables.aggregate id.asStr .milestone).bind fun registered => (tables.milestones.find id).map (registered, ·)

def milestonesOf (id : ProjectId) : List (RegistryRow × MilestoneRow) :=
  Sorting.sortBy (fun one other => compare one.2.id other.2.id)
    (tables.milestones.rows.filterMap fun row => if row.projectId = id then tables.milestone row.id else none)

/-- One above the highest ordinal of the creates, the updates and the executed lowerings. -/
def nextOperationOrdinal : Nat :=
  (tables.commandResults.rows.map CommandResultRow.operationOrdinal ++
    tables.commandExecutes.rows.map CommandExecuteRow.operationOrdinal).foldl (fun next ordinal => max next (ordinal + 1)) 0

def nextPrepareOrdinal : Nat :=
  (tables.commandPrepares.rows.map CommandPrepareRow.operationOrdinal).foldl (fun next ordinal => max next (ordinal + 1)) 0

end DeliveryTables

section
variable (context : OperationContext)

def storageError : DomainError :=
  .new .platformInternal ⟨"ledger.persistence_failed", by decide⟩ context.correlationId true

def domainConflict (key : MessageKey) : DomainError := .new .domainConflict key context.correlationId false

def alreadyExists : DomainError := domainConflict context ⟨"delivery.already_exists", by decide⟩
def invalidPeriod : DomainError := domainConflict context ⟨"delivery.invalid_period", by decide⟩
def versionExhausted : DomainError := domainConflict context ⟨"delivery.version_exhausted", by decide⟩
def notALowering : DomainError := domainConflict context ⟨"delivery.classification_lowering_not_a_lowering", by decide⟩
def loweringInvalid : DomainError := domainConflict context ⟨"delivery.classification_lowering_invalid", by decide⟩
def loweringPreviewChanged : DomainError :=
  domainConflict context ⟨"delivery.classification_lowering_preview_changed", by decide⟩

def staleVersion (current : AggregateVersion) : DomainError :=
  (domainConflict context ⟨"delivery.stale_version", by decide⟩).withExtension (.currentVersion current)

def policyDenied : DomainError :=
  .new .securityPolicyDenied ⟨"classification.lowering_requires_governed_intent", by decide⟩ context.correlationId false

end

variable (context : OperationContext)

def raisedClassification (current : DataClassification) : Option DataClassification → Except DomainError DataClassification
  | none => .ok current
  | some requested => if requested.combine current = requested then .ok requested else .error (policyDenied context)

def deliveryDisposition : AuditDisposition :=
  ⟨.notRequired, .notRequired, .succeeded, .complete, [recordChanged], by decide⟩

def buildDeliveryAudit (id : AuditEventId) (occurredAt : UtcTimestamp) (target : AuditTarget) (code : AuditEventCode)
    (correlationId : CorrelationId) : AuditEvent :=
  .new id occurredAt .headOfProducts ⟨.portfolio, code, target⟩ correlationId deliveryDisposition

def persistDeliveryAudit (audit : AuditEvent) (target : AuditTarget) (tables : DeliveryTables) :
    Except DomainError DeliveryTables := do
  ensure (0 ≤ audit.occurredAt.unixMillis) (storageError context)
  let auditEvents ← require (storageError context) (tables.auditEvents.insert
    { id := audit.id
      occurredAt := audit.occurredAt
      code := audit.code
      target
      correlationId := context.correlationId })
  return { tables with auditEvents }

def isDeliveryTarget : AuditTarget → Bool
  | .initiative _ | .project _ | .milestone _ => true
  | _ => false

def decodeDeliveryAudit (tables : DeliveryTables) (id : AuditEventId) : Except DomainError AuditEvent := do
  let row ← require (storageError context) (tables.auditEvents.find id)
  ensure (isDeliveryTarget row.target = true) (storageError context)
  return buildDeliveryAudit id row.occurredAt row.target row.code row.correlationId

/-- A trigger claims the key of every outcome for the whole Ledger. -/
def claimIdempotency (operation : DeliveryOperation) (tables : DeliveryTables) : Except DomainError DeliveryTables := do
  let idempotencyClaims ← require (storageError context)
    (tables.idempotencyClaims.insert ⟨context.idempotencyId, operation⟩)
  return { tables with idempotencyClaims }

def persistDeliveryIdempotencyClaim (operation : DeliveryOperation) (occurredAt : UtcTimestamp) (tables : DeliveryTables) :
    Except DomainError DeliveryTables := do
  ensure (0 ≤ occurredAt.unixMillis) (storageError context)
  claimIdempotency context operation tables

def StoredResult.times : StoredResult → UtcTimestamp × UtcTimestamp
  | .initiative value => (value.createdAt, value.updatedAt)
  | .project value => (value.createdAt, value.updatedAt)
  | .milestone value => (value.createdAt, value.updatedAt)

def insertCommandResult (row : CommandResultRow) (tables : DeliveryTables) : Except DomainError DeliveryTables := do
  ensure (row.result.times.1 ≤ row.result.times.2) (storageError context)
  let commandResults ← require (storageError context) (tables.commandResults.insert row)
  return { tables with commandResults }

def advanceRevision (tables : DeliveryTables) : Except DomainError DeliveryTables := do
  ensure (fitsInteger (tables.ledgerRevision + 1)) (storageError context)
  return { tables with ledgerRevision := tables.ledgerRevision + 1 }

def registerAggregate (id : String) (aggregateType : AggregateType) (classification : DataClassification)
    (occurredAt : UtcTimestamp) (tables : DeliveryTables) : Except DomainError DeliveryTables := do
  ensure (0 ≤ occurredAt.unixMillis) (storageError context)
  let registry ← require (storageError context) (tables.registry.insert
    { id
      aggregateType
      version := .initial
      classification
      createdAt := occurredAt
      updatedAt := occurredAt })
  return { tables with registry }

def reviseAggregate (registered : RegistryRow) (version : AggregateVersion) (classification : DataClassification)
    (occurredAt : UtcTimestamp) (tables : DeliveryTables) : Except DomainError DeliveryTables := do
  ensure (fitsInteger version.get ∧ registered.createdAt ≤ occurredAt) (storageError context)
  return { tables with
    registry := tables.registry.update registered.id fun row => { row with version, classification, updatedAt := occurredAt } }

end MissionControl.Delivery

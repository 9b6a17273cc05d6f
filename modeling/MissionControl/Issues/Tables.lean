import MissionControl.Issues.Service
import MissionControl.Evidence.Tables

/-! The tables of the Issues in the Ledger and the statements that read and write them. A row
that breaks a constraint of the schema is refused. -/

namespace MissionControl.Issues
open Checked
open Evidence (RegistryRow fitsInteger)

structure IssueRow where
  id : IssueId
  title : IssueTitle
  details : IssueDetails
  state : IssueState
  resolutionType : Option IssueResolutionType
  resolutionRationale : Option WorkManagementRationale

structure IssueEvidenceRow where
  issueId : IssueId
  evidenceId : EvidenceReferenceId
  role : EvidenceRole
  deriving DecidableEq

structure IssueReopenRow where
  issueId : IssueId
  ordinal : Nat
  rationale : WorkManagementRationale
  occurredAt : UtcTimestamp

structure IssueSupportRow where
  issueId : IssueId
  ordinal : Nat
  support : PreparedIntentId

/-- The three transitions of an Issue. -/
inductive IssueH2aExecuteKind where
  | resolve | close | reopen
  deriving DecidableEq

def IssueH2aExecuteKind.evidenceRole : IssueH2aExecuteKind → EvidenceRole
  | .resolve => .issueResolution
  | .close => .issueClosureVerification
  | .reopen => .issueFailedVerification

inductive IssueOperation where
  | create
  | prepare (kind : IssueH2aExecuteKind)
  | prepareLowerClassification
  | execute (kind : IssueH2aExecuteKind)
  | executeLowerClassification
  | rejectPrepared
  deriving DecidableEq

structure SupportRow where
  preparedId : PreparedIntentId
  disposition : SupportDisposition
  classification : DataClassification
  judgments : List HumanJudgment
  evidence : List EvidenceReferenceMetadata

structure PreparedIntentRow where
  id : PreparedIntentId
  kind : Option IssueH2aExecuteKind
  payloadDigest : WorkManagementPayloadDigest
  classification : DataClassification
  primaryId : IssueId
  primaryVersion : AggregateVersion
  resolutionType : Option IssueResolutionType
  rationale : Option WorkManagementRationale
  expiresAt : UtcTimestamp
  createdAt : UtcTimestamp
  consumedAt : Option UtcTimestamp

structure AuditRow where
  id : AuditEventId
  occurredAt : UtcTimestamp
  code : AuditEventCode
  target : IssueId
  correlationId : CorrelationId
  approvalOutcome : AuditApprovalOutcome
  executionOutcome : AuditExecutionOutcome
  effectScope : AuditEffectScope
  effects : List AuditEffectCode

structure CommandCreateRow where
  idempotencyId : IdempotencyId
  correlationId : CorrelationId
  operationOrdinal : Nat
  issueId : IssueId
  title : IssueTitle
  details : IssueDetails
  classification : DataClassification
  auditEventId : AuditEventId

inductive PrepareRequest where
  | resolve (resolutionType : IssueResolutionType) (rationale : WorkManagementRationale)
  | close
  | reopen (rationale : WorkManagementRationale)
  | lowerClassification (proposedClassification : DataClassification) (rationale : WorkManagementRationale)
  deriving DecidableEq

structure CommandPrepareRow where
  idempotencyId : IdempotencyId
  correlationId : CorrelationId
  operationOrdinal : Nat
  issueId : IssueId
  expectedVersion : AggregateVersion
  request : PrepareRequest
  resultReference : PreparedIntentId

/-- The rows that keep an executed preview, again without what became of the Issue. A lowering
has no kind of transition. -/
structure CommandExecuteRow where
  idempotencyId : IdempotencyId
  kind : Option IssueH2aExecuteKind
  correlationId : CorrelationId
  operationOrdinal : Nat
  issueId : IssueId
  preparedId : PreparedIntentId
  actor : AuditActor
  acknowledgedDigest : WorkManagementPayloadDigest
  approvalReceiptId : ApprovalReceiptId
  auditEventId : AuditEventId

structure RejectPreparedRow where
  idempotencyId : IdempotencyId
  correlationId : CorrelationId
  operationOrdinal : Nat
  preparedIntentId : PreparedIntentId
  actor : AuditActor
  rejectedAt : UtcTimestamp
  auditEventId : AuditEventId

structure ApprovalReceiptRow where
  id : ApprovalReceiptId
  preparedIntentId : PreparedIntentId
  idempotencyId : IdempotencyId
  approvedAt : UtcTimestamp
  expiresAt : UtcTimestamp

structure IdempotencyClaimRow where
  idempotencyId : IdempotencyId
  operation : IssueOperation

structure IssueTables where
  ledgerRevision : Nat
  registry : Relation RegistryRow String RegistryRow.id
  issues : Relation IssueRow IssueId IssueRow.id
  issueEvidence : List IssueEvidenceRow
  reopenHistory : List IssueReopenRow
  supportHistory : List IssueSupportRow
  supports : Relation SupportRow PreparedIntentId SupportRow.preparedId
  preparedIntents : Relation PreparedIntentRow PreparedIntentId PreparedIntentRow.id
  auditEvents : Relation AuditRow AuditEventId AuditRow.id
  commandCreates : Relation CommandCreateRow IdempotencyId CommandCreateRow.idempotencyId
  commandPrepares : Relation CommandPrepareRow IdempotencyId CommandPrepareRow.idempotencyId
  commandExecutes : Relation CommandExecuteRow IdempotencyId CommandExecuteRow.idempotencyId
  rejectPrepareds : Relation RejectPreparedRow IdempotencyId RejectPreparedRow.idempotencyId
  approvalReceipts : Relation ApprovalReceiptRow ApprovalReceiptId ApprovalReceiptRow.id
  idempotencyClaims : Relation IdempotencyClaimRow IdempotencyId IdempotencyClaimRow.idempotencyId

def IssueTables.empty : IssueTables where
  ledgerRevision := 0
  registry := .empty
  issues := .empty
  issueEvidence := []
  reopenHistory := []
  supportHistory := []
  supports := .empty
  preparedIntents := .empty
  auditEvents := .empty
  commandCreates := .empty
  commandPrepares := .empty
  commandExecutes := .empty
  rejectPrepareds := .empty
  approvalReceipts := .empty
  idempotencyClaims := .empty

/-- One above the highest of these ordinals. -/
def nextOrdinal (ordinals : List Nat) : Nat := ordinals.foldl (fun next ordinal => max next (ordinal + 1)) 0

namespace IssueTables
variable (tables : IssueTables)

def aggregate (id : IssueId) : Option RegistryRow :=
  (tables.registry.find id.asStr).filter fun row => row.aggregateType = .issue

def standing (id : IssueId) : Option (RegistryRow × IssueRow) :=
  (tables.aggregate id).bind fun registered => (tables.issues.find id).map (registered, ·)

def evidenceOf (id : IssueId) (role : EvidenceRole) : List EvidenceReferenceId :=
  Sorting.sortBy compare ((tables.issueEvidence.filter fun row => row.issueId = id ∧ row.role = role).map
    IssueEvidenceRow.evidenceId)

def reopensOf (id : IssueId) : List IssueReopenRow :=
  Sorting.sortBy (Sorting.comparing compare IssueReopenRow.ordinal) (tables.reopenHistory.filter fun row => row.issueId = id)

def clearEvidence (id : IssueId) (role : EvidenceRole) : IssueTables :=
  { tables with issueEvidence := tables.issueEvidence.filter fun row => row.issueId ≠ id ∨ row.role ≠ role }

def nextReopen (id : IssueId) : Nat :=
  nextOrdinal ((tables.reopenHistory.filter fun row => row.issueId = id).map IssueReopenRow.ordinal)

def nextSupport (id : IssueId) : Nat :=
  nextOrdinal ((tables.supportHistory.filter fun row => row.issueId = id).map IssueSupportRow.ordinal)

def supportsOf (id : IssueId) : List IssueSupportRow :=
  Sorting.sortBy (Sorting.comparing compare IssueSupportRow.ordinal) (tables.supportHistory.filter fun row => row.issueId = id)

end IssueTables

section
variable (context : IssueOperationContext)

def storageError : DomainError := error .platformInternal ⟨"ledger.persistence_failed", .refl true⟩ context true

def ledgerConflict : DomainError :=
  error .domainIdempotencyConflict ⟨"ledger.idempotency_conflict", by decide⟩ context false

def recurrenceNotSupported : DomainError :=
  error .validationInvalidField ⟨"issue.recurrence_not_supported", by decide⟩ context false

end

variable (context : IssueOperationContext)

def insertAudit (row : AuditRow) (tables : IssueTables) : Except DomainError IssueTables := do
  ensure (0 ≤ row.occurredAt.unixMillis) (storageError context)
  let auditEvents ← require (storageError context) (tables.auditEvents.insert row)
  return { tables with auditEvents }

/-- A trigger claims the key of every command for the whole Ledger. -/
def claimIdempotency (operation : IssueOperation) (tables : IssueTables) : Except DomainError IssueTables := do
  let idempotencyClaims ← require (storageError context)
    (tables.idempotencyClaims.insert ⟨context.idempotencyId, operation⟩)
  return { tables with idempotencyClaims }

def claimedByOtherOperation (operation : IssueOperation) (tables : IssueTables) : Bool :=
  (tables.idempotencyClaims.find context.idempotencyId).any fun claim => claim.operation ≠ operation

def advanceRevision (tables : IssueTables) : Except DomainError IssueTables := do
  ensure (fitsInteger (tables.ledgerRevision + 1)) (storageError context)
  return { tables with ledgerRevision := tables.ledgerRevision + 1 }

def reviseIssue (id : IssueId) (version : AggregateVersion) (classification : Option DataClassification)
    (updatedAt : UtcTimestamp) (tables : IssueTables) : Except DomainError IssueTables := do
  ensure (fitsInteger version.get) (storageError context)
  ensure ((tables.aggregate id).all (fun row => row.createdAt ≤ updatedAt) = true) (storageError context)
  return { tables with
    registry := tables.registry.update id.asStr (fun row =>
      if row.aggregateType = .issue then
        { row with version, classification := classification.getD row.classification, updatedAt }
      else row) fun row => by split <;> rfl }

def insertEvidence (row : IssueEvidenceRow) (tables : IssueTables) : Except DomainError IssueTables := do
  ensure (row ∉ tables.issueEvidence) (storageError context)
  return { tables with issueEvidence := tables.issueEvidence ++ [row] }

def decodeIssueH2aSupport (tables : IssueTables) (preparedId : PreparedIntentId) (role : EvidenceRole) :
    Except DomainError SupportWitness := do
  let row ← require (storageError context) (tables.supports.find preparedId)
  ensure (∀ evidence ∈ row.evidence, evidence.role = role) (storageError context)
  let offered ← relabel (fun _ => storageError context) (EvidenceOrJudgment.new row.evidence row.judgments)
  relabel (fun _ => storageError context) offered.evaluateEvidenceRequired

def decodeIssueSupportHistoryEntry (tables : IssueTables) (support : PreparedIntentId) : Except DomainError SupportWitness := do
  let intent ← require (storageError context) (tables.preparedIntents.find support)
  let kind ← require (storageError context) intent.kind
  let witness ← decodeIssueH2aSupport context tables support kind.evidenceRole
  let header ← require (storageError context) (tables.supports.find support)
  ensure (header.disposition = witness.disposition ∧ header.classification = witness.classification) (storageError context)
  return witness

def decodeIssueH2aRecord (tables : IssueTables) (id : IssueId) : Except DomainError IssueRecord := do
  let (registered, issue) ← require (error .domainNotFound ⟨"issue.not_found", .refl true⟩ context false) (tables.standing id)
  let supportHistory ← (tables.supportsOf id).mapM fun row => decodeIssueSupportHistoryEntry context tables row.support
  ensure (registered.classification ≠ .unclassified) (storageError context)
  return {
    id
    sourceRiskId := none
    recurrenceOf := none
    title := issue.title
    details := issue.details
    classification := registered.classification
    state := issue.state
    resolutionType := issue.resolutionType
    resolutionRationale := issue.resolutionRationale
    resolutionEvidence := tables.evidenceOf id .issueResolution
    closureVerificationEvidence := tables.evidenceOf id .issueClosureVerification
    failedVerificationEvidence := tables.evidenceOf id .issueFailedVerification
    reopenRationales := (tables.reopensOf id).map IssueReopenRow.rationale
    supportHistory
    version := registered.version }

end MissionControl.Issues

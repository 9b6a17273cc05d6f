import MissionControl.Issues.Tables
import MissionControl.Lib.Run
import MissionControl.Lib.Transaction

/-! The commands of the Issue repository, each one transaction over the tables. Approvals and
rejections are decided by a throwaway service that is made of the present rows. -/

namespace MissionControl.Issues
open Checked Staging
open Evidence (RegistryRow fitsInteger)
open Actions (RejectedPreparedIntentOutcome preparedIntentRejectionAudit)

/-- What a command is called with besides itself: new identifiers, the time and what the
authorities answer. -/
structure Arguments where
  auditEventId : AuditEventId
  approvalReceiptId : ApprovalReceiptId
  occurredAt : UtcTimestamp
  authorize : AuditActor → Bool
  currentPolicy : WorkManagementOperation → IssueExecutionPolicy
  resolve : Nat → EvidenceReferenceId → Except IssueEvidenceAuthorityError EvidenceReferenceMetadata
  currentClassification : IssueId → DataClassification → Except IssueEvidenceAuthorityError DataClassification

def createdCode : AuditEventCode := ⟨"issue.created", by decide⟩

def createdAudit (context : IssueOperationContext) (id : AuditEventId) (occurredAt : UtcTimestamp) (issueId : IssueId) : AuditEvent :=
  .new id occurredAt .headOfProducts ⟨.workManagement, createdCode, .issue issueId⟩ context.correlationId
    ⟨.allowed, .notRequired, .succeeded, .complete, [createdCode], by decide⟩

def outcome (context : IssueOperationContext) (id : IssueId) (tables : IssueTables) :
    Except DomainError IssueMutationOutcome := do
  let replay ← require (storageError context) (tables.commandCreates.find context.idempotencyId)
  let audit ← require (storageError context) (tables.auditEvents.find replay.auditEventId)
  ensure (replay.correlationId = context.correlationId ∧ audit.correlationId = context.correlationId ∧
    audit.code = createdCode ∧ audit.target = id ∧ audit.approvalOutcome = .notRequired ∧
    audit.executionOutcome = .succeeded ∧ audit.effectScope = .complete ∧ audit.effects = [createdCode])
    (storageError context)
  let (registered, issue) ← require (storageError context) (tables.standing id)
  ensure (replay.issueId = id ∧ issue.state = .open ∧ issue.resolutionType = none ∧ issue.resolutionRationale = none)
    (storageError context)
  ensure (registered.classification ≠ .unclassified ∧ registered.version = .initial) (storageError context)
  return ⟨.new id issue.title issue.details registered.classification none none,
    [createdAudit context audit.id audit.occurredAt id], none⟩

/-- The throwaway service that holds one Issue, the previews at hand and its rejections. -/
structure IssueH2aRejectionReplay where
  prepared : WorkManagementPreparedIntent
  context : IssueOperationContext
  outcome : RejectedPreparedIntentOutcome

def rehydrate (record : IssueRecord) (prepared : Option WorkManagementPreparedIntent)
    (rejections : List IssueH2aRejectionReplay) : Service where
  state :=
    { authority := IssueStore.empty.insertFromRisk record
      own :=
        { prepared := prepared.elim ∅ fun intent => (∅ : KeyMap _ _).insert intent.id intent
          idem := rejections.foldl (fun idem rejection => idem.insert rejection.context.idempotencyId
            (.rejectPrepared rejection.prepared.id .headOfProducts, .rejected rejection.outcome)) ∅
          audits := rejections.map fun rejection => rejection.outcome.auditEvent } }
  failNextCommit := false

/-- A rejection is sound when its outcome and its audit say what the service would have said. -/
def validIssueRejection (rejection : IssueH2aRejectionReplay) (id : IssueId) : Bool :=
  let outcome := rejection.outcome
  let audit := outcome.auditEvent
  outcome.preparedIntentId = rejection.prepared.id ∧
    outcome.expiredAtRejection = decide (rejection.prepared.preview.expiresAt ≤ outcome.rejectedAt) ∧
    audit.occurredAt = outcome.rejectedAt ∧ audit.actor = .headOfProducts ∧ audit.module = .workManagement ∧
    audit.code.asStr = "issue.prepared_rejected" ∧ audit.target = .issue id ∧
    audit.correlationId = rejection.context.correlationId ∧ audit.policyOutcome = .allowed ∧
    audit.approvalOutcome = .rejected

def validSnapshot (record : IssueRecord) (prepared : Option WorkManagementPreparedIntent)
    (rejections : List IssueH2aRejectionReplay) : Bool :=
  (prepared.all fun intent =>
    ((issueTransition intent.operation).map (·.issueId)).or ((lowerTarget intent.operation)) = some record.id) ∧
  (rejections.map fun rejection => rejection.prepared.id).Nodup ∧
  (rejections.map fun rejection => rejection.context.idempotencyId).Nodup ∧
  (rejections.map fun rejection => rejection.outcome.auditEvent.id).Nodup ∧
  ∀ rejection ∈ rejections, (prepared.all fun intent => intent.id ≠ rejection.prepared.id) ∧
    rejectedIssueId rejection.prepared.operation = some record.id ∧ validIssueRejection rejection record.id
where
  lowerTarget : WorkManagementOperation → Option IssueId
    | .lowerIssueClassification issueId .. => some issueId
    | _ => none

section
variable [Sha256] (context : IssueOperationContext)

def IssueH2aExecuteKind.operation (kind : IssueH2aExecuteKind) (intent : PreparedIntentRow) : Option WorkManagementOperation :=
  match kind with
  | .resolve => do return .resolveIssue intent.primaryId intent.primaryVersion (← intent.resolutionType) (← intent.rationale)
  | .close => some (.closeIssue intent.primaryId intent.primaryVersion)
  | .reopen => do return .reopenIssue intent.primaryId intent.primaryVersion (← intent.rationale)

def rebuildPrepared (intent : PreparedIntentRow) (operation : WorkManagementOperation) (classification : DataClassification)
    (support : Option SupportWitness) : Except DomainError WorkManagementPreparedIntent := do
  let rebuilt ← relabel (fun _ => storageError context)
    (WorkManagementPreparedIntent.prepare intent.id operation classification support intent.createdAt)
  ensure (rebuilt.payloadDigest = intent.payloadDigest ∧ rebuilt.preview.classification = intent.classification ∧
    rebuilt.preview.expiresAt = intent.expiresAt) (storageError context)
  return rebuilt

def decodePreparedIntent (tables : IssueTables) (kind : IssueH2aExecuteKind) (preparedId : PreparedIntentId)
    (classification : DataClassification) (outstanding : Bool) : Except DomainError WorkManagementPreparedIntent := do
  let intent ← require (staleOrIllegal context) ((tables.preparedIntents.find preparedId).filter fun row =>
    row.kind = some kind ∧ (outstanding → row.consumedAt.isNone))
  let operation ← require (storageError context) (kind.operation intent)
  let support ← decodeIssueH2aSupport context tables preparedId kind.evidenceRole
  rebuildPrepared context intent operation classification (some support)

def rejectedCode : AuditEventCode := ⟨"issue.prepared_rejected", by decide⟩

def decodeRejection (tables : IssueTables) (id : IssueId) (classification : DataClassification) (row : RejectPreparedRow) :
    Except DomainError IssueH2aRejectionReplay := do
  let intent ← require (storageError context) (tables.preparedIntents.find row.preparedIntentId)
  let kind ← require (storageError context) intent.kind
  let prepared ← decodePreparedIntent context tables kind row.preparedIntentId classification false
  ensure (intent.consumedAt = some row.rejectedAt) (storageError context)
  let audit ← require (storageError context)
    (preparedIntentRejectionAudit row.auditEventId row.rejectedAt "issue.prepared_rejected" (.issue id) row.correlationId)
  let stored ← require (storageError context) (tables.auditEvents.find row.auditEventId)
  ensure (stored.occurredAt = row.rejectedAt ∧ stored.code = rejectedCode ∧ stored.target = id ∧
    stored.correlationId = row.correlationId ∧ stored.approvalOutcome = .rejected ∧
    stored.executionOutcome = .notAttempted ∧ stored.effectScope = .none ∧ stored.effects = []) (storageError context)
  return ⟨prepared, ⟨row.idempotencyId, row.correlationId⟩,
    ⟨prepared.id, row.rejectedAt, decide (prepared.preview.expiresAt ≤ row.rejectedAt), audit⟩⟩

def decodeIssueRejections (tables : IssueTables) (id : IssueId) (classification : DataClassification) :
    Except DomainError (List IssueH2aRejectionReplay) :=
  ((Sorting.sortBy (Sorting.comparing compare RejectPreparedRow.operationOrdinal) tables.rejectPrepareds.rows).filter fun row =>
    (tables.preparedIntents.find row.preparedIntentId).any fun intent => intent.primaryId = id).mapM
      (decodeRejection context tables id classification)

def Arguments.ports (arguments : Arguments) (receipted : Bool) : Ports where
  now _ := arguments.occurredAt
  nextPreparedIntentId := none
  nextApprovalReceiptId := if receipted then some arguments.approvalReceiptId else none
  nextAuditEventId _ := some arguments.auditEventId
  authorize := arguments.authorize
  currentPolicy := if receipted then arguments.currentPolicy else fun _ => .allowed
  resolve := if receipted then arguments.resolve else fun _ _ => .error .unavailable
  currentClassification := if receipted then arguments.currentClassification else fun _ recorded => .ok recorded

end

variable [Sha256]

namespace SqliteProductLedger

def createIssue (command : CreateIssue) (arguments : Arguments) (tables : IssueTables) :
    Except DomainError (IssueTables × IssueMutationOutcome) := do
  let context := command.context
  match tables.commandCreates.find context.idempotencyId with
  | some row =>
    ensure (row.issueId = command.id ∧ row.title = command.title ∧ row.details = command.details ∧
      row.classification = command.classification ∧ command.recurrenceOf = none) (ledgerConflict context)
    return (tables, ← outcome context command.id tables)
  | none =>
    ensure (command.recurrenceOf = none) (recurrenceNotSupported context)
    ensure (command.classification ≠ .unclassified) (storageError context)
    ensure ((tables.idempotencyClaims.find context.idempotencyId).isNone = true) (ledgerConflict context)
    ensure ((tables.registry.find command.id.asStr).isNone = true) (ledgerConflict context)
    let registry ← require (storageError context) (tables.registry.insert
      { id := command.id.asStr
        aggregateType := .issue
        version := .initial
        classification := command.classification
        createdAt := arguments.occurredAt
        updatedAt := arguments.occurredAt })
    let issues ← require (storageError context) (tables.issues.insert
      { id := command.id
        title := command.title
        details := command.details
        state := .open
        resolutionType := none
        resolutionRationale := none })
    let tables ← insertAudit context
      { id := arguments.auditEventId
        occurredAt := arguments.occurredAt
        code := createdCode
        target := command.id
        correlationId := context.correlationId
        approvalOutcome := .notRequired
        executionOutcome := .succeeded
        effectScope := .complete
        effects := [createdCode] } { tables with registry, issues }
    let operationOrdinal := nextOrdinal (tables.commandCreates.rows.map CommandCreateRow.operationOrdinal)
    let tables ← claimIdempotency context .create tables
    let commandCreates ← require (storageError context) (tables.commandCreates.insert
      { idempotencyId := context.idempotencyId
        correlationId := context.correlationId
        operationOrdinal
        issueId := command.id
        title := command.title
        details := command.details
        classification := command.classification
        auditEventId := arguments.auditEventId })
    let tables : IssueTables := { tables with commandCreates }
    let mutation ← outcome context command.id tables
    let tables ← advanceRevision context tables
    return (tables, mutation)

end SqliteProductLedger

structure PrepareTransition where
  kind : IssueH2aExecuteKind
  issueId : IssueId
  expectedVersion : AggregateVersion
  request : PrepareRequest
  operation : WorkManagementOperation
  resolutionType : Option IssueResolutionType
  rationale : Option WorkManagementRationale
  evidenceIds : List EvidenceReferenceId
  judgment : Option HumanJudgment
  context : IssueOperationContext

def PrepareResolveIssue.transition (command : PrepareResolveIssue) : PrepareTransition where
  kind := .resolve
  issueId := command.issueId
  expectedVersion := command.expectedVersion
  request := .resolve command.resolutionType command.rationale
  operation := .resolveIssue command.issueId command.expectedVersion command.resolutionType command.rationale
  resolutionType := some command.resolutionType
  rationale := some command.rationale
  evidenceIds := command.evidenceIds
  judgment := command.judgment
  context := command.context

def PrepareCloseIssue.transition (command : PrepareCloseIssue) : PrepareTransition where
  kind := .close
  issueId := command.issueId
  expectedVersion := command.expectedVersion
  request := .close
  operation := .closeIssue command.issueId command.expectedVersion
  resolutionType := none
  rationale := none
  evidenceIds := command.evidenceIds
  judgment := command.judgment
  context := command.context

def PrepareReopenIssue.transition (command : PrepareReopenIssue) : PrepareTransition where
  kind := .reopen
  issueId := command.issueId
  expectedVersion := command.expectedVersion
  request := .reopen command.rationale
  operation := .reopenIssue command.issueId command.expectedVersion command.rationale
  resolutionType := none
  rationale := some command.rationale
  evidenceIds := command.evidenceIds
  judgment := command.judgment
  context := command.context

def IssueH2aExecuteKind.required : IssueH2aExecuteKind → IssueState
  | .resolve => .open
  | .close | .reopen => .resolved

def supportMatchesCommand (prepared : WorkManagementPreparedIntent) (evidenceIds : List EvidenceReferenceId)
    (judgment : Option HumanJudgment) : Bool :=
  prepared.preview.support.any fun support =>
    evidenceIds ≠ [] ∧
      ((EvidenceOrJudgment.new support.evidence support.judgments).toOption.bind
        fun offered => offered.evaluateEvidenceRequired.toOption) = some support ∧
      support.evidence.map (·.id) = evidenceIds ∧ support.judgments = judgment.toList

def preparedIntentDigestMatches (tables : IssueTables) (prepared : WorkManagementPreparedIntent) : Bool :=
  (tables.preparedIntents.find prepared.id).map (·.payloadDigest) = some prepared.payloadDigest

def persistPreparedIntent (context : IssueOperationContext) (prepared : WorkManagementPreparedIntent)
    (kind : Option IssueH2aExecuteKind) (issueId : IssueId) (expectedVersion : AggregateVersion)
    (resolutionType : Option IssueResolutionType) (rationale : Option WorkManagementRationale) (tables : IssueTables) :
    Except DomainError IssueTables := do
  let createdAt ← require (storageError context) (prepared.preview.expiresAt.checkedAdd (-workManagementH2aTtlMillis))
  ensure (0 ≤ createdAt.unixMillis) (storageError context)
  ensure (fitsInteger expectedVersion.get) (storageError context)
  let preparedIntents ← require (storageError context) (tables.preparedIntents.insert
    { id := prepared.id
      kind
      payloadDigest := prepared.payloadDigest
      classification := prepared.preview.classification
      primaryId := issueId
      primaryVersion := expectedVersion
      resolutionType
      rationale
      expiresAt := prepared.preview.expiresAt
      createdAt
      consumedAt := none })
  return { tables with preparedIntents }

def persistIssueH2aSupport (context : IssueOperationContext) (prepared : WorkManagementPreparedIntent) (role : EvidenceRole)
    (tables : IssueTables) : Except DomainError IssueTables := do
  let support ← require (storageError context) prepared.preview.support
  ensure (∀ evidence ∈ support.evidence, evidence.role = role) (storageError context)
  ensure (support.evidence.map (·.id)).Nodup (storageError context)
  let supports ← require (storageError context) (tables.supports.insert
    { preparedId := prepared.id
      disposition := support.disposition
      classification := support.classification
      judgments := support.judgments
      evidence := support.evidence })
  return { tables with supports }

def persistPrepare (context : IssueOperationContext) (operation : IssueOperation) (issueId : IssueId)
    (expectedVersion : AggregateVersion) (request : PrepareRequest) (prepared : WorkManagementPreparedIntent)
    (ordinals : List Nat) (tables : IssueTables) : Except DomainError IssueTables := do
  let tables ← claimIdempotency context operation tables
  let commandPrepares ← require (storageError context) (tables.commandPrepares.insert
    { idempotencyId := context.idempotencyId
      correlationId := context.correlationId
      operationOrdinal := nextOrdinal ordinals
      issueId
      expectedVersion
      request
      resultReference := prepared.id })
  advanceRevision context { tables with commandPrepares }

def PrepareRequest.lowers : PrepareRequest → Bool
  | .lowerClassification .. => true
  | _ => false

def IssueTables.prepareOrdinals (tables : IssueTables) (lowers : Bool) : List Nat :=
  (tables.commandPrepares.rows.filter fun row => row.request.lowers = lowers).map CommandPrepareRow.operationOrdinal

def IssueTables.executeOrdinals (tables : IssueTables) (lowers : Bool) : List Nat :=
  (tables.commandExecutes.rows.filter fun row => row.kind.isNone = lowers).map CommandExecuteRow.operationOrdinal

def prepareTransition (command : PrepareTransition) (prepared : WorkManagementPreparedIntent) (tables : IssueTables) :
    Except DomainError (IssueTables × WorkManagementPreparedIntent) := do
  let context := command.context
  ensure (claimedByOtherOperation context (.prepare command.kind) tables = false) (ledgerConflict context)
  match tables.commandPrepares.find context.idempotencyId with
  | some existing =>
    ensure (existing.issueId = command.issueId ∧ existing.expectedVersion = command.expectedVersion ∧
      existing.request = command.request ∧ existing.resultReference = prepared.id ∧
      supportMatchesCommand prepared command.evidenceIds command.judgment = true ∧
      preparedIntentDigestMatches tables prepared = true) (ledgerConflict context)
    return (tables, prepared)
  | none =>
    let (registered, issue) ← require (notFoundError context) (tables.standing command.issueId)
    ensure (issue.state = command.kind.required ∧ registered.version = command.expectedVersion) (staleOrIllegal context)
    ensure (prepared.operation = command.operation ∧
      supportMatchesCommand prepared command.evidenceIds command.judgment = true) (staleOrIllegal context)
    let ordinals := tables.prepareOrdinals false
    let tables ← persistPreparedIntent context prepared (some command.kind) command.issueId command.expectedVersion
      command.resolutionType command.rationale tables
    let tables ← persistIssueH2aSupport context prepared command.kind.evidenceRole tables
    let tables ← persistPrepare context (.prepare command.kind) command.issueId command.expectedVersion command.request
      prepared ordinals tables
    return (tables, prepared)

namespace SqliteProductLedger

def prepareResolveIssue (command : PrepareResolveIssue) := prepareTransition command.transition
def prepareCloseIssue (command : PrepareCloseIssue) := prepareTransition command.transition
def prepareReopenIssue (command : PrepareReopenIssue) := prepareTransition command.transition

def prepareLowerIssueClassification (command : PrepareLowerIssueClassification) (prepared : WorkManagementPreparedIntent)
    (tables : IssueTables) : Except DomainError (IssueTables × WorkManagementPreparedIntent) := do
  let context := command.context
  let request := .lowerClassification command.proposedClassification command.rationale
  ensure (claimedByOtherOperation context .prepareLowerClassification tables = false) (ledgerConflict context)
  match tables.commandPrepares.find context.idempotencyId with
  | some existing =>
    ensure (existing.issueId = command.issueId ∧ existing.expectedVersion = command.expectedVersion ∧
      existing.request = request ∧ existing.resultReference = prepared.id ∧
      preparedIntentDigestMatches tables prepared = true) (ledgerConflict context)
    return (tables, prepared)
  | none =>
    let (registered, _) ← require (notFoundError context) (tables.standing command.issueId)
    ensure (registered.version = command.expectedVersion) (staleOrIllegal context)
    ensure (prepared.operation = .lowerIssueClassification command.issueId command.expectedVersion registered.classification
      command.proposedClassification command.rationale) (staleOrIllegal context)
    let ordinals := tables.prepareOrdinals true
    let tables ← persistPreparedIntent context prepared none command.issueId command.expectedVersion none none tables
    let tables ← persistPrepare context .prepareLowerClassification command.issueId command.expectedVersion request prepared
      ordinals tables
    return (tables, prepared)

end SqliteProductLedger

def persistExecution (context : IssueOperationContext) (operation : IssueOperation) (kind : Option IssueH2aExecuteKind)
    (approval : WorkManagementApproval) (outcome : IssueMutationOutcome) (audit : AuditEvent)
    (approvalReceiptId : ApprovalReceiptId) (operationOrdinal : Nat) (tables : IssueTables) :
    Except DomainError IssueTables := do
  let occurredAt := audit.occurredAt
  let tables ← insertAudit context
    { id := audit.id
      occurredAt
      code := audit.code
      target := outcome.record.id
      correlationId := context.correlationId
      approvalOutcome := .approved
      executionOutcome := .succeeded
      effectScope := .complete
      effects := audit.actualEffects.take 1 } tables
  ensure (audit.actualEffects ≠ []) (storageError context)
  let intent ← require (storageError context) (tables.preparedIntents.find approval.preparedId)
  ensure (intent.createdAt ≤ occurredAt ∧ occurredAt ≤ intent.expiresAt) (storageError context)
  ensure (∀ row ∈ tables.approvalReceipts.rows, row.preparedIntentId ≠ approval.preparedId) (storageError context)
  let approvalReceipts ← require (storageError context) (tables.approvalReceipts.insert
    { id := approvalReceiptId
      preparedIntentId := approval.preparedId
      idempotencyId := context.idempotencyId
      approvedAt := occurredAt
      expiresAt := intent.expiresAt })
  let tables : IssueTables := { tables with
    preparedIntents := tables.preparedIntents.update approval.preparedId fun row =>
      { row with consumedAt := row.consumedAt.or (some occurredAt) }
    approvalReceipts }
  let tables ← claimIdempotency context operation tables
  let commandExecutes ← require (storageError context) (tables.commandExecutes.insert
    { idempotencyId := context.idempotencyId
      kind
      correlationId := context.correlationId
      operationOrdinal
      issueId := outcome.record.id
      preparedId := approval.preparedId
      actor := .headOfProducts
      acknowledgedDigest := approval.acknowledgedPayloadDigest
      approvalReceiptId
      auditEventId := audit.id })
  return { tables with commandExecutes }

def insertReopen (context : IssueOperationContext) (kind : IssueH2aExecuteKind) (record : IssueRecord)
    (occurredAt : UtcTimestamp) (tables : IssueTables) : Except DomainError IssueTables := do
  if kind = .reopen then
    let rationale ← require (storageError context) record.reopenRationales.getLast?
    return { tables with reopenHistory := tables.reopenHistory ++
      [⟨record.id, tables.nextReopen record.id, rationale, occurredAt⟩] }
  else return tables

/-- The classification of the Issue is not written. -/
def persistIssueExecuteBundle (context : IssueOperationContext) (kind : IssueH2aExecuteKind)
    (approval : WorkManagementApproval) (outcome : IssueMutationOutcome) (operationOrdinal : Nat) (tables : IssueTables) :
    Except DomainError IssueTables := do
  let record := outcome.record
  let audit ← require (storageError context) outcome.auditEvents.head?
  let approvalReceiptId ← require (storageError context) outcome.approvalReceiptId
  let tables ← reviseIssue context record.id record.version none audit.occurredAt
    { tables with issues := tables.issues.update record.id fun row =>
        { row with
          state := record.state
          resolutionType := record.resolutionType
          resolutionRationale := record.resolutionRationale } }
  -- a resolution and a closure replace the evidence of the one before, a reopening adds to it
  let tables := if kind = .reopen then tables else tables.clearEvidence record.id kind.evidenceRole
  let support ← require (storageError context) (tables.supports.find approval.preparedId)
  let tables ← (support.evidence.map (·.id)).foldlM (fun tables evidenceId =>
    insertEvidence context ⟨record.id, evidenceId, kind.evidenceRole⟩ tables) tables
  let tables ← insertReopen context kind record audit.occurredAt tables
  let tables : IssueTables := { tables with supportHistory := tables.supportHistory ++
    [⟨record.id, tables.nextSupport record.id, approval.preparedId⟩] }
  persistExecution context (.execute kind) (some kind) approval outcome audit approvalReceiptId operationOrdinal tables

def persistLoweredIssueBundle (context : IssueOperationContext) (approval : WorkManagementApproval)
    (outcome : IssueMutationOutcome) (operationOrdinal : Nat) (tables : IssueTables) : Except DomainError IssueTables := do
  let record := outcome.record
  let audit ← require (storageError context) outcome.auditEvents.head?
  let approvalReceiptId ← require (storageError context) outcome.approvalReceiptId
  let tables ← reviseIssue context record.id record.version (some record.classification) audit.occurredAt tables
  persistExecution context .executeLowerClassification none approval outcome audit approvalReceiptId operationOrdinal tables

def decodeReplayAudit (context : IssueOperationContext) (tables : IssueTables) (id : AuditEventId) :
    Except DomainError AuditEvent := do
  let row ← require (storageError context) (tables.auditEvents.find id)
  return .new id row.occurredAt .headOfProducts ⟨.workManagement, row.code, .issue row.target⟩ row.correlationId
    ⟨.allowed, .approved, .succeeded, .complete, [row.code], rfl⟩

/-- The Issue is read as it stands now, not as the execution left it. -/
def replayIssueExecuteOutcome (context : IssueOperationContext) (existing : CommandExecuteRow) (tables : IssueTables) :
    Except DomainError IssueMutationOutcome := do
  let record ← decodeIssueH2aRecord context tables existing.issueId
  let audit ← decodeReplayAudit context tables existing.auditEventId
  return ⟨record, [audit], some existing.approvalReceiptId⟩

def IssueH2aExecuteKind.execute (kind : IssueH2aExecuteKind) :
    Service → Ports → ApproveAndExecuteIssueTransition → Service × Except DomainError IssueMutationOutcome :=
  match kind with
  | .resolve => approveAndExecuteResolve
  | .close => approveAndExecuteClose
  | .reopen => approveAndExecuteReopen

def approveAndExecuteIssueH2a (kind : IssueH2aExecuteKind) (command : ApproveAndExecuteIssueTransition)
    (arguments : Arguments) (tables : IssueTables) : Except DomainError (IssueTables × IssueMutationOutcome) := do
  let context := command.context
  let approval := command.approval
  ensure (claimedByOtherOperation context (.execute kind) tables = false) (ledgerConflict context)
  match (tables.commandExecutes.find context.idempotencyId).filter fun row => row.kind = some kind with
  | some existing =>
    ensure (existing.preparedId = approval.preparedId ∧ existing.actor = approval.actor ∧
      existing.acknowledgedDigest = approval.acknowledgedPayloadDigest) (ledgerConflict context)
    return (tables, ← replayIssueExecuteOutcome context existing tables)
  | none =>
    let intent ← require (staleOrIllegal context) ((tables.preparedIntents.find approval.preparedId).filter fun row =>
      row.kind = some kind ∧ row.consumedAt.isNone)
    let record ← decodeIssueH2aRecord context tables intent.primaryId
    let prepared ← decodePreparedIntent context tables kind approval.preparedId record.classification true
    let rejections ← decodeIssueRejections context tables intent.primaryId record.classification
    ensure (validSnapshot record (some prepared) rejections = true) (storageError context)
    let outcome ← (kind.execute (rehydrate record (some prepared) rejections) (arguments.ports true) command).2
    ensure (outcome.auditEvents.length = 1 ∧ outcome.approvalReceiptId = some arguments.approvalReceiptId)
      (storageError context)
    let operationOrdinal := nextOrdinal (tables.executeOrdinals false)
    let tables ← persistIssueExecuteBundle context kind approval outcome operationOrdinal tables
    let tables ← advanceRevision context tables
    return (tables, outcome)

def loweringRequest (tables : IssueTables) (preparedId : PreparedIntentId) :
    Option (DataClassification × WorkManagementRationale) :=
  (tables.commandPrepares.rows.find? fun row => row.resultReference = preparedId ∧ row.request.lowers = true).bind fun row =>
    match row.request with
    | .lowerClassification proposedClassification rationale => some (proposedClassification, rationale)
    | _ => none

def decodeLowerIssueClassificationPrepared (context : IssueOperationContext) (tables : IssueTables)
    (intent : PreparedIntentRow) (record : IssueRecord) : Except DomainError WorkManagementPreparedIntent := do
  let (proposedClassification, rationale) ← require (storageError context) (loweringRequest tables intent.id)
  rebuildPrepared context intent (.lowerIssueClassification record.id record.version record.classification
    proposedClassification rationale) record.classification none

namespace SqliteProductLedger

def approveAndExecuteResolveIssue := approveAndExecuteIssueH2a .resolve
def approveAndExecuteCloseIssue := approveAndExecuteIssueH2a .close
def approveAndExecuteReopenIssue := approveAndExecuteIssueH2a .reopen

def approveAndExecuteLowerIssueClassification (command : ApproveAndExecuteIssueTransition) (arguments : Arguments)
    (tables : IssueTables) : Except DomainError (IssueTables × IssueMutationOutcome) := do
  let context := command.context
  let approval := command.approval
  ensure (claimedByOtherOperation context .executeLowerClassification tables = false) (ledgerConflict context)
  match (tables.commandExecutes.find context.idempotencyId).filter fun row => row.kind = none with
  | some existing =>
    ensure (existing.preparedId = approval.preparedId ∧ existing.actor = approval.actor ∧
      existing.acknowledgedDigest = approval.acknowledgedPayloadDigest ∧
      approval.idempotencyId = context.idempotencyId) (ledgerConflict context)
    return (tables, ← replayIssueExecuteOutcome context existing tables)
  | none =>
    let intent ← require (staleOrIllegal context) ((tables.preparedIntents.find approval.preparedId).filter fun row =>
      row.kind = none ∧ row.consumedAt.isNone)
    let record ← decodeIssueH2aRecord context tables intent.primaryId
    let prepared ← decodeLowerIssueClassificationPrepared context tables intent record
    ensure (validSnapshot record (some prepared) [] = true) (storageError context)
    let outcome ← (Issues.approveAndExecuteLowerIssueClassification (rehydrate record (some prepared) [])
      (arguments.ports true) command).2
    ensure (outcome.auditEvents.length = 1 ∧ outcome.approvalReceiptId = some arguments.approvalReceiptId)
      (storageError context)
    let operationOrdinal := nextOrdinal (tables.executeOrdinals true)
    let tables ← persistLoweredIssueBundle context approval outcome operationOrdinal tables
    let tables ← advanceRevision context tables
    return (tables, outcome)

/-- A rejection issued again has to be the same; a new one needs a free key and a preview that was
consumed by nothing but a rejection. -/
def admitRejection (command : RejectIssuePreparedIntent) (tables : IssueTables) : Except DomainError Unit := do
  let context := command.context
  match tables.rejectPrepareds.find context.idempotencyId with
  | some row =>
    ensure (row.preparedIntentId = command.preparedId ∧ row.actor = command.actor) (ledgerConflict context)
  | none =>
    ensure ((tables.idempotencyClaims.find context.idempotencyId).isNone = true) (ledgerConflict context)
    ensure ((tables.preparedIntents.find command.preparedId).all (fun intent =>
      intent.kind.isNone ∨ intent.consumedAt.isNone ∨
        tables.rejectPrepareds.rows.any fun row => row.preparedIntentId = command.preparedId) = true) (staleOrIllegal context)

def pendingPreview (context : IssueOperationContext) (tables : IssueTables) (kind : IssueH2aExecuteKind)
    (intent : PreparedIntentRow) (preparedId : PreparedIntentId) (classification : DataClassification) :
    Except DomainError (Option WorkManagementPreparedIntent) :=
  if intent.consumedAt.isNone = true then
    some <$> decodePreparedIntent context tables kind preparedId classification true
  else .ok none

def persistIssuePreparedIntentRejection (context : IssueOperationContext) (operationOrdinal : Nat)
    (outcome : RejectedPreparedIntentOutcome) (tables : IssueTables) : Except DomainError IssueTables := do
  let audit := outcome.auditEvent
  let issueId ← require (storageError context) (match audit.target with
    | .issue id => some id
    | _ => none)
  let intent ← require (storageError context)
    ((tables.preparedIntents.find outcome.preparedIntentId).filter fun row => row.consumedAt.isNone)
  ensure (intent.kind.isSome = true ∧ intent.createdAt ≤ outcome.rejectedAt) (storageError context)
  let tables ← insertAudit context
    { id := audit.id
      occurredAt := audit.occurredAt
      code := audit.code
      target := issueId
      correlationId := context.correlationId
      approvalOutcome := .rejected
      executionOutcome := .notAttempted
      effectScope := .none
      effects := [] }
    { tables with preparedIntents := tables.preparedIntents.update outcome.preparedIntentId fun row =>
        { row with consumedAt := some outcome.rejectedAt } }
  ensure (∀ row ∈ tables.rejectPrepareds.rows, row.preparedIntentId ≠ outcome.preparedIntentId ∧
    row.auditEventId ≠ audit.id) (storageError context)
  let tables ← claimIdempotency context .rejectPrepared tables
  let rejectPrepareds ← require (storageError context) (tables.rejectPrepareds.insert
    { idempotencyId := context.idempotencyId
      correlationId := context.correlationId
      operationOrdinal
      preparedIntentId := outcome.preparedIntentId
      actor := .headOfProducts
      rejectedAt := outcome.rejectedAt
      auditEventId := audit.id })
  return { tables with rejectPrepareds }

def rejectIssuePreparedIntent (command : RejectIssuePreparedIntent) (arguments : Arguments) (tables : IssueTables) :
    Except DomainError (IssueTables × RejectedPreparedIntentOutcome) := do
  let context := command.context
  admitRejection command tables
  let intent ← require (notFoundError context)
    ((tables.preparedIntents.find command.preparedId).filter fun row => row.kind.isSome)
  let kind ← require (storageError context) intent.kind
  let record ← decodeIssueH2aRecord context tables intent.primaryId
  let rejections ← decodeIssueRejections context tables intent.primaryId record.classification
  let prepared ← pendingPreview context tables kind intent command.preparedId record.classification
  ensure (validSnapshot record prepared rejections = true) (storageError context)
  let outcome ← (Issues.rejectIssuePreparedIntent (rehydrate record prepared rejections) (arguments.ports false) command).2
  if (tables.rejectPrepareds.find context.idempotencyId).isSome then return (tables, outcome)
  else
    ensure (outcome.auditEvent.id = arguments.auditEventId) (storageError context)
    let operationOrdinal := nextOrdinal (tables.rejectPrepareds.rows.map RejectPreparedRow.operationOrdinal)
    let tables ← persistIssuePreparedIntentRejection context operationOrdinal outcome tables
    let _ ← decodeIssueRejections context tables intent.primaryId record.classification
    let tables ← advanceRevision context tables
    return (tables, outcome)

end SqliteProductLedger

inductive Command where
  | createIssue (command : CreateIssue)
  | prepareResolveIssue (command : PrepareResolveIssue) (prepared : WorkManagementPreparedIntent)
  | prepareCloseIssue (command : PrepareCloseIssue) (prepared : WorkManagementPreparedIntent)
  | prepareReopenIssue (command : PrepareReopenIssue) (prepared : WorkManagementPreparedIntent)
  | prepareLowerIssueClassification (command : PrepareLowerIssueClassification) (prepared : WorkManagementPreparedIntent)
  | approveAndExecuteResolveIssue (command : ApproveAndExecuteIssueTransition)
  | approveAndExecuteCloseIssue (command : ApproveAndExecuteIssueTransition)
  | approveAndExecuteReopenIssue (command : ApproveAndExecuteIssueTransition)
  | approveAndExecuteLowerIssueClassification (command : ApproveAndExecuteIssueTransition)
  | rejectIssuePreparedIntent (command : RejectIssuePreparedIntent)

inductive Answer where
  | mutation (outcome : IssueMutationOutcome)
  | prepared (prepared : WorkManagementPreparedIntent)
  | rejected (outcome : RejectedPreparedIntentOutcome)

def answering {α : Type} (answer : α → Answer) (result : Except DomainError (IssueTables × α)) :
    Except DomainError (IssueTables × Answer) :=
  result.map fun (tables, value) => (tables, answer value)

def Command.operation (arguments : Arguments) (tables : IssueTables) : Command → Except DomainError (IssueTables × Answer)
  | .createIssue command => answering .mutation (SqliteProductLedger.createIssue command arguments tables)
  | .prepareResolveIssue command prepared =>
    answering .prepared (SqliteProductLedger.prepareResolveIssue command prepared tables)
  | .prepareCloseIssue command prepared => answering .prepared (SqliteProductLedger.prepareCloseIssue command prepared tables)
  | .prepareReopenIssue command prepared =>
    answering .prepared (SqliteProductLedger.prepareReopenIssue command prepared tables)
  | .prepareLowerIssueClassification command prepared =>
    answering .prepared (SqliteProductLedger.prepareLowerIssueClassification command prepared tables)
  | .approveAndExecuteResolveIssue command =>
    answering .mutation (SqliteProductLedger.approveAndExecuteResolveIssue command arguments tables)
  | .approveAndExecuteCloseIssue command =>
    answering .mutation (SqliteProductLedger.approveAndExecuteCloseIssue command arguments tables)
  | .approveAndExecuteReopenIssue command =>
    answering .mutation (SqliteProductLedger.approveAndExecuteReopenIssue command arguments tables)
  | .approveAndExecuteLowerIssueClassification command =>
    answering .mutation (SqliteProductLedger.approveAndExecuteLowerIssueClassification command arguments tables)
  | .rejectIssuePreparedIntent command =>
    answering .rejected (SqliteProductLedger.rejectIssuePreparedIntent command arguments tables)

def Command.context : Command → IssueOperationContext
  | .createIssue command => command.context
  | .prepareResolveIssue command _ => command.context
  | .prepareCloseIssue command _ => command.context
  | .prepareReopenIssue command _ => command.context
  | .prepareLowerIssueClassification command _ => command.context
  | .approveAndExecuteResolveIssue command | .approveAndExecuteCloseIssue command
  | .approveAndExecuteReopenIssue command | .approveAndExecuteLowerIssueClassification command => command.context
  | .rejectIssuePreparedIntent command => command.context

/-- One call of the repository, which commits. -/
def Moves (turn : Command × Arguments) (before after : IssueTables) : Prop :=
  ∃ answer, turn.1.operation turn.2 before = .ok (after, answer)

end MissionControl.Issues

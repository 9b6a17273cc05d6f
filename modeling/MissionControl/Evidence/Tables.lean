import MissionControl.Evidence.Record
import MissionControl.Lib.Relation

/-! The Evidence tables of the Ledger and the statements that read and write them. A row
that breaks a constraint of the schema is refused. -/

namespace MissionControl.Evidence
open Checked

inductive AggregateType where
  | portfolio | product | initiative | project | roadmap | milestone | kpiDefinition | kpiObservation | stakeholder
  | evidenceReference | actionRequest | action | decisionRequest | decision | risk | issue | relationship
  deriving DecidableEq

def EvidenceLinkTarget.aggregateType : EvidenceLinkTarget → AggregateType
  | .product _ => .product
  | .initiative _ => .initiative
  | .project _ => .project
  | .roadmap _ => .roadmap
  | .milestone _ => .milestone
  | .kpi _ => .kpiDefinition
  | .kpiObservation _ => .kpiObservation
  | .actionRequest _ => .actionRequest
  | .action _ => .action
  | .decisionRequest _ => .decisionRequest
  | .decision _ => .decision
  | .risk _ => .risk
  | .issue _ => .issue

structure RegistryRow where
  id : String
  aggregateType : AggregateType
  version : AggregateVersion
  classification : DataClassification
  createdAt : UtcTimestamp
  updatedAt : UtcTimestamp

structure EvidenceReferenceRow where
  id : EvidenceReferenceId
  verification : EvidenceVerification
  vaultPath : VaultRelativePath
  fingerprint : Option EvidenceFingerprint
  provenance : Provenance

structure CreateResultRow where
  command : CreateEvidenceReference
  resultClassification : DataClassification
  resultCreatedAt : UtcTimestamp
  auditEventId : AuditEventId

structure LinkResultRow where
  command : LinkEvidence
  resultClassification : DataClassification
  resultLinkedAt : UtcTimestamp
  auditEventId : AuditEventId

structure VerificationResultRow where
  command : UpdateEvidenceVerification
  vaultPath : VaultRelativePath
  resultVersion : AggregateVersion
  auditEventId : AuditEventId

structure RelocationResultRow where
  command : RelocateEvidenceReference
  resultVersion : AggregateVersion
  auditEventId : AuditEventId

structure PinResultRow where
  command : PinEvidenceFingerprint
  resultVersion : AggregateVersion
  auditEventId : AuditEventId

structure PrepareResultRow where
  command : PrepareSupersedeEvidenceReference
  resultReference : PreparedIntentId

structure ExecuteResultRow where
  idempotencyId : IdempotencyId
  preparedId : PreparedIntentId
  actor : AuditActor
  acknowledgedDigest : EvidenceSupersessionPayloadDigest
  replacementId : EvidenceReferenceId
  auditEventId : AuditEventId

/-- What a prepared supersession has besides its row among the prepared intents. -/
structure SupersessionPayloadRow where
  sourceId : EvidenceReferenceId
  sourceVersion : AggregateVersion
  sourceVaultPath : VaultRelativePath
  sourceFingerprint : Option EvidenceFingerprint
  sourceClassification : DataClassification
  replacementId : EvidenceReferenceId
  replacementVaultPath : VaultRelativePath
  replacementFingerprint : EvidenceFingerprint
  replacementObservedAt : UtcTimestamp
  replacementClassification : DataClassification
  replacementProvenance : Provenance
  links : List EvidenceSupersessionLinkSnapshot
  classification : DataClassification
  rationale : WorkManagementRationale

structure PreparedIntentRow where
  id : PreparedIntentId
  payloadDigest : EvidenceSupersessionPayloadDigest
  expiresAt : UtcTimestamp
  createdAt : UtcTimestamp
  consumedAt : Option UtcTimestamp
  supersession : Option SupersessionPayloadRow

structure ApprovalReceiptRow where
  id : ApprovalReceiptId
  preparedIntentId : PreparedIntentId
  actor : AuditActor
  acknowledgedPayloadDigest : EvidenceSupersessionPayloadDigest
  idempotencyId : IdempotencyId
  approvedAt : UtcTimestamp
  expiresAt : UtcTimestamp

structure SupersessionRow where
  sourceId : EvidenceReferenceId
  replacementId : EvidenceReferenceId
  sourceNewVersion : AggregateVersion
  occurredAt : UtcTimestamp
  rationale : WorkManagementRationale
  approvalReceiptId : ApprovalReceiptId
  preparedIntentId : PreparedIntentId

structure ReservationRequest where
  kind : AggregateType
  operation : String
  deriving DecidableEq

structure ReservationRow where
  idempotencyId : IdempotencyId
  request : ReservationRequest
  generatedId : String

structure EvidenceTables where
  ledgerRevision : Nat
  registry : Relation RegistryRow String RegistryRow.id
  references : Relation EvidenceReferenceRow EvidenceReferenceId EvidenceReferenceRow.id
  links : Relation EvidenceLinkRecord (EvidenceReferenceId × EvidenceLinkTarget) fun row => (row.evidenceId, row.target)
  supersessions : Relation SupersessionRow EvidenceReferenceId SupersessionRow.sourceId
  preparedIntents : Relation PreparedIntentRow PreparedIntentId PreparedIntentRow.id
  approvalReceipts : Relation ApprovalReceiptRow ApprovalReceiptId ApprovalReceiptRow.id
  creations : Relation CreateResultRow IdempotencyId fun row => row.command.context.idempotencyId
  linkings : Relation LinkResultRow IdempotencyId fun row => row.command.context.idempotencyId
  verifications : Relation VerificationResultRow IdempotencyId fun row => row.command.context.idempotencyId
  relocations : Relation RelocationResultRow IdempotencyId fun row => row.command.context.idempotencyId
  pins : Relation PinResultRow IdempotencyId fun row => row.command.context.idempotencyId
  preparations : Relation PrepareResultRow IdempotencyId fun row => row.command.context.idempotencyId
  executions : Relation ExecuteResultRow IdempotencyId ExecuteResultRow.idempotencyId
  auditEvents : Relation AuditEvent AuditEventId AuditEvent.id
  reservations : Relation ReservationRow IdempotencyId ReservationRow.idempotencyId
  idempotencyClaims : List IdempotencyId

namespace EvidenceTables
variable (tables : EvidenceTables)

def aggregate (id : String) (aggregateType : AggregateType) : Option RegistryRow :=
  (tables.registry.find id).filter fun row => row.aggregateType = aggregateType

def current (id : EvidenceReferenceId) : Option (RegistryRow × EvidenceReferenceRow) :=
  (tables.aggregate id.asStr .evidenceReference).bind fun registered =>
    (tables.references.find id).map fun reference => (registered, reference)

def linksOf (id : EvidenceReferenceId) : List EvidenceLinkRecord :=
  tables.links.rows.filter fun row => row.evidenceId = id

def isSuperseded (id : EvidenceReferenceId) : Bool := (tables.supersessions.find id).isSome

end EvidenceTables

/-- `i64::try_from`. -/
def fitsInteger (number : Nat) : Prop := number < 2 ^ 63
  deriving Decidable

def recordOf (registered : RegistryRow) (reference : EvidenceReferenceRow) : EvidenceReferenceRecord where
  id := reference.id
  vaultPath := reference.vaultPath
  fingerprint := reference.fingerprint
  verification := reference.verification
  classification := registered.classification
  provenance := reference.provenance
  version := registered.version
  createdAt := registered.createdAt
  updatedAt := registered.updatedAt

def verificationLastVerifiedAt : EvidenceVerification → Option UtcTimestamp
  | .verified at' _ | .degradedLastVerified at' _ | .observedUnpinned at' _ => some at'
  | .unverified | .integrityMismatch => none

def storableVerification (verification : EvidenceVerification) : Prop :=
  ∀ instant ∈ verificationLastVerifiedAt verification, 0 ≤ instant.unixMillis

instance (verification : EvidenceVerification) : Decidable (storableVerification verification) :=
  inferInstanceAs (Decidable (∀ instant ∈ verificationLastVerifiedAt verification, 0 ≤ instant.unixMillis))

def evidenceEffectCode : AuditEffectCode := ⟨"evidence.authoritative-record-changed", by decide⟩

def evidenceDisposition : AuditDisposition :=
  ⟨.notRequired, .notRequired, .succeeded, .complete, [evidenceEffectCode], by decide⟩

def buildAudit (id : AuditEventId) (occurredAt : UtcTimestamp) (evidenceId : EvidenceReferenceId)
    (code : AuditEventCode) (correlationId : CorrelationId) : AuditEvent :=
  .new id occurredAt .headOfProducts ⟨.workManagement, code, .evidenceReference evidenceId⟩ correlationId evidenceDisposition

def supersessionDisposition (links : Nat) : AuditDisposition where
  policyOutcome := .allowed
  approvalOutcome := .approved
  executionOutcome := .succeeded
  effectScope := .complete
  actualEffects := List.replicate (2 + links) evidenceEffectCode
  valid := by simp [checkDisposition, Except.isOk, Except.toBool]

def buildEvidenceSupersessionAudit (id : AuditEventId) (occurredAt : UtcTimestamp) (effects : EvidenceSupersessionEffects)
    (correlationId : CorrelationId) : AuditEvent :=
  .new id occurredAt .headOfProducts
    ⟨.workManagement, ⟨"evidence.reference_superseded", by decide⟩, .evidenceReference effects.sourceId⟩
    correlationId (supersessionDisposition effects.replacementLinks.length)

def evidenceTarget : AuditTarget → Option EvidenceReferenceId
  | .evidenceReference id => some id
  | _ => none

variable (context : OperationContext)

def loadEvidenceReferenceRecord (tables : EvidenceTables) (id : EvidenceReferenceId) :
    Except DomainError EvidenceReferenceRecord := do
  let (registered, reference) ← require (storageError context) (tables.current id)
  return recordOf registered reference

/-- Whatever disposition the event was stored with, it is read back with that of an
ordinary command. -/
def decodeAudit (tables : EvidenceTables) (id : AuditEventId) : Except DomainError AuditEvent := do
  let row ← require (storageError context) (tables.auditEvents.find id)
  let evidenceId ← require (storageError context) (evidenceTarget row.target)
  return buildAudit id row.occurredAt evidenceId row.code row.correlationId

/-- A trigger claims the key of every result row for the whole Ledger. -/
def claimIdempotency (tables : EvidenceTables) : Except DomainError EvidenceTables := do
  ensure (context.idempotencyId ∉ tables.idempotencyClaims) (storageError context)
  return { tables with idempotencyClaims := context.idempotencyId :: tables.idempotencyClaims }

def persistAudit (audit : AuditEvent) (tables : EvidenceTables) : Except DomainError EvidenceTables := do
  ensure (0 ≤ audit.occurredAt.unixMillis) (storageError context)
  let auditEvents ← require (storageError context) (tables.auditEvents.insert audit)
  return { tables with auditEvents }

def advanceRevision (tables : EvidenceTables) : Except DomainError EvidenceTables := do
  ensure (fitsInteger (tables.ledgerRevision + 1)) (storageError context)
  return { tables with ledgerRevision := tables.ledgerRevision + 1 }

/-- What every command writes last: its result row, the claim of its key and the next
revision of the Ledger. -/
def persistResult (keep : EvidenceTables → Option EvidenceTables) (tables : EvidenceTables) :
    Except DomainError EvidenceTables := do
  let tables ← require (storageError context) (keep tables)
  let tables ← claimIdempotency context tables
  advanceRevision context tables

def advanceVersion (id : EvidenceReferenceId) (version : AggregateVersion) (occurredAt : UtcTimestamp)
    (tables : EvidenceTables) : Except DomainError (EvidenceTables × AggregateVersion) := do
  let registered ← require (storageError context) (tables.aggregate id.asStr .evidenceReference)
  ensure (registered.version = version ∧ registered.createdAt ≤ occurredAt) (storageError context)
  let newVersion ← require (storageError context) version.next
  ensure (fitsInteger newVersion.get) (storageError context)
  return ({ tables with
    registry := tables.registry.update id.asStr fun row =>
      { row with version := newVersion, updatedAt := occurredAt } }, newVersion)

def insertReference (record : EvidenceReferenceRecord) (tables : EvidenceTables) : Except DomainError EvidenceTables := do
  ensure (0 ≤ record.createdAt.unixMillis ∧ storableVerification record.verification) (storageError context)
  let registry ← require (storageError context) (tables.registry.insert
    { id := record.id.asStr
      aggregateType := .evidenceReference
      version := record.version
      classification := record.classification
      createdAt := record.createdAt
      updatedAt := record.updatedAt })
  let references ← require (storageError context) (tables.references.insert
    { id := record.id
      verification := record.verification
      vaultPath := record.vaultPath
      fingerprint := record.fingerprint
      provenance := record.provenance })
  return { tables with registry, references }

def insertLink (link : EvidenceLinkRecord) (tables : EvidenceTables) : Except DomainError EvidenceTables := do
  ensure (0 ≤ link.linkedAt.unixMillis) (storageError context)
  let links ← require (storageError context) (tables.links.insert link)
  return { tables with links }

def insertLinks : List EvidenceLinkRecord → EvidenceTables → Except DomainError EvidenceTables
  | [], tables => return tables
  | link :: rest, tables => do
    let tables ← insertLink context link tables
    insertLinks rest tables

/-- Writes the columns of an observation, and the next version. -/
def reviseReference (id : EvidenceReferenceId) (version : AggregateVersion) (verification : EvidenceVerification)
    (vaultPath : VaultRelativePath) (fingerprint : Option EvidenceFingerprint) (occurredAt : UtcTimestamp)
    (tables : EvidenceTables) : Except DomainError (EvidenceTables × AggregateVersion) := do
  ensure (storableVerification verification) (storageError context)
  advanceVersion context id version occurredAt { tables with
    references := tables.references.update id fun row => { row with verification, vaultPath, fingerprint } }

def linkSnapshot (tables : EvidenceTables) (link : EvidenceLinkRecord) :
    Except DomainError EvidenceSupersessionLinkSnapshot := do
  let target ← require (storageError context) (tables.aggregate link.target.idStr link.target.aggregateType)
  return {
    target := link.target
    targetVersion := target.version
    targetClassification := target.classification
    linkClassification := link.classification
    linkedAt := link.linkedAt }

def loadEvidenceSupersessionSourceSnapshot (tables : EvidenceTables) (sourceId : EvidenceReferenceId) :
    Except DomainError EvidenceSupersessionSourceSnapshot := do
  ensure ((tables.aggregate sourceId.asStr .evidenceReference).isSome = true) (domainNotFound context)
  let record ← loadEvidenceReferenceRecord context tables sourceId
  let links ← (tables.linksOf sourceId).mapM (linkSnapshot context tables)
  return ⟨record, links⟩

def persistEvidenceSupersessionPreparedIntent (prepared : EvidenceSupersessionPreparedIntent) (tables : EvidenceTables) :
    Except DomainError EvidenceTables := do
  let preview := prepared.preview
  ensure (0 ≤ prepared.createdAt.unixMillis ∧ 0 ≤ preview.expiresAt.unixMillis ∧
    0 ≤ preview.replacementObservedAt.unixMillis) (storageError context)
  let preparedIntents ← require (storageError context) (tables.preparedIntents.insert
    { id := preview.preparedIntentId
      payloadDigest := prepared.payloadDigest
      expiresAt := preview.expiresAt
      createdAt := prepared.createdAt
      consumedAt := none
      supersession := some
        { sourceId := preview.sourceId
          sourceVersion := preview.sourceVersion
          sourceVaultPath := preview.sourceVaultPath
          sourceFingerprint := preview.sourceFingerprint
          sourceClassification := preview.sourceClassification
          replacementId := preview.replacementId
          replacementVaultPath := preview.replacementVaultPath
          replacementFingerprint := preview.replacementFingerprint
          replacementObservedAt := preview.replacementObservedAt
          replacementClassification := preview.replacementClassification
          replacementProvenance := preview.replacementProvenance
          links := preview.links
          classification := preview.classification
          rationale := preview.rationale } })
  return { tables with preparedIntents }

def preparedOf (row : PreparedIntentRow) (payload : SupersessionPayloadRow) : EvidenceSupersessionPreparedIntent where
  preview :=
    { preparedIntentId := row.id
      sourceId := payload.sourceId
      sourceVersion := payload.sourceVersion
      sourceVaultPath := payload.sourceVaultPath
      sourceFingerprint := payload.sourceFingerprint
      sourceClassification := payload.sourceClassification
      replacementId := payload.replacementId
      replacementVaultPath := payload.replacementVaultPath
      replacementFingerprint := payload.replacementFingerprint
      replacementObservedAt := payload.replacementObservedAt
      replacementClassification := payload.replacementClassification
      replacementProvenance := payload.replacementProvenance
      links := payload.links
      classification := payload.classification
      rationale := payload.rationale
      expiresAt := row.expiresAt }
  payloadDigest := row.payloadDigest
  createdAt := row.createdAt

def loadEvidenceSupersessionPreparedIntent (tables : EvidenceTables) (preparedId : PreparedIntentId) :
    Except DomainError EvidenceSupersessionPreparedIntent := do
  let row ← require (storageError context) (tables.preparedIntents.find preparedId)
  let payload ← require (storageError context) row.supersession
  return preparedOf row payload

def consumePreparedIntent (preparedId : PreparedIntentId) (occurredAt : UtcTimestamp) (tables : EvidenceTables) :
    Except DomainError EvidenceTables := do
  let row ← require (storageError context) (tables.preparedIntents.find preparedId)
  ensure (row.consumedAt = none) (idempotencyConflict context)
  ensure (row.createdAt ≤ occurredAt) (storageError context)
  return { tables with
    preparedIntents := tables.preparedIntents.update preparedId fun row => { row with consumedAt := some occurredAt } }

def persistApprovalReceipt (receipt : ApprovalReceiptRow) (tables : EvidenceTables) : Except DomainError EvidenceTables := do
  ensure (0 ≤ receipt.approvedAt.unixMillis ∧ receipt.approvedAt ≤ receipt.expiresAt ∧
    ∀ row ∈ tables.approvalReceipts.rows, row.preparedIntentId ≠ receipt.preparedIntentId) (storageError context)
  let approvalReceipts ← require (storageError context) (tables.approvalReceipts.insert receipt)
  return { tables with approvalReceipts }

def persistSupersession (edge : SupersessionRow) (tables : EvidenceTables) : Except DomainError EvidenceTables := do
  ensure (edge.sourceId ≠ edge.replacementId ∧ ∀ row ∈ tables.supersessions.rows,
    row.replacementId ≠ edge.replacementId ∧ row.approvalReceiptId ≠ edge.approvalReceiptId) (storageError context)
  let supersessions ← require (storageError context) (tables.supersessions.insert edge)
  return { tables with supersessions }

def persistEvidenceSupersessionEffects (effects : EvidenceSupersessionEffects) (preparedIntentId : PreparedIntentId)
    (approvalReceiptId : ApprovalReceiptId) (sourceVersion : AggregateVersion) (rationale : WorkManagementRationale)
    (occurredAt : UtcTimestamp) (tables : EvidenceTables) : Except DomainError EvidenceTables := do
  let tables ← insertReference context effects.replacement tables
  let tables ← insertLinks context effects.replacementLinks tables
  let (tables, sourceNewVersion) ← advanceVersion context effects.sourceId sourceVersion occurredAt tables
  persistSupersession context
    { sourceId := effects.sourceId
      replacementId := effects.replacement.id
      sourceNewVersion
      occurredAt
      rationale
      approvalReceiptId
      preparedIntentId } tables

def vaultPathTaken (tables : EvidenceTables) (path : VaultRelativePath) (sameName : String → String → Bool) : Bool :=
  tables.references.rows.any fun row => row.vaultPath = path || sameName row.vaultPath.asStr path.asStr

end MissionControl.Evidence

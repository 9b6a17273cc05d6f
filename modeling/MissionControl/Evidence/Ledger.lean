import MissionControl.Evidence.Tables
import MissionControl.Lib.Run
import MissionControl.Lib.Transaction

/-! The Evidence commands of the repository, each one transaction over the tables, and
the runs made of them. -/

namespace MissionControl.Evidence
open Checked

/-- What a command is called with besides itself: new identifiers and the time. -/
structure Arguments where
  auditEventId : AuditEventId
  preparedIntentId : PreparedIntentId
  approvalReceiptId : ApprovalReceiptId
  occurredAt : UtcTimestamp

/-- An identifier the Ledger keeps for one create command. -/
structure ReservedId where
  idempotencyId : IdempotencyId
  request : ReservationRequest
  id : EvidenceReferenceId

def evidenceReservation : ReservationRequest := ⟨.evidenceReference, "create_evidence_reference"⟩

section
variable (context : OperationContext)

def createdRecord (command : CreateEvidenceReference) (classification : DataClassification) (createdAt : UtcTimestamp) :
    EvidenceReferenceRecord where
  id := command.id
  vaultPath := command.vaultPath
  fingerprint := command.fingerprint
  verification := command.verification
  classification
  provenance := command.provenance
  version := .initial
  createdAt
  updatedAt := createdAt

def decodeEvidenceReferenceOutcome (tables : EvidenceTables) (existing : CreateResultRow) :
    Except DomainError (MutationOutcome EvidenceReferenceRecord) := do
  let auditEvent ← decodeAudit context tables existing.auditEventId
  return ⟨createdRecord existing.command existing.resultClassification existing.resultCreatedAt, auditEvent⟩

end

def insertEvidenceReference (command : CreateEvidenceReference) (sameName : Option (String → String → Bool))
    (arguments : Arguments) (tables : EvidenceTables) :
    Except DomainError (EvidenceTables × MutationOutcome EvidenceReferenceRecord) := do
  let context := command.context
  match tables.creations.find context.idempotencyId with
  | some existing =>
    ensure (existing.command.id = command.id ∧ existing.command.vaultPath = command.vaultPath ∧
      existing.command.fingerprint = command.fingerprint ∧ existing.command.verification = command.verification ∧
      existing.command.classification = command.classification ∧
      existing.command.provenance = command.provenance) (idempotencyConflict context)
    return (tables, ← decodeEvidenceReferenceOutcome context tables existing)
  | none =>
    ensure ((sameName.all fun sameName => !vaultPathTaken tables command.vaultPath sameName) = true)
      (pathAlreadyReferenced context)
    ensure ((tables.registry.find command.id.asStr).isNone = true) (domainConflict context)
    let classification := command.classification.getD .unclassified
    let record := createdRecord command classification arguments.occurredAt
    let tables ← insertReference context record tables
    let audit := buildAudit arguments.auditEventId arguments.occurredAt command.id
      ⟨"evidence.reference_created", by decide⟩ context.correlationId
    let tables ← persistAudit context audit tables
    let tables ← persistResult context (fun tables => do
      let creations ← tables.creations.insert ⟨command, classification, arguments.occurredAt, arguments.auditEventId⟩
      return { tables with creations }) tables
    return (tables, ⟨record, audit⟩)

def createEvidenceReference (command : CreateEvidenceReference) (arguments : Arguments) (tables : EvidenceTables) :
    Except DomainError (EvidenceTables × MutationOutcome EvidenceReferenceRecord) :=
  insertEvidenceReference command none arguments tables

def reservationMatches (tables : EvidenceTables) (reserved : ReservedId) : Bool :=
  match tables.reservations.find reserved.idempotencyId with
  | some row => row.request = reserved.request && row.generatedId = reserved.id.asStr
  | none => false

structure FileObservation where
  vaultPath : VaultRelativePath
  fingerprint : EvidenceFingerprint
  observedAt : UtcTimestamp
  classification : DataClassification

def reservedCommand (reserved : ReservedId) (observation : FileObservation) (context : OperationContext) :
    CreateEvidenceReference where
  id := reserved.id
  vaultPath := observation.vaultPath
  fingerprint := some observation.fingerprint
  verification := .verified observation.observedAt observation.fingerprint.digest
  classification := some observation.classification
  provenance := .userEntered
  context

def createEvidenceReferenceFromReservation (reserved : ReservedId) (observation : FileObservation)
    (context : OperationContext) (sameName : String → String → Bool) (arguments : Arguments) (tables : EvidenceTables) :
    Except DomainError (EvidenceTables × MutationOutcome EvidenceReferenceRecord) := do
  ensure (reserved.idempotencyId = context.idempotencyId ∧ reserved.request = evidenceReservation)
    (idempotencyConflict context)
  ensure (reservationMatches tables reserved = true) (idempotencyConflict context)
  insertEvidenceReference (reservedCommand reserved observation context) (some sameName) arguments tables

def decodeEvidenceLinkOutcome (context : OperationContext) (tables : EvidenceTables) (existing : LinkResultRow) :
    Except DomainError (MutationOutcome EvidenceLinkRecord) := do
  let auditEvent ← decodeAudit context tables existing.auditEventId
  return ⟨⟨existing.command.evidenceId, existing.command.target, existing.resultClassification,
    existing.resultLinkedAt⟩, auditEvent⟩

def linkEvidence (command : LinkEvidence) (arguments : Arguments) (tables : EvidenceTables) :
    Except DomainError (EvidenceTables × MutationOutcome EvidenceLinkRecord) := do
  let context := command.context
  match tables.linkings.find context.idempotencyId with
  | some existing =>
    ensure (existing.command.evidenceId = command.evidenceId ∧
      existing.command.expectedEvidenceVersion = command.expectedEvidenceVersion ∧
      existing.command.target = command.target) (idempotencyConflict context)
    return (tables, ← decodeEvidenceLinkOutcome context tables existing)
  | none =>
    let evidence ← require (domainNotFound context) (tables.aggregate command.evidenceId.asStr .evidenceReference)
    ensure (evidence.version = command.expectedEvidenceVersion) (domainConflict context)
    ensure (tables.isSuperseded command.evidenceId = false) (supersessionDomainError context .sourceAlreadySuperseded)
    let target ← require (domainNotFound context)
      (tables.aggregate command.target.idStr command.target.aggregateType)
    ensure ((tables.links.find (command.evidenceId, command.target)).isNone = true) (domainConflict context)
    let classification := evidence.classification.combine target.classification
    let link : EvidenceLinkRecord := ⟨command.evidenceId, command.target, classification, arguments.occurredAt⟩
    let tables ← insertLink context link tables
    let audit := buildAudit arguments.auditEventId arguments.occurredAt command.evidenceId
      ⟨"evidence.linked", by decide⟩ context.correlationId
    let tables ← persistAudit context audit tables
    let tables ← persistResult context (fun tables => do
      let linkings ← tables.linkings.insert ⟨command, classification, arguments.occurredAt, arguments.auditEventId⟩
      return { tables with linkings }) tables
    return (tables, ⟨link, audit⟩)

/-- The outcome of an earlier observation. What the row of the command does not hold is
read from the reference as it is now. -/
def decodeRevision (context : OperationContext) (tables : EvidenceTables) (id : EvidenceReferenceId)
    (auditEventId : AuditEventId) (vaultPath : VaultRelativePath) (fingerprint : Option EvidenceFingerprint)
    (verification : EvidenceVerification) (resultVersion : AggregateVersion) :
    Except DomainError (MutationOutcome EvidenceReferenceRecord) := do
  let (registered, reference) ← require (storageError context) (tables.current id)
  let auditEvent ← decodeAudit context tables auditEventId
  return ⟨{
    id
    vaultPath
    fingerprint := fingerprint.or reference.fingerprint
    verification
    classification := registered.classification
    provenance := reference.provenance
    version := resultVersion
    createdAt := registered.createdAt
    updatedAt := auditEvent.occurredAt }, auditEvent⟩

def decodeEvidenceVerificationOutcome (context : OperationContext) (tables : EvidenceTables)
    (existing : VerificationResultRow) : Except DomainError (MutationOutcome EvidenceReferenceRecord) :=
  decodeRevision context tables existing.command.id existing.auditEventId existing.vaultPath none
    existing.command.verification existing.resultVersion

def updateEvidenceVerification (command : UpdateEvidenceVerification) (arguments : Arguments) (tables : EvidenceTables) :
    Except DomainError (EvidenceTables × MutationOutcome EvidenceReferenceRecord) := do
  let context := command.context
  match tables.verifications.find context.idempotencyId with
  | some existing =>
    ensure (existing.command.id = command.id ∧ existing.command.expectedVersion = command.expectedVersion ∧
      existing.command.verification = command.verification) (idempotencyConflict context)
    return (tables, ← decodeEvidenceVerificationOutcome context tables existing)
  | none =>
    let (registered, reference) ← require (domainNotFound context) (tables.current command.id)
    ensure (registered.version = command.expectedVersion) (domainConflict context)
    let (tables, newVersion) ← reviseReference context command.id registered.version command.verification
      reference.vaultPath reference.fingerprint arguments.occurredAt tables
    let audit := buildAudit arguments.auditEventId arguments.occurredAt command.id
      ⟨"evidence.verification_updated", by decide⟩ context.correlationId
    let tables ← persistAudit context audit tables
    let tables ← persistResult context (fun tables => do
      let verifications ← tables.verifications.insert ⟨command, reference.vaultPath, newVersion, arguments.auditEventId⟩
      return { tables with verifications }) tables
    let record ← loadEvidenceReferenceRecord context tables command.id
    return (tables, ⟨record, audit⟩)

def decodeEvidenceRelocationOutcome (context : OperationContext) (tables : EvidenceTables)
    (existing : RelocationResultRow) : Except DomainError (MutationOutcome EvidenceReferenceRecord) :=
  decodeRevision context tables existing.command.id existing.auditEventId existing.command.newVaultPath none
    (.verified existing.command.observedAt existing.command.observedFingerprint.digest) existing.resultVersion

def relocateEvidenceReference (command : RelocateEvidenceReference) (arguments : Arguments) (tables : EvidenceTables) :
    Except DomainError (EvidenceTables × MutationOutcome EvidenceReferenceRecord) := do
  let context := command.context
  match tables.relocations.find context.idempotencyId with
  | some existing =>
    ensure (existing.command.id = command.id ∧ existing.command.expectedVersion = command.expectedVersion ∧
      existing.command.expectedCurrentPath = command.expectedCurrentPath ∧
      existing.command.newVaultPath = command.newVaultPath ∧
      existing.command.observedFingerprint = command.observedFingerprint ∧
      existing.command.observedAt = command.observedAt) (idempotencyConflict context)
    return (tables, ← decodeEvidenceRelocationOutcome context tables existing)
  | none =>
    ensure (command.expectedCurrentPath ≠ command.newVaultPath) (relocationPathUnchanged context)
    let (registered, reference) ← require (domainNotFound context) (tables.current command.id)
    ensure (registered.version = command.expectedVersion) (domainConflict context)
    ensure (reference.vaultPath = command.expectedCurrentPath) (relocationPathMismatch context)
    let pinned ← require (relocationFingerprintUnpinned context) reference.fingerprint
    ensure (pinned = command.observedFingerprint) (relocationFingerprintMismatch context)
    let (tables, newVersion) ← reviseReference context command.id registered.version
      (.verified command.observedAt command.observedFingerprint.digest) command.newVaultPath reference.fingerprint
      arguments.occurredAt tables
    let audit := buildAudit arguments.auditEventId arguments.occurredAt command.id
      ⟨"evidence.reference_relocated", by decide⟩ context.correlationId
    let tables ← persistAudit context audit tables
    let tables ← persistResult context (fun tables => do
      let relocations ← tables.relocations.insert ⟨command, newVersion, arguments.auditEventId⟩
      return { tables with relocations }) tables
    let record ← loadEvidenceReferenceRecord context tables command.id
    return (tables, ⟨record, audit⟩)

def decodeEvidenceFingerprintPinOutcome (context : OperationContext) (tables : EvidenceTables)
    (existing : PinResultRow) : Except DomainError (MutationOutcome EvidenceReferenceRecord) :=
  decodeRevision context tables existing.command.id existing.auditEventId existing.command.expectedCurrentPath
    (some existing.command.observedFingerprint)
    (.verified existing.command.observedAt existing.command.observedFingerprint.digest) existing.resultVersion

def pinEvidenceFingerprint (command : PinEvidenceFingerprint) (arguments : Arguments) (tables : EvidenceTables) :
    Except DomainError (EvidenceTables × MutationOutcome EvidenceReferenceRecord) := do
  let context := command.context
  match tables.pins.find context.idempotencyId with
  | some existing =>
    ensure (existing.command.id = command.id ∧ existing.command.expectedVersion = command.expectedVersion ∧
      existing.command.expectedCurrentPath = command.expectedCurrentPath ∧
      existing.command.observedFingerprint = command.observedFingerprint ∧
      existing.command.observedAt = command.observedAt) (idempotencyConflict context)
    return (tables, ← decodeEvidenceFingerprintPinOutcome context tables existing)
  | none =>
    let (registered, reference) ← require (domainNotFound context) (tables.current command.id)
    ensure (registered.version = command.expectedVersion) (domainConflict context)
    ensure (reference.vaultPath = command.expectedCurrentPath) (pinPathMismatch context)
    -- a pin is the identity, and is never set again
    ensure (reference.fingerprint = none) (pinFingerprintAlreadyPinned context)
    let (tables, newVersion) ← reviseReference context command.id registered.version
      (.verified command.observedAt command.observedFingerprint.digest) reference.vaultPath
      (some command.observedFingerprint) arguments.occurredAt tables
    let audit := buildAudit arguments.auditEventId arguments.occurredAt command.id
      ⟨"evidence.fingerprint_pinned", by decide⟩ context.correlationId
    let tables ← persistAudit context audit tables
    let tables ← persistResult context (fun tables => do
      let pins ← tables.pins.insert ⟨command, newVersion, arguments.auditEventId⟩
      return { tables with pins }) tables
    let record ← loadEvidenceReferenceRecord context tables command.id
    return (tables, ⟨record, audit⟩)

/-- The comparison leaves out the provenance of the replacement and the algorithm of its
fingerprint. -/
def prepareSupersedeEvidenceReference [Sha256] (command : PrepareSupersedeEvidenceReference) (arguments : Arguments)
    (tables : EvidenceTables) : Except DomainError (EvidenceTables × EvidenceSupersessionPreparedIntent) := do
  let context := command.context
  match tables.preparations.find context.idempotencyId with
  | some existing =>
    ensure (existing.command.sourceId = command.sourceId ∧
      existing.command.expectedSourceVersion = command.expectedSourceVersion ∧
      existing.command.replacementId = command.replacementId ∧
      existing.command.replacementVaultPath = command.replacementVaultPath ∧
      existing.command.replacementFingerprint.digest = command.replacementFingerprint.digest ∧
      existing.command.replacementObservedAt = command.replacementObservedAt ∧
      existing.command.replacementClassification = command.replacementClassification ∧
      existing.command.rationale = command.rationale) (idempotencyConflict context)
    return (tables, ← loadEvidenceSupersessionPreparedIntent context tables existing.resultReference)
  | none =>
    let snapshot ← loadEvidenceSupersessionSourceSnapshot context tables command.sourceId
    ensure (tables.isSuperseded command.sourceId = false) (supersessionDomainError context .sourceAlreadySuperseded)
    let prepared ← relabel (supersessionDomainError context)
      (prepareSupersession command arguments.preparedIntentId snapshot arguments.occurredAt)
    let tables ← persistEvidenceSupersessionPreparedIntent context prepared tables
    let tables ← persistResult context (fun tables => do
      let preparations ← tables.preparations.insert ⟨command, prepared.preview.preparedIntentId⟩
      return { tables with preparations }) tables
    return (tables, prepared)

def decodeEvidenceSupersessionExecuteOutcome (context : OperationContext) (tables : EvidenceTables)
    (existing : ExecuteResultRow) : Except DomainError (MutationOutcome EvidenceReferenceRecord) := do
  let record ← loadEvidenceReferenceRecord context tables existing.replacementId
  let auditEvent ← decodeAudit context tables existing.auditEventId
  return ⟨record, auditEvent⟩

def approveAndExecuteSupersedeEvidenceReference (command : ApproveAndExecuteSupersedeEvidenceReference)
    (arguments : Arguments) (tables : EvidenceTables) :
    Except DomainError (EvidenceTables × MutationOutcome EvidenceReferenceRecord) := do
  let context := command.context
  let approval := command.approval
  ensure (approval.idempotencyId = context.idempotencyId) (idempotencyConflict context)
  match tables.executions.find context.idempotencyId with
  | some existing =>
    ensure (existing.preparedId = approval.preparedId ∧ existing.actor = approval.actor ∧
      existing.acknowledgedDigest = approval.acknowledgedPayloadDigest) (idempotencyConflict context)
    return (tables, ← decodeEvidenceSupersessionExecuteOutcome context tables existing)
  | none =>
    let prepared ← loadEvidenceSupersessionPreparedIntent context tables approval.preparedId
    let preview := prepared.preview
    let current ← loadEvidenceSupersessionSourceSnapshot context tables preview.sourceId
    let effects ← relabel (supersessionDomainError context)
      (executeSupersession approval prepared current (tables.isSuperseded preview.sourceId) arguments.occurredAt)
    let tables ← consumePreparedIntent context preview.preparedIntentId arguments.occurredAt tables
    let tables ← persistApprovalReceipt context
      { id := arguments.approvalReceiptId
        preparedIntentId := preview.preparedIntentId
        actor := approval.actor
        acknowledgedPayloadDigest := approval.acknowledgedPayloadDigest
        idempotencyId := context.idempotencyId
        approvedAt := arguments.occurredAt
        expiresAt := preview.expiresAt } tables
    let tables ← persistEvidenceSupersessionEffects context effects preview.preparedIntentId arguments.approvalReceiptId
      preview.sourceVersion preview.rationale arguments.occurredAt tables
    let audit := buildEvidenceSupersessionAudit arguments.auditEventId arguments.occurredAt effects context.correlationId
    let tables ← persistAudit context audit tables
    let tables ← persistResult context (fun tables => do
      let executions ← tables.executions.insert
        { idempotencyId := context.idempotencyId
          preparedId := approval.preparedId
          actor := approval.actor
          acknowledgedDigest := approval.acknowledgedPayloadDigest
          replacementId := effects.replacement.id
          auditEventId := arguments.auditEventId }
      return { tables with executions }) tables
    return (tables, ⟨effects.replacement, audit⟩)

inductive Command where
  | create (command : CreateEvidenceReference)
  | createFromReservation (reserved : ReservedId) (observation : FileObservation) (context : OperationContext)
    (sameName : String → String → Bool)
  | link (command : LinkEvidence)
  | updateVerification (command : UpdateEvidenceVerification)
  | relocate (command : RelocateEvidenceReference)
  | pin (command : PinEvidenceFingerprint)
  | prepareSupersede (command : PrepareSupersedeEvidenceReference)
  | approveAndExecuteSupersede (command : ApproveAndExecuteSupersedeEvidenceReference)

inductive Answer where
  | reference (outcome : MutationOutcome EvidenceReferenceRecord)
  | link (outcome : MutationOutcome EvidenceLinkRecord)
  | prepared (intent : EvidenceSupersessionPreparedIntent)

/-- A command's result among those of all commands. -/
def answering {α : Type} (answer : α → Answer) (result : Except DomainError (EvidenceTables × α)) :
    Except DomainError (EvidenceTables × Answer) :=
  result.map fun committed => (committed.1, answer committed.2)

def Command.operation [Sha256] (command : Command) (arguments : Arguments) (tables : EvidenceTables) :
    Except DomainError (EvidenceTables × Answer) :=
  match command with
  | .create command => answering .reference (createEvidenceReference command arguments tables)
  | .createFromReservation reserved observation context sameName =>
    answering .reference (createEvidenceReferenceFromReservation reserved observation context sameName arguments tables)
  | .link command => answering .link (linkEvidence command arguments tables)
  | .updateVerification command => answering .reference (updateEvidenceVerification command arguments tables)
  | .relocate command => answering .reference (relocateEvidenceReference command arguments tables)
  | .pin command => answering .reference (pinEvidenceFingerprint command arguments tables)
  | .prepareSupersede command => answering .prepared (prepareSupersedeEvidenceReference command arguments tables)
  | .approveAndExecuteSupersede command =>
    answering .reference (approveAndExecuteSupersedeEvidenceReference command arguments tables)

/-- What the rest of the Ledger may do between two commands: change the aggregates of
other families, raise the revision, claim keys, reserve identifiers, and keep intents,
receipts and audit events of its own. -/
structure Elsewhere (before after : EvidenceTables) : Prop where
  registry : ∀ id row, row.aggregateType = .evidenceReference →
    (after.registry.find id = some row ↔ before.registry.find id = some row)
  preparedIntents : ∀ id row, row.supersession.isSome = true →
    (after.preparedIntents.find id = some row ↔ before.preparedIntents.find id = some row)
  auditEvents : ∀ id row, before.auditEvents.find id = some row → after.auditEvents.find id = some row
  reservations : ∀ id row, before.reservations.find id = some row → after.reservations.find id = some row
  references : after.references = before.references
  links : after.links = before.links
  supersessions : after.supersessions = before.supersessions
  creations : after.creations = before.creations
  linkings : after.linkings = before.linkings
  verifications : after.verifications = before.verifications
  relocations : after.relocations = before.relocations
  pins : after.pins = before.pins
  preparations : after.preparations = before.preparations
  executions : after.executions = before.executions

/-- A command whose transaction can or cannot be carried through, or something else. -/
inductive Turn where
  | command (command : Command) (arguments : Arguments) (available : Bool)
  | elsewhere

def Step [Sha256] : Turn → EvidenceTables → EvidenceTables → Prop
  | .command command arguments available, before, after =>
    (Transaction.run available (command.operation arguments) before).1 = after
  | .elsewhere, before, after => Elsewhere before after

def Command.after [Sha256] (command : Command) (arguments : Arguments) (tables : EvidenceTables) : EvidenceTables :=
  (Transaction.run true (command.operation arguments) tables).1

/-- A Ledger that holds no Evidence yet, and anything else. -/
structure Initial (tables : EvidenceTables) : Prop where
  registry : ∀ row ∈ tables.registry.rows, row.aggregateType ≠ .evidenceReference
  preparedIntents : ∀ row ∈ tables.preparedIntents.rows, row.supersession = none
  references : tables.references = .empty
  links : tables.links = .empty
  supersessions : tables.supersessions = .empty
  creations : tables.creations = .empty
  linkings : tables.linkings = .empty
  verifications : tables.verifications = .empty
  relocations : tables.relocations = .empty
  pins : tables.pins = .empty
  preparations : tables.preparations = .empty
  executions : tables.executions = .empty

end MissionControl.Evidence

import MissionControl.Lib.Relation
import MissionControl.Projections.Record

/-! The projection tables of the Ledger and the statements that write them. A row that
breaks a constraint of the schema is refused. -/

namespace MissionControl.Projections
open Checked

/-- What a prepared intent of this kind has besides its own row. The payload and the
changes are written with it and never again. -/
structure RebuildPayloadRow where
  ledgerSchemaVersion : Nat
  ledgerRevision : Nat
  publishedBaselineDigest : String
  changes : List ManagedProjectionRebuildChangeEntry
  estimatedDurationMillis : Nat
  rationale : WorkManagementRationale

structure PreparedIntentRow where
  id : PreparedIntentId
  payloadDigest : ManagedProjectionRebuildPayloadDigest
  classification : DataClassification
  expiresAt : UtcTimestamp
  createdAt : UtcTimestamp
  consumedAt : Option UtcTimestamp
  rebuild : Option RebuildPayloadRow

structure PrepareReplayRow where
  idempotencyId : IdempotencyId
  correlationId : CorrelationId
  resultReference : PreparedIntentId

structure ApprovalReceiptRow where
  id : ApprovalReceiptId
  preparedIntentId : PreparedIntentId
  actor : AuditActor
  acknowledgedPayloadDigest : ManagedProjectionRebuildPayloadDigest
  idempotencyId : IdempotencyId
  approvedAt : UtcTimestamp
  expiresAt : UtcTimestamp
  consumedAt : Option UtcTimestamp

/-- The execute command and the authority columns of its operation: the schema fills
all of them for an approved publication and none for an automatic one. -/
inductive Authorization where
  | h1Auto
  | h2a (preparedIntentId : PreparedIntentId) (approvalReceiptId : ApprovalReceiptId) (actor : AuditActor)
    (acknowledgedDigest : ManagedProjectionRebuildPayloadDigest)

inductive OperationStatus where
  | publishing | cancelling
  | terminal (status : ManagedProjectionPublishStatus) (effectScope : ManagedProjectionEffectScope)
    (completedAt : UtcTimestamp)

def OperationStatus.inFlight : OperationStatus → Bool
  | .publishing | .cancelling => true
  | .terminal .. => false

structure OperationRow where
  idempotencyId : IdempotencyId
  correlationId : CorrelationId
  authorization : Authorization
  status : OperationStatus
  startedAt : UtcTimestamp

structure OperationItemRow where
  idempotencyId : IdempotencyId
  relativePath : String
  changeKind : ManagedProjectionRebuildChangeKind
  state : ManagedProjectionPublishItemState

structure GenerationRow where
  manifest : ManagedProjectionManifestGeneration
  verifiedAt : UtcTimestamp
  publicationIdempotencyId : IdempotencyId

inductive HeadIntegrity where
  | outOfSync (manifestId : Option String)
  | verified (manifestId : String)

def HeadIntegrity.manifestId : HeadIntegrity → Option String
  | .outOfSync manifestId => manifestId
  | .verified manifestId => some manifestId

structure HeadRow where
  integrity : HeadIntegrity
  updatedAt : UtcTimestamp

structure ProjectionTables where
  schemaVersion : Nat
  ledgerRevision : Nat
  preparedIntents : Relation PreparedIntentRow PreparedIntentId PreparedIntentRow.id
  prepareReplays : Relation PrepareReplayRow IdempotencyId PrepareReplayRow.idempotencyId
  approvalReceipts : Relation ApprovalReceiptRow ApprovalReceiptId ApprovalReceiptRow.id
  operations : Relation OperationRow IdempotencyId OperationRow.idempotencyId
  items : Relation OperationItemRow (IdempotencyId × String) fun row => (row.idempotencyId, row.relativePath)
  generations : Relation GenerationRow String fun row => row.manifest.manifestId
  head : Option HeadRow
  idempotencyClaims : List IdempotencyId

/-- The tables as the migrations leave them, in a Ledger that may hold anything else. -/
def ProjectionTables.migrated (schemaVersion ledgerRevision : Nat) (idempotencyClaims : List IdempotencyId) :
    ProjectionTables where
  schemaVersion
  ledgerRevision
  preparedIntents := .empty
  prepareReplays := .empty
  approvalReceipts := .empty
  operations := .empty
  items := .empty
  generations := .empty
  head := none
  idempotencyClaims

def ProjectionTables.itemsOf (tables : ProjectionTables) (idempotencyId : IdempotencyId) : List OperationItemRow :=
  tables.items.rows.filter fun row => row.idempotencyId = idempotencyId

/-- `i64::try_from`. -/
def fitsInteger (number : Nat) : Prop := number < 2 ^ 63
  deriving Decidable

/-- The columns of a change row. -/
def ManagedProjectionRebuildChangeEntry.storable (entry : ManagedProjectionRebuildChangeEntry) : Bool :=
  !entry.relativePath.isEmpty && !entry.recordId.isEmpty &&
    match entry.change, entry.expectedFinalFileSha256 with
    | .removed, none => true
    | .created, some hash | .updated, some hash => isHexDigest hash
    | _, _ => false

def ManagedProjectionManifestEntry.storable (entry : ManagedProjectionManifestEntry) : Bool :=
  !entry.relativePath.isEmpty && !entry.recordId.isEmpty && 0 < entry.sourceRevision &&
    decide (fitsInteger entry.sourceRevision) && isHexDigest entry.managedPayloadSha256 &&
    isHexDigest entry.finalFileSha256

variable (context : OperationContext)

/-- A trigger claims the key of every replay row for the whole Ledger. -/
def claimIdempotency (tables : ProjectionTables) : Except DomainError ProjectionTables := do
  ensure (context.idempotencyId ∉ tables.idempotencyClaims) (storageError context)
  return { tables with idempotencyClaims := context.idempotencyId :: tables.idempotencyClaims }

def persistPreparedIntent (prepared : ManagedProjectionRebuildPreparedIntent) (tables : ProjectionTables) :
    Except DomainError ProjectionTables := do
  let preview := prepared.preview
  ensure (0 ≤ preview.expiresAt.unixMillis ∧ 0 ≤ prepared.createdAt.unixMillis) (storageError context)
  ensure (0 < preview.ledgerSchemaVersion ∧ fitsInteger preview.ledgerRevision ∧
    isHexDigest preview.publishedBaselineDigest = true ∧ fitsInteger preview.estimatedDurationMillis) (storageError context)
  ensure (preview.changes.all ManagedProjectionRebuildChangeEntry.storable = true ∧
    (preview.changes.map (·.relativePath)).Nodup ∧
    (preview.changes.map fun entry => (entry.recordKind, entry.recordId)).Nodup) (storageError context)
  let preparedIntents ← require (storageError context) (tables.preparedIntents.insert
    { id := preview.preparedIntentId
      payloadDigest := prepared.payloadDigest
      classification := preview.classification
      expiresAt := preview.expiresAt
      createdAt := prepared.createdAt
      consumedAt := none
      rebuild := some
        { ledgerSchemaVersion := preview.ledgerSchemaVersion
          ledgerRevision := preview.ledgerRevision
          publishedBaselineDigest := preview.publishedBaselineDigest
          changes := preview.changes
          estimatedDurationMillis := preview.estimatedDurationMillis
          rationale := preview.rationale } })
  return { tables with preparedIntents }

def persistPrepareReplay (resultReference : PreparedIntentId) (tables : ProjectionTables) :
    Except DomainError ProjectionTables := do
  let prepareReplays ← require (storageError context) (tables.prepareReplays.insert
    { idempotencyId := context.idempotencyId, correlationId := context.correlationId, resultReference })
  claimIdempotency context { tables with prepareReplays }

def loadChanges (tables : ProjectionTables) (preparedIntentId : PreparedIntentId) :
    List ManagedProjectionRebuildChangeEntry :=
  (((tables.preparedIntents.find preparedIntentId).bind (·.rebuild)).map (·.changes)).getD []

def decodePreparedIntent (tables : ProjectionTables) (preparedIntentId : PreparedIntentId) :
    Except DomainError ManagedProjectionRebuildPreparedIntent := do
  let header ← require (storageError context) (tables.preparedIntents.find preparedIntentId)
  let payload ← require (storageError context) header.rebuild
  return {
    preview :=
      { preparedIntentId
        ledgerSchemaVersion := payload.ledgerSchemaVersion
        ledgerRevision := payload.ledgerRevision
        publishedBaselineDigest := payload.publishedBaselineDigest
        changes := payload.changes
        classification := header.classification
        estimatedDurationMillis := payload.estimatedDurationMillis
        rationale := payload.rationale
        expiresAt := header.expiresAt }
    payloadDigest := header.payloadDigest
    createdAt := header.createdAt }

def prepareInputsMatch (tables : ProjectionTables) (preparedIntentId : PreparedIntentId)
    (command : PrepareRebuildManagedProjections) : Except DomainError Bool := do
  let stored ← require (storageError context) ((tables.preparedIntents.find preparedIntentId).bind (·.rebuild))
  return stored.ledgerSchemaVersion = command.ledgerSchemaVersion ∧ stored.ledgerRevision = command.ledgerRevision ∧
    stored.publishedBaselineDigest = command.publishedBaselineDigest ∧
    stored.estimatedDurationMillis = command.estimatedDurationMillis ∧ stored.rationale = command.rationale ∧
    loadChanges tables preparedIntentId = command.changes

def isConsumed (tables : ProjectionTables) (preparedIntentId : PreparedIntentId) : Except DomainError Bool := do
  let row ← require (unknownPreparedIntent context) (tables.preparedIntents.find preparedIntentId)
  return row.consumedAt.isSome

theorem consumed_id (now : UtcTimestamp) (row : PreparedIntentRow) :
    ({ row with consumedAt := some now } : PreparedIntentRow).id = row.id := rfl

/-- `UPDATE prepared_intents SET consumed_at .. WHERE id .. AND consumed_at IS NULL`, which
must change one row. -/
def consumePreparedIntent (preparedIntentId : PreparedIntentId) (now : UtcTimestamp) (tables : ProjectionTables) :
    Except DomainError ProjectionTables := do
  let row ← require (preparedIntentAlreadyConsumed context) (tables.preparedIntents.find preparedIntentId)
  ensure (row.consumedAt = none) (preparedIntentAlreadyConsumed context)
  ensure (row.createdAt ≤ now) (storageError context)
  return { tables with
    preparedIntents := tables.preparedIntents.update preparedIntentId fun row => { row with consumedAt := some now } }

def publicationInFlight (tables : ProjectionTables) : Bool :=
  tables.operations.rows.any fun row => row.status.inFlight

def persistApprovalReceipt (receipt : ApprovalReceiptRow) (tables : ProjectionTables) :
    Except DomainError ProjectionTables := do
  ensure (0 ≤ receipt.approvedAt.unixMillis ∧ receipt.approvedAt ≤ receipt.expiresAt) (storageError context)
  ensure (receipt.preparedIntentId ∉ tables.approvalReceipts.rows.map (·.preparedIntentId)) (storageError context)
  let approvalReceipts ← require (storageError context) (tables.approvalReceipts.insert receipt)
  return { tables with approvalReceipts }

def OperationRow.approvalReceiptId (row : OperationRow) : Option ApprovalReceiptId :=
  match row.authorization with
  | .h1Auto => none
  | .h2a _ approvalReceiptId _ _ => some approvalReceiptId

/-- The execute command and the operation it opens. -/
def persistOperation (authorization : Authorization) (now : UtcTimestamp) (tables : ProjectionTables) :
    Except DomainError ProjectionTables := do
  let row : OperationRow :=
    { idempotencyId := context.idempotencyId
      correlationId := context.correlationId
      authorization
      status := .publishing
      startedAt := now }
  ensure (0 ≤ now.unixMillis) (storageError context)
  ensure (row.approvalReceiptId.all fun id => id ∉ tables.operations.rows.filterMap (·.approvalReceiptId))
    (storageError context)
  let operations ← require (storageError context) (tables.operations.insert row)
  claimIdempotency context { tables with operations }

def persistOperationItem (entry : ManagedProjectionRebuildChangeEntry) (tables : ProjectionTables) :
    Except DomainError ProjectionTables := do
  ensure (¬entry.relativePath.isEmpty) (storageError context)
  let items ← require (storageError context) (tables.items.insert
    { idempotencyId := context.idempotencyId
      relativePath := entry.relativePath
      changeKind := entry.change
      state := .untouched })
  return { tables with items }

def persistOperationItems (changes : List ManagedProjectionRebuildChangeEntry) (tables : ProjectionTables) :
    Except DomainError ProjectionTables :=
  changes.foldlM (fun tables entry => persistOperationItem context entry tables) tables

/-- The last verified generation stays the baseline. -/
def markHeadOutOfSync (now : UtcTimestamp) (tables : ProjectionTables) : Except DomainError ProjectionTables := do
  ensure (0 ≤ now.unixMillis) (storageError context)
  return { tables with
    head := some
      { integrity := .outOfSync (tables.head.bind (·.integrity.manifestId))
        updatedAt := now } }

def projectionHeadIsVerified (tables : ProjectionTables) : Bool :=
  tables.head.any fun head => head.integrity matches .verified _

def recordItem (item : ManagedProjectionPublishItem) (tables : ProjectionTables) :
    Except DomainError ProjectionTables := do
  let key := (context.idempotencyId, item.relativePath)
  ensure ((tables.items.find key).isSome = true) (unplannedItem context)
  return { tables with items := tables.items.update key fun row => { row with state := item.state } }

def recordItems (items : List ManagedProjectionPublishItem) (tables : ProjectionTables) :
    Except DomainError ProjectionTables :=
  items.foldlM (fun tables item => recordItem context item tables) tables

def endOperation (row : OperationRow) (status : ManagedProjectionPublishStatus)
    (effectScope : ManagedProjectionEffectScope) (now : UtcTimestamp) (tables : ProjectionTables) :
    Except DomainError ProjectionTables := do
  ensure (row.startedAt ≤ now) (storageError context)
  return { tables with
    operations := tables.operations.update context.idempotencyId fun row =>
      { row with status := .terminal status effectScope now } }

/-- The manifest becomes an immutable generation and the head points at it. -/
def persistManifest (manifest : ManagedProjectionManifestGeneration) (now : UtcTimestamp) (tables : ProjectionTables) :
    Except DomainError ProjectionTables := do
  ensure (0 < manifest.ledgerSchemaVersion ∧ fitsInteger manifest.ledgerRevision ∧
    isHexDigest manifest.manifestDigest = true ∧ 0 ≤ now.unixMillis) (storageError context)
  ensure (context.idempotencyId ∉ tables.generations.rows.map (·.publicationIdempotencyId)) (storageError context)
  ensure (manifest.entries.all ManagedProjectionManifestEntry.storable = true ∧
    (manifest.entries.map (·.relativePath)).Nodup ∧
    (manifest.entries.map fun entry => (entry.recordKind, entry.recordId)).Nodup) (storageError context)
  let generations ← require (storageError context) (tables.generations.insert
    { manifest, verifiedAt := now, publicationIdempotencyId := context.idempotencyId })
  return { tables with
    generations
    head := some { integrity := .verified manifest.manifestId, updatedAt := now } }

end MissionControl.Projections

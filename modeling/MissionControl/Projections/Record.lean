import MissionControl.Domain.Error
import MissionControl.Domain.PreviewDigest
import MissionControl.Lib.Checked

/-! Publishing a managed projection change set: what is previewed, what an approval
binds, and what a publication reports. -/

namespace MissionControl.Projections
open Encoding Checked

def managedProjectionRebuildTtlMillis : Int := 300000
def managedProjectionH1AutoMaxFiles : Nat := 500
def managedProjectionH1AutoMaxDurationMillis : Nat := 30000

structure OperationContext where
  idempotencyId : IdempotencyId
  correlationId : CorrelationId

inductive ManagedProjectionRebuildRecordKind where
  | product | project | action | decision | risk | kpi
  deriving DecidableEq

def ManagedProjectionRebuildRecordKind.asPersisted : ManagedProjectionRebuildRecordKind → String
  | .product => "product"
  | .project => "project"
  | .action => "action"
  | .decision => "decision"
  | .risk => "risk"
  | .kpi => "kpi"

inductive ManagedProjectionRebuildChangeKind where
  | created | updated | removed
  deriving DecidableEq

def ManagedProjectionRebuildChangeKind.asPersisted : ManagedProjectionRebuildChangeKind → String
  | .created => "created"
  | .updated => "updated"
  | .removed => "removed"

structure ManagedProjectionRebuildChangeEntry where
  relativePath : String
  recordKind : ManagedProjectionRebuildRecordKind
  recordId : String
  change : ManagedProjectionRebuildChangeKind
  classification : DataClassification
  expectedFinalFileSha256 : Option String
  deriving DecidableEq

inductive ManagedProjectionRebuildError where
  | emptyChangeSet | changesNotCanonical | digestMismatch | expired | previewChanged | unauthorizedActor
  | missingConfirmation | preparedIntentMismatch | h1AutoNotPermitted | publicationInFlight

/-- An authorization can only be had for work within the bounds of automation. -/
structure ManagedProjectionH1AutoAuthorization where
  changeCount : Nat
  estimatedDurationMillis : Nat
  some : changeCount ≠ 0
  few : changeCount ≤ managedProjectionH1AutoMaxFiles
  short : estimatedDurationMillis ≤ managedProjectionH1AutoMaxDurationMillis

def ManagedProjectionH1AutoAuthorization.authorize (changeCount estimatedDurationMillis : Nat)
    (isInitialOrFullRebuild integrityConflict : Bool) :
    Except ManagedProjectionRebuildError ManagedProjectionH1AutoAuthorization :=
  if some : changeCount = 0 then .error .emptyChangeSet
  else if bounds : integrityConflict = true ∨ isInitialOrFullRebuild = true ∨
      changeCount > managedProjectionH1AutoMaxFiles ∨
      estimatedDurationMillis > managedProjectionH1AutoMaxDurationMillis then .error .h1AutoNotPermitted
  else .ok ⟨changeCount, estimatedDurationMillis, some, by omega, by omega⟩

structure PrepareRebuildManagedProjections where
  ledgerSchemaVersion : Nat
  ledgerRevision : Nat
  publishedBaselineDigest : String
  changes : List ManagedProjectionRebuildChangeEntry
  estimatedDurationMillis : Nat
  rationale : WorkManagementRationale
  context : OperationContext

structure ManagedProjectionRebuildPreview where
  preparedIntentId : PreparedIntentId
  ledgerSchemaVersion : Nat
  ledgerRevision : Nat
  publishedBaselineDigest : String
  changes : List ManagedProjectionRebuildChangeEntry
  classification : DataClassification
  estimatedDurationMillis : Nat
  rationale : WorkManagementRationale
  expiresAt : UtcTimestamp

abbrev ManagedProjectionRebuildPayloadDigest := WorkManagementPayloadDigest

structure ManagedProjectionRebuildPreparedIntent where
  preview : ManagedProjectionRebuildPreview
  payloadDigest : ManagedProjectionRebuildPayloadDigest
  createdAt : UtcTimestamp

def digestChangeEntry (entry : ManagedProjectionRebuildChangeEntry) : List UInt8 :=
  digestText entry.relativePath ++ digestText entry.recordKind.asPersisted ++ digestText entry.recordId ++
    digestText entry.change.asPersisted ++ digestText entry.classification.asPersisted ++
    match entry.expectedFinalFileSha256 with
    | some hash => digestText "1" ++ digestText hash
    | none => digestText "0"

def computeManagedProjectionRebuildDigest [Sha256] (preview : ManagedProjectionRebuildPreview) :
    ManagedProjectionRebuildPayloadDigest :=
  Sha256.finalize (
    digestText "product-mission-control.projection-rebuild.prepared-intent.v1" ++
    digestText preview.preparedIntentId.asStr ++ digestField (bigEndian 4 preview.ledgerSchemaVersion) ++
    digestField (wordBytes preview.ledgerRevision) ++ digestText preview.publishedBaselineDigest ++
    digestList digestChangeEntry preview.changes ++ digestClassification preview.classification ++
    digestField (wordBytes preview.estimatedDurationMillis) ++ digestText preview.rationale.asStr ++
    digestInstant preview.expiresAt)

/-- No path stands at or before the one in front of it. -/
def canonical (changes : List ManagedProjectionRebuildChangeEntry) : Bool :=
  (changes.zip changes.tail).all fun pair => pair.1.relativePath < pair.2.relativePath

def prepareRebuild [Sha256] (intent : PrepareRebuildManagedProjections) (preparedIntentId : PreparedIntentId)
    (now : UtcTimestamp) : Except ManagedProjectionRebuildError ManagedProjectionRebuildPreparedIntent := do
  ensure (intent.changes ≠ []) .emptyChangeSet
  ensure (canonical intent.changes = true) .changesNotCanonical
  let preview : ManagedProjectionRebuildPreview :=
    { preparedIntentId
      ledgerSchemaVersion := intent.ledgerSchemaVersion
      ledgerRevision := intent.ledgerRevision
      publishedBaselineDigest := intent.publishedBaselineDigest
      changes := intent.changes
      classification := DataClassification.combineAll .«public» (intent.changes.map (·.classification))
      estimatedDurationMillis := intent.estimatedDurationMillis
      rationale := intent.rationale
      expiresAt := now.saturatingAdd managedProjectionRebuildTtlMillis }
  return ⟨preview, computeManagedProjectionRebuildDigest preview, now⟩

structure ManagedProjectionRebuildApproval where
  preparedId : PreparedIntentId
  actor : AuditActor
  acknowledgedPayloadDigest : ManagedProjectionRebuildPayloadDigest
  idempotencyId : IdempotencyId
  authorized : actor = .headOfProducts

structure ApproveAndExecuteRebuildManagedProjections where
  approval : ManagedProjectionRebuildApproval
  context : OperationContext

/-- The changes a publication is opened for. -/
structure ManagedProjectionRebuildEffects where
  changes : List ManagedProjectionRebuildChangeEntry

def executeRebuild (approval : ManagedProjectionRebuildApproval) (prepared : ManagedProjectionRebuildPreparedIntent)
    (currentLedgerSchemaVersion currentLedgerRevision : Nat) (currentPublishedBaselineDigest : String)
    (currentChanges : List ManagedProjectionRebuildChangeEntry) (now : UtcTimestamp) :
    Except ManagedProjectionRebuildError ManagedProjectionRebuildEffects := do
  ensure (approval.preparedId = prepared.preview.preparedIntentId) .preparedIntentMismatch
  ensure (approval.acknowledgedPayloadDigest = prepared.payloadDigest) .digestMismatch
  ensure (now < prepared.preview.expiresAt) .expired
  ensure (currentLedgerSchemaVersion = prepared.preview.ledgerSchemaVersion ∧
    currentLedgerRevision = prepared.preview.ledgerRevision ∧
    currentPublishedBaselineDigest = prepared.preview.publishedBaselineDigest ∧
    currentChanges = prepared.preview.changes) .previewChanged
  return ⟨prepared.preview.changes⟩

inductive ManagedProjectionPublishItemState where
  | untouched | committed | failed
  deriving DecidableEq

structure ManagedProjectionPublishItem where
  relativePath : String
  state : ManagedProjectionPublishItemState

inductive ManagedProjectionPublishStatus where
  | succeeded | failed | cancelled
  deriving DecidableEq

inductive ManagedProjectionEffectScope where
  | none | partly | complete

def ManagedProjectionEffectScope.derive (items : List ManagedProjectionPublishItem) : ManagedProjectionEffectScope :=
  let committed := (items.filter fun item => item.state = .committed).length
  if committed = 0 then .none
  else if committed = items.length then .complete
  else .partly

structure ManagedProjectionManifestEntry where
  relativePath : String
  recordKind : ManagedProjectionRebuildRecordKind
  recordId : String
  sourceRevision : Nat
  classification : DataClassification
  managedPayloadSha256 : String
  finalFileSha256 : String

structure ManagedProjectionManifestGeneration where
  manifestId : String
  ledgerSchemaVersion : Nat
  ledgerRevision : Nat
  manifestDigest : String
  entries : List ManagedProjectionManifestEntry

structure ManagedProjectionPublishReport where
  status : ManagedProjectionPublishStatus
  items : List ManagedProjectionPublishItem
  manifest : Option ManagedProjectionManifestGeneration

def rebuildError : ManagedProjectionRebuildError → ErrorCode × MessageKey
  | .emptyChangeSet => (.validationInvalidField, ⟨"projection.rebuild_empty_change_set", by decide⟩)
  | .changesNotCanonical => (.validationInvalidField, ⟨"projection.rebuild_changes_not_canonical", by decide⟩)
  | .digestMismatch => (.securityPreviewExpiredOrChanged, ⟨"projection.rebuild_digest_mismatch", by decide⟩)
  | .expired => (.securityPreviewExpiredOrChanged, ⟨"projection.rebuild_preview_expired", by decide⟩)
  | .previewChanged => (.securityPreviewExpiredOrChanged, ⟨"projection.rebuild_preview_changed", by decide⟩)
  | .unauthorizedActor => (.securityPolicyDenied, ⟨"projection.rebuild_unauthorized_actor", by decide⟩)
  | .missingConfirmation => (.securityPolicyDenied, ⟨"projection.rebuild_missing_confirmation", by decide⟩)
  | .preparedIntentMismatch => (.domainConflict, ⟨"projection.rebuild_prepared_intent_mismatch", by decide⟩)
  | .h1AutoNotPermitted => (.securityPolicyDenied, ⟨"projection.rebuild_h1_auto_not_permitted", by decide⟩)
  | .publicationInFlight => (.domainConflict, ⟨"projection.rebuild_publication_in_flight", by decide⟩)

section
variable (context : OperationContext)

def rebuildDomainError (error : ManagedProjectionRebuildError) : DomainError :=
  .new (rebuildError error).1 (rebuildError error).2 context.correlationId false

def storageError : DomainError :=
  .new .platformInternal ⟨"projection.persistence_failed", by decide⟩ context.correlationId true

def idempotencyConflict : DomainError :=
  .new .domainIdempotencyConflict ⟨"projection.idempotency_conflict", by decide⟩ context.correlationId false

def unknownPreparedIntent : DomainError :=
  .new .domainNotFound ⟨"projection.rebuild_prepared_intent_not_found", by decide⟩ context.correlationId false

def preparedIntentAlreadyConsumed : DomainError :=
  .new .domainConflict ⟨"projection.rebuild_prepared_intent_consumed", by decide⟩ context.correlationId false

def unknownOperation : DomainError :=
  .new .domainNotFound ⟨"projection.rebuild_operation_not_found", by decide⟩ context.correlationId false

def operationAlreadyTerminal : DomainError :=
  .new .domainConflict ⟨"projection.rebuild_operation_terminal", by decide⟩ context.correlationId false

def unplannedItem : DomainError :=
  .new .domainConflict ⟨"projection.rebuild_unplanned_item", by decide⟩ context.correlationId false

def incompleteReport : DomainError :=
  .new .domainConflict ⟨"projection.rebuild_incomplete_report", by decide⟩ context.correlationId false

end

variable {prepared : ManagedProjectionRebuildPreparedIntent}

theorem prepareRebuild_ok [Sha256] {intent : PrepareRebuildManagedProjections} {preparedIntentId : PreparedIntentId}
    {now : UtcTimestamp} (success : prepareRebuild intent preparedIntentId now = .ok prepared) :
    intent.changes ≠ [] ∧ canonical intent.changes = true ∧ prepared.preview.preparedIntentId = preparedIntentId ∧
      prepared.preview.changes = intent.changes ∧
      prepared.payloadDigest = computeManagedProjectionRebuildDigest prepared.preview := by
  unfold prepareRebuild at success
  obtain ⟨_, nonempty, success⟩ := bind_ok.mp success
  obtain ⟨_, ordered, success⟩ := bind_ok.mp success
  cases pure_ok.mp success
  exact ⟨ensure_ok.mp nonempty, ensure_ok.mp ordered, rfl, rfl, rfl⟩

theorem executeRebuild_ok {approval : ManagedProjectionRebuildApproval} {schemaVersion revision : Nat}
    {baseline : String} {changes : List ManagedProjectionRebuildChangeEntry} {now : UtcTimestamp}
    {effects : ManagedProjectionRebuildEffects}
    (success : executeRebuild approval prepared schemaVersion revision baseline changes now = .ok effects) :
    approval.preparedId = prepared.preview.preparedIntentId ∧
      approval.acknowledgedPayloadDigest = prepared.payloadDigest ∧ now < prepared.preview.expiresAt ∧
      (schemaVersion = prepared.preview.ledgerSchemaVersion ∧ revision = prepared.preview.ledgerRevision ∧
        baseline = prepared.preview.publishedBaselineDigest ∧ changes = prepared.preview.changes) ∧
      effects.changes = prepared.preview.changes := by
  unfold executeRebuild at success
  obtain ⟨_, named, success⟩ := bind_ok.mp success
  obtain ⟨_, acknowledged, success⟩ := bind_ok.mp success
  obtain ⟨_, unexpired, success⟩ := bind_ok.mp success
  obtain ⟨_, unchanged, success⟩ := bind_ok.mp success
  cases pure_ok.mp success
  exact ⟨ensure_ok.mp named, ensure_ok.mp acknowledged, ensure_ok.mp unexpired, ensure_ok.mp unchanged, rfl⟩

end MissionControl.Projections

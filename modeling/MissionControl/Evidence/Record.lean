import MissionControl.Domain.Error
import MissionControl.Domain.PreviewDigest
import MissionControl.Lib.Checked
import MissionControl.Lib.Sorting

/-! Evidence references: what they record, what may be asked of them, and how one is
superseded by another. -/

namespace MissionControl.Evidence
open Encoding Checked Sorting

def maxVaultRelativePathLength : Nat := 400

def validateVaultRelativePath (value : String) : Except DomainValueError Unit := do
  validateText value maxVaultRelativePathLength
  let characters := value.toList
  ensure (characters.head? ≠ some '/' ∧ ':' ∉ characters ∧ '\\' ∉ characters) ⟨.invalidCharacter⟩
  ensure (∀ segment ∈ characters.splitOn '/', segment ≠ [] ∧ segment ≠ ['.'] ∧ segment ≠ ['.', '.']) ⟨.invalidCharacter⟩

/-- A path below the Vault root that cannot leave it. -/
structure VaultRelativePath where
  asStr : String
  valid : (validateVaultRelativePath asStr).isOk = true
  deriving DecidableEq

inductive FingerprintAlgorithm where
  | sha256
  deriving DecidableEq

def FingerprintAlgorithm.asPersisted : FingerprintAlgorithm → String
  | .sha256 => "sha256"

structure EvidenceFingerprint where
  algorithm : FingerprintAlgorithm
  digest : IntegrityDigest
  deriving DecidableEq

abbrev ProvenanceReference := CodeText 128

inductive Provenance where
  | userEntered
  | authoritativeTransition (reference : ProvenanceReference)
  | syntheticFixture (reference : ProvenanceReference)
  deriving DecidableEq

def Provenance.kindPersisted : Provenance → String
  | .userEntered => "user_entered"
  | .authoritativeTransition _ => "authoritative_transition"
  | .syntheticFixture _ => "synthetic_fixture"

def Provenance.reference : Provenance → Option ProvenanceReference
  | .userEntered => none
  | .authoritativeTransition reference | .syntheticFixture reference => some reference

structure OperationContext where
  idempotencyId : IdempotencyId
  correlationId : CorrelationId
  deriving DecidableEq

structure MutationOutcome (Record : Type) where
  record : Record
  auditEvent : AuditEvent

structure EvidenceReferenceRecord where
  id : EvidenceReferenceId
  vaultPath : VaultRelativePath
  fingerprint : Option EvidenceFingerprint
  verification : EvidenceVerification
  classification : DataClassification
  provenance : Provenance
  version : AggregateVersion
  createdAt : UtcTimestamp
  updatedAt : UtcTimestamp

structure CreateEvidenceReference where
  id : EvidenceReferenceId
  vaultPath : VaultRelativePath
  fingerprint : Option EvidenceFingerprint
  verification : EvidenceVerification
  classification : Option DataClassification
  provenance : Provenance
  context : OperationContext
  deriving DecidableEq

inductive EvidenceLinkTarget where
  | product (id : ProductId)
  | initiative (id : InitiativeId)
  | project (id : ProjectId)
  | roadmap (id : RoadmapId)
  | milestone (id : MilestoneId)
  | kpi (id : KpiId)
  | kpiObservation (id : KpiObservationId)
  | actionRequest (id : ActionRequestId)
  | action (id : ActionId)
  | decisionRequest (id : DecisionRequestId)
  | decision (id : DecisionId)
  | risk (id : RiskId)
  | issue (id : IssueId)
  deriving DecidableEq

structure EvidenceLinkRecord where
  evidenceId : EvidenceReferenceId
  target : EvidenceLinkTarget
  classification : DataClassification
  linkedAt : UtcTimestamp

structure LinkEvidence where
  evidenceId : EvidenceReferenceId
  expectedEvidenceVersion : AggregateVersion
  target : EvidenceLinkTarget
  context : OperationContext
  deriving DecidableEq

structure UpdateEvidenceVerification where
  id : EvidenceReferenceId
  expectedVersion : AggregateVersion
  verification : EvidenceVerification
  context : OperationContext
  deriving DecidableEq

structure RelocateEvidenceReference where
  id : EvidenceReferenceId
  expectedVersion : AggregateVersion
  expectedCurrentPath : VaultRelativePath
  newVaultPath : VaultRelativePath
  observedFingerprint : EvidenceFingerprint
  observedAt : UtcTimestamp
  context : OperationContext
  deriving DecidableEq

structure PinEvidenceFingerprint where
  id : EvidenceReferenceId
  expectedVersion : AggregateVersion
  expectedCurrentPath : VaultRelativePath
  observedFingerprint : EvidenceFingerprint
  observedAt : UtcTimestamp
  context : OperationContext
  deriving DecidableEq

def evidenceSupersessionTtlMillis : Int := 300000

structure EvidenceSupersessionLinkSnapshot where
  target : EvidenceLinkTarget
  targetVersion : AggregateVersion
  targetClassification : DataClassification
  linkClassification : DataClassification
  linkedAt : UtcTimestamp
  deriving DecidableEq

structure EvidenceSupersessionSourceSnapshot where
  record : EvidenceReferenceRecord
  links : List EvidenceSupersessionLinkSnapshot

structure PrepareSupersedeEvidenceReference where
  sourceId : EvidenceReferenceId
  expectedSourceVersion : AggregateVersion
  replacementId : EvidenceReferenceId
  replacementVaultPath : VaultRelativePath
  replacementFingerprint : EvidenceFingerprint
  replacementObservedAt : UtcTimestamp
  replacementClassification : DataClassification
  replacementProvenance : Provenance
  rationale : WorkManagementRationale
  context : OperationContext
  deriving DecidableEq

inductive EvidenceSupersessionError where
  | sourceMismatch | replacementIsSource | notAGenuineReplacement | unclassifiedReplacement
  | replacementLowersClassification | sourceAlreadySuperseded | digestMismatch | expired | previewChanged
  | unauthorizedActor | missingConfirmation | preparedIntentMismatch

structure EvidenceSupersessionPreview where
  preparedIntentId : PreparedIntentId
  sourceId : EvidenceReferenceId
  sourceVersion : AggregateVersion
  sourceVaultPath : VaultRelativePath
  sourceFingerprint : Option EvidenceFingerprint
  sourceClassification : DataClassification
  replacementId : EvidenceReferenceId
  replacementVaultPath : VaultRelativePath
  replacementFingerprint : EvidenceFingerprint
  replacementObservedAt : UtcTimestamp
  replacementClassification : DataClassification
  replacementProvenance : Provenance
  links : List EvidenceSupersessionLinkSnapshot
  classification : DataClassification
  rationale : WorkManagementRationale
  expiresAt : UtcTimestamp

abbrev EvidenceSupersessionPayloadDigest := WorkManagementPayloadDigest

structure EvidenceSupersessionPreparedIntent where
  preview : EvidenceSupersessionPreview
  payloadDigest : EvidenceSupersessionPayloadDigest
  createdAt : UtcTimestamp

namespace EvidenceLinkTarget

def discriminant : EvidenceLinkTarget → Nat
  | .product _ => 0
  | .initiative _ => 1
  | .project _ => 2
  | .roadmap _ => 3
  | .milestone _ => 4
  | .kpi _ => 5
  | .kpiObservation _ => 6
  | .actionRequest _ => 7
  | .action _ => 8
  | .decisionRequest _ => 9
  | .decision _ => 10
  | .risk _ => 11
  | .issue _ => 12

def idStr : EvidenceLinkTarget → String
  | .product id | .initiative id | .project id | .roadmap id | .milestone id | .kpi id | .kpiObservation id
  | .actionRequest id | .action id | .decisionRequest id | .decision id | .risk id | .issue id => id.asStr

end EvidenceLinkTarget

def compareLinks (left right : EvidenceSupersessionLinkSnapshot) : Ordering :=
  (compare left.target.discriminant right.target.discriminant).then (compare left.target.idStr right.target.idStr)

def digestFingerprint (fingerprint : EvidenceFingerprint) : List UInt8 :=
  digestText fingerprint.algorithm.asPersisted ++ digestText fingerprint.digest.asStr

def digestProvenance (provenance : Provenance) : List UInt8 :=
  digestText provenance.kindPersisted ++
    match provenance.reference with
    | some reference => digestText "1" ++ digestText reference.asStr
    | none => digestText "0"

def digestLink (link : EvidenceSupersessionLinkSnapshot) : List UInt8 :=
  digestField (bigEndian 1 link.target.discriminant) ++ digestText link.target.idStr ++ digestVersion link.targetVersion ++
    digestClassification link.targetClassification ++ digestClassification link.linkClassification ++
    digestInstant link.linkedAt

def computeEvidenceSupersessionDigest [Sha256] (preview : EvidenceSupersessionPreview) :
    EvidenceSupersessionPayloadDigest :=
  Sha256.finalize (
    digestText "product-mission-control.evidence-supersession.prepared-intent.v1" ++
    digestText preview.preparedIntentId.asStr ++ digestText preview.sourceId.asStr ++
    digestVersion preview.sourceVersion ++ digestText preview.sourceVaultPath.asStr ++
    (match preview.sourceFingerprint with
      | some fingerprint => digestText "1" ++ digestFingerprint fingerprint
      | none => digestText "0") ++
    digestClassification preview.sourceClassification ++ digestText preview.replacementId.asStr ++
    digestText preview.replacementVaultPath.asStr ++ digestFingerprint preview.replacementFingerprint ++
    digestInstant preview.replacementObservedAt ++ digestClassification preview.replacementClassification ++
    digestProvenance preview.replacementProvenance ++ digestList digestLink preview.links ++
    digestClassification preview.classification ++ digestText preview.rationale.asStr ++
    digestInstant preview.expiresAt)

def supersessionClassification (source replacement : DataClassification)
    (links : List EvidenceSupersessionLinkSnapshot) : DataClassification :=
  DataClassification.combineAll (source.combine replacement)
    (links.flatMap fun link => [link.targetClassification, link.linkClassification])

def prepareSupersession [Sha256] (intent : PrepareSupersedeEvidenceReference) (preparedIntentId : PreparedIntentId)
    (source : EvidenceSupersessionSourceSnapshot) (now : UtcTimestamp) :
    Except EvidenceSupersessionError EvidenceSupersessionPreparedIntent := do
  ensure (source.record.id = intent.sourceId ∧ source.record.version = intent.expectedSourceVersion) .sourceMismatch
  ensure (intent.replacementId ≠ intent.sourceId) .replacementIsSource
  -- the same content under another path is a relocation
  ensure (source.record.fingerprint ≠ some intent.replacementFingerprint) .notAGenuineReplacement
  ensure (intent.replacementClassification ≠ .unclassified) .unclassifiedReplacement
  ensure (intent.replacementClassification.combine source.record.classification = intent.replacementClassification)
    .replacementLowersClassification
  let links := sortBy compareLinks source.links
  let preview : EvidenceSupersessionPreview :=
    { preparedIntentId
      sourceId := source.record.id
      sourceVersion := source.record.version
      sourceVaultPath := source.record.vaultPath
      sourceFingerprint := source.record.fingerprint
      sourceClassification := source.record.classification
      replacementId := intent.replacementId
      replacementVaultPath := intent.replacementVaultPath
      replacementFingerprint := intent.replacementFingerprint
      replacementObservedAt := intent.replacementObservedAt
      replacementClassification := intent.replacementClassification
      replacementProvenance := intent.replacementProvenance
      links
      classification := supersessionClassification source.record.classification intent.replacementClassification links
      rationale := intent.rationale
      expiresAt := now.saturatingAdd evidenceSupersessionTtlMillis }
  return ⟨preview, computeEvidenceSupersessionDigest preview, now⟩

structure EvidenceSupersessionApproval where
  preparedId : PreparedIntentId
  actor : AuditActor
  acknowledgedPayloadDigest : EvidenceSupersessionPayloadDigest
  idempotencyId : IdempotencyId
  authorized : actor = .headOfProducts

instance : DecidableEq EvidenceSupersessionApproval := fun first second =>
  decidable_of_iff (first.preparedId = second.preparedId ∧ first.actor = second.actor ∧
    first.acknowledgedPayloadDigest = second.acknowledgedPayloadDigest ∧ first.idempotencyId = second.idempotencyId)
    (by cases first; cases second; simp)

structure ApproveAndExecuteSupersedeEvidenceReference where
  approval : EvidenceSupersessionApproval
  context : OperationContext

structure EvidenceSupersessionEffects where
  replacement : EvidenceReferenceRecord
  replacementLinks : List EvidenceLinkRecord
  sourceId : EvidenceReferenceId
  sourceNewVersion : AggregateVersion

def EvidenceSupersessionPreview.replacement (preview : EvidenceSupersessionPreview) (now : UtcTimestamp) :
    EvidenceReferenceRecord where
  id := preview.replacementId
  vaultPath := preview.replacementVaultPath
  fingerprint := some preview.replacementFingerprint
  verification := .verified preview.replacementObservedAt preview.replacementFingerprint.digest
  classification := preview.classification
  provenance := preview.replacementProvenance
  version := .initial
  createdAt := now
  updatedAt := now

def EvidenceSupersessionPreview.replacementLinks (preview : EvidenceSupersessionPreview) (now : UtcTimestamp) :
    List EvidenceLinkRecord :=
  preview.links.map fun link => ⟨preview.replacementId, link.target, preview.classification, now⟩

def executeSupersession (approval : EvidenceSupersessionApproval) (prepared : EvidenceSupersessionPreparedIntent)
    (current : EvidenceSupersessionSourceSnapshot) (alreadySuperseded : Bool) (now : UtcTimestamp) :
    Except EvidenceSupersessionError EvidenceSupersessionEffects := do
  let preview := prepared.preview
  ensure (approval.preparedId = preview.preparedIntentId) .preparedIntentMismatch
  ensure (approval.acknowledgedPayloadDigest = prepared.payloadDigest) .digestMismatch
  ensure (now < preview.expiresAt) .expired
  ensure (alreadySuperseded = false) .sourceAlreadySuperseded
  ensure (current.record.id = preview.sourceId ∧ current.record.version = preview.sourceVersion) .previewChanged
  ensure (sortBy compareLinks current.links = preview.links) .previewChanged
  let sourceNewVersion ← require .sourceMismatch preview.sourceVersion.next
  return {
    replacement := preview.replacement now
    replacementLinks := preview.replacementLinks now
    sourceId := preview.sourceId
    sourceNewVersion }

section
variable (context : OperationContext)

def storageError : DomainError :=
  .new .platformInternal ⟨"evidence.persistence_failed", by decide +kernel⟩ context.correlationId true

def idempotencyConflict : DomainError :=
  .new .domainIdempotencyConflict ⟨"evidence.idempotency_conflict", by decide +kernel⟩ context.correlationId false

def domainConflict : DomainError :=
  .new .domainConflict ⟨"evidence.already_exists", by decide +kernel⟩ context.correlationId false

def domainNotFound : DomainError :=
  .new .domainNotFound ⟨"evidence.not_found", by decide +kernel⟩ context.correlationId false

def pathAlreadyReferenced : DomainError :=
  .new .domainConflict ⟨"evidence.path_already_referenced", by decide +kernel⟩ context.correlationId false

def relocationPathUnchanged : DomainError :=
  .new .domainConflict ⟨"evidence.relocation_path_unchanged", by decide +kernel⟩ context.correlationId false

def relocationPathMismatch : DomainError :=
  .new .domainConflict ⟨"evidence.relocation_path_mismatch", by decide +kernel⟩ context.correlationId false

def relocationFingerprintUnpinned : DomainError :=
  .new .domainConflict ⟨"evidence.relocation_fingerprint_unpinned", by decide +kernel⟩ context.correlationId false

def relocationFingerprintMismatch : DomainError :=
  .new .domainConflict ⟨"evidence.relocation_fingerprint_mismatch", by decide +kernel⟩ context.correlationId false

def pinPathMismatch : DomainError :=
  .new .domainConflict ⟨"evidence.pin_path_mismatch", by decide +kernel⟩ context.correlationId false

def pinFingerprintAlreadyPinned : DomainError :=
  .new .domainConflict ⟨"evidence.pin_fingerprint_already_pinned", by decide +kernel⟩ context.correlationId false

def supersessionError : EvidenceSupersessionError → ErrorCode × MessageKey
  | .sourceMismatch => (.domainConflict, ⟨"evidence.supersession_source_mismatch", by decide +kernel⟩)
  | .replacementIsSource => (.domainConflict, ⟨"evidence.supersession_replacement_is_source", by decide +kernel⟩)
  | .notAGenuineReplacement => (.domainConflict, ⟨"evidence.supersession_not_a_genuine_replacement", by decide +kernel⟩)
  | .unclassifiedReplacement => (.domainConflict, ⟨"evidence.supersession_unclassified_replacement", by decide +kernel⟩)
  | .replacementLowersClassification => (.domainConflict, ⟨"evidence.supersession_lowers_classification", by decide +kernel⟩)
  | .sourceAlreadySuperseded => (.domainConflict, ⟨"evidence.supersession_source_already_superseded", by decide +kernel⟩)
  | .digestMismatch => (.securityPreviewExpiredOrChanged, ⟨"evidence.supersession_digest_mismatch", by decide +kernel⟩)
  | .expired => (.securityPreviewExpiredOrChanged, ⟨"evidence.supersession_expired", by decide +kernel⟩)
  | .previewChanged => (.securityPreviewExpiredOrChanged, ⟨"evidence.supersession_preview_changed", by decide +kernel⟩)
  | .unauthorizedActor => (.securityPolicyDenied, ⟨"evidence.supersession_unauthorized_actor", by decide +kernel⟩)
  | .missingConfirmation => (.securityPolicyDenied, ⟨"evidence.supersession_missing_confirmation", by decide +kernel⟩)
  | .preparedIntentMismatch =>
    (.securityPreviewExpiredOrChanged, ⟨"evidence.supersession_prepared_intent_mismatch", by decide +kernel⟩)

def supersessionDomainError (error : EvidenceSupersessionError) : DomainError :=
  .new (supersessionError error).1 (supersessionError error).2 context.correlationId false

end

variable {source : EvidenceSupersessionSourceSnapshot} {now : UtcTimestamp}

variable {prepared : EvidenceSupersessionPreparedIntent}

variable {intent : PrepareSupersedeEvidenceReference} {preparedIntentId : PreparedIntentId}

/-- A preparation succeeds on the same grounds at any time, and only its identity and its
expiry tell two of them apart. -/
theorem prepareSupersession_ok [Sha256]
    (success : prepareSupersession intent preparedIntentId source now = .ok prepared) :
    prepared.preview.preparedIntentId = preparedIntentId ∧ prepared.createdAt = now ∧
      prepared.payloadDigest = computeEvidenceSupersessionDigest prepared.preview ∧
      prepared.preview.sourceId = source.record.id ∧ prepared.preview.sourceVersion = source.record.version ∧
      prepared.preview.sourceVaultPath = source.record.vaultPath ∧
      prepared.preview.sourceFingerprint = source.record.fingerprint ∧
      prepared.preview.sourceClassification = source.record.classification ∧
      source.record.id = intent.sourceId ∧ prepared.preview.replacementId = intent.replacementId ∧
      intent.replacementId ≠ intent.sourceId ∧ prepared.preview.links = sortBy compareLinks source.links ∧
      prepared.preview.classification = supersessionClassification source.record.classification
        intent.replacementClassification (sortBy compareLinks source.links) := by
  unfold prepareSupersession at success
  obtain ⟨_, named, success⟩ := bind_ok.mp success
  obtain ⟨_, different, success⟩ := bind_ok.mp success
  obtain ⟨_, _, success⟩ := bind_ok.mp success
  obtain ⟨_, _, success⟩ := bind_ok.mp success
  obtain ⟨_, _, success⟩ := bind_ok.mp success
  cases pure_ok.mp success
  exact ⟨rfl, rfl, rfl, rfl, rfl, rfl, rfl, rfl, (ensure_ok.mp named).1, rfl, ensure_ok.mp different, rfl, rfl⟩

theorem prepareSupersession_again [Sha256] {current : EvidenceSupersessionSourceSnapshot}
    (success : prepareSupersession intent preparedIntentId source now = .ok prepared)
    (sameId : current.record.id = source.record.id) (sameVersion : current.record.version = source.record.version)
    (samePath : current.record.vaultPath = source.record.vaultPath)
    (sameFingerprint : current.record.fingerprint = source.record.fingerprint)
    (sameClassification : current.record.classification = source.record.classification)
    (sameLinks : sortBy compareLinks current.links = sortBy compareLinks source.links) (otherId : PreparedIntentId)
    (later : UtcTimestamp) :
    ∃ again, prepareSupersession intent otherId current later = .ok again ∧ again.preview =
      { prepared.preview with
        preparedIntentId := otherId
        expiresAt := later.saturatingAdd evidenceSupersessionTtlMillis } := by
  unfold prepareSupersession at success
  obtain ⟨_, named, success⟩ := bind_ok.mp success
  obtain ⟨_, different, success⟩ := bind_ok.mp success
  obtain ⟨_, genuine, success⟩ := bind_ok.mp success
  obtain ⟨_, classified, success⟩ := bind_ok.mp success
  obtain ⟨_, raised, success⟩ := bind_ok.mp success
  cases pure_ok.mp success
  rw [← sameId, ← sameVersion] at named
  rw [← sameFingerprint] at genuine
  rw [← sameClassification] at raised
  refine ⟨_, bind_ok.mpr ⟨(), named, bind_ok.mpr ⟨(), different, bind_ok.mpr ⟨(), genuine, bind_ok.mpr ⟨(), classified,
    bind_ok.mpr ⟨(), raised, pure_ok.mpr rfl⟩⟩⟩⟩⟩, ?_⟩
  simp only [sameId, sameVersion, samePath, sameFingerprint, sameClassification, sameLinks]

theorem executeSupersession_ok {approval : EvidenceSupersessionApproval} {alreadySuperseded : Bool}
    {effects : EvidenceSupersessionEffects}
    (success : executeSupersession approval prepared source alreadySuperseded now = .ok effects) :
    alreadySuperseded = false ∧
      (source.record.id = prepared.preview.sourceId ∧ source.record.version = prepared.preview.sourceVersion) ∧
      sortBy compareLinks source.links = prepared.preview.links ∧
      effects.replacement = prepared.preview.replacement now ∧
      effects.replacementLinks = prepared.preview.replacementLinks now ∧
      effects.sourceId = prepared.preview.sourceId ∧ prepared.preview.sourceVersion.next = some effects.sourceNewVersion := by
  unfold executeSupersession at success
  obtain ⟨_, _, success⟩ := bind_ok.mp success
  obtain ⟨_, _, success⟩ := bind_ok.mp success
  obtain ⟨_, _, success⟩ := bind_ok.mp success
  obtain ⟨_, first, success⟩ := bind_ok.mp success
  obtain ⟨_, unchanged, success⟩ := bind_ok.mp success
  obtain ⟨_, sameLinks, success⟩ := bind_ok.mp success
  obtain ⟨version, advanced, success⟩ := bind_ok.mp success
  cases pure_ok.mp success
  exact ⟨ensure_ok.mp first, ensure_ok.mp unchanged, ensure_ok.mp sameLinks, rfl, rfl, rfl, require_ok.mp advanced⟩

theorem le_supersessionClassification (source replacement : DataClassification)
    (links : List EvidenceSupersessionLinkSnapshot) :
    source ≤ supersessionClassification source replacement links ∧
      ∀ link ∈ links, link.targetClassification ≤ supersessionClassification source replacement links ∧
        link.linkClassification ≤ supersessionClassification source replacement links := by
  constructor
  · apply le_trans _ (DataClassification.le_combineAll _ _)
    rw [DataClassification.combine_eq_sup]
    exact le_sup_left
  · intro link held
    constructor
    · exact DataClassification.mem_le_combineAll (List.mem_flatMap.mpr ⟨link, held, by simp⟩)
    · exact DataClassification.mem_le_combineAll (List.mem_flatMap.mpr ⟨link, held, by simp⟩)

end MissionControl.Evidence

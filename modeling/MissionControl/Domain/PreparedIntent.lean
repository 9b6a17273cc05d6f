import MissionControl.Domain.PreviewDigest

/-! Preparing a preview of an operation, and approving it. A prepared intent
holds a preview only together with the fact that preparation admitted it. -/

namespace MissionControl

def supportedWorkManagementH2aContractVersion : Nat := 1
def workManagementH2aTtlMillis : Int := 300000

inductive PreparedIntentError where
  | invalidTopology | unclassifiedBinding | expiryOverflow | unauthorizedActor | invalidSupport | missingConfirmation
  deriving DecidableEq

/-- `windows(2).any(..)`. -/
def anyAdjacent {α : Type} (test : α → α → Bool) : List α → Bool
  | first :: second :: rest => test first second || anyAdjacent test (second :: rest)
  | _ => false

def sortResulting (requests : List DecisionResultingActionRequest) : List DecisionResultingActionRequest :=
  requests.insertionSort fun left right => left.id ≤ right.id

def sortDownstream (work : List IncompleteDownstreamWork) : List IncompleteDownstreamWork :=
  work.insertionSort fun left right => downstreamId left < downstreamId right ∨
    (downstreamId left = downstreamId right ∧ downstreamKind left ≤ downstreamKind right)

def sortBindings (bindings : List EvidenceClassificationBinding) : List EvidenceClassificationBinding :=
  bindings.insertionSort fun left right => left.evidenceId ≤ right.evidenceId

def repeatsResulting (requests : List DecisionResultingActionRequest) : Bool :=
  anyAdjacent (fun left right => left.id == right.id) requests

def repeatsBinding (bindings : List EvidenceClassificationBinding) : Bool :=
  anyAdjacent (fun left right => left.evidenceId == right.evidenceId) bindings

def flagsResulting (requests : List DecisionResultingActionRequest) (work : List IncompleteDownstreamWork) : Bool :=
  requests.any fun resulting => work.any fun downstream =>
    match downstream with
    | .actionRequest id _ _ => id == resulting.id
    | .action .. => false

def canonicalOperation : WorkManagementOperation → Except PreparedIntentError WorkManagementOperation
  | .resolveDecisionRequest requestId requestVersion decisionId decisionClassification statement rationale impact
      decisionOwner decidedAt resultingActionRequests =>
    let sorted := sortResulting resultingActionRequests
    if repeatsResulting sorted then .error .invalidTopology
    else .ok (.resolveDecisionRequest requestId requestVersion decisionId decisionClassification statement rationale
      impact decisionOwner decidedAt sorted)
  | .supersedeDecision decisionId decisionVersion replacementDecisionId replacementDecisionVersion
      replacementDecisionClassification replacementStatement replacementRationale replacementImpact
      replacementOwner replacementDecidedAt resultingActionRequests incompleteDownstream =>
    let sorted := sortResulting resultingActionRequests
    let downstream := sortDownstream incompleteDownstream
    if replacementDecisionVersion ≠ .initial then .error .invalidTopology
    else if repeatsResulting sorted || anyAdjacent sameDownstreamIdentity downstream ||
        flagsResulting sorted downstream then
      .error .invalidTopology
    else .ok (.supersedeDecision decisionId decisionVersion replacementDecisionId replacementDecisionVersion
      replacementDecisionClassification replacementStatement replacementRationale replacementImpact
      replacementOwner replacementDecidedAt sorted downstream)
  | .cancelAction actionId actionVersion reason evidenceClassifications =>
    let sorted := sortBindings evidenceClassifications
    if repeatsBinding sorted then .error .invalidSupport
    else .ok (.cancelAction actionId actionVersion reason sorted)
  | .reopenAction actionId actionVersion mode reason evidenceClassifications =>
    let sorted := sortBindings evidenceClassifications
    if repeatsBinding sorted then .error .invalidSupport
    else .ok (.reopenAction actionId actionVersion mode reason sorted)
  | operation => .ok operation

def WorkManagementOperation.isDecision : WorkManagementOperation → Bool
  | .resolveDecisionRequest .. | .supersedeDecision .. => true
  | _ => false

def WorkManagementOperation.supersedesItself : WorkManagementOperation → Bool
  | .supersedeDecision decisionId _ replacementDecisionId .. => decisionId == replacementDecisionId
  | _ => false

/-- The evidence shown must have the role the operation asks for, and only
decisions may be supported without any. -/
def roleRefused (operation : WorkManagementOperation) (support : Option SupportWitness) : Bool :=
  match operation.requiredEvidenceRole, support with
  | some role, some witness =>
    witness.evidence.any (·.role != role) || (!operation.isDecision && witness.evidence.isEmpty)
  | _, _ => false

def supportSources (support : Option SupportWitness) : List WorkManagementClassificationSource :=
  match support with
  | none => []
  | some witness =>
    (witness.evidence.map fun item => ⟨.evidence item.id, item.classification⟩) ++
      witness.judgments.map fun item => ⟨.humanJudgment, item.classification⟩

def previewSources (operation : WorkManagementOperation) (targetClassification : DataClassification)
    (support : Option SupportWitness) : List WorkManagementClassificationSource :=
  ⟨.primaryTarget, targetClassification⟩ :: (operation.classificationSources ++ supportSources support)

def previewClassification (operation : WorkManagementOperation) (targetClassification : DataClassification)
    (support : Option SupportWitness) : DataClassification :=
  let total := DataClassification.combineAll targetClassification
    ((previewSources operation targetClassification support).map (·.classification))
  match support with
  | none => total
  | some witness => total.combine witness.classification

def bindsUnclassified (operation : WorkManagementOperation) (targetClassification : DataClassification)
    (support : Option SupportWitness) : Bool :=
  targetClassification == .unclassified ||
    ((previewSources operation targetClassification support).map (·.classification)).contains .unclassified ||
    support.any (·.classification == .unclassified)

def previewOf (id : PreparedIntentId) (operation : WorkManagementOperation)
    (targetClassification : DataClassification) (support : Option SupportWitness) (expiresAt : UtcTimestamp) :
    WorkManagementPreview where
  id
  contractVersion := supportedWorkManagementH2aContractVersion
  operation
  targets := operation.targets
  effects := operation.effects
  classification := previewClassification operation targetClassification support
  classificationSources := previewSources operation targetClassification support
  support
  policy := .allowed
  expiresAt
  cancellationPolicy := .notCancellableAfterSubmit
  authority := .headOfProducts

def preparePreview (id : PreparedIntentId) (operation : WorkManagementOperation)
    (targetClassification : DataClassification) (support : Option SupportWitness) (now : UtcTimestamp) :
    Except PreparedIntentError WorkManagementPreview :=
  match canonicalOperation operation with
  | .error error => .error error
  | .ok operation =>
    match now.checkedAdd workManagementH2aTtlMillis with
    | none => .error .expiryOverflow
    | some expiresAt =>
      if operation.supportRequirement ≠ support.map (·.requirement) then .error .invalidSupport
      else if roleRefused operation support then .error .invalidSupport
      else if operation.supersedesItself then .error .invalidTopology
      else if bindsUnclassified operation targetClassification support then .error .unclassifiedBinding
      else .ok (previewOf id operation targetClassification support expiresAt)

/-- The source stores the payload digest beside the preview; it is always the
preview's own, and is computed from it here. -/
structure WorkManagementPreparedIntent where
  preview : WorkManagementPreview
  admitted : ∃ id operation targetClassification support now,
    preparePreview id operation targetClassification support now = .ok preview
  deriving DecidableEq

namespace WorkManagementPreparedIntent

def prepare (id : PreparedIntentId) (operation : WorkManagementOperation)
    (targetClassification : DataClassification) (support : Option SupportWitness) (now : UtcTimestamp) :
    Except PreparedIntentError WorkManagementPreparedIntent :=
  match outcome : preparePreview id operation targetClassification support now with
  | .error error => .error error
  | .ok preview => .ok ⟨preview, id, operation, targetClassification, support, now, outcome⟩

abbrev id (prepared : WorkManagementPreparedIntent) : PreparedIntentId := prepared.preview.id
abbrev operation (prepared : WorkManagementPreparedIntent) : WorkManagementOperation := prepared.preview.operation

def payloadDigest [Sha256] (prepared : WorkManagementPreparedIntent) : WorkManagementPayloadDigest :=
  calculatePreviewDigest prepared.preview

variable {targetClassification : DataClassification} {operation : WorkManagementOperation}

theorem prepare_preview {id : PreparedIntentId} {support : Option SupportWitness} {now : UtcTimestamp}
    {prepared : WorkManagementPreparedIntent}
    (success : prepare id operation targetClassification support now = .ok prepared) :
    preparePreview id operation targetClassification support now = .ok prepared.preview := by
  unfold prepare at success
  split at success
  · cases success
  next preview outcome => cases success; exact outcome

theorem prepare_of_preview {id : PreparedIntentId} {support : Option SupportWitness} {now : UtcTimestamp}
    {preview : WorkManagementPreview}
    (success : preparePreview id operation targetClassification support now = .ok preview) :
    prepare id operation targetClassification support now = .ok ⟨preview, _, _, _, _, _, success⟩ := by
  unfold prepare
  split
  next failure => cases success.symm.trans failure
  next outcome => cases success.symm.trans outcome; rfl

end WorkManagementPreparedIntent

structure Admission (operation : WorkManagementOperation) (targetClassification : DataClassification)
    (support : Option SupportWitness) : Prop where
  requirement : operation.supportRequirement = support.map (·.requirement)
  roles : roleRefused operation support = false
  distinct : operation.supersedesItself = false
  classified : bindsUnclassified operation targetClassification support = false

theorem preparePreview_ok {id : PreparedIntentId} {operation : WorkManagementOperation}
    {targetClassification : DataClassification} {support : Option SupportWitness} {now : UtcTimestamp}
    {preview : WorkManagementPreview}
    (success : preparePreview id operation targetClassification support now = .ok preview) :
    ∃ canonical expiresAt, canonicalOperation operation = .ok canonical ∧
      now.checkedAdd workManagementH2aTtlMillis = some expiresAt ∧
      Admission canonical targetClassification support ∧
      preview = previewOf id canonical targetClassification support expiresAt := by
  unfold preparePreview at success
  split at success
  · cases success
  next canonical sorted =>
    split at success
    · cases success
    next expiresAt added =>
      split at success
      · cases success
      next requirement =>
        split at success
        · cases success
        next roles =>
          split at success
          · cases success
          next distinct =>
            split at success
            · cases success
            next classified =>
              refine ⟨canonical, expiresAt, sorted, added, ⟨?_, ?_, ?_, ?_⟩, (Except.ok.inj success).symm⟩
              · exact not_not.mp requirement
              · simpa using roles
              · simpa using distinct
              · simpa using classified

theorem WorkManagementPreparedIntent.shape (prepared : WorkManagementPreparedIntent) :
    ∃ targetClassification, Admission prepared.operation targetClassification prepared.preview.support ∧
      prepared.preview = previewOf prepared.id prepared.operation targetClassification prepared.preview.support
        prepared.preview.expiresAt := by
  obtain ⟨preview, id, operation, targetClassification, support, now, success⟩ := prepared
  obtain ⟨canonical, expiresAt, _, _, admission, rfl⟩ := preparePreview_ok success
  exact ⟨targetClassification, admission, rfl⟩

structure WorkManagementApproval where
  preparedId : PreparedIntentId
  actor : AuditActor
  acknowledgedPayloadDigest : WorkManagementPayloadDigest
  idempotencyId : IdempotencyId
  authorized : actor = .headOfProducts

structure WorkManagementApprovalReceipt where
  id : ApprovalReceiptId
  preparedId : PreparedIntentId
  digest : WorkManagementPayloadDigest
  expiresAt : UtcTimestamp
  actor : AuditActor
  idempotencyId : IdempotencyId

inductive WorkManagementCurrentPolicy where
  | allowed | denied
  deriving DecidableEq

structure WorkManagementAuthoritativeSnapshot where
  operation : WorkManagementOperation
  classification : DataClassification
  classificationSources : List WorkManagementClassificationSource
  support : Option SupportWitness
  policy : WorkManagementCurrentPolicy
  deriving DecidableEq

inductive WorkManagementApprovalValidationError where
  | preparedIntentMismatch | unauthorized | digestMismatch | expired | previewChanged

def expectedSnapshot (prepared : WorkManagementPreparedIntent) : WorkManagementAuthoritativeSnapshot where
  operation := prepared.preview.operation
  classification := prepared.preview.classification
  classificationSources := prepared.preview.classificationSources
  support := prepared.preview.support
  policy := .allowed

def validateAndMintWorkManagementH2aReceipt [Sha256] (prepared : WorkManagementPreparedIntent)
    (approval : WorkManagementApproval) (current : WorkManagementAuthoritativeSnapshot) (now : UtcTimestamp)
    (receiptId : ApprovalReceiptId) (authorize : AuditActor → Bool) :
    Except WorkManagementApprovalValidationError WorkManagementApprovalReceipt :=
  if approval.preparedId ≠ prepared.preview.id then .error .preparedIntentMismatch
  else if approval.actor ≠ .headOfProducts || !authorize approval.actor then .error .unauthorized
  else if approval.acknowledgedPayloadDigest ≠ prepared.payloadDigest then .error .digestMismatch
  else if now ≥ prepared.preview.expiresAt then .error .expired
  else if current ≠ expectedSnapshot prepared then .error .previewChanged
  else .ok
    { id := receiptId, preparedId := prepared.preview.id, digest := prepared.payloadDigest,
      expiresAt := prepared.preview.expiresAt, actor := approval.actor,
      idempotencyId := approval.idempotencyId }

/-- A minted receipt: the approval named this preview by its digest, in time, and
the state it would act on is still the one previewed. -/
structure ReceiptMinted [Sha256] (prepared : WorkManagementPreparedIntent) (approval : WorkManagementApproval)
    (current : WorkManagementAuthoritativeSnapshot) (now : UtcTimestamp) (authorize : AuditActor → Bool) : Prop where
  named : approval.preparedId = prepared.preview.id
  authorized : authorize approval.actor = true
  acknowledged : approval.acknowledgedPayloadDigest = prepared.payloadDigest
  inTime : now < prepared.preview.expiresAt
  unchanged : current = expectedSnapshot prepared

theorem validateAndMint_ok [Sha256] {prepared : WorkManagementPreparedIntent} {approval : WorkManagementApproval}
    {current : WorkManagementAuthoritativeSnapshot} {now : UtcTimestamp} {receiptId : ApprovalReceiptId}
    {authorize : AuditActor → Bool} {receipt : WorkManagementApprovalReceipt}
    (success : validateAndMintWorkManagementH2aReceipt prepared approval current now receiptId authorize = .ok receipt) :
    ReceiptMinted prepared approval current now authorize ∧ receipt.id = receiptId := by
  unfold validateAndMintWorkManagementH2aReceipt at success
  split at success
  · cases success
  next named =>
    split at success
    · cases success
    next authorized =>
      split at success
      · cases success
      next acknowledged =>
        split at success
        · cases success
        next inTime =>
          split at success
          · cases success
          next unchanged =>
            have same := Except.ok.inj success
            refine ⟨⟨not_not.mp named, ?_, not_not.mp acknowledged, lt_of_not_ge inTime, not_not.mp unchanged⟩, ?_⟩
            · simp only [Bool.or_eq_true, not_or, Bool.not_eq_true, Bool.not_eq_false'] at authorized
              exact authorized.2
            · rw [← same]

end MissionControl

import MissionControl.Domain.Lifecycle
import MissionControl.Lib.Staging
import MissionControl.Actions.Record

/-! Decision Requests, the Decisions they become, and what the Decision service keeps. -/

namespace MissionControl.Decisions

abbrev DecisionSubject := BoundedText 240
abbrev DecisionText := BoundedText 4000
abbrev DecisionWithdrawalRationale := BoundedText 2000

structure DecisionOperationContext where
  idempotencyId : IdempotencyId
  correlationId : CorrelationId

structure RejectDecisionPreparedIntent where
  preparedId : PreparedIntentId
  actor : AuditActor
  context : DecisionOperationContext

structure DecisionRequestRecord where
  id : DecisionRequestId
  subject : DecisionSubject
  details : DecisionText
  intendedOwner : Option StakeholderId
  classification : DataClassification
  state : DecisionRequestState
  withdrawalRationale : Option DecisionWithdrawalRationale
  linkedDecisionId : Option DecisionId
  version : AggregateVersion
  deriving DecidableEq

structure DecisionRecord where
  id : DecisionId
  sourceRequestId : Option DecisionRequestId
  statement : DecisionText
  rationale : DecisionText
  impact : DecisionText
  owner : StakeholderId
  decidedAt : UtcTimestamp
  classification : DataClassification
  state : DecisionState
  support : SupportWitness
  resultingActionRequestIds : List ActionRequestId
  supersedesDecisionId : Option DecisionId
  supersededByDecisionId : Option DecisionId
  version : AggregateVersion
  deriving DecidableEq

structure DecisionMutationOutcome (Record : Type) where
  record : Record
  auditEvents : List AuditEvent
  approvalReceiptId : Option ApprovalReceiptId

structure ResolvedDecisionOutcome where
  request : DecisionRequestRecord
  decision : DecisionRecord
  resultingActionRequestIds : List ActionRequestId
  auditEvents : List AuditEvent
  approvalReceiptId : ApprovalReceiptId

structure SupersededDecisionOutcome where
  superseded : DecisionRecord
  replacement : DecisionRecord
  resultingActionRequestIds : List ActionRequestId
  flaggedDownstream : List IncompleteDownstreamWork
  auditEvents : List AuditEvent
  approvalReceiptId : ApprovalReceiptId

structure CreateDecisionRequestDraft where
  id : DecisionRequestId
  subject : DecisionSubject
  details : DecisionText
  intendedOwner : Option StakeholderId
  classification : DataClassification
  context : DecisionOperationContext

structure SubmitDecisionRequest where
  requestId : DecisionRequestId
  expectedVersion : AggregateVersion
  context : DecisionOperationContext

structure WithdrawDecisionRequest where
  requestId : DecisionRequestId
  expectedVersion : AggregateVersion
  rationale : DecisionWithdrawalRationale
  context : DecisionOperationContext

structure PrepareResolveDecisionRequest where
  requestId : DecisionRequestId
  expectedVersion : AggregateVersion
  statement : DecisionText
  rationale : DecisionText
  impact : DecisionText
  evidenceIds : List EvidenceReferenceId
  judgments : List HumanJudgment
  resultingActionRequests : List DecisionResultingActionRequest
  context : DecisionOperationContext

structure PrepareSupersedeDecision where
  decisionId : DecisionId
  expectedVersion : AggregateVersion
  replacementStatement : DecisionText
  replacementRationale : DecisionText
  replacementImpact : DecisionText
  replacementOwner : StakeholderId
  evidenceIds : List EvidenceReferenceId
  judgments : List HumanJudgment
  resultingActionRequests : List DecisionResultingActionRequest
  context : DecisionOperationContext

structure PrepareLowerDecisionClassification where
  decisionId : DecisionId
  expectedVersion : AggregateVersion
  proposedClassification : DataClassification
  rationale : WorkManagementRationale
  context : DecisionOperationContext

structure ApproveAndExecute where
  approval : WorkManagementApproval
  context : DecisionOperationContext

inductive DecisionError where
  | notFound | alreadyExists | stale | illegal | missingOwner | supportDenied | evidenceUnavailable
  | idempotencyConflict | preparedChanged | unauthorized | policyDenied | infrastructure | notALowering
  deriving DecidableEq

inductive Signature where
  | create (id : DecisionRequestId) (subject : DecisionSubject) (details : DecisionText)
      (intendedOwner : Option StakeholderId) (classification : DataClassification)
  | submit (requestId : DecisionRequestId) (expectedVersion : AggregateVersion)
  | withdraw (requestId : DecisionRequestId) (expectedVersion : AggregateVersion)
      (rationale : DecisionWithdrawalRationale)
  | prepareResolve (requestId : DecisionRequestId) (expectedVersion : AggregateVersion)
      (statement rationale impact : DecisionText) (evidenceIds : List EvidenceReferenceId)
      (judgments : List HumanJudgment) (resultingActionRequests : List DecisionResultingActionRequest)
  | prepareSupersede (decisionId : DecisionId) (expectedVersion : AggregateVersion)
      (statement rationale impact : DecisionText) (owner : StakeholderId)
      (evidenceIds : List EvidenceReferenceId) (judgments : List HumanJudgment)
      (resultingActionRequests : List DecisionResultingActionRequest)
  | execute (preparedId : PreparedIntentId) (actor : AuditActor) (digest : WorkManagementPayloadDigest)
  | rejectPrepared (preparedId : PreparedIntentId) (actor : AuditActor)
  | prepareLowerClassification (decisionId : DecisionId) (expectedVersion : AggregateVersion)
      (proposedClassification : DataClassification) (rationale : WorkManagementRationale)
  deriving DecidableEq

def executionSignature (approval : WorkManagementApproval) : Signature :=
  .execute approval.preparedId approval.actor approval.acknowledgedPayloadDigest

inductive ResultValue where
  | request (outcome : DecisionMutationOutcome DecisionRequestRecord)
  | prepared (intent : WorkManagementPreparedIntent)
  | resolved (outcome : ResolvedDecisionOutcome)
  | superseded (outcome : SupersededDecisionOutcome)
  | classificationLowered (outcome : DecisionMutationOutcome DecisionRecord)
  | rejected (outcome : Actions.RejectedPreparedIntentOutcome)

structure Store where
  requests : KeyMap DecisionRequestId DecisionRequestRecord
  decisions : KeyMap DecisionId DecisionRecord
  prepared : KeyMap PreparedIntentId WorkManagementPreparedIntent
  idem : KeyMap IdempotencyId (Signature × ResultValue)
  audits : List AuditEvent

def Store.empty : Store := ⟨∅, ∅, ∅, ∅, []⟩

def isH3Denial : DecisionError → Bool
  | .policyDenied | .supportDenied | .evidenceUnavailable => true
  | _ => false

def mapPrepare : PreparedIntentError → DecisionError
  | .unclassifiedBinding | .invalidSupport => .supportDenied
  | .invalidTopology | .expiryOverflow | .unauthorizedActor | .missingConfirmation => .illegal

def mapValidation : WorkManagementApprovalValidationError → DecisionError
  | .unauthorized => .unauthorized
  | .digestMismatch | .expired | .preparedIntentMismatch | .previewChanged => .preparedChanged

def mapAction : Actions.ActionServiceError → DecisionError
  | .infrastructureFailure => .infrastructure
  | .staleVersion => .stale
  | .idempotencyConflict => .idempotencyConflict
  | _ => .preparedChanged

def domainError (error : DecisionError) (context : DecisionOperationContext) : DomainError :=
  match error with
  | .notFound => .new .domainNotFound ⟨"decision.not_found", by decide⟩ context.correlationId false
  | .stale | .illegal | .alreadyExists | .missingOwner | .idempotencyConflict =>
    .new .domainConflict ⟨"decision.conflict", by decide⟩ context.correlationId false
  | .supportDenied | .evidenceUnavailable | .unauthorized | .policyDenied =>
    .new .securityPolicyDenied ⟨"decision.approval_denied", by decide⟩ context.correlationId false
  | .preparedChanged =>
    .new .securityPreviewExpiredOrChanged ⟨"decision.preview_changed", by decide⟩ context.correlationId false
  | .infrastructure => .new .platformInternal ⟨"decision.internal", by decide⟩ context.correlationId true
  | .notALowering =>
    .new .domainConflict ⟨"decision.classification_lowering_not_a_lowering", by decide⟩ context.correlationId false

end MissionControl.Decisions

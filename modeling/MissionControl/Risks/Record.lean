import MissionControl.Issues.Record

/-! Risk records, the links from Risks to the Issues they became, and what the Risk
service keeps. -/

namespace MissionControl.Risks
open Staging
open Issues (IssueStore IssueRecord)

structure RiskOperationContext where
  idempotencyId : IdempotencyId
  correlationId : CorrelationId

structure RiskRecord where
  id : RiskId
  title : RiskTitle
  details : RiskDetails
  classification : DataClassification
  state : RiskState
  response : Option RiskResponseType
  owner : Option StakeholderId
  rationale : Option RiskRationale
  residualExposure : Option ResidualExposure
  nextReviewAt : Option UtcTimestamp
  inExceptionQueue : Bool
  version : AggregateVersion
  deriving DecidableEq

structure RiskIssueLink where
  riskId : RiskId
  issueId : IssueId
  riskVersion : AggregateVersion
  issueVersion : AggregateVersion
  classification : DataClassification

structure RiskMutationOutcome where
  record : RiskRecord
  auditEvents : List AuditEvent
  approvalReceiptId : Option ApprovalReceiptId

structure OccurredRiskOutcome where
  risk : RiskRecord
  issue : IssueRecord
  auditEvents : List AuditEvent
  approvalReceiptId : ApprovalReceiptId

structure CreateRisk where
  id : RiskId
  title : RiskTitle
  details : RiskDetails
  classification : DataClassification
  context : RiskOperationContext

structure UpdateRiskResponse where
  riskId : RiskId
  expectedVersion : AggregateVersion
  response : RiskResponseType
  owner : Option StakeholderId
  rationale : Option RiskRationale
  residualExposure : Option ResidualExposure
  nextReviewAt : Option UtcTimestamp
  context : RiskOperationContext

structure PrepareRecordRiskOccurrence where
  riskId : RiskId
  expectedVersion : AggregateVersion
  issueId : IssueId
  context : RiskOperationContext

structure PrepareCloseRisk where
  riskId : RiskId
  expectedVersion : AggregateVersion
  rationale : WorkManagementRationale
  context : RiskOperationContext

structure PrepareLowerRiskClassification where
  riskId : RiskId
  expectedVersion : AggregateVersion
  proposedClassification : DataClassification
  rationale : WorkManagementRationale
  context : RiskOperationContext

structure RejectRiskPreparedIntent where
  preparedId : PreparedIntentId
  actor : AuditActor
  context : RiskOperationContext

structure ApproveAndExecute where
  approval : WorkManagementApproval
  context : RiskOperationContext

inductive Signature where
  | create (id : RiskId) (title : RiskTitle) (details : RiskDetails) (classification : DataClassification)
  | update (riskId : RiskId) (expectedVersion : AggregateVersion) (response : RiskResponseType)
      (owner : Option StakeholderId) (rationale : Option RiskRationale)
      (residualExposure : Option ResidualExposure) (nextReviewAt : Option UtcTimestamp)
  | prepareOccurrence (riskId : RiskId) (expectedVersion : AggregateVersion) (issueId : IssueId)
  | prepareClose (riskId : RiskId) (expectedVersion : AggregateVersion) (rationale : WorkManagementRationale)
  | rejectPrepared (preparedId : PreparedIntentId) (actor : AuditActor)
  | prepareLowerClassification (riskId : RiskId) (expectedVersion : AggregateVersion)
      (proposedClassification : DataClassification) (rationale : WorkManagementRationale)
  | execute (preparedId : PreparedIntentId) (actor : AuditActor) (digest : WorkManagementPayloadDigest)
  deriving DecidableEq

def executionSignature (approval : WorkManagementApproval) : Signature :=
  .execute approval.preparedId approval.actor approval.acknowledgedPayloadDigest

structure RiskTerminalFailure where
  prepared : WorkManagementPreparedIntent
  error : DomainError
  audit : AuditEvent

inductive Stored where
  | risk (outcome : RiskMutationOutcome)
  | prepared (intent : WorkManagementPreparedIntent)
  | occurred (outcome : OccurredRiskOutcome)
  | closed (outcome : RiskMutationOutcome)
  | terminal (failure : RiskTerminalFailure)
  | rejected (outcome : Actions.RejectedPreparedIntentOutcome)

structure Store where
  risks : KeyMap RiskId RiskRecord
  prepared : KeyMap PreparedIntentId WorkManagementPreparedIntent
  idem : KeyMap IdempotencyId (Signature × Stored)
  audits : List AuditEvent
  links : List RiskIssueLink

def Store.empty : Store := ⟨∅, ∅, ∅, [], []⟩

/-- What a command of the service reads and replaces: its own store, and the Issues
it shares. -/
structure State where
  authority : IssueStore
  own : Store

abbrev Service := Committing State

inductive RiskFailure where
  | notFound | conflict | lifecycleConflict | idempotencyConflict | policyDenied | unauthorized
  | digestMismatch | expired | previewChanged | infrastructure
  deriving DecidableEq

def err (code : ErrorCode) (key : MessageKey) (context : RiskOperationContext) : DomainError :=
  .new code key context.correlationId false

def idempotencyConflictError (context : RiskOperationContext) : DomainError :=
  err .domainIdempotencyConflict ⟨"risk.idempotency_conflict", by decide⟩ context

def mapFailure (failure : RiskFailure) (context : RiskOperationContext) : DomainError :=
  match failure with
  | .policyDenied | .unauthorized => err .securityPolicyDenied ⟨"risk.security_denied", by decide⟩ context
  | .digestMismatch | .expired | .previewChanged =>
    err .securityPreviewExpiredOrChanged ⟨"risk.preview_changed", by decide⟩ context
  | .notFound => err .domainNotFound ⟨"risk.not_found", by decide⟩ context
  | .conflict => err .domainConflict ⟨"risk.conflict", by decide⟩ context
  | .lifecycleConflict => err .domainConflict ⟨"risk.stale_or_illegal", by decide⟩ context
  | .idempotencyConflict => idempotencyConflictError context
  | .infrastructure => .new .platformInternal ⟨"risk.infrastructure", by decide⟩ context.correlationId true

def auditFailed (context : RiskOperationContext) : DomainError :=
  err .platformInternal ⟨"audit.failed", by decide⟩ context

def allowedNextIntents : RiskState → String
  | .open => "risk.update_response_or_prepare_transition"
  | .occurred | .closed => "risk.no_transition"

/-- A refused change shows the Risk as it is and what it admits. -/
def riskConflict (risk : RiskRecord) (context : RiskOperationContext) : DomainError :=
  ((MessageParam.new "current_state" (.identifier risk.state.asPersisted)).toList ++
    (MessageParam.new "allowed_next_intents" (.fieldKey (allowedNextIntents risk.state))).toList ++
    (MessageParam.new "remediation" (.fieldKey "risk.refresh_and_reprepare")).toList).foldl DomainError.withParam
      ((err .domainConflict ⟨"risk.stale_or_illegal", by decide⟩ context).withExtension (.currentVersion risk.version))

def prepareFailureError (risks : KeyMap RiskId RiskRecord) (target : RiskId) (failure : RiskFailure)
    (context : RiskOperationContext) : DomainError :=
  if failure = .lifecycleConflict then
    match risks[target]? with
    | some risk => riskConflict risk context
    | none => mapFailure failure context
  else mapFailure failure context

end MissionControl.Risks

import MissionControl.Actions.Execution
import MissionControl.Domain.Lifecycle
import MissionControl.Lib.Staging

/-! Issue records, the store of them that the Risk and the Issue service share, and
what the Issue service keeps for itself. -/

namespace MissionControl.Issues
open Staging

structure IssueRecord where
  id : IssueId
  sourceRiskId : Option RiskId
  recurrenceOf : Option IssueId
  title : IssueTitle
  details : IssueDetails
  classification : DataClassification
  state : IssueState
  resolutionType : Option IssueResolutionType
  resolutionRationale : Option WorkManagementRationale
  resolutionEvidence : List EvidenceReferenceId
  closureVerificationEvidence : List EvidenceReferenceId
  failedVerificationEvidence : List EvidenceReferenceId
  reopenRationales : List WorkManagementRationale
  supportHistory : List SupportWitness
  version : AggregateVersion
  deriving DecidableEq

def IssueRecord.new (id : IssueId) (title : IssueTitle) (details : IssueDetails)
    (classification : DataClassification) (sourceRiskId : Option RiskId) (recurrenceOf : Option IssueId) :
    IssueRecord where
  id
  sourceRiskId
  recurrenceOf
  title
  details
  classification
  state := .open
  resolutionType := none
  resolutionRationale := none
  resolutionEvidence := []
  closureVerificationEvidence := []
  failedVerificationEvidence := []
  reopenRationales := []
  supportHistory := []
  version := .initial

def IssueRecord.fromRisk (id : IssueId) (riskId : RiskId) (title : IssueTitle) (details : IssueDetails)
    (classification : DataClassification) : IssueRecord :=
  .new id title details classification (some riskId) none

structure IssueStore where
  records : KeyMap IssueId IssueRecord
  keyed : ∀ (id : IssueId) (issue : IssueRecord), records[id]? = some issue → issue.id = id

namespace IssueStore

def empty : IssueStore := ⟨∅, fun _ _ found => by rw [KeyMap.get_empty] at found; cases found⟩

def get (store : IssueStore) (id : IssueId) : Option IssueRecord := store.records[id]?

def insertFromRisk (store : IssueStore) (issue : IssueRecord) : IssueStore where
  records := store.records.insert issue.id issue
  keyed := by
    intro id other found
    rw [KeyMap.get_insert] at found
    split at found
    next same => cases found; exact same
    next => exact store.keyed id other found

@[simp] theorem get_empty (id : IssueId) : empty.get id = none := KeyMap.get_empty id

@[grind =] theorem get_insertFromRisk (store : IssueStore) (issue : IssueRecord) (id : IssueId) :
    (store.insertFromRisk issue).get id = if issue.id = id then some issue else store.get id :=
  KeyMap.get_insert _ _ _ _

theorem get_id {store : IssueStore} {id : IssueId} {issue : IssueRecord} (found : store.get id = some issue) :
    issue.id = id :=
  store.keyed id issue found

end IssueStore

structure IssueOperationContext where
  idempotencyId : IdempotencyId
  correlationId : CorrelationId

structure CreateIssue where
  id : IssueId
  title : IssueTitle
  details : IssueDetails
  classification : DataClassification
  recurrenceOf : Option IssueId
  context : IssueOperationContext

structure PrepareResolveIssue where
  issueId : IssueId
  expectedVersion : AggregateVersion
  resolutionType : IssueResolutionType
  rationale : WorkManagementRationale
  evidenceIds : List EvidenceReferenceId
  judgment : Option HumanJudgment
  context : IssueOperationContext

structure PrepareCloseIssue where
  issueId : IssueId
  expectedVersion : AggregateVersion
  evidenceIds : List EvidenceReferenceId
  judgment : Option HumanJudgment
  context : IssueOperationContext

structure PrepareReopenIssue where
  issueId : IssueId
  expectedVersion : AggregateVersion
  rationale : WorkManagementRationale
  evidenceIds : List EvidenceReferenceId
  judgment : Option HumanJudgment
  context : IssueOperationContext

structure RejectIssuePreparedIntent where
  preparedId : PreparedIntentId
  actor : AuditActor
  context : IssueOperationContext

structure ApproveAndExecuteIssueTransition where
  approval : WorkManagementApproval
  context : IssueOperationContext

structure PrepareLowerIssueClassification where
  issueId : IssueId
  expectedVersion : AggregateVersion
  proposedClassification : DataClassification
  rationale : WorkManagementRationale
  context : IssueOperationContext

structure IssueMutationOutcome where
  record : IssueRecord
  auditEvents : List AuditEvent
  approvalReceiptId : Option ApprovalReceiptId

inductive Identity where
  | create (id : IssueId) (title : IssueTitle) (details : IssueDetails) (classification : DataClassification)
      (recurrenceOf : Option IssueId)
  | prepare (operation : WorkManagementOperation) (evidenceIds : List EvidenceReferenceId)
      (judgment : Option HumanJudgment)
  | execute (preparedId : PreparedIntentId) (actor : AuditActor) (digest : WorkManagementPayloadDigest)
  | prepareLowerClassification (issueId : IssueId) (expectedVersion : AggregateVersion)
      (proposedClassification : DataClassification) (rationale : WorkManagementRationale)
  | rejectPrepared (preparedId : PreparedIntentId) (actor : AuditActor)
  deriving DecidableEq

inductive Stored where
  | mutation (outcome : IssueMutationOutcome)
  | prepared (intent : WorkManagementPreparedIntent)
  | rejected (outcome : Actions.RejectedPreparedIntentOutcome)

structure IssueStateStore where
  prepared : KeyMap PreparedIntentId WorkManagementPreparedIntent
  idem : KeyMap IdempotencyId (Identity × Stored)
  audits : List AuditEvent

def IssueStateStore.empty : IssueStateStore := ⟨∅, ∅, []⟩

/-- What a command of the service reads and replaces: the shared Issues and its own
state. -/
structure State where
  authority : IssueStore
  own : IssueStateStore

abbrev Service := Committing State

inductive Failure where
  | policyDenied | unauthorized | evidence | changed | idempotency | infrastructure
  | evidenceUnavailable | prepareEvidenceUnavailable
  deriving DecidableEq

def error (code : ErrorCode) (key : MessageKey) (context : IssueOperationContext) (retryable : Bool) : DomainError :=
  .new code key context.correlationId retryable

def infrastructureError (context : IssueOperationContext) : DomainError :=
  error .platformInternal ⟨"issue.infrastructure", by decide⟩ context true

def idempotencyConflict (context : IssueOperationContext) : DomainError :=
  error .domainIdempotencyConflict ⟨"issue.idempotency_conflict", by decide⟩ context false

def notFoundError (context : IssueOperationContext) : DomainError :=
  error .domainNotFound ⟨"issue.not_found", by decide⟩ context false

def securityDenied (context : IssueOperationContext) : DomainError :=
  error .securityPolicyDenied ⟨"issue.security_denied", by decide⟩ context false

def invalidIntent (context : IssueOperationContext) : DomainError :=
  error .domainConflict ⟨"issue.invalid_intent", by decide⟩ context false

def allowedNextIntents : IssueState → String
  | .open => "issue.prepare_resolve"
  | .resolved => "issue.prepare_close_or_reopen"
  | .closed => "issue.no_transition"

def staleOrIllegal (context : IssueOperationContext) : DomainError :=
  error .domainConflict ⟨"issue.stale_or_illegal", by decide⟩ context false

/-- A refused transition shows the Issue as it is and what it admits. -/
def lifecycleError (authority : IssueStore) (id : IssueId) (context : IssueOperationContext) : DomainError :=
  match authority.get id with
  | none => staleOrIllegal context
  | some issue =>
    ((MessageParam.new "current_state" (.identifier issue.state.asPersisted)).toList ++
      (MessageParam.new "allowed_next_intents" (.fieldKey (allowedNextIntents issue.state))).toList ++
      (MessageParam.new "remediation" (.fieldKey "issue.refresh_and_reprepare")).toList).foldl
        DomainError.withParam ((staleOrIllegal context).withExtension (.currentVersion issue.version))

def mapFailure (failure : Failure) (context : IssueOperationContext) : DomainError :=
  match failure with
  | .policyDenied | .unauthorized | .evidence => securityDenied context
  | .changed => error .securityPreviewExpiredOrChanged ⟨"issue.preview_changed", by decide⟩ context false
  | .idempotency => idempotencyConflict context
  | .infrastructure | .evidenceUnavailable | .prepareEvidenceUnavailable => infrastructureError context

end MissionControl.Issues

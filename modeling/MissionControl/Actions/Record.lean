import MissionControl.Domain.PreparedIntent
import MissionControl.Domain.Error
import MissionControl.Lib.KeyMap

/-! The Action aggregates, the commands that change them, and the store that
remembers what each command answered. -/

namespace MissionControl.Actions

abbrev ActionTitle := BoundedText 240
abbrev ActionDetails := BoundedText 2000

structure ActionTransitionRecord where
  source : ActionState
  target : ActionState
  reason : Option ActionDetails
  occurredAt : UtcTimestamp
  support : Option SupportWitness
  approvalReceiptId : Option ApprovalReceiptId

structure ActionOperationContext where
  idempotencyId : IdempotencyId
  correlationId : CorrelationId

structure ActionRequestRecord where
  id : ActionRequestId
  title : ActionTitle
  details : ActionDetails
  intendedOwner : Option StakeholderId
  responseDueAt : Option UtcTimestamp
  intendedActionDueAt : Option UtcTimestamp
  classification : DataClassification
  state : ActionRequestState
  terminalRationale : Option ActionDetails
  linkedActionId : Option ActionId
  sourceDecisionId : Option DecisionId
  supersededPremise : Bool
  version : AggregateVersion

structure ActionRecord where
  id : ActionId
  sourceRequestId : ActionRequestId
  title : ActionTitle
  details : ActionDetails
  owner : StakeholderId
  dueAt : UtcTimestamp
  classification : DataClassification
  state : ActionState
  completionEvidence : List EvidenceReferenceId
  commitmentClassification : DataClassification
  support : Option SupportWitness
  transitionReason : Option ActionDetails
  transitionHistory : List ActionTransitionRecord
  sourceDecisionId : Option DecisionId
  supersededPremise : Bool
  version : AggregateVersion

structure CreateActionRequestDraft where
  id : ActionRequestId
  title : ActionTitle
  details : ActionDetails
  intendedOwner : Option StakeholderId
  responseDueAt : Option UtcTimestamp
  intendedActionDueAt : Option UtcTimestamp
  classification : DataClassification
  context : ActionOperationContext

structure SubmitActionRequest where
  requestId : ActionRequestId
  expectedVersion : AggregateVersion
  context : ActionOperationContext

structure DeclineActionRequest where
  requestId : ActionRequestId
  expectedVersion : AggregateVersion
  rationale : ActionDetails
  context : ActionOperationContext

structure WithdrawActionRequest where
  requestId : ActionRequestId
  expectedVersion : AggregateVersion
  rationale : ActionDetails
  context : ActionOperationContext

structure StartAction where
  actionId : ActionId
  expectedVersion : AggregateVersion
  context : ActionOperationContext

structure RejectActionPreparedIntent where
  preparedId : PreparedIntentId
  actor : AuditActor
  context : ActionOperationContext

structure LinkActionCompletionEvidence where
  actionId : ActionId
  expectedVersion : AggregateVersion
  evidenceId : EvidenceReferenceId
  context : ActionOperationContext

structure PrepareAcceptActionRequest where
  requestId : ActionRequestId
  expectedVersion : AggregateVersion
  context : ActionOperationContext

structure PrepareCompleteAction where
  actionId : ActionId
  expectedVersion : AggregateVersion
  judgment : Option HumanJudgment
  context : ActionOperationContext

structure PrepareCancelAction where
  actionId : ActionId
  expectedVersion : AggregateVersion
  reason : ActionDetails
  context : ActionOperationContext

structure PrepareReopenAction where
  actionId : ActionId
  expectedVersion : AggregateVersion
  mode : ActionReopenMode
  reason : ActionDetails
  context : ActionOperationContext

structure PrepareLowerActionClassification where
  actionId : ActionId
  expectedVersion : AggregateVersion
  proposedClassification : DataClassification
  rationale : WorkManagementRationale
  context : ActionOperationContext

structure ApproveAndExecute where
  approval : WorkManagementApproval
  context : ActionOperationContext

structure ActionMutationOutcome (Record : Type) where
  record : Record
  auditEvents : List AuditEvent
  approvalReceiptId : Option ApprovalReceiptId

structure AcceptedActionOutcome where
  request : ActionRequestRecord
  action : ActionRecord
  auditEvents : List AuditEvent
  approvalReceiptId : ApprovalReceiptId

structure RejectedPreparedIntentOutcome where
  preparedIntentId : PreparedIntentId
  rejectedAt : UtcTimestamp
  expiredAtRejection : Bool
  auditEvent : AuditEvent

inductive ActionServiceError where
  | notFound | alreadyExists | illegalTransition | staleVersion | missingOwner | missingDueDate
  | invalidEvidence | evidenceUnavailable | evidencePolicyDenied | classificationUnresolved
  | invalidReopenMode | idempotencyConflict | preparedIntentNotFound | preparedIntentChanged
  | unauthorized | digestMismatch | expired | policyDenied | infrastructureFailure | notALowering
  deriving DecidableEq

inductive ActionPersistenceH3DenialCause where
  | missingCompletionEvidence | completionEvidenceNotFound | unverifiedCompletionEvidence
  | unclassifiedCompletionEvidence | evidenceUnavailable | classificationUnresolved

inductive ActionPersistenceTerminalCause where
  | notFound | alreadyExists | illegalTransition | staleVersion | missingOwner | missingDueDate
  | invalidEvidence | invalidReopenMode | idempotencyConflict | preparedIntentNotFound
  | preparedIntentChanged | unauthorized
  | digestMismatch (attemptedDigest : WorkManagementPayloadDigest)
  | expired | policyDenied | infrastructureFailure
  | h3Denied (cause : ActionPersistenceH3DenialCause)

inductive PreparedDisposition where
  | notApplicable | retained | consumedAndDiscarded

structure ActionTerminalFailure where
  cause : ActionServiceError
  persistedCause : ActionPersistenceTerminalCause
  error : DomainError
  preparedDisposition : PreparedDisposition
  audit : AuditEvent

inductive StoredResult where
  | request (outcome : ActionMutationOutcome ActionRequestRecord)
  | action (outcome : ActionMutationOutcome ActionRecord)
  | accepted (outcome : AcceptedActionOutcome)
  | prepared (intent : WorkManagementPreparedIntent)
  | terminal (failure : ActionTerminalFailure)
  | rejected (outcome : RejectedPreparedIntentOutcome)

inductive PreparedActionTransitionKind where
  | complete | cancel | reopen
  deriving DecidableEq

structure ApprovalBusinessIdentity where
  preparedId : PreparedIntentId
  actor : AuditActor
  digest : WorkManagementPayloadDigest
  deriving DecidableEq

def approvalBusinessIdentity (approval : WorkManagementApproval) : ApprovalBusinessIdentity where
  preparedId := approval.preparedId
  actor := approval.actor
  digest := approval.acknowledgedPayloadDigest

inductive CommandIdentity where
  | createRequestFromDecision (request : DecisionResultingActionRequest) (sourceDecisionId : DecisionId)
      (classification : DataClassification)
  | markRequestSupersededPremise (requestId : ActionRequestId) (expectedVersion : AggregateVersion)
      (sourceDecisionId : DecisionId) (classification : DataClassification)
  | markActionSupersededPremise (actionId : ActionId) (expectedVersion : AggregateVersion)
      (sourceDecisionId : DecisionId) (classification : DataClassification)
  | createRequest (id : ActionRequestId) (title : ActionTitle) (details : ActionDetails)
      (intendedOwner : Option StakeholderId) (responseDueAt intendedActionDueAt : Option UtcTimestamp)
      (classification : DataClassification)
  | transitionRequest (requestId : ActionRequestId) (expectedVersion : AggregateVersion)
      (targetState : ActionRequestState) (rationale : Option ActionDetails)
  | startAction (actionId : ActionId) (expectedVersion : AggregateVersion)
  | linkCompletionEvidence (actionId : ActionId) (expectedVersion : AggregateVersion)
      (evidenceId : EvidenceReferenceId) (evidenceClassification : Option DataClassification)
  | executeAccept (identity : ApprovalBusinessIdentity)
  | executeAction (kind : PreparedActionTransitionKind) (identity : ApprovalBusinessIdentity)
  | rejectPrepared (preparedId : PreparedIntentId) (actor : AuditActor)
  | prepareAccept (requestId : ActionRequestId) (expectedVersion : AggregateVersion)
  | prepareComplete (actionId : ActionId) (expectedVersion : AggregateVersion) (judgment : Option HumanJudgment)
  | prepareCancel (actionId : ActionId) (expectedVersion : AggregateVersion) (reason : ActionDetails)
  | prepareReopen (actionId : ActionId) (expectedVersion : AggregateVersion) (mode : ActionReopenMode)
      (reason : ActionDetails)
  | prepareLowerActionClassification (actionId : ActionId) (expectedVersion : AggregateVersion)
      (proposedClassification : DataClassification) (rationale : WorkManagementRationale)
  | executeLowerActionClassification (identity : ApprovalBusinessIdentity)
  deriving DecidableEq

inductive ErrorTarget where
  | request (id : ActionRequestId)
  | action (id : ActionId)
  | unknown

structure Stored where
  signature : CommandIdentity
  result : StoredResult
  originalCorrelationId : CorrelationId
  operationOrdinal : Nat

structure Store where
  requests : KeyMap ActionRequestId ActionRequestRecord
  actions : KeyMap ActionId ActionRecord
  prepared : KeyMap PreparedIntentId WorkManagementPreparedIntent
  discardedPrepared : List WorkManagementPreparedIntent
  idem : KeyMap IdempotencyId Stored
  auditEvents : List AuditEvent
  nextOperationOrdinal : Nat

def Store.empty : Store := ⟨∅, ∅, ∅, [], ∅, [], 0⟩

end MissionControl.Actions

import MissionControl.Actions.Record

/-! Why an Action command failed, as the service, its ledger and its callers each
name it. -/

namespace MissionControl.Actions

def mapPrepare (_ : PreparedIntentError) : ActionServiceError := .preparedIntentChanged

def mapValidation : WorkManagementApprovalValidationError → ActionServiceError
  | .preparedIntentMismatch => .preparedIntentNotFound
  | .unauthorized => .unauthorized
  | .digestMismatch => .digestMismatch
  | .expired => .expired
  | .previewChanged => .preparedIntentChanged

def mapPostPrepareState (error : ActionServiceError) : ActionServiceError :=
  if error = .staleVersion then .preparedIntentChanged else error

def isH3Denial : ActionServiceError → Bool
  | .evidencePolicyDenied | .classificationUnresolved | .evidenceUnavailable | .invalidEvidence => true
  | _ => false

def isRetryableExecutionFailure : ActionServiceError → Bool
  | .preparedIntentChanged | .infrastructureFailure => true
  | _ => false

def h3TerminalServiceCause : ActionPersistenceH3DenialCause → ActionServiceError
  | .evidenceUnavailable => .evidenceUnavailable
  | .classificationUnresolved | .unclassifiedCompletionEvidence => .classificationUnresolved
  | .missingCompletionEvidence | .completionEvidenceNotFound | .unverifiedCompletionEvidence =>
    .evidencePolicyDenied

def persistenceTerminalCause (cause : ActionServiceError) (digest : WorkManagementPayloadDigest) :
    ActionPersistenceTerminalCause :=
  match cause with
  | .notFound => .notFound
  | .alreadyExists => .alreadyExists
  | .illegalTransition => .illegalTransition
  | .staleVersion => .staleVersion
  | .missingOwner => .missingOwner
  | .missingDueDate => .missingDueDate
  | .invalidEvidence => .invalidEvidence
  | .invalidReopenMode => .invalidReopenMode
  | .idempotencyConflict => .idempotencyConflict
  | .preparedIntentNotFound => .preparedIntentNotFound
  | .preparedIntentChanged => .preparedIntentChanged
  | .unauthorized => .unauthorized
  | .digestMismatch => .digestMismatch digest
  | .expired => .expired
  | .policyDenied => .policyDenied
  | .infrastructureFailure => .infrastructureFailure
  | .evidenceUnavailable => .h3Denied .evidenceUnavailable
  | .classificationUnresolved => .h3Denied .classificationUnresolved
  | .evidencePolicyDenied => .h3Denied .unverifiedCompletionEvidence
  | .notALowering => .illegalTransition

def requestAllowedIntents : ActionRequestState → List String
  | .draft => ["submit_action_request"]
  | .open => ["prepare_accept_action_request", "decline_action_request", "withdraw_action_request"]
  | .accepted | .declined | .withdrawn => []

def actionAllowedIntents : ActionState → List String
  | .open => ["start_action", "prepare_cancel_action"]
  | .inProgress => ["link_action_completion_evidence", "prepare_complete_action", "prepare_cancel_action"]
  | .completed | .cancelled => ["prepare_reopen_action"]

def errorCode : ActionServiceError → ErrorCode
  | .notFound => .domainNotFound
  | .idempotencyConflict => .domainIdempotencyConflict
  | .policyDenied | .unauthorized | .evidencePolicyDenied | .classificationUnresolved | .evidenceUnavailable =>
    .securityPolicyDenied
  | .digestMismatch | .expired | .preparedIntentChanged | .preparedIntentNotFound =>
    .securityPreviewExpiredOrChanged
  | .infrastructureFailure => .platformInternal
  | .missingOwner | .missingDueDate | .invalidEvidence => .validationInvalidField
  | .alreadyExists | .illegalTransition | .staleVersion | .invalidReopenMode | .notALowering => .domainConflict

def errorKey : ActionServiceError → MessageKey
  | .notFound => ⟨"action.not_found", by decide⟩
  | .idempotencyConflict => ⟨"action.idempotency_conflict", by decide⟩
  | .policyDenied | .unauthorized | .evidencePolicyDenied | .classificationUnresolved | .evidenceUnavailable =>
    ⟨"action.approval_denied", by decide⟩
  | .digestMismatch | .expired | .preparedIntentChanged | .preparedIntentNotFound =>
    ⟨"action.preview_expired_or_changed", by decide⟩
  | .infrastructureFailure => ⟨"action.internal", by decide⟩
  | .missingOwner | .missingDueDate | .invalidEvidence => ⟨"action.validation_failed", by decide⟩
  | .alreadyExists | .illegalTransition | .staleVersion | .invalidReopenMode =>
    ⟨"action.domain_conflict", by decide⟩
  | .notALowering => ⟨"action.classification_lowering_not_a_lowering", by decide⟩

structure TargetSnapshot where
  version : AggregateVersion
  state : String
  allowed : List String

def allowedParams (allowed : List String) : List MessageParam :=
  allowed.zipIdx.filterMap fun (intent, index) =>
    MessageParam.new ("allowed_next_intent_" ++ toString (index + 1)) (.fieldKey intent)

def domainErrorWithSnapshot (cause : ActionServiceError) (correlationId : CorrelationId)
    (snapshot : Option TargetSnapshot) : DomainError :=
  let error := DomainError.new (errorCode cause) (errorKey cause) correlationId
    (cause == .infrastructureFailure || cause == .evidenceUnavailable)
  match snapshot with
  | none => error
  | some target =>
    ((MessageParam.new "current_state" (.fieldKey target.state)).toList ++ allowedParams target.allowed).foldl
      DomainError.withParam (error.withExtension (.currentVersion target.version))

def requestSnapshot (record : ActionRequestRecord) : TargetSnapshot :=
  ⟨record.version, record.state.asPersisted, requestAllowedIntents record.state⟩

def actionSnapshot (record : ActionRecord) : TargetSnapshot :=
  ⟨record.version, record.state.asPersisted, actionAllowedIntents record.state⟩

def domainErrorForRuntimeTarget (cause : ActionServiceError) (correlationId : CorrelationId) (target : ErrorTarget)
    (requests : KeyMap ActionRequestId ActionRequestRecord) (actions : KeyMap ActionId ActionRecord) : DomainError :=
  match target with
  | .request id => domainErrorWithSnapshot cause correlationId (requests[id]?.map requestSnapshot)
  | .action id => domainErrorWithSnapshot cause correlationId (actions[id]?.map actionSnapshot)
  | .unknown => domainErrorWithSnapshot cause correlationId none

end MissionControl.Actions

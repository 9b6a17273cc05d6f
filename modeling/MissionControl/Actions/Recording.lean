import MissionControl.Actions.Execution

/-! Failures that are remembered: an approval or a preview that was refused is
recorded under its idempotency id, with the error its caller was shown. -/

namespace MissionControl.Actions
open Checked

def Store.answer (store : Store) (id : IdempotencyId) : Option StoredResult :=
  store.idem[id]?.map (·.result)

def Store.knownOperation (store : Store) (id : PreparedIntentId) : Option WorkManagementOperation :=
  (store.known id).map (·.operation)

/-- Whether the preview was consumed by a rejection; an approval of such a
preview is not recorded. -/
def wasRejected (store : Store) (id : PreparedIntentId) : Bool :=
  (KeyMap.held store.idem).any fun stored =>
    match stored.result with
    | .rejected outcome => outcome.preparedIntentId == id
    | _ => false

def operationErrorTarget : WorkManagementOperation → ErrorTarget
  | .acceptActionRequest requestId .. => .request requestId
  | .completeAction actionId _
  | .cancelAction actionId ..
  | .reopenAction actionId ..
  | .lowerActionClassification actionId .. => .action actionId
  | _ => .unknown

def auditErrorTarget : AuditTarget → ErrorTarget
  | .actionRequest id => .request id
  | .action id => .action id
  | _ => .unknown

def preparedErrorTarget (store : Store) (id : PreparedIntentId) : ErrorTarget :=
  match store.prepared[id]?.or ((store.discarded id).filter fun _ => !wasRejected store id) with
  | some intent => operationErrorTarget intent.operation
  | none => .unknown

def failureTarget (store : Store) (approval : WorkManagementApproval) : ErrorTarget :=
  match preparedErrorTarget store approval.preparedId with
  | .unknown =>
    match store.answer approval.idempotencyId with
    | some (.terminal failure) => auditErrorTarget failure.audit.target
    | _ => .unknown
  | target => target

/-- The target of a rejection leaves out lowerings, which cannot be rejected. -/
def preparedIntentErrorTarget (store : Store) (id : PreparedIntentId) : ErrorTarget :=
  match store.knownOperation id with
  | some (.acceptActionRequest requestId ..) => .request requestId
  | some (.completeAction actionId _) | some (.cancelAction actionId ..) | some (.reopenAction actionId ..) =>
    .action actionId
  | _ => .unknown

/-- The kind a failed approval is recorded under is the preview's, whatever was called. -/
def failureTransitionKind (store : Store) (approval : WorkManagementApproval) : PreparedActionTransitionKind :=
  match store.knownOperation approval.preparedId with
  | some (.cancelAction ..) => .cancel
  | some (.reopenAction ..) => .reopen
  | _ => .complete

def failureIsAccept (store : Store) (approval : WorkManagementApproval) : Bool :=
  match store.knownOperation approval.preparedId with
  | some (.acceptActionRequest ..) => true
  | _ => false

def failureSignature (store : Store) (approval : WorkManagementApproval) : CommandIdentity :=
  if failureIsAccept store approval then .executeAccept (approvalBusinessIdentity approval)
  else .executeAction (failureTransitionKind store approval) (approvalBusinessIdentity approval)

/-- What is wrong with one piece of evidence, asked once more. -/
def evidenceDenial (ports : Ports) (id : EvidenceReferenceId) : Option ActionPersistenceH3DenialCause :=
  match ports.resolve .denial id with
  | .error .unavailable => some .evidenceUnavailable
  | .error .notFound => some .completionEvidenceNotFound
  | .ok metadata =>
    if metadata.classification = .unclassified then some .unclassifiedCompletionEvidence
    else if metadata.verification.isRefused then some .unverifiedCompletionEvidence
    else none

def h3DenialCauseForAction (store : Store) (ports : Ports) (actionId : ActionId) (cause : ActionServiceError) :
    ActionPersistenceH3DenialCause :=
  match store.actions[actionId]? with
  | none => .classificationUnresolved
  | some action =>
    if action.commitmentClassification = .unclassified then .classificationUnresolved
    else if action.completionEvidence.isEmpty then .missingCompletionEvidence
    else match action.completionEvidence.findSome? (evidenceDenial ports) with
      | some denial => denial
      | none =>
        match cause with
        | .evidenceUnavailable => .evidenceUnavailable
        | .classificationUnresolved => .classificationUnresolved
        | .invalidEvidence => .missingCompletionEvidence
        | _ => .unverifiedCompletionEvidence

def domainError (store : Store) (cause : ActionServiceError) (context : ActionOperationContext)
    (target : ErrorTarget) : DomainError :=
  match store.answer context.idempotencyId with
  | some (.terminal failure) =>
    if failure.cause = cause then failure.error
    else domainErrorForRuntimeTarget cause context.correlationId target store.requests store.actions
  | _ => domainErrorForRuntimeTarget cause context.correlationId target store.requests store.actions

def replayTerminalError (store : Store) (id : IdempotencyId) (signature : CommandIdentity) :
    Except ActionServiceError (Option DomainError) :=
  match replay store id signature with
  | .error cause => .error cause
  | .ok (some (.terminal failure)) => .ok (some failure.error)
  | .ok _ => .ok none

def consumedId : CommandIdentity → Option PreparedIntentId
  | .executeAccept identity | .executeAction _ identity => some identity.preparedId
  | _ => none

/-- Only an approval names a preview to consume. -/
def disposePrepared (store : Store) (signature : CommandIdentity) (disposition : PreparedDisposition) :
    Except ActionServiceError Store :=
  match disposition with
  | .consumedAndDiscarded => do
    let id ← require .infrastructureFailure (consumedId signature)
    return store.consume id
  | .notApplicable | .retained => .ok store

def storeTerminalFailure (store : Store) (context : ActionOperationContext) (signature : CommandIdentity)
    (failure : ActionTerminalFailure) : Except ActionServiceError (Staged Unit) := do
  let changed ← disposePrepared store signature failure.preparedDisposition
  let staged ← store.stage changed context signature (.terminal failure) [failure.audit]
  return .committed () staged

def errorAuditTarget : ErrorTarget → Option AuditTarget
  | .request id => some (.actionRequest id)
  | .action id => some (.action id)
  | .unknown => none

def failureAudit (ports : Ports) (actor : AuditActor) (code : String) (target : AuditTarget)
    (context : ActionOperationContext) (policy : AuditPolicyOutcome) (approval : AuditApprovalOutcome)
    (execution : AuditExecutionOutcome) : Except ActionServiceError AuditEvent := do
  let disposition ← relabel (fun _ => .infrastructureFailure) (AuditDisposition.new policy approval execution .none [])
  let id ← require .infrastructureFailure (ports.nextAuditEventId .failure)
  let event ← relabel (fun _ => .infrastructureFailure) (CodeText.parse 96 code)
  return .new id (ports.now (.audit .failure)) actor ⟨.workManagement, event, target⟩ context.correlationId disposition

structure FailureRecord where
  policy : AuditPolicyOutcome
  approval : AuditApprovalOutcome
  execution : AuditExecutionOutcome
  code : String
  disposition : PreparedDisposition

def recordApprovalFailure (store : Store) (ports : Ports) (approval : WorkManagementApproval)
    (context : ActionOperationContext) (cause : ActionServiceError) (record : FailureRecord) :
    Except ActionServiceError (Staged Unit) :=
  match store.idem[context.idempotencyId]? with
  | some _ => .ok (.replayed ())
  | none =>
    match errorAuditTarget (failureTarget store approval) with
    | none => .ok (.replayed ())
    | some target => do
      let event ← failureAudit ports approval.actor record.code target context record.policy record.approval
        record.execution
      storeTerminalFailure store context (failureSignature store approval)
        { cause
          persistedCause := persistenceTerminalCause cause approval.acknowledgedPayloadDigest
          error := domainErrorForRuntimeTarget cause context.correlationId (failureTarget store approval)
            store.requests store.actions
          preparedDisposition := record.disposition
          audit := event }

def retryableRecord : FailureRecord :=
  ⟨.allowed, .rejected, .notAttempted, "action.approval_rejected", .retained⟩

def recordRetryablePreviewFailure (store : Store) (ports : Ports) (approval : WorkManagementApproval)
    (context : ActionOperationContext) (cause : ActionServiceError) : Except ActionServiceError (Staged Unit) :=
  recordApprovalFailure store ports approval context cause retryableRecord

def h2Record (cause : ActionServiceError) : FailureRecord :=
  if cause = .policyDenied ∨ cause = .unauthorized then
    ⟨.denied, .notRequired, .notAttempted, "action.approval_denied", .consumedAndDiscarded⟩
  else if cause = .infrastructureFailure then
    ⟨.allowed, .approved, .failed, "action.execution_failed", .consumedAndDiscarded⟩
  else ⟨.allowed, .rejected, .notAttempted, "action.approval_rejected", .consumedAndDiscarded⟩

def recordH2Failure (store : Store) (ports : Ports) (approval : WorkManagementApproval)
    (context : ActionOperationContext) (cause : ActionServiceError) : Except ActionServiceError (Staged Unit) :=
  recordApprovalFailure store ports approval context cause (h2Record cause)

def recordH3Denial (store : Store) (ports : Ports) (actionId : ActionId) (context : ActionOperationContext)
    (signature : CommandIdentity) (cause : ActionServiceError) (denial : ActionPersistenceH3DenialCause) :
    Except ActionServiceError (Staged Unit) :=
  match store.idem[context.idempotencyId]? with
  | some _ => .ok (.replayed ())
  | none => do
    let event ← failureAudit ports .headOfProducts "action.evidence_policy_denied" (.action actionId) context .denied
      .notRequired .notAttempted
    storeTerminalFailure store context signature
      { cause
        persistedCause := .h3Denied denial
        error := domainErrorForRuntimeTarget cause context.correlationId (.action actionId) store.requests
          store.actions
        preparedDisposition := .notApplicable
        audit := event }

end MissionControl.Actions

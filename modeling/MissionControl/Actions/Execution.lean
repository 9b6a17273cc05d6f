import MissionControl.Actions.Service

/-! Approving and rejecting previews, marking what a Decision superseded, and
discarding a preview. An approval re-derives the preview from the current state
and runs only when it is still the one approved. -/

namespace MissionControl.Actions
open Checked

def pending (store : Store) (approval : WorkManagementApproval) :
    Except ActionServiceError WorkManagementPreparedIntent :=
  require .preparedIntentNotFound store.prepared[approval.preparedId]?

def validate [Sha256] (ports : Ports) (intent : WorkManagementPreparedIntent) (approval : WorkManagementApproval)
    (currentOperation : WorkManagementOperation) (targetClassification : DataClassification)
    (currentSupport : Option SupportWitness) : Except ActionServiceError WorkManagementApprovalReceipt := do
  ensure (ports.currentPolicy intent.operation ≠ .denied) .policyDenied
  let current ← relabel mapPrepare
    (WorkManagementPreparedIntent.prepare intent.id currentOperation targetClassification currentSupport
      (ports.now .revalidation))
  let id ← require .infrastructureFailure ports.nextApprovalReceiptId
  relabel mapValidation
    (validateAndMintWorkManagementH2aReceipt intent approval (expectedSnapshot current) (ports.now .minting) id
      ports.authorize)

def discardedDigestMatches [Sha256] (store : Store) (approval : WorkManagementApproval) : Prop :=
  ∀ intent ∈ store.discarded approval.preparedId, intent.payloadDigest = approval.acknowledgedPayloadDigest

instance [Sha256] (store : Store) (approval : WorkManagementApproval) :
    Decidable (discardedDigestMatches store approval) :=
  inferInstanceAs (Decidable (∀ intent ∈ store.discarded approval.preparedId, _))

structure AcceptTarget where
  requestId : ActionRequestId
  requestVersion : AggregateVersion
  actionId : ActionId

def acceptTarget : WorkManagementOperation → Option AcceptTarget
  | .acceptActionRequest requestId requestVersion actionId .. => some ⟨requestId, requestVersion, actionId⟩
  | _ => none

def acceptedAction (target : AcceptTarget) (request : ActionRequestRecord) (owner : StakeholderId)
    (due : UtcTimestamp) (classification : DataClassification) : ActionRecord where
  id := target.actionId
  sourceRequestId := target.requestId
  title := request.title
  details := request.details
  owner
  dueAt := due
  classification
  state := .open
  completionEvidence := []
  commitmentClassification := request.classification
  support := none
  transitionReason := none
  transitionHistory := []
  sourceDecisionId := request.sourceDecisionId
  supersededPremise := request.supersededPremise
  version := .initial

def acceptedRequest (request : ActionRequestRecord) (actionId : ActionId) (later : AggregateVersion) :
    ActionRequestRecord :=
  { request with state := .accepted, linkedActionId := some actionId, version := later }

def currentAcceptOperation (request : ActionRequestRecord) (actionId : ActionId) (owner : StakeholderId)
    (due : UtcTimestamp) : WorkManagementOperation :=
  .acceptActionRequest request.id request.version actionId request.classification request.title request.details owner
    due

def approveAndExecuteAcceptActionRequestCause [Sha256] (store : Store) (ports : Ports) (command : ApproveAndExecute) :
    Except ActionServiceError (Staged AcceptedActionOutcome) := do
  ensure (command.approval.idempotencyId = command.context.idempotencyId) .idempotencyConflict
  let signature := .executeAccept (approvalBusinessIdentity command.approval)
  orReplay (replayAccepted store command.context.idempotencyId signature) do
    ensure (discardedDigestMatches store command.approval) .digestMismatch
    let intent ← pending store command.approval
    let target ← require .preparedIntentChanged (acceptTarget intent.operation)
    let request ← relabel mapPostPrepareState (exactRequest store target.requestId target.requestVersion)
    ensure (request.state = .open) .illegalTransition
    let owner ← require .missingOwner request.intendedOwner
    let due ← require .missingDueDate request.intendedActionDueAt
    ensure (store.actions[target.actionId]? = none) .alreadyExists
    let receipt ← validate ports intent command.approval
      (currentAcceptOperation request target.actionId owner due) request.classification none
    let later ← next request.version
    let accepted := acceptedRequest request target.actionId later
    let action := acceptedAction target request owner due intent.preview.classification
    let accepting ← audit ports .first (.actionRequest accepted.id) "action_request.accepted" command.context true
    let creating ← audit ports .second (.action action.id) "action.created_from_request" command.context true
    let linking ← audit ports .third (.actionRequest accepted.id) "action_request.action_linked" command.context true
    let outcome : AcceptedActionOutcome := ⟨accepted, action, [accepting, creating, linking], receipt.id⟩
    let staged ← store.stage
      { store with
        requests := store.requests.insert accepted.id accepted
        actions := store.actions.insert action.id action
        prepared := store.prepared.erase command.approval.preparedId }
      command.context signature (.accepted outcome) outcome.auditEvents
    return .committed outcome staged

structure TransitionTarget where
  actionId : ActionId
  actionVersion : AggregateVersion
  reason : Option WorkManagementRationale

def transitionTarget : PreparedActionTransitionKind → WorkManagementOperation → Option TransitionTarget
  | .complete, .completeAction actionId actionVersion => some ⟨actionId, actionVersion, none⟩
  | .cancel, .cancelAction actionId actionVersion reason _ => some ⟨actionId, actionVersion, some reason⟩
  | .reopen, .reopenAction actionId actionVersion _ reason _ => some ⟨actionId, actionVersion, some reason⟩
  | _, _ => none

def transitionLegal : PreparedActionTransitionKind → ActionState → Bool
  | .complete, state => state == .inProgress
  | .cancel, state => state == .open || state == .inProgress
  | .reopen, state => state == .completed || state == .cancelled

def transitionState : PreparedActionTransitionKind → ActionState
  | .complete => .completed
  | .cancel => .cancelled
  | .reopen => .inProgress

def transitionAuditCode : PreparedActionTransitionKind → String
  | .complete => "action.completed"
  | .cancel => "action.cancelled"
  | .reopen => "action.reopened"

def preparedBindings : WorkManagementOperation → Option (List EvidenceClassificationBinding)
  | .cancelAction _ _ _ bindings | .reopenAction _ _ _ _ bindings => some bindings
  | _ => none

def bindingsUnchanged (operation : WorkManagementOperation) (current : List EvidenceClassificationBinding) : Prop :=
  ∀ bindings ∈ preparedBindings operation, bindings = current

instance (operation : WorkManagementOperation) (current : List EvidenceClassificationBinding) :
    Decidable (bindingsUnchanged operation current) :=
  inferInstanceAs (Decidable (∀ bindings ∈ preparedBindings operation, _))

def preparedJudgments (intent : WorkManagementPreparedIntent) : List HumanJudgment :=
  (intent.preview.support.map (·.judgments)).getD []

def currentSupport (kind : PreparedActionTransitionKind) (intent : WorkManagementPreparedIntent)
    (evidence : List EvidenceReferenceMetadata) : Except ActionServiceError (Option SupportWitness) :=
  match kind with
  | .complete => do
    let offered ← relabel (fun _ => .preparedIntentChanged)
      (EvidenceOrJudgment.new evidence (preparedJudgments intent))
    let support ← relabel (fun _ => .preparedIntentChanged) offered.evaluateEvidenceRequired
    return some support
  | .cancel | .reopen => .ok none

def validationClassification (kind : PreparedActionTransitionKind) (intent : WorkManagementPreparedIntent)
    (current : DataClassification) : DataClassification :=
  match kind with
  | .complete => intent.preview.classification
  | .cancel | .reopen => current

def executedClassification (kind : PreparedActionTransitionKind) (intent : WorkManagementPreparedIntent)
    (current : DataClassification) : DataClassification :=
  match kind with
  | .complete => current.combine ((intent.preview.support.map (·.classification)).getD .unclassified)
  | .cancel | .reopen => current

def toDetails (rationale : WorkManagementRationale) : Except ActionServiceError ActionDetails :=
  relabel (fun _ => .infrastructureFailure) (BoundedText.parse 2000 rationale.asStr)

def executedRecord (kind : PreparedActionTransitionKind) (intent : WorkManagementPreparedIntent)
    (current : DataClassification) (reason : Option ActionDetails) (occurredAt : UtcTimestamp)
    (receipt : ApprovalReceiptId) (later : AggregateVersion) (record : ActionRecord) : ActionRecord :=
  { record with
    transitionHistory := record.transitionHistory ++
      [⟨record.state, transitionState kind, reason, occurredAt, intent.preview.support, some receipt⟩]
    state := transitionState kind
    transitionReason := reason
    support := intent.preview.support.or record.support
    classification := executedClassification kind intent current
    version := later }

def executeH2 [Sha256] (store : Store) (ports : Ports) (kind : PreparedActionTransitionKind)
    (command : ApproveAndExecute) : Except ActionServiceError (Staged (ActionMutationOutcome ActionRecord)) := do
  ensure (command.approval.idempotencyId = command.context.idempotencyId) .idempotencyConflict
  let signature := .executeAction kind (approvalBusinessIdentity command.approval)
  orReplay (replayAction store command.context.idempotencyId signature) do
    let intent ← pending store command.approval
    let target ← require .preparedIntentChanged (transitionTarget kind intent.operation)
    let reason ← target.reason.mapM toDetails
    let record ← relabel mapPostPrepareState (exactAction store target.actionId target.actionVersion)
    ensure (transitionLegal kind record.state = true) .illegalTransition
    let snapshot ← relabel (fun _ => .preparedIntentChanged) (authoritativeActionSnapshot ports record)
    ensure (bindingsUnchanged intent.operation snapshot.bindings) .preparedIntentChanged
    let support ← currentSupport kind intent snapshot.evidence
    let receipt ← validate ports intent command.approval intent.operation
      (validationClassification kind intent snapshot.classification) support
    let later ← next record.version
    let executed := executedRecord kind intent snapshot.classification reason (ports.now .transition) receipt.id
      later record
    let event ← audit ports .first (.action target.actionId) (transitionAuditCode kind) command.context true
    let outcome : ActionMutationOutcome ActionRecord := ⟨executed, [event], some receipt.id⟩
    let staged ← store.stage
      { store with
        actions := store.actions.insert target.actionId executed
        prepared := store.prepared.erase command.approval.preparedId }
      command.context signature (.action outcome) [event]
    return .committed outcome staged

structure LoweringTarget where
  actionId : ActionId
  actionVersion : AggregateVersion
  proposedClassification : DataClassification
  rationale : WorkManagementRationale

def loweringTarget : WorkManagementOperation → Option LoweringTarget
  | .lowerActionClassification actionId actionVersion _ proposedClassification rationale =>
    some ⟨actionId, actionVersion, proposedClassification, rationale⟩
  | _ => none

def loweredRecord (record : ActionRecord) (proposed : DataClassification) (later : AggregateVersion) : ActionRecord :=
  { record with version := later, classification := proposed }

def currentLowerOperation (record : ActionRecord) (target : LoweringTarget) : WorkManagementOperation :=
  .lowerActionClassification target.actionId record.version record.classification target.proposedClassification
    target.rationale

def approveAndExecuteLowerActionClassificationCause [Sha256] (store : Store) (ports : Ports)
    (command : ApproveAndExecute) : Except ActionServiceError (Staged (ActionMutationOutcome ActionRecord)) := do
  ensure (command.approval.idempotencyId = command.context.idempotencyId) .idempotencyConflict
  let signature := .executeLowerActionClassification (approvalBusinessIdentity command.approval)
  orReplay (replayAction store command.context.idempotencyId signature) do
    let intent ← pending store command.approval
    let target ← require .preparedIntentChanged (loweringTarget intent.operation)
    let record ← relabel mapPostPrepareState (exactAction store target.actionId target.actionVersion)
    let receipt ← validate ports intent command.approval (currentLowerOperation record target)
      record.classification none
    let later ← next record.version
    let lowered := loweredRecord record target.proposedClassification later
    let event ← audit ports .first (.action target.actionId) "action.classification_lowered" command.context true
    let outcome : ActionMutationOutcome ActionRecord := ⟨lowered, [event], some receipt.id⟩
    let staged ← store.stage
      { store with
        actions := store.actions.insert target.actionId lowered
        prepared := store.prepared.erase command.approval.preparedId }
      command.context signature (.action outcome) [event]
    return .committed outcome staged

def rejectionAuditTarget : WorkManagementOperation → Option AuditTarget
  | .acceptActionRequest requestId .. => some (.actionRequest requestId)
  | .completeAction actionId _ | .cancelAction actionId .. | .reopenAction actionId .. => some (.action actionId)
  | _ => none

def preparedIntentRejectionAudit (id : AuditEventId) (occurredAt : UtcTimestamp) (code : String)
    (target : AuditTarget) (correlationId : CorrelationId) : Option AuditEvent := do
  let event ← (CodeText.parse 96 code).toOption
  let disposition ← (AuditDisposition.new .allowed .rejected .notAttempted .none []).toOption
  return .new id occurredAt .headOfProducts ⟨.workManagement, event, target⟩ correlationId disposition

def StoredResult.holdsPrepared (id : PreparedIntentId) : StoredResult → Bool
  | .prepared intent => intent.id == id
  | _ => false

/-- A preview no longer pending was consumed before, or never prepared. -/
def rejectPending (store : Store) (id : PreparedIntentId) : Except ActionServiceError WorkManagementPreparedIntent :=
  match store.prepared[id]? with
  | some intent => .ok intent
  | none =>
    if store.discardedPrepared.any (fun intent => intent.id == id) ||
        (KeyMap.held store.idem).any (fun stored => stored.result.holdsPrepared id) then
      .error .illegalTransition
    else .error .notFound

def rejectActionPreparedIntentCause (store : Store) (ports : Ports) (command : RejectActionPreparedIntent) :
    Except ActionServiceError (Staged RejectedPreparedIntentOutcome) :=
  let signature := .rejectPrepared command.preparedId command.actor
  orReplay (replayRejected store command.context.idempotencyId signature) do
    ensure (command.actor = .headOfProducts ∧ ports.authorize command.actor = true) .unauthorized
    let intent ← rejectPending store command.preparedId
    let target ← require .illegalTransition (rejectionAuditTarget intent.operation)
    let auditId ← require .infrastructureFailure (ports.nextAuditEventId .first)
    let event ← require .infrastructureFailure
      (preparedIntentRejectionAudit auditId (ports.now .rejection) "action.prepared_rejected" target
        command.context.correlationId)
    let outcome : RejectedPreparedIntentOutcome :=
      ⟨intent.id, ports.now .rejection, decide (ports.now .rejection ≥ intent.preview.expiresAt), event⟩
    let staged ← store.stage (store.consume command.preparedId) command.context signature (.rejected outcome) [event]
    return .committed outcome staged

inductive DecisionStageCommand where
  | createResultingActionRequest (spec : DecisionResultingActionRequest) (sourceDecisionId : DecisionId)
      (decidedClassification : DataClassification) (context : ActionOperationContext)
  | markActionRequestSupersededPremise (id : ActionRequestId) (expectedVersion : AggregateVersion)
      (sourceDecisionId : DecisionId) (decidedClassification : DataClassification) (context : ActionOperationContext)
  | markActionSupersededPremise (id : ActionId) (expectedVersion : AggregateVersion) (sourceDecisionId : DecisionId)
      (decidedClassification : DataClassification) (context : ActionOperationContext)

def pickActionFrom : StoredResult → Except ActionServiceError (ActionMutationOutcome ActionRecord)
  | .action outcome => .ok outcome
  | _ => .error .idempotencyConflict

def replayActionFrom := replayAs pickActionFrom

def resultingRecord (spec : DecisionResultingActionRequest) (sourceDecisionId : DecisionId)
    (classification : DataClassification) : ActionRequestRecord where
  id := spec.id
  title := spec.subject
  details := spec.details
  intendedOwner := some spec.intendedOwner
  responseDueAt := none
  intendedActionDueAt := some spec.dueAt
  classification
  state := .open
  terminalRationale := none
  linkedActionId := none
  sourceDecisionId := some sourceDecisionId
  supersededPremise := false
  version := .initial

def markedRequest (record : ActionRequestRecord) (decidedClassification : DataClassification)
    (later : AggregateVersion) : ActionRequestRecord :=
  { record with
    classification := record.classification.combine decidedClassification
    supersededPremise := true
    version := later }

def markedAction (record : ActionRecord) (decidedClassification : DataClassification) (later : AggregateVersion) :
    ActionRecord :=
  { record with
    classification := record.classification.combine decidedClassification
    commitmentClassification := record.commitmentClassification.combine decidedClassification
    supersededPremise := true
    version := later }

def createResultingActionRequestFromDecisionTransition (store : Store) (ports : Ports)
    (spec : DecisionResultingActionRequest) (sourceDecisionId : DecisionId)
    (decidedClassification : DataClassification) (context : ActionOperationContext) :
    Except ActionServiceError (Staged (ActionMutationOutcome ActionRequestRecord)) :=
  let classification := decidedClassification.combine spec.classification
  let signature := .createRequestFromDecision spec sourceDecisionId classification
  orReplay (replayRequest store context.idempotencyId signature) do
    ensure (store.requests[spec.id]? = none) .alreadyExists
    storeRequest store ports (resultingRecord spec sourceDecisionId classification) context signature
      "action_request.created_from_decision" true

def markActionRequestSupersededPremiseFromDecision (store : Store) (ports : Ports) (id : ActionRequestId)
    (expectedVersion : AggregateVersion) (sourceDecisionId : DecisionId) (decidedClassification : DataClassification)
    (context : ActionOperationContext) :
    Except ActionServiceError (Staged (ActionMutationOutcome ActionRequestRecord)) :=
  let signature := .markRequestSupersededPremise id expectedVersion sourceDecisionId decidedClassification
  orReplay (replayRequest store context.idempotencyId signature) do
    let record ← exactRequest store id expectedVersion
    ensure (record.sourceDecisionId = some sourceDecisionId ∧ (record.state = .draft ∨ record.state = .open))
      .illegalTransition
    let later ← next record.version
    storeRequest store ports (markedRequest record decidedClassification later) context signature
      "action_request.superseded_premise_marked" true

def markActionSupersededPremiseFromDecision (store : Store) (ports : Ports) (id : ActionId)
    (expectedVersion : AggregateVersion) (sourceDecisionId : DecisionId) (decidedClassification : DataClassification)
    (context : ActionOperationContext) : Except ActionServiceError (Staged (ActionMutationOutcome ActionRecord)) :=
  let signature := .markActionSupersededPremise id expectedVersion sourceDecisionId decidedClassification
  orReplay (replayActionFrom store context.idempotencyId signature) do
    let record ← exactAction store id expectedVersion
    ensure (record.sourceDecisionId = some sourceDecisionId ∧ (record.state = .open ∨ record.state = .inProgress))
      .illegalTransition
    let later ← next record.version
    storeAction store ports (markedAction record decidedClassification later) context signature none
      "action.superseded_premise_marked" true

def Staged.store {Outcome : Type} (before : Store) : Except ActionServiceError (Staged Outcome) → Store
  | .ok (.committed _ store) | .ok (.placed _ store) => store
  | .ok (.replayed _) | .error _ => before

def stageDecisionCommand (store : Store) (ports : Ports) : DecisionStageCommand → Store
  | .createResultingActionRequest spec sourceDecisionId decidedClassification context =>
    Staged.store store (createResultingActionRequestFromDecisionTransition store ports spec sourceDecisionId
      decidedClassification context)
  | .markActionRequestSupersededPremise id expectedVersion sourceDecisionId decidedClassification context =>
    Staged.store store (markActionRequestSupersededPremiseFromDecision store ports id expectedVersion
      sourceDecisionId decidedClassification context)
  | .markActionSupersededPremise id expectedVersion sourceDecisionId decidedClassification context =>
    Staged.store store (markActionSupersededPremiseFromDecision store ports id expectedVersion sourceDecisionId
      decidedClassification context)

/-- Forgetting a preview also forgets the answer that prepared it, and closes the
gap it leaves in the order of operations. -/
def discardPreparedIntent (store : Store) (id : PreparedIntentId) : Bool × Store :=
  match store.prepared[id]? with
  | none => (false, store)
  | some _ =>
    let removed := (KeyMap.held store.idem).findSome? fun stored =>
      if stored.result.holdsPrepared id then some stored.operationOrdinal else none
    let kept := store.idem.filter fun _ stored => !stored.result.holdsPrepared id
    let discarded := store.consume id
    match removed with
    | none => (true, { discarded with idem := kept })
    | some ordinal => (true, { discarded with
        idem := kept.map fun _ stored =>
          if stored.operationOrdinal > ordinal then { stored with operationOrdinal := stored.operationOrdinal - 1 }
          else stored
        nextOperationOrdinal := store.nextOperationOrdinal - 1 })

end MissionControl.Actions

import MissionControl.Actions.Run
import MissionControl.Lib.Run

/-! What each command can do to the store, said once. A command that succeeds anew
satisfied every guard on its way, and the store it leaves is named by its facts. -/

namespace MissionControl.Actions
open Checked

structure Recorded (store changed : Store) (context : ActionOperationContext) (signature : CommandIdentity)
    (result : StoredResult) (audits : List AuditEvent) (next : Store) : Prop where
  fresh : store.idem[context.idempotencyId]? = none
  room : store.nextOperationOrdinal + 1 < 2 ^ 64
  becomes : next = { changed with
    auditEvents := store.auditEvents ++ audits
    idem := store.idem.insert context.idempotencyId
      ⟨signature, result, context.correlationId, store.nextOperationOrdinal⟩
    nextOperationOrdinal := store.nextOperationOrdinal + 1 }

section
variable {Outcome : Type} {store next : Store} {id : IdempotencyId} {signature : CommandIdentity}

theorem stage_ok {changed : Store} {context : ActionOperationContext} {result : StoredResult}
    {audits : List AuditEvent} (fresh : store.idem[context.idempotencyId]? = none)
    (staged : store.stage changed context signature result audits = .ok next) :
    Recorded store changed context signature result audits next := by
  simp only [Store.stage, bind_ok, ensure_ok, pure_ok] at staged
  obtain ⟨_, room, becomes⟩ := staged
  exact ⟨fresh, room, becomes.symm⟩

theorem replay_none : replay store id signature = .ok none ↔ store.idem[id]? = none := by
  unfold replay
  split
  next absent => simp [absent]
  next stored found =>
    split <;> simp [found]

theorem replay_some {result : StoredResult} : replay store id signature = .ok (some result) ↔
    ∃ stored, store.idem[id]? = some stored ∧ stored.signature = signature ∧ stored.result = result := by
  unfold replay
  split
  next absent => simp [absent]
  next stored found =>
    split
    next same => simp [found, same]
    next different => simp [found, different]

variable {pick : StoredResult → Except ActionServiceError Outcome}

theorem replayAs_none : replayAs pick store id signature = .ok none ↔ store.idem[id]? = none := by
  rw [← @replay_none store id signature]
  unfold replayAs
  split
  next failed => simp [failed]
  next absent => simp [absent]
  next result found => cases pick result <;> simp [found, Except.map]

theorem replayAs_some {outcome : Outcome} :
    replayAs pick store id signature = .ok (some outcome) ↔
    ∃ stored, store.idem[id]? = some stored ∧ stored.signature = signature ∧ pick stored.result = .ok outcome := by
  unfold replayAs
  split
  next cause failed =>
    simp only [reduceCtorEq, false_iff]
    rintro ⟨stored, found, same, _⟩
    rw [replay_some.mpr ⟨stored, found, same, rfl⟩] at failed
    cases failed
  next absent => simp [replay_none.mp absent]
  next result replayed =>
    obtain ⟨stored, found, same, rfl⟩ := replay_some.mp replayed
    cases picked : pick stored.result <;> simp [found, same, picked, Except.map]

theorem replayLinkAction_none : replayLinkAction store id signature = .ok none ↔ store.idem[id]? = none := by
  unfold replayLinkAction
  split
  next absent => simp [absent]
  next stored found =>
    split
    · split <;> simp [found]
    · simp [found]

theorem orReplay_ok {replayed : Except ActionServiceError (Option Outcome)}
    {fresh : Except ActionServiceError (Staged Outcome)} {staged : Staged Outcome} :
    orReplay replayed fresh = .ok staged ↔
      (∃ outcome, replayed = .ok (some outcome) ∧ staged = .replayed outcome) ∨
      (replayed = .ok none ∧ fresh = .ok staged) := by
  unfold orReplay
  split <;> simp [eq_comm]

end

section
variable {store : Store}

theorem exactRequest_ok {id : ActionRequestId} {version : AggregateVersion} {record : ActionRequestRecord} :
    exactRequest store id version = .ok record ↔ store.requests[id]? = some record ∧ record.version = version := by
  simp only [exactRequest, bind_ok, require_ok, ensure_ok, pure_ok]
  constructor
  · rintro ⟨_, found, _, same, rfl⟩
    exact ⟨found, same⟩
  · rintro ⟨found, same⟩
    exact ⟨record, found, (), same, rfl⟩

theorem exactAction_ok {id : ActionId} {version : AggregateVersion} {record : ActionRecord} :
    exactAction store id version = .ok record ↔ store.actions[id]? = some record ∧ record.version = version := by
  simp only [exactAction, bind_ok, require_ok, ensure_ok, pure_ok]
  constructor
  · rintro ⟨_, found, _, same, rfl⟩
    exact ⟨found, same⟩
  · rintro ⟨found, same⟩
    exact ⟨record, found, (), same, rfl⟩

theorem next_ok {version later : AggregateVersion} : next version = .ok later ↔ version.next = some later :=
  require_ok

variable {intent : WorkManagementPreparedIntent} {operation : WorkManagementOperation}
  {classification : DataClassification}

theorem prepare_ok {ports : Ports} {support : Option SupportWitness}
    (success : prepare ports operation classification support = .ok intent) :
    ports.nextPreparedIntentId = some intent.id ∧
      WorkManagementPreparedIntent.prepare intent.id operation classification support (ports.now .preparation) =
        .ok intent := by
  simp only [prepare, bind_ok, require_ok, relabel_ok] at success
  obtain ⟨id, drawn, success⟩ := success
  have named : intent.id = id := by
    obtain ⟨_, _, _, _, _, shape⟩ := preparePreview_ok (WorkManagementPreparedIntent.prepare_preview success)
    rw [WorkManagementPreparedIntent.id, shape]
    rfl
  rw [named]
  exact ⟨drawn, success⟩

structure Validated [Sha256] (ports : Ports) (intent : WorkManagementPreparedIntent)
    (approval : WorkManagementApproval) (operation : WorkManagementOperation)
    (classification : DataClassification) (support : Option SupportWitness)
    (receipt : WorkManagementApprovalReceipt) : Prop where
  allowed : ports.currentPolicy intent.operation = .allowed
  drawn : ports.nextApprovalReceiptId = some receipt.id
  derived : ∃ current, WorkManagementPreparedIntent.prepare intent.id operation classification support
      (ports.now .revalidation) = .ok current ∧
    ReceiptMinted intent approval (expectedSnapshot current) (ports.now .minting) ports.authorize

theorem validate_ok [Sha256] {ports : Ports} {approval : WorkManagementApproval} {support : Option SupportWitness}
    {receipt : WorkManagementApprovalReceipt}
    (success : validate ports intent approval operation classification support = .ok receipt) :
    Validated ports intent approval operation classification support receipt := by
  simp only [validate, bind_ok, ensure_ok, relabel_ok, require_ok] at success
  obtain ⟨_, policy, current, prepared, id, drawn, receipted⟩ := success
  obtain ⟨minted, rfl⟩ := validateAndMint_ok receipted
  refine ⟨?_, drawn, current, prepared, minted⟩
  cases answer : ports.currentPolicy intent.operation with
  | allowed => rfl
  | denied => exact absurd answer policy

end

variable (store : Store) (ports : Ports)

structure RequestStored (record : ActionRequestRecord) (context : ActionOperationContext)
    (signature : CommandIdentity) (code : String) (approved : Bool) (event : AuditEvent)
    (next : Store) : Prop where
  audited : audit ports .first (.actionRequest record.id) code context approved = .ok event
  recorded : Recorded store { store with requests := store.requests.insert record.id record } context signature
    (.request ⟨record, [event], none⟩) [event] next

structure ActionStored (record : ActionRecord) (context : ActionOperationContext)
    (signature : CommandIdentity) (code : String) (approved : Bool) (event : AuditEvent)
    (next : Store) : Prop where
  audited : audit ports .first (.action record.id) code context approved = .ok event
  recorded : Recorded store { store with actions := store.actions.insert record.id record } context signature
    (.action ⟨record, [event], none⟩) [event] next

variable {store ports}

theorem storeRequest_ok {record : ActionRequestRecord} {context : ActionOperationContext}
    {signature : CommandIdentity} {code : String} {approved : Bool}
    {staged : Staged (ActionMutationOutcome ActionRequestRecord)}
    (fresh : store.idem[context.idempotencyId]? = none)
    (success : storeRequest store ports record context signature code approved = .ok staged) :
    ∃ event next, staged = .committed ⟨record, [event], none⟩ next ∧
      RequestStored store ports record context signature code approved event next := by
  simp only [storeRequest, bind_ok, pure_ok] at success
  obtain ⟨event, audited, next, recorded, same⟩ := success
  exact ⟨event, next, same.symm, audited, stage_ok fresh recorded⟩

theorem storeAction_ok {record : ActionRecord} {context : ActionOperationContext} {signature : CommandIdentity}
    {code : String} {approved : Bool} {staged : Staged (ActionMutationOutcome ActionRecord)}
    (fresh : store.idem[context.idempotencyId]? = none)
    (success : storeAction store ports record context signature none code approved = .ok staged) :
    ∃ event next, staged = .committed ⟨record, [event], none⟩ next ∧
      ActionStored store ports record context signature code approved event next := by
  simp only [storeAction, bind_ok, pure_ok] at success
  obtain ⟨event, audited, next, recorded, same⟩ := success
  exact ⟨event, next, same.symm, audited, stage_ok fresh recorded⟩

variable (store : Store) (ports : Ports)

structure RequestCreated (command : CreateActionRequestDraft) (event : AuditEvent) (next : Store) : Prop where
  absent : store.requests[command.id]? = none
  stored : RequestStored store ports (draftRecord command) command.context command.identity "action_request.created"
    false event next

structure RequestTransition where
  requestId : ActionRequestId
  expectedVersion : AggregateVersion
  reason : Option ActionDetails
  source : ActionRequestState
  target : ActionRequestState
  context : ActionOperationContext

structure RequestTransitioned (change : RequestTransition) (record : ActionRequestRecord)
    (later : AggregateVersion) (event : AuditEvent) (next : Store) : Prop where
  found : store.requests[change.requestId]? = some record
  current : record.version = change.expectedVersion
  legal : record.state = change.source
  advanced : record.version.next = some later
  stored : RequestStored store ports
    { record with state := change.target, terminalRationale := change.reason, version := later } change.context
    (.transitionRequest change.requestId change.expectedVersion change.target change.reason)
    (transitionCode change.target) false event next

structure Started (command : StartAction) (record : ActionRecord) (later : AggregateVersion) (event : AuditEvent)
    (next : Store) : Prop where
  found : store.actions[command.actionId]? = some record
  current : record.version = command.expectedVersion
  legal : record.state = .open
  advanced : record.version.next = some later
  stored : ActionStored store ports (startedRecord record (ports.now .transition) later) command.context
    (.startAction command.actionId command.expectedVersion) "action.started" false event next

structure Linked (command : LinkActionCompletionEvidence) (record : ActionRecord)
    (evidence : EvidenceReferenceMetadata) (later : AggregateVersion) (event : AuditEvent) (next : Store) : Prop where
  found : store.actions[command.actionId]? = some record
  current : record.version = command.expectedVersion
  legal : record.state = .inProgress
  resolved : ports.resolve .command command.evidenceId = .ok evidence
  role : evidence.role = .actionCompletion
  absent : command.evidenceId ∉ record.completionEvidence
  advanced : record.version.next = some later
  stored : ActionStored store ports (linkedRecord record command.evidenceId evidence.classification later)
    command.context
    (.linkCompletionEvidence command.actionId command.expectedVersion command.evidenceId
      (some evidence.classification))
    "action.completion_evidence_linked" false event next

inductive Preparation : CommandIdentity → WorkManagementPreparedIntent → Prop where
  | accept {requestId : ActionRequestId} {version : AggregateVersion} {intent : WorkManagementPreparedIntent} :
      acceptPreview store ports requestId version = .ok intent →
      Preparation (.prepareAccept requestId version) intent
  | complete {actionId : ActionId} {version : AggregateVersion} {judgment : Option HumanJudgment}
      {intent : WorkManagementPreparedIntent} :
      completePreview store ports actionId version judgment.toList = .ok intent →
      Preparation (.prepareComplete actionId version judgment) intent
  | cancel {actionId : ActionId} {version : AggregateVersion} {reason : ActionDetails}
      {intent : WorkManagementPreparedIntent} :
      cancelPreview store ports actionId version reason = .ok intent →
      Preparation (.prepareCancel actionId version reason) intent
  | reopen {actionId : ActionId} {version : AggregateVersion} {mode : ActionReopenMode} {reason : ActionDetails}
      {intent : WorkManagementPreparedIntent} :
      reopenPreview store ports actionId version mode reason = .ok intent →
      Preparation (.prepareReopen actionId version mode reason) intent
  | lower {actionId : ActionId} {version : AggregateVersion} {proposed : DataClassification}
      {rationale : WorkManagementRationale} {intent : WorkManagementPreparedIntent} :
      lowerPreview store ports actionId version proposed rationale = .ok intent →
      Preparation (.prepareLowerActionClassification actionId version proposed rationale) intent

theorem Preparation.drawn {store : Store} {ports : Ports} {signature : CommandIdentity}
    {intent : WorkManagementPreparedIntent} (preparation : Preparation store ports signature intent) :
    ports.nextPreparedIntentId = some intent.id := by
  cases preparation with
  | accept success =>
    simp only [acceptPreview, bind_ok] at success
    obtain ⟨_, _, _, _, _, _, _, _, _, _, _, _, success⟩ := success
    exact (prepare_ok success).1
  | complete success =>
    simp only [completePreview, bind_ok] at success
    obtain ⟨_, _, _, _, _, _, _, _, _, _, _, _, success⟩ := success
    exact (prepare_ok success).1
  | cancel success =>
    simp only [cancelPreview, bind_ok] at success
    obtain ⟨_, _, _, _, _, _, _, _, success⟩ := success
    exact (prepare_ok success).1
  | reopen success =>
    simp only [reopenPreview, bind_ok] at success
    obtain ⟨_, _, _, _, _, _, _, _, success⟩ := success
    exact (prepare_ok success).1
  | lower success =>
    simp only [lowerPreview, bind_ok] at success
    obtain ⟨_, _, _, _, success⟩ := success
    exact (prepare_ok success).1

structure PreviewPrepared (context : ActionOperationContext) (signature : CommandIdentity)
    (intent : WorkManagementPreparedIntent) (next : Store) : Prop where
  preparation : Preparation store ports signature intent
  recorded : Recorded store { store with prepared := store.prepared.insert intent.id intent } context signature
    (.prepared intent) [] next

section
variable [Sha256]

structure Accepted (command : ApproveAndExecute) (intent : WorkManagementPreparedIntent) (target : AcceptTarget)
    (request : ActionRequestRecord) (owner : StakeholderId) (due : UtcTimestamp)
    (receipt : WorkManagementApprovalReceipt) (later : AggregateVersion) (outcome : AcceptedActionOutcome)
    (next : Store) : Prop where
  named : command.approval.idempotencyId = command.context.idempotencyId
  pending : store.prepared[command.approval.preparedId]? = some intent
  targeted : acceptTarget intent.operation = some target
  found : store.requests[target.requestId]? = some request
  current : request.version = target.requestVersion
  legal : request.state = .open
  owned : request.intendedOwner = some owner
  dated : request.intendedActionDueAt = some due
  absent : store.actions[target.actionId]? = none
  validated : Validated ports intent command.approval (currentAcceptOperation request target.actionId owner due)
    request.classification none receipt
  advanced : request.version.next = some later
  shown : outcome.request = acceptedRequest request target.actionId later ∧
    outcome.action = acceptedAction target request owner due intent.preview.classification ∧
    outcome.approvalReceiptId = receipt.id
  audited : ∃ accepting creating linking, outcome.auditEvents = [accepting, creating, linking] ∧
    audit ports .first (.actionRequest request.id) "action_request.accepted" command.context true = .ok accepting ∧
    audit ports .second (.action target.actionId) "action.created_from_request" command.context true = .ok creating ∧
    audit ports .third (.actionRequest request.id) "action_request.action_linked" command.context true = .ok linking
  recorded : Recorded store
    { store with
      requests := store.requests.insert request.id outcome.request
      actions := store.actions.insert target.actionId outcome.action
      prepared := store.prepared.erase command.approval.preparedId }
    command.context (.executeAccept (approvalBusinessIdentity command.approval)) (.accepted outcome)
    outcome.auditEvents next

structure Transitioned (kind : PreparedActionTransitionKind) (command : ApproveAndExecute)
    (intent : WorkManagementPreparedIntent) (target : TransitionTarget) (reason : Option ActionDetails)
    (record : ActionRecord) (snapshot : AuthoritativeSnapshot) (support : Option SupportWitness)
    (receipt : WorkManagementApprovalReceipt) (later : AggregateVersion) (event : AuditEvent)
    (next : Store) : Prop where
  named : command.approval.idempotencyId = command.context.idempotencyId
  pending : store.prepared[command.approval.preparedId]? = some intent
  targeted : transitionTarget kind intent.operation = some target
  reasoned : target.reason.mapM toDetails = .ok reason
  found : store.actions[target.actionId]? = some record
  current : record.version = target.actionVersion
  legal : transitionLegal kind record.state = true
  resolved : authoritativeActionSnapshot ports record = .ok snapshot
  bound : bindingsUnchanged intent.operation snapshot.bindings
  supported : currentSupport kind intent snapshot.evidence = .ok support
  validated : Validated ports intent command.approval intent.operation
    (validationClassification kind intent snapshot.classification) support receipt
  advanced : record.version.next = some later
  audited : audit ports .first (.action target.actionId) (transitionAuditCode kind) command.context true = .ok event
  recorded : Recorded store
    { store with
      actions := store.actions.insert target.actionId
        (executedRecord kind intent snapshot.classification reason (ports.now .transition) receipt.id later record)
      prepared := store.prepared.erase command.approval.preparedId }
    command.context (.executeAction kind (approvalBusinessIdentity command.approval))
    (.action ⟨executedRecord kind intent snapshot.classification reason (ports.now .transition) receipt.id later
      record, [event], some receipt.id⟩) [event] next

structure Lowered (command : ApproveAndExecute) (intent : WorkManagementPreparedIntent) (target : LoweringTarget)
    (record : ActionRecord) (receipt : WorkManagementApprovalReceipt) (later : AggregateVersion) (event : AuditEvent)
    (next : Store) : Prop where
  named : command.approval.idempotencyId = command.context.idempotencyId
  pending : store.prepared[command.approval.preparedId]? = some intent
  targeted : loweringTarget intent.operation = some target
  found : store.actions[target.actionId]? = some record
  current : record.version = target.actionVersion
  validated : Validated ports intent command.approval (currentLowerOperation record target) record.classification
    none receipt
  advanced : record.version.next = some later
  audited : audit ports .first (.action target.actionId) "action.classification_lowered" command.context true =
    .ok event
  recorded : Recorded store
    { store with
      actions := store.actions.insert target.actionId (loweredRecord record target.proposedClassification later)
      prepared := store.prepared.erase command.approval.preparedId }
    command.context (.executeLowerActionClassification (approvalBusinessIdentity command.approval))
    (.action ⟨loweredRecord record target.proposedClassification later, [event], some receipt.id⟩) [event] next

end

structure Rejected (command : RejectActionPreparedIntent) (intent : WorkManagementPreparedIntent)
    (target : AuditTarget) (auditId : AuditEventId) (event : AuditEvent) (next : Store) : Prop where
  authorized : command.actor = .headOfProducts ∧ ports.authorize command.actor = true
  pending : store.prepared[command.preparedId]? = some intent
  targeted : rejectionAuditTarget intent.operation = some target
  drawn : ports.nextAuditEventId .first = some auditId
  audited : preparedIntentRejectionAudit auditId (ports.now .rejection) "action.prepared_rejected" target
    command.context.correlationId = some event
  recorded : Recorded store (store.consume command.preparedId) command.context
    (.rejectPrepared command.preparedId command.actor)
    (.rejected ⟨intent.id, ports.now .rejection, decide (ports.now .rejection ≥ intent.preview.expiresAt), event⟩)
    [event] next

/-- A failure remembered under the context's id, with what becomes of the preview. -/
structure FailureRecorded (context : ActionOperationContext) (signature : CommandIdentity)
    (failure : ActionTerminalFailure) (changed next : Store) : Prop where
  disposed : disposePrepared store signature failure.preparedDisposition = .ok changed
  recorded : Recorded store changed context signature (.terminal failure) [failure.audit] next

structure ApprovalFailed (command : ApproveAndExecute) (cause : ActionServiceError) (record : FailureRecord)
    (target : AuditTarget) (event : AuditEvent) (changed next : Store) : Prop where
  kept : (cause = .preparedIntentChanged ∧ record = retryableRecord) ∨
    (isRetryableExecutionFailure cause = false ∧ record = h2Record cause)
  reported : errorAuditTarget (failureTarget store command.approval) = some target
  audited : failureAudit ports command.approval.actor record.code target command.context record.policy
    record.approval record.execution = .ok event
  stored : FailureRecorded store command.context (failureSignature store command.approval)
    { cause
      persistedCause := persistenceTerminalCause cause command.approval.acknowledgedPayloadDigest
      error := domainErrorForRuntimeTarget cause command.context.correlationId
        (failureTarget store command.approval) store.requests store.actions
      preparedDisposition := record.disposition
      audit := event } changed next

structure PreparationDenied (actionId : ActionId) (context : ActionOperationContext) (signature : CommandIdentity)
    (cause : ActionServiceError) (denial : ActionPersistenceH3DenialCause) (event : AuditEvent) (next : Store) :
    Prop where
  denied : isH3Denial cause = true
  explained : denial = h3DenialCauseForAction store ports actionId cause
  audited : failureAudit ports .headOfProducts "action.evidence_policy_denied" (.action actionId) context .denied
    .notRequired .notAttempted = .ok event
  stored : FailureRecorded store context signature
    { cause := h3TerminalServiceCause denial
      persistedCause := .h3Denied denial
      error := domainErrorForRuntimeTarget (h3TerminalServiceCause denial) context.correlationId (.action actionId)
        store.requests store.actions
      preparedDisposition := .notApplicable
      audit := event } store next

structure ResultingCreated (spec : DecisionResultingActionRequest) (sourceDecisionId : DecisionId)
    (decidedClassification : DataClassification) (context : ActionOperationContext) (event : AuditEvent)
    (next : Store) : Prop where
  absent : store.requests[spec.id]? = none
  stored : RequestStored store ports
    (resultingRecord spec sourceDecisionId (decidedClassification.combine spec.classification)) context
    (.createRequestFromDecision spec sourceDecisionId (decidedClassification.combine spec.classification))
    "action_request.created_from_decision" true event next

structure RequestMarked (id : ActionRequestId) (expectedVersion : AggregateVersion) (sourceDecisionId : DecisionId)
    (decidedClassification : DataClassification) (context : ActionOperationContext) (record : ActionRequestRecord)
    (later : AggregateVersion) (event : AuditEvent) (next : Store) : Prop where
  found : store.requests[id]? = some record
  current : record.version = expectedVersion
  sourced : record.sourceDecisionId = some sourceDecisionId
  legal : record.state = .draft ∨ record.state = .open
  advanced : record.version.next = some later
  stored : RequestStored store ports (markedRequest record decidedClassification later) context
    (.markRequestSupersededPremise id expectedVersion sourceDecisionId decidedClassification)
    "action_request.superseded_premise_marked" true event next

structure ActionMarked (id : ActionId) (expectedVersion : AggregateVersion) (sourceDecisionId : DecisionId)
    (decidedClassification : DataClassification) (context : ActionOperationContext) (record : ActionRecord)
    (later : AggregateVersion) (event : AuditEvent) (next : Store) : Prop where
  found : store.actions[id]? = some record
  current : record.version = expectedVersion
  sourced : record.sourceDecisionId = some sourceDecisionId
  legal : record.state = .open ∨ record.state = .inProgress
  advanced : record.version.next = some later
  stored : ActionStored store ports (markedAction record decidedClassification later) context
    (.markActionSupersededPremise id expectedVersion sourceDecisionId decidedClassification)
    "action.superseded_premise_marked" true event next

end MissionControl.Actions

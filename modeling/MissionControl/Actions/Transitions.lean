import MissionControl.Actions.Steps

/-! Inversion of the commands: a success is an answer given before, or it has the
facts of its command. The steps of the store are those facts, one case a command,
and every operation of the service takes at most one of them. -/

namespace MissionControl.Actions
open Checked

section
variable {store : Store} {ports : Ports}

variable {staged : Staged (ActionMutationOutcome ActionRequestRecord)}

theorem createActionRequestDraftCause_ok {command : CreateActionRequestDraft}
    (success : createActionRequestDraftCause store ports command = .ok staged) :
    (∃ outcome, replayRequest store command.context.idempotencyId command.identity = .ok (some outcome) ∧
      staged = .replayed outcome) ∨
    ∃ event next, staged = .committed ⟨draftRecord command, [event], none⟩ next ∧
      RequestCreated store ports command event next := by
  refine (orReplay_ok.mp success).imp id ?_
  rintro ⟨fresh, success⟩
  simp only [bind_ok, ensure_ok] at success
  obtain ⟨_, absent, success⟩ := success
  obtain ⟨event, next, same, stored⟩ := storeRequest_ok (replayAs_none.mp fresh) success
  exact ⟨event, next, same, absent, stored⟩

def RequestTransition.identity (change : RequestTransition) : CommandIdentity :=
  .transitionRequest change.requestId change.expectedVersion change.target change.reason

theorem requestTransition_ok {change : RequestTransition}
    (success : requestTransition store ports change.requestId change.expectedVersion change.reason change.source
      change.target change.context = .ok staged) :
    (∃ outcome, replayRequest store change.context.idempotencyId change.identity = .ok (some outcome) ∧
      staged = .replayed outcome) ∨
    ∃ record later event next,
      staged = .committed
        ⟨{ record with state := change.target, terminalRationale := change.reason, version := later }, [event], none⟩
        next ∧
      RequestTransitioned store ports change record later event next := by
  refine (orReplay_ok.mp success).imp id ?_
  rintro ⟨fresh, success⟩
  simp only [bind_ok, ensure_ok, exactRequest_ok, next_ok] at success
  obtain ⟨record, ⟨found, current⟩, _, legal, later, advanced, success⟩ := success
  obtain ⟨event, next, same, stored⟩ := storeRequest_ok (replayAs_none.mp fresh) success
  exact ⟨record, later, event, next, same, found, current, legal, advanced, stored⟩

theorem startActionCause_ok {command : StartAction} {staged : Staged (ActionMutationOutcome ActionRecord)}
    (success : startActionCause store ports command = .ok staged) :
    (∃ outcome, replayAction store command.context.idempotencyId
        (.startAction command.actionId command.expectedVersion) = .ok (some outcome) ∧
      staged = .replayed outcome) ∨
    ∃ record later event next,
      staged = .committed ⟨startedRecord record (ports.now .transition) later, [event], none⟩ next ∧
      Started store ports command record later event next := by
  refine (orReplay_ok.mp success).imp id ?_
  rintro ⟨fresh, success⟩
  simp only [bind_ok, ensure_ok, exactAction_ok, next_ok] at success
  obtain ⟨record, ⟨found, current⟩, _, legal, later, advanced, success⟩ := success
  obtain ⟨event, next, same, stored⟩ := storeAction_ok (replayAs_none.mp fresh) success
  exact ⟨record, later, event, next, same, found, current, legal, advanced, stored⟩

theorem linkActionCompletionEvidenceCause_ok {command : LinkActionCompletionEvidence}
    {staged : Staged (ActionMutationOutcome ActionRecord)}
    (success : linkActionCompletionEvidenceCause store ports command = .ok staged) :
    (∃ outcome, replayLinkAction store command.context.idempotencyId
        (.linkCompletionEvidence command.actionId command.expectedVersion command.evidenceId none) =
          .ok (some outcome) ∧
      staged = .replayed outcome) ∨
    ∃ record evidence later event next,
      staged = .committed ⟨linkedRecord record command.evidenceId evidence.classification later, [event], none⟩ next ∧
      Linked store ports command record evidence later event next := by
  refine (orReplay_ok.mp success).imp id ?_
  rintro ⟨fresh, success⟩
  simp only [bind_ok, ensure_ok, exactAction_ok, next_ok, resolveEvidence, relabel_ok] at success
  obtain ⟨record, ⟨found, current⟩, _, legal, evidence, resolved, _, role, _, absent, later, advanced, success⟩ :=
    success
  obtain ⟨event, next, same, stored⟩ := storeAction_ok (replayLinkAction_none.mp fresh) success
  exact ⟨record, evidence, later, event, next, same, found, current, legal, resolved, role, absent, advanced, stored⟩

theorem prepareStored_ok {context : ActionOperationContext} {signature : CommandIdentity}
    {preview : Except ActionServiceError WorkManagementPreparedIntent}
    {staged : Staged WorkManagementPreparedIntent}
    (prepares : ∀ intent, preview = .ok intent → Preparation store ports signature intent)
    (success : prepareStored store context signature preview = .ok staged) :
    (∃ outcome, replayPrepared store context.idempotencyId signature = .ok (some outcome) ∧
      staged = .replayed outcome) ∨
    ∃ intent next, staged = .placed intent next ∧ PreviewPrepared store ports context signature intent next := by
  refine (orReplay_ok.mp success).imp id ?_
  rintro ⟨fresh, success⟩
  simp only [storePrepared, bind_ok, pure_ok] at success
  obtain ⟨intent, previewed, next, recorded, same⟩ := success
  exact ⟨intent, next, same.symm, prepares intent previewed, stage_ok (replayAs_none.mp fresh) recorded⟩

theorem rejectPending_ok {id : PreparedIntentId} {intent : WorkManagementPreparedIntent} :
    rejectPending store id = .ok intent ↔ store.prepared[id]? = some intent := by
  unfold rejectPending
  split
  next found => simp [found]
  next absent => split <;> simp [absent]

theorem rejectActionPreparedIntentCause_ok {command : RejectActionPreparedIntent}
    {staged : Staged RejectedPreparedIntentOutcome}
    (success : rejectActionPreparedIntentCause store ports command = .ok staged) :
    (∃ outcome, replayRejected store command.context.idempotencyId
        (.rejectPrepared command.preparedId command.actor) = .ok (some outcome) ∧
      staged = .replayed outcome) ∨
    ∃ intent target auditId event next,
      staged = .committed ⟨intent.id, ports.now .rejection,
        decide (ports.now .rejection ≥ intent.preview.expiresAt), event⟩ next ∧
      Rejected store ports command intent target auditId event next := by
  refine (orReplay_ok.mp success).imp id ?_
  rintro ⟨fresh, success⟩
  simp only [bind_ok, ensure_ok, require_ok, rejectPending_ok, pure_ok] at success
  obtain ⟨_, authorized, intent, pending, target, targeted, auditId, drawn, event, audited, next, recorded, same⟩ :=
    success
  exact ⟨intent, target, auditId, event, next, same.symm, authorized, pending, targeted, drawn, audited,
    stage_ok (replayAs_none.mp fresh) recorded⟩

section
variable [Sha256] {command : ApproveAndExecute}

theorem approveAndExecuteAcceptActionRequestCause_ok {staged : Staged AcceptedActionOutcome}
    (success : approveAndExecuteAcceptActionRequestCause store ports command = .ok staged) :
    (∃ outcome, replayAccepted store command.context.idempotencyId
        (.executeAccept (approvalBusinessIdentity command.approval)) = .ok (some outcome) ∧
      staged = .replayed outcome) ∨
    ∃ intent target request owner due receipt later outcome next, staged = .committed outcome next ∧
      Accepted store ports command intent target request owner due receipt later outcome next := by
  simp only [approveAndExecuteAcceptActionRequestCause, bind_ok, ensure_ok] at success
  obtain ⟨_, named, success⟩ := success
  refine (orReplay_ok.mp success).imp id ?_
  rintro ⟨fresh, success⟩
  simp only [pending, bind_ok, ensure_ok, require_ok, relabel_ok, exactRequest_ok, next_ok, pure_ok] at success
  obtain ⟨_, _, intent, pending, target, targeted, request, ⟨found, current⟩, _, legal, owner, owned, due, dated, _,
    absent, receipt, validated, later, advanced, accepting, acceptingAudit, creating, creatingAudit, linking,
    linkingAudit, next, recorded, same⟩ := success
  exact ⟨intent, target, request, owner, due, receipt, later, _, next, same.symm,
    { named, pending, targeted, found, current, legal, owned, dated, absent, advanced
      validated := validate_ok validated
      shown := ⟨rfl, rfl, rfl⟩
      audited := ⟨accepting, creating, linking, rfl, acceptingAudit, creatingAudit, linkingAudit⟩
      recorded := stage_ok (replayAs_none.mp fresh) recorded }⟩

theorem executeH2_ok {kind : PreparedActionTransitionKind} {staged : Staged (ActionMutationOutcome ActionRecord)}
    (success : executeH2 store ports kind command = .ok staged) :
    (∃ outcome, replayAction store command.context.idempotencyId
        (.executeAction kind (approvalBusinessIdentity command.approval)) = .ok (some outcome) ∧
      staged = .replayed outcome) ∨
    ∃ intent target reason record snapshot support receipt later event next,
      staged = .committed ⟨executedRecord kind intent snapshot.classification reason (ports.now .transition)
        receipt.id later record, [event], some receipt.id⟩ next ∧
      Transitioned store ports kind command intent target reason record snapshot support receipt later event next := by
  simp only [executeH2, bind_ok, ensure_ok] at success
  obtain ⟨_, named, success⟩ := success
  refine (orReplay_ok.mp success).imp id ?_
  rintro ⟨fresh, success⟩
  simp only [pending, bind_ok, ensure_ok, require_ok, relabel_ok, exactAction_ok, next_ok, pure_ok] at success
  obtain ⟨intent, pending, target, targeted, reason, reasoned, record, ⟨found, current⟩, _, legal, snapshot, resolved,
    _, bound, support, supported, receipt, validated, later, advanced, event, audited, next, recorded, same⟩ := success
  exact ⟨intent, target, reason, record, snapshot, support, receipt, later, event, next, same.symm,
    { named, pending, targeted, reasoned, found, current, legal, resolved, bound, supported, advanced, audited
      validated := validate_ok validated
      recorded := stage_ok (replayAs_none.mp fresh) recorded }⟩

theorem approveAndExecuteLowerActionClassificationCause_ok {staged : Staged (ActionMutationOutcome ActionRecord)}
    (success : approveAndExecuteLowerActionClassificationCause store ports command = .ok staged) :
    (∃ outcome, replayAction store command.context.idempotencyId
        (.executeLowerActionClassification (approvalBusinessIdentity command.approval)) = .ok (some outcome) ∧
      staged = .replayed outcome) ∨
    ∃ intent target record receipt later event next,
      staged = .committed
        ⟨loweredRecord record target.proposedClassification later, [event], some receipt.id⟩ next ∧
      Lowered store ports command intent target record receipt later event next := by
  simp only [approveAndExecuteLowerActionClassificationCause, bind_ok, ensure_ok] at success
  obtain ⟨_, named, success⟩ := success
  refine (orReplay_ok.mp success).imp id ?_
  rintro ⟨fresh, success⟩
  simp only [pending, bind_ok, require_ok, relabel_ok, exactAction_ok, next_ok, pure_ok] at success
  obtain ⟨intent, pending, target, targeted, record, ⟨found, current⟩, receipt, validated, later, advanced, event,
    audited, next, recorded, same⟩ := success
  exact ⟨intent, target, record, receipt, later, event, next, same.symm,
    { named, pending, targeted, found, current, advanced, audited
      validated := validate_ok validated
      recorded := stage_ok (replayAs_none.mp fresh) recorded }⟩

end

section
variable {context : ActionOperationContext} {signature : CommandIdentity} {staged : Staged Unit}

theorem storeTerminalFailure_ok {failure : ActionTerminalFailure} (fresh : store.idem[context.idempotencyId]? = none)
    (success : storeTerminalFailure store context signature failure = .ok staged) :
    ∃ changed next, staged = .committed () next ∧
      FailureRecorded store context signature failure changed next := by
  simp only [storeTerminalFailure, bind_ok, pure_ok] at success
  obtain ⟨changed, disposed, next, recorded, same⟩ := success
  exact ⟨changed, next, same.symm, disposed, stage_ok fresh recorded⟩

variable {cause : ActionServiceError}

theorem recordApprovalFailure_ok {command : ApproveAndExecute} {record : FailureRecord}
    (kept : (cause = .preparedIntentChanged ∧ record = retryableRecord) ∨
      (isRetryableExecutionFailure cause = false ∧ record = h2Record cause))
    (success : recordApprovalFailure store ports command.approval command.context cause record = .ok staged) :
    staged = .replayed () ∨ ∃ target event changed next, staged = .committed () next ∧
      ApprovalFailed store ports command cause record target event changed next := by
  unfold recordApprovalFailure at success
  split at success
  · exact .inl (Except.ok.inj success).symm
  next fresh =>
    split at success
    · exact .inl (Except.ok.inj success).symm
    next target reported =>
      obtain ⟨event, audited, success⟩ := bind_ok.mp success
      obtain ⟨changed, next, same, stored⟩ := storeTerminalFailure_ok fresh success
      exact .inr ⟨target, event, changed, next, same, kept, reported, audited, stored⟩

/-- A failed approval is remembered unless it may be retried unchanged, or its id
has an answer already, or what it was about is not known. -/
theorem failureRecording_ok {command : ApproveAndExecute}
    (success : failureRecording store ports command cause = .ok staged) :
    staged = .replayed () ∨ ∃ record target event changed next, staged = .committed () next ∧
      ApprovalFailed store ports command cause record target event changed next := by
  unfold failureRecording at success
  split at success
  · split at success
    next changedPreview =>
      exact (recordApprovalFailure_ok (.inl ⟨changedPreview, rfl⟩) success).imp id fun recorded => ⟨_, recorded⟩
    · exact .inl (Except.ok.inj success).symm
  next lasting =>
    have lasting : isRetryableExecutionFailure cause = false := by simpa using lasting
    exact (recordApprovalFailure_ok (.inr ⟨lasting, rfl⟩) success).imp id fun recorded => ⟨_, recorded⟩

theorem recordH3Denial_ok {actionId : ActionId} (denied : isH3Denial cause = true)
    (success : recordH3Denial store ports actionId context signature
      (h3TerminalServiceCause (h3DenialCauseForAction store ports actionId cause))
      (h3DenialCauseForAction store ports actionId cause) = .ok staged) :
    staged = .replayed () ∨ ∃ denial event next, staged = .committed () next ∧
      PreparationDenied store ports actionId context signature cause denial event next := by
  unfold recordH3Denial at success
  split at success
  · exact .inl (Except.ok.inj success).symm
  next fresh =>
    obtain ⟨event, audited, success⟩ := bind_ok.mp success
    obtain ⟨changed, next, same, stored⟩ := storeTerminalFailure_ok fresh success
    obtain rfl : store = changed := Except.ok.inj stored.disposed
    exact .inr ⟨_, event, next, same, denied, rfl, audited, stored⟩

end

variable {sourceDecisionId : DecisionId} {decidedClassification : DataClassification}
  {context : ActionOperationContext}

theorem createResultingActionRequestFromDecisionTransition_ok {spec : DecisionResultingActionRequest}
    {staged : Staged (ActionMutationOutcome ActionRequestRecord)}
    (success : createResultingActionRequestFromDecisionTransition store ports spec sourceDecisionId
      decidedClassification context = .ok staged) :
    (∃ outcome, staged = .replayed outcome) ∨ ∃ outcome event next, staged = .committed outcome next ∧
      ResultingCreated store ports spec sourceDecisionId decidedClassification context event next := by
  refine (orReplay_ok.mp success).imp (fun ⟨outcome, _, same⟩ => ⟨outcome, same⟩) fun ⟨fresh, success⟩ => ?_
  simp only [bind_ok, ensure_ok] at success
  obtain ⟨_, absent, success⟩ := success
  obtain ⟨event, next, same, stored⟩ := storeRequest_ok (replayAs_none.mp fresh) success
  exact ⟨_, event, next, same, absent, stored⟩

variable {expectedVersion : AggregateVersion}

theorem markActionRequestSupersededPremiseFromDecision_ok {id : ActionRequestId}
    {staged : Staged (ActionMutationOutcome ActionRequestRecord)}
    (success : markActionRequestSupersededPremiseFromDecision store ports id expectedVersion sourceDecisionId
      decidedClassification context = .ok staged) :
    (∃ outcome, staged = .replayed outcome) ∨ ∃ outcome record later event next, staged = .committed outcome next ∧
      RequestMarked store ports id expectedVersion sourceDecisionId decidedClassification context record later event
        next := by
  refine (orReplay_ok.mp success).imp (fun ⟨outcome, _, same⟩ => ⟨outcome, same⟩) fun ⟨fresh, success⟩ => ?_
  simp only [bind_ok, ensure_ok, exactRequest_ok, next_ok] at success
  obtain ⟨record, ⟨found, current⟩, _, ⟨sourced, legal⟩, later, advanced, success⟩ := success
  obtain ⟨event, next, same, stored⟩ := storeRequest_ok (replayAs_none.mp fresh) success
  exact ⟨_, record, later, event, next, same, found, current, sourced, legal, advanced, stored⟩

theorem markActionSupersededPremiseFromDecision_ok {id : ActionId}
    {staged : Staged (ActionMutationOutcome ActionRecord)}
    (success : markActionSupersededPremiseFromDecision store ports id expectedVersion sourceDecisionId
      decidedClassification context = .ok staged) :
    (∃ outcome, staged = .replayed outcome) ∨ ∃ outcome record later event next, staged = .committed outcome next ∧
      ActionMarked store ports id expectedVersion sourceDecisionId decidedClassification context record later event
        next := by
  refine (orReplay_ok.mp success).imp (fun ⟨outcome, _, same⟩ => ⟨outcome, same⟩) fun ⟨fresh, success⟩ => ?_
  simp only [bind_ok, ensure_ok, exactAction_ok, next_ok] at success
  obtain ⟨record, ⟨found, current⟩, _, ⟨sourced, legal⟩, later, advanced, success⟩ := success
  obtain ⟨event, next, same, stored⟩ := storeAction_ok (replayAs_none.mp fresh) success
  exact ⟨_, record, later, event, next, same, found, current, sourced, legal, advanced, stored⟩

end

namespace Operation

def transition : Operation → Option RequestTransition
  | .submitActionRequest command =>
    some ⟨command.requestId, command.expectedVersion, none, .draft, .open, command.context⟩
  | .declineActionRequest command =>
    some ⟨command.requestId, command.expectedVersion, some command.rationale, .open, .declined, command.context⟩
  | .withdrawActionRequest command =>
    some ⟨command.requestId, command.expectedVersion, some command.rationale, .open, .withdrawn, command.context⟩
  | _ => none

def preparing : Operation → Option (ActionOperationContext × CommandIdentity)
  | .prepareAcceptActionRequest command => some (command.context, command.identity)
  | .prepareCompleteAction command => some (command.context, command.identity)
  | .prepareCancelAction command => some (command.context, command.identity)
  | .prepareReopenAction command => some (command.context, command.identity)
  | .prepareLowerActionClassification command => some (command.context, command.identity)
  | _ => none

def executing : Operation → Option (PreparedActionTransitionKind × ApproveAndExecute)
  | .approveAndExecuteCompleteAction command => some (.complete, command)
  | .approveAndExecuteCancelAction command => some (.cancel, command)
  | .approveAndExecuteReopenAction command => some (.reopen, command)
  | _ => none

end Operation

structure Deniable where
  actionId : ActionId
  context : ActionOperationContext
  signature : CommandIdentity
  attempt : Except ActionServiceError (Staged WorkManagementPreparedIntent)

def Operation.deniable (store : Store) (ports : Ports) : Operation → Option Deniable
  | .prepareCompleteAction command =>
    some ⟨command.actionId, command.context, command.identity, prepareCompleteActionCause store ports command⟩
  | .prepareCancelAction command =>
    some ⟨command.actionId, command.context, command.identity, prepareCancelActionCause store ports command⟩
  | .prepareReopenAction command =>
    some ⟨command.actionId, command.context, command.identity, prepareReopenActionCause store ports command⟩
  | .prepareLowerActionClassification command =>
    some ⟨command.actionId, command.context, command.identity,
      prepareLowerActionClassificationCause store ports command⟩
  | _ => none

variable [Sha256]

inductive ApprovalFails (store : Store) (ports : Ports) (cause : ActionServiceError) :
    Operation → ApproveAndExecute → Prop where
  | accept {command : ApproveAndExecute} :
      approveAndExecuteAcceptActionRequestCause store ports command = .error cause →
      ApprovalFails store ports cause (.approveAndExecuteAcceptActionRequest command) command
  | transition {operation : Operation} {kind : PreparedActionTransitionKind} {command : ApproveAndExecute} :
      operation.executing = some (kind, command) → executeH2 store ports kind command = .error cause →
      ApprovalFails store ports cause operation command

inductive Event where
  | operation (operation : Operation)
  | staged (command : DecisionStageCommand)

inductive StoreStep (ports : Ports) (store : Store) : Event → Store → Prop where
  | created {command : CreateActionRequestDraft} {event : AuditEvent} {next : Store} :
      RequestCreated store ports command event next →
      StoreStep ports store (.operation (.createActionRequestDraft command)) next
  | moved {operation : Operation} {change : RequestTransition} {record : ActionRequestRecord}
      {later : AggregateVersion} {event : AuditEvent} {next : Store} :
      operation.transition = some change → RequestTransitioned store ports change record later event next →
      StoreStep ports store (.operation operation) next
  | started {command : StartAction} {record : ActionRecord} {later : AggregateVersion} {event : AuditEvent}
      {next : Store} :
      Started store ports command record later event next →
      StoreStep ports store (.operation (.startAction command)) next
  | linked {command : LinkActionCompletionEvidence} {record : ActionRecord} {evidence : EvidenceReferenceMetadata}
      {later : AggregateVersion} {event : AuditEvent} {next : Store} :
      Linked store ports command record evidence later event next →
      StoreStep ports store (.operation (.linkActionCompletionEvidence command)) next
  | prepared {operation : Operation} {context : ActionOperationContext} {signature : CommandIdentity}
      {intent : WorkManagementPreparedIntent} {next : Store} :
      operation.preparing = some (context, signature) →
      PreviewPrepared store ports context signature intent next → StoreStep ports store (.operation operation) next
  | accepted {command : ApproveAndExecute} {intent : WorkManagementPreparedIntent} {target : AcceptTarget}
      {request : ActionRequestRecord} {owner : StakeholderId} {due : UtcTimestamp}
      {receipt : WorkManagementApprovalReceipt} {later : AggregateVersion} {outcome : AcceptedActionOutcome}
      {next : Store} :
      Accepted store ports command intent target request owner due receipt later outcome next →
      StoreStep ports store (.operation (.approveAndExecuteAcceptActionRequest command)) next
  | transitioned {operation : Operation} {kind : PreparedActionTransitionKind} {command : ApproveAndExecute}
      {intent : WorkManagementPreparedIntent} {target : TransitionTarget} {reason : Option ActionDetails}
      {record : ActionRecord} {snapshot : AuthoritativeSnapshot} {support : Option SupportWitness}
      {receipt : WorkManagementApprovalReceipt} {later : AggregateVersion} {event : AuditEvent} {next : Store} :
      operation.executing = some (kind, command) →
      Transitioned store ports kind command intent target reason record snapshot support receipt later event next →
      StoreStep ports store (.operation operation) next
  | lowered {command : ApproveAndExecute} {intent : WorkManagementPreparedIntent} {target : LoweringTarget}
      {record : ActionRecord} {receipt : WorkManagementApprovalReceipt} {later : AggregateVersion}
      {event : AuditEvent} {next : Store} :
      Lowered store ports command intent target record receipt later event next →
      StoreStep ports store (.operation (.approveAndExecuteLowerActionClassification command)) next
  | rejected {command : RejectActionPreparedIntent} {intent : WorkManagementPreparedIntent} {target : AuditTarget}
      {auditId : AuditEventId} {event : AuditEvent} {next : Store} :
      Rejected store ports command intent target auditId event next →
      StoreStep ports store (.operation (.rejectActionPreparedIntent command)) next
  | failed {operation : Operation} {command : ApproveAndExecute} {cause : ActionServiceError}
      {record : FailureRecord} {target : AuditTarget} {event : AuditEvent} {changed next : Store} :
      ApprovalFails store ports cause operation command →
      ApprovalFailed store ports command cause record target event changed next →
      StoreStep ports store (.operation operation) next
  | denied {operation : Operation} {deniable : Deniable} {cause : ActionServiceError}
      {denial : ActionPersistenceH3DenialCause} {event : AuditEvent} {next : Store} :
      operation.deniable store ports = some deniable → deniable.attempt = .error cause →
      PreparationDenied store ports deniable.actionId deniable.context deniable.signature cause denial event next →
      StoreStep ports store (.operation operation) next
  | discarded {id : PreparedIntentId} {intent : WorkManagementPreparedIntent} : store.prepared[id]? = some intent →
      StoreStep ports store (.operation (.discardPreparedIntent id)) (discardPreparedIntent store id).2
  | resulting {spec : DecisionResultingActionRequest} {sourceDecisionId : DecisionId}
      {decidedClassification : DataClassification} {context : ActionOperationContext} {event : AuditEvent}
      {next : Store} :
      ResultingCreated store ports spec sourceDecisionId decidedClassification context event next →
      StoreStep ports store
        (.staged (.createResultingActionRequest spec sourceDecisionId decidedClassification context)) next
  | markedRequest {id : ActionRequestId} {expectedVersion : AggregateVersion} {sourceDecisionId : DecisionId}
      {decidedClassification : DataClassification} {context : ActionOperationContext}
      {record : ActionRequestRecord} {later : AggregateVersion} {event : AuditEvent} {next : Store} :
      RequestMarked store ports id expectedVersion sourceDecisionId decidedClassification context record later event
        next →
      StoreStep ports store (.staged (.markActionRequestSupersededPremise id expectedVersion sourceDecisionId
        decidedClassification context)) next
  | markedAction {id : ActionId} {expectedVersion : AggregateVersion} {sourceDecisionId : DecisionId}
      {decidedClassification : DataClassification} {context : ActionOperationContext} {record : ActionRecord}
      {later : AggregateVersion} {event : AuditEvent} {next : Store} :
      ActionMarked store ports id expectedVersion sourceDecisionId decidedClassification context record later event
        next →
      StoreStep ports store (.staged (.markActionSupersededPremise id expectedVersion sourceDecisionId
        decidedClassification context)) next

end MissionControl.Actions

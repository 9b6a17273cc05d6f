import MissionControl.Actions.Answers

/-! Commands under an idempotency id that has an answer. The command that got the
answer gets it again, and any other command is refused; neither changes anything. -/

namespace MissionControl.Replay
open Actions Checked

def errorOf : Response → Option DomainError
  | .request (.error error) | .action (.error error) | .prepared (.error error) | .accepted (.error error)
  | .rejected (.error error) => some error
  | _ => none

def replyOf : CommandIdentity → StoredResult → Option Response
  | .createRequest .., .request outcome | .transitionRequest .., .request outcome => some (.request (.ok outcome))
  | .startAction .., .action outcome
  | .linkCompletionEvidence .., .action outcome
  | .executeAction .., .action outcome
  | .executeLowerActionClassification _, .action outcome => some (.action (.ok outcome))
  | .prepareAccept .., .prepared intent
  | .prepareComplete .., .prepared intent
  | .prepareCancel .., .prepared intent
  | .prepareReopen .., .prepared intent
  | .prepareLowerActionClassification .., .prepared intent => some (.prepared (.ok intent))
  | .executeAccept _, .accepted outcome => some (.accepted (.ok outcome))
  | .rejectPrepared .., .rejected outcome => some (.rejected (.ok outcome))
  | .prepareComplete .., .terminal failure
  | .prepareCancel .., .terminal failure
  | .prepareReopen .., .terminal failure
  | .prepareLowerActionClassification .., .terminal failure => some (.prepared (.error failure.error))
  | .executeAction .., .terminal failure => some (.action (.error failure.error))
  | .executeAccept _, .terminal failure => some (.accepted (.error failure.error))
  | _, _ => none

theorem reply_eq {operation : Operation} {issue : Issue} (issued : operation.issue = some issue)
    (result : StoredResult) : operation.reply result = replyOf issue.identity result := by
  cases operation <;> cases issued <;> cases result <;> rfl

theorem asIssued_eq {stored identity : CommandIdentity} (same : stored.asIssued = identity)
    (plain : ∀ actionId version evidence, identity ≠ .linkCompletionEvidence actionId version evidence none) :
    stored = identity := by
  cases stored with
  | linkCompletionEvidence _ _ _ _ => exact absurd same.symm (plain _ _ _)
  | _ => exact same

section
variable {Outcome : Type} {service : Service} {ports : Ports} {stored : Stored}

theorem report_replayed {cause : Except ActionServiceError (Staged Outcome)} {outcome : Outcome}
    (replayed : cause = .ok (.replayed outcome)) (context : ActionOperationContext) (target : ErrorTarget) :
    report context target (settle service cause) = (service, .ok outcome) := by
  rw [replayed]
  rfl

variable {replayed : Except ActionServiceError (Option Outcome)}

theorem orReplay_some {outcome : Outcome} (known : replayed = .ok (some outcome))
    (fresh : Except ActionServiceError (Staged Outcome)) : orReplay replayed fresh = .ok (.replayed outcome) := by
  rw [known]
  rfl

variable {cause : ActionServiceError}

theorem orReplay_error (known : replayed = .error cause) (fresh : Except ActionServiceError (Staged Outcome)) :
    orReplay replayed fresh = .error cause := by
  rw [known]
  rfl

variable {pick : StoredResult → Except ActionServiceError Outcome}

theorem replayAs_error {store : Store} {id : IdempotencyId} {signature : CommandIdentity}
    (found : store.idem[id]? = some stored) (same : stored.signature = signature)
    (picked : pick stored.result = .error cause) : replayAs pick store id signature = .error cause := by
  simp [replayAs, replay, found, same, picked, Except.map]

theorem replayAs_conflict {store : Store} {id : IdempotencyId} {signature : CommandIdentity}
    (found : store.idem[id]? = some stored) (different : stored.signature ≠ signature) :
    replayAs pick store id signature = .error .idempotencyConflict := by
  simp [replayAs, replay, found, different]

theorem failureRecording_known {command : ApproveAndExecute}
    (found : service.store.idem[command.context.idempotencyId]? = some stored) :
    failureRecording service.store ports command cause = .ok (.replayed ()) := by
  unfold failureRecording recordRetryablePreviewFailure recordH2Failure recordApprovalFailure
  simp only [found]
  split
  · split <;> rfl
  · rfl

theorem execute_known {command : ApproveAndExecute}
    (found : service.store.idem[command.context.idempotencyId]? = some stored) :
    execute service ports command (.error cause : Except ActionServiceError (Staged Outcome)) =
      (service, .error (domainError service.store cause command.context
        (failureTarget service.store command.approval))) := by
  simp only [execute, settle, failedActionExecution, failureRecording_known found]

theorem domainError_terminal {store : Store} {context : ActionOperationContext} {failure : ActionTerminalFailure}
    (found : store.idem[context.idempotencyId]? = some stored) (result : stored.result = .terminal failure)
    (target : ErrorTarget) : domainError store failure.cause context target = failure.error := by
  simp [domainError, Store.answer, found, result]

end

section
variable [Sha256] {service : Service} {ports : Ports} {operation : Operation} {issue : Issue} {stored : Stored}
  {command : ApproveAndExecute}

theorem accept_cause (named : command.approval.idempotencyId = command.context.idempotencyId) :
    ∃ fresh, approveAndExecuteAcceptActionRequestCause service.store ports command =
      orReplay (replayAccepted service.store command.context.idempotencyId
        (.executeAccept (approvalBusinessIdentity command.approval))) fresh := by
  simp only [approveAndExecuteAcceptActionRequestCause, named, ensure, if_true]
  exact ⟨_, rfl⟩

theorem executeH2_cause (kind : PreparedActionTransitionKind)
    (named : command.approval.idempotencyId = command.context.idempotencyId) :
    ∃ fresh, executeH2 service.store ports kind command =
      orReplay (replayAction service.store command.context.idempotencyId
        (.executeAction kind (approvalBusinessIdentity command.approval))) fresh := by
  simp only [executeH2, named, ensure, if_true]
  exact ⟨_, rfl⟩

theorem lower_cause (named : command.approval.idempotencyId = command.context.idempotencyId) :
    ∃ fresh, approveAndExecuteLowerActionClassificationCause service.store ports command =
      orReplay (replayAction service.store command.context.idempotencyId
        (.executeLowerActionClassification (approvalBusinessIdentity command.approval))) fresh := by
  simp only [approveAndExecuteLowerActionClassificationCause, named, ensure, if_true]
  exact ⟨_, rfl⟩

theorem misnamed_cause (misnamed : command.approval.idempotencyId ≠ command.context.idempotencyId) :
    approveAndExecuteAcceptActionRequestCause service.store ports command = .error .idempotencyConflict ∧
    (∀ kind, executeH2 service.store ports kind command = .error .idempotencyConflict) ∧
    approveAndExecuteLowerActionClassificationCause service.store ports command = .error .idempotencyConflict := by
  simp only [approveAndExecuteAcceptActionRequestCause, executeH2, approveAndExecuteLowerActionClassificationCause,
    misnamed, ensure, if_false]
  exact ⟨rfl, fun _ => rfl, rfl⟩

variable {signature : CommandIdentity}

omit [Sha256] in
theorem execute_recalls {Outcome : Type} {pick : StoredResult → Except ActionServiceError Outcome}
    {cause fresh : Except ActionServiceError (Staged Outcome)} {outcome : Outcome}
    (asked : cause = orReplay (replayAs pick service.store command.context.idempotencyId signature) fresh)
    (found : service.store.idem[command.context.idempotencyId]? = some stored) (signed : stored.signature = signature)
    (picked : pick stored.result = .ok outcome) : execute service ports command cause = (service, .ok outcome) := by
  rw [asked, orReplay_some (replayAs_some.mpr ⟨stored, found, signed, picked⟩)]
  rfl

omit [Sha256] in
theorem execute_refuses {Outcome : Type} {pick : StoredResult → Except ActionServiceError Outcome}
    {cause fresh : Except ActionServiceError (Staged Outcome)} {failure : ActionTerminalFailure}
    (asked : cause = orReplay (replayAs pick service.store command.context.idempotencyId signature) fresh)
    (found : service.store.idem[command.context.idempotencyId]? = some stored) (signed : stored.signature = signature)
    (result : stored.result = .terminal failure) (picked : pick (.terminal failure) = .error failure.cause) :
    execute service ports command cause = (service, .error failure.error) := by
  rw [asked, orReplay_error (replayAs_error found signed (result ▸ picked)), execute_known found,
    domainError_terminal found result]

omit [Sha256] in
theorem prepares_again {actionId : ActionId} {context : ActionOperationContext}
    {preview : Except ActionServiceError WorkManagementPreparedIntent}
    {response : Except DomainError WorkManagementPreparedIntent}
    (found : service.store.idem[context.idempotencyId]? = some stored) (signed : stored.signature = signature)
    (answers : (∃ intent, stored.result = .prepared intent ∧ response = .ok intent) ∨
      ∃ failure, stored.result = .terminal failure ∧ response = .error failure.error) :
    prepareActionTransition service ports actionId context signature
      (prepareStored service.store context signature preview) = (service, response) := by
  have replayed : replay service.store context.idempotencyId signature = .ok (some stored.result) :=
    replay_some.mpr ⟨stored, found, signed, rfl⟩
  rcases answers with ⟨intent, result, rfl⟩ | ⟨failure, result, rfl⟩
  · have known : replayPrepared service.store context.idempotencyId signature = .ok (some intent) :=
      replayAs_some.mpr ⟨stored, found, signed, pickPrepared_ok.mpr result⟩
    simp only [prepareActionTransition, replayTerminalError, replayed, result, prepareStored, orReplay_some known, settle]
  · simp only [prepareActionTransition, replayTerminalError, replayed, result]

theorem step_remembered {response : Response} (issued : operation.issue = some issue)
    (named : issue.approvalId = issue.key) (remembers : Remembers service.store operation issue response) :
    step service ports operation = (service, response) := by
  obtain ⟨stored, found, same, replied⟩ := remembers
  have plain := fun linkless => asIssued_eq same linkless
  cases operation with
  | createActionRequestDraft command | submitActionRequest command | declineActionRequest command
  | withdrawActionRequest command =>
    cases issued
    cases result : stored.result <;> simp only [Operation.reply, result, Option.some.injEq, reduceCtorEq] at replied
    subst replied
    exact congrArg (Prod.map id Response.request)
      (report_replayed (orReplay_some (replayAs_some.mpr ⟨stored, found, plain nofun, pickRequest_ok.mpr result⟩) _) _ _)
  | startAction command =>
    cases issued
    cases result : stored.result <;> simp only [Operation.reply, result, Option.some.injEq, reduceCtorEq] at replied
    subst replied
    exact congrArg (Prod.map id Response.action)
      (report_replayed (orReplay_some (replayAs_some.mpr ⟨stored, found, plain nofun, pickAction_ok.mpr result⟩) _) _ _)
  | linkActionCompletionEvidence command =>
    cases issued
    cases result : stored.result <;> simp only [Operation.reply, result, Option.some.injEq, reduceCtorEq] at replied
    subst replied
    exact congrArg (Prod.map id Response.action) (report_replayed (orReplay_some
      (replayLinkAction_some.mpr ⟨stored, found, sameLinkCommand_iff.mpr same, result⟩) _) _ _)
  | prepareAcceptActionRequest command =>
    cases issued
    cases result : stored.result <;> simp only [Operation.reply, result, Option.some.injEq, reduceCtorEq] at replied
    subst replied
    exact congrArg (Prod.map id Response.prepared)
      (report_replayed (orReplay_some (replayAs_some.mpr ⟨stored, found, plain nofun, pickPrepared_ok.mpr result⟩) _) _ _)
  | prepareCompleteAction command | prepareCancelAction command | prepareReopenAction command
  | prepareLowerActionClassification command =>
    cases issued
    cases result : stored.result <;> simp only [Operation.reply, result, Option.some.injEq, reduceCtorEq] at replied <;>
      subst replied
    · exact congrArg (Prod.map id Response.prepared) (prepares_again found (plain nofun) (.inl ⟨_, result, rfl⟩))
    · exact congrArg (Prod.map id Response.prepared) (prepares_again found (plain nofun) (.inr ⟨_, result, rfl⟩))
  | approveAndExecuteAcceptActionRequest command =>
    cases issued
    obtain ⟨fresh, asked⟩ := @accept_cause _ service ports command named
    cases result : stored.result <;> simp only [Operation.reply, result, Option.some.injEq, reduceCtorEq] at replied <;>
      subst replied
    · exact congrArg (Prod.map id Response.accepted) (execute_recalls asked found (plain nofun) (pickAccepted_ok.mpr result))
    · exact congrArg (Prod.map id Response.accepted) (execute_refuses asked found (plain nofun) result rfl)
  | approveAndExecuteCompleteAction command =>
    cases issued
    obtain ⟨fresh, asked⟩ := @executeH2_cause _ service ports command .complete named
    cases result : stored.result <;> simp only [Operation.reply, result, Option.some.injEq, reduceCtorEq] at replied <;>
      subst replied
    · exact congrArg (Prod.map id Response.action) (execute_recalls asked found (plain nofun) (pickAction_ok.mpr result))
    · exact congrArg (Prod.map id Response.action) (execute_refuses asked found (plain nofun) result rfl)
  | approveAndExecuteCancelAction command =>
    cases issued
    obtain ⟨fresh, asked⟩ := @executeH2_cause _ service ports command .cancel named
    cases result : stored.result <;> simp only [Operation.reply, result, Option.some.injEq, reduceCtorEq] at replied <;>
      subst replied
    · exact congrArg (Prod.map id Response.action) (execute_recalls asked found (plain nofun) (pickAction_ok.mpr result))
    · exact congrArg (Prod.map id Response.action) (execute_refuses asked found (plain nofun) result rfl)
  | approveAndExecuteReopenAction command =>
    cases issued
    obtain ⟨fresh, asked⟩ := @executeH2_cause _ service ports command .reopen named
    cases result : stored.result <;> simp only [Operation.reply, result, Option.some.injEq, reduceCtorEq] at replied <;>
      subst replied
    · exact congrArg (Prod.map id Response.action) (execute_recalls asked found (plain nofun) (pickAction_ok.mpr result))
    · exact congrArg (Prod.map id Response.action) (execute_refuses asked found (plain nofun) result rfl)
  | approveAndExecuteLowerActionClassification command =>
    cases issued
    obtain ⟨fresh, cause⟩ := @lower_cause _ service ports command named
    cases result : stored.result <;> simp only [Operation.reply, result, Option.some.injEq, reduceCtorEq] at replied
    subst replied
    refine congrArg (Prod.map id Response.action) (report_replayed (cause.trans ?_) _ _)
    exact orReplay_some (replayAs_some.mpr ⟨stored, found, plain nofun, pickAction_ok.mpr result⟩) _
  | rejectActionPreparedIntent command =>
    cases issued
    cases result : stored.result <;> simp only [Operation.reply, result, Option.some.injEq, reduceCtorEq] at replied
    subst replied
    exact congrArg (Prod.map id Response.rejected)
      (report_replayed (orReplay_some (replayAs_some.mpr ⟨stored, found, plain nofun, pickRejected_ok.mpr result⟩) _) _ _)
  | discardPreparedIntent _ | commitDecisionStage _ => cases issued
  | injectNextCommitFailure => cases issued

end

def TerminalsCoded (store : Store) : Prop :=
  ∀ {id : IdempotencyId} {stored : Stored} {failure : ActionTerminalFailure}, store.idem[id]? = some stored →
    stored.result = .terminal failure → failure.error.code = errorCode failure.cause

theorem withParams_code (params : List MessageParam) (error : DomainError) :
    (params.foldl DomainError.withParam error).code = error.code := by
  induction params generalizing error with
  | nil => rfl
  | cons param params rest => exact rest _

theorem withSnapshot_code (cause : ActionServiceError) (correlationId : CorrelationId)
    (snapshot : Option TargetSnapshot) :
    (domainErrorWithSnapshot cause correlationId snapshot).code = errorCode cause := by
  cases snapshot with
  | none => rfl
  | some target => exact withParams_code _ _

theorem runtimeTarget_code (cause : ActionServiceError) (correlationId : CorrelationId) (target : ErrorTarget)
    (requests : KeyMap ActionRequestId ActionRequestRecord) (actions : KeyMap ActionId ActionRecord) :
    (domainErrorForRuntimeTarget cause correlationId target requests actions).code = errorCode cause := by
  cases target <;> exact withSnapshot_code _ _ _

theorem domainError_code {store : Store} (coded : TerminalsCoded store) (cause : ActionServiceError)
    (context : ActionOperationContext) (target : ErrorTarget) :
    (domainError store cause context target).code = errorCode cause := by
  unfold domainError
  cases answer : store.answer context.idempotencyId with
  | none => exact runtimeTarget_code _ _ _ _ _
  | some result =>
    cases result with
    | terminal failure =>
      obtain ⟨stored, found, shown⟩ := Option.map_eq_some_iff.mp answer
      dsimp only
      split
      next same => rw [coded found shown, same]
      · exact runtimeTarget_code _ _ _ _ _
    | _ => exact runtimeTarget_code _ _ _ _ _

/-- The operation is refused as a conflict, and nothing changes. -/
structure Conflicts (service : Service) (answer : Service × Response) : Prop where
  unchanged : answer.1 = service
  conflict : ∃ error, errorOf answer.2 = some error ∧ error.code = .domainIdempotencyConflict

section
variable [Sha256] {service : Service} {ports : Ports} {operation : Operation} {issue : Issue} {stored : Stored}

variable {context : ActionOperationContext}

omit [Sha256] in
theorem conflicts_of {Outcome : Type} {answer : Service × Except DomainError Outcome}
    {wrap : Except DomainError Outcome → Response} {target : ErrorTarget} (coded : TerminalsCoded service.store)
    (wraps : ∀ error, errorOf (wrap (.error error)) = some error)
    (refused : answer = (service, .error (domainError service.store .idempotencyConflict context target))) :
    Conflicts service (answer.map id wrap) := by
  subst refused
  exact ⟨rfl, _, wraps _, domainError_code coded _ _ _⟩

omit [Sha256] in
theorem report_conflict {Outcome : Type} {cause : Except ActionServiceError (Staged Outcome)}
    {wrap : Except DomainError Outcome → Response} {target : ErrorTarget} (coded : TerminalsCoded service.store)
    (wraps : ∀ error, errorOf (wrap (.error error)) = some error) (refused : cause = .error .idempotencyConflict) :
    Conflicts service ((report context target (settle service cause)).map id wrap) := by
  subst refused
  exact conflicts_of coded wraps rfl

omit [Sha256] in
theorem prepare_conflict {actionId : ActionId} {signature : CommandIdentity}
    {cause : Except ActionServiceError (Staged WorkManagementPreparedIntent)} (coded : TerminalsCoded service.store)
    (found : service.store.idem[context.idempotencyId]? = some stored) (different : stored.signature ≠ signature) :
    Conflicts service ((prepareActionTransition service ports actionId context signature cause).map id .prepared) := by
  have refused : replay service.store context.idempotencyId signature = .error .idempotencyConflict := by
    simp [replay, found, different]
  refine conflicts_of coded (fun _ => rfl) (?_ : prepareActionTransition service ports actionId context signature cause =
    (service, .error (domainError service.store .idempotencyConflict context (.action actionId))))
  simp only [prepareActionTransition, replayTerminalError, refused]

omit [Sha256] in
theorem execute_conflict {Outcome : Type} {cause : Except ActionServiceError (Staged Outcome)}
    {wrap : Except DomainError Outcome → Response} {command : ApproveAndExecute}
    (coded : TerminalsCoded service.store) (wraps : ∀ error, errorOf (wrap (.error error)) = some error)
    (found : service.store.idem[command.context.idempotencyId]? = some stored)
    (refused : cause = .error .idempotencyConflict) :
    Conflicts service ((execute service ports command cause).map id wrap) := by
  subst refused
  exact conflicts_of coded wraps (execute_known found)

theorem approval_conflict {command : ApproveAndExecute}
    (found : service.store.idem[command.context.idempotencyId]? = some stored) :
    (command.approval.idempotencyId ≠ command.context.idempotencyId ∨
      stored.signature ≠ .executeAccept (approvalBusinessIdentity command.approval) →
      approveAndExecuteAcceptActionRequestCause service.store ports command = .error .idempotencyConflict) ∧
    (∀ kind, command.approval.idempotencyId ≠ command.context.idempotencyId ∨
      stored.signature ≠ .executeAction kind (approvalBusinessIdentity command.approval) →
      executeH2 service.store ports kind command = .error .idempotencyConflict) ∧
    (command.approval.idempotencyId ≠ command.context.idempotencyId ∨
      stored.signature ≠ .executeLowerActionClassification (approvalBusinessIdentity command.approval) →
      approveAndExecuteLowerActionClassificationCause service.store ports command = .error .idempotencyConflict) := by
  by_cases named : command.approval.idempotencyId = command.context.idempotencyId
  · refine ⟨fun different => ?_, fun kind different => ?_, fun different => ?_⟩
    · obtain ⟨fresh, asked⟩ := @accept_cause _ service ports command named
      exact asked.trans (orReplay_error (replayAs_conflict found (different.resolve_left (not_not.mpr named))) _)
    · obtain ⟨fresh, asked⟩ := @executeH2_cause _ service ports command kind named
      exact asked.trans (orReplay_error (replayAs_conflict found (different.resolve_left (not_not.mpr named))) _)
    · obtain ⟨fresh, asked⟩ := @lower_cause _ service ports command named
      exact asked.trans (orReplay_error (replayAs_conflict found (different.resolve_left (not_not.mpr named))) _)
  · obtain ⟨accept, execute, lower⟩ := @misnamed_cause _ service ports command named
    exact ⟨fun _ => accept, fun kind _ => execute kind, fun _ => lower⟩

omit [Sha256] in
theorem issue_plain (issued : operation.issue = some issue) : issue.identity.asIssued = issue.identity := by
  cases operation <;> cases issued <;> rfl

theorem step_conflict (issued : operation.issue = some issue) (coded : TerminalsCoded service.store)
    (found : service.store.idem[issue.key]? = some stored)
    (different : stored.signature.asIssued ≠ issue.identity ∨ issue.approvalId ≠ issue.key) :
    Conflicts service (step service ports operation) := by
  have signed : issue.approvalId ≠ issue.key ∨ stored.signature ≠ issue.identity := by
    refine different.symm.imp id fun other same => other ?_
    rw [same, issue_plain issued]
  cases operation with
  | createActionRequestDraft command | submitActionRequest command | declineActionRequest command
  | withdrawActionRequest command | startAction command | prepareAcceptActionRequest command
  | rejectActionPreparedIntent command =>
    cases issued
    exact report_conflict coded (fun _ => rfl)
      (orReplay_error (replayAs_conflict found (signed.resolve_left (not_not.mpr rfl))) _)
  | linkActionCompletionEvidence command =>
    cases issued
    have other : sameLinkCommand stored.signature
        (.linkCompletionEvidence command.actionId command.expectedVersion command.evidenceId none) = false := by
      rw [Bool.eq_false_iff, ne_eq, sameLinkCommand_iff]
      exact different.resolve_right (not_not.mpr rfl)
    have refused : replayLinkAction service.store command.context.idempotencyId
        (.linkCompletionEvidence command.actionId command.expectedVersion command.evidenceId none) =
        .error .idempotencyConflict := by
      have known : service.store.idem[command.context.idempotencyId]? = some stored := found
      simp [replayLinkAction, known, other]
    exact report_conflict coded (fun _ => rfl) (orReplay_error refused _)
  | prepareCompleteAction command | prepareCancelAction command | prepareReopenAction command
  | prepareLowerActionClassification command =>
    cases issued
    exact prepare_conflict coded found (signed.resolve_left (not_not.mpr rfl))
  | approveAndExecuteAcceptActionRequest command =>
    cases issued
    exact execute_conflict coded (fun _ => rfl) found ((approval_conflict found).1 signed)
  | approveAndExecuteCompleteAction command =>
    cases issued
    exact execute_conflict coded (fun _ => rfl) found ((approval_conflict found).2.1 .complete signed)
  | approveAndExecuteCancelAction command =>
    cases issued
    exact execute_conflict coded (fun _ => rfl) found ((approval_conflict found).2.1 .cancel signed)
  | approveAndExecuteReopenAction command =>
    cases issued
    exact execute_conflict coded (fun _ => rfl) found ((approval_conflict found).2.1 .reopen signed)
  | approveAndExecuteLowerActionClassification command =>
    cases issued
    exact report_conflict coded (fun _ => rfl) ((approval_conflict found).2.2 signed)
  | discardPreparedIntent _ | commitDecisionStage _ => cases issued
  | injectNextCommitFailure => cases issued

end

/-- How a failed approval is filed: by the kind of the preview it names. -/
inductive ApprovalKind where
  | accept
  | transition (kind : PreparedActionTransitionKind)
  deriving DecidableEq

/-- Lowerings, and previews the store does not know, are filed as completions. -/
def filedAs : Option WorkManagementOperation → ApprovalKind
  | some (.acceptActionRequest ..) => .accept
  | some (.cancelAction ..) => .transition .cancel
  | some (.reopenAction ..) => .transition .reopen
  | _ => .transition .complete

def calledAs : Operation → Option (ApprovalKind × ApproveAndExecute)
  | .approveAndExecuteAcceptActionRequest command => some (.accept, command)
  | .approveAndExecuteCompleteAction command => some (.transition .complete, command)
  | .approveAndExecuteCancelAction command => some (.transition .cancel, command)
  | .approveAndExecuteReopenAction command => some (.transition .reopen, command)
  | _ => none

def ApprovalKind.identity : ApprovalKind → ApprovalBusinessIdentity → CommandIdentity
  | .accept => .executeAccept
  | .transition kind => .executeAction kind

def CallsOwnKind (store : Store) (operation : Operation) : Prop :=
  ∀ {kind : ApprovalKind} {command : ApproveAndExecute}, calledAs operation = some (kind, command) →
    store.idem[command.context.idempotencyId]? = none → failureTarget store command.approval ≠ .unknown →
    filedAs (store.knownOperation command.approval.preparedId) = kind

theorem failureSignature_eq (store : Store) (approval : WorkManagementApproval) : failureSignature store approval =
    (filedAs (store.knownOperation approval.preparedId)).identity (approvalBusinessIdentity approval) := by
  unfold failureSignature failureIsAccept failureTransitionKind filedAs
  cases store.knownOperation approval.preparedId with
  | none => rfl
  | some operation => cases operation <;> rfl

variable [Sha256] {service : Service} {ports : Ports} {operation : Operation} {issue : Issue} {stored : Stored}
  {error : DomainError}

omit [Sha256] in
theorem execute_recorded {Outcome : Type} {cause : Except ActionServiceError (Staged Outcome)}
    {command : ApproveAndExecute} (fresh : service.store.idem[command.context.idempotencyId]? = none)
    (refused : (execute service ports command cause).2 = .error error)
    (found : (execute service ports command cause).1.store.idem[command.context.idempotencyId]? = some stored) :
    ∃ failure, stored.result = .terminal failure ∧ error = failure.error ∧ cause = .error failure.cause ∧
      stored.signature = failureSignature service.store command.approval ∧
      failureTarget service.store command.approval ≠ .unknown := by
  unfold execute at refused found
  rcases settled : settle service cause with ⟨shown, failure | outcome⟩
  · obtain ⟨same, origin⟩ := settle_error settled
    simp only [settled, failedActionExecution, same] at refused found
    rcases recorded : settle shown (failureRecording service.store ports command failure) with ⟨later, injected | ⟨⟩⟩
    · simp only [recorded, (settle_error recorded).1, same, fresh, reduceCtorEq] at found
    · simp only [recorded, Except.error.injEq] at refused found
      rcases settle_ok recorded with ⟨_, rfl⟩ | ⟨next, staged, became⟩
      · simp only [same, fresh, reduceCtorEq] at found
      · obtain ⟨_, _, _, _, facts⟩ : ∃ record target event changed,
            ApprovalFailed service.store ports command failure record target event changed next := by
          rcases staged with staged | staged
          all_goals
            rcases failureRecording_ok staged with replayed | ⟨_, _, _, _, _, committed, facts⟩
            · cases replayed
            · cases committed <;> exact ⟨_, _, _, _, facts⟩
        rw [became] at found refused
        have remembered := facts.stored.recorded.remembered
        cases found.symm.trans remembered
        refine ⟨_, rfl, ?_, ?_, rfl, ?_⟩
        · rw [← refused, domainError_terminal remembered rfl]
        · rcases origin with origin | ⟨rfl, _⟩
          · exact origin
          · rcases facts.kept with ⟨impossible, _⟩ | ⟨impossible, _⟩ <;> cases impossible
        · intro unknown
          have reported := facts.reported
          rw [unknown] at reported
          cases reported
  · simp only [settled, reduceCtorEq] at refused

variable {context : ActionOperationContext} {preview : Except ActionServiceError WorkManagementPreparedIntent}

omit [Sha256] in
theorem prepare_recorded {actionId : ActionId} {signature : CommandIdentity}
    (fresh : service.store.idem[context.idempotencyId]? = none)
    (refused : (prepareActionTransition service ports actionId context signature
      (prepareStored service.store context signature preview)).2 = .error error)
    (found : (prepareActionTransition service ports actionId context signature
      (prepareStored service.store context signature preview)).1.store.idem[context.idempotencyId]? = some stored) :
    ∃ failure, stored.result = .terminal failure ∧ error = failure.error ∧ stored.signature = signature := by
  have anew : replayTerminalError service.store context.idempotencyId signature = .ok none := by
    simp [replayTerminalError, replay, fresh]
  simp only [prepareActionTransition, anew] at refused found
  rcases settled : settle service (prepareStored service.store context signature preview) with ⟨shown, failure | intent⟩
  · obtain ⟨same, _⟩ := settle_error settled
    simp only [settled, denied, same] at refused found
    split at refused
    next isDenial =>
      simp only [if_pos isDenial] at found
      rcases recorded : settle shown (recordH3Denial service.store ports actionId context signature
          (h3TerminalServiceCause (h3DenialCauseForAction service.store ports actionId failure))
          (h3DenialCauseForAction service.store ports actionId failure)) with ⟨later, injected | ⟨⟩⟩
      · simp only [recorded, (settle_error recorded).1, same, fresh, reduceCtorEq] at found
      · simp only [recorded, Except.error.injEq] at refused found
        rcases settle_ok recorded with ⟨_, rfl⟩ | ⟨next, staged, became⟩
        · simp only [same, fresh, reduceCtorEq] at found
        · obtain ⟨_, _, facts⟩ : ∃ denial event,
              PreparationDenied service.store ports actionId context signature failure denial event next := by
            rcases staged with staged | staged
            all_goals
              rcases recordH3Denial_ok isDenial staged with replayed | ⟨_, _, _, committed, facts⟩
              · cases replayed
              · cases committed <;> exact ⟨_, _, facts⟩
          rw [became] at found refused
          have remembered := facts.stored.recorded.remembered
          have explained := facts.explained
          cases found.symm.trans remembered
          refine ⟨_, rfl, ?_, rfl⟩
          rw [← refused, ← explained, domainError_terminal remembered rfl]
    next notDenial =>
      simp only [if_neg notDenial, same, fresh, reduceCtorEq] at found
  · simp only [settled, reduceCtorEq] at refused

omit [Sha256] in
theorem report_refused {Outcome : Type} {cause : Except ActionServiceError (Staged Outcome)}
    {wrap : Except DomainError Outcome → Response} {target : ErrorTarget}
    (succeeds : ∀ outcome, (wrap (.ok outcome)).succeeded = true)
    (refused : ((report context target (settle service cause)).map id wrap).2.succeeded = false) :
    ((report context target (settle service cause)).map id wrap).1.store = service.store := by
  rcases settled : settle service cause with ⟨shown, failure | outcome⟩
  · exact (settle_error settled).1
  · rw [settled] at refused
    exact absurd (succeeds outcome) (by rw [show (wrap (.ok outcome)).succeeded = false from refused]; decide)

/-- What a refused command remembers: the answer it gave, and that an approval under
another id than its context's was refused as a conflict. -/
structure RefusalRemembered (service : Service) (ports : Ports) (operation : Operation) (issue : Issue) : Prop where
  remembered : Remembers (step service ports operation).1.store operation issue (step service ports operation).2
  misnamed : issue.approvalId ≠ issue.key → ∃ stored failure,
    (step service ports operation).1.store.idem[issue.key]? = some stored ∧ stored.result = .terminal failure ∧
    failure.cause = .idempotencyConflict

theorem prepare_refused {actionId : ActionId} {signature : CommandIdentity}
    (stepped : step service ports operation = (prepareActionTransition service ports actionId context signature
      (prepareStored service.store context signature preview)).map id .prepared)
    (plain : signature.asIssued = signature)
    (replies : ∀ failure, operation.reply (.terminal failure) = some (.prepared (.error failure.error)))
    (fresh : service.store.idem[context.idempotencyId]? = none)
    (refused : (step service ports operation).2.succeeded = false)
    (found : (step service ports operation).1.store.idem[context.idempotencyId]? = some stored) :
    RefusalRemembered service ports operation (.of context signature) := by
  rw [stepped] at refused found
  rcases answer : prepareActionTransition service ports actionId context signature
      (prepareStored service.store context signature preview) with ⟨later, error | intent⟩
  · obtain ⟨failure, result, shown, signed⟩ := prepare_recorded fresh (congrArg Prod.snd answer) found
    refine ⟨?_, fun misnamed => absurd rfl misnamed⟩
    rw [stepped, answer]
    refine ⟨stored, by rw [answer] at found; exact found, signed ▸ plain, ?_⟩
    rw [result, replies, ← shown]
    rfl
  · rw [answer] at refused
    cases refused

theorem execute_refused {Outcome : Type} {cause : Except ActionServiceError (Staged Outcome)}
    {command : ApproveAndExecute} {kind : ApprovalKind} {wrap : Except DomainError Outcome → Response}
    (stepped : step service ports operation = (execute service ports command cause).map id wrap)
    (called : calledAs operation = some (kind, command)) (own : CallsOwnKind service.store operation)
    (succeeds : ∀ outcome, (wrap (.ok outcome)).succeeded = true)
    (replies : ∀ failure, operation.reply (.terminal failure) = some (wrap (.error failure.error)))
    (conflicts : command.approval.idempotencyId ≠ command.context.idempotencyId → cause = .error .idempotencyConflict)
    (fresh : service.store.idem[command.context.idempotencyId]? = none)
    (refused : (step service ports operation).2.succeeded = false)
    (found : (step service ports operation).1.store.idem[command.context.idempotencyId]? = some stored) :
    RefusalRemembered service ports operation (command.issue kind.identity) := by
  rw [stepped] at refused found
  rcases answer : execute service ports command cause with ⟨later, error | outcome⟩
  · obtain ⟨failure, result, shown, failed, signed, reported⟩ :=
      execute_recorded fresh (congrArg Prod.snd answer) found
    rw [failureSignature_eq, own called fresh reported] at signed
    rw [answer] at found
    constructor
    · rw [stepped, answer]
      refine ⟨stored, found, ?_, ?_⟩
      · rw [signed]
        cases kind <;> rfl
      · rw [result, replies, ← shown]
        rfl
    · intro misnamed
      rw [stepped, answer]
      refine ⟨stored, failure, found, result, ?_⟩
      exact (Except.error.inj (failed.symm.trans (conflicts misnamed)))
  · rw [answer] at refused
    exact absurd (succeeds outcome) (by rw [show (wrap (.ok outcome)).succeeded = false from refused]; decide)

/-- A failure that is remembered anew is the one that was answered, under the command
that it answered. -/
theorem step_refused (issued : operation.issue = some issue) (own : CallsOwnKind service.store operation)
    (fresh : service.store.idem[issue.key]? = none)
    (refused : (step service ports operation).2.succeeded = false)
    (found : (step service ports operation).1.store.idem[issue.key]? = some stored) :
    RefusalRemembered service ports operation issue := by
  have changes : (step service ports operation).1.store ≠ service.store := by
    intro same
    rw [same, fresh] at found
    cases found
  cases operation with
  | prepareCompleteAction command | prepareCancelAction command | prepareReopenAction command
  | prepareLowerActionClassification command =>
    cases issued
    exact prepare_refused rfl rfl (fun _ => rfl) fresh refused found
  | approveAndExecuteAcceptActionRequest command =>
    cases issued
    exact execute_refused rfl rfl own (fun _ => rfl) (fun _ => rfl) (fun misnamed => (misnamed_cause misnamed).1) fresh
      refused found
  | approveAndExecuteCompleteAction command =>
    cases issued
    exact execute_refused rfl rfl own (fun _ => rfl) (fun _ => rfl)
      (fun misnamed => (misnamed_cause misnamed).2.1 .complete) fresh refused found
  | approveAndExecuteCancelAction command =>
    cases issued
    exact execute_refused rfl rfl own (fun _ => rfl) (fun _ => rfl)
      (fun misnamed => (misnamed_cause misnamed).2.1 .cancel) fresh refused found
  | approveAndExecuteReopenAction command =>
    cases issued
    exact execute_refused rfl rfl own (fun _ => rfl) (fun _ => rfl)
      (fun misnamed => (misnamed_cause misnamed).2.1 .reopen) fresh refused found
  | discardPreparedIntent _ | commitDecisionStage _ => cases issued
  | injectNextCommitFailure => cases issued
  | _ => exact absurd (report_refused (fun _ => rfl) refused) changes

theorem step_misnamed {response : Response} {failure : ActionTerminalFailure}
    (issued : operation.issue = some issue) (misnamed : issue.approvalId ≠ issue.key)
    (found : service.store.idem[issue.key]? = some stored) (result : stored.result = .terminal failure)
    (conflict : failure.cause = .idempotencyConflict) (replied : operation.reply stored.result = some response) :
    step service ports operation = (service, response) := by
  have refuses : ∀ {Outcome : Type} {wrap : Except DomainError Outcome → Response} {command : ApproveAndExecute},
      service.store.idem[command.context.idempotencyId]? = some stored →
      (execute service ports command (.error .idempotencyConflict)).map id wrap =
        (service, wrap (.error failure.error)) := by
    intro Outcome wrap command found
    rw [execute_known found, ← conflict, domainError_terminal found result]
    rfl
  rw [result] at replied
  cases operation with
  | approveAndExecuteAcceptActionRequest command =>
    cases issued
    cases replied
    simp only [step, approveAndExecuteAcceptActionRequest, (misnamed_cause misnamed).1]
    exact refuses found
  | approveAndExecuteCompleteAction command =>
    cases issued
    cases replied
    simp only [step, approveAndExecuteCompleteAction, (misnamed_cause misnamed).2.1]
    exact refuses found
  | approveAndExecuteCancelAction command =>
    cases issued
    cases replied
    simp only [step, approveAndExecuteCancelAction, (misnamed_cause misnamed).2.1]
    exact refuses found
  | approveAndExecuteReopenAction command =>
    cases issued
    cases replied
    simp only [step, approveAndExecuteReopenAction, (misnamed_cause misnamed).2.1]
    exact refuses found
  | approveAndExecuteLowerActionClassification command => cases replied
  | _ => cases issued <;> exact absurd rfl misnamed

theorem misnamed_refused (issued : operation.issue = some issue) (misnamed : issue.approvalId ≠ issue.key) :
    (step service ports operation).2.succeeded = false := by
  have refuses : ∀ {Outcome : Type} {wrap : Except DomainError Outcome → Response} {command : ApproveAndExecute},
      (∀ error, (wrap (.error error)).succeeded = false) →
      ((execute service ports command (.error .idempotencyConflict)).map id wrap).2.succeeded = false := by
    intro Outcome wrap command fails
    simp only [execute, settle, failedActionExecution]
    split <;> exact fails _
  cases operation with
  | approveAndExecuteAcceptActionRequest command =>
    cases issued
    simp only [step, approveAndExecuteAcceptActionRequest, (misnamed_cause misnamed).1]
    exact refuses fun _ => rfl
  | approveAndExecuteCompleteAction command =>
    cases issued
    simp only [step, approveAndExecuteCompleteAction, (misnamed_cause misnamed).2.1]
    exact refuses fun _ => rfl
  | approveAndExecuteCancelAction command =>
    cases issued
    simp only [step, approveAndExecuteCancelAction, (misnamed_cause misnamed).2.1]
    exact refuses fun _ => rfl
  | approveAndExecuteReopenAction command =>
    cases issued
    simp only [step, approveAndExecuteReopenAction, (misnamed_cause misnamed).2.1]
    exact refuses fun _ => rfl
  | approveAndExecuteLowerActionClassification command =>
    cases issued
    simp only [step, approveAndExecuteLowerActionClassification, (misnamed_cause misnamed).2.2]
    rfl
  | _ => cases issued <;> exact absurd rfl misnamed

end MissionControl.Replay

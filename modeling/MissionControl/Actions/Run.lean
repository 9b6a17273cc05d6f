import MissionControl.Actions.Recording

/-! The public operations of the Action service and their runs. A step is one
operation together with what its ports answered during it. -/

namespace MissionControl.Actions

structure Service where
  store : Store
  failNextCommit : Bool

def Service.new : Service := ⟨.empty, false⟩

/-- Commits what a command staged, unless a commit failure was injected. Placing a
preview does not pass through the commit. -/
def settle {Outcome : Type} (service : Service) (cause : Except ActionServiceError (Staged Outcome)) :
    Service × Except ActionServiceError Outcome :=
  match cause with
  | .error cause => (service, .error cause)
  | .ok (.replayed outcome) => (service, .ok outcome)
  | .ok (.placed outcome store) => ({ service with store }, .ok outcome)
  | .ok (.committed outcome store) =>
    if service.failNextCommit then ({ service with failNextCommit := false }, .error .infrastructureFailure)
    else ({ service with store }, .ok outcome)

def report {Outcome : Type} (context : ActionOperationContext) (target : ErrorTarget)
    (settled : Service × Except ActionServiceError Outcome) : Service × Except DomainError Outcome :=
  match settled with
  | (service, .ok outcome) => (service, .ok outcome)
  | (service, .error cause) => (service, .error (domainError service.store cause context target))

def createActionRequestDraft (service : Service) (ports : Ports) (command : CreateActionRequestDraft) :=
  report command.context (.request command.id)
    (settle service (createActionRequestDraftCause service.store ports command))

def submitActionRequest (service : Service) (ports : Ports) (command : SubmitActionRequest) :=
  report command.context (.request command.requestId)
    (settle service (submitActionRequestCause service.store ports command))

def declineActionRequest (service : Service) (ports : Ports) (command : DeclineActionRequest) :=
  report command.context (.request command.requestId)
    (settle service (declineActionRequestCause service.store ports command))

def withdrawActionRequest (service : Service) (ports : Ports) (command : WithdrawActionRequest) :=
  report command.context (.request command.requestId)
    (settle service (withdrawActionRequestCause service.store ports command))

def startAction (service : Service) (ports : Ports) (command : StartAction) :=
  report command.context (.action command.actionId)
    (settle service (startActionCause service.store ports command))

def rejectActionPreparedIntent (service : Service) (ports : Ports) (command : RejectActionPreparedIntent) :=
  report command.context (preparedIntentErrorTarget service.store command.preparedId)
    (settle service (rejectActionPreparedIntentCause service.store ports command))

def linkActionCompletionEvidence (service : Service) (ports : Ports) (command : LinkActionCompletionEvidence) :=
  report command.context (.action command.actionId)
    (settle service (linkActionCompletionEvidenceCause service.store ports command))

def prepareAcceptActionRequest (service : Service) (ports : Ports) (command : PrepareAcceptActionRequest) :=
  report command.context (.request command.requestId)
    (settle service (prepareAcceptActionRequestCause service.store ports command))

def denied (service : Service) (ports : Ports) (actionId : ActionId) (context : ActionOperationContext)
    (signature : CommandIdentity) (cause : ActionServiceError) :
    Service × Except DomainError WorkManagementPreparedIntent :=
  if isH3Denial cause then
    let denial := h3DenialCauseForAction service.store ports actionId cause
    match settle service (recordH3Denial service.store ports actionId context signature
        (h3TerminalServiceCause denial) denial) with
    | (service, .error auditCause) =>
      (service, .error (domainError service.store auditCause context (.action actionId)))
    | (service, .ok ()) =>
      (service, .error (domainError service.store (h3TerminalServiceCause denial) context (.action actionId)))
  else (service, .error (domainError service.store cause context (.action actionId)))

def prepareActionTransition (service : Service) (ports : Ports) (actionId : ActionId)
    (context : ActionOperationContext) (signature : CommandIdentity)
    (cause : Except ActionServiceError (Staged WorkManagementPreparedIntent)) :
    Service × Except DomainError WorkManagementPreparedIntent :=
  match replayTerminalError service.store context.idempotencyId signature with
  | .ok (some error) => (service, .error error)
  | .error cause => (service, .error (domainError service.store cause context (.action actionId)))
  | .ok none =>
    match settle service cause with
    | (service, .ok intent) => (service, .ok intent)
    | (service, .error cause) => denied service ports actionId context signature cause

def prepareCompleteAction (service : Service) (ports : Ports) (command : PrepareCompleteAction) :=
  prepareActionTransition service ports command.actionId command.context command.identity
    (prepareCompleteActionCause service.store ports command)

def prepareCancelAction (service : Service) (ports : Ports) (command : PrepareCancelAction) :=
  prepareActionTransition service ports command.actionId command.context command.identity
    (prepareCancelActionCause service.store ports command)

def prepareReopenAction (service : Service) (ports : Ports) (command : PrepareReopenAction) :=
  prepareActionTransition service ports command.actionId command.context command.identity
    (prepareReopenActionCause service.store ports command)

def prepareLowerActionClassification (service : Service) (ports : Ports)
    (command : PrepareLowerActionClassification) :=
  prepareActionTransition service ports command.actionId command.context command.identity
    (prepareLowerActionClassificationCause service.store ports command)

def failureRecording (store : Store) (ports : Ports) (command : ApproveAndExecute) (cause : ActionServiceError) :
    Except ActionServiceError (Staged Unit) :=
  if isRetryableExecutionFailure cause then
    if cause = .preparedIntentChanged then
      recordRetryablePreviewFailure store ports command.approval command.context cause
    else .ok (.replayed ())
  else recordH2Failure store ports command.approval command.context cause

def failedActionExecution {Outcome : Type} (service : Service) (ports : Ports) (command : ApproveAndExecute)
    (cause : ActionServiceError) : Service × Except DomainError Outcome :=
  match settle service (failureRecording service.store ports command cause) with
  | (service, .error auditCause) =>
    (service, .error (domainError service.store auditCause command.context
      (failureTarget service.store command.approval)))
  | (service, .ok ()) =>
    (service, .error (domainError service.store cause command.context
      (failureTarget service.store command.approval)))

def execute {Outcome : Type} (service : Service) (ports : Ports) (command : ApproveAndExecute)
    (cause : Except ActionServiceError (Staged Outcome)) : Service × Except DomainError Outcome :=
  match settle service cause with
  | (service, .ok outcome) => (service, .ok outcome)
  | (service, .error cause) => failedActionExecution service ports command cause

section
variable [Sha256]

def approveAndExecuteAcceptActionRequest (service : Service) (ports : Ports) (command : ApproveAndExecute) :=
  execute service ports command (approveAndExecuteAcceptActionRequestCause service.store ports command)

def approveAndExecuteCompleteAction (service : Service) (ports : Ports) (command : ApproveAndExecute) :=
  execute service ports command (executeH2 service.store ports .complete command)

def approveAndExecuteCancelAction (service : Service) (ports : Ports) (command : ApproveAndExecute) :=
  execute service ports command (executeH2 service.store ports .cancel command)

def approveAndExecuteReopenAction (service : Service) (ports : Ports) (command : ApproveAndExecute) :=
  execute service ports command (executeH2 service.store ports .reopen command)

/-- A failed lowering is not remembered; it is validated again when retried. -/
def approveAndExecuteLowerActionClassification (service : Service) (ports : Ports) (command : ApproveAndExecute) :=
  let settled := settle service (approveAndExecuteLowerActionClassificationCause service.store ports command)
  report command.context (failureTarget settled.1.store command.approval) settled

end

def commitDecisionStage (service : Service) (commands : List (Ports × DecisionStageCommand)) :
    Service × Except ActionServiceError Unit :=
  settle service (.ok (.committed () (commands.foldl
    (fun stage command => stageDecisionCommand stage command.1 command.2) service.store)))

inductive Operation where
  | createActionRequestDraft (command : CreateActionRequestDraft)
  | submitActionRequest (command : SubmitActionRequest)
  | declineActionRequest (command : DeclineActionRequest)
  | withdrawActionRequest (command : WithdrawActionRequest)
  | startAction (command : StartAction)
  | linkActionCompletionEvidence (command : LinkActionCompletionEvidence)
  | prepareAcceptActionRequest (command : PrepareAcceptActionRequest)
  | prepareCompleteAction (command : PrepareCompleteAction)
  | prepareCancelAction (command : PrepareCancelAction)
  | prepareReopenAction (command : PrepareReopenAction)
  | prepareLowerActionClassification (command : PrepareLowerActionClassification)
  | approveAndExecuteAcceptActionRequest (command : ApproveAndExecute)
  | approveAndExecuteCompleteAction (command : ApproveAndExecute)
  | approveAndExecuteCancelAction (command : ApproveAndExecute)
  | approveAndExecuteReopenAction (command : ApproveAndExecute)
  | approveAndExecuteLowerActionClassification (command : ApproveAndExecute)
  | rejectActionPreparedIntent (command : RejectActionPreparedIntent)
  | discardPreparedIntent (id : PreparedIntentId)
  | commitDecisionStage (commands : List (Ports × DecisionStageCommand))
  | injectNextCommitFailure

inductive Response where
  | request (result : Except DomainError (ActionMutationOutcome ActionRequestRecord))
  | action (result : Except DomainError (ActionMutationOutcome ActionRecord))
  | prepared (result : Except DomainError WorkManagementPreparedIntent)
  | accepted (result : Except DomainError AcceptedActionOutcome)
  | rejected (result : Except DomainError RejectedPreparedIntentOutcome)
  | discarded (existed : Bool)
  | staged (result : Except ActionServiceError Unit)
  | done

def step [Sha256] (service : Service) (ports : Ports) : Operation → Service × Response
  | .createActionRequestDraft command => (createActionRequestDraft service ports command).map id .request
  | .submitActionRequest command => (submitActionRequest service ports command).map id .request
  | .declineActionRequest command => (declineActionRequest service ports command).map id .request
  | .withdrawActionRequest command => (withdrawActionRequest service ports command).map id .request
  | .startAction command => (startAction service ports command).map id .action
  | .linkActionCompletionEvidence command => (linkActionCompletionEvidence service ports command).map id .action
  | .prepareAcceptActionRequest command => (prepareAcceptActionRequest service ports command).map id .prepared
  | .prepareCompleteAction command => (prepareCompleteAction service ports command).map id .prepared
  | .prepareCancelAction command => (prepareCancelAction service ports command).map id .prepared
  | .prepareReopenAction command => (prepareReopenAction service ports command).map id .prepared
  | .prepareLowerActionClassification command =>
    (prepareLowerActionClassification service ports command).map id .prepared
  | .approveAndExecuteAcceptActionRequest command =>
    (approveAndExecuteAcceptActionRequest service ports command).map id .accepted
  | .approveAndExecuteCompleteAction command => (approveAndExecuteCompleteAction service ports command).map id .action
  | .approveAndExecuteCancelAction command => (approveAndExecuteCancelAction service ports command).map id .action
  | .approveAndExecuteReopenAction command => (approveAndExecuteReopenAction service ports command).map id .action
  | .approveAndExecuteLowerActionClassification command =>
    (approveAndExecuteLowerActionClassification service ports command).map id .action
  | .rejectActionPreparedIntent command => (rejectActionPreparedIntent service ports command).map id .rejected
  | .discardPreparedIntent id =>
    ({ service with store := (discardPreparedIntent service.store id).2 },
      .discarded (discardPreparedIntent service.store id).1)
  | .commitDecisionStage commands => (commitDecisionStage service commands).map id .staged
  | .injectNextCommitFailure => ({ service with failNextCommit := true }, .done)

abbrev Script := List (Ports × Operation)

def runFrom [Sha256] (service : Service) (script : Script) : Service :=
  script.foldl (fun service event => (step service event.1 event.2).1) service

def run [Sha256] (script : Script) : Service := runFrom .new script

end MissionControl.Actions

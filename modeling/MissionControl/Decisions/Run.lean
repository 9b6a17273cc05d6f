import MissionControl.Decisions.Execution

/-! The public operations of the Decision service, next to the Action service each of
them is given, and the runs of both services together. -/

namespace MissionControl.Decisions
open Checked Staging

def report {Outcome : Type} (context : DecisionOperationContext)
    (settled : Service × Except DecisionError Outcome) : Service × Except DomainError Outcome :=
  (settled.1, relabel (fun cause => domainError cause context) settled.2)

def failureAudit (ports : Ports) (target : AuditTarget) (code : String) (context : DecisionOperationContext)
    (outcomes : AuditPolicyOutcome × AuditApprovalOutcome × AuditExecutionOutcome) :
    Except DecisionError AuditEvent := do
  let disposition ← relabel (fun _ => .infrastructure)
    (AuditDisposition.new outcomes.1 outcomes.2.1 outcomes.2.2 .none [])
  let id ← require .infrastructure (ports.nextAuditEventId .failure)
  let event ← relabel (fun _ => .infrastructure) (CodeText.parse 96 code)
  return .new id (ports.now (.audit .failure)) .headOfProducts ⟨.workManagement, event, target⟩
    context.correlationId disposition

/-- A denied preparation is recorded before it is answered. -/
def reportPreparation (service : Service) (ports : Ports) (target : AuditTarget) (context : DecisionOperationContext)
    (decided : Except DecisionError (Staged Store WorkManagementPreparedIntent)) :
    Service × Except DomainError WorkManagementPreparedIntent :=
  match settle .infrastructure service decided with
  | (service, .ok intent) => (service, .ok intent)
  | (service, .error cause) =>
    if isH3Denial cause then
      match failureAudit ports target "decision.prepare_denied" context (.denied, .notRequired, .notAttempted) with
      | .error auditCause => (service, .error (domainError auditCause context))
      | .ok event =>
        ({ service with state := { service.state with audits := service.state.audits ++ [event] } },
          .error (domainError cause context))
    else (service, .error (domainError cause context))

def deniesApproval : DecisionError → Bool
  | .policyDenied | .supportDenied | .evidenceUnavailable | .unauthorized => true
  | _ => false

def approvalFailureOutcomes (cause : DecisionError) :
    AuditPolicyOutcome × AuditApprovalOutcome × AuditExecutionOutcome :=
  if deniesApproval cause then (.denied, .notRequired, .notAttempted)
  else if cause = .infrastructure then (.allowed, .approved, .failed)
  else (.allowed, .rejected, .notAttempted)

def approvalFailureCode (cause : DecisionError) : String :=
  if deniesApproval cause then "decision.approval_denied"
  else if cause = .infrastructure then "decision.execution_failed"
  else "decision.approval_rejected"

/-- The service stores no previews of other operations than these three. -/
def preparedTarget : WorkManagementOperation → Option AuditTarget
  | .resolveDecisionRequest requestId .. => some (.decisionRequest requestId)
  | .supersedeDecision decisionId .. | .lowerDecisionClassification decisionId .. => some (.decision decisionId)
  | _ => none

def recordH2Failure (state : Store) (ports : Ports) (approval : WorkManagementApproval)
    (context : DecisionOperationContext) (cause : DecisionError) : Except DecisionError Store :=
  match state.prepared[approval.preparedId]?.bind fun intent => preparedTarget intent.operation with
  | none => .ok state
  | some target => do
    let event ← failureAudit ports target (approvalFailureCode cause) context (approvalFailureOutcomes cause)
    return { state with audits := state.audits ++ [event] }

def failedApproval {Outcome : Type} (service : Service) (ports : Ports) (command : ApproveAndExecute)
    (cause : DecisionError) : Service × Except DomainError Outcome :=
  match recordH2Failure service.state ports command.approval command.context cause with
  | .error auditCause => (service, .error (domainError auditCause command.context))
  | .ok state => ({ service with state }, .error (domainError cause command.context))

/-- Puts both stores in place, unless the Action service or the Decision service was
told to fail its next commit. -/
def settlePair {Outcome : Type} (service : Service) (actions : Actions.Service)
    (decided : Except DecisionError (Staged Pair Outcome)) :
    (Service × Actions.Service) × Except DecisionError Outcome :=
  match decided with
  | .error cause => ((service, actions), .error cause)
  | .ok (.replayed outcome) => ((service, actions), .ok outcome)
  | .ok (.committed outcome next) | .ok (.placed outcome next) =>
    if actions.failNextCommit then ((service, { actions with failNextCommit := false }), .error .infrastructure)
    else if service.failNextCommit then (({ service with failNextCommit := false }, actions), .error .infrastructure)
    else (({ service with state := next.decisions }, { actions with store := next.actions }), .ok outcome)

def settleApproval {Outcome : Type} (service : Service) (actions : Actions.Service) (ports : Ports)
    (command : ApproveAndExecute) (decided : Except DecisionError (Staged Pair Outcome)) :
    (Service × Actions.Service) × Except DomainError Outcome :=
  match settlePair service actions decided with
  | (services, .ok outcome) => (services, .ok outcome)
  | ((service, actions), .error cause) =>
    let (service, result) := failedApproval service ports command cause
    ((service, actions), result)

def discardPreparedIntent (state : Store) (id : PreparedIntentId) : Bool × Store :=
  match state.prepared[id]? with
  | none => (false, state)
  | some _ => (true,
      { state with
        prepared := state.prepared.erase id
        idem := state.idem.filter fun _ answer => !answer.2.prepared?.any (·.id = id) })

section
variable [Sha256]

def approveAndExecuteResolveDecisionRequest (service : Service) (actions : Actions.Service) (ports : Ports)
    (actionPorts : Nat → Actions.Ports) (command : ApproveAndExecute) :=
  settleApproval service actions ports command
    (executeResolve service.state actions.store ports actionPorts command)

def approveAndExecuteSupersedeDecision (service : Service) (actions : Actions.Service) (ports : Ports)
    (actionPorts : Nat → Actions.Ports) (command : ApproveAndExecute) :=
  settleApproval service actions ports command
    (executeSupersede service.state actions.store ports actionPorts command)

def approveAndExecuteLowerDecisionClassification (service : Service) (ports : Ports) (command : ApproveAndExecute) :
    Service × Except DomainError (DecisionMutationOutcome DecisionRecord) :=
  match settle .infrastructure service (executeLowerDecisionClassification service.state ports command) with
  | (service, .ok outcome) => (service, .ok outcome)
  | (service, .error cause) => failedApproval service ports command cause

inductive Operation where
  | createDecisionRequestDraft (command : CreateDecisionRequestDraft)
  | submitDecisionRequest (command : SubmitDecisionRequest)
  | withdrawDecisionRequest (command : WithdrawDecisionRequest)
  | prepareResolveDecisionRequest (command : PrepareResolveDecisionRequest)
  | prepareSupersedeDecision (command : PrepareSupersedeDecision)
  | prepareLowerDecisionClassification (command : PrepareLowerDecisionClassification)
  | approveAndExecuteResolveDecisionRequest (command : ApproveAndExecute)
  | approveAndExecuteSupersedeDecision (command : ApproveAndExecute)
  | approveAndExecuteLowerDecisionClassification (command : ApproveAndExecute)
  | rejectDecisionPreparedIntent (command : RejectDecisionPreparedIntent)
  | discardPreparedIntent (id : PreparedIntentId)
  | injectNextCommitFailure

inductive Response where
  | request (result : Except DomainError (DecisionMutationOutcome DecisionRequestRecord))
  | prepared (result : Except DomainError WorkManagementPreparedIntent)
  | resolved (result : Except DomainError ResolvedDecisionOutcome)
  | superseded (result : Except DomainError SupersededDecisionOutcome)
  | lowered (result : Except DomainError (DecisionMutationOutcome DecisionRecord))
  | rejected (result : Except DomainError Actions.RejectedPreparedIntentOutcome)
  | discarded (existed : Bool)
  | done

def beside {Outcome : Type} (actions : Actions.Service) (respond : Outcome → Response)
    (answer : Service × Outcome) : (Service × Actions.Service) × Response :=
  ((answer.1, actions), respond answer.2)

def step (service : Service) (actions : Actions.Service) (ports : Ports) (actionPorts : Nat → Actions.Ports) :
    Operation → (Service × Actions.Service) × Response
  | .createDecisionRequestDraft command =>
    beside actions .request
      (report command.context (settle .infrastructure service (createCause service.state ports command)))
  | .submitDecisionRequest command =>
    beside actions .request
      (report command.context (settle .infrastructure service (transition service.state ports command.transition)))
  | .withdrawDecisionRequest command =>
    beside actions .request
      (report command.context (settle .infrastructure service (transition service.state ports command.transition)))
  | .prepareResolveDecisionRequest command =>
    beside actions .prepared (reportPreparation service ports (.decisionRequest command.requestId) command.context
      (prepareResolve service.state ports command))
  | .prepareSupersedeDecision command =>
    beside actions .prepared (reportPreparation service ports (.decision command.decisionId) command.context
      (prepareSupersede service.state actions.store ports command))
  | .prepareLowerDecisionClassification command =>
    beside actions .prepared
      (report command.context (settle .infrastructure service (prepareLower service.state ports command)))
  | .approveAndExecuteResolveDecisionRequest command =>
    (approveAndExecuteResolveDecisionRequest service actions ports actionPorts command).map id .resolved
  | .approveAndExecuteSupersedeDecision command =>
    (approveAndExecuteSupersedeDecision service actions ports actionPorts command).map id .superseded
  | .approveAndExecuteLowerDecisionClassification command =>
    beside actions .lowered (approveAndExecuteLowerDecisionClassification service ports command)
  | .rejectDecisionPreparedIntent command =>
    beside actions .rejected
      (report command.context (settle .infrastructure service (rejectCause service.state ports command)))
  | .discardPreparedIntent id =>
    beside actions .discarded
      ({ service with state := (discardPreparedIntent service.state id).2 }, (discardPreparedIntent service.state id).1)
  | .injectNextCommitFailure => beside actions (fun _ => .done) ({ service with failNextCommit := true }, ())

end

/-- An operation of the Decision service with what its surroundings answered and the
Action service it was given. -/
structure Call where
  actions : Actions.Service
  ports : Ports
  actionPorts : Nat → Actions.Ports
  operation : Operation

def Service.new : Service := ⟨.empty, false⟩

variable [Sha256]

def run (script : List Call) : Service :=
  script.foldl (fun service call => (step service call.actions call.ports call.actionPorts call.operation).1.1) .new

theorem run_snoc (script : List Call) (call : Call) :
    run (script ++ [call]) = (step (run script) call.actions call.ports call.actionPorts call.operation).1.1 := by
  simp [run]

end MissionControl.Decisions

import MissionControl.Issues.Record

/-! The commands of the in-memory Issue service. What is outside the service, the
clock, the id source and the authorities, answers through the ports. -/

namespace MissionControl.Issues
open Checked Staging

inductive IssueExecutionPolicy where
  | allowed | denied
  deriving DecidableEq

inductive IssueEvidenceAuthorityError where
  | unavailable | notFound

/-- The places where a command reads the clock. -/
inductive Reading where
  | preparation | minting | rejection | audit | failure

inductive AuditSlot where
  | record | failure

/-- What a command's surroundings answer. Evidence is asked for by its place in the
command's list, since a list may name one reference twice. -/
structure Ports where
  now : Reading → UtcTimestamp
  nextPreparedIntentId : Option PreparedIntentId
  nextApprovalReceiptId : Option ApprovalReceiptId
  nextAuditEventId : AuditSlot → Option AuditEventId
  authorize : AuditActor → Bool
  currentPolicy : WorkManagementOperation → IssueExecutionPolicy
  resolve : Nat → EvidenceReferenceId → Except IssueEvidenceAuthorityError EvidenceReferenceMetadata
  currentClassification : IssueId → DataClassification → Except IssueEvidenceAuthorityError DataClassification

def makeAudit {ε : Type} (failure : ε) (ports : Ports) (id : IssueId) (code : String)
    (context : IssueOperationContext) (h2 effect : Bool) : Except ε AuditEvent := do
  let auditId ← require failure (ports.nextAuditEventId .record)
  let event ← relabel (fun _ => failure) (CodeText.parse 96 code)
  let disposition ← relabel (fun _ => failure)
    (AuditDisposition.new .allowed (if h2 then .approved else .notRequired) .succeeded
      (if effect then .complete else .none) (if effect then [event] else []))
  return .new auditId (ports.now .audit) .headOfProducts ⟨.workManagement, event, .issue id⟩
    context.correlationId disposition

def failureOutcomes : Failure → AuditPolicyOutcome × AuditApprovalOutcome × AuditExecutionOutcome
  | .policyDenied => (.denied, .notRequired, .notAttempted)
  | .infrastructure | .evidenceUnavailable => (.allowed, .approved, .failed)
  | .unauthorized | .evidence | .changed | .idempotency | .prepareEvidenceUnavailable =>
    (.allowed, .rejected, .notAttempted)

def unknownIssue : IssueId := ⟨"issue-unknown", by decide⟩

def failureAudit (own : IssueStateStore) (ports : Ports) (target : Option IssueId) (code : AuditEventCode)
    (context : IssueOperationContext) (failure : Failure) : Except DomainError IssueStateStore := do
  let auditId ← require (infrastructureError context) (ports.nextAuditEventId .failure)
  let (policy, approval, execution) := failureOutcomes failure
  let disposition ← relabel (fun _ => infrastructureError context)
    (AuditDisposition.new policy approval execution .none [])
  let event := AuditEvent.new auditId (ports.now .failure) .headOfProducts
    ⟨.workManagement, code, .issue (target.getD unknownIssue)⟩ context.correlationId disposition
  return { own with audits := own.audits ++ [event] }

/-- A failure is answered once it has been recorded, or with what kept it from that. -/
def failed {Outcome : Type} (service : Service) (ports : Ports) (target : Option IssueId) (code : AuditEventCode)
    (context : IssueOperationContext) (failure : Failure) : Service × Except DomainError Outcome :=
  match failureAudit service.state.own ports target code context failure with
  | .error error => (service, .error error)
  | .ok own => ({ service with state := { service.state with own } }, .error (mapFailure failure context))

def Stored.mutation? : Stored → Option IssueMutationOutcome
  | .mutation outcome => some outcome
  | _ => none

def Stored.prepared? : Stored → Option WorkManagementPreparedIntent
  | .prepared intent => some intent
  | _ => none

def CreateIssue.identity (command : CreateIssue) : Identity :=
  .create command.id command.title command.details command.classification command.recurrenceOf

def recurrenceClassification (authority : IssueStore) (ports : Ports) (command : CreateIssue) :
    Except DomainError DataClassification :=
  match command.recurrenceOf with
  | none => .ok command.classification
  | some old =>
    match authority.get old with
    | none => .error (notFoundError command.context)
    | some issue =>
      if issue.state = .closed then
        match ports.currentClassification old issue.classification with
        | .error _ => .error (infrastructureError command.context)
        | .ok source => .ok (command.classification.combine source)
      else .error (lifecycleError authority old command.context)

def createdRecord (command : CreateIssue) (classification : DataClassification) : IssueRecord :=
  .new command.id command.title command.details classification none command.recurrenceOf

def IssueStateStore.record (own : IssueStateStore) (context : IssueOperationContext) (signature : Identity)
    (outcome : IssueMutationOutcome) : IssueStateStore :=
  { own with
    audits := own.audits ++ outcome.auditEvents
    idem := own.idem.insert context.idempotencyId (signature, .mutation outcome) }

def stageCreate (state : State) (ports : Ports) (command : CreateIssue) :
    Except DomainError (Staged State IssueMutationOutcome) :=
  let context := command.context
  orReplay Stored.mutation?
      (replay (idempotencyConflict context) state.own.idem context.idempotencyId command.identity) do
    ensure (command.classification ≠ .unclassified)
      (error .validationInvalidField ⟨"issue.classification_required", by decide⟩ context false)
    ensure (state.authority.get command.id = none) (error .domainConflict ⟨"issue.exists", by decide⟩ context false)
    let effective ← recurrenceClassification state.authority ports command
    ensure (effective ≠ .unclassified)
      (error .securityPolicyDenied ⟨"issue.classification_required", by decide⟩ context false)
    let record := createdRecord command effective
    let event ← makeAudit (infrastructureError context) ports command.id "issue.created" context false true
    let outcome : IssueMutationOutcome := ⟨record, [event], none⟩
    return .committed outcome
      ⟨state.authority.insertFromRisk record, state.own.record context command.identity outcome⟩

def createIssue (service : Service) (ports : Ports) (command : CreateIssue) :=
  settle (infrastructureError command.context) service (stageCreate service.state ports command)

/-- What resolving, closing and reopening each ask of the Issue and of the evidence. -/
structure IssueTransition where
  issueId : IssueId
  issueVersion : AggregateVersion
  required : IssueState
  next : IssueState
  role : EvidenceRole

def issueTransition : WorkManagementOperation → Option IssueTransition
  | .resolveIssue issueId issueVersion .. => some ⟨issueId, issueVersion, .open, .resolved, .issueResolution⟩
  | .closeIssue issueId issueVersion => some ⟨issueId, issueVersion, .resolved, .closed, .issueClosureVerification⟩
  | .reopenIssue issueId issueVersion .. => some ⟨issueId, issueVersion, .resolved, .open, .issueFailedVerification⟩
  | _ => none

def resolveEvidence (ports : Ports) (role : EvidenceRole) (index : Nat) (id : EvidenceReferenceId) :
    Except Failure EvidenceReferenceMetadata := do
  let found ← relabel
    (fun error => match error with
      | .unavailable => .evidenceUnavailable
      | .notFound => .evidence)
    (ports.resolve index id)
  ensure (found.id = id ∧ found.role = role) .evidence
  return found

def support (ports : Ports) (ids : List EvidenceReferenceId) (judgments : List HumanJudgment) (role : EvidenceRole) :
    Except Failure SupportWitness := do
  let metadata ← ids.zipIdx.mapM fun (id, index) => resolveEvidence ports role index id
  ensure (metadata ≠ []) .evidence
  let offered ← relabel (fun _ => .evidence) (EvidenceOrJudgment.new metadata judgments)
  relabel (fun _ => .evidence) offered.evaluateEvidenceRequired

/-- Some previews are refused without a trace, others are denied and recorded. -/
inductive Refusal where
  | refused (error : DomainError)
  | denied (failure : Failure)

def previewFailure (failure : Failure) : Refusal :=
  .denied (if failure = .evidenceUnavailable then .prepareEvidenceUnavailable else failure)

def transitionPreview (authority : IssueStore) (ports : Ports) (operation : WorkManagementOperation)
    (evidenceIds : List EvidenceReferenceId) (judgment : Option HumanJudgment) (context : IssueOperationContext) :
    Except Refusal WorkManagementPreparedIntent := do
  -- only the three transitions are ever previewed here
  let transition ← require (.refused (invalidIntent context)) (issueTransition operation)
  let issue ← require (.refused (notFoundError context)) (authority.get transition.issueId)
  ensure (issue.version = transition.issueVersion ∧ issue.state = transition.required)
    (.refused (lifecycleError authority transition.issueId context))
  let support ← relabel previewFailure (support ports evidenceIds judgment.toList transition.role)
  let authoritative ← relabel (fun _ => .denied .infrastructure)
    (ports.currentClassification transition.issueId issue.classification)
  let classification := issue.classification.combine authoritative
  ensure (classification ≠ .unclassified) (.denied .evidence)
  ensure (ports.currentPolicy operation = .allowed) (.denied .policyDenied)
  let id ← require (.refused (infrastructureError context)) ports.nextPreparedIntentId
  relabel (fun _ => .refused (invalidIntent context))
    (WorkManagementPreparedIntent.prepare id operation classification (some support) (ports.now .preparation))

/-- The state once a preview is pending. -/
def State.place (state : State) (context : IssueOperationContext) (signature : Identity)
    (intent : WorkManagementPreparedIntent) : State :=
  { state with own :=
      { state.own with
        prepared := state.own.prepared.insert intent.id intent
        idem := state.own.idem.insert context.idempotencyId (signature, .prepared intent) } }

def stagePreview {ε : Type} (conflict : ε) (state : State) (context : IssueOperationContext) (signature : Identity)
    (preview : Except ε WorkManagementPreparedIntent) : Except ε (Staged State WorkManagementPreparedIntent) :=
  orReplay Stored.prepared? (replay conflict state.own.idem context.idempotencyId signature) do
    let intent ← preview
    return .placed intent (state.place context signature intent)

def prepareDenied : AuditEventCode := ⟨"issue.prepare_denied", by decide⟩
def executeDenied : AuditEventCode := ⟨"issue.execute_denied", by decide⟩

def prepare (service : Service) (ports : Ports) (operation : WorkManagementOperation)
    (evidenceIds : List EvidenceReferenceId) (judgment : Option HumanJudgment) (context : IssueOperationContext) :
    Service × Except DomainError WorkManagementPreparedIntent :=
  let staged := stagePreview (.refused (idempotencyConflict context)) service.state context
    (.prepare operation evidenceIds judgment)
    (transitionPreview service.state.authority ports operation evidenceIds judgment context)
  match settle (.refused (infrastructureError context)) service staged with
  | (service, .ok intent) => (service, .ok intent)
  | (service, .error (.refused error)) => (service, .error error)
  | (service, .error (.denied failure)) =>
    failed service ports ((issueTransition operation).map (·.issueId)) prepareDenied context failure

def prepareResolveIssue (service : Service) (ports : Ports) (command : PrepareResolveIssue) :=
  prepare service ports
    (.resolveIssue command.issueId command.expectedVersion command.resolutionType command.rationale)
    command.evidenceIds command.judgment command.context

def prepareCloseIssue (service : Service) (ports : Ports) (command : PrepareCloseIssue) :=
  prepare service ports (.closeIssue command.issueId command.expectedVersion) command.evidenceIds command.judgment
    command.context

def prepareReopenIssue (service : Service) (ports : Ports) (command : PrepareReopenIssue) :=
  prepare service ports (.reopenIssue command.issueId command.expectedVersion command.rationale) command.evidenceIds
    command.judgment command.context

def loweringPreview (authority : IssueStore) (ports : Ports) (command : PrepareLowerIssueClassification) :
    Except DomainError WorkManagementPreparedIntent := do
  let context := command.context
  let issue ← require (notFoundError context) (authority.get command.issueId)
  ensure (issue.version = command.expectedVersion) (lifecycleError authority command.issueId context)
  ensure (Actions.isGenuineLowering issue.classification command.proposedClassification)
    (error .domainConflict ⟨"issue.classification_lowering_not_a_lowering", by decide⟩ context false)
  let operation := .lowerIssueClassification command.issueId command.expectedVersion issue.classification
    command.proposedClassification command.rationale
  ensure (ports.currentPolicy operation = .allowed) (securityDenied context)
  let id ← require (infrastructureError context) ports.nextPreparedIntentId
  relabel (fun _ => invalidIntent context)
    (WorkManagementPreparedIntent.prepare id operation issue.classification none (ports.now .preparation))

def prepareLowerIssueClassification (service : Service) (ports : Ports) (command : PrepareLowerIssueClassification) :
    Service × Except DomainError WorkManagementPreparedIntent :=
  let context := command.context
  let signature := .prepareLowerClassification command.issueId command.expectedVersion
    command.proposedClassification command.rationale
  settle (infrastructureError context) service
    (stagePreview (idempotencyConflict context) service.state context signature
      (loweringPreview service.state.authority ports command))

def mapValidation : WorkManagementApprovalValidationError → Failure
  | .unauthorized => .unauthorized
  | .preparedIntentMismatch | .digestMismatch | .expired | .previewChanged => .changed

def executionIdentity (approval : WorkManagementApproval) : Identity :=
  .execute approval.preparedId approval.actor approval.acknowledgedPayloadDigest

def mint [Sha256] (ports : Ports) (intent : WorkManagementPreparedIntent) (approval : WorkManagementApproval)
    (operation : WorkManagementOperation) (classification : DataClassification) (support : Option SupportWitness) :
    Except Failure (WorkManagementPreparedIntent × WorkManagementApprovalReceipt) := do
  let fresh ← relabel (fun _ => .changed)
    (WorkManagementPreparedIntent.prepare intent.id operation classification support (ports.now .preparation))
  let receiptId ← require .infrastructure ports.nextApprovalReceiptId
  let receipt ← relabel mapValidation
    (validateAndMintWorkManagementH2aReceipt intent approval
      { operation, classification := fresh.preview.classification,
        classificationSources := fresh.preview.classificationSources, support, policy := .allowed }
      (ports.now .minting) receiptId ports.authorize)
  return (fresh, receipt)

def transitioned (operation : WorkManagementOperation) (evidenceIds : List EvidenceReferenceId) (record : IssueRecord) :
    Except Failure (IssueRecord × String) :=
  match operation with
  | .resolveIssue _ _ resolutionType rationale =>
    .ok ({ record with
      resolutionType := some resolutionType
      resolutionRationale := some rationale
      resolutionEvidence := evidenceIds }, "issue.resolved")
  | .closeIssue .. =>
    if evidenceIds.any fun id => record.resolutionEvidence.contains id then .error .evidence
    else .ok ({ record with closureVerificationEvidence := evidenceIds }, "issue.closed")
  | .reopenIssue _ _ rationale =>
    .ok ({ record with
      failedVerificationEvidence := record.failedVerificationEvidence ++ evidenceIds
      reopenRationales := record.reopenRationales ++ [rationale] }, "issue.reopened")
  | _ => .error .changed

def State.commit (state : State) (context : IssueOperationContext) (signature : Identity) (id : PreparedIntentId)
    (outcome : IssueMutationOutcome) : State :=
  ⟨state.authority.insertFromRisk outcome.record,
    { state.own.record context signature outcome with prepared := state.own.prepared.erase id }⟩

section
variable [Sha256]

def execute (state : State) (ports : Ports) (command : ApproveAndExecuteIssueTransition) :
    Except Failure (Staged State IssueMutationOutcome) := do
  let approval := command.approval
  let context := command.context
  ensure (approval.idempotencyId = context.idempotencyId) .changed
  orReplay Stored.mutation?
      (replay .idempotency state.own.idem context.idempotencyId (executionIdentity approval)) do
    let intent ← require .changed state.own.prepared[approval.preparedId]?
    let transition ← require .changed (issueTransition intent.operation)
    let current ← require .changed (state.authority.get transition.issueId)
    ensure (current.version = transition.issueVersion ∧ current.state = transition.required) .changed
    let prepared ← require .evidence intent.preview.support
    let evidenceIds := prepared.evidence.map (·.id)
    let support ← support ports evidenceIds prepared.judgments transition.role
    let authoritative ← relabel (fun _ => .infrastructure)
      (ports.currentClassification transition.issueId current.classification)
    let classification := current.classification.combine authoritative
    ensure (classification ≠ .unclassified) .changed
    ensure (ports.currentPolicy intent.operation = .allowed) .policyDenied
    let (fresh, receipt) ← mint ports intent approval intent.operation classification (some support)
    let later ← require .infrastructure current.version.next
    let (record, code) ← transitioned intent.operation evidenceIds
      { current with
        state := transition.next
        classification := fresh.preview.classification
        version := later
        supportHistory := current.supportHistory ++ [support] }
    let event ← makeAudit .infrastructure ports transition.issueId code context true true
    let outcome : IssueMutationOutcome := ⟨record, [event], some receipt.id⟩
    return .committed outcome (state.commit context (executionIdentity approval) intent.id outcome)

structure LoweringTarget where
  issueId : IssueId
  issueVersion : AggregateVersion
  proposedClassification : DataClassification
  rationale : WorkManagementRationale

def loweringTarget : WorkManagementOperation → Option LoweringTarget
  | .lowerIssueClassification issueId issueVersion _ proposedClassification rationale =>
    some ⟨issueId, issueVersion, proposedClassification, rationale⟩
  | _ => none

def executeLowerIssueClassification (state : State) (ports : Ports) (command : ApproveAndExecuteIssueTransition) :
    Except Failure (Staged State IssueMutationOutcome) := do
  let approval := command.approval
  let context := command.context
  ensure (approval.idempotencyId = context.idempotencyId) .changed
  orReplay Stored.mutation?
      (replay .idempotency state.own.idem context.idempotencyId (executionIdentity approval)) do
    let intent ← require .changed state.own.prepared[approval.preparedId]?
    let target ← require .changed (loweringTarget intent.operation)
    let current ← require .changed (state.authority.get target.issueId)
    ensure (current.version = target.issueVersion) .changed
    let authoritative ← relabel (fun _ => .infrastructure)
      (ports.currentClassification target.issueId current.classification)
    let classification := current.classification.combine authoritative
    ensure (classification ≠ .unclassified) .changed
    let operation := .lowerIssueClassification target.issueId current.version classification
      target.proposedClassification target.rationale
    ensure (ports.currentPolicy operation = .allowed) .policyDenied
    let (_, receipt) ← mint ports intent approval operation classification none
    let later ← require .infrastructure current.version.next
    let record := { current with classification := target.proposedClassification, version := later }
    let event ← makeAudit .infrastructure ports target.issueId "issue.classification_lowered" context true true
    let outcome : IssueMutationOutcome := ⟨record, [event], some receipt.id⟩
    return .committed outcome (state.commit context (executionIdentity approval) intent.id outcome)

def preparedIssue (own : IssueStateStore) (id : PreparedIntentId) : Option IssueId :=
  own.prepared[id]?.bind fun intent =>
    ((issueTransition intent.operation).map (·.issueId)).or ((loweringTarget intent.operation).map (·.issueId))

def settleApproval (service : Service) (ports : Ports) (command : ApproveAndExecuteIssueTransition)
    (decided : Except Failure (Staged State IssueMutationOutcome)) :
    Service × Except DomainError IssueMutationOutcome :=
  match settle .infrastructure service decided with
  | (service, .ok outcome) => (service, .ok outcome)
  | (later, .error failure) =>
    failed later ports (preparedIssue service.state.own command.approval.preparedId) executeDenied command.context
      failure

def approveAndExecute (service : Service) (ports : Ports) (command : ApproveAndExecuteIssueTransition) :=
  settleApproval service ports command (execute service.state ports command)

def approveAndExecuteLowerIssueClassification (service : Service) (ports : Ports)
    (command : ApproveAndExecuteIssueTransition) :=
  settleApproval service ports command (executeLowerIssueClassification service.state ports command)

def operationMismatch (context : IssueOperationContext) : DomainError :=
  error .domainConflict ⟨"issue.prepared_operation_mismatch", by decide⟩ context false

/-- The three approving commands only pass on a pending preview of their own kind. -/
def approveAndExecuteOnly (expected : WorkManagementOperation → Bool) (service : Service) (ports : Ports)
    (command : ApproveAndExecuteIssueTransition) : Service × Except DomainError IssueMutationOutcome :=
  if service.state.own.prepared[command.approval.preparedId]?.any fun intent => expected intent.operation then
    approveAndExecute service ports command
  else (service, .error (operationMismatch command.context))

def isResolve : WorkManagementOperation → Bool
  | .resolveIssue .. => true
  | _ => false

def isClose : WorkManagementOperation → Bool
  | .closeIssue .. => true
  | _ => false

def isReopen : WorkManagementOperation → Bool
  | .reopenIssue .. => true
  | _ => false

def approveAndExecuteResolve := approveAndExecuteOnly isResolve
def approveAndExecuteClose := approveAndExecuteOnly isClose
def approveAndExecuteReopen := approveAndExecuteOnly isReopen

end

def Stored.holdsPrepared (id : PreparedIntentId) : Stored → Bool
  | .prepared intent => intent.id == id
  | _ => false

/-- Whether an answer shows that a preview was once prepared or rejected. -/
def Stored.knows (id : PreparedIntentId) : Stored → Bool
  | .prepared intent => intent.id == id
  | .rejected outcome => outcome.preparedIntentId == id
  | .mutation _ => false

def discardPreparedIntent (own : IssueStateStore) (id : PreparedIntentId) : Bool × IssueStateStore :=
  match own.prepared[id]? with
  | none => (false, own)
  | some _ => (true, { own with
      prepared := own.prepared.erase id
      idem := own.idem.filter fun _ answer => !answer.2.holdsPrepared id })

/-- Rejecting covers the three transitions; a lowering can only be discarded. -/
def rejectedIssueId (operation : WorkManagementOperation) : Option IssueId :=
  (issueTransition operation).map (·.issueId)

def stageRejection (state : State) (ports : Ports) (command : RejectIssuePreparedIntent) :
    Except DomainError (Staged State Actions.RejectedPreparedIntentOutcome) :=
  let context := command.context
  let signature := .rejectPrepared command.preparedId command.actor
  match replay (idempotencyConflict context) state.own.idem context.idempotencyId signature with
  | .error error => .error error
  | .ok (some (.rejected outcome)) => .ok (.replayed outcome)
  | .ok (some _) => .error (idempotencyConflict context)
  | .ok none => do
    ensure (command.actor = .headOfProducts ∧ ports.authorize command.actor = true) (securityDenied context)
    let known := (KeyMap.held state.own.idem).any fun answer => answer.2.knows command.preparedId
    let intent ← require (if known then staleOrIllegal context else notFoundError context)
      state.own.prepared[command.preparedId]?
    let issueId ← require (invalidIntent context) (rejectedIssueId intent.operation)
    let auditId ← require (infrastructureError context) (ports.nextAuditEventId .record)
    let event ← require (infrastructureError context)
      (Actions.preparedIntentRejectionAudit auditId (ports.now .rejection) "issue.prepared_rejected" (.issue issueId)
        context.correlationId)
    let outcome : Actions.RejectedPreparedIntentOutcome :=
      ⟨intent.id, ports.now .rejection, decide (ports.now .rejection ≥ intent.preview.expiresAt), event⟩
    return .committed outcome { state with own :=
      { prepared := state.own.prepared.erase command.preparedId
        audits := state.own.audits ++ [event]
        idem := state.own.idem.insert context.idempotencyId (signature, .rejected outcome) } }

def rejectIssuePreparedIntent (service : Service) (ports : Ports) (command : RejectIssuePreparedIntent) :=
  settle (infrastructureError command.context) service (stageRejection service.state ports command)

inductive Operation where
  | createIssue (command : CreateIssue)
  | prepareResolveIssue (command : PrepareResolveIssue)
  | prepareCloseIssue (command : PrepareCloseIssue)
  | prepareReopenIssue (command : PrepareReopenIssue)
  | prepareLowerIssueClassification (command : PrepareLowerIssueClassification)
  | approveAndExecute (command : ApproveAndExecuteIssueTransition)
  | approveAndExecuteResolve (command : ApproveAndExecuteIssueTransition)
  | approveAndExecuteClose (command : ApproveAndExecuteIssueTransition)
  | approveAndExecuteReopen (command : ApproveAndExecuteIssueTransition)
  | approveAndExecuteLowerIssueClassification (command : ApproveAndExecuteIssueTransition)
  | rejectIssuePreparedIntent (command : RejectIssuePreparedIntent)
  | discardPreparedIntent (id : PreparedIntentId)
  | injectNextCommitFailure

inductive Response where
  | mutation (result : Except DomainError IssueMutationOutcome)
  | prepared (result : Except DomainError WorkManagementPreparedIntent)
  | rejected (result : Except DomainError Actions.RejectedPreparedIntentOutcome)
  | discarded (existed : Bool)
  | done

def Response.refused : Response → Bool
  | .mutation (.error _) | .prepared (.error _) | .rejected (.error _) => true
  | _ => false

def step [Sha256] (service : Service) (ports : Ports) : Operation → Service × Response
  | .createIssue command => (createIssue service ports command).map id .mutation
  | .prepareResolveIssue command => (prepareResolveIssue service ports command).map id .prepared
  | .prepareCloseIssue command => (prepareCloseIssue service ports command).map id .prepared
  | .prepareReopenIssue command => (prepareReopenIssue service ports command).map id .prepared
  | .prepareLowerIssueClassification command =>
    (prepareLowerIssueClassification service ports command).map id .prepared
  | .approveAndExecute command => (approveAndExecute service ports command).map id .mutation
  | .approveAndExecuteResolve command => (approveAndExecuteResolve service ports command).map id .mutation
  | .approveAndExecuteClose command => (approveAndExecuteClose service ports command).map id .mutation
  | .approveAndExecuteReopen command => (approveAndExecuteReopen service ports command).map id .mutation
  | .approveAndExecuteLowerIssueClassification command =>
    (approveAndExecuteLowerIssueClassification service ports command).map id .mutation
  | .rejectIssuePreparedIntent command => (rejectIssuePreparedIntent service ports command).map id .rejected
  | .discardPreparedIntent id =>
    let (existed, own) := discardPreparedIntent service.state.own id
    ({ service with state := { service.state with own } }, .discarded existed)
  | .injectNextCommitFailure => ({ service with failNextCommit := true }, .done)

end MissionControl.Issues

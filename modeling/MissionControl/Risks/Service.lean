import MissionControl.Risks.Record

/-! The commands of the in-memory Risk service. An occurrence makes an Issue in the
store shared with the Issue service; the Issue is staged first, and put in place
together with the Risk's own change. -/

namespace MissionControl.Risks
open Checked Staging
open Issues (IssueStore IssueRecord)

inductive RiskExecutionPolicy where
  | allowed | denied
  deriving DecidableEq

inductive RiskEvidenceAuthorityError where
  | unavailable | notFound

inductive AuditSlot where
  | first | second | third | failure

/-- The places where a command reads the clock. -/
inductive Reading where
  | preparation | minting | rejection
  | audit (slot : AuditSlot)

structure Ports where
  now : Reading → UtcTimestamp
  nextPreparedIntentId : Option PreparedIntentId
  nextApprovalReceiptId : Option ApprovalReceiptId
  nextAuditEventId : AuditSlot → Option AuditEventId
  authorize : AuditActor → Bool
  currentPolicy : WorkManagementOperation → RiskExecutionPolicy
  currentClassification : RiskId → DataClassification → Except RiskEvidenceAuthorityError DataClassification

/-- The Issue side of an occurrence, before it is put in place. -/
structure RiskIssueStage where
  issues : IssueStore
  issue : IssueRecord

namespace RiskIssueStage

def prepare (current : IssueStore) (issue : IssueRecord) : Except RiskFailure RiskIssueStage :=
  match current.get issue.id with
  | some _ => .error .conflict
  | none => .ok ⟨current.insertFromRisk issue, issue⟩

def preflight (stage : RiskIssueStage) : Except RiskFailure Unit :=
  ensure (stage.issues.get stage.issue.id = some stage.issue) .infrastructure

end RiskIssueStage

def audit {ε : Type} (failure : ε) (ports : Ports) (slot : AuditSlot) (target : AuditTarget) (code : String)
    (context : RiskOperationContext) (approved : Bool) : Except ε AuditEvent := do
  let id ← require failure (ports.nextAuditEventId slot)
  let event ← relabel (fun _ => failure) (CodeText.parse 96 code)
  let disposition ← relabel (fun _ => failure)
    (AuditDisposition.new .allowed (if approved then .approved else .notRequired) .succeeded .complete [event])
  return .new id (ports.now (.audit slot)) .headOfProducts ⟨.workManagement, event, target⟩
    context.correlationId disposition

def failureAudit (ports : Ports) (target : RiskId) (code : AuditEventCode) (context : RiskOperationContext)
    (outcomes : AuditPolicyOutcome × AuditApprovalOutcome × AuditExecutionOutcome) : Except DomainError AuditEvent := do
  let id ← require (auditFailed context) (ports.nextAuditEventId .failure)
  -- every combination of outcomes a failure is recorded with makes a disposition
  let disposition ← relabel (fun _ => auditFailed context)
    (AuditDisposition.new outcomes.1 outcomes.2.1 outcomes.2.2 .none [])
  return .new id (ports.now (.audit .failure)) .headOfProducts ⟨.workManagement, code, .risk target⟩
    context.correlationId disposition

def Stored.risk? : Stored → Option RiskMutationOutcome
  | .risk outcome => some outcome
  | _ => none

def Stored.prepared? : Stored → Option WorkManagementPreparedIntent
  | .prepared intent => some intent
  | _ => none

def Stored.occurred? : Stored → Option OccurredRiskOutcome
  | .occurred outcome => some outcome
  | _ => none

def Stored.closed? : Stored → Option RiskMutationOutcome
  | .closed outcome => some outcome
  | _ => none

def CreateRisk.signature (command : CreateRisk) : Signature :=
  .create command.id command.title command.details command.classification

def createdRisk (command : CreateRisk) : RiskRecord where
  id := command.id
  title := command.title
  details := command.details
  classification := command.classification
  state := .open
  response := none
  owner := none
  rationale := none
  residualExposure := none
  nextReviewAt := none
  inExceptionQueue := true
  version := .initial

def State.replaceRisk (state : State) (context : RiskOperationContext) (signature : Signature)
    (outcome : RiskMutationOutcome) : State :=
  { state with own :=
      { state.own with
        risks := state.own.risks.insert outcome.record.id outcome.record
        audits := state.own.audits ++ outcome.auditEvents
        idem := state.own.idem.insert context.idempotencyId (signature, .risk outcome) } }

def stageCreate (state : State) (ports : Ports) (command : CreateRisk) :
    Except DomainError (Staged State RiskMutationOutcome) :=
  let context := command.context
  orReplay Stored.risk?
      (replay (idempotencyConflictError context) state.own.idem context.idempotencyId command.signature) do
    ensure (command.classification ≠ .unclassified)
      (err .validationInvalidField ⟨"risk.classification", .refl true⟩ context)
    ensure (state.own.risks[command.id]? = none) (err .domainConflict ⟨"risk.already_exists", .refl true⟩ context)
    let record := createdRisk command
    let event ← audit (auditFailed context) ports .first (.risk record.id) "risk.created" context false
    let outcome : RiskMutationOutcome := ⟨record, [event], none⟩
    return .placed outcome (state.replaceRisk context command.signature outcome)

def createRisk (service : Service) (ports : Ports) (command : CreateRisk) :=
  settle (mapFailure .infrastructure command.context) service (stageCreate service.state ports command)

def settles (response : RiskResponseType) : Bool :=
  response = .accept ∨ response = .transfer

def UpdateRiskResponse.signature (command : UpdateRiskResponse) : Signature :=
  .update command.riskId command.expectedVersion command.response command.owner command.rationale
    command.residualExposure command.nextReviewAt

def respondedRisk (command : UpdateRiskResponse) (later : AggregateVersion) (risk : RiskRecord) : RiskRecord :=
  { risk with
    response := some command.response
    owner := command.owner
    rationale := command.rationale
    residualExposure := command.residualExposure
    nextReviewAt := command.nextReviewAt
    inExceptionQueue := !settles command.response
    version := later }

def stageResponse (state : State) (ports : Ports) (command : UpdateRiskResponse) :
    Except DomainError (Staged State RiskMutationOutcome) :=
  let context := command.context
  orReplay Stored.risk?
      (replay (idempotencyConflictError context) state.own.idem context.idempotencyId command.signature) do
    let risk ← require (mapFailure .notFound context) state.own.risks[command.riskId]?
    ensure (risk.version = command.expectedVersion ∧ risk.state = .open) (riskConflict risk context)
    ensure (settles command.response = true → command.owner.isSome ∧ command.rationale.isSome ∧
        command.residualExposure.isSome ∧ command.nextReviewAt.isSome)
      (err .validationInvalidField ⟨"risk.accepted_fields_required", .refl true⟩ context)
    let later ← require (err .platformInternal ⟨"version.overflow", .refl true⟩ context) risk.version.next
    let record := respondedRisk command later risk
    let event ← audit (auditFailed context) ports .first (.risk record.id) "risk.response_updated" context false
    let outcome : RiskMutationOutcome := ⟨record, [event], none⟩
    return .placed outcome (state.replaceRisk context command.signature outcome)

def updateRiskResponse (service : Service) (ports : Ports) (command : UpdateRiskResponse) :=
  settle (mapFailure .infrastructure command.context) service (stageResponse service.state ports command)

def PrepareRecordRiskOccurrence.signature (command : PrepareRecordRiskOccurrence) : Signature :=
  .prepareOccurrence command.riskId command.expectedVersion command.issueId

def PrepareCloseRisk.signature (command : PrepareCloseRisk) : Signature :=
  .prepareClose command.riskId command.expectedVersion command.rationale

def PrepareLowerRiskClassification.signature (command : PrepareLowerRiskClassification) : Signature :=
  .prepareLowerClassification command.riskId command.expectedVersion command.proposedClassification
    command.rationale

def previewed (ports : Ports) (operation : WorkManagementOperation) (classification : DataClassification) :
    Except RiskFailure WorkManagementPreparedIntent := do
  ensure (ports.currentPolicy operation = .allowed) .policyDenied
  let id ← require .infrastructure ports.nextPreparedIntentId
  relabel (fun _ => .conflict)
    (WorkManagementPreparedIntent.prepare id operation classification none (ports.now .preparation))

def occurrencePreview (own : Store) (ports : Ports) (command : PrepareRecordRiskOccurrence) :
    Except RiskFailure WorkManagementPreparedIntent := do
  let risk ← require .notFound own.risks[command.riskId]?
  ensure (risk.version = command.expectedVersion ∧ risk.state = .open) .lifecycleConflict
  previewed ports (.recordRiskOccurrence risk.id risk.version command.issueId risk.classification) risk.classification

def closePreview (own : Store) (ports : Ports) (command : PrepareCloseRisk) :
    Except RiskFailure WorkManagementPreparedIntent := do
  let risk ← require .notFound own.risks[command.riskId]?
  ensure (risk.version = command.expectedVersion ∧ risk.state = .open) .lifecycleConflict
  previewed ports (.closeRisk risk.id risk.version command.rationale) risk.classification

def lowerPreview (own : Store) (ports : Ports) (command : PrepareLowerRiskClassification) :
    Except RiskFailure WorkManagementPreparedIntent := do
  let risk ← require .notFound own.risks[command.riskId]?
  ensure (risk.version = command.expectedVersion) .lifecycleConflict
  ensure (Actions.isGenuineLowering risk.classification command.proposedClassification) .conflict
  previewed ports
    (.lowerRiskClassification risk.id risk.version risk.classification command.proposedClassification
      command.rationale)
    risk.classification

/-- The state once a preview is pending. -/
def State.place (state : State) (context : RiskOperationContext) (signature : Signature)
    (intent : WorkManagementPreparedIntent) : State :=
  { state with own :=
      { state.own with
        prepared := state.own.prepared.insert intent.id intent
        idem := state.own.idem.insert context.idempotencyId (signature, .prepared intent) } }

def stagePreview (state : State) (context : RiskOperationContext) (signature : Signature)
    (preview : Except RiskFailure WorkManagementPreparedIntent) :
    Except RiskFailure (Staged State WorkManagementPreparedIntent) :=
  orReplay Stored.prepared? (replay .idempotencyConflict state.own.idem context.idempotencyId signature) do
    let intent ← preview
    return .placed intent (state.place context signature intent)

def prepareOutcomes (failure : RiskFailure) : AuditPolicyOutcome × AuditApprovalOutcome × AuditExecutionOutcome :=
  (if failure = .policyDenied then .denied else .allowed, .notRequired, .notAttempted)

def occurrenceDenied : AuditEventCode := ⟨"risk.occurrence_denied", by decide⟩
def closeDenied : AuditEventCode := ⟨"risk.close_denied", by decide⟩
def loweringDenied : AuditEventCode := ⟨"risk.classification_lowering_denied", by decide⟩

def State.appendAudit (state : State) (event : AuditEvent) : State :=
  { state with own := { state.own with audits := state.own.audits ++ [event] } }

def settlePreview (service : Service) (ports : Ports) (target : RiskId) (code : AuditEventCode)
    (context : RiskOperationContext) (decided : Except RiskFailure (Staged State WorkManagementPreparedIntent)) :
    Service × Except DomainError WorkManagementPreparedIntent :=
  match settle .infrastructure service decided with
  | (service, .ok intent) => (service, .ok intent)
  | (service, .error failure) =>
    match failureAudit ports target code context (prepareOutcomes failure) with
    | .error error => (service, .error error)
    | .ok event =>
      ({ service with state := service.state.appendAudit event },
        .error (prepareFailureError service.state.own.risks target failure context))

def prepareRecordRiskOccurrence (service : Service) (ports : Ports) (command : PrepareRecordRiskOccurrence) :=
  settlePreview service ports command.riskId occurrenceDenied command.context
    (stagePreview service.state command.context command.signature (occurrencePreview service.state.own ports command))

def prepareCloseRisk (service : Service) (ports : Ports) (command : PrepareCloseRisk) :=
  settlePreview service ports command.riskId closeDenied command.context
    (stagePreview service.state command.context command.signature (closePreview service.state.own ports command))

def prepareLowerRiskClassification (service : Service) (ports : Ports) (command : PrepareLowerRiskClassification) :=
  settlePreview service ports command.riskId loweringDenied command.context
    (stagePreview service.state command.context command.signature (lowerPreview service.state.own ports command))

def mapValidation : WorkManagementApprovalValidationError → RiskFailure
  | .unauthorized => .unauthorized
  | .digestMismatch => .digestMismatch
  | .expired => .expired
  | .preparedIntentMismatch | .previewChanged => .previewChanged

structure OccurrenceTarget where
  riskId : RiskId
  riskVersion : AggregateVersion
  issueId : IssueId

def occurrenceTarget : WorkManagementOperation → Option OccurrenceTarget
  | .recordRiskOccurrence riskId riskVersion issueId _ => some ⟨riskId, riskVersion, issueId⟩
  | _ => none

structure CloseTarget where
  riskId : RiskId
  riskVersion : AggregateVersion
  rationale : WorkManagementRationale

def closeTarget : WorkManagementOperation → Option CloseTarget
  | .closeRisk riskId riskVersion rationale => some ⟨riskId, riskVersion, rationale⟩
  | _ => none

structure LoweringTarget where
  riskId : RiskId
  riskVersion : AggregateVersion
  proposedClassification : DataClassification
  rationale : WorkManagementRationale

def loweringTarget : WorkManagementOperation → Option LoweringTarget
  | .lowerRiskClassification riskId riskVersion _ proposedClassification rationale =>
    some ⟨riskId, riskVersion, proposedClassification, rationale⟩
  | _ => none

def State.commit (state : State) (context : RiskOperationContext) (signature : Signature) (id : PreparedIntentId)
    (riskId : RiskId) (risk : RiskRecord) (audits : List AuditEvent) (stored : Stored) : State :=
  { state with own :=
      { state.own with
        risks := state.own.risks.insert riskId risk
        prepared := state.own.prepared.erase id
        audits := state.own.audits ++ audits
        idem := state.own.idem.insert context.idempotencyId (signature, stored) } }

section
variable [Sha256]

def mint (ports : Ports) (intent : WorkManagementPreparedIntent) (approval : WorkManagementApproval)
    (operation : WorkManagementOperation) (classification : DataClassification) :
    Except RiskFailure WorkManagementApprovalReceipt := do
  ensure (ports.currentPolicy operation = .allowed) .policyDenied
  let fresh ← relabel (fun _ => .previewChanged)
    (WorkManagementPreparedIntent.prepare intent.id operation classification none (ports.now .preparation))
  let receiptId ← require .infrastructure ports.nextApprovalReceiptId
  relabel mapValidation
    (validateAndMintWorkManagementH2aReceipt intent approval
      { operation, classification, classificationSources := fresh.preview.classificationSources,
        support := none, policy := .allowed }
      (ports.now .minting) receiptId ports.authorize)

def currentClassification (ports : Ports) (risk : RiskRecord) (id : RiskId) : Except RiskFailure DataClassification :=
  relabel (fun _ => .infrastructure) (ports.currentClassification id risk.classification)

def executeOccurrence (state : State) (ports : Ports) (command : ApproveAndExecute) :
    Except RiskFailure (Staged State OccurredRiskOutcome) := do
  let approval := command.approval
  let context := command.context
  ensure (approval.idempotencyId = context.idempotencyId) .conflict
  orReplay Stored.occurred?
      (replay .idempotencyConflict state.own.idem context.idempotencyId (executionSignature approval)) do
    let intent ← require .previewChanged state.own.prepared[approval.preparedId]?
    let target ← require .previewChanged (occurrenceTarget intent.operation)
    let current ← require .previewChanged state.own.risks[target.riskId]?
    ensure (current.version = target.riskVersion ∧ current.state = .open) .previewChanged
    let classification ← currentClassification ports current target.riskId
    let operation := .recordRiskOccurrence target.riskId current.version target.issueId classification
    let receipt ← mint ports intent approval operation classification
    let later ← require .infrastructure current.version.next
    let risk := { current with state := .occurred, version := later }
    let issue := IssueRecord.fromRisk target.issueId target.riskId current.title current.details
      current.classification
    let stage ← RiskIssueStage.prepare state.authority issue
    let occurred ← audit .infrastructure ports .first (.risk target.riskId) "risk.occurred" context true
    let created ← audit .infrastructure ports .second (.issue target.issueId) "issue.created_from_risk" context true
    let linked ← audit .infrastructure ports .third (.risk target.riskId) "risk.issue_linked" context true
    stage.preflight
    let outcome : OccurredRiskOutcome := ⟨risk, issue, [occurred, created, linked], receipt.id⟩
    let link : RiskIssueLink := ⟨target.riskId, target.issueId, later, issue.version, current.classification⟩
    let staged := state.commit context (executionSignature approval) intent.id target.riskId risk
      outcome.auditEvents (.occurred outcome)
    return .committed outcome ⟨stage.issues, { staged.own with links := state.own.links ++ [link] }⟩

def executeClose (state : State) (ports : Ports) (command : ApproveAndExecute) :
    Except RiskFailure (Staged State RiskMutationOutcome) := do
  let approval := command.approval
  let context := command.context
  ensure (approval.idempotencyId = context.idempotencyId) .conflict
  orReplay Stored.closed?
      (replay .idempotencyConflict state.own.idem context.idempotencyId (executionSignature approval)) do
    let intent ← require .previewChanged state.own.prepared[approval.preparedId]?
    let target ← require .previewChanged (closeTarget intent.operation)
    let current ← require .previewChanged state.own.risks[target.riskId]?
    ensure (current.version = target.riskVersion ∧ current.state = .open) .previewChanged
    let classification ← currentClassification ports current target.riskId
    let operation := .closeRisk target.riskId current.version target.rationale
    let receipt ← mint ports intent approval operation classification
    let later ← require .infrastructure current.version.next
    let risk := { current with state := .closed, inExceptionQueue := false, version := later }
    let event ← audit .infrastructure ports .first (.risk target.riskId) "risk.closed" context true
    let outcome : RiskMutationOutcome := ⟨risk, [event], some receipt.id⟩
    return .committed outcome
      (state.commit context (executionSignature approval) intent.id target.riskId risk [event] (.closed outcome))

def executeLowerRiskClassification (state : State) (ports : Ports) (command : ApproveAndExecute) :
    Except RiskFailure (Staged State RiskMutationOutcome) := do
  let approval := command.approval
  let context := command.context
  ensure (approval.idempotencyId = context.idempotencyId) .conflict
  orReplay Stored.risk?
      (replay .idempotencyConflict state.own.idem context.idempotencyId (executionSignature approval)) do
    let intent ← require .previewChanged state.own.prepared[approval.preparedId]?
    let target ← require .previewChanged (loweringTarget intent.operation)
    let current ← require .previewChanged state.own.risks[target.riskId]?
    ensure (current.version = target.riskVersion) .previewChanged
    let classification ← currentClassification ports current target.riskId
    let operation := .lowerRiskClassification target.riskId current.version classification
      target.proposedClassification target.rationale
    let receipt ← mint ports intent approval operation classification
    let later ← require .infrastructure current.version.next
    let risk := { current with classification := target.proposedClassification, version := later }
    let event ← audit .infrastructure ports .first (.risk target.riskId) "risk.classification_lowered" context true
    let outcome : RiskMutationOutcome := ⟨risk, [event], some receipt.id⟩
    return .committed outcome
      (state.commit context (executionSignature approval) intent.id target.riskId risk [event] (.risk outcome))

end

/-- An answer under the approval's id ends the call when it is a recorded failure,
or another command's. -/
def replayedTerminalError (own : Store) (approval : WorkManagementApproval) (context : RiskOperationContext) :
    Except DomainError (Option DomainError) :=
  match own.idem[context.idempotencyId]? with
  | none => .ok none
  | some (signature, stored) =>
    if signature ≠ executionSignature approval then .error (idempotencyConflictError context)
    else match stored with
      | .terminal failure => .ok (some failure.error)
      | _ => .ok none

def preparedRiskTarget (own : Store) (id : PreparedIntentId) : Option RiskId :=
  own.prepared[id]?.bind fun intent =>
    match intent.operation with
    | .recordRiskOccurrence riskId .. | .closeRisk riskId .. | .lowerRiskClassification riskId .. => some riskId
    | _ => none

def executionOutcomes : RiskFailure → AuditPolicyOutcome × AuditApprovalOutcome × AuditExecutionOutcome
  | .policyDenied => (.denied, .notRequired, .notAttempted)
  | .infrastructure => (.allowed, .approved, .failed)
  | .notFound | .conflict | .lifecycleConflict | .idempotencyConflict | .unauthorized | .digestMismatch | .expired
  | .previewChanged => (.allowed, .rejected, .notAttempted)

def unknownRisk : RiskId := ⟨"risk-unknown", by decide⟩

def Stored.holdsPrepared (id : PreparedIntentId) : Stored → Bool
  | .prepared intent => intent.id == id
  | _ => false

/-- The preview leaves the pending ones together with the answer that prepared it. -/
def Store.forget (own : Store) (id : PreparedIntentId) : Store :=
  { own with
    prepared := own.prepared.erase id
    idem := own.idem.filter fun _ answer => !answer.2.holdsPrepared id }

/-- A failure that counts as the end of a pending preview is remembered in its place. -/
def Store.terminalize (own : Store) (approval : WorkManagementApproval) (context : RiskOperationContext)
    (error : DomainError) (audit : AuditEvent) : Store :=
  match own.prepared[approval.preparedId]? with
  | none => own
  | some prepared =>
    let forgotten := own.forget approval.preparedId
    let answer := (executionSignature approval, Stored.terminal ⟨prepared, error, audit⟩)
    { forgotten with idem := forgotten.idem.insert context.idempotencyId answer }

def isDurablePostStartTerminal (failure : RiskFailure) : Bool := failure = .policyDenied

def failedExecution {Outcome : Type} (service : Service) (ports : Ports) (code : AuditEventCode)
    (command : ApproveAndExecute) (failure : RiskFailure) : Service × Except DomainError Outcome :=
  let target := (preparedRiskTarget service.state.own command.approval.preparedId).getD unknownRisk
  match failureAudit ports target code command.context (executionOutcomes failure) with
  | .error error => (service, .error error)
  | .ok event =>
    let recorded := service.state.appendAudit event
    let error := mapFailure failure command.context
    let own :=
      if isDurablePostStartTerminal failure then
        recorded.own.terminalize command.approval command.context error event
      else recorded.own
    ({ service with state := { recorded with own } }, .error error)

def settleApproval {Outcome : Type} (service : Service) (ports : Ports) (code : AuditEventCode)
    (command : ApproveAndExecute) (decided : Except RiskFailure (Staged State Outcome)) :
    Service × Except DomainError Outcome :=
  match replayedTerminalError service.state.own command.approval command.context with
  | .error error | .ok (some error) => (service, .error error)
  | .ok none =>
    match settle .infrastructure service decided with
    | (service, .ok outcome) => (service, .ok outcome)
    | (service, .error failure) => failedExecution service ports code command failure

section
variable [Sha256]

def approveAndExecuteRecordRiskOccurrence (service : Service) (ports : Ports) (command : ApproveAndExecute) :=
  settleApproval service ports occurrenceDenied command (executeOccurrence service.state ports command)

def approveAndExecuteCloseRisk (service : Service) (ports : Ports) (command : ApproveAndExecute) :=
  settleApproval service ports closeDenied command (executeClose service.state ports command)

def approveAndExecuteLowerRiskClassification (service : Service) (ports : Ports) (command : ApproveAndExecute) :=
  settleApproval service ports loweringDenied command (executeLowerRiskClassification service.state ports command)

end

def discardPreparedIntent (own : Store) (id : PreparedIntentId) : Bool × Store :=
  match own.prepared[id]? with
  | none => (false, own)
  | some _ => (true, own.forget id)

/-- Whether an answer shows that a preview was once prepared, denied or rejected. -/
def Stored.knows (id : PreparedIntentId) : Stored → Bool
  | .prepared intent => intent.id == id
  | .rejected outcome => outcome.preparedIntentId == id
  | .terminal failure => failure.prepared.id == id
  | .risk _ | .occurred _ | .closed _ => false

def rejectedRiskId : WorkManagementOperation → Option RiskId
  | .recordRiskOccurrence riskId .. | .closeRisk riskId .. => some riskId
  | _ => none

def stageRejection (state : State) (ports : Ports) (command : RejectRiskPreparedIntent) :
    Except RiskFailure (Staged State Actions.RejectedPreparedIntentOutcome) :=
  let context := command.context
  let signature := .rejectPrepared command.preparedId command.actor
  match replay .idempotencyConflict state.own.idem context.idempotencyId signature with
  | .error failure => .error failure
  | .ok (some (.rejected outcome)) => .ok (.replayed outcome)
  | .ok (some _) => .error .idempotencyConflict
  | .ok none => do
    ensure (command.actor = .headOfProducts ∧ ports.authorize command.actor = true) .unauthorized
    let known := (KeyMap.held state.own.idem).any fun answer => answer.2.knows command.preparedId
    let intent ← require (if known then .lifecycleConflict else .notFound) state.own.prepared[command.preparedId]?
    let riskId ← require .lifecycleConflict (rejectedRiskId intent.operation)
    let auditId ← require .infrastructure (ports.nextAuditEventId .first)
    let event ← require .infrastructure
      (Actions.preparedIntentRejectionAudit auditId (ports.now .rejection) "risk.prepared_rejected" (.risk riskId)
        context.correlationId)
    let outcome : Actions.RejectedPreparedIntentOutcome :=
      ⟨intent.id, ports.now .rejection, decide (ports.now .rejection ≥ intent.preview.expiresAt), event⟩
    return .committed outcome { state with own :=
      { state.own with
        prepared := state.own.prepared.erase command.preparedId
        audits := state.own.audits ++ [event]
        idem := state.own.idem.insert context.idempotencyId (signature, .rejected outcome) } }

def rejectRiskPreparedIntent (service : Service) (ports : Ports) (command : RejectRiskPreparedIntent) :
    Service × Except DomainError Actions.RejectedPreparedIntentOutcome :=
  let (service, result) := settle .infrastructure service (stageRejection service.state ports command)
  (service, relabel (fun failure => mapFailure failure command.context) result)

inductive Operation where
  | createRisk (command : CreateRisk)
  | updateRiskResponse (command : UpdateRiskResponse)
  | prepareRecordRiskOccurrence (command : PrepareRecordRiskOccurrence)
  | prepareCloseRisk (command : PrepareCloseRisk)
  | prepareLowerRiskClassification (command : PrepareLowerRiskClassification)
  | approveAndExecuteRecordRiskOccurrence (command : ApproveAndExecute)
  | approveAndExecuteCloseRisk (command : ApproveAndExecute)
  | approveAndExecuteLowerRiskClassification (command : ApproveAndExecute)
  | rejectRiskPreparedIntent (command : RejectRiskPreparedIntent)
  | discardPreparedIntent (id : PreparedIntentId)
  | injectNextCommitFailure

inductive Response where
  | risk (result : Except DomainError RiskMutationOutcome)
  | prepared (result : Except DomainError WorkManagementPreparedIntent)
  | occurred (result : Except DomainError OccurredRiskOutcome)
  | rejected (result : Except DomainError Actions.RejectedPreparedIntentOutcome)
  | discarded (existed : Bool)
  | done

def Response.refused : Response → Bool
  | .risk (.error _) | .prepared (.error _) | .occurred (.error _) | .rejected (.error _) => true
  | _ => false

def step [Sha256] (service : Service) (ports : Ports) : Operation → Service × Response
  | .createRisk command => (createRisk service ports command).map id .risk
  | .updateRiskResponse command => (updateRiskResponse service ports command).map id .risk
  | .prepareRecordRiskOccurrence command => (prepareRecordRiskOccurrence service ports command).map id .prepared
  | .prepareCloseRisk command => (prepareCloseRisk service ports command).map id .prepared
  | .prepareLowerRiskClassification command => (prepareLowerRiskClassification service ports command).map id .prepared
  | .approveAndExecuteRecordRiskOccurrence command =>
    (approveAndExecuteRecordRiskOccurrence service ports command).map id .occurred
  | .approveAndExecuteCloseRisk command => (approveAndExecuteCloseRisk service ports command).map id .risk
  | .approveAndExecuteLowerRiskClassification command =>
    (approveAndExecuteLowerRiskClassification service ports command).map id .risk
  | .rejectRiskPreparedIntent command => (rejectRiskPreparedIntent service ports command).map id .rejected
  | .discardPreparedIntent id =>
    let (existed, own) := discardPreparedIntent service.state.own id
    ({ service with state := { service.state with own } }, .discarded existed)
  | .injectNextCommitFailure => ({ service with failNextCommit := true }, .done)

end MissionControl.Risks

import MissionControl.Actions.Execution
import MissionControl.Decisions.Record

/-! The commands of the in-memory Decision service. Resolving and superseding also
change Action Requests and Actions: their commands are staged on a copy of the Action
store, and the two stores are replaced together. -/

namespace MissionControl.Decisions
open Checked Staging
open Actions (DecisionStageCommand ActionOperationContext ActionServiceError)

inductive DecisionExecutionPolicy where
  | allowed | denied
  deriving DecidableEq

inductive DecisionEvidenceAuthorityError where
  | unavailable | notFound

inductive AuditSlot where
  | first | second | third | failure

/-- The places where a command reads the clock. -/
inductive Reading where
  | decision | preparation | revalidation | minting | rejection
  | audit (slot : AuditSlot)

/-- What a command's surroundings answer. Evidence is asked for by its place in the
command's list, since a list may name one reference twice. -/
structure Ports where
  now : Reading → UtcTimestamp
  nextDecisionId : Option DecisionId
  nextPreparedIntentId : Option PreparedIntentId
  nextApprovalReceiptId : Option ApprovalReceiptId
  nextAuditEventId : AuditSlot → Option AuditEventId
  authorize : AuditActor → Bool
  currentPolicy : WorkManagementOperation → DecisionExecutionPolicy
  resolve : Nat → EvidenceReferenceId → Except DecisionEvidenceAuthorityError EvidenceReferenceMetadata

abbrev Service := Committing Store

def audit (ports : Ports) (slot : AuditSlot) (target : AuditTarget) (code : String)
    (context : DecisionOperationContext) (approved : Bool) : Except DecisionError AuditEvent := do
  let id ← require .infrastructure (ports.nextAuditEventId slot)
  let event ← relabel (fun _ => .infrastructure) (CodeText.parse 96 code)
  let disposition ← relabel (fun _ => .infrastructure)
    (AuditDisposition.new .allowed (if approved then .approved else .notRequired) .succeeded .complete [event])
  return .new id (ports.now (.audit slot)) .headOfProducts ⟨.workManagement, event, target⟩
    context.correlationId disposition

def next (version : AggregateVersion) : Except DecisionError AggregateVersion := require .infrastructure version.next

def exactRequest (state : Store) (id : DecisionRequestId) (version : AggregateVersion) :
    Except DecisionError DecisionRequestRecord := do
  let record ← require .notFound state.requests[id]?
  ensure (record.version = version) .stale
  return record

def exactDecision (state : Store) (id : DecisionId) (version : AggregateVersion) :
    Except DecisionError DecisionRecord := do
  let record ← require .notFound state.decisions[id]?
  ensure (record.version = version) .stale
  return record

def ResultValue.request? : ResultValue → Option (DecisionMutationOutcome DecisionRequestRecord)
  | .request outcome => some outcome
  | _ => none

def ResultValue.prepared? : ResultValue → Option WorkManagementPreparedIntent
  | .prepared intent => some intent
  | _ => none

def ResultValue.resolved? : ResultValue → Option ResolvedDecisionOutcome
  | .resolved outcome => some outcome
  | _ => none

def ResultValue.superseded? : ResultValue → Option SupersededDecisionOutcome
  | .superseded outcome => some outcome
  | _ => none

def ResultValue.lowered? : ResultValue → Option (DecisionMutationOutcome DecisionRecord)
  | .classificationLowered outcome => some outcome
  | _ => none

def ResultValue.rejected? : ResultValue → Option Actions.RejectedPreparedIntentOutcome
  | .rejected outcome => some outcome
  | _ => none

/-- Answers a command again, or goes on with it. -/
def replaying {Next Outcome : Type} (pick : ResultValue → Option Outcome) (state : Store)
    (context : DecisionOperationContext) (signature : Signature)
    (fresh : Except DecisionError (Staged Next Outcome)) : Except DecisionError (Staged Next Outcome) :=
  orConflict .idempotencyConflict pick (replay .idempotencyConflict state.idem context.idempotencyId signature) fresh

def storeRequest (state : Store) (ports : Ports) (record : DecisionRequestRecord)
    (context : DecisionOperationContext) (signature : Signature) (code : String) :
    Except DecisionError (Staged Store (DecisionMutationOutcome DecisionRequestRecord)) := do
  let event ← audit ports .first (.decisionRequest record.id) code context false
  let outcome : DecisionMutationOutcome DecisionRequestRecord := ⟨record, [event], none⟩
  return .committed outcome
    { state with
      requests := state.requests.insert record.id record
      audits := state.audits ++ [event]
      idem := state.idem.insert context.idempotencyId (signature, .request outcome) }

def CreateDecisionRequestDraft.signature (command : CreateDecisionRequestDraft) : Signature :=
  .create command.id command.subject command.details command.intendedOwner command.classification

def createdRecord (command : CreateDecisionRequestDraft) : DecisionRequestRecord where
  id := command.id
  subject := command.subject
  details := command.details
  intendedOwner := command.intendedOwner
  classification := command.classification
  state := .draft
  withdrawalRationale := none
  linkedDecisionId := none
  version := .initial

def createCause (state : Store) (ports : Ports) (command : CreateDecisionRequestDraft) :
    Except DecisionError (Staged Store (DecisionMutationOutcome DecisionRequestRecord)) :=
  replaying ResultValue.request? state command.context command.signature do
    ensure (state.requests[command.id]? = none) .alreadyExists
    storeRequest state ports (createdRecord command) command.context command.signature "decision_request.created"

structure RequestTransition where
  requestId : DecisionRequestId
  expectedVersion : AggregateVersion
  source : DecisionRequestState
  target : DecisionRequestState
  rationale : Option DecisionWithdrawalRationale
  context : DecisionOperationContext

def RequestTransition.signature (transition : RequestTransition) : Except DecisionError Signature :=
  if transition.target = .open then .ok (.submit transition.requestId transition.expectedVersion)
  else do
    let rationale ← require .illegal transition.rationale
    return .withdraw transition.requestId transition.expectedVersion rationale

def RequestTransition.code (transition : RequestTransition) : String :=
  if transition.target = .open then "decision_request.submitted" else "decision_request.withdrawn"

def transition (state : Store) (ports : Ports) (transition : RequestTransition) :
    Except DecisionError (Staged Store (DecisionMutationOutcome DecisionRequestRecord)) := do
  let signature ← transition.signature
  replaying ResultValue.request? state transition.context signature do
    let record ← exactRequest state transition.requestId transition.expectedVersion
    ensure (record.state = transition.source) .illegal
    let later ← next record.version
    storeRequest state ports
      { record with state := transition.target, withdrawalRationale := transition.rationale, version := later }
      transition.context signature transition.code

def SubmitDecisionRequest.transition (command : SubmitDecisionRequest) : RequestTransition :=
  ⟨command.requestId, command.expectedVersion, .draft, .open, none, command.context⟩

def WithdrawDecisionRequest.transition (command : WithdrawDecisionRequest) : RequestTransition :=
  ⟨command.requestId, command.expectedVersion, .open, .withdrawn, some command.rationale, command.context⟩

def support (ports : Ports) (ids : List EvidenceReferenceId) (judgments : List HumanJudgment) :
    Except DecisionError SupportWitness := do
  let evidence ← ids.zipIdx.mapM fun (id, index) =>
    relabel (fun _ => .evidenceUnavailable) (ports.resolve index id)
  let offered ← relabel (fun _ => .supportDenied) (EvidenceOrJudgment.new evidence judgments)
  relabel (fun _ => .supportDenied) offered.evaluateEvidenceOrJudgment

/-- The state once a preview is pending. -/
def Store.place (state : Store) (context : DecisionOperationContext) (signature : Signature)
    (intent : WorkManagementPreparedIntent) : Store :=
  { state with
    prepared := state.prepared.insert intent.id intent
    idem := state.idem.insert context.idempotencyId (signature, .prepared intent) }

def prepare (state : Store) (ports : Ports) (operation : WorkManagementOperation)
    (classification : DataClassification) (support : Option SupportWitness) (context : DecisionOperationContext)
    (signature : Signature) : Except DecisionError (Staged Store WorkManagementPreparedIntent) := do
  ensure (ports.currentPolicy operation = .allowed) .policyDenied
  let id ← require .infrastructure ports.nextPreparedIntentId
  let intent ← relabel mapPrepare
    (WorkManagementPreparedIntent.prepare id operation classification support (ports.now .preparation))
  return .placed intent (state.place context signature intent)

def PrepareResolveDecisionRequest.signature (command : PrepareResolveDecisionRequest) : Signature :=
  .prepareResolve command.requestId command.expectedVersion command.statement command.rationale command.impact
    command.evidenceIds command.judgments command.resultingActionRequests

def prepareResolve (state : Store) (ports : Ports) (command : PrepareResolveDecisionRequest) :
    Except DecisionError (Staged Store WorkManagementPreparedIntent) :=
  replaying ResultValue.prepared? state command.context command.signature do
    let request ← exactRequest state command.requestId command.expectedVersion
    ensure (request.state = .open) .illegal
    let owner ← require .missingOwner request.intendedOwner
    let decisionId ← require .infrastructure ports.nextDecisionId
    let support ← support ports command.evidenceIds command.judgments
    let operation := .resolveDecisionRequest request.id request.version decisionId request.classification
      command.statement command.rationale command.impact owner (ports.now .decision) command.resultingActionRequests
    prepare state ports operation request.classification (some support) command.context command.signature

def actionRequestsForDecision (actions : Actions.Store) (id : DecisionId) : List Actions.ActionRequestRecord :=
  ((KeyMap.held actions.requests).filter fun record => record.sourceDecisionId = some id).insertionSort
    fun left right => left.id ≤ right.id

def actionsForDecision (actions : Actions.Store) (id : DecisionId) : List Actions.ActionRecord :=
  ((KeyMap.held actions.actions).filter fun record => record.sourceDecisionId = some id).insertionSort
    fun left right => left.id ≤ right.id

def unfinishedRequest (record : Actions.ActionRequestRecord) : Bool :=
  record.state = .draft ∨ record.state = .open

def unfinishedAction (record : Actions.ActionRecord) : Bool :=
  record.state = .open ∨ record.state = .inProgress

def requestWork (record : Actions.ActionRequestRecord) : IncompleteDownstreamWork :=
  .actionRequest record.id record.version record.classification

def actionWork (record : Actions.ActionRecord) : IncompleteDownstreamWork :=
  .action record.id record.version record.classification

def unfinishedWork (actions : Actions.Store) (id : DecisionId) : List IncompleteDownstreamWork :=
  ((actionRequestsForDecision actions id).filter unfinishedRequest).map requestWork ++
    ((actionsForDecision actions id).filter unfinishedAction).map actionWork

def downstreamKindText : IncompleteDownstreamWork → String
  | .actionRequest .. => "request"
  | .action .. => "action"

def downstream (actions : Actions.Store) (id : DecisionId) : List IncompleteDownstreamWork :=
  (unfinishedWork actions id).insertionSort fun left right => downstreamId left < downstreamId right ∨
    (downstreamId left = downstreamId right ∧ downstreamKindText left ≤ downstreamKindText right)

def PrepareSupersedeDecision.signature (command : PrepareSupersedeDecision) : Signature :=
  .prepareSupersede command.decisionId command.expectedVersion command.replacementStatement
    command.replacementRationale command.replacementImpact command.replacementOwner command.evidenceIds
    command.judgments command.resultingActionRequests

def prepareSupersede (state : Store) (actions : Actions.Store) (ports : Ports) (command : PrepareSupersedeDecision) :
    Except DecisionError (Staged Store WorkManagementPreparedIntent) :=
  replaying ResultValue.prepared? state command.context command.signature do
    let old ← exactDecision state command.decisionId command.expectedVersion
    ensure (old.state = .effective) .illegal
    let replacement ← require .infrastructure ports.nextDecisionId
    let support ← support ports command.evidenceIds command.judgments
    let operation := .supersedeDecision old.id old.version replacement .initial
      (old.classification.combine support.classification) command.replacementStatement command.replacementRationale
      command.replacementImpact command.replacementOwner (ports.now .decision) command.resultingActionRequests
      (unfinishedWork actions old.id)
    prepare state ports operation old.classification (some support) command.context command.signature

def PrepareLowerDecisionClassification.signature (command : PrepareLowerDecisionClassification) : Signature :=
  .prepareLowerClassification command.decisionId command.expectedVersion command.proposedClassification
    command.rationale

def prepareLower (state : Store) (ports : Ports) (command : PrepareLowerDecisionClassification) :
    Except DecisionError (Staged Store WorkManagementPreparedIntent) :=
  replaying ResultValue.prepared? state command.context command.signature do
    let record ← exactDecision state command.decisionId command.expectedVersion
    ensure (Actions.isGenuineLowering record.classification command.proposedClassification) .notALowering
    let operation := .lowerDecisionClassification command.decisionId command.expectedVersion record.classification
      command.proposedClassification command.rationale
    prepare state ports operation record.classification none command.context command.signature

def rejectCause (state : Store) (ports : Ports) (command : RejectDecisionPreparedIntent) :
    Except DecisionError (Staged Store Actions.RejectedPreparedIntentOutcome) :=
  let signature := .rejectPrepared command.preparedId command.actor
  replaying ResultValue.rejected? state command.context signature do
    ensure (command.actor = .headOfProducts ∧ ports.authorize command.actor = true) .unauthorized
    let known := (KeyMap.held state.idem).any fun answer => answer.2.prepared?.any (·.id = command.preparedId)
    let intent ← require (if known then .illegal else .notFound) state.prepared[command.preparedId]?
    let requestId ← require .illegal (match intent.operation with
      | .resolveDecisionRequest requestId .. => some requestId
      | _ => none)
    let auditId ← require .infrastructure (ports.nextAuditEventId .first)
    let event ← require .infrastructure
      (Actions.preparedIntentRejectionAudit auditId (ports.now .rejection) "decision.prepared_rejected"
        (.decisionRequest requestId) command.context.correlationId)
    let outcome : Actions.RejectedPreparedIntentOutcome :=
      ⟨intent.id, ports.now .rejection, decide (ports.now .rejection ≥ intent.preview.expiresAt), event⟩
    return .committed outcome
      { state with
        prepared := state.prepared.erase command.preparedId
        audits := state.audits ++ [event]
        idem := state.idem.insert command.context.idempotencyId (signature, .rejected outcome) }

end MissionControl.Decisions

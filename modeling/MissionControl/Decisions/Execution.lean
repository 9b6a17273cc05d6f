import MissionControl.Decisions.Service
import MissionControl.Actions.Run

/-! Approving previews of Decisions. What an approval does to the Action store is staged
command by command; one that fails ends the approval before either store is touched. -/

namespace MissionControl.Decisions
open Checked Staging
open Actions (DecisionStageCommand ActionOperationContext ActionServiceError)

theorem hex_alphanum {character : Char}
    (hex : (character.isDigit || ('a' ≤ character && character ≤ 'f')) = true) : character.isAlphanum = true := by
  simp only [Bool.or_eq_true, Bool.and_eq_true, decide_eq_true_eq] at hex
  change (character.isUpper || (decide (character.val ≥ 'a'.val) && decide (character.val ≤ 'z'.val)) ||
    character.isDigit) = true
  simp only [Bool.or_eq_true, Bool.and_eq_true, decide_eq_true_eq]
  rcases hex with digit | ⟨lower, upper⟩
  · exact .inr digit
  · exact .inl (.inr ⟨lower, Nat.le_trans upper (by decide)⟩)

theorem stageToken_valid (digest : WorkManagementPayloadDigest) :
    (validateToken ("decision-stage-v1-" ++ digest.asStr) IdKind.idempotency.maximum ['-', '_']).isOk = true := by
  have size := isHexDigest_size digest.valid
  have hex := digest.valid
  simp only [isHexDigest, Bool.and_eq_true, List.all_eq_true] at hex
  have total : ("decision-stage-v1-" ++ digest.asStr).utf8ByteSize = 82 := by
    rw [String.utf8ByteSize_append, size]
    rfl
  have shown : ("decision-stage-v1-" ++ digest.asStr).isEmpty = false := by
    rw [String.isEmpty, total]
    rfl
  have plain : ("decision-stage-v1-" ++ digest.asStr).toList.all
      (fun character => character.isAlphanum || ['-', '_'].contains character) = true := by
    have fixed : ("decision-stage-v1-".toList.all
        fun character => character.isAlphanum || ['-', '_'].contains character) = true := by decide
    rw [String.toList_append, List.all_append, fixed, Bool.true_and, List.all_eq_true]
    intro character drawn
    rw [hex_alphanum (hex.2 character drawn), Bool.true_or]
  have bound : IdKind.idempotency.maximum = 128 := rfl
  rw [validateToken, shown, total, bound, plain]
  rfl

def stageIdempotencyId (digest : WorkManagementPayloadDigest) : IdempotencyId :=
  ⟨"decision-stage-v1-" ++ digest.asStr, stageToken_valid digest⟩

/-- Each command staged for a Decision has a context of its own, derived from the
Decision's. -/
def actionContext [Sha256] (context : DecisionOperationContext) (index : Nat) (kind : String) :
    ActionOperationContext where
  idempotencyId := stageIdempotencyId
    (Sha256.finalize (digestText context.idempotencyId.asStr ++ digestText kind ++ wordBytes index))
  correlationId := context.correlationId

def stageCommand (stage : Actions.Store) (ports : Actions.Ports) :
    DecisionStageCommand → Except ActionServiceError Actions.Store
  | .createResultingActionRequest spec sourceDecisionId decidedClassification context =>
    (Actions.createResultingActionRequestFromDecisionTransition stage ports spec sourceDecisionId
      decidedClassification context).map fun staged => Actions.Staged.store stage (.ok staged)
  | .markActionRequestSupersededPremise id expectedVersion sourceDecisionId decidedClassification context =>
    (Actions.markActionRequestSupersededPremiseFromDecision stage ports id expectedVersion sourceDecisionId
      decidedClassification context).map fun staged => Actions.Staged.store stage (.ok staged)
  | .markActionSupersededPremise id expectedVersion sourceDecisionId decidedClassification context =>
    (Actions.markActionSupersededPremiseFromDecision stage ports id expectedVersion sourceDecisionId
      decidedClassification context).map fun staged => Actions.Staged.store stage (.ok staged)

def stageAll (stage : Actions.Store) (commands : List (Actions.Ports × DecisionStageCommand)) :
    Except ActionServiceError Actions.Store :=
  commands.foldlM (fun stage command => stageCommand stage command.1 command.2) stage

structure ResolveTarget where
  requestId : DecisionRequestId
  requestVersion : AggregateVersion
  decisionId : DecisionId
  statement : DecisionText
  rationale : DecisionText
  impact : DecisionText
  owner : StakeholderId
  decidedAt : UtcTimestamp
  specs : List DecisionResultingActionRequest

def resolveTarget : WorkManagementOperation → Option ResolveTarget
  | .resolveDecisionRequest requestId requestVersion decisionId _ statement rationale impact owner decidedAt specs =>
    some ⟨requestId, requestVersion, decisionId, statement, rationale, impact, owner, decidedAt, specs⟩
  | _ => none

def ResolveTarget.operation (target : ResolveTarget) (request : DecisionRequestRecord) : WorkManagementOperation :=
  .resolveDecisionRequest target.requestId request.version target.decisionId request.classification target.statement
    target.rationale target.impact target.owner target.decidedAt target.specs

def ResolveTarget.decision (target : ResolveTarget) (classification : DataClassification)
    (support : SupportWitness) : DecisionRecord where
  id := target.decisionId
  sourceRequestId := some target.requestId
  statement := target.statement
  rationale := target.rationale
  impact := target.impact
  owner := target.owner
  decidedAt := target.decidedAt
  classification
  state := .effective
  support
  resultingActionRequestIds := target.specs.map (·.id)
  supersedesDecisionId := none
  supersededByDecisionId := none
  version := .initial

def resolvedRequest (request : DecisionRequestRecord) (decisionId : DecisionId) (later : AggregateVersion) :
    DecisionRequestRecord :=
  { request with state := .resolved, linkedDecisionId := some decisionId, version := later }

/-- What a preview of a supersession says is to be replaced, and by what. -/
structure SupersedeTarget where
  oldId : DecisionId
  oldVersion : AggregateVersion
  newId : DecisionId
  statement : DecisionText
  rationale : DecisionText
  impact : DecisionText
  owner : StakeholderId
  decidedAt : UtcTimestamp
  specs : List DecisionResultingActionRequest
  downstream : List IncompleteDownstreamWork

def supersedeTarget : WorkManagementOperation → Option SupersedeTarget
  | .supersedeDecision oldId oldVersion newId _ _ statement rationale impact owner decidedAt specs downstream =>
    some ⟨oldId, oldVersion, newId, statement, rationale, impact, owner, decidedAt, specs, downstream⟩
  | _ => none

def SupersedeTarget.operation (target : SupersedeTarget) (old : DecisionRecord) (support : SupportWitness) :
    WorkManagementOperation :=
  .supersedeDecision target.oldId old.version target.newId .initial (old.classification.combine support.classification)
    target.statement target.rationale target.impact target.owner target.decidedAt target.specs target.downstream

def SupersedeTarget.replacement (target : SupersedeTarget) (classification : DataClassification)
    (support : SupportWitness) : DecisionRecord where
  id := target.newId
  sourceRequestId := none
  statement := target.statement
  rationale := target.rationale
  impact := target.impact
  owner := target.owner
  decidedAt := target.decidedAt
  classification
  state := .effective
  support
  resultingActionRequestIds := target.specs.map (·.id)
  supersedesDecisionId := some target.oldId
  supersededByDecisionId := none
  version := .initial

def supersededRecord (old : DecisionRecord) (newId : DecisionId) (later : AggregateVersion) : DecisionRecord :=
  { old with state := .superseded, supersededByDecisionId := some newId, version := later }

/-- A stale record means that the preview no longer holds. -/
def stalePreview (error : DecisionError) : DecisionError := if error = .stale then .preparedChanged else error

def currentSupport (ports : Ports) (intent : WorkManagementPreparedIntent) : Except DecisionError SupportWitness := do
  let prior ← require .supportDenied intent.preview.support
  support ports (prior.evidence.map (·.id)) prior.judgments

/-- Both stores as an approval leaves them. -/
structure Pair where
  decisions : Store
  actions : Actions.Store

variable [Sha256]

def validate (ports : Ports) (intent : WorkManagementPreparedIntent) (approval : WorkManagementApproval)
    (operation : WorkManagementOperation) (classification : DataClassification) (support : Option SupportWitness) :
    Except DecisionError ApprovalReceiptId := do
  ensure (ports.currentPolicy operation = .allowed) .policyDenied
  let id ← require .infrastructure ports.nextApprovalReceiptId
  let fresh ← relabel mapPrepare
    (WorkManagementPreparedIntent.prepare intent.id operation classification support (ports.now .revalidation))
  let receipt ← relabel mapValidation
    (validateAndMintWorkManagementH2aReceipt intent approval
      { operation, classification := fresh.preview.classification,
        classificationSources := fresh.preview.classificationSources, support, policy := .allowed }
      (ports.now .minting) id ports.authorize)
  return receipt.id

def creations (context : DecisionOperationContext) (kind : String) (decisionId : DecisionId)
    (classification : DataClassification) (specs : List DecisionResultingActionRequest) : List DecisionStageCommand :=
  specs.zipIdx.map fun (spec, index) =>
    .createResultingActionRequest spec decisionId classification (actionContext context index kind)

def marking (context : DecisionOperationContext) (oldId : DecisionId) (classification : DataClassification)
    (index : Nat) : IncompleteDownstreamWork → DecisionStageCommand
  | .actionRequest id version _ =>
    .markActionRequestSupersededPremise id version oldId classification
      (actionContext context index "supersede-request")
  | .action id version _ =>
    .markActionSupersededPremise id version oldId classification (actionContext context index "supersede-action")

/-- The marks are numbered on from the requests created. -/
def markings (context : DecisionOperationContext) (oldId : DecisionId) (classification : DataClassification)
    (offset : Nat) (work : List IncompleteDownstreamWork) : List DecisionStageCommand :=
  (work.zipIdx offset).map fun (item, index) => marking context oldId classification index item

def Store.commit (state : Store) (command : ApproveAndExecute) (audits : List AuditEvent) (result : ResultValue) :
    Store :=
  { state with
    prepared := state.prepared.erase command.approval.preparedId
    audits := state.audits ++ audits
    idem := state.idem.insert command.context.idempotencyId (executionSignature command.approval, result) }

def answered (actionPorts : Nat → Actions.Ports) (commands : List DecisionStageCommand) :
    List (Actions.Ports × DecisionStageCommand) :=
  commands.zipIdx.map fun (command, index) => (actionPorts index, command)

def executeResolve (state : Store) (actions : Actions.Store) (ports : Ports) (actionPorts : Nat → Actions.Ports)
    (command : ApproveAndExecute) : Except DecisionError (Staged Pair ResolvedDecisionOutcome) := do
  let approval := command.approval
  let context := command.context
  ensure (approval.idempotencyId = context.idempotencyId) .idempotencyConflict
  replaying ResultValue.resolved? state context (executionSignature approval) do
    let intent ← require .preparedChanged state.prepared[approval.preparedId]?
    let target ← require .preparedChanged (resolveTarget intent.operation)
    let request ← relabel stalePreview (exactRequest state target.requestId target.requestVersion)
    ensure (request.state = .open ∧ request.intendedOwner = some target.owner) .preparedChanged
    ensure (state.decisions[target.decisionId]? = none) .alreadyExists
    let support ← currentSupport ports intent
    let receipt ← validate ports intent approval (target.operation request) request.classification (some support)
    let stage ← relabel mapAction (stageAll actions (answered actionPorts
      (creations context "resolve" target.decisionId intent.preview.classification target.specs)))
    let later ← next request.version
    let resolved := resolvedRequest request target.decisionId later
    let decision := target.decision intent.preview.classification support
    let first ← audit ports .first (.decisionRequest resolved.id) "decision_request.resolved" context true
    let second ← audit ports .second (.decision target.decisionId) "decision.created" context true
    let third ← audit ports .third (.decisionRequest resolved.id) "decision_request.decision_linked" context true
    let outcome : ResolvedDecisionOutcome :=
      ⟨resolved, decision, decision.resultingActionRequestIds, [first, second, third], receipt⟩
    let committed := state.commit command outcome.auditEvents (.resolved outcome)
    return .committed outcome
      ⟨{ committed with
          requests := state.requests.insert resolved.id resolved
          decisions := state.decisions.insert target.decisionId decision }, stage⟩

def executeSupersede (state : Store) (actions : Actions.Store) (ports : Ports) (actionPorts : Nat → Actions.Ports)
    (command : ApproveAndExecute) : Except DecisionError (Staged Pair SupersededDecisionOutcome) := do
  let approval := command.approval
  let context := command.context
  ensure (approval.idempotencyId = context.idempotencyId) .idempotencyConflict
  replaying ResultValue.superseded? state context (executionSignature approval) do
    let intent ← require .preparedChanged state.prepared[approval.preparedId]?
    let target ← require .preparedChanged (supersedeTarget intent.operation)
    let old ← relabel stalePreview (exactDecision state target.oldId target.oldVersion)
    ensure (old.state = .effective ∧ state.decisions[target.newId]? = none) .preparedChanged
    let support ← currentSupport ports intent
    ensure (downstream actions target.oldId = target.downstream) .preparedChanged
    let receipt ← validate ports intent approval (target.operation old support) old.classification (some support)
    let classification := intent.preview.classification
    let stage ← relabel mapAction (stageAll actions (answered actionPorts
      (creations context "supersede-create" target.newId classification target.specs ++
        markings context target.oldId classification target.specs.length target.downstream)))
    let later ← next old.version
    let superseded := supersededRecord old target.newId later
    let replacement := target.replacement classification support
    let first ← audit ports .first (.decision target.oldId) "decision.superseded" context true
    let second ← audit ports .second (.decision target.newId) "decision.replacement_created" context true
    let third ← audit ports .third (.decision target.oldId) "decision.replacement_linked" context true
    let outcome : SupersededDecisionOutcome :=
      ⟨superseded, replacement, replacement.resultingActionRequestIds, target.downstream, [first, second, third],
        receipt⟩
    let committed := state.commit command outcome.auditEvents (.superseded outcome)
    return .committed outcome
      ⟨{ committed with
          decisions := (state.decisions.insert target.oldId superseded).insert target.newId replacement }, stage⟩

structure LoweringTarget where
  decisionId : DecisionId
  decisionVersion : AggregateVersion
  proposedClassification : DataClassification
  rationale : WorkManagementRationale

def loweringTarget : WorkManagementOperation → Option LoweringTarget
  | .lowerDecisionClassification decisionId decisionVersion _ proposedClassification rationale =>
    some ⟨decisionId, decisionVersion, proposedClassification, rationale⟩
  | _ => none

/-- A lowering is put in place without passing through the commit. -/
def executeLowerDecisionClassification (state : Store) (ports : Ports) (command : ApproveAndExecute) :
    Except DecisionError (Staged Store (DecisionMutationOutcome DecisionRecord)) := do
  let approval := command.approval
  let context := command.context
  ensure (approval.idempotencyId = context.idempotencyId) .idempotencyConflict
  replaying ResultValue.lowered? state context (executionSignature approval) do
    let intent ← require .preparedChanged state.prepared[approval.preparedId]?
    let target ← require .preparedChanged (loweringTarget intent.operation)
    let record ← exactDecision state target.decisionId target.decisionVersion
    let operation := .lowerDecisionClassification target.decisionId record.version record.classification
      target.proposedClassification target.rationale
    let receipt ← validate ports intent approval operation record.classification none
    let later ← next record.version
    let lowered := { record with version := later, classification := target.proposedClassification }
    let event ← audit ports .first (.decision target.decisionId) "decision.classification_lowered" context true
    let outcome : DecisionMutationOutcome DecisionRecord := ⟨lowered, [event], some receipt⟩
    let committed := state.commit command [event] (.classificationLowered outcome)
    return .placed outcome { committed with decisions := state.decisions.insert target.decisionId lowered }

end MissionControl.Decisions

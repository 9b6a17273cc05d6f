import MissionControl.Actions.Failure
import MissionControl.Lib.Checked

/-! The commands of the in-memory Action service. Each computes the store it wants
from the store there is, and that store replaces the old one only when the whole
command succeeded. Everything outside the store answers through the ports. -/

namespace MissionControl.Actions
open Checked

inductive ActionExecutionPolicy where
  | allowed | denied
  deriving DecidableEq

inductive ActionEvidenceAuthorityError where
  | unavailable | notFound
  deriving DecidableEq

inductive AuditSlot where
  | first | second | third | failure

/-- The places where a command reads the clock. -/
inductive Reading where
  | preparation | revalidation | minting | transition | rejection
  | audit (slot : AuditSlot)

inductive Resolution where
  | command | denial

/-- What the clock, the id source, the authorization, the policy and the evidence
authority answer during one command. Every place that asks has an answer of its own. -/
structure Ports where
  now : Reading → UtcTimestamp
  nextActionId : Option ActionId
  nextPreparedIntentId : Option PreparedIntentId
  nextApprovalReceiptId : Option ApprovalReceiptId
  nextAuditEventId : AuditSlot → Option AuditEventId
  authorize : AuditActor → Bool
  currentPolicy : WorkManagementOperation → ActionExecutionPolicy
  resolve : Resolution → EvidenceReferenceId → Except ActionEvidenceAuthorityError EvidenceReferenceMetadata

/-- What a command decided: an outcome it had answered before, or a new store
to be committed or (for a preview) put in place at once. -/
inductive Staged (Outcome : Type) where
  | replayed (outcome : Outcome)
  | committed (outcome : Outcome) (store : Store)
  | placed (outcome : Outcome) (store : Store)

def Store.stage (store changed : Store) (context : ActionOperationContext) (signature : CommandIdentity)
    (result : StoredResult) (audits : List AuditEvent) : Except ActionServiceError Store := do
  ensure (store.nextOperationOrdinal + 1 < 2 ^ 64) .infrastructureFailure
  return { changed with
    auditEvents := store.auditEvents ++ audits
    idem := store.idem.insert context.idempotencyId
      ⟨signature, result, context.correlationId, store.nextOperationOrdinal⟩
    nextOperationOrdinal := store.nextOperationOrdinal + 1 }

/-- The intent leaves the pending previews for the discarded ones. -/
def Store.consume (store : Store) (id : PreparedIntentId) : Store :=
  match store.prepared[id]? with
  | some intent =>
    { store with prepared := store.prepared.erase id, discardedPrepared := store.discardedPrepared ++ [intent] }
  | none => store

def Store.discarded (store : Store) (id : PreparedIntentId) : Option WorkManagementPreparedIntent :=
  store.discardedPrepared.find? fun intent => intent.id = id

def Store.known (store : Store) (id : PreparedIntentId) : Option WorkManagementPreparedIntent :=
  store.prepared[id]?.or (store.discarded id)

def audit (ports : Ports) (slot : AuditSlot) (target : AuditTarget) (code : String)
    (context : ActionOperationContext) (approved : Bool) : Except ActionServiceError AuditEvent := do
  let id ← require .infrastructureFailure (ports.nextAuditEventId slot)
  let event ← relabel (fun _ => .infrastructureFailure) (CodeText.parse 96 code)
  let disposition ← relabel (fun _ => .infrastructureFailure)
    (AuditDisposition.new .allowed (if approved then .approved else .notRequired) .succeeded .complete [event])
  return .new id (ports.now (.audit slot)) .headOfProducts ⟨.workManagement, event, target⟩
    context.correlationId disposition

def replay (store : Store) (id : IdempotencyId) (signature : CommandIdentity) :
    Except ActionServiceError (Option StoredResult) :=
  match store.idem[id]? with
  | none => .ok none
  | some stored => if stored.signature = signature then .ok (some stored.result) else .error .idempotencyConflict

/-- What each kind of command accepts as its earlier answer. -/
def replayAs {Outcome : Type} (pick : StoredResult → Except ActionServiceError Outcome) (store : Store)
    (id : IdempotencyId) (signature : CommandIdentity) : Except ActionServiceError (Option Outcome) :=
  match replay store id signature with
  | .error cause => .error cause
  | .ok none => .ok none
  | .ok (some result) => (pick result).map some

def pickRequest : StoredResult → Except ActionServiceError (ActionMutationOutcome ActionRequestRecord)
  | .request outcome => .ok outcome
  | _ => .error .idempotencyConflict

def pickAction : StoredResult → Except ActionServiceError (ActionMutationOutcome ActionRecord)
  | .action outcome => .ok outcome
  | .terminal failure => .error failure.cause
  | _ => .error .idempotencyConflict

def pickAccepted : StoredResult → Except ActionServiceError AcceptedActionOutcome
  | .accepted outcome => .ok outcome
  | .terminal failure => .error failure.cause
  | _ => .error .idempotencyConflict

def pickPrepared : StoredResult → Except ActionServiceError WorkManagementPreparedIntent
  | .prepared intent => .ok intent
  | .terminal failure => .error failure.cause
  | _ => .error .idempotencyConflict

def pickRejected : StoredResult → Except ActionServiceError RejectedPreparedIntentOutcome
  | .rejected outcome => .ok outcome
  | _ => .error .idempotencyConflict

def replayRequest := replayAs pickRequest
def replayAction := replayAs pickAction
def replayAccepted := replayAs pickAccepted
def replayPrepared := replayAs pickPrepared
def replayRejected := replayAs pickRejected

/-- The signature a link was stored under also holds the classification its
evidence had, which the command reissued does not know. -/
def sameLinkCommand : CommandIdentity → CommandIdentity → Bool
  | .linkCompletionEvidence storedAction storedVersion storedEvidence _,
    .linkCompletionEvidence actionId expectedVersion evidenceId _ =>
    storedAction == actionId && storedVersion == expectedVersion && storedEvidence == evidenceId
  | _, _ => false

def replayLinkAction (store : Store) (id : IdempotencyId) (signature : CommandIdentity) :
    Except ActionServiceError (Option (ActionMutationOutcome ActionRecord)) :=
  match store.idem[id]? with
  | none => .ok none
  | some stored =>
    if sameLinkCommand stored.signature signature then
      match stored.result with
      | .action outcome => .ok (some outcome)
      | _ => .error .idempotencyConflict
    else .error .idempotencyConflict

/-- A command answers what it answered before; only a new one goes on. -/
def orReplay {Outcome : Type} (replayed : Except ActionServiceError (Option Outcome))
    (fresh : Except ActionServiceError (Staged Outcome)) : Except ActionServiceError (Staged Outcome) :=
  match replayed with
  | .error cause => .error cause
  | .ok (some outcome) => .ok (.replayed outcome)
  | .ok none => fresh

def exactRequest (store : Store) (id : ActionRequestId) (version : AggregateVersion) :
    Except ActionServiceError ActionRequestRecord := do
  let record ← require .notFound store.requests[id]?
  ensure (record.version = version) .staleVersion
  return record

def exactAction (store : Store) (id : ActionId) (version : AggregateVersion) :
    Except ActionServiceError ActionRecord := do
  let record ← require .notFound store.actions[id]?
  ensure (record.version = version) .staleVersion
  return record

def next (version : AggregateVersion) : Except ActionServiceError AggregateVersion :=
  require .infrastructureFailure version.next

def storeRequest (store : Store) (ports : Ports) (record : ActionRequestRecord) (context : ActionOperationContext)
    (signature : CommandIdentity) (code : String) (approved : Bool) :
    Except ActionServiceError (Staged (ActionMutationOutcome ActionRequestRecord)) := do
  let event ← audit ports .first (.actionRequest record.id) code context approved
  let outcome : ActionMutationOutcome ActionRequestRecord := ⟨record, [event], none⟩
  let staged ← store.stage { store with requests := store.requests.insert record.id record } context signature
    (.request outcome) [event]
  return .committed outcome staged

def storeAction (store : Store) (ports : Ports) (record : ActionRecord) (context : ActionOperationContext)
    (signature : CommandIdentity) (receipt : Option ApprovalReceiptId) (code : String) (approved : Bool) :
    Except ActionServiceError (Staged (ActionMutationOutcome ActionRecord)) := do
  let event ← audit ports .first (.action record.id) code context approved
  let outcome : ActionMutationOutcome ActionRecord := ⟨record, [event], receipt⟩
  let staged ← store.stage { store with actions := store.actions.insert record.id record } context signature
    (.action outcome) [event]
  return .committed outcome staged

def storePrepared (store : Store) (intent : WorkManagementPreparedIntent) (context : ActionOperationContext)
    (signature : CommandIdentity) : Except ActionServiceError (Staged WorkManagementPreparedIntent) := do
  let staged ← store.stage { store with prepared := store.prepared.insert intent.id intent } context signature
    (.prepared intent) []
  return .placed intent staged

def draftRecord (command : CreateActionRequestDraft) : ActionRequestRecord where
  id := command.id
  title := command.title
  details := command.details
  intendedOwner := command.intendedOwner
  responseDueAt := command.responseDueAt
  intendedActionDueAt := command.intendedActionDueAt
  classification := command.classification
  state := .draft
  terminalRationale := none
  linkedActionId := none
  sourceDecisionId := none
  supersededPremise := false
  version := .initial

def CreateActionRequestDraft.identity (command : CreateActionRequestDraft) : CommandIdentity :=
  .createRequest command.id command.title command.details command.intendedOwner command.responseDueAt
    command.intendedActionDueAt command.classification

def createActionRequestDraftCause (store : Store) (ports : Ports) (command : CreateActionRequestDraft) :
    Except ActionServiceError (Staged (ActionMutationOutcome ActionRequestRecord)) :=
  orReplay (replayRequest store command.context.idempotencyId command.identity) do
    ensure (store.requests[command.id]? = none) .alreadyExists
    storeRequest store ports (draftRecord command) command.context command.identity "action_request.created" false

def transitionCode : ActionRequestState → String
  | .open => "action_request.submitted"
  | .declined => "action_request.declined"
  | .withdrawn => "action_request.withdrawn"
  | .draft | .accepted => "action_request.mutated"

def requestTransition (store : Store) (ports : Ports) (id : ActionRequestId) (version : AggregateVersion)
    (reason : Option ActionDetails) (source target : ActionRequestState) (context : ActionOperationContext) :
    Except ActionServiceError (Staged (ActionMutationOutcome ActionRequestRecord)) :=
  let signature := .transitionRequest id version target reason
  orReplay (replayRequest store context.idempotencyId signature) do
    let record ← exactRequest store id version
    ensure (record.state = source) .illegalTransition
    let later ← next record.version
    storeRequest store ports { record with state := target, terminalRationale := reason, version := later } context
      signature (transitionCode target) false

def submitActionRequestCause (store : Store) (ports : Ports) (command : SubmitActionRequest) :=
  requestTransition store ports command.requestId command.expectedVersion none .draft .open command.context

def declineActionRequestCause (store : Store) (ports : Ports) (command : DeclineActionRequest) :=
  requestTransition store ports command.requestId command.expectedVersion (some command.rationale) .open .declined
    command.context

def withdrawActionRequestCause (store : Store) (ports : Ports) (command : WithdrawActionRequest) :=
  requestTransition store ports command.requestId command.expectedVersion (some command.rationale) .open .withdrawn
    command.context

def startedRecord (record : ActionRecord) (occurredAt : UtcTimestamp) (later : AggregateVersion) : ActionRecord :=
  { record with
    transitionHistory := record.transitionHistory ++ [⟨record.state, .inProgress, none, occurredAt, none, none⟩]
    state := .inProgress
    version := later }

def startActionCause (store : Store) (ports : Ports) (command : StartAction) :
    Except ActionServiceError (Staged (ActionMutationOutcome ActionRecord)) :=
  let signature := .startAction command.actionId command.expectedVersion
  orReplay (replayAction store command.context.idempotencyId signature) do
    let record ← exactAction store command.actionId command.expectedVersion
    ensure (record.state = .open) .illegalTransition
    let later ← next record.version
    storeAction store ports (startedRecord record (ports.now .transition) later) command.context signature none
      "action.started" false

def resolveEvidence (ports : Ports) (id : EvidenceReferenceId) :
    Except ActionServiceError EvidenceReferenceMetadata :=
  relabel
    (fun error => match error with
      | .unavailable => .evidenceUnavailable
      | .notFound => .invalidEvidence)
    (ports.resolve .command id)

def linkedRecord (record : ActionRecord) (evidence : EvidenceReferenceId) (classification : DataClassification)
    (later : AggregateVersion) : ActionRecord :=
  { record with
    classification := record.classification.combine classification
    completionEvidence := record.completionEvidence ++ [evidence]
    version := later }

def linkActionCompletionEvidenceCause (store : Store) (ports : Ports) (command : LinkActionCompletionEvidence) :
    Except ActionServiceError (Staged (ActionMutationOutcome ActionRecord)) :=
  let signature := .linkCompletionEvidence command.actionId command.expectedVersion command.evidenceId none
  orReplay (replayLinkAction store command.context.idempotencyId signature) do
    let record ← exactAction store command.actionId command.expectedVersion
    ensure (record.state = .inProgress) .illegalTransition
    let evidence ← resolveEvidence ports command.evidenceId
    ensure (evidence.role = .actionCompletion) .invalidEvidence
    ensure (command.evidenceId ∉ record.completionEvidence) .alreadyExists
    let later ← next record.version
    storeAction store ports (linkedRecord record command.evidenceId evidence.classification later) command.context
      (.linkCompletionEvidence command.actionId command.expectedVersion command.evidenceId
        (some evidence.classification))
      none "action.completion_evidence_linked" false

structure AuthoritativeSnapshot where
  classification : DataClassification
  bindings : List EvidenceClassificationBinding
  evidence : List EvidenceReferenceMetadata

def sortEvidence (evidence : List EvidenceReferenceMetadata) : List EvidenceReferenceMetadata :=
  evidence.insertionSort fun left right => left.id ≤ right.id

/-- Support once accepted keeps what the record had become; before that the
commitment is the base. -/
def baseClassification (action : ActionRecord) : DataClassification :=
  if action.support.isSome then action.classification else action.commitmentClassification

def authoritativeActionSnapshot (ports : Ports) (action : ActionRecord) :
    Except ActionServiceError AuthoritativeSnapshot := do
  ensure (action.commitmentClassification ≠ .unclassified) .classificationUnresolved
  let resolved ← action.completionEvidence.mapM (resolveEvidence ports)
  ensure (∀ item ∈ resolved, item.classification ≠ .unclassified) .classificationUnresolved
  let evidence := sortEvidence resolved
  return {
    classification := DataClassification.combineAll (baseClassification action) (evidence.map (·.classification))
    bindings := sortBindings (evidence.map fun item => ⟨item.id, item.classification⟩)
    evidence }

def prepare (ports : Ports) (operation : WorkManagementOperation) (classification : DataClassification)
    (support : Option SupportWitness) : Except ActionServiceError WorkManagementPreparedIntent := do
  let id ← require .infrastructureFailure ports.nextPreparedIntentId
  relabel mapPrepare
    (WorkManagementPreparedIntent.prepare id operation classification support (ports.now .preparation))

def prepareStored (store : Store) (context : ActionOperationContext) (signature : CommandIdentity)
    (preview : Except ActionServiceError WorkManagementPreparedIntent) :
    Except ActionServiceError (Staged WorkManagementPreparedIntent) :=
  orReplay (replayPrepared store context.idempotencyId signature) do
    let intent ← preview
    storePrepared store intent context signature

def acceptPreview (store : Store) (ports : Ports) (requestId : ActionRequestId) (version : AggregateVersion) :
    Except ActionServiceError WorkManagementPreparedIntent := do
  let record ← exactRequest store requestId version
  ensure (record.state = .open) .illegalTransition
  let owner ← require .missingOwner record.intendedOwner
  let due ← require .missingDueDate record.intendedActionDueAt
  let actionId ← require .infrastructureFailure ports.nextActionId
  ensure (store.actions[actionId]? = none) .alreadyExists
  prepare ports
    (.acceptActionRequest requestId version actionId record.classification record.title record.details owner due)
    record.classification none

def PrepareAcceptActionRequest.identity (command : PrepareAcceptActionRequest) : CommandIdentity :=
  .prepareAccept command.requestId command.expectedVersion

def prepareAcceptActionRequestCause (store : Store) (ports : Ports) (command : PrepareAcceptActionRequest) :=
  prepareStored store command.context command.identity
    (acceptPreview store ports command.requestId command.expectedVersion)

def completePreview (store : Store) (ports : Ports) (actionId : ActionId) (version : AggregateVersion)
    (judgments : List HumanJudgment) : Except ActionServiceError WorkManagementPreparedIntent := do
  let record ← exactAction store actionId version
  ensure (record.state = .inProgress) .illegalTransition
  ensure (record.completionEvidence ≠ []) .evidencePolicyDenied
  let snapshot ← relabel (fun _ => .evidencePolicyDenied) (authoritativeActionSnapshot ports record)
  let offered ← relabel (fun _ => .evidencePolicyDenied)
    (EvidenceOrJudgment.new (sortEvidence snapshot.evidence) judgments)
  let support ← relabel (fun _ => .evidencePolicyDenied) offered.evaluateEvidenceRequired
  prepare ports (.completeAction actionId version) (snapshot.classification.combine support.classification)
    (some support)

def PrepareCompleteAction.identity (command : PrepareCompleteAction) : CommandIdentity :=
  .prepareComplete command.actionId command.expectedVersion command.judgment

def prepareCompleteActionCause (store : Store) (ports : Ports) (command : PrepareCompleteAction) :=
  prepareStored store command.context command.identity
    (completePreview store ports command.actionId command.expectedVersion command.judgment.toList)

/-- A preview that would lower what the record already holds is refused. -/
def keepsClassification (record : ActionRecord) (current : DataClassification) : Prop :=
  record.classification = .unclassified ∨ record.classification.combine current = current

instance (record : ActionRecord) (current : DataClassification) : Decidable (keepsClassification record current) :=
  inferInstanceAs (Decidable (_ ∨ _))

def cancelPreview (store : Store) (ports : Ports) (actionId : ActionId) (version : AggregateVersion)
    (reason : ActionDetails) : Except ActionServiceError WorkManagementPreparedIntent := do
  let record ← exactAction store actionId version
  ensure (record.state = .open ∨ record.state = .inProgress) .illegalTransition
  let snapshot ← authoritativeActionSnapshot ports record
  ensure (keepsClassification record snapshot.classification) .classificationUnresolved
  prepare ports (.cancelAction actionId version reason snapshot.bindings) snapshot.classification none

def PrepareCancelAction.identity (command : PrepareCancelAction) : CommandIdentity :=
  .prepareCancel command.actionId command.expectedVersion command.reason

def prepareCancelActionCause (store : Store) (ports : Ports) (command : PrepareCancelAction) :=
  prepareStored store command.context command.identity
    (cancelPreview store ports command.actionId command.expectedVersion command.reason)

def reopenModeMatches (state : ActionState) (mode : ActionReopenMode) : Prop :=
  (state = .completed ∧ mode = .reopenCompleted) ∨ (state = .cancelled ∧ mode = .restartCancelled)

instance (state : ActionState) (mode : ActionReopenMode) : Decidable (reopenModeMatches state mode) :=
  inferInstanceAs (Decidable (_ ∨ _))

def reopenPreview (store : Store) (ports : Ports) (actionId : ActionId) (version : AggregateVersion)
    (mode : ActionReopenMode) (reason : ActionDetails) : Except ActionServiceError WorkManagementPreparedIntent := do
  let record ← exactAction store actionId version
  ensure (reopenModeMatches record.state mode) .invalidReopenMode
  let snapshot ← authoritativeActionSnapshot ports record
  ensure (keepsClassification record snapshot.classification) .classificationUnresolved
  prepare ports (.reopenAction actionId version mode reason snapshot.bindings) snapshot.classification none

def PrepareReopenAction.identity (command : PrepareReopenAction) : CommandIdentity :=
  .prepareReopen command.actionId command.expectedVersion command.mode command.reason

def prepareReopenActionCause (store : Store) (ports : Ports) (command : PrepareReopenAction) :=
  prepareStored store command.context command.identity
    (reopenPreview store ports command.actionId command.expectedVersion command.mode command.reason)

/-- True only when `proposed` is strictly less restrictive than `current`. -/
def isGenuineLowering (current proposed : DataClassification) : Prop := proposed.combine current ≠ proposed

instance (current proposed : DataClassification) : Decidable (isGenuineLowering current proposed) :=
  inferInstanceAs (Decidable (_ ≠ _))

def lowerPreview (store : Store) (ports : Ports) (actionId : ActionId) (version : AggregateVersion)
    (proposed : DataClassification) (rationale : WorkManagementRationale) :
    Except ActionServiceError WorkManagementPreparedIntent := do
  let record ← exactAction store actionId version
  ensure (isGenuineLowering record.classification proposed) .notALowering
  prepare ports (.lowerActionClassification actionId version record.classification proposed rationale)
    record.classification none

def PrepareLowerActionClassification.identity (command : PrepareLowerActionClassification) : CommandIdentity :=
  .prepareLowerActionClassification command.actionId command.expectedVersion command.proposedClassification
    command.rationale

def prepareLowerActionClassificationCause (store : Store) (ports : Ports)
    (command : PrepareLowerActionClassification) :=
  prepareStored store command.context command.identity
    (lowerPreview store ports command.actionId command.expectedVersion command.proposedClassification
      command.rationale)

end MissionControl.Actions

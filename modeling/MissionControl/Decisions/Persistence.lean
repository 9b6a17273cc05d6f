import MissionControl.Decisions.Run
import MissionControl.Lib.Sorting

/-! The persistence boundary of the Decision service: the commands and results a Ledger
keeps, the checks their history passes, and the service made from what passed. -/

namespace MissionControl.Decisions
open Checked Staging

inductive DecisionPersistenceCommand where
  | createRequest (id : DecisionRequestId) (subject : DecisionSubject) (details : DecisionText)
      (intendedOwner : Option StakeholderId) (classification : DataClassification)
  | submitRequest (requestId : DecisionRequestId) (expectedVersion : AggregateVersion)
  | withdrawRequest (requestId : DecisionRequestId) (expectedVersion : AggregateVersion)
      (rationale : DecisionWithdrawalRationale)
  | prepareResolve (requestId : DecisionRequestId) (expectedVersion : AggregateVersion)
      (statement rationale impact : DecisionText) (evidenceIds : List EvidenceReferenceId)
      (judgments : List HumanJudgment) (resultingActionRequests : List DecisionResultingActionRequest)
  | executeResolve (approval : WorkManagementApproval)
  | prepareLowerClassification (decisionId : DecisionId) (expectedVersion : AggregateVersion)
      (proposedClassification : DataClassification) (rationale : WorkManagementRationale)
  | executeLowerClassification (approval : WorkManagementApproval)
  | prepareSupersede (decisionId : DecisionId) (expectedVersion : AggregateVersion)
      (replacementStatement replacementRationale replacementImpact : DecisionText)
      (replacementOwner : StakeholderId) (evidenceIds : List EvidenceReferenceId)
      (judgments : List HumanJudgment) (resultingActionRequests : List DecisionResultingActionRequest)
  | executeSupersede (approval : WorkManagementApproval)
  | rejectPrepared (preparedId : PreparedIntentId) (actor : AuditActor)

inductive DecisionPersistenceResult where
  | request (outcome : DecisionMutationOutcome DecisionRequestRecord)
  | prepared (intent : WorkManagementPreparedIntent)
  | resolved (outcome : ResolvedDecisionOutcome)
  | lowered (outcome : DecisionMutationOutcome DecisionRecord)
  | superseded (outcome : SupersededDecisionOutcome)
  | rejected (outcome : Actions.RejectedPreparedIntentOutcome)

structure DecisionReplayCapsule where
  idempotencyId : IdempotencyId
  originalCorrelationId : CorrelationId
  operationOrdinal : Nat
  command : DecisionPersistenceCommand
  result : DecisionPersistenceResult
  auditEventIds : List AuditEventId

/-- The rows as they are decoded, and, once they passed the checks, the snapshot. -/
structure DecisionPersistenceSnapshot where
  requests : List DecisionRequestRecord
  decisions : List DecisionRecord
  prepared : List WorkManagementPreparedIntent
  replay : List DecisionReplayCapsule
  audits : List AuditEvent

inductive DecisionRehydrationError where
  | unsupportedState | duplicateRecord | duplicateIdempotency | duplicateAuditEvent | operationOrderMismatch
  | commandResultMismatch | auditMismatch | orphanRecord | orphanAuditEvent

def secondVersion : AggregateVersion := AggregateVersion.initial.next.getD .initial

def thirdVersion : AggregateVersion := (AggregateVersion.initial.next.bind AggregateVersion.next).getD .initial

def legalRequest (request : DecisionRequestRecord) : Bool :=
  match request.state with
  | .draft => request.version = .initial && request.withdrawalRationale.isNone && request.linkedDecisionId.isNone
  | .open => request.version = secondVersion && request.withdrawalRationale.isNone && request.linkedDecisionId.isNone
  | .withdrawn =>
    request.version = thirdVersion && request.withdrawalRationale.isSome && request.linkedDecisionId.isNone
  | .resolved =>
    request.version = thirdVersion && request.withdrawalRationale.isNone && request.linkedDecisionId.isSome

/-- `windows(2).all(|pair| pair[0] < pair[1])`. -/
def increasing {Key : Type} [LinearOrder Key] (keys : List Key) : Bool := !anyAdjacent (fun left right => !(left < right)) keys

def legalDecision (decision : DecisionRecord) : Bool :=
  decision.sourceRequestId.isSome != decision.supersedesDecisionId.isSome &&
    (match decision.state with
      | .effective => decision.supersededByDecisionId.isNone
      | .superseded => decision.supersededByDecisionId.isSome) &&
    increasing decision.resultingActionRequestIds

def submittedOpen (draft : DecisionRequestRecord) : Option DecisionRequestRecord :=
  if draft.state = .draft ∧ draft.version = .initial ∧ draft.withdrawalRationale = none ∧
      draft.linkedDecisionId = none then
    some { draft with state := .open, version := secondVersion }
  else none

def openToWithdrawn (request : DecisionRequestRecord) (rationale : DecisionWithdrawalRationale) :
    Option DecisionRequestRecord :=
  if request.state = .open ∧ request.version = secondVersion ∧ request.withdrawalRationale = none ∧
      request.linkedDecisionId = none then
    some { request with state := .withdrawn, withdrawalRationale := some rationale, version := thirdVersion }
  else none

/-- What the capsules before one have come to. -/
structure Validation where
  count : Nat
  idempotencyIds : List IdempotencyId
  timeline : KeyMap DecisionRequestId DecisionRequestRecord
  decisionTimeline : KeyMap DecisionId DecisionRecord
  preparedHistory : KeyMap PreparedIntentId WorkManagementPreparedIntent
  consumedPrepared : List PreparedIntentId
  claimedAudits : List AuditEventId

def Validation.empty : Validation := ⟨0, [], ∅, ∅, ∅, [], []⟩

abbrev Audits := KeyMap AuditEventId AuditEvent

namespace DecisionPersistenceResult

def request? : DecisionPersistenceResult → Option (DecisionMutationOutcome DecisionRequestRecord)
  | .request outcome => some outcome
  | _ => none

def prepared? : DecisionPersistenceResult → Option WorkManagementPreparedIntent
  | .prepared intent => some intent
  | _ => none

def resolved? : DecisionPersistenceResult → Option ResolvedDecisionOutcome
  | .resolved outcome => some outcome
  | _ => none

def lowered? : DecisionPersistenceResult → Option (DecisionMutationOutcome DecisionRecord)
  | .lowered outcome => some outcome
  | _ => none

def superseded? : DecisionPersistenceResult → Option SupersededDecisionOutcome
  | .superseded outcome => some outcome
  | _ => none

def rejected? : DecisionPersistenceResult → Option Actions.RejectedPreparedIntentOutcome
  | .rejected outcome => some outcome
  | _ => none

variable {result : DecisionPersistenceResult}

theorem request_of {outcome : DecisionMutationOutcome DecisionRequestRecord} (answer : result.request? = some outcome) :
    result = .request outcome := by
  cases result <;> cases answer
  rfl

theorem prepared_of {intent : WorkManagementPreparedIntent} (answer : result.prepared? = some intent) :
    result = .prepared intent := by
  cases result <;> cases answer
  rfl

theorem resolved_of {outcome : ResolvedDecisionOutcome} (answer : result.resolved? = some outcome) :
    result = .resolved outcome := by
  cases result <;> cases answer
  rfl

theorem lowered_of {outcome : DecisionMutationOutcome DecisionRecord} (answer : result.lowered? = some outcome) :
    result = .lowered outcome := by
  cases result <;> cases answer
  rfl

theorem superseded_of {outcome : SupersededDecisionOutcome} (answer : result.superseded? = some outcome) :
    result = .superseded outcome := by
  cases result <;> cases answer
  rfl

theorem rejected_of {outcome : Actions.RejectedPreparedIntentOutcome} (answer : result.rejected? = some outcome) :
    result = .rejected outcome := by
  cases result <;> cases answer
  rfl

end DecisionPersistenceResult

/-- An audit is the row there is under its id, and says what an operation of the kind
records: that it succeeded, under the code, about the target. -/
def auditRecorded (audits : Audits) (capsule : DecisionReplayCapsule) (approval : AuditApprovalOutcome)
    (audit : AuditEvent) (id : AuditEventId) (code : String) (target : AuditTarget) : Bool :=
  audit.id = id && audits[id]? = some audit && audit.correlationId = capsule.originalCorrelationId &&
    audit.actor = .headOfProducts && audit.module = .workManagement && audit.code.asStr = code &&
    audit.target = target && audit.policyOutcome = .allowed && audit.approvalOutcome = approval &&
    audit.executionOutcome = .succeeded && audit.effectScope = .complete &&
    audit.actualEffects.map (·.asStr) = [code]

/-- The audits of a capsule, one by one, each with the id, the code and the target it
must have. -/
def claimAudits (state : Validation) (audits : Audits) (capsule : DecisionReplayCapsule)
    (approval : AuditApprovalOutcome) (events : List AuditEvent) (expected : List (String × AuditTarget)) :
    Except DecisionRehydrationError Validation := do
  ensure (∀ entry ∈ (events.zip capsule.auditEventIds).zip expected,
    auditRecorded audits capsule approval entry.1.1 entry.1.2 entry.2.1 entry.2.2 = true) .auditMismatch
  return { state with claimedAudits := state.claimedAudits ++ capsule.auditEventIds }

/-- What the three commands without a preview end with. -/
def recordRequest (state : Validation) (audits : Audits) (capsule : DecisionReplayCapsule)
    (outcome : DecisionMutationOutcome DecisionRequestRecord) (requestId : DecisionRequestId)
    (request : DecisionRequestRecord) (code : String) : Except DecisionRehydrationError Validation := do
  ensure (outcome.record = request) .commandResultMismatch
  ensure (outcome.approvalReceiptId = none ∧ outcome.auditEvents.length = 1 ∧ capsule.auditEventIds.length = 1)
    .commandResultMismatch
  ensure (request.id = requestId) .auditMismatch
  claimAudits { state with timeline := state.timeline.insert requestId request } audits capsule .notRequired
    outcome.auditEvents [(code, .decisionRequest requestId)]

/-- The classification a preview shows for what it is about, and the version of a
replacement. -/
def previewedClassification : WorkManagementOperation → Option DataClassification
  | .resolveDecisionRequest _ _ _ classification .. => some classification
  | .supersedeDecision _ _ _ _ classification .. => some classification
  | .lowerDecisionClassification _ _ current _ _ => some current
  | _ => none

def replacementVersion : WorkManagementOperation → Option AggregateVersion
  | .supersedeDecision _ _ _ version .. => some version
  | _ => none

/-- A preview is new to the history, and its capsule has no audits. The digest stored
beside a preview is always its own. -/
def recordPrepared (state : Validation) (capsule : DecisionReplayCapsule) (intent : WorkManagementPreparedIntent) :
    Except DecisionRehydrationError Validation := do
  ensure (capsule.auditEventIds = [] ∧ state.preparedHistory[intent.id]? = none) .commandResultMismatch
  return { state with preparedHistory := state.preparedHistory.insert intent.id intent }

def validateCreate (state : Validation) (audits : Audits) (capsule : DecisionReplayCapsule)
    (record : DecisionRequestRecord) : Except DecisionRehydrationError Validation := do
  let outcome ← require .commandResultMismatch capsule.result.request?
  ensure (state.timeline[record.id]? = none) .commandResultMismatch
  recordRequest state audits capsule outcome record.id record "decision_request.created"

def validateTransition (state : Validation) (audits : Audits) (capsule : DecisionReplayCapsule)
    (requestId : DecisionRequestId) (expectedVersion : AggregateVersion)
    (change : DecisionRequestRecord → Option DecisionRequestRecord) (code : String) :
    Except DecisionRehydrationError Validation := do
  let outcome ← require .commandResultMismatch capsule.result.request?
  let prior ← require .orphanRecord state.timeline[requestId]?
  ensure (prior.version = expectedVersion) .commandResultMismatch
  let request ← require .commandResultMismatch (change prior)
  recordRequest state audits capsule outcome requestId request code

def resolvePreviewMatches (state : Validation) (request : DecisionRequestRecord)
    (intent : WorkManagementPreparedIntent) (target : ResolveTarget) (support : SupportWitness)
    (command : PrepareResolveDecisionRequest) : Bool :=
  request.version = command.expectedVersion && request.state = .open && request.intendedOwner = some target.owner &&
    target.requestId = command.requestId && target.requestVersion = command.expectedVersion &&
    previewedClassification intent.operation = some request.classification &&
    target.statement = command.statement && target.rationale = command.rationale && target.impact = command.impact &&
    state.decisionTimeline[target.decisionId]?.isNone &&
    intent.preview.classification = request.classification.combine support.classification &&
    increasing (target.specs.map (·.id)) && target.specs = command.resultingActionRequests &&
    support.evidence.map (·.id) = command.evidenceIds && support.judgments = command.judgments

def validatePrepareResolve (state : Validation) (capsule : DecisionReplayCapsule)
    (command : PrepareResolveDecisionRequest) : Except DecisionRehydrationError Validation := do
  let intent ← require .commandResultMismatch capsule.result.prepared?
  let request ← require .orphanRecord state.timeline[command.requestId]?
  let target ← require .commandResultMismatch (resolveTarget intent.operation)
  let support ← require .commandResultMismatch intent.preview.support
  ensure (resolvePreviewMatches state request intent target support command = true) .commandResultMismatch
  recordPrepared state capsule intent

def supersedePreviewMatches (state : Validation) (decision : DecisionRecord) (intent : WorkManagementPreparedIntent)
    (target : SupersedeTarget) (support : SupportWitness) (command : PrepareSupersedeDecision) : Bool :=
  decision.version = command.expectedVersion && decision.state = .effective && target.oldId = command.decisionId &&
    target.oldVersion = command.expectedVersion && target.statement = command.replacementStatement &&
    target.rationale = command.replacementRationale && target.impact = command.replacementImpact &&
    target.owner = command.replacementOwner && replacementVersion intent.operation = some .initial &&
    target.newId ≠ command.decisionId && state.decisionTimeline[target.newId]?.isNone &&
    previewedClassification intent.operation = some (decision.classification.combine support.classification) &&
    intent.preview.classification = decision.classification && increasing (target.specs.map (·.id)) &&
    target.specs = command.resultingActionRequests && support.evidence.map (·.id) = command.evidenceIds &&
    support.judgments = command.judgments

def validatePrepareSupersede (state : Validation) (capsule : DecisionReplayCapsule)
    (command : PrepareSupersedeDecision) : Except DecisionRehydrationError Validation := do
  let intent ← require .commandResultMismatch capsule.result.prepared?
  let decision ← require .orphanRecord state.decisionTimeline[command.decisionId]?
  let target ← require .commandResultMismatch (supersedeTarget intent.operation)
  let support ← require .commandResultMismatch intent.preview.support
  ensure (supersedePreviewMatches state decision intent target support command = true) .commandResultMismatch
  recordPrepared state capsule intent

/-- Whether the proposed classification is lower is not asked here. -/
def lowerPreviewMatches (decision : DecisionRecord) (intent : WorkManagementPreparedIntent) (target : LoweringTarget)
    (command : PrepareLowerDecisionClassification) : Bool :=
  decision.version = command.expectedVersion && target.decisionId = command.decisionId &&
    target.decisionVersion = command.expectedVersion &&
    previewedClassification intent.operation = some decision.classification &&
    target.proposedClassification = command.proposedClassification && target.rationale = command.rationale &&
    intent.preview.classification = decision.classification

def validatePrepareLower (state : Validation) (capsule : DecisionReplayCapsule)
    (command : PrepareLowerDecisionClassification) : Except DecisionRehydrationError Validation := do
  let intent ← require .commandResultMismatch capsule.result.prepared?
  let decision ← require .orphanRecord state.decisionTimeline[command.decisionId]?
  let target ← require .commandResultMismatch (loweringTarget intent.operation)
  ensure (lowerPreviewMatches decision intent target command = true) .commandResultMismatch
  recordPrepared state capsule intent

def validateReject (state : Validation) (audits : Audits) (capsule : DecisionReplayCapsule)
    (preparedId : PreparedIntentId) (actor : AuditActor) : Except DecisionRehydrationError Validation := do
  let outcome ← require .commandResultMismatch capsule.result.rejected?
  let prepared ← require .orphanRecord state.preparedHistory[preparedId]?
  let target ← require .commandResultMismatch (resolveTarget prepared.operation)
  let audit := outcome.auditEvent
  ensure (actor = .headOfProducts ∧ outcome.preparedIntentId = preparedId ∧ outcome.rejectedAt = audit.occurredAt ∧
    outcome.expiredAtRejection = decide (outcome.rejectedAt ≥ prepared.preview.expiresAt) ∧
    capsule.auditEventIds = [audit.id] ∧ preparedId ∉ state.consumedPrepared) .commandResultMismatch
  ensure (audits[audit.id]? = some audit ∧ Actions.preparedIntentRejectionAudit audit.id audit.occurredAt
    "decision.prepared_rejected" (.decisionRequest target.requestId) capsule.originalCorrelationId = some audit)
    .auditMismatch
  return { state with
    consumedPrepared := preparedId :: state.consumedPrepared
    claimedAudits := state.claimedAudits ++ [audit.id] }

section
variable [Sha256]

def approves (state : Validation) (capsule : DecisionReplayCapsule) (approval : WorkManagementApproval)
    (prepared : WorkManagementPreparedIntent) : Bool :=
  approval.idempotencyId = capsule.idempotencyId && approval.actor = .headOfProducts &&
    approval.acknowledgedPayloadDigest = prepared.payloadDigest && approval.preparedId ∉ state.consumedPrepared

def Validation.consume (state : Validation) (id : PreparedIntentId) : Validation :=
  { state with consumedPrepared := id :: state.consumedPrepared }

def validateExecuteResolve (state : Validation) (audits : Audits) (capsule : DecisionReplayCapsule)
    (approval : WorkManagementApproval) : Except DecisionRehydrationError Validation := do
  let outcome ← require .commandResultMismatch capsule.result.resolved?
  let prepared ← require .orphanRecord state.preparedHistory[approval.preparedId]?
  let target ← require .commandResultMismatch (resolveTarget prepared.operation)
  let previous ← require .orphanRecord state.timeline[target.requestId]?
  let support ← require .commandResultMismatch prepared.preview.support
  let later ← require .commandResultMismatch previous.version.next
  let request := resolvedRequest previous target.decisionId later
  let decision := target.decision prepared.preview.classification support
  ensure (approves state capsule approval prepared = true ∧ previous.version = target.requestVersion ∧
    previous.state = .open ∧ previous.intendedOwner = some target.owner ∧
    state.decisionTimeline[target.decisionId]? = none ∧ outcome.request = request ∧ outcome.decision = decision ∧
    outcome.resultingActionRequestIds = decision.resultingActionRequestIds ∧ outcome.auditEvents.length = 3 ∧
    capsule.auditEventIds.length = 3 ∧ outcome.approvalReceiptId.asStr ≠ "") .commandResultMismatch
  claimAudits
    { state.consume approval.preparedId with
      timeline := state.timeline.insert target.requestId request
      decisionTimeline := state.decisionTimeline.insert target.decisionId decision }
    audits capsule .approved outcome.auditEvents
    [("decision_request.resolved", .decisionRequest target.requestId), ("decision.created", .decision target.decisionId),
      ("decision_request.decision_linked", .decisionRequest target.requestId)]

def validateExecuteSupersede (state : Validation) (audits : Audits) (capsule : DecisionReplayCapsule)
    (approval : WorkManagementApproval) : Except DecisionRehydrationError Validation := do
  let outcome ← require .commandResultMismatch capsule.result.superseded?
  let prepared ← require .orphanRecord state.preparedHistory[approval.preparedId]?
  let target ← require .commandResultMismatch (supersedeTarget prepared.operation)
  let version ← require .commandResultMismatch (replacementVersion prepared.operation)
  let previous ← require .orphanRecord state.decisionTimeline[target.oldId]?
  ensure (previous.version = target.oldVersion ∧ previous.state = .effective) .commandResultMismatch
  let later ← require .commandResultMismatch previous.version.next
  let superseded := supersededRecord previous target.newId later
  let support ← require .commandResultMismatch prepared.preview.support
  let replacement := { target.replacement prepared.preview.classification support with version }
  ensure (approves state capsule approval prepared = true ∧ state.decisionTimeline[target.newId]? = none ∧
    outcome.superseded = superseded ∧ outcome.replacement = replacement ∧
    outcome.resultingActionRequestIds = replacement.resultingActionRequestIds ∧
    outcome.flaggedDownstream = target.downstream ∧ outcome.auditEvents.length = 3 ∧
    capsule.auditEventIds.length = 3 ∧ outcome.approvalReceiptId.asStr ≠ "") .commandResultMismatch
  claimAudits
    { state.consume approval.preparedId with
      decisionTimeline := (state.decisionTimeline.insert target.oldId superseded).insert target.newId replacement }
    audits capsule .approved outcome.auditEvents
    [("decision.superseded", .decision target.oldId), ("decision.replacement_created", .decision target.newId),
      ("decision.replacement_linked", .decision target.oldId)]

def validateExecuteLower (state : Validation) (audits : Audits) (capsule : DecisionReplayCapsule)
    (approval : WorkManagementApproval) : Except DecisionRehydrationError Validation := do
  let outcome ← require .commandResultMismatch capsule.result.lowered?
  let prepared ← require .orphanRecord state.preparedHistory[approval.preparedId]?
  let target ← require .commandResultMismatch (loweringTarget prepared.operation)
  let previous ← require .orphanRecord state.decisionTimeline[target.decisionId]?
  ensure (previous.version = target.decisionVersion) .commandResultMismatch
  let later ← require .commandResultMismatch previous.version.next
  let decision := { previous with version := later, classification := target.proposedClassification }
  ensure (approves state capsule approval prepared = true ∧ outcome.record = decision ∧
    outcome.auditEvents.length = 1 ∧ capsule.auditEventIds.length = 1 ∧ outcome.approvalReceiptId ≠ none)
    .commandResultMismatch
  claimAudits
    { state.consume approval.preparedId with
      decisionTimeline := state.decisionTimeline.insert target.decisionId decision }
    audits capsule .approved outcome.auditEvents [("decision.classification_lowered", .decision target.decisionId)]

def DecisionReplayCapsule.context (capsule : DecisionReplayCapsule) : DecisionOperationContext :=
  ⟨capsule.idempotencyId, capsule.originalCorrelationId⟩

def validateDecisionCapsule (state : Validation) (audits : Audits) (capsule : DecisionReplayCapsule) :
    Except DecisionRehydrationError Validation :=
  match capsule.command with
  | .createRequest id subject details intendedOwner classification =>
    validateCreate state audits capsule
      (createdRecord ⟨id, subject, details, intendedOwner, classification, capsule.context⟩)
  | .submitRequest requestId expectedVersion =>
    validateTransition state audits capsule requestId expectedVersion submittedOpen "decision_request.submitted"
  | .withdrawRequest requestId expectedVersion rationale =>
    validateTransition state audits capsule requestId expectedVersion (openToWithdrawn · rationale)
      "decision_request.withdrawn"
  | .prepareResolve requestId expectedVersion statement rationale impact evidenceIds judgments
      resultingActionRequests =>
    validatePrepareResolve state capsule ⟨requestId, expectedVersion, statement, rationale, impact, evidenceIds,
      judgments, resultingActionRequests, capsule.context⟩
  | .rejectPrepared preparedId actor => validateReject state audits capsule preparedId actor
  | .executeResolve approval => validateExecuteResolve state audits capsule approval
  | .prepareSupersede decisionId expectedVersion statement rationale impact owner evidenceIds judgments
      resultingActionRequests =>
    validatePrepareSupersede state capsule ⟨decisionId, expectedVersion, statement, rationale, impact, owner,
      evidenceIds, judgments, resultingActionRequests, capsule.context⟩
  | .executeSupersede approval => validateExecuteSupersede state audits capsule approval
  | .prepareLowerClassification decisionId expectedVersion proposedClassification rationale =>
    validatePrepareLower state capsule ⟨decisionId, expectedVersion, proposedClassification, rationale,
      capsule.context⟩
  | .executeLowerClassification approval => validateExecuteLower state audits capsule approval

def validateNext (audits : Audits) (state : Validation) (capsule : DecisionReplayCapsule) :
    Except DecisionRehydrationError Validation := do
  ensure (capsule.operationOrdinal = state.count) .operationOrderMismatch
  ensure (capsule.idempotencyId ∉ state.idempotencyIds) .duplicateIdempotency
  validateDecisionCapsule
    { state with count := state.count + 1, idempotencyIds := capsule.idempotencyId :: state.idempotencyIds } audits
    capsule

def validateAll (audits : Audits) (capsules : List DecisionReplayCapsule) :
    Except DecisionRehydrationError Validation :=
  capsules.foldlM (validateNext audits) .empty

namespace DecisionPersistenceSnapshot

def auditMap (input : DecisionPersistenceSnapshot) : Audits :=
  KeyMap.collect (input.audits.map fun audit => (audit.id, audit))

def ordered (input : DecisionPersistenceSnapshot) : List DecisionReplayCapsule :=
  input.replay.insertionSort fun left right => left.operationOrdinal ≤ right.operationOrdinal

/-- The pending previews were prepared and not consumed, and all that are so are pending.
Only their ids are compared. -/
def pendingMatches (input : DecisionPersistenceSnapshot) (validated : Validation) : Prop :=
  (input.prepared.map (·.id)).Nodup ∧
    (∀ intent ∈ input.prepared, validated.preparedHistory.contains intent.id = true ∧
      intent.id ∉ validated.consumedPrepared) ∧
    ∀ entry ∈ validated.preparedHistory.toList,
      entry.1 ∈ validated.consumedPrepared ∨ entry.1 ∈ input.prepared.map (·.id)

instance (input : DecisionPersistenceSnapshot) (validated : Validation) :
    Decidable (input.pendingMatches validated) := by
  unfold pendingMatches
  infer_instance

def tryNew (input : DecisionPersistenceSnapshot) : Except DecisionRehydrationError DecisionPersistenceSnapshot := do
  ensure ((∀ request ∈ input.requests, legalRequest request = true) ∧ (input.requests.map (·.id)).Nodup)
    .duplicateRecord
  ensure ((∀ decision ∈ input.decisions, legalDecision decision = true) ∧ (input.decisions.map (·.id)).Nodup)
    .duplicateRecord
  ensure (input.audits.map (·.id)).Nodup .duplicateAuditEvent
  let validated ← validateAll input.auditMap input.ordered
  ensure (input.requests.length = validated.timeline.size ∧
    input.decisions.length = validated.decisionTimeline.size) .orphanRecord
  ensure (∀ request ∈ input.requests, validated.timeline[request.id]? = some request) .commandResultMismatch
  ensure (∀ decision ∈ input.decisions, validated.decisionTimeline[decision.id]? = some decision)
    .commandResultMismatch
  ensure (input.pendingMatches validated) .orphanRecord
  ensure (validated.claimedAudits.length = input.audits.length ∧ validated.claimedAudits.Nodup ∧
    ∀ id ∈ validated.claimedAudits, input.auditMap.contains id = true) .auditMismatch
  return { input with replay := input.ordered }

end DecisionPersistenceSnapshot

end

def DecisionPersistenceCommand.signature : DecisionPersistenceCommand → Signature
  | .createRequest id subject details intendedOwner classification =>
    .create id subject details intendedOwner classification
  | .submitRequest requestId expectedVersion => .submit requestId expectedVersion
  | .withdrawRequest requestId expectedVersion rationale => .withdraw requestId expectedVersion rationale
  | .prepareResolve requestId expectedVersion statement rationale impact evidenceIds judgments
      resultingActionRequests =>
    .prepareResolve requestId expectedVersion statement rationale impact evidenceIds judgments resultingActionRequests
  | .executeResolve approval | .executeLowerClassification approval | .executeSupersede approval =>
    executionSignature approval
  | .prepareLowerClassification decisionId expectedVersion proposedClassification rationale =>
    .prepareLowerClassification decisionId expectedVersion proposedClassification rationale
  | .prepareSupersede decisionId expectedVersion statement rationale impact owner evidenceIds judgments
      resultingActionRequests =>
    .prepareSupersede decisionId expectedVersion statement rationale impact owner evidenceIds judgments
      resultingActionRequests
  | .rejectPrepared preparedId actor => .rejectPrepared preparedId actor

def DecisionPersistenceResult.value : DecisionPersistenceResult → ResultValue
  | .request outcome => .request outcome
  | .prepared intent => .prepared intent
  | .resolved outcome => .resolved outcome
  | .lowered outcome => .classificationLowered outcome
  | .superseded outcome => .superseded outcome
  | .rejected outcome => .rejected outcome

def rehydrate (snapshot : DecisionPersistenceSnapshot) : Service where
  state :=
    { requests := KeyMap.collect (snapshot.requests.map fun request => (request.id, request))
      decisions := KeyMap.collect (snapshot.decisions.map fun decision => (decision.id, decision))
      prepared := KeyMap.collect (snapshot.prepared.map fun intent => (intent.id, intent))
      idem := KeyMap.collect (snapshot.replay.map fun capsule =>
        (capsule.idempotencyId, capsule.command.signature, capsule.result.value))
      audits := snapshot.audits }
  failNextCommit := false

end MissionControl.Decisions

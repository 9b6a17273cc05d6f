import MissionControl.Surfaces.Snapshot

/-! The work items of a matched pair of snapshots. What the read surfaces do not carry is put
to the attention checks as the value that raises no flag. -/

namespace MissionControl.Surfaces
open Projections Queue

def actionRequestStateLabel : ActionRequestState → String
  | .draft => "Draft"
  | .open => "Open"
  | .accepted => "Accepted"
  | .declined => "Declined"
  | .withdrawn => "Withdrawn"

def actionStateLabel : ActionState → String
  | .open => "Open"
  | .inProgress => "In progress"
  | .completed => "Completed"
  | .cancelled => "Cancelled"

def decisionRequestStateLabel : DecisionRequestState → String
  | .draft => "Draft"
  | .open => "Open"
  | .resolved => "Resolved"
  | .withdrawn => "Withdrawn"

def riskStateLabel : RiskState → String
  | .open => "Open"
  | .occurred => "Occurred"
  | .closed => "Closed"

def issueStateLabel : IssueState → String
  | .open => "Open"
  | .resolved => "Resolved"
  | .closed => "Closed"

def requestAllowedIntents : ActionRequestState → List String
  | .draft => ["submit_action_request"]
  | .open => ["prepare_accept_action_request", "decline_action_request", "withdraw_action_request"]
  | .accepted | .declined | .withdrawn => []

def actionAllowedIntents : ActionState → List String
  | .open => ["start_action", "prepare_cancel_action"]
  | .inProgress => ["link_action_completion_evidence", "prepare_complete_action", "prepare_cancel_action"]
  | .completed | .cancelled => ["prepare_reopen_action"]

def decisionRequestStateIntents : DecisionRequestState → List String
  | .draft => ["submit_decision_request"]
  | .open => ["withdraw_decision_request", "prepare_resolve_decision_request"]
  | .resolved | .withdrawn => []

def riskStateIntents : RiskState → List String
  | .open => ["prepare_record_risk_occurrence", "prepare_close_risk"]
  | .occurred | .closed => []

def issueStateIntents : IssueState → List String
  | .open => ["prepare_resolve_issue"]
  | .resolved => ["prepare_close_issue", "prepare_reopen_issue"]
  | .closed => []

def metadata (classification : DataClassification) : AttentionMetadata := ⟨classification, .fresh, false⟩

def parseEntityId (kind : IdKind) (text : String) : Option (OpaqueId kind) :=
  if valid : (validateToken text kind.maximum ['-', '_']).isOk = true then some ⟨text, valid⟩ else none

def ActionRequestReadRecord.attentionInput (request : ActionRequestReadRecord) : Option ActionRequestAttentionInput :=
  (parseEntityId .actionRequest request.id).map fun id =>
    { id
      state := request.state
      intendedOwnerPresent := request.intendedOwnerId.isSome
      responseDueAt := request.responseDueAt
      needsInfo := false
      metadata := metadata request.classification }

def actionAttentionInput (action : ActionProjectionSource) : ActionAttentionInput where
  id := action.id
  state := action.state
  dueAt := action.dueAt
  blocked := false
  atRisk := false
  evidenceState := .none
  supersededPremise := false
  metadata := metadata action.classification

def DecisionRequestReadRecord.attentionInput (request : DecisionRequestReadRecord) :
    Option DecisionRequestAttentionInput :=
  (parseEntityId .decisionRequest request.id).map fun id =>
    { id
      state := request.state
      decisionOwnerPresent := request.intendedOwnerId.isSome
      decisionDeadlineAt := none
      needsInfo := false
      metadata := metadata request.classification }

/-- An owner that is not known to be missing is taken to be there. -/
def riskAttentionInput (risk : RiskProjectionSource) : RiskAttentionInput :=
  .inQueue risk.id risk.state risk.nextReviewAt false false false true (metadata risk.classification)

def IssueReadRecord.attentionInput (issue : IssueReadRecord) : Option IssueAttentionInput :=
  (parseEntityId .issue issue.id).map fun id =>
    { id
      snapshot := match issue.state with
        | .open => .open false
        | .resolved | .closed => .resolved .complete
      resolutionDueAt := none
      blocked := false
      recurrenceLinkPresent := issue.recurrenceOfId.isSome
      metadata := metadata issue.classification }

variable (projection : LedgerProjectionSnapshot) (composition : LedgerCompositionSnapshot)
  (thresholds : AttentionThresholds)

def attentionInputs : AttentionInputs where
  asOf := composition.ledgerAsOfUtc
  thresholds
  actionRequests := composition.actionRequests.filterMap (·.attentionInput)
  actions := projection.actions.map actionAttentionInput
  decisionRequests := composition.decisionRequests.filterMap (·.attentionInput)
  risks := projection.risks.map riskAttentionInput
  issues := composition.issues.filterMap (·.attentionInput)

def relevantAtFor (kind : WorkItemKind) (id : String) : Option UtcTimestamp :=
  match kind with
  | .actionRequest => (composition.actionRequests.find? fun request => request.id = id).bind (·.responseDueAt)
  | .action => (projection.actions.find? fun action => action.id.asStr = id).map (·.dueAt)
  | .risk => (projection.risks.find? fun risk => risk.id.asStr = id).bind (·.nextReviewAt)
  | .decisionRequest | .issue => none

/-- Every flag of the snapshots, with the deadline of the record it was raised against. -/
def flagsFromSnapshots : List RankableAttentionItem :=
  (deriveAttention (attentionInputs projection composition thresholds)).flags.map fun flag =>
    ⟨flag, relevantAtFor projection composition (.ofTarget flag.target) (canonicalIdOf flag.target)⟩

def attentionFor (kind : WorkItemKind) (id : String) : List RankableAttentionItem :=
  (flagsFromSnapshots projection composition thresholds).filter fun item =>
    WorkItemKind.ofTarget item.flag.target = kind && canonicalIdOf item.flag.target = id

def actionRequestItem (request : ActionRequestReadRecord) : WorkItemFacts where
  kind := .actionRequest
  id := request.id
  label := request.title
  stateLabel := actionRequestStateLabel request.state
  lifecycleLegalIntents := requestAllowedIntents request.state
  relevantAt := request.responseDueAt
  promisedAt := request.intendedActionDueAt
  classification := request.classification
  revision := request.version.get
  asOf := composition.ledgerAsOfUtc
  freshness := .fresh
  degraded := false
  attention := attentionFor projection composition thresholds .actionRequest request.id

def actionItem (action : ActionProjectionSource) : WorkItemFacts where
  kind := .action
  id := action.id.asStr
  label := "Action " ++ action.id.asStr
  stateLabel := actionStateLabel action.state
  lifecycleLegalIntents := actionAllowedIntents action.state
  relevantAt := some action.dueAt
  promisedAt := none
  classification := action.classification
  revision := action.sourceRevision.get
  asOf := projection.ledgerAsOfUtc
  freshness := .fresh
  degraded := false
  attention := attentionFor projection composition thresholds .action action.id.asStr

def decisionRequestItem (request : DecisionRequestReadRecord) : WorkItemFacts where
  kind := .decisionRequest
  id := request.id
  label := request.subject
  stateLabel := decisionRequestStateLabel request.state
  lifecycleLegalIntents := decisionRequestStateIntents request.state
  relevantAt := none
  promisedAt := none
  classification := request.classification
  revision := request.version.get
  asOf := composition.ledgerAsOfUtc
  freshness := .fresh
  degraded := false
  attention := attentionFor projection composition thresholds .decisionRequest request.id

def riskItem (risk : RiskProjectionSource) : WorkItemFacts where
  kind := .risk
  id := risk.id.asStr
  label := match composition.risks.find? fun titled => titled.id = risk.id.asStr with
    | some titled => titled.title
    | none => "Risk " ++ risk.id.asStr
  stateLabel := riskStateLabel risk.state
  lifecycleLegalIntents := riskStateIntents risk.state
  relevantAt := risk.nextReviewAt
  promisedAt := none
  classification := risk.classification
  revision := risk.sourceRevision.get
  asOf := projection.ledgerAsOfUtc
  freshness := .fresh
  degraded := false
  attention := attentionFor projection composition thresholds .risk risk.id.asStr

def issueItem (issue : IssueReadRecord) : WorkItemFacts where
  kind := .issue
  id := issue.id
  label := issue.title
  stateLabel := issueStateLabel issue.state
  lifecycleLegalIntents := issueStateIntents issue.state
  relevantAt := none
  promisedAt := none
  classification := issue.classification
  revision := issue.version.get
  asOf := composition.ledgerAsOfUtc
  freshness := .fresh
  degraded := false
  attention := attentionFor projection composition thresholds .issue issue.id

def workItemFactsFromSnapshots : List WorkItemFacts :=
  composition.actionRequests.map (actionRequestItem projection composition thresholds) ++
  projection.actions.map (actionItem projection composition thresholds) ++
  composition.decisionRequests.map (decisionRequestItem projection composition thresholds) ++
  projection.risks.map (riskItem projection composition thresholds) ++
  composition.issues.map (issueItem projection composition thresholds)

end MissionControl.Surfaces

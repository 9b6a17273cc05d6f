import MissionControl.Domain.Support
import Mathlib.Data.List.Sort

/-! The operations a human approves before they run, with the targets, effects
and classification sources a preview of each declares. -/

namespace MissionControl

inductive ActionRequestState where
  | draft | «open» | accepted | declined | withdrawn
  deriving DecidableEq

inductive ActionState where
  | «open» | inProgress | completed | cancelled
  deriving DecidableEq

def ActionRequestState.asPersisted : ActionRequestState → String
  | .draft => "draft"
  | .open => "open"
  | .accepted => "accepted"
  | .declined => "declined"
  | .withdrawn => "withdrawn"

def ActionState.asPersisted : ActionState → String
  | .open => "open"
  | .inProgress => "in_progress"
  | .completed => "completed"
  | .cancelled => "cancelled"

inductive IssueResolutionType where
  | resolved | workaround | acceptedImpact
  deriving DecidableEq

def IssueResolutionType.asPersisted : IssueResolutionType → String
  | .resolved => "resolved"
  | .workaround => "workaround"
  | .acceptedImpact => "accepted_impact"

inductive ActionReopenMode where
  | reopenCompleted | restartCancelled
  deriving DecidableEq

abbrev WorkManagementRationale := BoundedText 2000

structure DecisionResultingActionRequest where
  id : ActionRequestId
  subject : BoundedText 240
  details : BoundedText 2000
  intendedOwner : StakeholderId
  dueAt : UtcTimestamp
  classification : DataClassification
  deriving DecidableEq

structure EvidenceClassificationBinding where
  evidenceId : EvidenceReferenceId
  classification : DataClassification
  deriving DecidableEq

inductive IncompleteDownstreamWork where
  | actionRequest (id : ActionRequestId) (version : AggregateVersion) (classification : DataClassification)
  | action (id : ActionId) (version : AggregateVersion) (classification : DataClassification)
  deriving DecidableEq

def downstreamId : IncompleteDownstreamWork → String
  | .actionRequest id _ _ => id.asStr
  | .action id _ _ => id.asStr

def downstreamKind : IncompleteDownstreamWork → Nat
  | .actionRequest .. => 0
  | .action .. => 1

def sameDownstreamIdentity (left right : IncompleteDownstreamWork) : Bool :=
  downstreamKind left == downstreamKind right && downstreamId left == downstreamId right

inductive WorkManagementOperation where
  | acceptActionRequest (requestId : ActionRequestId) (requestVersion : AggregateVersion)
      (actionId : ActionId) (actionClassification : DataClassification) (actionSubject : BoundedText 240)
      (commitmentDetails : BoundedText 2000) (intendedOwner : StakeholderId) (intendedDueAt : UtcTimestamp)
  | resolveDecisionRequest (requestId : DecisionRequestId) (requestVersion : AggregateVersion)
      (decisionId : DecisionId) (decisionClassification : DataClassification)
      (statement rationale impact : BoundedText 4000) (decisionOwner : StakeholderId)
      (decidedAt : UtcTimestamp) (resultingActionRequests : List DecisionResultingActionRequest)
  | completeAction (actionId : ActionId) (actionVersion : AggregateVersion)
  | cancelAction (actionId : ActionId) (actionVersion : AggregateVersion)
      (reason : WorkManagementRationale) (evidenceClassifications : List EvidenceClassificationBinding)
  | reopenAction (actionId : ActionId) (actionVersion : AggregateVersion) (mode : ActionReopenMode)
      (reason : WorkManagementRationale) (evidenceClassifications : List EvidenceClassificationBinding)
  | supersedeDecision (decisionId : DecisionId) (decisionVersion : AggregateVersion)
      (replacementDecisionId : DecisionId) (replacementDecisionVersion : AggregateVersion)
      (replacementDecisionClassification : DataClassification)
      (replacementStatement replacementRationale replacementImpact : BoundedText 4000)
      (replacementOwner : StakeholderId) (replacementDecidedAt : UtcTimestamp)
      (resultingActionRequests : List DecisionResultingActionRequest)
      (incompleteDownstream : List IncompleteDownstreamWork)
  | recordRiskOccurrence (riskId : RiskId) (riskVersion : AggregateVersion) (issueId : IssueId)
      (issueClassification : DataClassification)
  | closeRisk (riskId : RiskId) (riskVersion : AggregateVersion) (rationale : WorkManagementRationale)
  | resolveIssue (issueId : IssueId) (issueVersion : AggregateVersion)
      (resolutionType : IssueResolutionType) (rationale : WorkManagementRationale)
  | closeIssue (issueId : IssueId) (issueVersion : AggregateVersion)
  | reopenIssue (issueId : IssueId) (issueVersion : AggregateVersion) (rationale : WorkManagementRationale)
  | lowerPortfolioClassification (portfolioId : PortfolioId) (portfolioVersion : AggregateVersion)
      (currentClassification proposedClassification : DataClassification) (rationale : WorkManagementRationale)
  | lowerProductClassification (productId : ProductId) (productVersion : AggregateVersion)
      (currentClassification proposedClassification : DataClassification) (rationale : WorkManagementRationale)
  | lowerRoadmapClassification (roadmapId : RoadmapId) (roadmapVersion : AggregateVersion)
      (currentClassification proposedClassification : DataClassification) (rationale : WorkManagementRationale)
  | lowerKpiClassification (kpiId : KpiId) (kpiVersion : AggregateVersion)
      (currentClassification proposedClassification : DataClassification) (rationale : WorkManagementRationale)
  | lowerKpiObservationClassification (observationId : KpiObservationId) (observationVersion : AggregateVersion)
      (currentClassification proposedClassification : DataClassification) (rationale : WorkManagementRationale)
  | lowerActionClassification (actionId : ActionId) (actionVersion : AggregateVersion)
      (currentClassification proposedClassification : DataClassification) (rationale : WorkManagementRationale)
  | lowerDecisionClassification (decisionId : DecisionId) (decisionVersion : AggregateVersion)
      (currentClassification proposedClassification : DataClassification) (rationale : WorkManagementRationale)
  | lowerRiskClassification (riskId : RiskId) (riskVersion : AggregateVersion)
      (currentClassification proposedClassification : DataClassification) (rationale : WorkManagementRationale)
  | lowerIssueClassification (issueId : IssueId) (issueVersion : AggregateVersion)
      (currentClassification proposedClassification : DataClassification) (rationale : WorkManagementRationale)
  | lowerInitiativeClassification (initiativeId : InitiativeId) (initiativeVersion : AggregateVersion)
      (currentClassification proposedClassification : DataClassification) (rationale : WorkManagementRationale)
  | lowerProjectClassification (projectId : ProjectId) (projectVersion : AggregateVersion)
      (currentClassification proposedClassification : DataClassification) (rationale : WorkManagementRationale)
  | lowerMilestoneClassification (milestoneId : MilestoneId) (milestoneVersion : AggregateVersion)
      (currentClassification proposedClassification : DataClassification) (rationale : WorkManagementRationale)
  deriving DecidableEq

inductive WorkManagementH2aIntentKind where
  | acceptActionRequest | resolveDecisionRequest | completeAction | cancelAction | reopenAction
  | supersedeDecision | recordRiskOccurrence | closeRisk | resolveIssue | closeIssue | reopenIssue
  | lowerPortfolioClassification | lowerProductClassification | lowerRoadmapClassification
  | lowerKpiClassification | lowerKpiObservationClassification | lowerActionClassification
  | lowerDecisionClassification | lowerRiskClassification | lowerIssueClassification
  | lowerInitiativeClassification | lowerProjectClassification | lowerMilestoneClassification

def WorkManagementH2aIntentKind.asPersisted : WorkManagementH2aIntentKind → String
  | .acceptActionRequest => "accept_action_request"
  | .resolveDecisionRequest => "resolve_decision_request"
  | .completeAction => "complete_action"
  | .cancelAction => "cancel_action"
  | .reopenAction => "reopen_action"
  | .supersedeDecision => "supersede_decision"
  | .recordRiskOccurrence => "record_risk_occurrence"
  | .closeRisk => "close_risk"
  | .resolveIssue => "resolve_issue"
  | .closeIssue => "close_issue"
  | .reopenIssue => "reopen_issue"
  | .lowerPortfolioClassification => "lower_portfolio_classification"
  | .lowerProductClassification => "lower_product_classification"
  | .lowerRoadmapClassification => "lower_roadmap_classification"
  | .lowerKpiClassification => "lower_kpi_classification"
  | .lowerKpiObservationClassification => "lower_kpi_observation_classification"
  | .lowerActionClassification => "lower_action_classification"
  | .lowerDecisionClassification => "lower_decision_classification"
  | .lowerRiskClassification => "lower_risk_classification"
  | .lowerIssueClassification => "lower_issue_classification"
  | .lowerInitiativeClassification => "lower_initiative_classification"
  | .lowerProjectClassification => "lower_project_classification"
  | .lowerMilestoneClassification => "lower_milestone_classification"

def WorkManagementH2aIntentKind.all : List WorkManagementH2aIntentKind :=
  [.acceptActionRequest, .resolveDecisionRequest, .completeAction, .cancelAction, .reopenAction,
    .supersedeDecision, .recordRiskOccurrence, .closeRisk, .resolveIssue, .closeIssue, .reopenIssue,
    .lowerPortfolioClassification, .lowerProductClassification, .lowerRoadmapClassification,
    .lowerKpiClassification, .lowerKpiObservationClassification, .lowerActionClassification,
    .lowerDecisionClassification, .lowerRiskClassification, .lowerIssueClassification,
    .lowerInitiativeClassification, .lowerProjectClassification, .lowerMilestoneClassification]

theorem WorkManagementH2aIntentKind.mem_all (kind : WorkManagementH2aIntentKind) : kind ∈ all := by
  cases kind <;> simp [all]

theorem WorkManagementH2aIntentKind.asPersisted_injective :
    Function.Injective WorkManagementH2aIntentKind.asPersisted := by
  have distinct : (all.map asPersisted).Nodup := by decide
  exact fun first second => List.inj_on_of_nodup_map distinct (mem_all first) (mem_all second)

inductive WorkManagementTarget where
  | actionRequest (id : ActionRequestId) (version : AggregateVersion)
  | action (id : ActionId) (version : AggregateVersion)
  | decisionRequest (id : DecisionRequestId) (version : AggregateVersion)
  | decision (id : DecisionId) (version : AggregateVersion)
  | risk (id : RiskId) (version : AggregateVersion)
  | issue (id : IssueId) (version : AggregateVersion)
  | portfolio (id : PortfolioId) (version : AggregateVersion)
  | product (id : ProductId) (version : AggregateVersion)
  | roadmap (id : RoadmapId) (version : AggregateVersion)
  | kpi (id : KpiId) (version : AggregateVersion)
  | kpiObservation (id : KpiObservationId) (version : AggregateVersion)
  | initiative (id : InitiativeId) (version : AggregateVersion)
  | project (id : ProjectId) (version : AggregateVersion)
  | milestone (id : MilestoneId) (version : AggregateVersion)
  deriving DecidableEq

inductive WorkManagementEffect where
  | acceptActionRequest (id : ActionRequestId)
  | createAction (id : ActionId)
  | linkActionRequestToAction (request : ActionRequestId) (action : ActionId)
  | resolveDecisionRequest (id : DecisionRequestId)
  | createDecision (id : DecisionId)
  | linkDecisionRequestToDecision (request : DecisionRequestId) (decision : DecisionId)
  | createResultingActionRequest (id : ActionRequestId)
  | linkDecisionToActionRequest (decision : DecisionId) (request : ActionRequestId)
  | completeAction (id : ActionId)
  | cancelAction (id : ActionId)
  | reopenAction (id : ActionId)
  | supersedeDecision (id : DecisionId)
  | linkReplacementDecision (original replacement : DecisionId)
  | flagSupersededPremiseActionRequest (id : ActionRequestId)
  | flagSupersededPremiseAction (id : ActionId)
  | recordRiskOccurrence (id : RiskId)
  | createIssue (id : IssueId)
  | linkRiskToIssue (risk : RiskId) (issue : IssueId)
  | closeRisk (id : RiskId)
  | resolveIssue (id : IssueId)
  | closeIssue (id : IssueId)
  | reopenIssue (id : IssueId)
  | lowerPortfolioClassification (id : PortfolioId)
  | lowerProductClassification (id : ProductId)
  | lowerRoadmapClassification (id : RoadmapId)
  | lowerKpiClassification (id : KpiId)
  | lowerKpiObservationClassification (id : KpiObservationId)
  | lowerActionClassification (id : ActionId)
  | lowerDecisionClassification (id : DecisionId)
  | lowerRiskClassification (id : RiskId)
  | lowerIssueClassification (id : IssueId)
  | lowerInitiativeClassification (id : InitiativeId)
  | lowerProjectClassification (id : ProjectId)
  | lowerMilestoneClassification (id : MilestoneId)
  deriving DecidableEq

inductive WorkManagementClassificationSourceRole where
  | primaryTarget | createdAction | createdDecision | replacementDecision | createdIssue
  | downstreamActionRequest (id : ActionRequestId)
  | downstreamAction (id : ActionId)
  | resultingActionRequest (id : ActionRequestId)
  | evidence (id : EvidenceReferenceId)
  | humanJudgment
  deriving DecidableEq

structure WorkManagementClassificationSource where
  role : WorkManagementClassificationSourceRole
  classification : DataClassification
  deriving DecidableEq

namespace IncompleteDownstreamWork

def target : IncompleteDownstreamWork → WorkManagementTarget
  | .actionRequest id version _ => .actionRequest id version
  | .action id version _ => .action id version

def effect : IncompleteDownstreamWork → WorkManagementEffect
  | .actionRequest id _ _ => .flagSupersededPremiseActionRequest id
  | .action id _ _ => .flagSupersededPremiseAction id

def classificationSource : IncompleteDownstreamWork → WorkManagementClassificationSource
  | .actionRequest id _ classification => ⟨.downstreamActionRequest id, classification⟩
  | .action id _ classification => ⟨.downstreamAction id, classification⟩

end IncompleteDownstreamWork

namespace WorkManagementOperation

def kind : WorkManagementOperation → WorkManagementH2aIntentKind
  | .acceptActionRequest .. => .acceptActionRequest
  | .resolveDecisionRequest .. => .resolveDecisionRequest
  | .completeAction .. => .completeAction
  | .cancelAction .. => .cancelAction
  | .reopenAction .. => .reopenAction
  | .supersedeDecision .. => .supersedeDecision
  | .recordRiskOccurrence .. => .recordRiskOccurrence
  | .closeRisk .. => .closeRisk
  | .resolveIssue .. => .resolveIssue
  | .closeIssue .. => .closeIssue
  | .reopenIssue .. => .reopenIssue
  | .lowerPortfolioClassification .. => .lowerPortfolioClassification
  | .lowerProductClassification .. => .lowerProductClassification
  | .lowerRoadmapClassification .. => .lowerRoadmapClassification
  | .lowerKpiClassification .. => .lowerKpiClassification
  | .lowerKpiObservationClassification .. => .lowerKpiObservationClassification
  | .lowerActionClassification .. => .lowerActionClassification
  | .lowerDecisionClassification .. => .lowerDecisionClassification
  | .lowerRiskClassification .. => .lowerRiskClassification
  | .lowerIssueClassification .. => .lowerIssueClassification
  | .lowerInitiativeClassification .. => .lowerInitiativeClassification
  | .lowerProjectClassification .. => .lowerProjectClassification
  | .lowerMilestoneClassification .. => .lowerMilestoneClassification

def supportRequirement : WorkManagementOperation → Option SupportRequirement
  | .completeAction .. | .resolveIssue .. | .closeIssue .. | .reopenIssue .. => some .evidenceRequired
  | .resolveDecisionRequest .. | .supersedeDecision .. => some .evidenceOrJudgment
  | _ => none

def requiredEvidenceRole : WorkManagementOperation → Option EvidenceRole
  | .completeAction .. => some .actionCompletion
  | .resolveDecisionRequest .. | .supersedeDecision .. => some .decisionResolution
  | .resolveIssue .. => some .issueResolution
  | .closeIssue .. => some .issueClosureVerification
  | .reopenIssue .. => some .issueFailedVerification
  | _ => none

def targets : WorkManagementOperation → List WorkManagementTarget
  | .acceptActionRequest requestId requestVersion .. => [.actionRequest requestId requestVersion]
  | .resolveDecisionRequest requestId requestVersion decisionId _ _ _ _ _ _ resultingActionRequests =>
    [.decisionRequest requestId requestVersion, .decision decisionId .initial] ++
      resultingActionRequests.map fun item => .actionRequest item.id .initial
  | .completeAction actionId actionVersion
  | .cancelAction actionId actionVersion ..
  | .reopenAction actionId actionVersion .. => [.action actionId actionVersion]
  | .supersedeDecision decisionId decisionVersion replacementDecisionId replacementDecisionVersion _ _ _ _ _ _
      resultingActionRequests incompleteDownstream =>
    [.decision decisionId decisionVersion, .decision replacementDecisionId replacementDecisionVersion] ++
      (resultingActionRequests.map fun item => .actionRequest item.id .initial) ++
      incompleteDownstream.map (·.target)
  | .recordRiskOccurrence riskId riskVersion .. | .closeRisk riskId riskVersion .. => [.risk riskId riskVersion]
  | .resolveIssue issueId issueVersion ..
  | .closeIssue issueId issueVersion
  | .reopenIssue issueId issueVersion .. => [.issue issueId issueVersion]
  | .lowerPortfolioClassification portfolioId portfolioVersion .. => [.portfolio portfolioId portfolioVersion]
  | .lowerProductClassification productId productVersion .. => [.product productId productVersion]
  | .lowerRoadmapClassification roadmapId roadmapVersion .. => [.roadmap roadmapId roadmapVersion]
  | .lowerKpiClassification kpiId kpiVersion .. => [.kpi kpiId kpiVersion]
  | .lowerKpiObservationClassification observationId observationVersion .. => [.kpiObservation observationId observationVersion]
  | .lowerActionClassification actionId actionVersion .. => [.action actionId actionVersion]
  | .lowerDecisionClassification decisionId decisionVersion .. => [.decision decisionId decisionVersion]
  | .lowerRiskClassification riskId riskVersion .. => [.risk riskId riskVersion]
  | .lowerIssueClassification issueId issueVersion .. => [.issue issueId issueVersion]
  | .lowerInitiativeClassification initiativeId initiativeVersion .. => [.initiative initiativeId initiativeVersion]
  | .lowerProjectClassification projectId projectVersion .. => [.project projectId projectVersion]
  | .lowerMilestoneClassification milestoneId milestoneVersion .. => [.milestone milestoneId milestoneVersion]

def effects : WorkManagementOperation → List WorkManagementEffect
  | .acceptActionRequest requestId _ actionId .. =>
    [.acceptActionRequest requestId, .createAction actionId, .linkActionRequestToAction requestId actionId]
  | .resolveDecisionRequest requestId _ decisionId _ _ _ _ _ _ resultingActionRequests =>
    [.resolveDecisionRequest requestId, .createDecision decisionId,
      .linkDecisionRequestToDecision requestId decisionId] ++
      resultingActionRequests.flatMap fun item =>
        [.createResultingActionRequest item.id, .linkDecisionToActionRequest decisionId item.id]
  | .completeAction actionId _ => [.completeAction actionId]
  | .cancelAction actionId .. => [.cancelAction actionId]
  | .reopenAction actionId .. => [.reopenAction actionId]
  | .supersedeDecision decisionId _ replacementDecisionId _ _ _ _ _ _ _ resultingActionRequests
      incompleteDownstream =>
    [.supersedeDecision decisionId, .createDecision replacementDecisionId,
      .linkReplacementDecision decisionId replacementDecisionId] ++
      (resultingActionRequests.flatMap fun item =>
        [.createResultingActionRequest item.id, .linkDecisionToActionRequest replacementDecisionId item.id]) ++
      incompleteDownstream.map (·.effect)
  | .recordRiskOccurrence riskId _ issueId _ =>
    [.recordRiskOccurrence riskId, .createIssue issueId, .linkRiskToIssue riskId issueId]
  | .closeRisk riskId .. => [.closeRisk riskId]
  | .resolveIssue issueId .. => [.resolveIssue issueId]
  | .closeIssue issueId _ => [.closeIssue issueId]
  | .reopenIssue issueId .. => [.reopenIssue issueId]
  | .lowerPortfolioClassification portfolioId .. => [.lowerPortfolioClassification portfolioId]
  | .lowerProductClassification productId .. => [.lowerProductClassification productId]
  | .lowerRoadmapClassification roadmapId .. => [.lowerRoadmapClassification roadmapId]
  | .lowerKpiClassification kpiId .. => [.lowerKpiClassification kpiId]
  | .lowerKpiObservationClassification observationId .. => [.lowerKpiObservationClassification observationId]
  | .lowerActionClassification actionId .. => [.lowerActionClassification actionId]
  | .lowerDecisionClassification decisionId .. => [.lowerDecisionClassification decisionId]
  | .lowerRiskClassification riskId .. => [.lowerRiskClassification riskId]
  | .lowerIssueClassification issueId .. => [.lowerIssueClassification issueId]
  | .lowerInitiativeClassification initiativeId .. => [.lowerInitiativeClassification initiativeId]
  | .lowerProjectClassification projectId .. => [.lowerProjectClassification projectId]
  | .lowerMilestoneClassification milestoneId .. => [.lowerMilestoneClassification milestoneId]

def classificationSources : WorkManagementOperation → List WorkManagementClassificationSource
  | .acceptActionRequest _ _ _ actionClassification .. => [⟨.createdAction, actionClassification⟩]
  | .resolveDecisionRequest _ _ _ decisionClassification _ _ _ _ _ resultingActionRequests =>
    ⟨.createdDecision, decisionClassification⟩ ::
      resultingActionRequests.map fun item => ⟨.resultingActionRequest item.id, item.classification⟩
  | .supersedeDecision _ _ _ _ replacementDecisionClassification _ _ _ _ _ resultingActionRequests
      incompleteDownstream =>
    ⟨.replacementDecision, replacementDecisionClassification⟩ ::
      (resultingActionRequests.map fun item => ⟨.resultingActionRequest item.id, item.classification⟩) ++
      incompleteDownstream.map (·.classificationSource)
  | .recordRiskOccurrence _ _ _ issueClassification => [⟨.createdIssue, issueClassification⟩]
  | .cancelAction _ _ _ bindings
  | .reopenAction _ _ _ _ bindings =>
    bindings.map fun binding => ⟨.evidence binding.evidenceId, binding.classification⟩
  | _ => []

def resultingActionRequests : WorkManagementOperation → List DecisionResultingActionRequest
  | .resolveDecisionRequest _ _ _ _ _ _ _ _ _ requests
  | .supersedeDecision _ _ _ _ _ _ _ _ _ _ requests _ => requests
  | _ => []

def evidenceClassifications : WorkManagementOperation → List EvidenceClassificationBinding
  | .cancelAction _ _ _ bindings
  | .reopenAction _ _ _ _ bindings => bindings
  | _ => []

def incompleteDownstream : WorkManagementOperation → List IncompleteDownstreamWork
  | .supersedeDecision _ _ _ _ _ _ _ _ _ _ _ work => work
  | _ => []

end WorkManagementOperation

end MissionControl

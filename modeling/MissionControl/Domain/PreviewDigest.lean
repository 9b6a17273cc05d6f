import MissionControl.Domain.Operation
import MissionControl.Lib.Encoding

/-! The bytes a preview's payload digest is computed over: every field behind
its length, every list behind its count, every variant behind its name. -/

namespace MissionControl
open Encoding

inductive WorkManagementPolicyDecision where
  | allowed
  deriving DecidableEq

inductive WorkManagementCancellationPolicy where
  | notCancellableAfterSubmit
  deriving DecidableEq

inductive WorkManagementAuthority where
  | headOfProducts
  deriving DecidableEq

structure WorkManagementPreview where
  id : PreparedIntentId
  contractVersion : Nat
  operation : WorkManagementOperation
  targets : List WorkManagementTarget
  effects : List WorkManagementEffect
  classification : DataClassification
  classificationSources : List WorkManagementClassificationSource
  support : Option SupportWitness
  policy : WorkManagementPolicyDecision
  expiresAt : UtcTimestamp
  cancellationPolicy : WorkManagementCancellationPolicy
  authority : WorkManagementAuthority
  deriving DecidableEq

structure WorkManagementPayloadDigest where
  asStr : String
  valid : isHexDigest asStr = true

instance : DecidableEq WorkManagementPayloadDigest := fun first second =>
  decidable_of_iff (first.asStr = second.asStr) (by cases first; cases second; simp)

/-- SHA-256 of a byte stream, in lower-case hexadecimal. -/
class Sha256 where
  finalize : List UInt8 → WorkManagementPayloadDigest

def asBytes (text : String) : List UInt8 := text.toByteArray.data.toList

def wordBytes (number : Nat) : List UInt8 := bigEndian 8 number

/-- `i64::to_be_bytes`, in two's complement. -/
def instantBytes (instant : UtcTimestamp) : List UInt8 :=
  bigEndian 8 (instant.unixMillis % 2 ^ 64).toNat

def digestField (value : List UInt8) : List UInt8 := wordBytes value.length ++ value

def digestText (text : String) : List UInt8 := digestField (asBytes text)

def digestVersion (version : AggregateVersion) : List UInt8 := digestField (wordBytes version.get)

def digestInstant (instant : UtcTimestamp) : List UInt8 := digestField (instantBytes instant)

def digestClassification (classification : DataClassification) : List UInt8 :=
  digestText classification.asPersisted

def digestCount (length : Nat) : List UInt8 := digestField (wordBytes length)

def digestList {α : Type} (digest : α → List UInt8) (items : List α) : List UInt8 :=
  digestCount items.length ++ items.flatMap digest

def idVersion (id : String) (version : AggregateVersion) : List UInt8 := digestText id ++ digestVersion version

def digestSourceRole : WorkManagementClassificationSourceRole → List UInt8
  | .primaryTarget => digestText "primary_target"
  | .createdAction => digestText "created_action"
  | .createdDecision => digestText "created_decision"
  | .replacementDecision => digestText "replacement_decision"
  | .createdIssue => digestText "created_issue"
  | .downstreamActionRequest id => digestText "downstream_action_request" ++ digestText id.asStr
  | .downstreamAction id => digestText "downstream_action" ++ digestText id.asStr
  | .resultingActionRequest id => digestText "resulting_action_request" ++ digestText id.asStr
  | .evidence id => digestText "evidence" ++ digestText id.asStr
  | .humanJudgment => digestText "human_judgment"

def digestClassificationSource (source : WorkManagementClassificationSource) : List UInt8 :=
  digestSourceRole source.role ++ digestClassification source.classification

def digestResultingActionRequest (request : DecisionResultingActionRequest) : List UInt8 :=
  digestText request.id.asStr ++ digestText request.subject.asStr ++ digestText request.details.asStr ++
    digestText request.intendedOwner.asStr ++ digestInstant request.dueAt ++
    digestClassification request.classification

def digestResultingActionRequests (requests : List DecisionResultingActionRequest) : List UInt8 :=
  digestList digestResultingActionRequest requests

def digestEvidenceClassificationBinding (binding : EvidenceClassificationBinding) : List UInt8 :=
  digestText binding.evidenceId.asStr ++ digestClassification binding.classification

def digestEvidenceClassificationBindings (bindings : List EvidenceClassificationBinding) : List UInt8 :=
  digestList digestEvidenceClassificationBinding bindings

def digestDownstream : IncompleteDownstreamWork → List UInt8
  | .actionRequest id version classification =>
    digestText "action_request" ++ idVersion id.asStr version ++ digestClassification classification
  | .action id version classification =>
    digestText "action" ++ idVersion id.asStr version ++ digestClassification classification

def ActionReopenMode.digestName : ActionReopenMode → String
  | .reopenCompleted => "reopen_completed"
  | .restartCancelled => "restart_cancelled"

def digestLowering (id : String) (version : AggregateVersion)
    (currentClassification proposedClassification : DataClassification) (rationale : WorkManagementRationale) :
    List UInt8 :=
  idVersion id version ++ digestClassification currentClassification ++
    digestClassification proposedClassification ++ digestText rationale.asStr

def digestOperation : WorkManagementOperation → List UInt8
  | .acceptActionRequest requestId requestVersion actionId actionClassification actionSubject commitmentDetails
      intendedOwner intendedDueAt =>
    idVersion requestId.asStr requestVersion ++ digestText actionId.asStr ++
      digestClassification actionClassification ++ digestText actionSubject.asStr ++
      digestText commitmentDetails.asStr ++ digestText intendedOwner.asStr ++ digestInstant intendedDueAt
  | .resolveDecisionRequest requestId requestVersion decisionId decisionClassification statement rationale impact
      decisionOwner decidedAt resultingActionRequests =>
    idVersion requestId.asStr requestVersion ++ digestText decisionId.asStr ++
      digestClassification decisionClassification ++ digestText statement.asStr ++ digestText rationale.asStr ++
      digestText impact.asStr ++ digestText decisionOwner.asStr ++ digestInstant decidedAt ++
      digestResultingActionRequests resultingActionRequests
  | .completeAction actionId actionVersion => idVersion actionId.asStr actionVersion
  | .cancelAction actionId actionVersion reason evidenceClassifications =>
    idVersion actionId.asStr actionVersion ++ digestText reason.asStr ++
      digestEvidenceClassificationBindings evidenceClassifications
  | .reopenAction actionId actionVersion mode reason evidenceClassifications =>
    idVersion actionId.asStr actionVersion ++ digestText mode.digestName ++ digestText reason.asStr ++
      digestEvidenceClassificationBindings evidenceClassifications
  | .supersedeDecision decisionId decisionVersion replacementDecisionId replacementDecisionVersion
      replacementDecisionClassification replacementStatement replacementRationale replacementImpact
      replacementOwner replacementDecidedAt resultingActionRequests incompleteDownstream =>
    idVersion decisionId.asStr decisionVersion ++
      idVersion replacementDecisionId.asStr replacementDecisionVersion ++
      digestText replacementStatement.asStr ++ digestText replacementRationale.asStr ++
      digestText replacementImpact.asStr ++ digestText replacementOwner.asStr ++
      digestInstant replacementDecidedAt ++ digestResultingActionRequests resultingActionRequests ++
      digestClassification replacementDecisionClassification ++
      digestList digestDownstream incompleteDownstream
  | .recordRiskOccurrence riskId riskVersion issueId issueClassification =>
    idVersion riskId.asStr riskVersion ++ digestText issueId.asStr ++ digestClassification issueClassification
  | .closeRisk riskId riskVersion rationale =>
    idVersion riskId.asStr riskVersion ++ digestText rationale.asStr
  | .resolveIssue issueId issueVersion resolutionType rationale =>
    idVersion issueId.asStr issueVersion ++ digestText resolutionType.asPersisted ++ digestText rationale.asStr
  | .closeIssue issueId issueVersion => idVersion issueId.asStr issueVersion
  | .reopenIssue issueId issueVersion rationale =>
    idVersion issueId.asStr issueVersion ++ digestText rationale.asStr
  | .lowerPortfolioClassification portfolioId portfolioVersion currentClassification proposedClassification rationale =>
    digestLowering portfolioId.asStr portfolioVersion currentClassification proposedClassification rationale
  | .lowerProductClassification productId productVersion currentClassification proposedClassification rationale =>
    digestLowering productId.asStr productVersion currentClassification proposedClassification rationale
  | .lowerRoadmapClassification roadmapId roadmapVersion currentClassification proposedClassification rationale =>
    digestLowering roadmapId.asStr roadmapVersion currentClassification proposedClassification rationale
  | .lowerKpiClassification kpiId kpiVersion currentClassification proposedClassification rationale =>
    digestLowering kpiId.asStr kpiVersion currentClassification proposedClassification rationale
  | .lowerKpiObservationClassification observationId observationVersion currentClassification proposedClassification rationale =>
    digestLowering observationId.asStr observationVersion currentClassification proposedClassification rationale
  | .lowerActionClassification actionId actionVersion currentClassification proposedClassification rationale =>
    digestLowering actionId.asStr actionVersion currentClassification proposedClassification rationale
  | .lowerDecisionClassification decisionId decisionVersion currentClassification proposedClassification rationale =>
    digestLowering decisionId.asStr decisionVersion currentClassification proposedClassification rationale
  | .lowerRiskClassification riskId riskVersion currentClassification proposedClassification rationale =>
    digestLowering riskId.asStr riskVersion currentClassification proposedClassification rationale
  | .lowerIssueClassification issueId issueVersion currentClassification proposedClassification rationale =>
    digestLowering issueId.asStr issueVersion currentClassification proposedClassification rationale
  | .lowerInitiativeClassification initiativeId initiativeVersion currentClassification proposedClassification rationale =>
    digestLowering initiativeId.asStr initiativeVersion currentClassification proposedClassification rationale
  | .lowerProjectClassification projectId projectVersion currentClassification proposedClassification rationale =>
    digestLowering projectId.asStr projectVersion currentClassification proposedClassification rationale
  | .lowerMilestoneClassification milestoneId milestoneVersion currentClassification proposedClassification rationale =>
    digestLowering milestoneId.asStr milestoneVersion currentClassification proposedClassification rationale

def WorkManagementTarget.digestParts : WorkManagementTarget → String × String × AggregateVersion
  | .actionRequest id version => ("action_request", id.asStr, version)
  | .action id version => ("action", id.asStr, version)
  | .decisionRequest id version => ("decision_request", id.asStr, version)
  | .decision id version => ("decision", id.asStr, version)
  | .risk id version => ("risk", id.asStr, version)
  | .issue id version => ("issue", id.asStr, version)
  | .portfolio id version => ("portfolio", id.asStr, version)
  | .product id version => ("product", id.asStr, version)
  | .roadmap id version => ("roadmap", id.asStr, version)
  | .kpi id version => ("kpi", id.asStr, version)
  | .kpiObservation id version => ("kpi_observation", id.asStr, version)
  | .initiative id version => ("initiative", id.asStr, version)
  | .project id version => ("project", id.asStr, version)
  | .milestone id version => ("milestone", id.asStr, version)

def digestTarget (target : WorkManagementTarget) : List UInt8 :=
  digestText target.digestParts.1 ++ idVersion target.digestParts.2.1 target.digestParts.2.2

def digestEffect : WorkManagementEffect → List UInt8
  | .linkActionRequestToAction request action =>
    digestText "link_action_request_to_action" ++ digestText request.asStr ++ digestText action.asStr
  | .linkDecisionRequestToDecision request decision =>
    digestText "link_decision_request_to_decision" ++ digestText request.asStr ++ digestText decision.asStr
  | .linkDecisionToActionRequest decision request =>
    digestText "link_decision_to_action_request" ++ digestText decision.asStr ++ digestText request.asStr
  | .linkReplacementDecision original replacement =>
    digestText "link_replacement_decision" ++ digestText original.asStr ++ digestText replacement.asStr
  | .linkRiskToIssue risk issue =>
    digestText "link_risk_to_issue" ++ digestText risk.asStr ++ digestText issue.asStr
  | .acceptActionRequest id => digestText "accept_action_request" ++ digestText id.asStr
  | .createAction id => digestText "create_action" ++ digestText id.asStr
  | .resolveDecisionRequest id => digestText "resolve_decision_request" ++ digestText id.asStr
  | .createDecision id => digestText "create_decision" ++ digestText id.asStr
  | .createResultingActionRequest id => digestText "create_resulting_action_request" ++ digestText id.asStr
  | .completeAction id => digestText "complete_action" ++ digestText id.asStr
  | .cancelAction id => digestText "cancel_action" ++ digestText id.asStr
  | .reopenAction id => digestText "reopen_action" ++ digestText id.asStr
  | .supersedeDecision id => digestText "supersede_decision" ++ digestText id.asStr
  | .flagSupersededPremiseActionRequest id => digestText "flag_superseded_premise_action_request" ++ digestText id.asStr
  | .flagSupersededPremiseAction id => digestText "flag_superseded_premise_action" ++ digestText id.asStr
  | .recordRiskOccurrence id => digestText "record_risk_occurrence" ++ digestText id.asStr
  | .createIssue id => digestText "create_issue" ++ digestText id.asStr
  | .closeRisk id => digestText "close_risk" ++ digestText id.asStr
  | .resolveIssue id => digestText "resolve_issue" ++ digestText id.asStr
  | .closeIssue id => digestText "close_issue" ++ digestText id.asStr
  | .reopenIssue id => digestText "reopen_issue" ++ digestText id.asStr
  | .lowerPortfolioClassification id => digestText "lower_portfolio_classification" ++ digestText id.asStr
  | .lowerProductClassification id => digestText "lower_product_classification" ++ digestText id.asStr
  | .lowerRoadmapClassification id => digestText "lower_roadmap_classification" ++ digestText id.asStr
  | .lowerKpiClassification id => digestText "lower_kpi_classification" ++ digestText id.asStr
  | .lowerKpiObservationClassification id => digestText "lower_kpi_observation_classification" ++ digestText id.asStr
  | .lowerActionClassification id => digestText "lower_action_classification" ++ digestText id.asStr
  | .lowerDecisionClassification id => digestText "lower_decision_classification" ++ digestText id.asStr
  | .lowerRiskClassification id => digestText "lower_risk_classification" ++ digestText id.asStr
  | .lowerIssueClassification id => digestText "lower_issue_classification" ++ digestText id.asStr
  | .lowerInitiativeClassification id => digestText "lower_initiative_classification" ++ digestText id.asStr
  | .lowerProjectClassification id => digestText "lower_project_classification" ++ digestText id.asStr
  | .lowerMilestoneClassification id => digestText "lower_milestone_classification" ++ digestText id.asStr

def EvidenceVerification.digestParts : EvidenceVerification → List UInt8
  | .verified verifiedAt integrityDigest =>
    digestText "verified" ++ digestInstant verifiedAt ++ digestText integrityDigest.asStr
  | .degradedLastVerified lastVerifiedAt integrityDigest =>
    digestText "degraded_last_verified" ++ digestInstant lastVerifiedAt ++ digestText integrityDigest.asStr
  | .unverified => digestText "unverified"
  | .integrityMismatch => digestText "integrity_mismatch"
  | .observedUnpinned observedAt integrityDigest =>
    digestText "observed_unpinned" ++ digestInstant observedAt ++ digestText integrityDigest.asStr

def digestEvidence (item : EvidenceReferenceMetadata) : List UInt8 :=
  digestText item.id.asStr ++ digestVersion item.sourceVersion ++ digestClassification item.classification ++
    digestText item.role.asPersisted ++ item.verification.digestParts

def digestJudgment (judgment : HumanJudgment) : List UInt8 :=
  digestText "head_of_products" ++ digestText "proceed_with_documented_rationale" ++
    digestText judgment.rationale.asStr ++ digestClassification judgment.classification

def SupportDisposition.supportName : SupportDisposition → String
  | .evidenceSatisfied => "evidence_satisfied"
  | .judgmentSatisfied => "judgment_satisfied"
  | .verificationPending => "verification_pending"

def digestSupport : Option SupportWitness → List UInt8
  | none => digestText "none"
  | some support =>
    digestText support.disposition.supportName ++ digestClassification support.classification ++
      digestList digestEvidence support.evidence ++ digestList digestJudgment support.judgments

/-- What `calculate_preview_digest` feeds to SHA-256. The two bytes of the
contract version are the only field that is neither text nor a word. -/
def previewBytes (preview : WorkManagementPreview) : List UInt8 :=
  digestText "product-mission-control.work-management.prepared-intent.v1" ++
    digestText preview.id.asStr ++ digestField (bigEndian 2 preview.contractVersion) ++
    digestText preview.operation.kind.asPersisted ++ digestOperation preview.operation ++
    digestList digestTarget preview.targets ++ digestList digestEffect preview.effects ++
    digestList digestClassificationSource preview.classificationSources ++
    digestClassification preview.classification ++ digestSupport preview.support ++
    digestText "allowed" ++ digestInstant preview.expiresAt ++
    digestText "not_cancellable_after_submit" ++ digestText "head_of_products"

def calculatePreviewDigest [Sha256] (preview : WorkManagementPreview) : WorkManagementPayloadDigest :=
  Sha256.finalize (previewBytes preview)

end MissionControl

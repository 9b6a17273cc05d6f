import MissionControl.Domain.Lifecycle
import MissionControl.Lib.Sorting

/-! What needs attention, derived from snapshots of the records. Every record is put
to a fixed list of checks; each check that holds raises a flag against the record. -/

namespace MissionControl.Queue
open Sorting

/-- In the order the variants are declared in, which the derived comparison follows. -/
inductive AttentionReason where
  | actionRequestNeedsInfo | actionRequestStale | actionRequestMissingIntendedOwner
  | actionRequestResponseDue | actionRequestResponseOverdue
  | actionBlocked | actionOverdue | actionAtRisk | actionNeedsEvidence | actionEvidenceVerificationPending
  | actionSupersededPremise
  | decisionRequestNeedsInfo | decisionRequestMissingDecisionOwner | decisionRequestApproachingDeadline
  | decisionRequestOverdue | decisionRequestStale
  | riskReviewDue | riskExposureIncreased | riskEvidenceStale | riskControlInvalid | riskMissingOwner
  | issueBlocked | issueResolutionDue | issueResolutionOverdue | issueNeedsEvidence | issueStale | issueRecurrence
  deriving DecidableEq

inductive AttentionTarget where
  | actionRequest (id : ActionRequestId)
  | action (id : ActionId)
  | decisionRequest (id : DecisionRequestId)
  | risk (id : RiskId)
  | issue (id : IssueId)
  deriving DecidableEq

inductive Freshness where
  | fresh | stale | unknown
  deriving DecidableEq

inductive EvidenceAttentionState where
  | none | missing | verificationPending
  deriving DecidableEq

inductive OrdinaryQueueDisposition where
  | inQueue | exitedAfterCompleteAcceptOrTransfer
  deriving DecidableEq

inductive AttentionInputError where
  | riskExitRequiresAcceptOrTransfer | riskExitProofIncomplete | openIssueCannotCarryVerificationState
  | resolvedIssueRequiresResolutionEvidence | closedIssueCannotRequireAttention
  | failedVerificationRequiresReopenGuidance

structure CompleteRiskExitProof where
  response : RiskResponseType
  owner : StakeholderId
  rationale : RiskRationale
  residualExposure : ResidualExposure
  reviewAt : UtcTimestamp
  settles : response = .accept ∨ response = .transfer

structure AttentionMetadata where
  classification : DataClassification
  freshness : Freshness
  degraded : Bool
  deriving DecidableEq

structure FailedVerificationReopenGuidance where
  safeExplanation : IssueDetails
  remediation : IssueDetails
  reopenRationale : IssueDetails
  deriving DecidableEq

structure AttentionFlag where
  target : AttentionTarget
  reason : AttentionReason
  metadata : AttentionMetadata
  explanation : String
  failedVerificationGuidance : Option FailedVerificationReopenGuidance
  deriving DecidableEq

structure AttentionThresholds where
  decisionApproachingDeadlineMillis : Int
  actionAtRiskMillis : Option Int

structure ActionRequestAttentionInput where
  id : ActionRequestId
  state : ActionRequestState
  intendedOwnerPresent : Bool
  responseDueAt : Option UtcTimestamp
  needsInfo : Bool
  metadata : AttentionMetadata

structure ActionAttentionInput where
  id : ActionId
  state : ActionState
  dueAt : UtcTimestamp
  blocked : Bool
  atRisk : Bool
  evidenceState : EvidenceAttentionState
  supersededPremise : Bool
  metadata : AttentionMetadata

structure DecisionRequestAttentionInput where
  id : DecisionRequestId
  state : DecisionRequestState
  decisionOwnerPresent : Bool
  decisionDeadlineAt : Option UtcTimestamp
  needsInfo : Bool
  metadata : AttentionMetadata

structure RiskAttentionInput where
  id : RiskId
  state : RiskState
  nextReviewAt : Option UtcTimestamp
  exposureIncreased : Bool
  evidenceStale : Bool
  controlInvalid : Bool
  ownerPresent : Bool
  queueDisposition : OrdinaryQueueDisposition
  exitProof : Option CompleteRiskExitProof
  metadata : AttentionMetadata

def RiskAttentionInput.inQueue (id : RiskId) (state : RiskState) (nextReviewAt : Option UtcTimestamp)
    (exposureIncreased evidenceStale controlInvalid ownerPresent : Bool) (metadata : AttentionMetadata) :
    RiskAttentionInput where
  id
  state
  nextReviewAt
  exposureIncreased
  evidenceStale
  controlInvalid
  ownerPresent
  queueDisposition := .inQueue
  exitProof := none
  metadata

def RiskAttentionInput.exitedAfterCompleteAcceptOrTransfer (id : RiskId) (state : RiskState)
    (proof : CompleteRiskExitProof) (exposureIncreased evidenceStale controlInvalid : Bool)
    (metadata : AttentionMetadata) : RiskAttentionInput where
  id
  state
  nextReviewAt := some proof.reviewAt
  exposureIncreased
  evidenceStale
  controlInvalid
  ownerPresent := true
  queueDisposition := .exitedAfterCompleteAcceptOrTransfer
  exitProof := some proof
  metadata

inductive ResolvedIssueVerification where
  | complete | evidenceMissing | pending
  | failed (guidance : FailedVerificationReopenGuidance)
  deriving DecidableEq

inductive IssueAttentionSnapshot where
  | «open» (resolutionEvidenceMissing : Bool)
  | resolved (verification : ResolvedIssueVerification)
  | closed
  deriving DecidableEq

structure IssueAttentionInput where
  id : IssueId
  snapshot : IssueAttentionSnapshot
  resolutionDueAt : Option UtcTimestamp
  blocked : Bool
  recurrenceLinkPresent : Bool
  metadata : AttentionMetadata

structure AttentionInputs where
  asOf : UtcTimestamp
  thresholds : AttentionThresholds
  actionRequests : List ActionRequestAttentionInput
  actions : List ActionAttentionInput
  decisionRequests : List DecisionRequestAttentionInput
  risks : List RiskAttentionInput
  issues : List IssueAttentionInput

structure RiskReentrySummary where
  target : AttentionTarget
  reasons : List AttentionReason
  explanation : String

structure AttentionResult where
  asOf : UtcTimestamp
  flags : List AttentionFlag
  riskReentrySummaries : List RiskReentrySummary

/-- One check of a record: the reason it raises when it holds, and what it says. -/
structure Check where
  reason : AttentionReason
  enabled : Bool
  explanation : String
  failedVerificationGuidance : Option FailedVerificationReopenGuidance := none

/-- A record's checks, with what they are made against. -/
structure Checked where
  target : AttentionTarget
  metadata : AttentionMetadata
  checks : List Check

def Checked.flags (checked : Checked) : List AttentionFlag :=
  (checked.checks.filter (·.enabled)).map fun check =>
    ⟨checked.target, check.reason, checked.metadata, check.explanation, check.failedVerificationGuidance⟩

def ActionRequestAttentionInput.checked (item : ActionRequestAttentionInput) (asOf : UtcTimestamp) : Checked where
  target := .actionRequest item.id
  metadata := item.metadata
  checks :=
    match item.state with
    | .accepted | .declined | .withdrawn => []
    | .draft | .open =>
      [{ reason := .actionRequestNeedsInfo
         enabled := item.needsInfo
         explanation := "additional information is required" },
        { reason := .actionRequestStale
          enabled := item.metadata.freshness = .stale
          explanation := "the request information is stale" },
        { reason := .actionRequestMissingIntendedOwner
          enabled := !item.intendedOwnerPresent
          explanation := "an intended owner is missing" }] ++
      match item.responseDueAt with
      | none => []
      | some deadline =>
        [{ reason := .actionRequestResponseOverdue
           enabled := deadline < asOf
           explanation := "the response deadline has passed" },
          { reason := .actionRequestResponseDue
            enabled := !decide (deadline < asOf) && deadline == asOf
            explanation := "the response is due" }]

def ActionAttentionInput.checked (item : ActionAttentionInput) (asOf : UtcTimestamp)
    (thresholds : AttentionThresholds) : Checked where
  target := .action item.id
  metadata := item.metadata
  checks :=
    match item.state with
    | .completed | .cancelled => []
    | .open | .inProgress =>
      [{ reason := .actionBlocked, enabled := item.blocked, explanation := "the action is blocked" },
        { reason := .actionOverdue
          enabled := item.dueAt < asOf
          explanation := "the action deadline has passed" },
        { reason := .actionAtRisk
          enabled := item.atRisk || (thresholds.actionAtRiskMillis.map (max · 0)).any fun window =>
            let remaining := item.dueAt.unixMillis - asOf.unixMillis
            0 ≤ remaining && remaining ≤ window
          explanation := "the action is at risk" },
        { reason := .actionNeedsEvidence
          enabled := item.evidenceState = .missing
          explanation := "completion evidence is required" },
        { reason := .actionEvidenceVerificationPending
          enabled := item.evidenceState = .verificationPending
          explanation := "completion evidence is awaiting verification" },
        { reason := .actionSupersededPremise
          enabled := item.supersededPremise
          explanation := "the action premise was superseded" }]

def DecisionRequestAttentionInput.checked (item : DecisionRequestAttentionInput) (asOf : UtcTimestamp)
    (thresholds : AttentionThresholds) : Checked where
  target := .decisionRequest item.id
  metadata := item.metadata
  checks :=
    match item.state with
    | .resolved | .withdrawn => []
    | .draft | .open =>
      [{ reason := .decisionRequestNeedsInfo
         enabled := item.needsInfo
         explanation := "additional information is required" },
        { reason := .decisionRequestMissingDecisionOwner
          enabled := !item.decisionOwnerPresent
          explanation := "a decision owner is missing" },
        { reason := .decisionRequestStale
          enabled := item.metadata.freshness = .stale
          explanation := "the decision request information is stale" }] ++
      match item.decisionDeadlineAt with
      | none => []
      | some deadline =>
        let remaining := deadline.unixMillis - asOf.unixMillis
        [{ reason := .decisionRequestOverdue
           enabled := remaining < 0
           explanation := "the decision deadline has passed" },
          { reason := .decisionRequestApproachingDeadline
            enabled := 0 ≤ remaining && remaining ≤ max thresholds.decisionApproachingDeadlineMillis 0
            explanation := "the decision deadline is approaching" }]

def RiskAttentionInput.checked (item : RiskAttentionInput) (asOf : UtcTimestamp) : Checked where
  target := .risk item.id
  metadata := item.metadata
  checks :=
    match item.state with
    | .occurred | .closed => []
    | .open =>
      [{ reason := .riskReviewDue
         enabled := item.nextReviewAt.any (· ≤ asOf)
         explanation := "the risk review is due" },
        { reason := .riskExposureIncreased
          enabled := item.exposureIncreased
          explanation := "risk exposure increased" },
        { reason := .riskEvidenceStale, enabled := item.evidenceStale, explanation := "risk evidence is stale" },
        { reason := .riskControlInvalid
          enabled := item.controlInvalid
          explanation := "the risk control is invalid" },
        { reason := .riskMissingOwner, enabled := !item.ownerPresent, explanation := "a risk owner is missing" }]

def IssueAttentionInput.checked (item : IssueAttentionInput) (asOf : UtcTimestamp) : Checked where
  target := .issue item.id
  metadata := item.metadata
  checks :=
    match item.snapshot with
    | .closed => []
    | snapshot =>
      let evidenceMissing := snapshot == .open true
      let verificationMissing := snapshot == .resolved .evidenceMissing
      let verificationPending := snapshot == .resolved .pending
      [{ reason := .issueBlocked, enabled := item.blocked, explanation := "the issue is blocked" }] ++
      (match item.resolutionDueAt with
      | none => []
      | some deadline =>
        [{ reason := .issueResolutionOverdue
           enabled := deadline < asOf
           explanation := "the issue resolution deadline has passed" },
          { reason := .issueResolutionDue
            enabled := !decide (deadline < asOf) && deadline == asOf
            explanation := "the issue resolution is due" }]) ++
      [{ reason := .issueNeedsEvidence
         enabled := evidenceMissing || verificationMissing || verificationPending
         explanation :=
          if evidenceMissing then "issue resolution evidence is required"
          else if verificationMissing then "issue closure verification evidence is required"
          else "issue verification evidence is pending" }] ++
      (match snapshot with
      | .resolved (.failed guidance) =>
        [{ reason := .issueNeedsEvidence
           enabled := true
           explanation := "issue verification failed; reasoned reopening is required"
           failedVerificationGuidance := some guidance }]
      | _ => []) ++
      [{ reason := .issueStale
         enabled := item.metadata.freshness = .stale
         explanation := "issue information is stale" },
        { reason := .issueRecurrence
          enabled := item.recurrenceLinkPresent
          explanation := "the issue has a recurrence link" }]

/-- Every record with its checks, in the order they are made in. -/
def AttentionInputs.checked (input : AttentionInputs) : List Checked :=
  input.actionRequests.map (·.checked input.asOf) ++
  input.actions.map (·.checked input.asOf input.thresholds) ++
  input.decisionRequests.map (·.checked input.asOf input.thresholds) ++
  input.risks.map (·.checked input.asOf) ++
  input.issues.map (·.checked input.asOf)

def AttentionTarget.kindIndex : AttentionTarget → Nat
  | .actionRequest _ => 0
  | .action _ => 1
  | .decisionRequest _ => 2
  | .risk _ => 3
  | .issue _ => 4

def canonicalIdOf : AttentionTarget → String
  | .actionRequest id => id.asStr
  | .action id => id.asStr
  | .decisionRequest id => id.asStr
  | .risk id => id.asStr
  | .issue id => id.asStr

def AttentionTarget.compare (left right : AttentionTarget) : Ordering :=
  (Ord.compare left.kindIndex right.kindIndex).then (Ord.compare (canonicalIdOf left) (canonicalIdOf right))

def AttentionFlag.compare (left right : AttentionFlag) : Ordering :=
  (left.target.compare right.target).then (Ord.compare left.reason.ctorIdx right.reason.ctorIdx)

/-- The reasons that ask for a settled Risk to be looked at again. -/
def AttentionReason.reenters : AttentionReason → Bool
  | .riskReviewDue | .riskExposureIncreased | .riskEvidenceStale | .riskControlInvalid => true
  | _ => false

def reasonsToReenter (flags : List AttentionFlag) (target : AttentionTarget) : List AttentionReason :=
  ((flags.filter fun flag => flag.target = target).map (·.reason)).filter (·.reenters)

def reentrySummaries (risks : List RiskAttentionInput) (flags : List AttentionFlag) : List RiskReentrySummary :=
  risks.filterMap fun item =>
    let target := AttentionTarget.risk item.id
    let reasons := reasonsToReenter flags target
    if item.queueDisposition = .exitedAfterCompleteAcceptOrTransfer ∧ 2 ≤ reasons.length then
      some ⟨target, reasons, "multiple active risk conditions require combined review"⟩
    else none

def deriveAttention (input : AttentionInputs) : AttentionResult :=
  let flags := sortBy AttentionFlag.compare (input.checked.flatMap (·.flags))
  { asOf := input.asOf
    flags
    riskReentrySummaries :=
      sortBy (fun left right => left.target.compare right.target) (reentrySummaries input.risks flags) }

end MissionControl.Queue

import MissionControl.Queue.Attention

/-! The order of attention flags: by tier, then by the time that makes them urgent,
then by the identifier of the record. -/

namespace MissionControl.Queue
open Sorting

/-- In the order the variants are declared in, which the derived comparison follows. -/
inductive AttentionTier where
  | breachedCommitment | blocked | evidenceIntegrity | approachingDeadline | noAccountableOwner | other
  deriving DecidableEq

namespace AttentionTier

def why : AttentionTier → String
  | .breachedCommitment => "a commitment has already been missed"
  | .blocked => "the work cannot proceed until something is unblocked"
  | .evidenceIntegrity => "the evidence this relies on is missing or unsound"
  | .approachingDeadline => "a deadline is approaching"
  | .noAccountableOwner => "no one is accountable for it yet"
  | .other => "it needs attention but nothing above applies"

def compare (left right : AttentionTier) : Ordering := Ord.compare left.ctorIdx right.ctorIdx

theorem eq_of_compare {left right : AttentionTier} (same : left.compare right = .eq) : left = right := by
  cases left <;> cases right <;> first | rfl | cases same

end AttentionTier

def tierOf : AttentionReason → AttentionTier
  | .actionOverdue | .actionRequestResponseOverdue | .decisionRequestOverdue | .issueResolutionOverdue =>
    .breachedCommitment
  | .actionBlocked | .issueBlocked => .blocked
  | .actionNeedsEvidence | .actionEvidenceVerificationPending | .issueNeedsEvidence | .riskControlInvalid
  | .riskEvidenceStale => .evidenceIntegrity
  | .actionAtRisk | .actionRequestResponseDue | .decisionRequestApproachingDeadline | .issueResolutionDue
  | .riskReviewDue => .approachingDeadline
  | .actionRequestMissingIntendedOwner | .decisionRequestMissingDecisionOwner | .riskMissingOwner =>
    .noAccountableOwner
  | .actionRequestNeedsInfo | .actionRequestStale | .actionSupersededPremise | .decisionRequestNeedsInfo
  | .decisionRequestStale | .riskExposureIncreased | .issueStale | .issueRecurrence => .other

structure RankableAttentionItem where
  flag : AttentionFlag
  relevantAt : Option UtcTimestamp

structure RankedAttentionItem where
  flag : AttentionFlag
  relevantAt : Option UtcTimestamp
  tier : AttentionTier
  rankRationale : String
  deriving DecidableEq

def rationaleFor (tier : AttentionTier) (item : RankableAttentionItem) : String :=
  "Ranked here because " ++ tier.why ++
    (if item.relevantAt.isSome then "; within that group the earliest time comes first" else "") ++
    (match item.flag.metadata.freshness with
    | .stale => ". This is based on data known to be out of date, so it may no longer hold"
    | .unknown => ". The freshness of this data is unknown, so it may no longer hold"
    | .fresh => "") ++
    (if item.flag.metadata.degraded then ". Some source context was unavailable when this was derived" else "")

/-- An absent time is not an early one. -/
def compareTimes : Option UtcTimestamp → Option UtcTimestamp → Ordering
  | some left, some right => Ord.compare left.unixMillis right.unixMillis
  | some _, none => .lt
  | none, some _ => .gt
  | none, none => .eq

def RankedAttentionItem.compare (left right : RankedAttentionItem) : Ordering :=
  (left.tier.compare right.tier).then <|
    (compareTimes left.relevantAt right.relevantAt).then <|
      Ord.compare (canonicalIdOf left.flag.target) (canonicalIdOf right.flag.target)

def RankableAttentionItem.ranked (item : RankableAttentionItem) : RankedAttentionItem where
  flag := item.flag
  relevantAt := item.relevantAt
  tier := tierOf item.flag.reason
  rankRationale := rationaleFor (tierOf item.flag.reason) item

def rankAttention (items : List RankableAttentionItem) : List RankedAttentionItem :=
  sortBy RankedAttentionItem.compare (items.map (·.ranked))

instance : Std.TransCmp AttentionTier.compare :=
  inferInstanceAs (Std.TransCmp (compareOn AttentionTier.ctorIdx))

instance : Std.TransCmp compareTimes where
  eq_swap {left right} := by
    cases left <;> cases right <;> first | rfl | exact Std.OrientedOrd.eq_swap
  isLE_trans {left middle right} := by
    cases left <;> cases middle <;> cases right <;> simp only [compareTimes] <;>
      first | exact Std.TransOrd.isLE_trans | simp

instance : Std.TransCmp RankedAttentionItem.compare :=
  inferInstanceAs (Std.TransCmp (compareLex (comparing AttentionTier.compare RankedAttentionItem.tier)
    (compareLex (comparing compareTimes RankedAttentionItem.relevantAt)
      (compareOn fun item : RankedAttentionItem => canonicalIdOf item.flag.target))))

end MissionControl.Queue

import MissionControl.Queue.Derivation

/-! Attention is derived from the facts alone: not from the order the records come in, each record
and reason at most once, and never both before and after a deadline. -/

namespace MissionControl.AttentionDerivation
open Queue Sorting

/-- The same records, each family in any order. -/
structure SameRecords (input other : AttentionInputs) : Prop where
  asOf : other.asOf = input.asOf
  thresholds : other.thresholds = input.thresholds
  actionRequests : input.actionRequests.Perm other.actionRequests
  actions : input.actions.Perm other.actions
  decisionRequests : input.decisionRequests.Perm other.decisionRequests
  risks : input.risks.Perm other.risks
  issues : input.issues.Perm other.issues

/-- The reasons about one deadline, of which the second holds after the first. -/
def deadlines : List (AttentionReason × AttentionReason) :=
  [(.actionRequestResponseDue, .actionRequestResponseOverdue),
    (.decisionRequestApproachingDeadline, .decisionRequestOverdue), (.issueResolutionDue, .issueResolutionOverdue)]

def Reenters (asOf : UtcTimestamp) (risk : RiskAttentionInput) : Prop :=
  risk.queueDisposition = .exitedAfterCompleteAcceptOrTransfer ∧ risk.state = .open ∧
    2 ≤ (reentryReasons asOf risk).length

instance (asOf : UtcTimestamp) (risk : RiskAttentionInput) : Decidable (Reenters asOf risk) :=
  inferInstanceAs (Decidable (_ ∧ _ ∧ _))

def reentrySummary (asOf : UtcTimestamp) (risk : RiskAttentionInput) : RiskReentrySummary :=
  ⟨.risk risk.id, reentryReasons asOf risk, "multiple active risk conditions require combined review"⟩

structure Derives (input : AttentionInputs) : Prop where
  orderFree : ∀ other, SameRecords input other → deriveAttention other = deriveAttention input
  once : ((deriveAttention input).flags.map (·.key)).Nodup
  sorted : (deriveAttention input).flags.Pairwise fun left right => left.compare right = .lt
  exclusive : ∀ target, ∀ pair ∈ deadlines, ¬((target, pair.1) ∈ (deriveAttention input).flags.map (·.key) ∧
    (target, pair.2) ∈ (deriveAttention input).flags.map (·.key))
  atRisk : ∀ action ∈ input.actions, action.atRisk = false →
    ¬((.action action.id, .actionAtRisk) ∈ (deriveAttention input).flags.map (·.key) ∧
      (.action action.id, .actionOverdue) ∈ (deriveAttention input).flags.map (·.key))
  reentry : (deriveAttention input).riskReentrySummaries.Perm
    ((input.risks.filter fun risk => Reenters input.asOf risk).map (reentrySummary input.asOf))

section
variable {input other : AttentionInputs}

theorem mem_keys {key : AttentionTarget × AttentionReason} : key ∈ (deriveAttention input).flags.map (·.key) ↔
    ∃ checked ∈ input.checked, checked.target = key.1 ∧ ∃ check ∈ checked.checks, check.enabled = true ∧ check.reason = key.2 := by
  simp only [flags_eq, raisedFlags, List.mem_map, mem_sortBy, List.mem_flatMap, Checked.flags, List.mem_filter,
    AttentionFlag.key]
  constructor
  · rintro ⟨_, ⟨checked, made, check, ⟨among, holds⟩, rfl⟩, rfl⟩
    exact ⟨checked, made, rfl, check, among, holds, rfl⟩
  · rintro ⟨checked, made, target, check, among, holds, reason⟩
    exact ⟨_, ⟨checked, made, check, ⟨among, holds⟩, rfl⟩, Prod.ext target reason⟩

theorem checked_perm (same : SameRecords input other) : input.checked.Perm other.checked := by
  unfold AttentionInputs.checked
  rw [same.asOf, same.thresholds]
  exact ((((same.actionRequests.map _).append (same.actions.map _)).append (same.decisionRequests.map _)).append
    (same.risks.map _)).append (same.issues.map _)

def Holds (checked : Checked) (reason : AttentionReason) : Prop :=
  ∃ check ∈ checked.checks, check.enabled = true ∧ check.reason = reason

section
variable {asOf : UtcTimestamp} {thresholds : AttentionThresholds}

theorem request_exclusive (item : ActionRequestAttentionInput) :
    ¬(Holds (item.checked asOf) .actionRequestResponseDue ∧ Holds (item.checked asOf) .actionRequestResponseOverdue) := by
  unfold Holds ActionRequestAttentionInput.checked
  cases item.state <;> cases item.responseDueAt <;> simp +contextual

theorem decision_exclusive (item : DecisionRequestAttentionInput) :
    ¬(Holds (item.checked asOf thresholds) .decisionRequestApproachingDeadline ∧
      Holds (item.checked asOf thresholds) .decisionRequestOverdue) := by
  unfold Holds DecisionRequestAttentionInput.checked
  cases item.state <;> cases item.decisionDeadlineAt <;> simp +contextual

theorem issue_exclusive (item : IssueAttentionInput) :
    ¬(Holds (item.checked asOf) .issueResolutionDue ∧ Holds (item.checked asOf) .issueResolutionOverdue) := by
  unfold Holds IssueAttentionInput.checked
  cases item.snapshot with
  | closed => simp
  | «open» missing => cases item.resolutionDueAt <;> simp +contextual
  | resolved verification => cases verification <;> cases item.resolutionDueAt <;> simp +contextual

theorem action_exclusive (item : ActionAttentionInput) (calm : item.atRisk = false) :
    ¬(Holds (item.checked asOf thresholds) .actionAtRisk ∧ Holds (item.checked asOf thresholds) .actionOverdue) := by
  unfold Holds ActionAttentionInput.checked
  cases item.state <;> cases thresholds.actionAtRiskMillis <;> simp +contextual [calm] <;> exact fun later _ => later

def reasonKind : AttentionReason → Nat
  | .actionRequestNeedsInfo | .actionRequestStale | .actionRequestMissingIntendedOwner | .actionRequestResponseDue
  | .actionRequestResponseOverdue => 0
  | .actionBlocked | .actionOverdue | .actionAtRisk | .actionNeedsEvidence | .actionEvidenceVerificationPending
  | .actionSupersededPremise => 1
  | .decisionRequestNeedsInfo | .decisionRequestMissingDecisionOwner | .decisionRequestApproachingDeadline
  | .decisionRequestOverdue | .decisionRequestStale => 2
  | .riskReviewDue | .riskExposureIncreased | .riskEvidenceStale | .riskControlInvalid | .riskMissingOwner => 3
  | .issueBlocked | .issueResolutionDue | .issueResolutionOverdue | .issueNeedsEvidence | .issueStale
  | .issueRecurrence => 4

theorem holds_kind {checked : Checked} (made : checked ∈ input.checked) {reason : AttentionReason}
    (holds : Holds checked reason) : checked.target.kindIndex = reasonKind reason := by
  have kinds : ∀ check ∈ checked.checks, checked.target.kindIndex = reasonKind check.reason := by
    simp only [AttentionInputs.checked, List.mem_append, List.mem_map] at made
    rcases made with (((⟨item, _, rfl⟩ | ⟨item, _, rfl⟩) | ⟨item, _, rfl⟩) | ⟨item, _, rfl⟩) | ⟨item, _, rfl⟩
    · unfold ActionRequestAttentionInput.checked
      cases item.state <;> cases item.responseDueAt <;> simp [reasonKind, AttentionTarget.kindIndex]
    · unfold ActionAttentionInput.checked
      cases item.state <;> simp [reasonKind, AttentionTarget.kindIndex]
    · unfold DecisionRequestAttentionInput.checked
      cases item.state <;> cases item.decisionDeadlineAt <;> simp [reasonKind, AttentionTarget.kindIndex]
    · unfold RiskAttentionInput.checked
      cases item.state <;> simp [reasonKind, AttentionTarget.kindIndex]
    · unfold IssueAttentionInput.checked
      cases item.snapshot with
      | closed => simp
      | «open» missing => cases item.resolutionDueAt <;> simp [reasonKind, AttentionTarget.kindIndex]
      | resolved verification =>
        cases verification <;> cases item.resolutionDueAt <;> simp [reasonKind, AttentionTarget.kindIndex]
  obtain ⟨check, among, _, rfl⟩ := holds
  exact kinds check among

theorem exclusive_checked {checked : Checked} (made : checked ∈ input.checked) :
    ∀ pair ∈ deadlines, ¬(Holds checked pair.1 ∧ Holds checked pair.2) := by
  have foreign {first second : AttentionReason} (apart : (checked.target.kindIndex == reasonKind first) = false) :
      ¬(Holds checked first ∧ Holds checked second) := fun both =>
    ne_of_beq_false apart (holds_kind made both.1)
  simp only [AttentionInputs.checked, List.mem_append, List.mem_map] at made
  simp only [deadlines, List.forall_mem_cons, List.not_mem_nil, false_implies, implies_true, and_true]
  rcases made with (((⟨item, _, rfl⟩ | ⟨item, _, rfl⟩) | ⟨item, _, rfl⟩) | ⟨item, _, rfl⟩) | ⟨item, _, rfl⟩
  · exact ⟨request_exclusive item, foreign rfl, foreign rfl⟩
  · exact ⟨foreign rfl, foreign rfl, foreign rfl⟩
  · exact ⟨foreign rfl, decision_exclusive item, foreign rfl⟩
  · exact ⟨foreign rfl, foreign rfl, foreign rfl⟩
  · exact ⟨foreign rfl, foreign rfl, issue_exclusive item⟩

end

theorem both_held (distinct : DistinctInputs input) {target : AttentionTarget} {first second : AttentionReason}
    (left : (target, first) ∈ (deriveAttention input).flags.map (·.key))
    (right : (target, second) ∈ (deriveAttention input).flags.map (·.key)) :
    ∃ checked ∈ input.checked, checked.target = target ∧ Holds checked first ∧ Holds checked second := by
  obtain ⟨checked, made, named, holds⟩ := mem_keys.mp left
  obtain ⟨other, also, same, later⟩ := mem_keys.mp right
  cases List.inj_on_of_nodup_map (checked_distinct distinct) made also (named.trans same.symm)
  exact ⟨checked, made, named, holds, later⟩

theorem sorted_strictly (distinct : DistinctInputs input) :
    (deriveAttention input).flags.Pairwise fun left right => left.compare right = .lt := by
  have ordered : (deriveAttention input).flags.Pairwise fun left right => (left.compare right).isLE = true :=
    sortBy_sorted (raisedFlags input)
  have apart := List.pairwise_map.mp (flags_distinct distinct)
  refine (ordered.and apart).imp fun {left right} ⟨before, different⟩ => ?_
  cases compared : left.compare right with
  | lt => rfl
  | eq => exact absurd (AttentionFlag.key_of_compare compared) different
  | gt => rw [compared] at before; cases before

theorem flags_same (distinct : DistinctInputs input) (same : SameRecords input other) :
    (deriveAttention other).flags = (deriveAttention input).flags :=
  (sortBy_eq_of_perm (separates_raised distinct) ((checked_perm same).flatMap_right _)).symm

theorem summaries_eq (distinct : DistinctInputs input) :
    reentrySummaries input.risks (deriveAttention input).flags =
      (input.risks.filter fun risk => Reenters input.asOf risk).map (reentrySummary input.asOf) := by
  rw [← List.filterMap_eq_map, List.filterMap_filter]
  apply List.filterMap_congr
  intro risk member
  simp only [reasonsToReenter_eq distinct member, Reenters]
  by_cases «open» : risk.state = .open
  · simp [«open», reentrySummary]
  · simp [«open»]

theorem separates_summaries (distinct : DistinctInputs input) :
    Separates (fun left right : RiskReentrySummary => left.target.compare right.target)
      (reentrySummaries input.risks (deriveAttention input).flags) := by
  intro left first right second same
  rw [summaries_eq distinct] at first second
  obtain ⟨one, among, rfl⟩ := List.mem_map.mp first
  obtain ⟨another, within, rfl⟩ := List.mem_map.mp second
  have ids : one.id = another.id := AttentionTarget.risk.inj (AttentionTarget.eq_of_compare same)
  rw [List.inj_on_of_nodup_map distinct.risks (List.mem_of_mem_filter among) (List.mem_of_mem_filter within) ids]

instance : Std.TransCmp fun left right : RiskReentrySummary => left.target.compare right.target :=
  inferInstanceAs (Std.TransCmp (comparing AttentionTarget.compare RiskReentrySummary.target))

theorem derives (input : AttentionInputs) (distinct : DistinctInputs input) : Derives input where
  orderFree other same := by
    have flags := flags_same distinct same
    have summaries : sortBy (fun left right : RiskReentrySummary => left.target.compare right.target)
        (reentrySummaries other.risks (deriveAttention other).flags) =
        sortBy (fun left right => left.target.compare right.target)
          (reentrySummaries input.risks (deriveAttention input).flags) := by
      rw [flags]
      exact (sortBy_eq_of_perm (separates_summaries distinct) (same.risks.filterMap _)).symm
    exact AttentionResult.mk.injEq .. |>.mpr ⟨same.asOf, flags, summaries⟩
  once := flags_distinct distinct
  sorted := sorted_strictly distinct
  exclusive target pair listed := by
    rintro ⟨due, overdue⟩
    obtain ⟨checked, made, _, holds⟩ := both_held distinct due overdue
    exact exclusive_checked made pair listed holds
  atRisk action member calm := by
    rintro ⟨risk, overdue⟩
    obtain ⟨checked, made, named, holds⟩ := both_held distinct risk overdue
    have own : action.checked input.asOf input.thresholds ∈ input.checked := by
      simp only [AttentionInputs.checked, List.mem_append, List.mem_map]
      exact .inl (.inl (.inl (.inr ⟨action, member, rfl⟩)))
    cases List.inj_on_of_nodup_map (checked_distinct distinct) made own named
    exact action_exclusive action calm holds
  reentry := by
    rw [← summaries_eq distinct]
    exact sortBy_perm _ _

end

/-! A Risk that was accepted and comes up for review with a larger exposure. -/

namespace Accepted

def today : UtcTimestamp := ⟨1790000000000, by decide, by decide⟩

def proof : CompleteRiskExitProof where
  response := .accept
  owner := ⟨"owner-1", by decide⟩
  rationale := ⟨"The supplier is replaced next quarter", by decide⟩
  residualExposure := ⟨"Low", by decide⟩
  reviewAt := today
  settles := .inl rfl

def risk : RiskAttentionInput :=
  .exitedAfterCompleteAcceptOrTransfer ⟨"risk-1", by decide⟩ .open proof true false false ⟨.internal, .fresh, false⟩

def inputs : AttentionInputs := ⟨today, ⟨0, none⟩, [], [], [], [risk], []⟩

end Accepted

open Accepted

theorem accepted_derives : Derives inputs ∧
    (deriveAttention inputs).flags.map (·.reason) = [.riskReviewDue, .riskExposureIncreased] :=
  ⟨derives inputs ⟨by decide, by decide, by decide, by decide, by decide⟩, by decide +kernel⟩

end MissionControl.AttentionDerivation

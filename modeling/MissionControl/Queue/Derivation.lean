import MissionControl.Queue.Attention
import MissionControl.Lib.Repeats

/-! What the derivation of attention raises: the flags of the records put to the checks, each
record and reason once, in one order. -/

namespace MissionControl.Queue
open Sorting Repeats

instance : Std.TransCmp AttentionTarget.compare :=
  inferInstanceAs (Std.TransCmp (compareLex (compareOn AttentionTarget.kindIndex) (compareOn canonicalIdOf)))

instance : Std.TransCmp AttentionFlag.compare :=
  inferInstanceAs (Std.TransCmp (compareLex (comparing AttentionTarget.compare AttentionFlag.target)
    (compareOn fun flag : AttentionFlag => flag.reason.ctorIdx)))

theorem target_ext {left right : AttentionTarget} (kinds : left.kindIndex = right.kindIndex)
    (ids : canonicalIdOf left = canonicalIdOf right) : left = right := by
  cases left <;> cases right <;> first | exact congrArg _ (OpaqueId.asStr_injective ids) | cases kinds

theorem AttentionTarget.eq_of_compare {left right : AttentionTarget} (same : left.compare right = .eq) : left = right := by
  simp only [AttentionTarget.compare, Ordering.then_eq_eq] at same
  exact target_ext (Std.LawfulEqOrd.eq_of_compare same.1) (Std.LawfulEqOrd.eq_of_compare same.2)

theorem reason_ctorIdx_injective : Function.Injective AttentionReason.ctorIdx := by
  intro left right same
  rw [← AttentionReason.ofNat_ctorIdx left, same, AttentionReason.ofNat_ctorIdx]

def AttentionFlag.key (flag : AttentionFlag) : AttentionTarget × AttentionReason := (flag.target, flag.reason)

theorem AttentionFlag.key_of_compare {left right : AttentionFlag} (same : left.compare right = .eq) : left.key = right.key := by
  simp only [AttentionFlag.compare, Ordering.then_eq_eq] at same
  have reasons := reason_ctorIdx_injective (Std.LawfulEqOrd.eq_of_compare same.2)
  rw [key, key, AttentionTarget.eq_of_compare same.1, reasons]

/-- Records of one family are told apart by their identifiers. -/
structure DistinctInputs (input : AttentionInputs) : Prop where
  actionRequests : (input.actionRequests.map (·.id)).Nodup
  actions : (input.actions.map (·.id)).Nodup
  decisionRequests : (input.decisionRequests.map (·.id)).Nodup
  risks : (input.risks.map (·.id)).Nodup
  issues : (input.issues.map (·.id)).Nodup

section
variable {input : AttentionInputs}

theorem checked_distinct (distinct : DistinctInputs input) : (input.checked.map (·.target)).Nodup := by
  have nodup {Input Id : Type} {inputs : List Input} {id : Input → Id} {make : Id → AttentionTarget}
      (injective : Function.Injective make) (ids : (inputs.map id).Nodup) :
      (inputs.map fun item => make (id item)).Nodup := by
    have mapped := ids.map injective
    rwa [List.map_map] at mapped
  have requests := nodup (fun _ _ same => AttentionTarget.actionRequest.inj same) distinct.actionRequests
  have actions := nodup (fun _ _ same => AttentionTarget.action.inj same) distinct.actions
  have decisions := nodup (fun _ _ same => AttentionTarget.decisionRequest.inj same) distinct.decisionRequests
  have risks := nodup (fun _ _ same => AttentionTarget.risk.inj same) distinct.risks
  have issues := nodup (fun _ _ same => AttentionTarget.issue.inj same) distinct.issues
  simp only [AttentionInputs.checked, List.map_append, List.map_map, Function.comp_def,
    ActionRequestAttentionInput.checked, ActionAttentionInput.checked, DecisionRequestAttentionInput.checked,
    RiskAttentionInput.checked, IssueAttentionInput.checked]
  simp only [List.nodup_append, List.mem_append, List.mem_map]
  refine ⟨⟨⟨⟨requests, actions, ?_⟩, decisions, ?_⟩, risks, ?_⟩, issues, ?_⟩
  · rintro _ ⟨_, _, rfl⟩ _ ⟨_, _, rfl⟩
    nofun
  · rintro _ (⟨_, _, rfl⟩ | ⟨_, _, rfl⟩) _ ⟨_, _, rfl⟩ <;> nofun
  · rintro _ ((⟨_, _, rfl⟩ | ⟨_, _, rfl⟩) | ⟨_, _, rfl⟩) _ ⟨_, _, rfl⟩ <;> nofun
  · rintro _ (((⟨_, _, rfl⟩ | ⟨_, _, rfl⟩) | ⟨_, _, rfl⟩) | ⟨_, _, rfl⟩) _ ⟨_, _, rfl⟩ <;> nofun

variable {checked : Checked}

theorem reasons_distinct (made : checked ∈ input.checked) :
    ((checked.checks.filter (·.enabled)).map (·.reason)).Nodup := by
  simp only [AttentionInputs.checked, List.mem_append, List.mem_map] at made
  rcases made with (((⟨item, _, rfl⟩ | ⟨item, _, rfl⟩) | ⟨item, _, rfl⟩) | ⟨item, _, rfl⟩) | ⟨item, _, rfl⟩
  · refine List.Nodup.sublist (List.filter_sublist.map _) ?_
    unfold ActionRequestAttentionInput.checked
    cases item.state <;> cases item.responseDueAt <;> simp
  · refine List.Nodup.sublist (List.filter_sublist.map _) ?_
    unfold ActionAttentionInput.checked
    cases item.state <;> simp
  · refine List.Nodup.sublist (List.filter_sublist.map _) ?_
    unfold DecisionRequestAttentionInput.checked
    cases item.state <;> cases item.decisionDeadlineAt <;> simp
  · refine List.Nodup.sublist (List.filter_sublist.map _) ?_
    unfold RiskAttentionInput.checked
    cases item.state <;> simp
  · unfold IssueAttentionInput.checked
    cases item.snapshot with
    | closed => exact List.nodup_nil
    | «open» missing =>
      refine List.Nodup.sublist (List.filter_sublist.map _) ?_
      cases item.resolutionDueAt <;> simp
    | resolved verification =>
      cases verification with
      | failed guidance =>
        -- The evidence is checked twice, and the first check does not hold.
        have unheld : List.filter (fun check : Check => check.enabled)
            [{ reason := .issueNeedsEvidence
               enabled := IssueAttentionSnapshot.resolved (.failed guidance) == .open true ||
                 IssueAttentionSnapshot.resolved (.failed guidance) == .resolved .evidenceMissing ||
                 IssueAttentionSnapshot.resolved (.failed guidance) == .resolved .pending
               explanation := if IssueAttentionSnapshot.resolved (.failed guidance) == .open true then
                  "issue resolution evidence is required"
                else if IssueAttentionSnapshot.resolved (.failed guidance) == .resolved .evidenceMissing then
                  "issue closure verification evidence is required"
                else "issue verification evidence is pending" }] = [] := rfl
        simp only [List.filter_append, List.map_append, unheld]
        refine List.Nodup.sublist ((((List.filter_sublist.map _).append (List.filter_sublist.map _)).append
          (List.Sublist.refl _)).append (List.filter_sublist.map _) |>.append (List.filter_sublist.map _)) ?_
        cases item.resolutionDueAt <;> simp
      | complete | evidenceMissing | pending =>
        refine List.Nodup.sublist (List.filter_sublist.map _) ?_
        cases item.resolutionDueAt <;> simp

def raisedFlags (input : AttentionInputs) : List AttentionFlag := input.checked.flatMap (·.flags)

theorem flags_target {flag : AttentionFlag} (raised : flag ∈ checked.flags) : flag.target = checked.target := by
  obtain ⟨check, _, rfl⟩ := List.mem_map.mp raised
  rfl

theorem raised_distinct (distinct : DistinctInputs input) : ((raisedFlags input).map (·.key)).Nodup := by
  have keyed := nodup_keyed (checked_distinct distinct) fun checked made => reasons_distinct made
  simp only [raisedFlags, List.map_flatMap, Checked.flags, List.map_map] at keyed ⊢
  exact keyed

theorem separates_raised (distinct : DistinctInputs input) : Separates AttentionFlag.compare (raisedFlags input) := by
  intro left first right second same
  exact List.inj_on_of_nodup_map (raised_distinct distinct) first second (AttentionFlag.key_of_compare same)

theorem flags_eq (input : AttentionInputs) :
    (deriveAttention input).flags = sortBy AttentionFlag.compare (raisedFlags input) := rfl

theorem flags_distinct (distinct : DistinctInputs input) : ((deriveAttention input).flags.map (·.key)).Nodup := by
  rw [flags_eq, ((sortBy_perm _ _).map _).nodup_iff]
  exact raised_distinct distinct

theorem raised_of (distinct : DistinctInputs input) (made : checked ∈ input.checked) :
    ((raisedFlags input).filter fun flag => flag.target = checked.target) = checked.flags := by
  apply filter_named (fun (flag : AttentionFlag) target => decide (flag.target = target)) (checked_distinct distinct) ?_ made
  intro other _ flag raised wanted
  rw [decide_eq_true_eq, flags_target raised]
  exact eq_comm

end

variable {input : AttentionInputs} {risk : RiskAttentionInput}

def reentryReasons (asOf : UtcTimestamp) (risk : RiskAttentionInput) : List AttentionReason :=
  (if risk.nextReviewAt.any (· ≤ asOf) then [.riskReviewDue] else []) ++
  (if risk.exposureIncreased then [.riskExposureIncreased] else []) ++
  (if risk.evidenceStale then [.riskEvidenceStale] else []) ++
  (if risk.controlInvalid then [.riskControlInvalid] else [])

theorem sorted_flags (checked : Checked) (ordered : (checked.checks.map (·.reason.ctorIdx)).Pairwise (· ≤ ·)) :
    sortBy AttentionFlag.compare checked.flags = checked.flags := by
  apply List.Pairwise.insertionSort_eq
  rw [Checked.flags, List.pairwise_map]
  refine (List.Pairwise.sublist List.filter_sublist (List.pairwise_map.mp ordered)).imp fun {left right} before => ?_
  have same : checked.target.compare checked.target = .eq := Std.ReflCmp.compare_self
  simp only [AttentionFlag.compare, same, Ordering.then]
  exact Nat.isLE_compare.mpr before

theorem reasonsToReenter_eq (distinct : DistinctInputs input) (member : risk ∈ input.risks) :
    reasonsToReenter (deriveAttention input).flags (.risk risk.id) =
      if risk.state = .open then reentryReasons input.asOf risk else [] := by
  have made : risk.checked input.asOf ∈ input.checked := by
    simp only [AttentionInputs.checked, List.mem_append, List.mem_map]
    exact .inl (.inr ⟨risk, member, rfl⟩)
  have own : ((raisedFlags input).filter fun flag => flag.target = .risk risk.id) = (risk.checked input.asOf).flags :=
    raised_of distinct made
  rw [reasonsToReenter, flags_eq, filter_sortBy (separates_raised distinct), own, sorted_flags]
  · unfold Checked.flags RiskAttentionInput.checked reentryReasons
    cases risk.state with
    | «open» =>
      cases risk.nextReviewAt.any (· ≤ input.asOf) <;> cases risk.exposureIncreased <;> cases risk.evidenceStale <;>
        cases risk.controlInvalid <;> cases risk.ownerPresent <;> rfl
    | occurred | closed => rfl
  · unfold RiskAttentionInput.checked
    cases risk.state <;> simp [AttentionReason.ctorIdx]

end MissionControl.Queue

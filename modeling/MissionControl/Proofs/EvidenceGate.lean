import MissionControl.Domain.Support
import Mathlib.Order.Bounds.Basic
import Mathlib.Data.List.Perm.Basic

/-! The two gates that Evidence and human judgments pass: when each lets a support through, what
it concludes of it, and that the one which also takes judgments alone never differs from the
other where both succeed. -/

namespace MissionControl.EvidenceGate
open EvidenceOrJudgment

def Degraded (support : EvidenceOrJudgment) : Prop := ∃ item ∈ support.evidence, item.verification.isDegraded = true

instance (support : EvidenceOrJudgment) : Decidable (Degraded support) :=
  inferInstanceAs (Decidable (∃ item ∈ support.evidence, item.verification.isDegraded = true))

structure Sound (support : EvidenceOrJudgment) : Prop where
  accepted : ∀ item ∈ support.evidence, item.verification ≠ .unverified ∧ item.verification ≠ .integrityMismatch
  judged : Degraded support → support.judgments ≠ []

/-- What a gate concludes where it succeeds. -/
def disposition (support : EvidenceOrJudgment) : SupportDisposition :=
  if Degraded support then .verificationPending
  else if support.evidence.isEmpty then .judgmentSatisfied
  else .evidenceSatisfied

section
variable {support other : EvidenceOrJudgment} {witness : SupportWitness}

theorem not_refused_iff : ¬support.evidence.any (·.verification.isRefused) = true ↔
    ∀ item ∈ support.evidence, item.verification ≠ .unverified ∧ item.verification ≠ .integrityMismatch := by
  rw [Bool.not_eq_true, List.any_eq_false]
  apply forall₂_congr
  intro item _
  cases item.verification <;> simp [EvidenceVerification.isRefused]

theorem degraded_iff : support.evidence.any (·.verification.isDegraded) = true ↔ Degraded support := List.any_eq_true

theorem verified_iff (sound : Sound support) (plain : ¬Degraded support) :
    support.evidence.any (·.verification.isVerified) = true ↔ support.evidence ≠ [] := by
  rw [List.any_eq_true]
  constructor
  · rintro ⟨item, member, _⟩
    exact List.ne_nil_of_mem member
  · intro shown
    obtain ⟨item, member⟩ := List.exists_mem_of_ne_nil _ shown
    refine ⟨item, member, ?_⟩
    have accepted := sound.accepted item member
    have undegraded : item.verification.isDegraded ≠ true := fun degraded => plain ⟨item, member, degraded⟩
    cases verification : item.verification <;> simp_all [EvidenceVerification.isVerified, EvidenceVerification.isDegraded]

theorem Degraded.shown (degraded : Degraded support) : support.evidence ≠ [] := by
  obtain ⟨item, member, _⟩ := degraded
  exact List.ne_nil_of_mem member

theorem disposition_degraded (degraded : Degraded support) : disposition support = .verificationPending := if_pos degraded

theorem disposition_verified (plain : ¬Degraded support) (shown : support.evidence ≠ []) :
    disposition support = .evidenceSatisfied := by
  rw [disposition, if_neg plain, if_neg (by simpa using shown)]

theorem disposition_judged (empty : support.evidence = []) : disposition support = .judgmentSatisfied := by
  have plain : ¬Degraded support := fun degraded => degraded.shown empty
  rw [disposition, if_neg plain, if_pos (by simp [empty])]

theorem required_ok_iff : support.evaluateEvidenceRequired = .ok witness ↔
    Sound support ∧ support.evidence ≠ [] ∧ witness = support.witness .evidenceRequired (disposition support) := by
  constructor
  · intro satisfied
    unfold evaluateEvidenceRequired at satisfied
    split at satisfied
    · cases satisfied
    next accepted =>
      rw [not_refused_iff] at accepted
      split at satisfied
      next degraded =>
        rw [degraded_iff] at degraded
        split at satisfied
        · cases satisfied
        next judged =>
          cases satisfied
          exact ⟨⟨accepted, fun _ => by simpa using judged⟩, degraded.shown, by rw [disposition_degraded degraded]⟩
      next plain =>
        rw [degraded_iff] at plain
        have sound : Sound support := ⟨accepted, fun degraded => absurd degraded plain⟩
        split at satisfied
        next verified =>
          cases satisfied
          have shown := (verified_iff sound plain).mp verified
          exact ⟨sound, shown, by rw [disposition_verified plain shown]⟩
        · cases satisfied
  · rintro ⟨sound, shown, rfl⟩
    unfold evaluateEvidenceRequired
    rw [if_neg (not_refused_iff.mpr sound.accepted)]
    by_cases degraded : Degraded support
    · rw [if_pos (degraded_iff.mpr degraded), if_neg (by simpa using sound.judged degraded), disposition_degraded degraded]
    · rw [if_neg (degraded_iff.not.mpr degraded), if_pos ((verified_iff sound degraded).mpr shown),
        disposition_verified degraded shown]

theorem either_ok_iff : support.evaluateEvidenceOrJudgment = .ok witness ↔
    Sound support ∧ (support.evidence ≠ [] ∨ support.judgments ≠ []) ∧
      witness = support.witness .evidenceOrJudgment (disposition support) := by
  constructor
  · intro satisfied
    unfold evaluateEvidenceOrJudgment at satisfied
    split at satisfied
    · cases satisfied
    next accepted =>
      rw [not_refused_iff] at accepted
      split at satisfied
      next degraded =>
        rw [degraded_iff] at degraded
        split at satisfied
        · cases satisfied
        next judged =>
          cases satisfied
          exact ⟨⟨accepted, fun _ => by simpa using judged⟩, .inl degraded.shown, by rw [disposition_degraded degraded]⟩
      next plain =>
        rw [degraded_iff] at plain
        have sound : Sound support := ⟨accepted, fun degraded => absurd degraded plain⟩
        split at satisfied
        next shown =>
          rw [verified_iff sound plain] at shown
          cases satisfied
          exact ⟨sound, .inl shown, by rw [disposition_verified plain shown]⟩
        next empty =>
          rw [verified_iff sound plain] at empty
          split at satisfied
          next judged =>
            cases satisfied
            exact ⟨sound, .inr (by simpa using judged), by rw [disposition_judged (not_not.mp empty)]⟩
          · cases satisfied
  · rintro ⟨sound, some, rfl⟩
    unfold evaluateEvidenceOrJudgment
    rw [if_neg (not_refused_iff.mpr sound.accepted)]
    by_cases degraded : Degraded support
    · rw [if_pos (degraded_iff.mpr degraded), if_neg (by simpa using sound.judged degraded), disposition_degraded degraded]
    · rw [if_neg (degraded_iff.not.mpr degraded)]
      by_cases shown : support.evidence = []
      · have judged := some.resolve_left (not_not.mpr shown)
        rw [if_neg ((verified_iff sound degraded).not.mpr (not_not.mpr shown)), if_pos (by simpa using judged),
          disposition_judged shown]
      · rw [if_pos ((verified_iff sound degraded).mpr shown), disposition_verified degraded shown]

theorem required_succeeds_iff :
    (∃ witness, support.evaluateEvidenceRequired = .ok witness) ↔ Sound support ∧ support.evidence ≠ [] := by
  simp only [required_ok_iff]
  constructor
  · rintro ⟨_, sound, shown, _⟩
    exact ⟨sound, shown⟩
  · rintro ⟨sound, shown⟩
    exact ⟨_, sound, shown, rfl⟩

theorem either_succeeds_iff : (∃ witness, support.evaluateEvidenceOrJudgment = .ok witness) ↔
    Sound support ∧ (support.evidence ≠ [] ∨ support.judgments ≠ []) := by
  simp only [either_ok_iff]
  constructor
  · rintro ⟨_, sound, shown, _⟩
    exact ⟨sound, shown⟩
  · rintro ⟨sound, shown⟩
    exact ⟨_, sound, shown, rfl⟩

theorem Sound.mono (sound : Sound support) (same : other.evidence = support.evidence)
    (more : support.judgments ⊆ other.judgments) : Sound other where
  accepted := by rw [same]; exact sound.accepted
  judged degraded := by
    unfold Degraded at degraded
    rw [same] at degraded
    obtain ⟨judgment, member⟩ := List.exists_mem_of_ne_nil _ (sound.judged degraded)
    exact List.ne_nil_of_mem (more member)

theorem classifications_ne_nil (shown : support.evidence ≠ [] ∨ support.judgments ≠ []) : support.classifications ≠ [] := by
  rcases shown with shown | shown <;> simp [classifications, shown]

theorem isLUB_witness (shown : support.evidence ≠ [] ∨ support.judgments ≠ []) (requirement : SupportRequirement)
    (concluded : SupportDisposition) :
    IsLUB {classification | classification ∈ support.classifications}
      (support.witness requirement concluded).classification := by
  have bounds := @witness_classification_le_iff support requirement concluded (classifications_ne_nil shown)
  exact ⟨bounds.mp le_rfl, fun bound upper => bounds.mpr upper⟩

end

structure GatesExact (support : EvidenceOrJudgment) : Prop where
  required : (∃ witness, support.evaluateEvidenceRequired = .ok witness) ↔ Sound support ∧ support.evidence ≠ []
  either : (∃ witness, support.evaluateEvidenceOrJudgment = .ok witness) ↔
    (∃ witness, support.evaluateEvidenceRequired = .ok witness) ∨ (support.evidence = [] ∧ support.judgments ≠ [])
  agree : ∀ first second, support.evaluateEvidenceRequired = .ok first →
    support.evaluateEvidenceOrJudgment = .ok second → first.disposition = second.disposition
  pending : ∀ witness, support.evaluateEvidenceRequired = .ok witness ∨ support.evaluateEvidenceOrJudgment = .ok witness →
    (witness.disposition = .verificationPending ↔ Degraded support)
  judged : ∀ other : EvidenceOrJudgment, other.evidence = support.evidence → support.judgments ⊆ other.judgments →
    ((∃ witness, support.evaluateEvidenceRequired = .ok witness) → ∃ witness, other.evaluateEvidenceRequired = .ok witness) ∧
    ((∃ witness, support.evaluateEvidenceOrJudgment = .ok witness) → ∃ witness, other.evaluateEvidenceOrJudgment = .ok witness)
  classified : ∀ witness, support.evaluateEvidenceRequired = .ok witness ∨ support.evaluateEvidenceOrJudgment = .ok witness →
    IsLUB {classification | classification ∈ support.classifications} witness.classification
  orderFree : ∀ other : EvidenceOrJudgment, other.evidence.Perm support.evidence → other.judgments.Perm support.judgments →
    ∀ requirement concluded,
      (other.witness requirement concluded).classification = (support.witness requirement concluded).classification

theorem gates_exact (support : EvidenceOrJudgment) : GatesExact support where
  required := required_succeeds_iff
  either := by
    rw [either_succeeds_iff, required_succeeds_iff]
    constructor
    · rintro ⟨sound, shown | judged⟩
      · exact .inl ⟨sound, shown⟩
      · by_cases empty : support.evidence = []
        · exact .inr ⟨empty, judged⟩
        · exact .inl ⟨sound, empty⟩
    · rintro (⟨sound, shown⟩ | ⟨empty, judged⟩)
      · exact ⟨sound, .inl shown⟩
      · exact ⟨⟨by simp [empty], fun _ => judged⟩, .inr judged⟩
  agree first second left right := by
    obtain ⟨_, _, rfl⟩ := required_ok_iff.mp left
    obtain ⟨_, _, rfl⟩ := either_ok_iff.mp right
    rfl
  pending witness succeeded := by
    have concluded : witness.disposition = disposition support := by
      rcases succeeded with left | right
      · obtain ⟨_, _, rfl⟩ := required_ok_iff.mp left
        rfl
      · obtain ⟨_, _, rfl⟩ := either_ok_iff.mp right
        rfl
    rw [concluded, disposition]
    split
    next degraded => exact iff_of_true rfl degraded
    next plain => exact iff_of_false (by split <;> decide) plain
  judged other same more := by
    rw [required_succeeds_iff, required_succeeds_iff, either_succeeds_iff, either_succeeds_iff, same]
    refine ⟨fun ⟨sound, shown⟩ => ⟨sound.mono same more, shown⟩, fun ⟨sound, shown⟩ => ⟨sound.mono same more, ?_⟩⟩
    refine shown.imp_right fun judged => ?_
    obtain ⟨judgment, member⟩ := List.exists_mem_of_ne_nil _ judged
    exact List.ne_nil_of_mem (more member)
  classified witness succeeded := by
    rcases succeeded with left | right
    · obtain ⟨_, shown, rfl⟩ := required_ok_iff.mp left
      exact isLUB_witness (.inl shown) _ _
    · obtain ⟨_, shown, rfl⟩ := either_ok_iff.mp right
      exact isLUB_witness shown _ _
  orderFree other evidence judgments requirement concluded := by
    have same : ∀ classification, classification ∈ other.classifications ↔ classification ∈ support.classifications := by
      intro classification
      exact ((evidence.map _).append (judgments.map _)).mem_iff
    by_cases empty : support.classifications = []
    · have bare : other.classifications = [] := List.eq_nil_iff_forall_not_mem.mpr (by simp [same, empty])
      simp only [witness, empty, bare]
    · have full : other.classifications ≠ [] := by
        obtain ⟨classification, member⟩ := List.exists_mem_of_ne_nil _ empty
        exact List.ne_nil_of_mem ((same classification).mpr member)
      apply eq_of_forall_ge_iff
      intro bound
      rw [witness_classification_le_iff _ _ _ full, witness_classification_le_iff _ _ _ empty]
      simp only [same]

end MissionControl.EvidenceGate

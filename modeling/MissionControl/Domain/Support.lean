import MissionControl.Domain.Classification
import MissionControl.Domain.Audit

/-! Evidence, human judgments, and the gate that turns them into a support
witness. The witness carries what was shown, so that it can be compared later. -/

namespace MissionControl

def isHexDigest (value : String) : Bool :=
  value.utf8ByteSize == 64 && value.toList.all fun character =>
    character.isDigit || ('a' ≤ character && character ≤ 'f')

structure IntegrityDigest where
  asStr : String
  valid : isHexDigest asStr = true
  deriving DecidableEq

theorem IntegrityDigest.asStr_injective : Function.Injective IntegrityDigest.asStr := by
  rintro ⟨first, _⟩ ⟨second, _⟩ same
  cases same
  rfl

theorem isHexDigest_size {value : String} (valid : isHexDigest value = true) : value.utf8ByteSize = 64 := by
  simp only [isHexDigest, Bool.and_eq_true, beq_iff_eq] at valid
  exact valid.1

inductive EvidenceVerification where
  | verified (verifiedAt : UtcTimestamp) (integrityDigest : IntegrityDigest)
  | degradedLastVerified (lastVerifiedAt : UtcTimestamp) (integrityDigest : IntegrityDigest)
  | unverified
  | integrityMismatch
  | observedUnpinned (observedAt : UtcTimestamp) (integrityDigest : IntegrityDigest)
  deriving DecidableEq

namespace EvidenceVerification

def isVerified : EvidenceVerification → Bool
  | .verified .. => true
  | _ => false

def isRefused : EvidenceVerification → Bool
  | .unverified | .integrityMismatch => true
  | _ => false

def isDegraded : EvidenceVerification → Bool
  | .degradedLastVerified .. | .observedUnpinned .. => true
  | _ => false

end EvidenceVerification

inductive EvidenceRole where
  | actionCompletion | decisionResolution | issueResolution | issueClosureVerification | issueFailedVerification
  deriving DecidableEq

def EvidenceRole.asPersisted : EvidenceRole → String
  | .actionCompletion => "action_completion"
  | .decisionResolution => "decision_resolution"
  | .issueResolution => "issue_resolution"
  | .issueClosureVerification => "issue_closure_verification"
  | .issueFailedVerification => "issue_failed_verification"

structure EvidenceReferenceMetadata where
  id : EvidenceReferenceId
  sourceVersion : AggregateVersion
  classification : DataClassification
  role : EvidenceRole
  verification : EvidenceVerification
  deriving DecidableEq

/-- A judgment's only disposition is to proceed with its documented rationale. -/
structure HumanJudgment where
  rationale : BoundedText 2000
  classification : DataClassification
  deriving DecidableEq

inductive SupportDisposition where
  | evidenceSatisfied | judgmentSatisfied | verificationPending
  deriving DecidableEq

inductive SupportRequirement where
  | evidenceRequired | evidenceOrJudgment
  deriving DecidableEq

structure SupportWitness where
  requirement : SupportRequirement
  disposition : SupportDisposition
  evidence : List EvidenceReferenceMetadata
  judgments : List HumanJudgment
  classification : DataClassification
  deriving DecidableEq

inductive SupportGateError where
  | empty | evidenceRequiredNotSatisfied

structure EvidenceOrJudgment where
  evidence : List EvidenceReferenceMetadata
  judgments : List HumanJudgment

namespace EvidenceOrJudgment

def new (evidence : List EvidenceReferenceMetadata) (judgments : List HumanJudgment) :
    Except SupportGateError EvidenceOrJudgment :=
  if evidence.isEmpty && judgments.isEmpty then .error .empty else .ok ⟨evidence, judgments⟩

def classifications (support : EvidenceOrJudgment) : List DataClassification :=
  support.evidence.map (·.classification) ++ support.judgments.map (·.classification)

def witness (support : EvidenceOrJudgment) (requirement : SupportRequirement)
    (disposition : SupportDisposition) : SupportWitness where
  requirement
  disposition
  evidence := support.evidence
  judgments := support.judgments
  classification := match support.classifications with
    | [] => .unclassified
    | first :: rest => DataClassification.combineAll first rest

def evaluateEvidenceRequired (support : EvidenceOrJudgment) : Except SupportGateError SupportWitness :=
  if support.evidence.any (·.verification.isRefused) then .error .evidenceRequiredNotSatisfied
  else if support.evidence.any (·.verification.isDegraded) then
    if support.judgments.isEmpty then .error .evidenceRequiredNotSatisfied
    else .ok (support.witness .evidenceRequired .verificationPending)
  else if support.evidence.any (·.verification.isVerified) then
    .ok (support.witness .evidenceRequired .evidenceSatisfied)
  else .error .evidenceRequiredNotSatisfied

def evaluateEvidenceOrJudgment (support : EvidenceOrJudgment) : Except SupportGateError SupportWitness :=
  if support.evidence.any (·.verification.isRefused) then .error .evidenceRequiredNotSatisfied
  else if support.evidence.any (·.verification.isDegraded) then
    if support.judgments.isEmpty then .error .evidenceRequiredNotSatisfied
    else .ok (support.witness .evidenceOrJudgment .verificationPending)
  else if support.evidence.any (·.verification.isVerified) then
    .ok (support.witness .evidenceOrJudgment .evidenceSatisfied)
  else if !support.judgments.isEmpty then .ok (support.witness .evidenceOrJudgment .judgmentSatisfied)
  else .error .evidenceRequiredNotSatisfied

/-- A witness that required evidence was built from the evidence and judgments
offered, and shows at least one piece of evidence. -/
theorem evaluateEvidenceRequired_ok {support : EvidenceOrJudgment} {witness : SupportWitness}
    (satisfied : support.evaluateEvidenceRequired = .ok witness) :
    (∃ disposition, witness = support.witness .evidenceRequired disposition) ∧ support.evidence ≠ [] := by
  unfold evaluateEvidenceRequired at satisfied
  split at satisfied
  · cases satisfied
  split at satisfied
  next degraded =>
    split at satisfied
    · cases satisfied
    · refine ⟨⟨_, (Except.ok.inj satisfied).symm⟩, ?_⟩
      rintro empty
      simp [empty] at degraded
  split at satisfied
  next verified =>
    refine ⟨⟨_, (Except.ok.inj satisfied).symm⟩, ?_⟩
    rintro empty
    simp [empty] at verified
  · cases satisfied

theorem witness_classification_le_iff (support : EvidenceOrJudgment) (requirement : SupportRequirement)
    (disposition : SupportDisposition) (shown : support.classifications ≠ []) {bound : DataClassification} :
    (support.witness requirement disposition).classification ≤ bound ↔
      ∀ classification ∈ support.classifications, classification ≤ bound := by
  unfold witness
  cases listed : support.classifications with
  | nil => exact absurd listed shown
  | cons first rest => simp [DataClassification.combineAll_le_iff]

end EvidenceOrJudgment

end MissionControl

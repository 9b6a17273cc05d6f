import MissionControl.Domain.Value

/-! Audit events. A disposition that claims an execution the policy or the
approval did not allow cannot be built. -/

namespace MissionControl

/-- A dotted machine-readable code: the audit codes and message keys. -/
structure CodeText (maximumLength : Nat) where
  asStr : String
  valid : (validateToken asStr maximumLength ['-', '_', '.']).isOk = true
  deriving DecidableEq

def CodeText.parse (maximumLength : Nat) (value : String) : Except DomainValueError (CodeText maximumLength) :=
  if valid : (validateToken value maximumLength ['-', '_', '.']).isOk = true then .ok ⟨value, valid⟩
  else match validateToken value maximumLength ['-', '_', '.'] with
    | .error error => .error error
    | .ok _ => .error ⟨.invalidCharacter⟩

theorem CodeText.asStr_injective {maximumLength : Nat} : Function.Injective (@CodeText.asStr maximumLength) := by
  rintro ⟨first, _⟩ ⟨second, _⟩ same
  cases same
  rfl

abbrev AuditEventCode := CodeText 96
abbrev AuditEffectCode := CodeText 96

inductive AuditActor where
  | headOfProducts | policyAuthorizedSystem
  deriving DecidableEq

inductive AuditModule where
  | portfolio | workManagement | classification | execution
  deriving DecidableEq

inductive AuditPolicyOutcome where
  | notRequired | allowed | denied
  deriving DecidableEq

inductive AuditApprovalOutcome where
  | notRequired | approved | rejected
  deriving DecidableEq

inductive AuditExecutionOutcome where
  | notAttempted | succeeded | failed | cancelled
  deriving DecidableEq

inductive AuditEffectScope where
  | none | complete | partly
  deriving DecidableEq

inductive AuditDispositionError where
  | deniedAdvanced | deniedHasEffects | rejectedAdvanced | notAttemptedHasEffects | effectScopeMismatch

inductive AuditTarget where
  | portfolio (id : PortfolioId)
  | product (id : ProductId)
  | initiative (id : InitiativeId)
  | project (id : ProjectId)
  | roadmap (id : RoadmapId)
  | milestone (id : MilestoneId)
  | kpi (id : KpiId)
  | kpiObservation (id : KpiObservationId)
  | stakeholder (id : StakeholderId)
  | relationship (id : RelationshipId)
  | actionRequest (id : ActionRequestId)
  | action (id : ActionId)
  | decisionRequest (id : DecisionRequestId)
  | decision (id : DecisionId)
  | risk (id : RiskId)
  | issue (id : IssueId)
  | evidenceReference (id : EvidenceReferenceId)
  | managedProjectionSet
  deriving DecidableEq

structure AuditAction where
  module : AuditModule
  code : AuditEventCode
  target : AuditTarget

def checkDisposition (policyOutcome : AuditPolicyOutcome) (approvalOutcome : AuditApprovalOutcome)
    (executionOutcome : AuditExecutionOutcome) (effectScope : AuditEffectScope)
    (actualEffects : List AuditEffectCode) : Except AuditDispositionError Unit :=
  if policyOutcome = .denied ∧ (approvalOutcome ≠ .notRequired ∨ executionOutcome ≠ .notAttempted) then
    .error .deniedAdvanced
  else if policyOutcome = .denied ∧ actualEffects ≠ [] then .error .deniedHasEffects
  else if approvalOutcome = .rejected ∧ executionOutcome ≠ .notAttempted then .error .rejectedAdvanced
  else if executionOutcome = .notAttempted ∧ (effectScope ≠ .none ∨ actualEffects ≠ []) then
    .error .notAttemptedHasEffects
  else if (effectScope = .none) ≠ (actualEffects = []) then .error .effectScopeMismatch
  else .ok ()

structure AuditDisposition where
  policyOutcome : AuditPolicyOutcome
  approvalOutcome : AuditApprovalOutcome
  executionOutcome : AuditExecutionOutcome
  effectScope : AuditEffectScope
  actualEffects : List AuditEffectCode
  valid : (checkDisposition policyOutcome approvalOutcome executionOutcome effectScope actualEffects).isOk = true

def AuditDisposition.new (policyOutcome : AuditPolicyOutcome) (approvalOutcome : AuditApprovalOutcome)
    (executionOutcome : AuditExecutionOutcome) (effectScope : AuditEffectScope)
    (actualEffects : List AuditEffectCode) : Except AuditDispositionError AuditDisposition :=
  if valid : (checkDisposition policyOutcome approvalOutcome executionOutcome effectScope actualEffects).isOk = true
  then .ok ⟨policyOutcome, approvalOutcome, executionOutcome, effectScope, actualEffects, valid⟩
  else match checkDisposition policyOutcome approvalOutcome executionOutcome effectScope actualEffects with
    | .error error => .error error
    | .ok _ => .error .effectScopeMismatch

structure AuditEvent where
  id : AuditEventId
  occurredAt : UtcTimestamp
  actor : AuditActor
  module : AuditModule
  code : AuditEventCode
  correlationId : CorrelationId
  target : AuditTarget
  policyOutcome : AuditPolicyOutcome
  approvalOutcome : AuditApprovalOutcome
  executionOutcome : AuditExecutionOutcome
  effectScope : AuditEffectScope
  actualEffects : List AuditEffectCode
  deriving DecidableEq

def AuditEvent.new (id : AuditEventId) (occurredAt : UtcTimestamp) (actor : AuditActor) (action : AuditAction)
    (correlationId : CorrelationId) (disposition : AuditDisposition) : AuditEvent where
  id
  occurredAt
  actor
  module := action.module
  code := action.code
  correlationId
  target := action.target
  policyOutcome := disposition.policyOutcome
  approvalOutcome := disposition.approvalOutcome
  executionOutcome := disposition.executionOutcome
  effectScope := disposition.effectScope
  actualEffects := disposition.actualEffects

end MissionControl

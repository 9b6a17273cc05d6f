import MissionControl.Domain.PreparedIntent
import MissionControl.Evidence.Record
import MissionControl.Lib.KeyMap

/-! Initiatives, Projects and the Milestones of Projects, the commands on them, and what
the Delivery service keeps of a command that it has carried out. -/

namespace MissionControl.Delivery
open Evidence (Provenance)

abbrev RecordName := BoundedText 200
abbrev DefinedOutcome := BoundedText 4000
abbrev VerificationCriteria := BoundedText 4000

structure Initiative where
  id : InitiativeId
  name : RecordName
  definedOutcome : DefinedOutcome
  classification : DataClassification
  provenance : Provenance
  version : AggregateVersion
  createdAt : UtcTimestamp
  updatedAt : UtcTimestamp

structure Project where
  id : ProjectId
  name : RecordName
  startAt : UtcTimestamp
  endAt : UtcTimestamp
  classification : DataClassification
  provenance : Provenance
  version : AggregateVersion
  createdAt : UtcTimestamp
  updatedAt : UtcTimestamp

structure Milestone where
  id : MilestoneId
  projectId : ProjectId
  name : RecordName
  verificationCriteria : VerificationCriteria
  dueAt : UtcTimestamp
  classification : DataClassification
  provenance : Provenance
  version : AggregateVersion
  createdAt : UtcTimestamp
  updatedAt : UtcTimestamp

structure OperationContext where
  correlationId : CorrelationId
  idempotencyId : IdempotencyId

structure CreateInitiative where
  context : OperationContext
  id : InitiativeId
  name : RecordName
  definedOutcome : DefinedOutcome
  classification : Option DataClassification
  provenance : Provenance

structure UpdateInitiative where
  context : OperationContext
  id : InitiativeId
  expectedVersion : AggregateVersion
  name : RecordName
  definedOutcome : DefinedOutcome
  classification : Option DataClassification
  provenance : Provenance

structure CreateProject where
  context : OperationContext
  id : ProjectId
  name : RecordName
  startAt : UtcTimestamp
  endAt : UtcTimestamp
  classification : Option DataClassification
  provenance : Provenance

structure UpdateProject where
  context : OperationContext
  id : ProjectId
  expectedVersion : AggregateVersion
  name : RecordName
  startAt : UtcTimestamp
  endAt : UtcTimestamp
  classification : Option DataClassification
  provenance : Provenance

structure CreateMilestone where
  context : OperationContext
  id : MilestoneId
  projectId : ProjectId
  name : RecordName
  verificationCriteria : VerificationCriteria
  dueAt : UtcTimestamp
  classification : Option DataClassification
  provenance : Provenance

structure UpdateMilestone where
  context : OperationContext
  id : MilestoneId
  expectedVersion : AggregateVersion
  name : RecordName
  verificationCriteria : VerificationCriteria
  dueAt : UtcTimestamp
  classification : Option DataClassification
  provenance : Provenance

/-- The source has one such command for each of the three kinds of record. -/
structure PrepareLowerClassification (Id : Type) where
  id : Id
  expectedVersion : AggregateVersion
  proposedClassification : DataClassification
  rationale : WorkManagementRationale
  context : OperationContext

structure ApproveAndExecuteLowerClassification where
  approval : WorkManagementApproval
  context : OperationContext

/-- A command without its context. -/
inductive CommandIdentity where
  | createInitiative (id : InitiativeId) (name : RecordName) (definedOutcome : DefinedOutcome)
      (classification : Option DataClassification) (provenance : Provenance)
  | updateInitiative (id : InitiativeId) (expectedVersion : AggregateVersion) (name : RecordName)
      (definedOutcome : DefinedOutcome) (classification : Option DataClassification) (provenance : Provenance)
  | createProject (id : ProjectId) (name : RecordName) (startAt endAt : UtcTimestamp)
      (classification : Option DataClassification) (provenance : Provenance)
  | updateProject (id : ProjectId) (expectedVersion : AggregateVersion) (name : RecordName)
      (startAt endAt : UtcTimestamp) (classification : Option DataClassification) (provenance : Provenance)
  | createMilestone (id : MilestoneId) (projectId : ProjectId) (name : RecordName)
      (verificationCriteria : VerificationCriteria) (dueAt : UtcTimestamp)
      (classification : Option DataClassification) (provenance : Provenance)
  | updateMilestone (id : MilestoneId) (expectedVersion : AggregateVersion) (name : RecordName)
      (verificationCriteria : VerificationCriteria) (dueAt : UtcTimestamp)
      (classification : Option DataClassification) (provenance : Provenance)
  | prepareLowerInitiativeClassification (id : InitiativeId) (expectedVersion : AggregateVersion)
      (proposedClassification : DataClassification) (rationale : WorkManagementRationale)
  | approveAndExecuteLowerInitiativeClassification (preparedId : PreparedIntentId) (actor : AuditActor)
      (acknowledgedPayloadDigest : WorkManagementPayloadDigest)
  | prepareLowerProjectClassification (id : ProjectId) (expectedVersion : AggregateVersion)
      (proposedClassification : DataClassification) (rationale : WorkManagementRationale)
  | approveAndExecuteLowerProjectClassification (preparedId : PreparedIntentId) (actor : AuditActor)
      (acknowledgedPayloadDigest : WorkManagementPayloadDigest)
  | prepareLowerMilestoneClassification (id : MilestoneId) (expectedVersion : AggregateVersion)
      (proposedClassification : DataClassification) (rationale : WorkManagementRationale)
  | approveAndExecuteLowerMilestoneClassification (preparedId : PreparedIntentId) (actor : AuditActor)
      (acknowledgedPayloadDigest : WorkManagementPayloadDigest)
  deriving DecidableEq

inductive StoredResult where
  | initiative (value : Initiative)
  | project (value : Project)
  | milestone (value : Milestone)

/-- A Milestone raised together with its Project. -/
structure DerivedMilestoneMutation where
  milestoneId : MilestoneId
  previousVersion : AggregateVersion
  resultingVersion : AggregateVersion
  previousClassification : DataClassification
  resultingClassification : DataClassification
  previousUpdatedAt : UtcTimestamp
  resultingUpdatedAt : UtcTimestamp
  auditEventId : AuditEventId

structure StoredOutcome where
  command : CommandIdentity
  result : StoredResult
  correlationId : CorrelationId
  auditEventIds : List AuditEventId
  operationOrdinal : Nat
  derivedMilestoneMutations : List DerivedMilestoneMutation

structure DeliveryState where
  initiatives : KeyMap InitiativeId Initiative
  projects : KeyMap ProjectId Project
  milestones : KeyMap MilestoneId Milestone
  idempotency : KeyMap IdempotencyId StoredOutcome
  auditEvents : List AuditEvent
  nextOperationOrdinal : Nat

def DeliveryState.default : DeliveryState := ⟨∅, ∅, ∅, ∅, [], 0⟩

def error (code : ErrorCode) (key : MessageKey) (context : OperationContext) : DomainError :=
  .new code key context.correlationId (code = .platformInternal)

def conflict (context : OperationContext) (version : Option AggregateVersion) : DomainError :=
  let base := error .domainConflict ⟨"delivery.conflict", by decide⟩ context
  match version with
  | some value => base.withExtension (.currentVersion value)
  | none => base

def notFound (context : OperationContext) : DomainError :=
  error .domainNotFound ⟨"delivery.not_found", by decide⟩ context

def idempotencyConflict (context : OperationContext) : DomainError :=
  error .domainIdempotencyConflict ⟨"delivery.idempotency_conflict", by decide⟩ context

def internal (context : OperationContext) : DomainError :=
  error .platformInternal ⟨"delivery.persistence_failed", by decide⟩ context

def previewChanged (context : OperationContext) : DomainError :=
  error .securityPreviewExpiredOrChanged ⟨"delivery.preview_changed", by decide⟩ context

def loweringDenied (context : OperationContext) : DomainError :=
  error .securityPolicyDenied ⟨"delivery.classification.lowering_denied", by decide⟩ context

def validationError (fieldKey reasonKey : CodeText 96) (context : OperationContext) : DomainError :=
  (error .validationInvalidField ⟨"delivery.validation.invalid_field", by decide⟩ context).withExtension
    (.fieldErrors [⟨fieldKey, reasonKey⟩])

end MissionControl.Delivery

import MissionControl.Delivery.Record
import MissionControl.Actions.Service
import MissionControl.Lib.Staging

/-! The commands of the in-memory Delivery service. A raised Project raises its
Milestones in the same commit; a lowering is previewed first and approved by digest. -/

namespace MissionControl.Delivery
open Checked Staging Sorting

/-- The places where a command reads the clock. -/
inductive Reading where
  | recording | preparation | minting

structure Ports where
  now : Reading → UtcTimestamp
  nextAuditEventId : Nat → Option AuditEventId
  nextPreparedIntentId : Option PreparedIntentId
  nextApprovalReceiptId : Option ApprovalReceiptId
  authorize : AuditActor → Bool

structure Service extends Committing DeliveryState where
  preparedLowerings : KeyMap PreparedIntentId WorkManagementPreparedIntent
  preparedLoweringRequests : KeyMap IdempotencyId (CommandIdentity × PreparedIntentId)

def Service.new : Service := ⟨⟨.default, false⟩, ∅, ∅⟩

structure LoweringTarget (Id : Type) where
  id : Id
  version : AggregateVersion
  proposedClassification : DataClassification
  rationale : WorkManagementRationale

/-- What the commands on one kind of record use of it. -/
structure Family (Id Record : Type) [LinearOrder Id] where
  records : DeliveryState → KeyMap Id Record
  place : DeliveryState → Record → DeliveryState
  id : Record → Id
  version : Record → AggregateVersion
  classification : Record → DataClassification
  lowered : Record → DataClassification → AggregateVersion → UtcTimestamp → Record
  result : Record → StoredResult
  result? : StoredResult → Option Record
  auditTarget : Id → AuditTarget
  loweredCode : AuditEventCode
  operation : Id → AggregateVersion → DataClassification → DataClassification → WorkManagementRationale →
    WorkManagementOperation
  target : WorkManagementOperation → Option (LoweringTarget Id)
  prepareIdentity : Id → AggregateVersion → DataClassification → WorkManagementRationale → CommandIdentity
  executeIdentity : PreparedIntentId → AuditActor → WorkManagementPayloadDigest → CommandIdentity

def initiatives : Family InitiativeId Initiative where
  records := DeliveryState.initiatives
  place state value := { state with initiatives := state.initiatives.insert value.id value }
  id := Initiative.id
  version := Initiative.version
  classification := Initiative.classification
  lowered value classification version updatedAt := { value with classification, version, updatedAt }
  result := .initiative
  result?
    | .initiative value => some value
    | _ => none
  auditTarget := .initiative
  loweredCode := ⟨"initiative.classification_lowered", by decide⟩
  operation := .lowerInitiativeClassification
  target
    | .lowerInitiativeClassification id version _ proposed rationale => some ⟨id, version, proposed, rationale⟩
    | _ => none
  prepareIdentity := .prepareLowerInitiativeClassification
  executeIdentity := .approveAndExecuteLowerInitiativeClassification

def projects : Family ProjectId Project where
  records := DeliveryState.projects
  place state value := { state with projects := state.projects.insert value.id value }
  id := Project.id
  version := Project.version
  classification := Project.classification
  lowered value classification version updatedAt := { value with classification, version, updatedAt }
  result := .project
  result?
    | .project value => some value
    | _ => none
  auditTarget := .project
  loweredCode := ⟨"project.classification_lowered", by decide⟩
  operation := .lowerProjectClassification
  target
    | .lowerProjectClassification id version _ proposed rationale => some ⟨id, version, proposed, rationale⟩
    | _ => none
  prepareIdentity := .prepareLowerProjectClassification
  executeIdentity := .approveAndExecuteLowerProjectClassification

def milestones : Family MilestoneId Milestone where
  records := DeliveryState.milestones
  place state value := { state with milestones := state.milestones.insert value.id value }
  id := Milestone.id
  version := Milestone.version
  classification := Milestone.classification
  lowered value classification version updatedAt := { value with classification, version, updatedAt }
  result := .milestone
  result?
    | .milestone value => some value
    | _ => none
  auditTarget := .milestone
  loweredCode := ⟨"milestone.classification_lowered", by decide⟩
  operation := .lowerMilestoneClassification
  target
    | .lowerMilestoneClassification id version _ proposed rationale => some ⟨id, version, proposed, rationale⟩
    | _ => none
  prepareIdentity := .prepareLowerMilestoneClassification
  executeIdentity := .approveAndExecuteLowerMilestoneClassification

section
variable (context : OperationContext)

def ensureVersion (current expected : AggregateVersion) : Except DomainError Unit :=
  ensure (current = expected) (conflict context (some current))

def nextVersion (current : AggregateVersion) : Except DomainError AggregateVersion :=
  require (internal context) current.next

def validatePeriod (start finish : UtcTimestamp) : Except DomainError Unit :=
  ensure (start ≤ finish)
    (validationError ⟨"project.time_range", by decide⟩ ⟨"delivery.validation.invalid_period", by decide⟩ context)

def monotonicClassification (current : DataClassification) :
    Option DataClassification → Except DomainError DataClassification
  | none => .ok current
  | some value => if current.combine value = value then .ok value else .error (loweringDenied context)

def recordChanged : AuditEffectCode := ⟨"delivery.authoritative-record-changed", by decide⟩

def appendAudit (ports : Ports) (draw : Nat) (target : AuditTarget) (code : AuditEventCode) (now : UtcTimestamp)
    (state : DeliveryState) : Except DomainError (DeliveryState × AuditEventId) := do
  let id ← require (internal context) (ports.nextAuditEventId draw)
  ensure (state.auditEvents.all (fun event => event.id ≠ id) = true) (conflict context none)
  let disposition ← relabel (fun _ => internal context)
    (AuditDisposition.new .notRequired .notRequired .succeeded .complete [recordChanged])
  return ({ state with auditEvents := state.auditEvents ++
    [.new id now .headOfProducts ⟨.portfolio, code, target⟩ context.correlationId disposition] }, id)

def takeOperationOrdinal (state : DeliveryState) : Except DomainError (DeliveryState × Nat) := do
  ensure (state.nextOperationOrdinal + 1 < 2 ^ 64) (internal context)
  return ({ state with nextOperationOrdinal := state.nextOperationOrdinal + 1 }, state.nextOperationOrdinal)

/-- The last thing a command stages: its answer under its idempotency id. -/
def remember (identity : CommandIdentity) (result : StoredResult) (auditEventIds : List AuditEventId)
    (derivedMilestoneMutations : List DerivedMilestoneMutation) (state : DeliveryState) :
    Except DomainError DeliveryState := do
  let (state, operationOrdinal) ← takeOperationOrdinal context state
  let outcome : StoredOutcome :=
    { command := identity
      result
      correlationId := context.correlationId
      auditEventIds
      operationOrdinal
      derivedMilestoneMutations }
  return { state with idempotency := state.idempotency.insert context.idempotencyId outcome }

def replay (state : DeliveryState) (identity : CommandIdentity) : Except DomainError (Option StoredResult) :=
  match state.idempotency[context.idempotencyId]? with
  | none => .ok none
  | some stored => if stored.command = identity then .ok (some stored.result) else .error (idempotencyConflict context)

variable {Id Record : Type} [LinearOrder Id] (family : Family Id Record)

def placed (ports : Ports) (identity : CommandIdentity) (code : AuditEventCode) (now : UtcTimestamp) (value : Record)
    (state : DeliveryState) : Except DomainError (Staged DeliveryState Record) := do
  let (next, auditEventId) ← appendAudit context ports 0 (family.auditTarget (family.id value)) code now
    (family.place state value)
  let next ← remember context identity (family.result value) [auditEventId] [] next
  return .committed value next

/-- An answer of another kind than the command's own is a conflict. -/
def orReplayed (state : DeliveryState) (identity : CommandIdentity)
    (fresh : Except DomainError (Staged DeliveryState Record)) : Except DomainError (Staged DeliveryState Record) :=
  orConflict (conflict context none) family.result? (replay context state identity) fresh

end

def CreateInitiative.identity (command : CreateInitiative) : CommandIdentity :=
  .createInitiative command.id command.name command.definedOutcome command.classification command.provenance

def stageCreateInitiative (state : DeliveryState) (ports : Ports) (command : CreateInitiative) :
    Except DomainError (Staged DeliveryState Initiative) :=
  let context := command.context
  orReplayed context initiatives state command.identity do
    ensure (state.initiatives[command.id]? = none) (conflict context none)
    let now := ports.now .recording
    placed context initiatives ports command.identity ⟨"initiative.created", by decide⟩ now
      { id := command.id
        name := command.name
        definedOutcome := command.definedOutcome
        classification := command.classification.getD .unclassified
        provenance := command.provenance
        version := .initial
        createdAt := now
        updatedAt := now } state

def UpdateInitiative.identity (command : UpdateInitiative) : CommandIdentity :=
  .updateInitiative command.id command.expectedVersion command.name command.definedOutcome command.classification
    command.provenance

def stageUpdateInitiative (state : DeliveryState) (ports : Ports) (command : UpdateInitiative) :
    Except DomainError (Staged DeliveryState Initiative) :=
  let context := command.context
  orReplayed context initiatives state command.identity do
    let current ← require (notFound context) state.initiatives[command.id]?
    ensureVersion context current.version command.expectedVersion
    let classification ← monotonicClassification context current.classification command.classification
    let version ← nextVersion context current.version
    let now := ports.now .recording
    placed context initiatives ports command.identity ⟨"initiative.updated", by decide⟩ now
      { id := current.id
        name := command.name
        definedOutcome := command.definedOutcome
        classification
        provenance := command.provenance
        version
        createdAt := current.createdAt
        updatedAt := now } state

def CreateProject.identity (command : CreateProject) : CommandIdentity :=
  .createProject command.id command.name command.startAt command.endAt command.classification command.provenance

def stageCreateProject (state : DeliveryState) (ports : Ports) (command : CreateProject) :
    Except DomainError (Staged DeliveryState Project) :=
  let context := command.context
  orReplayed context projects state command.identity do
    validatePeriod context command.startAt command.endAt
    ensure (state.projects[command.id]? = none) (conflict context none)
    let now := ports.now .recording
    placed context projects ports command.identity ⟨"project.created", by decide⟩ now
      { id := command.id
        name := command.name
        startAt := command.startAt
        endAt := command.endAt
        classification := command.classification.getD .unclassified
        provenance := command.provenance
        version := .initial
        createdAt := now
        updatedAt := now } state

def UpdateProject.identity (command : UpdateProject) : CommandIdentity :=
  .updateProject command.id command.expectedVersion command.name command.startAt command.endAt command.classification
    command.provenance

/-- The Milestones of a Project that are less restricted than it, in the order of their ids. -/
def outranked (project : Project) (state : DeliveryState) : List Milestone :=
  sortBy (fun one other => compare one.id other.id) ((KeyMap.held state.milestones).filter fun milestone =>
    milestone.projectId = project.id ∧ project.classification.combine milestone.classification ≠ milestone.classification)

def inherited (context : OperationContext) (project : Project) (now : UtcTimestamp) (milestone : Milestone) :
    Except DomainError Milestone := do
  let version ← nextVersion context milestone.version
  return { milestone with
    classification := project.classification.combine milestone.classification
    version
    updatedAt := now }

def auditInherited (context : OperationContext) (ports : Ports) (now : UtcTimestamp) :
    Nat → List (Milestone × Milestone) → DeliveryState →
    Except DomainError (DeliveryState × List DerivedMilestoneMutation)
  | _, [], state => .ok (state, [])
  | draw, (previous, resulting) :: rest, state => do
    let (state, auditEventId) ← appendAudit context ports draw (.milestone previous.id)
      ⟨"milestone.classification.inherited", by decide⟩ now state
    let (state, derived) ← auditInherited context ports now (draw + 1) rest state
    return (state,
      { milestoneId := previous.id
        previousVersion := previous.version
        resultingVersion := resulting.version
        previousClassification := previous.classification
        resultingClassification := resulting.classification
        previousUpdatedAt := previous.updatedAt
        resultingUpdatedAt := resulting.updatedAt
        auditEventId } :: derived)

def stageUpdateProject (state : DeliveryState) (ports : Ports) (command : UpdateProject) :
    Except DomainError (Staged DeliveryState Project) :=
  let context := command.context
  orReplayed context projects state command.identity do
    validatePeriod context command.startAt command.endAt
    let current ← require (notFound context) state.projects[command.id]?
    ensureVersion context current.version command.expectedVersion
    let classification ← monotonicClassification context current.classification command.classification
    let version ← nextVersion context current.version
    let now := ports.now .recording
    let value : Project :=
      { id := current.id
        name := command.name
        startAt := command.startAt
        endAt := command.endAt
        classification
        provenance := command.provenance
        version
        createdAt := current.createdAt
        updatedAt := now }
    let raising := outranked value state
    let raised ← raising.mapM (inherited context value now)
    let next := raised.foldl milestones.place (projects.place state value)
    let (next, auditEventId) ← appendAudit context ports 0 (.project value.id) ⟨"project.updated", by decide⟩ now next
    let (next, derived) ← auditInherited context ports now 1 (raising.zip raised) next
    let next ← remember context command.identity (.project value)
      (auditEventId :: derived.map (·.auditEventId)) derived next
    return .committed value next

def CreateMilestone.identity (command : CreateMilestone) : CommandIdentity :=
  .createMilestone command.id command.projectId command.name command.verificationCriteria command.dueAt
    command.classification command.provenance

def stageCreateMilestone (state : DeliveryState) (ports : Ports) (command : CreateMilestone) :
    Except DomainError (Staged DeliveryState Milestone) :=
  let context := command.context
  orReplayed context milestones state command.identity do
    ensure (state.milestones[command.id]? = none) (conflict context none)
    let project ← require (notFound context) state.projects[command.projectId]?
    let now := ports.now .recording
    placed context milestones ports command.identity ⟨"milestone.created", by decide⟩ now
      { id := command.id
        projectId := command.projectId
        name := command.name
        verificationCriteria := command.verificationCriteria
        dueAt := command.dueAt
        classification := match command.classification with
          | none => project.classification
          | some value => project.classification.combine value
        provenance := command.provenance
        version := .initial
        createdAt := now
        updatedAt := now } state

def UpdateMilestone.identity (command : UpdateMilestone) : CommandIdentity :=
  .updateMilestone command.id command.expectedVersion command.name command.verificationCriteria command.dueAt
    command.classification command.provenance

def stageUpdateMilestone (state : DeliveryState) (ports : Ports) (command : UpdateMilestone) :
    Except DomainError (Staged DeliveryState Milestone) :=
  let context := command.context
  orReplayed context milestones state command.identity do
    let current ← require (notFound context) state.milestones[command.id]?
    ensureVersion context current.version command.expectedVersion
    let requested ← monotonicClassification context current.classification command.classification
    let project ← require (notFound context) state.projects[current.projectId]?
    let version ← nextVersion context current.version
    let now := ports.now .recording
    placed context milestones ports command.identity ⟨"milestone.updated", by decide⟩ now
      { id := current.id
        projectId := current.projectId
        name := command.name
        verificationCriteria := command.verificationCriteria
        dueAt := command.dueAt
        classification := project.classification.combine requested
        provenance := command.provenance
        version
        createdAt := current.createdAt
        updatedAt := now } state

section
variable {Id Record : Type} [LinearOrder Id] (family : Family Id Record)

/-- The preview of a lowering. What was prepared under the same idempotency id is given
again as long as it is pending. -/
def prepareLowerClassification (service : Service) (ports : Ports) (intent : PrepareLowerClassification Id) :
    Service × Except DomainError WorkManagementPreparedIntent :=
  let context := intent.context
  let identity := family.prepareIdentity intent.id intent.expectedVersion intent.proposedClassification intent.rationale
  match service.preparedLoweringRequests[context.idempotencyId]? with
  | some (stored, preparedId) =>
    (service, if stored = identity then require (idempotencyConflict context) service.preparedLowerings[preparedId]?
      else .error (idempotencyConflict context))
  | none =>
    let checked : Except DomainError Record := do
      let record ← require (notFound context) (family.records service.state)[intent.id]?
      ensureVersion context (family.version record) intent.expectedVersion
      ensure (Actions.isGenuineLowering (family.classification record) intent.proposedClassification) (conflict context none)
      return record
    match checked with
    | .error cause => (service, .error cause)
    | .ok record =>
      if service.failNextCommit then ({ service with failNextCommit := false }, .error (internal context))
      else
        let prepared : Except DomainError WorkManagementPreparedIntent := do
          let id ← require (internal context) ports.nextPreparedIntentId
          relabel (fun _ => conflict context none)
            (WorkManagementPreparedIntent.prepare id
              (family.operation (family.id record) (family.version record) (family.classification record)
                intent.proposedClassification intent.rationale)
              (family.classification record) none (ports.now .preparation))
        match prepared with
        | .error cause => (service, .error cause)
        | .ok prepared =>
          ({ service with
            preparedLowerings := service.preparedLowerings.insert prepared.id prepared
            preparedLoweringRequests := service.preparedLoweringRequests.insert context.idempotencyId
              (identity, prepared.id) }, .ok prepared)

variable [Sha256]

def validationFailure (context : OperationContext) : WorkManagementApprovalValidationError → DomainError
  | .unauthorized => loweringDenied context
  | .preparedIntentMismatch | .digestMismatch | .expired | .previewChanged => previewChanged context

def mint (context : OperationContext) (ports : Ports) (prepared : WorkManagementPreparedIntent)
    (approval : WorkManagementApproval) (operation : WorkManagementOperation) (classification : DataClassification) :
    Except DomainError WorkManagementApprovalReceipt := do
  let fresh ← relabel (fun _ => previewChanged context)
    (WorkManagementPreparedIntent.prepare prepared.id operation classification none (ports.now .preparation))
  let receiptId ← require (internal context) ports.nextApprovalReceiptId
  relabel (validationFailure context)
    (validateAndMintWorkManagementH2aReceipt prepared approval
      { operation
        classification := fresh.preview.classification
        classificationSources := fresh.preview.classificationSources
        support := none
        policy := .allowed }
      (ports.now .minting) receiptId ports.authorize)

def stageLowerClassification (service : Service) (ports : Ports) (intent : ApproveAndExecuteLowerClassification) :
    Except DomainError (Staged DeliveryState Record) := do
  let approval := intent.approval
  let context := intent.context
  ensure (approval.idempotencyId = context.idempotencyId) (conflict context none)
  let identity := family.executeIdentity approval.preparedId approval.actor approval.acknowledgedPayloadDigest
  orReplayed context family service.state identity do
    let prepared ← require (previewChanged context) service.preparedLowerings[approval.preparedId]?
    let target ← require (previewChanged context) (family.target prepared.operation)
    let current ← require (notFound context) (family.records service.state)[target.id]?
    ensure (family.version current = target.version)
      ((previewChanged context).withExtension (.currentVersion (family.version current)))
    let _ ← mint context ports prepared approval
      (family.operation target.id (family.version current) (family.classification current)
        target.proposedClassification target.rationale) (family.classification current)
    let now := ports.now .recording
    let version ← nextVersion context (family.version current)
    placed context family ports identity family.loweredCode now
      (family.lowered current target.proposedClassification version now) service.state

def approveAndExecuteLowerClassification (service : Service) (ports : Ports)
    (intent : ApproveAndExecuteLowerClassification) : Service × Except DomainError Record :=
  let decided := stageLowerClassification family service ports intent
  let removed := match decided with
    | .ok (.committed ..) => service.preparedLowerings.erase intent.approval.preparedId
    | _ => service.preparedLowerings
  let (committing, answer) := settle (internal intent.context) service.toCommitting decided
  ({ service with toCommitting := committing, preparedLowerings := removed }, answer)

end

/-- A command that leaves the previews alone. -/
def ordinary {Outcome : Type} (service : Service) (context : OperationContext)
    (decided : Except DomainError (Staged DeliveryState Outcome)) : Service × Except DomainError Outcome :=
  let (committing, answer) := settle (internal context) service.toCommitting decided
  ({ service with toCommitting := committing }, answer)

def createInitiative (service : Service) (ports : Ports) (command : CreateInitiative) :=
  ordinary service command.context (stageCreateInitiative service.state ports command)

def updateInitiative (service : Service) (ports : Ports) (command : UpdateInitiative) :=
  ordinary service command.context (stageUpdateInitiative service.state ports command)

def createProject (service : Service) (ports : Ports) (command : CreateProject) :=
  ordinary service command.context (stageCreateProject service.state ports command)

def updateProject (service : Service) (ports : Ports) (command : UpdateProject) :=
  ordinary service command.context (stageUpdateProject service.state ports command)

def createMilestone (service : Service) (ports : Ports) (command : CreateMilestone) :=
  ordinary service command.context (stageCreateMilestone service.state ports command)

def updateMilestone (service : Service) (ports : Ports) (command : UpdateMilestone) :=
  ordinary service command.context (stageUpdateMilestone service.state ports command)

def prepareLowerInitiativeClassification := prepareLowerClassification initiatives
def prepareLowerProjectClassification := prepareLowerClassification projects
def prepareLowerMilestoneClassification := prepareLowerClassification milestones

section
variable [Sha256]

def approveAndExecuteLowerInitiativeClassification := approveAndExecuteLowerClassification initiatives
def approveAndExecuteLowerProjectClassification := approveAndExecuteLowerClassification projects
def approveAndExecuteLowerMilestoneClassification := approveAndExecuteLowerClassification milestones

end

inductive Operation where
  | createInitiative (command : CreateInitiative)
  | updateInitiative (command : UpdateInitiative)
  | createProject (command : CreateProject)
  | updateProject (command : UpdateProject)
  | createMilestone (command : CreateMilestone)
  | updateMilestone (command : UpdateMilestone)
  | prepareLowerInitiativeClassification (intent : PrepareLowerClassification InitiativeId)
  | prepareLowerProjectClassification (intent : PrepareLowerClassification ProjectId)
  | prepareLowerMilestoneClassification (intent : PrepareLowerClassification MilestoneId)
  | approveAndExecuteLowerInitiativeClassification (intent : ApproveAndExecuteLowerClassification)
  | approveAndExecuteLowerProjectClassification (intent : ApproveAndExecuteLowerClassification)
  | approveAndExecuteLowerMilestoneClassification (intent : ApproveAndExecuteLowerClassification)
  | injectNextCommitFailure

inductive Response where
  | initiative (answer : Except DomainError Initiative)
  | project (answer : Except DomainError Project)
  | milestone (answer : Except DomainError Milestone)
  | prepared (answer : Except DomainError WorkManagementPreparedIntent)
  | injected

def Response.refused : Response → Bool
  | .initiative (.error _) | .project (.error _) | .milestone (.error _) | .prepared (.error _) => true
  | _ => false

def step [Sha256] (service : Service) (ports : Ports) : Operation → Service × Response
  | .createInitiative command => (createInitiative service ports command).map id .initiative
  | .updateInitiative command => (updateInitiative service ports command).map id .initiative
  | .createProject command => (createProject service ports command).map id .project
  | .updateProject command => (updateProject service ports command).map id .project
  | .createMilestone command => (createMilestone service ports command).map id .milestone
  | .updateMilestone command => (updateMilestone service ports command).map id .milestone
  | .prepareLowerInitiativeClassification intent =>
    (prepareLowerInitiativeClassification service ports intent).map id .prepared
  | .prepareLowerProjectClassification intent => (prepareLowerProjectClassification service ports intent).map id .prepared
  | .prepareLowerMilestoneClassification intent =>
    (prepareLowerMilestoneClassification service ports intent).map id .prepared
  | .approveAndExecuteLowerInitiativeClassification intent =>
    (approveAndExecuteLowerInitiativeClassification service ports intent).map id .initiative
  | .approveAndExecuteLowerProjectClassification intent =>
    (approveAndExecuteLowerProjectClassification service ports intent).map id .project
  | .approveAndExecuteLowerMilestoneClassification intent =>
    (approveAndExecuteLowerMilestoneClassification service ports intent).map id .milestone
  | .injectNextCommitFailure => ({ service with failNextCommit := true }, .injected)

end MissionControl.Delivery

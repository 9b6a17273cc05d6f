import MissionControl.Delivery.Ledger

/-! Lowerings in the repository: the preview is stored, and its approval is executed on a
throwaway service that is seeded with the present record and its version. -/

namespace MissionControl.Delivery
open Checked
open Evidence (Provenance AggregateType RegistryRow fitsInteger)

def parseId (kind : IdKind) (text : String) : Option (OpaqueId kind) :=
  if valid : (validateToken text kind.maximum ['-', '_']).isOk = true then some ⟨text, valid⟩ else none

section
variable (context : OperationContext) (now : UtcTimestamp)

def seedPorts (auditEventId : Option AuditEventId) : Ports where
  now _ := now
  nextAuditEventId draw := if draw = 0 then auditEventId else none
  nextPreparedIntentId := none
  nextApprovalReceiptId := none
  authorize _ := false

def seedContext (label id : String) : Except DomainError OperationContext := do
  let idempotencyId ← require (storageError context) (parseId .idempotency (label ++ id))
  return { context with idempotencyId }

def seedAuditIds (id : String) (version : AggregateVersion) : Except DomainError (List AuditEventId) :=
  (List.range version.get).mapM fun step =>
    require (storageError context) (parseId .auditEvent ("replay-seed-audit-" ++ id ++ "-" ++ step.repr))

def seeded {Record : Type} (attempt : Service × Except DomainError Record) : Except DomainError Service := do
  let _ ← relabel (fun _ => storageError context) attempt.2
  return attempt.1

def seedVersion (step : Nat) : Except DomainError AggregateVersion :=
  require (storageError context)
    (if bounds : 0 < step ∧ step < 2 ^ 64 then some ⟨step, bounds.1, bounds.2⟩ else none)

def seedUpdates {Record : Type} (id : String) (auditEventIds : List AuditEventId)
    (update : OperationContext → AggregateVersion → Ports → Service → Service × Except DomainError Record) :
    List Nat → Service → Except DomainError Service
  | [], service => return service
  | step :: rest, service => do
    let again ← seedContext context "replay-seed-update-" (id ++ "-" ++ step.repr)
    let version ← seedVersion context step
    let service ← seeded context (update again version (seedPorts now auditEventIds[step]?) service)
    seedUpdates id auditEventIds update rest service

def seedInitiativeServiceForLowering (id : InitiativeId) (tables : DeliveryTables) : Except DomainError Service := do
  let (registered, row) ← require (notFound context) (tables.initiative id)
  let auditEventIds ← seedAuditIds context id.asStr registered.version
  let creating ← seedContext context "replay-seed-create-" id.asStr
  let service ← seeded context (createInitiative .new (seedPorts now auditEventIds[0]?)
    { context := creating
      id
      name := row.name
      definedOutcome := row.definedOutcome
      classification := some registered.classification
      provenance := row.provenance })
  seedUpdates context now id.asStr auditEventIds (fun again version ports service => updateInitiative service ports
    { context := again
      id
      expectedVersion := version
      name := row.name
      definedOutcome := row.definedOutcome
      classification := none
      provenance := row.provenance }) (List.range' 1 (registered.version.get - 1)) service

def seedProjectServiceForLowering (id : ProjectId) (tables : DeliveryTables) : Except DomainError Service := do
  let (registered, row) ← require (notFound context) (tables.project id)
  let auditEventIds ← seedAuditIds context id.asStr registered.version
  let creating ← seedContext context "replay-seed-create-" id.asStr
  let service ← seeded context (createProject .new (seedPorts now auditEventIds[0]?)
    { context := creating
      id
      name := row.name
      startAt := row.startAt
      endAt := row.endAt
      classification := some registered.classification
      provenance := row.provenance })
  seedUpdates context now id.asStr auditEventIds (fun again version ports service => updateProject service ports
    { context := again
      id
      expectedVersion := version
      name := row.name
      startAt := row.startAt
      endAt := row.endAt
      classification := none
      provenance := row.provenance }) (List.range' 1 (registered.version.get - 1)) service

def epoch : UtcTimestamp := ⟨0, by decide, by decide⟩

def seedMilestoneServiceForLowering (id : MilestoneId) (tables : DeliveryTables) : Except DomainError Service := do
  let (registered, row) ← require (notFound context) (tables.milestone id)
  let parent ← require (storageError context) (tables.aggregate row.projectId.asStr .project)
  let parentAuditId ← require (storageError context) (parseId .auditEvent ("replay-seed-audit-parent-" ++ id.asStr))
  let auditEventIds ← seedAuditIds context id.asStr registered.version
  let placing ← seedContext context "replay-seed-parent-" id.asStr
  let service ← seeded context (createProject .new (seedPorts now (some parentAuditId))
    { context := placing
      id := row.projectId
      name := ⟨"seed", by decide⟩
      startAt := epoch
      endAt := epoch
      classification := some parent.classification
      provenance := row.provenance })
  let creating ← seedContext context "replay-seed-create-" id.asStr
  let service ← seeded context (createMilestone service (seedPorts now auditEventIds[0]?)
    { context := creating
      id
      projectId := row.projectId
      name := row.name
      verificationCriteria := row.verificationCriteria
      dueAt := row.dueAt
      classification := some registered.classification
      provenance := row.provenance })
  seedUpdates context now id.asStr auditEventIds (fun again version ports service => updateMilestone service ports
    { context := again
      id
      expectedVersion := version
      name := row.name
      verificationCriteria := row.verificationCriteria
      dueAt := row.dueAt
      classification := none
      provenance := row.provenance }) (List.range' 1 (registered.version.get - 1)) service

end

structure StoredFamily (Id Record : Type) [LinearOrder Id] where
  family : Family Id Record
  registered : DeliveryTables → Id → Option RegistryRow
  target? : AuditTarget → Option Id
  seed : OperationContext → UtcTimestamp → Id → DeliveryTables → Except DomainError Service

def storedInitiatives : StoredFamily InitiativeId Initiative where
  family := initiatives
  registered tables id := (tables.initiative id).map Prod.fst
  target?
    | .initiative id => some id
    | _ => none
  seed := seedInitiativeServiceForLowering

def storedProjects : StoredFamily ProjectId Project where
  family := projects
  registered tables id := (tables.project id).map Prod.fst
  target?
    | .project id => some id
    | _ => none
  seed := seedProjectServiceForLowering

def storedMilestones : StoredFamily MilestoneId Milestone where
  family := milestones
  registered tables id := (tables.milestone id).map Prod.fst
  target?
    | .milestone id => some id
    | _ => none
  seed := seedMilestoneServiceForLowering

section
variable [Sha256] {Id Record : Type} [LinearOrder Id] (stored : StoredFamily Id Record)

def claimedByOtherOperation (context : OperationContext) (operation : DeliveryOperation) (tables : DeliveryTables) : Bool :=
  (tables.idempotencyClaims.find context.idempotencyId).any fun claim => claim.operation ≠ operation

def persistDeliveryPreparedIntent (context : OperationContext) (prepared : WorkManagementPreparedIntent)
    (tables : DeliveryTables) : Except DomainError DeliveryTables := do
  let expiresAt := prepared.preview.expiresAt
  let createdAt ← require (storageError context) (expiresAt.checkedAdd (-workManagementH2aTtlMillis))
  ensure (0 ≤ createdAt.unixMillis) (storageError context)
  let preparedIntents ← require (storageError context) (tables.preparedIntents.insert
    { id := prepared.id
      payloadDigest := prepared.payloadDigest
      expiresAt
      createdAt
      consumedAt := none })
  return { tables with preparedIntents }

/-- The preview is made by the caller, and checked against the present record. -/
def prepareLowering (command : PrepareLowerClassification Id) (prepared : WorkManagementPreparedIntent)
    (tables : DeliveryTables) : Except DomainError (DeliveryTables × WorkManagementPreparedIntent) := do
  let context := command.context
  let target := stored.family.auditTarget command.id
  ensure (claimedByOtherOperation context .prepareLowerClassification tables = false) (idempotencyConflict context)
  match (tables.commandPrepares.find context.idempotencyId).filter fun row => (stored.target? row.target).isSome with
  | some existing =>
    ensure (existing.target = target ∧ existing.expectedVersion = command.expectedVersion ∧
      existing.proposedClassification = command.proposedClassification ∧ existing.rationale = command.rationale ∧
      existing.resultReference = prepared.id ∧
      (tables.preparedIntents.find prepared.id).map (·.payloadDigest) = some prepared.payloadDigest)
      (idempotencyConflict context)
    return (tables, prepared)
  | none =>
    let registered ← require (notFound context) (stored.registered tables command.id)
    ensure (registered.version = command.expectedVersion) (staleVersion context registered.version)
    ensure (command.proposedClassification.combine registered.classification ≠ command.proposedClassification)
      (notALowering context)
    ensure (prepared.operation = stored.family.operation command.id command.expectedVersion registered.classification
      command.proposedClassification command.rationale) (loweringInvalid context)
    let operationOrdinal := tables.nextPrepareOrdinal
    ensure (fitsInteger operationOrdinal) (storageError context)
    let tables ← persistDeliveryPreparedIntent context prepared tables
    let tables ← claimIdempotency context .prepareLowerClassification tables
    let commandPrepares ← require (storageError context) (tables.commandPrepares.insert
      { idempotencyId := context.idempotencyId
        correlationId := context.correlationId
        operationOrdinal
        target
        expectedVersion := command.expectedVersion
        proposedClassification := command.proposedClassification
        rationale := command.rationale
        resultReference := prepared.id })
    let tables ← advanceRevision context { tables with commandPrepares }
    return (tables, prepared)

def previewOf (tables : DeliveryTables) (preparedId : PreparedIntentId) :
    Option (CommandPrepareRow × PreparedIntentRow × Id) := do
  let row ← tables.commandPrepares.rows.find? fun row =>
    row.resultReference = preparedId && (stored.target? row.target).isSome
  let id ← stored.target? row.target
  let intent ← tables.preparedIntents.find preparedId
  return (row, intent, id)

def executionPorts (arguments : Arguments) (prepareAt : UtcTimestamp) (preparedId : PreparedIntentId) (executing : Bool) :
    Ports where
  now _ := if executing then arguments.occurredAt else prepareAt
  nextAuditEventId draw := if draw = 0 then some arguments.auditEventId else none
  nextPreparedIntentId := some preparedId
  nextApprovalReceiptId := some arguments.approvalReceiptId
  authorize actor := actor = .headOfProducts

def executeSeeded (command : ApproveAndExecuteLowerClassification) (arguments : Arguments) (row : CommandPrepareRow)
    (intent : PreparedIntentRow) (id : Id) (service : Service) : Except DomainError (Record × AuditEvent) := do
  let context := command.context
  let again ← seedContext context "replay-prepare-" context.idempotencyId.asStr
  let ports := executionPorts arguments intent.createdAt command.approval.preparedId
  let prepared := prepareLowerClassification stored.family service (ports false)
    { id
      expectedVersion := row.expectedVersion
      proposedClassification := row.proposedClassification
      rationale := row.rationale
      context := again }
  let _ ← relabel (fun _ => loweringPreviewChanged context) prepared.2
  let executed := approveAndExecuteLowerClassification stored.family prepared.1 (ports true) command
  let record ← executed.2
  let audit ← require (storageError context)
    (executed.1.state.auditEvents.find? fun event => event.id = arguments.auditEventId)
  return (record, audit)

def persistLoweredDeliveryBundle (command : ApproveAndExecuteLowerClassification) (arguments : Arguments)
    (registered : RegistryRow) (record : Record) (audit : AuditEvent) (operationOrdinal : Nat) (tables : DeliveryTables) :
    Except DomainError DeliveryTables := do
  let context := command.context
  let approval := command.approval
  let occurredAt := audit.occurredAt
  let tables ← reviseAggregate context registered (stored.family.version record) (stored.family.classification record)
    occurredAt tables
  let tables ← persistDeliveryAudit context audit (stored.family.auditTarget (stored.family.id record)) tables
  let intent ← require (storageError context) (tables.preparedIntents.find approval.preparedId)
  let tables : DeliveryTables := { tables with
    preparedIntents := tables.preparedIntents.update approval.preparedId fun row =>
      { row with consumedAt := row.consumedAt.or (some occurredAt) } }
  ensure (intent.createdAt ≤ occurredAt ∧ occurredAt ≤ intent.expiresAt) (storageError context)
  ensure (∀ row ∈ tables.approvalReceipts.rows, row.preparedIntentId ≠ approval.preparedId)
    (storageError context)
  let approvalReceipts ← require (storageError context) (tables.approvalReceipts.insert
    { id := arguments.approvalReceiptId
      preparedIntentId := approval.preparedId
      idempotencyId := context.idempotencyId
      approvedAt := occurredAt
      expiresAt := intent.expiresAt })
  let tables ← claimIdempotency context .executeLowerClassification { tables with approvalReceipts }
  let result := stored.family.result record
  ensure (1 < (stored.family.version record).get ∧ result.times.1 ≤ result.times.2) (storageError context)
  let commandExecutes ← require (storageError context) (tables.commandExecutes.insert
    { idempotencyId := context.idempotencyId
      correlationId := context.correlationId
      operationOrdinal
      preparedId := approval.preparedId
      actor := .headOfProducts
      acknowledgedDigest := approval.acknowledgedPayloadDigest
      approvalReceiptId := arguments.approvalReceiptId
      result
      auditEventId := audit.id })
  return { tables with commandExecutes }

def approveAndExecuteLowering (command : ApproveAndExecuteLowerClassification) (arguments : Arguments)
    (tables : DeliveryTables) :
    Except DomainError (DeliveryTables × DeliveryMutationOutcome Record) := do
  let context := command.context
  let approval := command.approval
  ensure (claimedByOtherOperation context .executeLowerClassification tables = false) (idempotencyConflict context)
  match tables.commandExecutes.find context.idempotencyId with
  | some existing =>
    ensure (existing.preparedId = approval.preparedId ∧ existing.actor = approval.actor ∧
      existing.acknowledgedDigest = approval.acknowledgedPayloadDigest ∧
      approval.idempotencyId = context.idempotencyId) (idempotencyConflict context)
    let audit ← decodeDeliveryAudit context tables existing.auditEventId
    let record ← require (storageError context) (stored.family.result? existing.result)
    return (tables, ⟨record, [audit], []⟩)
  | none =>
    let (row, intent, id) ← require (loweringPreviewChanged context) (previewOf stored tables approval.preparedId)
    let service ← stored.seed context intent.createdAt id tables
    let (record, audit) ← executeSeeded stored command arguments row intent id service
    let registered ← require (storageError context) (stored.registered tables (stored.family.id record))
    let operationOrdinal := tables.nextOperationOrdinal
    ensure (fitsInteger operationOrdinal) (storageError context)
    let tables ← persistLoweredDeliveryBundle stored command arguments registered record audit operationOrdinal tables
    let tables ← advanceRevision context tables
    return (tables, ⟨record, [audit], []⟩)

end

namespace SqliteProductLedger

def prepareLowerInitiativeClassification [Sha256] := prepareLowering storedInitiatives
def prepareLowerProjectClassification [Sha256] := prepareLowering storedProjects
def prepareLowerMilestoneClassification [Sha256] := prepareLowering storedMilestones
def approveAndExecuteLowerInitiativeClassification [Sha256] := approveAndExecuteLowering storedInitiatives
def approveAndExecuteLowerProjectClassification [Sha256] := approveAndExecuteLowering storedProjects
def approveAndExecuteLowerMilestoneClassification [Sha256] := approveAndExecuteLowering storedMilestones

end SqliteProductLedger

inductive Command where
  | createInitiative (command : CreateInitiative)
  | updateInitiative (command : UpdateInitiative)
  | createProject (command : CreateProject)
  | updateProject (command : UpdateProject)
  | createMilestone (command : CreateMilestone)
  | updateMilestone (command : UpdateMilestone)
  | prepareLowerInitiativeClassification (command : PrepareLowerClassification InitiativeId)
      (prepared : WorkManagementPreparedIntent)
  | prepareLowerProjectClassification (command : PrepareLowerClassification ProjectId)
      (prepared : WorkManagementPreparedIntent)
  | prepareLowerMilestoneClassification (command : PrepareLowerClassification MilestoneId)
      (prepared : WorkManagementPreparedIntent)
  | approveAndExecuteLowerInitiativeClassification (command : ApproveAndExecuteLowerClassification)
  | approveAndExecuteLowerProjectClassification (command : ApproveAndExecuteLowerClassification)
  | approveAndExecuteLowerMilestoneClassification (command : ApproveAndExecuteLowerClassification)

inductive Answer where
  | initiative (outcome : DeliveryMutationOutcome Initiative)
  | project (outcome : DeliveryMutationOutcome Project)
  | milestone (outcome : DeliveryMutationOutcome Milestone)
  | prepared (prepared : WorkManagementPreparedIntent)

def answering {α : Type} (answer : α → Answer) (result : Except DomainError (DeliveryTables × α)) :
    Except DomainError (DeliveryTables × Answer) :=
  result.map fun (tables, value) => (tables, answer value)

def Command.operation [Sha256] (arguments : Arguments) (tables : DeliveryTables) :
    Command → Except DomainError (DeliveryTables × Answer)
  | .createInitiative command => answering .initiative (SqliteProductLedger.createInitiative command arguments tables)
  | .updateInitiative command => answering .initiative (SqliteProductLedger.updateInitiative command arguments tables)
  | .createProject command => answering .project (SqliteProductLedger.createProject command arguments tables)
  | .updateProject command => answering .project (SqliteProductLedger.updateProject command arguments tables)
  | .createMilestone command => answering .milestone (SqliteProductLedger.createMilestone command arguments tables)
  | .updateMilestone command => answering .milestone (SqliteProductLedger.updateMilestone command arguments tables)
  | .prepareLowerInitiativeClassification command prepared =>
    answering .prepared (SqliteProductLedger.prepareLowerInitiativeClassification command prepared tables)
  | .prepareLowerProjectClassification command prepared =>
    answering .prepared (SqliteProductLedger.prepareLowerProjectClassification command prepared tables)
  | .prepareLowerMilestoneClassification command prepared =>
    answering .prepared (SqliteProductLedger.prepareLowerMilestoneClassification command prepared tables)
  | .approveAndExecuteLowerInitiativeClassification command =>
    answering .initiative (SqliteProductLedger.approveAndExecuteLowerInitiativeClassification command arguments tables)
  | .approveAndExecuteLowerProjectClassification command =>
    answering .project (SqliteProductLedger.approveAndExecuteLowerProjectClassification command arguments tables)
  | .approveAndExecuteLowerMilestoneClassification command =>
    answering .milestone (SqliteProductLedger.approveAndExecuteLowerMilestoneClassification command arguments tables)

def Command.context : Command → OperationContext
  | .createInitiative command => command.context
  | .updateInitiative command => command.context
  | .createProject command => command.context
  | .updateProject command => command.context
  | .createMilestone command => command.context
  | .updateMilestone command => command.context
  | .prepareLowerInitiativeClassification command _ => command.context
  | .prepareLowerProjectClassification command _ => command.context
  | .prepareLowerMilestoneClassification command _ => command.context
  | .approveAndExecuteLowerInitiativeClassification command => command.context
  | .approveAndExecuteLowerProjectClassification command => command.context
  | .approveAndExecuteLowerMilestoneClassification command => command.context

/-- One call of the repository, which commits. -/
def Moves [Sha256] (turn : Command × Arguments) (before after : DeliveryTables) : Prop :=
  ∃ answer, turn.1.operation turn.2 before = .ok (after, answer)

end MissionControl.Delivery

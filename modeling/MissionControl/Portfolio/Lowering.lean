import MissionControl.Portfolio.Ledger
import MissionControl.Delivery.Lowering

/-! Lowerings in the Portfolio repository: the preview is stored, and its approval is executed
on a throwaway service that is seeded with the present record and its version. A lowering that
is approved again is answered from the record as it stands then. -/

namespace MissionControl.Portfolio
open Checked
open Evidence (RegistryRow fitsInteger)
open Delivery (OperationContext Ports PrepareLowerClassification ApproveAndExecuteLowerClassification
  PreparedIntentRow storageError parseId seedContext seedPorts seedVersion)

section
variable (context : OperationContext) (now : UtcTimestamp)

def seedAuditEventIds (id : String) (count : Nat) : Except DomainError (List AuditEventId) :=
  (List.range count).mapM fun step =>
    require (storageError context) (parseId .auditEvent ("replay-seed-audit-" ++ id ++ "-" ++ step.repr))

def seeded {Outcome : Type} (attempt : Service × Except DomainError Outcome) : Except DomainError Service := do
  let _ ← relabel (fun _ => storageError context) attempt.2
  return attempt.1

section
variable {Outcome : Type} (label id : String) (auditEventIds : Nat → Option AuditEventId)
  (create : OperationContext → Ports → Service → Service × Except DomainError Outcome)
  (update : OperationContext → AggregateVersion → Ports → Service → Service × Except DomainError Outcome)

/-- Updates that change nothing, until the version is that of the record. -/
def seedUpdates : List Nat → Service → Except DomainError Service
  | [], service => return service
  | step :: rest, service => do
    let again ← seedContext context ("replay-seed-update-" ++ label) (id ++ "-" ++ step.repr)
    let version ← seedVersion context step
    let service ← seeded context (update again version (seedPorts now (auditEventIds step)) service)
    seedUpdates rest service

def seedRecord (version : AggregateVersion) (service : Service) : Except DomainError Service := do
  let creating ← seedContext context ("replay-seed-create-" ++ label) id
  let service ← seeded context (create creating (seedPorts now (auditEventIds 0)) service)
  seedUpdates context now label id auditEventIds update (List.range' 1 (version.get - 1)) service

end

def PortfolioRecord.creating (record : PortfolioRecord) (context : OperationContext) : CreatePortfolio :=
  ⟨record.id, record.name, record.details, some record.classification, record.provenance, context⟩

def PortfolioRecord.updating (record : PortfolioRecord) (context : OperationContext) (version : AggregateVersion) :
    UpdatePortfolioDetails :=
  ⟨record.id, version, record.name, record.details, none, context⟩

def ProductRecord.creating (record : ProductRecord) (context : OperationContext) : CreateProduct :=
  ⟨record.id, record.name, record.details, some record.classification, record.provenance, context⟩

def ProductRecord.updating (record : ProductRecord) (context : OperationContext) (version : AggregateVersion) :
    UpdateProductDetails :=
  ⟨record.id, version, record.name, record.details, none, context⟩

def RoadmapRecord.creating (record : RoadmapRecord) (context : OperationContext) : CreateRoadmap :=
  ⟨record.id, record.name, record.details, some record.classification, record.provenance, context⟩

def RoadmapRecord.updating (record : RoadmapRecord) (context : OperationContext) (version : AggregateVersion) :
    UpdateRoadmapDetails :=
  ⟨record.id, version, record.name, record.details, none, context⟩

def KpiDefinitionRecord.creating (record : KpiDefinitionRecord) (context : OperationContext) : CreateKpiDefinition :=
  ⟨record.id, record.name, record.definition, record.owner, record.target, record.cadence, record.source,
    some record.classification, record.provenance, context⟩

def KpiDefinitionRecord.updating (record : KpiDefinitionRecord) (context : OperationContext) (version : AggregateVersion) :
    UpdateKpiDefinitionDetails :=
  ⟨record.id, version, record.name, record.definition, record.owner, record.target, record.cadence, record.source, none,
    context⟩

def KpiObservationRecord.creating (record : KpiObservationRecord) (context : OperationContext) : CreateKpiObservation :=
  ⟨record.id, record.kpiId, record.value, record.observedAt, record.source, some record.classification, record.provenance,
    context⟩

def KpiObservationRecord.updating (record : KpiObservationRecord) (context : OperationContext)
    (version : AggregateVersion) : UpdateKpiObservationDetails :=
  ⟨record.id, version, record.value, record.observedAt, record.source, none, context⟩

def seedPortfolioServiceForLowering (id : PortfolioId) (tables : PortfolioTables) : Except DomainError Service := do
  let (registered, record) ← require (domainNotFound context portfolios.keys.notFound) (keptPortfolios.stored tables id)
  let auditEventIds ← seedAuditEventIds context id.asStr registered.version.get
  seedRecord context now "" id.asStr (auditEventIds[·]?)
    (fun creating ports service => createPortfolio service ports (record.creating creating))
    (fun again version ports service => updatePortfolioDetails service ports (record.updating again version))
    registered.version .new

def seedProductServiceForLowering (id : ProductId) (tables : PortfolioTables) : Except DomainError Service := do
  let (registered, record) ← require (domainNotFound context products.keys.notFound) (keptProducts.stored tables id)
  let auditEventIds ← seedAuditEventIds context id.asStr registered.version.get
  seedRecord context now "" id.asStr (auditEventIds[·]?)
    (fun creating ports service => createProduct service ports (record.creating creating))
    (fun again version ports service => updateProductDetails service ports (record.updating again version))
    registered.version .new

def seedRoadmapServiceForLowering (id : RoadmapId) (tables : PortfolioTables) : Except DomainError Service := do
  let (registered, record) ← require (domainNotFound context roadmaps.keys.notFound) (keptRoadmaps.stored tables id)
  let auditEventIds ← seedAuditEventIds context id.asStr registered.version.get
  seedRecord context now "" id.asStr (auditEventIds[·]?)
    (fun creating ports service => createRoadmap service ports (record.creating creating))
    (fun again version ports service => updateRoadmapDetails service ports (record.updating again version))
    registered.version .new

def seedKpiServiceForLowering (id : KpiId) (tables : PortfolioTables) : Except DomainError Service := do
  let (registered, record) ← require (domainNotFound context kpis.keys.notFound) (keptKpis.stored tables id)
  let auditEventIds ← seedAuditEventIds context id.asStr registered.version.get
  seedRecord context now "" id.asStr (auditEventIds[·]?)
    (fun creating ports service => createKpiDefinition service ports (record.creating creating))
    (fun again version ports service => updateKpiDefinitionDetails service ports (record.updating again version))
    registered.version .new

def seedKpiObservationServiceForLowering (id : KpiObservationId) (tables : PortfolioTables) : Except DomainError Service := do
  let (registered, record) ← require (domainNotFound context observations.keys.notFound) (keptObservations.stored tables id)
  let (parent, definition) ← require (domainNotFound context kpis.keys.notFound) (keptKpis.stored tables record.kpiId)
  let auditEventIds ← seedAuditEventIds context id.asStr (parent.version.get + registered.version.get)
  let service ← seedRecord context now "kpi-" record.kpiId.asStr (auditEventIds[·]?)
    (fun creating ports service => createKpiDefinition service ports (definition.creating creating))
    (fun again version ports service => updateKpiDefinitionDetails service ports (definition.updating again version))
    parent.version .new
  seedRecord context now "" id.asStr (fun step => auditEventIds[parent.version.get + step]?)
    (fun creating ports service => createKpiObservation service ports (record.creating creating))
    (fun again version ports service => updateKpiObservationDetails service ports (record.updating again version))
    registered.version service

end

structure Lowering (kind : IdKind) (Record : Type) where
  kept : Kept kind Record
  seed : OperationContext → UtcTimestamp → OpaqueId kind → PortfolioTables → Except DomainError Service
  write : OperationContext → Write Record

def portfolioLowering : Lowering .portfolio PortfolioRecord :=
  ⟨keptPortfolios, seedPortfolioServiceForLowering, fun context => commit context portfolios⟩

def productLowering : Lowering .product ProductRecord :=
  ⟨keptProducts, seedProductServiceForLowering, fun context => commit context products⟩

def roadmapLowering : Lowering .roadmap RoadmapRecord :=
  ⟨keptRoadmaps, seedRoadmapServiceForLowering, fun context => commit context roadmaps⟩

def kpiLowering : Lowering .kpi KpiDefinitionRecord := ⟨keptKpis, seedKpiServiceForLowering, commitKpi⟩

def kpiObservationLowering : Lowering .kpiObservation KpiObservationRecord :=
  ⟨keptObservations, seedKpiObservationServiceForLowering, fun context => commit context observations⟩

section
variable [Sha256] {kind : IdKind} {Record : Type} (lowering : Lowering kind Record)

def claimedByOtherOperation (context : OperationContext) (operation : PortfolioOperation) (tables : PortfolioTables) : Bool :=
  (tables.idempotencyClaims.find context.idempotencyId).any fun claim => claim.operation ≠ operation

def persistPreparedIntent (context : OperationContext) (prepared : WorkManagementPreparedIntent)
    (tables : PortfolioTables) : Except DomainError PortfolioTables := do
  let expiresAt := prepared.preview.expiresAt
  let createdAt ← require (storageError context) (expiresAt.checkedAdd (-workManagementH2aTtlMillis))
  ensure (0 ≤ createdAt.unixMillis) (storageError context)
  let preparedIntents ← require (storageError context) (tables.preparedIntents.insert
    { id := prepared.id
      payloadDigest := prepared.payloadDigest
      expiresAt
      createdAt
      consumedAt := none })
  return { tables with preparedIntents }

/-- The preview is made by the caller, and checked against the present record. -/
def prepareLowering (command : PrepareLowerClassification (OpaqueId kind)) (prepared : WorkManagementPreparedIntent)
    (tables : PortfolioTables) : Except DomainError (PortfolioTables × WorkManagementPreparedIntent) := do
  let context := command.context
  let kept := lowering.kept
  let keys := kept.family.keys
  ensure (claimedByOtherOperation context .prepareLowerClassification tables = false) (idempotencyError context)
  match (tables.commandPrepares.find context.idempotencyId).filter fun row => row.target.aggregateType = kept.aggregateType with
  | some existing =>
    ensure (existing.target = kept.key command.id ∧ existing.expectedVersion = command.expectedVersion ∧
      existing.proposedClassification = command.proposedClassification ∧ existing.rationale = command.rationale ∧
      existing.resultReference = prepared.id ∧
      (tables.preparedIntents.find prepared.id).map (·.payloadDigest) = some prepared.payloadDigest)
      (idempotencyError context)
    return (tables, prepared)
  | none =>
    let (registered, _) ← require (domainNotFound context keys.notFound) (kept.stored tables command.id)
    ensure (registered.version = command.expectedVersion) (staleVersion context kept.staleVersion registered.version)
    ensure (command.proposedClassification.combine registered.classification ≠ command.proposedClassification)
      (domainConflict context keys.notALowering)
    ensure (prepared.operation = kept.family.operation command.id command.expectedVersion registered.classification
      command.proposedClassification command.rationale) (domainConflict context keys.loweringInvalid)
    let operationOrdinal := tables.nextPrepareOrdinal kept.aggregateType
    ensure (fitsInteger operationOrdinal) (storageError context)
    let tables ← persistPreparedIntent context prepared tables
    let tables ← claimIdempotency context .prepareLowerClassification tables
    let commandPrepares ← require (storageError context) (tables.commandPrepares.insert
      { idempotencyId := context.idempotencyId
        correlationId := context.correlationId
        operationOrdinal
        target := kept.key command.id
        expectedVersion := command.expectedVersion
        proposedClassification := command.proposedClassification
        rationale := command.rationale
        resultReference := prepared.id })
    let tables ← advanceRevision context { tables with commandPrepares }
    return (tables, prepared)

def previewOf (tables : PortfolioTables) (preparedId : PreparedIntentId) :
    Option (CommandPrepareRow × PreparedIntentRow × OpaqueId kind) := do
  let row ← tables.commandPrepares.rows.find? fun row =>
    row.resultReference = preparedId ∧ row.target.aggregateType = lowering.kept.aggregateType
  let intent ← tables.preparedIntents.find preparedId
  let id ← parseId kind row.target.id
  return (row, intent, id)

def executionPorts (arguments : Arguments) (prepareAt : UtcTimestamp) (preparedId : PreparedIntentId) (executing : Bool) :
    Ports where
  now _ := if executing then arguments.occurredAt else prepareAt
  nextAuditEventId draw := if draw = 0 then some (arguments.auditEventId 0) else none
  nextPreparedIntentId := some preparedId
  nextApprovalReceiptId := some arguments.approvalReceiptId
  authorize actor := actor = .headOfProducts

def executeSeeded (command : ApproveAndExecuteLowerClassification) (arguments : Arguments) (row : CommandPrepareRow)
    (intent : PreparedIntentRow) (id : OpaqueId kind) (service : Service) : Except DomainError (MutationOutcome Record) := do
  let context := command.context
  let family := lowering.kept.family
  let again ← seedContext context "replay-prepare-" context.idempotencyId.asStr
  let ports := executionPorts arguments intent.createdAt command.approval.preparedId
  let prepared := prepareLowerClassification family service (ports false)
    { id
      expectedVersion := row.expectedVersion
      proposedClassification := row.proposedClassification
      rationale := row.rationale
      context := again }
  let _ ← relabel (fun _ => domainConflict context family.keys.previewChanged) prepared.2
  (approveAndExecuteLowerClassification family lowering.write prepared.1 (ports true) command).2

def persistLoweredBundle (command : ApproveAndExecuteLowerClassification) (arguments : Arguments)
    (outcome : MutationOutcome Record) (operationOrdinal : Nat) (tables : PortfolioTables) :
    Except DomainError PortfolioTables := do
  let context := command.context
  let approval := command.approval
  let family := lowering.kept.family
  let target := lowering.kept.key (family.id outcome.record)
  let audit := outcome.auditEvent
  ensure (audit.target = family.auditTarget (family.id outcome.record)) (storageError context)
  let occurredAt := audit.occurredAt
  let tables ← reviseAggregate context target (family.version outcome.record) (family.classification outcome.record)
    occurredAt tables
  let tables ← persistPortfolioAudit context audit tables
  let intent ← require (storageError context) (tables.preparedIntents.find approval.preparedId)
  let tables : PortfolioTables := { tables with
    preparedIntents := tables.preparedIntents.update approval.preparedId fun row =>
      { row with consumedAt := row.consumedAt.or (some occurredAt) } }
  ensure (intent.createdAt ≤ occurredAt ∧ occurredAt ≤ intent.expiresAt) (storageError context)
  ensure (∀ row ∈ tables.approvalReceipts.rows, row.preparedIntentId ≠ approval.preparedId) (storageError context)
  let approvalReceipts ← require (storageError context) (tables.approvalReceipts.insert
    { id := arguments.approvalReceiptId
      preparedIntentId := approval.preparedId
      idempotencyId := context.idempotencyId
      approvedAt := occurredAt
      expiresAt := intent.expiresAt })
  let tables ← claimIdempotency context .executeLowerClassification { tables with approvalReceipts }
  let commandExecutes ← require (storageError context) (tables.commandExecutes.insert
    { idempotencyId := context.idempotencyId
      correlationId := context.correlationId
      operationOrdinal
      target
      preparedId := approval.preparedId
      actor := .headOfProducts
      acknowledgedDigest := approval.acknowledgedPayloadDigest
      approvalReceiptId := arguments.approvalReceiptId
      auditEventId := audit.id })
  return { tables with commandExecutes }

def replayLoweredOutcome (context : OperationContext) (existing : CommandExecuteRow) (tables : PortfolioTables) :
    Except DomainError (MutationOutcome Record) := do
  let (registered, row) ← require (storageError context) (tables.standing existing.target)
  let record ← require (storageError context) (lowering.kept.record registered row)
  return ⟨record, ← decodeAudit context tables existing.auditEventId⟩

def approveAndExecuteLowering (command : ApproveAndExecuteLowerClassification) (arguments : Arguments)
    (tables : PortfolioTables) : Except DomainError (PortfolioTables × MutationOutcome Record) := do
  let context := command.context
  let approval := command.approval
  let kept := lowering.kept
  ensure (claimedByOtherOperation context .executeLowerClassification tables = false) (idempotencyError context)
  match (tables.commandExecutes.find context.idempotencyId).filter fun row => row.target.aggregateType = kept.aggregateType with
  | some existing =>
    ensure (existing.preparedId = approval.preparedId ∧ existing.actor = approval.actor ∧
      existing.acknowledgedDigest = approval.acknowledgedPayloadDigest ∧
      approval.idempotencyId = context.idempotencyId) (idempotencyError context)
    return (tables, ← replayLoweredOutcome lowering context existing tables)
  | none =>
    let (row, intent, id) ← require (domainConflict context kept.family.keys.previewChanged)
      (previewOf lowering tables approval.preparedId)
    let service ← lowering.seed context intent.createdAt id tables
    let outcome ← executeSeeded lowering command arguments row intent id service
    let operationOrdinal := tables.nextExecuteOrdinal kept.aggregateType
    ensure (fitsInteger operationOrdinal) (storageError context)
    let tables ← persistLoweredBundle lowering command arguments outcome operationOrdinal tables
    let tables ← advanceRevision context tables
    return (tables, outcome)

end

namespace SqliteProductLedger

def prepareLowerPortfolioClassification [Sha256] := prepareLowering portfolioLowering
def prepareLowerProductClassification [Sha256] := prepareLowering productLowering
def prepareLowerRoadmapClassification [Sha256] := prepareLowering roadmapLowering
def prepareLowerKpiClassification [Sha256] := prepareLowering kpiLowering
def prepareLowerKpiObservationClassification [Sha256] := prepareLowering kpiObservationLowering
def approveAndExecuteLowerPortfolioClassification [Sha256] := approveAndExecuteLowering portfolioLowering
def approveAndExecuteLowerProductClassification [Sha256] := approveAndExecuteLowering productLowering
def approveAndExecuteLowerRoadmapClassification [Sha256] := approveAndExecuteLowering roadmapLowering
def approveAndExecuteLowerKpiClassification [Sha256] := approveAndExecuteLowering kpiLowering
def approveAndExecuteLowerKpiObservationClassification [Sha256] := approveAndExecuteLowering kpiObservationLowering

end SqliteProductLedger

inductive Command where
  | createPortfolio (command : CreatePortfolio)
  | updatePortfolioDetails (command : UpdatePortfolioDetails)
  | createProduct (command : CreateProduct)
  | updateProductDetails (command : UpdateProductDetails)
  | createRoadmap (command : CreateRoadmap)
  | updateRoadmapDetails (command : UpdateRoadmapDetails)
  | createKpiDefinition (command : CreateKpiDefinition)
  | updateKpiDefinitionDetails (command : UpdateKpiDefinitionDetails)
  | createKpiObservation (command : CreateKpiObservation)
  | updateKpiObservationDetails (command : UpdateKpiObservationDetails)
  | prepareLowerPortfolioClassification (command : PrepareLowerClassification PortfolioId)
      (prepared : WorkManagementPreparedIntent)
  | prepareLowerProductClassification (command : PrepareLowerClassification ProductId)
      (prepared : WorkManagementPreparedIntent)
  | prepareLowerRoadmapClassification (command : PrepareLowerClassification RoadmapId)
      (prepared : WorkManagementPreparedIntent)
  | prepareLowerKpiClassification (command : PrepareLowerClassification KpiId) (prepared : WorkManagementPreparedIntent)
  | prepareLowerKpiObservationClassification (command : PrepareLowerClassification KpiObservationId)
      (prepared : WorkManagementPreparedIntent)
  | approveAndExecuteLowerPortfolioClassification (command : ApproveAndExecuteLowerClassification)
  | approveAndExecuteLowerProductClassification (command : ApproveAndExecuteLowerClassification)
  | approveAndExecuteLowerRoadmapClassification (command : ApproveAndExecuteLowerClassification)
  | approveAndExecuteLowerKpiClassification (command : ApproveAndExecuteLowerClassification)
  | approveAndExecuteLowerKpiObservationClassification (command : ApproveAndExecuteLowerClassification)

inductive Answer where
  | portfolio (outcome : MutationOutcome PortfolioRecord)
  | product (outcome : MutationOutcome ProductRecord)
  | roadmap (outcome : MutationOutcome RoadmapRecord)
  | kpi (outcome : MutationOutcome KpiDefinitionRecord)
  | observation (outcome : MutationOutcome KpiObservationRecord)
  | prepared (prepared : WorkManagementPreparedIntent)

def answering {α : Type} (answer : α → Answer) (result : Except DomainError (PortfolioTables × α)) :
    Except DomainError (PortfolioTables × Answer) :=
  result.map fun (tables, value) => (tables, answer value)

def Command.operation [Sha256] (arguments : Arguments) (tables : PortfolioTables) :
    Command → Except DomainError (PortfolioTables × Answer)
  | .createPortfolio command => answering .portfolio (SqliteProductLedger.createPortfolio command arguments tables)
  | .updatePortfolioDetails command =>
    answering .portfolio (SqliteProductLedger.updatePortfolioDetails command arguments tables)
  | .createProduct command => answering .product (SqliteProductLedger.createProduct command arguments tables)
  | .updateProductDetails command => answering .product (SqliteProductLedger.updateProductDetails command arguments tables)
  | .createRoadmap command => answering .roadmap (SqliteProductLedger.createRoadmap command arguments tables)
  | .updateRoadmapDetails command => answering .roadmap (SqliteProductLedger.updateRoadmapDetails command arguments tables)
  | .createKpiDefinition command => answering .kpi (SqliteProductLedger.createKpiDefinition command arguments tables)
  | .updateKpiDefinitionDetails command =>
    answering .kpi (SqliteProductLedger.updateKpiDefinitionDetails command arguments tables)
  | .createKpiObservation command =>
    answering .observation (SqliteProductLedger.createKpiObservation command arguments tables)
  | .updateKpiObservationDetails command =>
    answering .observation (SqliteProductLedger.updateKpiObservationDetails command arguments tables)
  | .prepareLowerPortfolioClassification command prepared =>
    answering .prepared (SqliteProductLedger.prepareLowerPortfolioClassification command prepared tables)
  | .prepareLowerProductClassification command prepared =>
    answering .prepared (SqliteProductLedger.prepareLowerProductClassification command prepared tables)
  | .prepareLowerRoadmapClassification command prepared =>
    answering .prepared (SqliteProductLedger.prepareLowerRoadmapClassification command prepared tables)
  | .prepareLowerKpiClassification command prepared =>
    answering .prepared (SqliteProductLedger.prepareLowerKpiClassification command prepared tables)
  | .prepareLowerKpiObservationClassification command prepared =>
    answering .prepared (SqliteProductLedger.prepareLowerKpiObservationClassification command prepared tables)
  | .approveAndExecuteLowerPortfolioClassification command =>
    answering .portfolio (SqliteProductLedger.approveAndExecuteLowerPortfolioClassification command arguments tables)
  | .approveAndExecuteLowerProductClassification command =>
    answering .product (SqliteProductLedger.approveAndExecuteLowerProductClassification command arguments tables)
  | .approveAndExecuteLowerRoadmapClassification command =>
    answering .roadmap (SqliteProductLedger.approveAndExecuteLowerRoadmapClassification command arguments tables)
  | .approveAndExecuteLowerKpiClassification command =>
    answering .kpi (SqliteProductLedger.approveAndExecuteLowerKpiClassification command arguments tables)
  | .approveAndExecuteLowerKpiObservationClassification command =>
    answering .observation (SqliteProductLedger.approveAndExecuteLowerKpiObservationClassification command arguments tables)

def Command.context : Command → OperationContext
  | .createPortfolio command | .createProduct command | .createRoadmap command => command.context
  | .updatePortfolioDetails command | .updateProductDetails command | .updateRoadmapDetails command => command.context
  | .createKpiDefinition command => command.context
  | .updateKpiDefinitionDetails command => command.context
  | .createKpiObservation command => command.context
  | .updateKpiObservationDetails command => command.context
  | .prepareLowerPortfolioClassification command _ => command.context
  | .prepareLowerProductClassification command _ => command.context
  | .prepareLowerRoadmapClassification command _ => command.context
  | .prepareLowerKpiClassification command _ => command.context
  | .prepareLowerKpiObservationClassification command _ => command.context
  | .approveAndExecuteLowerPortfolioClassification command | .approveAndExecuteLowerProductClassification command
  | .approveAndExecuteLowerRoadmapClassification command | .approveAndExecuteLowerKpiClassification command
  | .approveAndExecuteLowerKpiObservationClassification command => command.context

/-- One call of the repository, which commits. -/
def Moves [Sha256] (turn : Command × Arguments) (before after : PortfolioTables) : Prop :=
  ∃ answer, turn.1.operation turn.2 before = .ok (after, answer)

end MissionControl.Portfolio

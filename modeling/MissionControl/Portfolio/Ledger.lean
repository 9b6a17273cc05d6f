import MissionControl.Portfolio.Tables
import MissionControl.Lib.Run
import MissionControl.Lib.Transaction

/-! The creates and updates of the Portfolio repository, each one transaction over the
tables. -/

namespace MissionControl.Portfolio
open Checked
open Evidence (AggregateType RegistryRow)
open Delivery (OperationContext storageError)

/-- What a command is called with besides itself: new identifiers and the time. -/
structure Arguments where
  auditEventId : Nat → AuditEventId
  approvalReceiptId : ApprovalReceiptId
  occurredAt : UtcTimestamp

structure Kept (kind : IdKind) (Record : Type) where
  family : Family (OpaqueId kind) Record
  aggregateType : AggregateType
  row : Record → RecordRow
  record : RegistryRow → RecordRow → Option Record
  result : Record → ResultRecord
  result? : ResultRecord → Option Record
  staleVersion : MessageKey
  versionExhausted : MessageKey

def keptPortfolios : Kept .portfolio PortfolioRecord where
  family := portfolios
  aggregateType := .portfolio
  row value := .portfolio ⟨value.id, value.name, value.details, value.provenance⟩
  record
    | registered, .portfolio row =>
      some ⟨row.id, row.name, row.details, registered.classification, row.provenance, registered.version⟩
    | _, _ => none
  result := .portfolio
  result?
    | .portfolio record => some record
    | _ => none
  staleVersion := ⟨"portfolio.stale_version", .refl true⟩
  versionExhausted := ⟨"portfolio.version_exhausted", .refl true⟩

def keptProducts : Kept .product ProductRecord where
  family := products
  aggregateType := .product
  row value := .product ⟨value.id, value.name, value.details, value.provenance⟩
  record
    | registered, .product row =>
      some ⟨row.id, row.name, row.details, registered.classification, row.provenance, registered.version⟩
    | _, _ => none
  result := .product
  result?
    | .product record => some record
    | _ => none
  staleVersion := ⟨"product.stale_version", by decide⟩
  versionExhausted := ⟨"product.version_exhausted", by decide⟩

def keptRoadmaps : Kept .roadmap RoadmapRecord where
  family := roadmaps
  aggregateType := .roadmap
  row value := .roadmap ⟨value.id, value.name, value.details, value.provenance⟩
  record
    | registered, .roadmap row =>
      some ⟨row.id, row.name, row.details, registered.classification, row.provenance, registered.version⟩
    | _, _ => none
  result := .roadmap
  result?
    | .roadmap record => some record
    | _ => none
  staleVersion := ⟨"roadmap.stale_version", by decide⟩
  versionExhausted := ⟨"roadmap.version_exhausted", by decide⟩

def keptKpis : Kept .kpi KpiDefinitionRecord where
  family := kpis
  aggregateType := .kpiDefinition
  row value := .kpiDefinition
    ⟨value.id, value.name, value.definition, value.owner, value.target, value.cadence, value.source, value.provenance⟩
  record
    | registered, .kpiDefinition row =>
      some ⟨row.id, row.name, row.definition, row.owner, row.target, row.cadence, row.source, registered.classification,
        row.provenance, registered.version⟩
    | _, _ => none
  result := .kpiDefinition
  result?
    | .kpiDefinition record => some record
    | _ => none
  staleVersion := ⟨"kpi.stale_version", by decide⟩
  versionExhausted := ⟨"kpi.version_exhausted", by decide⟩

def keptObservations : Kept .kpiObservation KpiObservationRecord where
  family := observations
  aggregateType := .kpiObservation
  row value := .kpiObservation ⟨value.id, value.kpiId, value.value, value.observedAt, value.source, value.provenance⟩
  record
    | registered, .kpiObservation row =>
      some ⟨row.id, row.kpiId, row.value, row.observedAt, row.source, registered.classification, row.provenance,
        registered.version, registered.createdAt, registered.updatedAt⟩
    | _, _ => none
  result := .kpiObservation
  result?
    | .kpiObservation record => some record
    | _ => none
  staleVersion := ⟨"kpi.observation.stale_version", by decide⟩
  versionExhausted := ⟨"kpi.observation.version_exhausted", by decide⟩

section
variable {kind : IdKind} {Record : Type} (kept : Kept kind Record)

def Kept.key (id : OpaqueId kind) : RecordKey := ⟨kept.aggregateType, id.asStr⟩

def Kept.stored (tables : PortfolioTables) (id : OpaqueId kind) : Option (RegistryRow × Record) :=
  (tables.standing (kept.key id)).bind fun (registered, row) => (kept.record registered row).map (registered, ·)

/-- What a command is told that was carried out before. -/
def decodeOutcome (context : OperationContext) (existing : CommandResultRow) (tables : PortfolioTables) :
    Except DomainError (MutationOutcome Record) := do
  let record ← require (storageError context) (kept.result? existing.result)
  let auditEventId ← require (storageError context) existing.auditEventIds.head?
  return ⟨record, ← decodeAudit context tables auditEventId⟩

/-- A command under a key that its operation has a row for is not carried out again. -/
def orRecorded (context : OperationContext) (operation : PortfolioOperation) (command : CommandIdentity)
    (tables : PortfolioTables) (fresh : Except DomainError (PortfolioTables × MutationOutcome Record)) :
    Except DomainError (PortfolioTables × MutationOutcome Record) :=
  match tables.commandResults.find (operation, context.idempotencyId) with
  | some existing => do
    ensure (existing.command = command) (idempotencyError context)
    return (tables, ← decodeOutcome kept context existing tables)
  | none => fresh

/-- The observations that a command raises besides its own record. -/
abbrev Cascade := PortfolioTables → Except DomainError (PortfolioTables × List DerivedKpiObservationMutation)

def noCascade : Cascade := fun tables => .ok (tables, [])

/-- What a create and an update write after their record. -/
def recordChange (context : OperationContext) (operation : PortfolioOperation) (command : CommandIdentity)
    (result : ResultRecord) (audit : AuditEvent) (occurredAt : UtcTimestamp) (cascade : Cascade)
    (tables : PortfolioTables) : Except DomainError PortfolioTables := do
  let tables ← persistPortfolioAudit context audit tables
  let operationOrdinal := tables.nextOperationOrdinal
  ensure (Evidence.fitsInteger operationOrdinal) (storageError context)
  let tables ← persistIdempotencyClaim context operation occurredAt tables
  let (tables, derivedKpiObservationMutations) ← cascade tables
  let commandResults ← require (storageError context) (tables.commandResults.insert
    { operation
      idempotencyId := context.idempotencyId
      correlationId := context.correlationId
      operationOrdinal
      command
      result
      auditEventIds := audit.id :: derivedKpiObservationMutations.map DerivedKpiObservationMutation.auditEventId
      derivedKpiObservationMutations })
  advanceRevision context { tables with commandResults }

variable (context : OperationContext) (operation : PortfolioOperation) (command : CommandIdentity) (code : AuditEventCode)

def placeStored (value : Record) (arguments : Arguments) (tables : PortfolioTables) :
    Except DomainError (PortfolioTables × MutationOutcome Record) := do
  let id := kept.family.id value
  let tables ← registerAggregate context (kept.key id) (kept.family.classification value) arguments.occurredAt tables
  let tables ← insertRecord context (kept.row value) tables
  let audit := buildAudit (arguments.auditEventId 0) arguments.occurredAt (kept.family.auditTarget id) code
    context.correlationId
  let tables ← recordChange context operation command (kept.result value) audit arguments.occurredAt noCascade tables
  return (tables, ⟨value, audit⟩)

/-- The columns that an update gives a row of its table. -/
structure Change where
  apply : RecordRow → RecordRow
  keeps : ∀ row, (apply row).key = row.key

def rewriteStored (id : OpaqueId kind) (change : Change) (updatedAt : UtcTimestamp) (cascade : Cascade) (value : Record)
    (arguments : Arguments) (tables : PortfolioTables) : Except DomainError (PortfolioTables × MutationOutcome Record) := do
  let tables ← reviseAggregate context (kept.key id) (kept.family.version value) (kept.family.classification value) updatedAt
    { tables with records := tables.records.update (kept.key id) change.apply change.keeps }
  let audit := buildAudit (arguments.auditEventId 0) arguments.occurredAt (kept.family.auditTarget id) code
    context.correlationId
  let tables ← recordChange context operation command (kept.result value) audit arguments.occurredAt cascade tables
  return (tables, ⟨value, audit⟩)

def createStored (value : Record) (arguments : Arguments) (tables : PortfolioTables) :
    Except DomainError (PortfolioTables × MutationOutcome Record) :=
  orRecorded kept context operation command tables do
    ensure ((tables.registry.find (kept.family.id value).asStr).isNone = true)
      (domainConflict context kept.family.keys.alreadyExists)
    placeStored kept context operation command code value arguments tables

def updateStored (id : OpaqueId kind) (expectedVersion : AggregateVersion) (requested : Option DataClassification)
    (change : Change) (changed : Record → AggregateVersion → DataClassification → Record)
    (cascade : DataClassification → Cascade) (arguments : Arguments) (tables : PortfolioTables) :
    Except DomainError (PortfolioTables × MutationOutcome Record) :=
  orRecorded kept context operation command tables do
    let (registered, record) ← require (domainNotFound context kept.family.keys.notFound) (kept.stored tables id)
    ensure (registered.version = expectedVersion) (staleVersion context kept.staleVersion registered.version)
    let classification ← raisedClassification context registered.classification requested
    let version ← require (domainConflict context kept.versionExhausted) expectedVersion.next
    rewriteStored kept context operation command code id change arguments.occurredAt (cascade classification)
      (changed record version classification) arguments tables

end

/-- Raises observations one after another, each with an audit and a derived row of its own. -/
def inheritStored (context : OperationContext) (classification : DataClassification) (arguments : Arguments) :
    Nat → List (RegistryRow × KpiObservationRow) → Cascade
  | _, [], tables => return (tables, [])
  | draw, (registered, row) :: rest, tables => do
    let resultingVersion ← require (storageError context) registered.version.next
    let resultingClassification := classification.combine registered.classification
    let resultingUpdatedAt := max arguments.occurredAt registered.updatedAt
    let audit := buildAudit (arguments.auditEventId draw) arguments.occurredAt (.kpiObservation row.id)
      ⟨"kpi.observation.classification.inherited", by decide⟩ context.correlationId
    let tables ← persistPortfolioAudit context audit tables
    let tables ← reviseAggregate context (keptObservations.key row.id) resultingVersion resultingClassification
      resultingUpdatedAt tables
    let (tables, others) ← inheritStored context classification arguments (draw + 1) rest tables
    return (tables,
      { observationId := row.id
        previousVersion := registered.version
        resultingVersion
        previousClassification := registered.classification
        resultingClassification
        previousUpdatedAt := registered.updatedAt
        resultingUpdatedAt
        auditEventId := audit.id } :: others)

/-- The observations of a KPI definition that are less restricted than it becomes. -/
def raiseObservations (context : OperationContext) (id : KpiId) (arguments : Arguments) (classification : DataClassification) :
    Cascade := fun tables =>
  inheritStored context classification arguments 1 ((tables.observationsOf id).filter fun (observation, _) =>
    classification.combine observation.classification ≠ observation.classification) tables

def changeDetails (name : ShortText) (details : LongText) : Change where
  apply
    | .portfolio row => .portfolio { row with name, details }
    | .product row => .product { row with name, details }
    | .roadmap row => .roadmap { row with name, details }
    | other => other
  keeps row := by cases row <;> rfl

def UpdateKpiDefinitionDetails.change (command : UpdateKpiDefinitionDetails) : Change where
  apply
    | .kpiDefinition row => .kpiDefinition
      { row with
        name := command.name
        definition := command.definition
        owner := command.owner
        target := command.target
        cadence := command.cadence
        source := command.source }
    | other => other
  keeps row := by cases row <;> rfl

def UpdateKpiObservationDetails.change (command : UpdateKpiObservationDetails) : Change where
  apply
    | .kpiObservation row => .kpiObservation
      { row with
        value := command.value
        observedAt := command.observedAt
        source := command.source }
    | other => other
  keeps row := by cases row <;> rfl

namespace SqliteProductLedger

def createPortfolio (command : CreatePortfolio) :=
  createStored keptPortfolios command.context .createPortfolio
    (.createPortfolio command.id command.name command.details command.classification command.provenance)
    ⟨"portfolio.created", .refl true⟩
    { id := command.id
      name := command.name
      details := command.details
      classification := command.classification.getD .unclassified
      provenance := command.provenance
      version := .initial }

def updatePortfolioDetails (command : UpdatePortfolioDetails) :=
  updateStored keptPortfolios command.context .updatePortfolio
    (.updatePortfolio command.id command.expectedVersion command.name command.details command.classification)
    ⟨"portfolio.updated", .refl true⟩ command.id command.expectedVersion command.classification
    (changeDetails command.name command.details)
    (fun record version classification =>
      { record with version, name := command.name, details := command.details, classification })
    fun _ => noCascade

def createProduct (command : CreateProduct) :=
  createStored keptProducts command.context .createProduct
    (.createProduct command.id command.name command.details command.classification command.provenance)
    ⟨"product.created", .refl true⟩
    { id := command.id
      name := command.name
      details := command.details
      classification := command.classification.getD .unclassified
      provenance := command.provenance
      version := .initial }

def updateProductDetails (command : UpdateProductDetails) :=
  updateStored keptProducts command.context .updateProduct
    (.updateProduct command.id command.expectedVersion command.name command.details command.classification)
    ⟨"product.updated", .refl true⟩ command.id command.expectedVersion command.classification
    (changeDetails command.name command.details)
    (fun record version classification =>
      { record with version, name := command.name, details := command.details, classification })
    fun _ => noCascade

def createRoadmap (command : CreateRoadmap) :=
  createStored keptRoadmaps command.context .createRoadmap
    (.createRoadmap command.id command.name command.details command.classification command.provenance)
    ⟨"roadmap.created", .refl true⟩
    { id := command.id
      name := command.name
      details := command.details
      classification := command.classification.getD .unclassified
      provenance := command.provenance
      version := .initial }

def updateRoadmapDetails (command : UpdateRoadmapDetails) :=
  updateStored keptRoadmaps command.context .updateRoadmap
    (.updateRoadmap command.id command.expectedVersion command.name command.details command.classification)
    ⟨"roadmap.updated", .refl true⟩ command.id command.expectedVersion command.classification
    (changeDetails command.name command.details)
    (fun record version classification =>
      { record with version, name := command.name, details := command.details, classification })
    fun _ => noCascade

def createKpiDefinition (command : CreateKpiDefinition) :=
  createStored keptKpis command.context .createKpiDefinition
    (.createKpi command.id command.name command.definition command.owner command.target command.cadence command.source
      command.classification command.provenance)
    ⟨"kpi.definition.created", .refl true⟩
    { id := command.id
      name := command.name
      definition := command.definition
      owner := command.owner
      target := command.target
      cadence := command.cadence
      source := command.source
      classification := command.classification.getD .unclassified
      provenance := command.provenance
      version := .initial }

def updateKpiDefinitionDetails (command : UpdateKpiDefinitionDetails) (arguments : Arguments) :=
  updateStored keptKpis command.context .updateKpiDefinition
    (.updateKpi command.id command.expectedVersion command.name command.definition command.owner command.target
      command.cadence command.source command.classification)
    ⟨"kpi.definition.updated", .refl true⟩ command.id command.expectedVersion command.classification command.change
    (fun record version classification =>
      { record with
        version
        name := command.name
        definition := command.definition
        owner := command.owner
        target := command.target
        cadence := command.cadence
        source := command.source
        classification })
    (raiseObservations command.context command.id arguments) arguments

def createKpiObservation (command : CreateKpiObservation) (arguments : Arguments) (tables : PortfolioTables) :
    Except DomainError (PortfolioTables × MutationOutcome KpiObservationRecord) :=
  let context := command.context
  let identity := .createObservation command.id command.kpiId command.value command.observedAt command.source
    command.classification command.provenance
  orRecorded keptObservations context .createKpiObservation identity tables do
    ensure ((tables.registry.find command.id.asStr).isNone = true)
      (domainConflict context observations.keys.alreadyExists)
    let definition ← require (domainNotFound context kpis.keys.notFound) (tables.aggregate (keptKpis.key command.kpiId))
    ensure (0 ≤ command.observedAt.unixMillis) (storageError context)
    placeStored keptObservations context .createKpiObservation identity ⟨"kpi.observation.created", .refl true⟩
      { id := command.id
        kpiId := command.kpiId
        value := command.value
        observedAt := command.observedAt
        source := command.source
        classification := match command.classification with
          | none => definition.classification
          | some value => value.combine definition.classification
        provenance := command.provenance
        version := .initial
        createdAt := arguments.occurredAt
        updatedAt := arguments.occurredAt } arguments tables

def updateKpiObservationDetails (command : UpdateKpiObservationDetails) (arguments : Arguments) (tables : PortfolioTables) :
    Except DomainError (PortfolioTables × MutationOutcome KpiObservationRecord) :=
  let context := command.context
  let identity := .updateObservation command.id command.expectedVersion command.value command.observedAt command.source
    command.classification
  orRecorded keptObservations context .updateKpiObservation identity tables do
    let (registered, record) ← require (domainNotFound context observations.keys.notFound)
      (keptObservations.stored tables command.id)
    ensure (registered.version = command.expectedVersion)
      (staleVersion context keptObservations.staleVersion registered.version)
    let requested ← raisedClassification context registered.classification command.classification
    let definition ← require (domainNotFound context kpis.keys.notFound) (tables.aggregate (keptKpis.key record.kpiId))
    let version ← require (domainConflict context keptObservations.versionExhausted) command.expectedVersion.next
    ensure (0 ≤ command.observedAt.unixMillis) (storageError context)
    let updatedAt := max arguments.occurredAt registered.updatedAt
    rewriteStored keptObservations context .updateKpiObservation identity ⟨"kpi.observation.updated", .refl true⟩ command.id
      command.change updatedAt noCascade
      { record with
        value := command.value
        observedAt := command.observedAt
        source := command.source
        classification := requested.combine definition.classification
        version
        updatedAt } arguments tables

end SqliteProductLedger

end MissionControl.Portfolio

import MissionControl.Delivery.Tables
import MissionControl.Lib.Run
import MissionControl.Lib.Transaction

/-! The Delivery commands of the repository, each one transaction over the tables. A
lowering is executed on a throwaway service that is seeded with the present record. -/

namespace MissionControl.Delivery
open Checked
open Evidence (Provenance AggregateType RegistryRow fitsInteger)

structure DeliveryMutationOutcome (Record : Type) where
  record : Record
  auditEvents : List AuditEvent
  cascadedMilestones : List Milestone

/-- What a command is called with besides itself: new identifiers and the time. -/
structure Arguments where
  auditEventId : AuditEventId
  cascadeAuditEventIds : Nat → Option AuditEventId
  approvalReceiptId : ApprovalReceiptId
  occurredAt : UtcTimestamp

section
variable (context : OperationContext) (tables : DeliveryTables) (existing : CommandResultRow)

def decodeFirstAudit : Except DomainError AuditEvent := do
  let id ← require (storageError context) existing.auditEventIds.head?
  decodeDeliveryAudit context tables id

def decodeDeliveryInitiativeOutcome : Except DomainError (DeliveryMutationOutcome Initiative) := do
  let record ← require (storageError context) (initiatives.result? existing.result)
  return ⟨record, [← decodeFirstAudit context tables existing], []⟩

def decodeDeliveryProjectOutcome : Except DomainError (DeliveryMutationOutcome Project) := do
  let record ← require (storageError context) (projects.result? existing.result)
  return ⟨record, ← existing.auditEventIds.mapM (decodeDeliveryAudit context tables), []⟩

def decodeDeliveryMilestoneOutcome : Except DomainError (DeliveryMutationOutcome Milestone) := do
  let record ← require (storageError context) (milestones.result? existing.result)
  return ⟨record, [← decodeFirstAudit context tables existing], []⟩

end

def orRecorded {Record : Type} (context : OperationContext) (operation : DeliveryOperation) (agrees : CommandIdentity → Bool)
    (decode : CommandResultRow → Except DomainError (DeliveryMutationOutcome Record)) (tables : DeliveryTables)
    (fresh : Except DomainError (DeliveryTables × DeliveryMutationOutcome Record)) :
    Except DomainError (DeliveryTables × DeliveryMutationOutcome Record) :=
  match tables.commandResults.find (operation, context.idempotencyId) with
  | some existing => do
    ensure (agrees existing.command = true) (idempotencyConflict context)
    return (tables, ← decode existing)
  | none => fresh

section
variable (context : OperationContext) (operation : DeliveryOperation) (command : CommandIdentity) (result : StoredResult)

def recordResult (operationOrdinal : Nat) (auditEventIds : List AuditEventId)
    (derivedMilestoneMutations : List DerivedMilestoneMutation) (tables : DeliveryTables) :
    Except DomainError DeliveryTables := do
  let tables ← insertCommandResult context
    { operation
      idempotencyId := context.idempotencyId
      correlationId := context.correlationId
      operationOrdinal
      command
      result
      auditEventIds
      derivedMilestoneMutations } tables
  advanceRevision context tables

/-- What every command but an update of a Project writes after its record. -/
def recordChange (audit : AuditEvent) (occurredAt : UtcTimestamp) (tables : DeliveryTables) :
    Except DomainError DeliveryTables := do
  let tables ← persistDeliveryAudit context audit audit.target tables
  let operationOrdinal := tables.nextOperationOrdinal
  ensure (fitsInteger operationOrdinal) (storageError context)
  let tables ← persistDeliveryIdempotencyClaim context operation occurredAt tables
  recordResult context operation command result operationOrdinal [audit.id] [] tables

def readBack {Record : Type}
    (decode : DeliveryTables → CommandResultRow → Except DomainError (DeliveryMutationOutcome Record))
    (tables : DeliveryTables) :
    Except DomainError (DeliveryTables × DeliveryMutationOutcome Record) := do
  let existing ← require (storageError context) (tables.commandResults.find (operation, context.idempotencyId))
  return (tables, ← decode tables existing)

end

def CreateInitiative.record (command : CreateInitiative) (occurredAt : UtcTimestamp) : Initiative where
  id := command.id
  name := command.name
  definedOutcome := command.definedOutcome
  classification := command.classification.getD .unclassified
  provenance := command.provenance
  version := .initial
  createdAt := occurredAt
  updatedAt := occurredAt

/-- The stored provenance is not compared. -/
def UpdateInitiative.agrees (command : UpdateInitiative) : CommandIdentity → Bool
  | .updateInitiative id expectedVersion name definedOutcome classification _ =>
    id = command.id && expectedVersion = command.expectedVersion && name = command.name &&
      definedOutcome = command.definedOutcome && classification = command.classification
  | _ => false

def CreateProject.record (command : CreateProject) (occurredAt : UtcTimestamp) : Project where
  id := command.id
  name := command.name
  startAt := command.startAt
  endAt := command.endAt
  classification := command.classification.getD .unclassified
  provenance := command.provenance
  version := .initial
  createdAt := occurredAt
  updatedAt := occurredAt

/-- The stored provenance is not compared. -/
def UpdateProject.agrees (command : UpdateProject) : CommandIdentity → Bool
  | .updateProject id expectedVersion name startAt endAt classification _ =>
    id = command.id && expectedVersion = command.expectedVersion && name = command.name &&
      startAt = command.startAt && endAt = command.endAt && classification = command.classification
  | _ => false

def CreateMilestone.record (command : CreateMilestone) (project : DataClassification) (occurredAt : UtcTimestamp) :
    Milestone where
  id := command.id
  projectId := command.projectId
  name := command.name
  verificationCriteria := command.verificationCriteria
  dueAt := command.dueAt
  classification := match command.classification with
    | none => project
    | some value => project.combine value
  provenance := command.provenance
  version := .initial
  createdAt := occurredAt
  updatedAt := occurredAt

/-- The stored provenance is not compared. -/
def UpdateMilestone.agrees (command : UpdateMilestone) : CommandIdentity → Bool
  | .updateMilestone id expectedVersion name verificationCriteria dueAt classification _ =>
    id = command.id && expectedVersion = command.expectedVersion && name = command.name &&
      verificationCriteria = command.verificationCriteria && dueAt = command.dueAt &&
      classification = command.classification
  | _ => false

def raisedMilestone (classification : DataClassification) (version : AggregateVersion) (occurredAt : UtcTimestamp)
    (registered : RegistryRow) (row : MilestoneRow) : Milestone where
  id := row.id
  projectId := row.projectId
  name := row.name
  verificationCriteria := row.verificationCriteria
  dueAt := row.dueAt
  classification := classification.combine registered.classification
  provenance := row.provenance
  version
  createdAt := registered.createdAt
  updatedAt := occurredAt

def cascade (context : OperationContext) (classification : DataClassification) (arguments : Arguments) :
    Nat → List (RegistryRow × MilestoneRow) → DeliveryTables →
    Except DomainError (DeliveryTables × List (Milestone × DerivedMilestoneMutation))
  | _, [], tables => return (tables, [])
  | draw, (registered, row) :: rest, tables => do
    let version ← require (versionExhausted context) registered.version.next
    let milestone := raisedMilestone classification version arguments.occurredAt registered row
    let tables ← reviseAggregate context registered version milestone.classification arguments.occurredAt tables
    let auditEventId ← require (storageError context) (arguments.cascadeAuditEventIds draw)
    let audit := buildDeliveryAudit auditEventId arguments.occurredAt (.milestone row.id)
      ⟨"milestone.classification.inherited", by decide⟩ context.correlationId
    let tables ← persistDeliveryAudit context audit (.milestone row.id) tables
    ensure (registered.updatedAt ≤ arguments.occurredAt) (storageError context)
    let (tables, raised) ← cascade context classification arguments (draw + 1) rest tables
    let derived : DerivedMilestoneMutation :=
      { milestoneId := row.id
        previousVersion := registered.version
        resultingVersion := version
        previousClassification := registered.classification
        resultingClassification := milestone.classification
        previousUpdatedAt := registered.updatedAt
        resultingUpdatedAt := arguments.occurredAt
        auditEventId }
    return (tables, (milestone, derived) :: raised)

namespace SqliteProductLedger

def createInitiative (command : CreateInitiative) (arguments : Arguments) (tables : DeliveryTables) :
    Except DomainError (DeliveryTables × DeliveryMutationOutcome Initiative) :=
  let context := command.context
  orRecorded context .createInitiative (fun stored => stored = command.identity)
    (decodeDeliveryInitiativeOutcome context tables) tables do
    ensure ((tables.registry.find command.id.asStr).isNone = true) (alreadyExists context)
    let record := command.record arguments.occurredAt
    let tables ← registerAggregate context command.id.asStr .initiative record.classification arguments.occurredAt tables
    let initiatives ← require (storageError context)
      (tables.initiatives.insert ⟨command.id, command.name, command.definedOutcome, command.provenance⟩)
    let audit := buildDeliveryAudit arguments.auditEventId arguments.occurredAt (.initiative command.id)
      ⟨"initiative.created", .refl true⟩ context.correlationId
    let tables ← recordChange context .createInitiative command.identity (.initiative record) audit arguments.occurredAt
      { tables with initiatives }
    return (tables, ⟨record, [audit], []⟩)

def updateInitiative (command : UpdateInitiative) (arguments : Arguments) (tables : DeliveryTables) :
    Except DomainError (DeliveryTables × DeliveryMutationOutcome Initiative) :=
  let context := command.context
  orRecorded context .updateInitiative command.agrees (decodeDeliveryInitiativeOutcome context tables) tables do
    let (registered, _) ← require (notFound context) (tables.initiative command.id)
    ensure (registered.version = command.expectedVersion) (staleVersion context registered.version)
    let classification ← raisedClassification context registered.classification command.classification
    let version ← require (versionExhausted context) command.expectedVersion.next
    let tables := { tables with
      initiatives := tables.initiatives.update command.id fun row =>
        { row with name := command.name, definedOutcome := command.definedOutcome } }
    let tables ← reviseAggregate context registered version classification arguments.occurredAt tables
    let audit := buildDeliveryAudit arguments.auditEventId arguments.occurredAt (.initiative command.id)
      ⟨"initiative.updated", .refl true⟩ context.correlationId
    let result : Initiative :=
      { id := command.id
        name := command.name
        definedOutcome := command.definedOutcome
        classification
        provenance := command.provenance
        version
        createdAt := registered.createdAt
        updatedAt := arguments.occurredAt }
    let tables ← recordChange context .updateInitiative command.identity (.initiative result) audit arguments.occurredAt
      tables
    readBack context .updateInitiative (decodeDeliveryInitiativeOutcome context) tables

def createProject (command : CreateProject) (arguments : Arguments) (tables : DeliveryTables) :
    Except DomainError (DeliveryTables × DeliveryMutationOutcome Project) :=
  let context := command.context
  orRecorded context .createProject (fun stored => stored = command.identity)
    (decodeDeliveryProjectOutcome context tables) tables do
    ensure (command.startAt ≤ command.endAt) (invalidPeriod context)
    ensure ((tables.registry.find command.id.asStr).isNone = true) (alreadyExists context)
    let record := command.record arguments.occurredAt
    let tables ← registerAggregate context command.id.asStr .project record.classification arguments.occurredAt tables
    ensure (0 ≤ command.startAt.unixMillis) (storageError context)
    let projects ← require (storageError context)
      (tables.projects.insert ⟨command.id, command.name, command.startAt, command.endAt, command.provenance⟩)
    let audit := buildDeliveryAudit arguments.auditEventId arguments.occurredAt (.project command.id)
      ⟨"project.created", .refl true⟩ context.correlationId
    let tables ← recordChange context .createProject command.identity (.project record) audit arguments.occurredAt
      { tables with projects }
    return (tables, ⟨record, [audit], []⟩)

/-- The Milestones of the Project that are less restricted than it becomes are raised with it. -/
def updateProject (command : UpdateProject) (arguments : Arguments) (tables : DeliveryTables) :
    Except DomainError (DeliveryTables × DeliveryMutationOutcome Project) :=
  let context := command.context
  orRecorded context .updateProject command.agrees (decodeDeliveryProjectOutcome context tables) tables do
    ensure (command.startAt ≤ command.endAt) (invalidPeriod context)
    let (registered, _) ← require (notFound context) (tables.project command.id)
    ensure (registered.version = command.expectedVersion) (staleVersion context registered.version)
    let classification ← raisedClassification context registered.classification command.classification
    let version ← require (versionExhausted context) command.expectedVersion.next
    ensure (0 ≤ command.startAt.unixMillis) (storageError context)
    let tables := { tables with
      projects := tables.projects.update command.id fun row =>
        { row with name := command.name, startAt := command.startAt, endAt := command.endAt } }
    let tables ← reviseAggregate context registered version classification arguments.occurredAt tables
    let audit := buildDeliveryAudit arguments.auditEventId arguments.occurredAt (.project command.id)
      ⟨"project.updated", .refl true⟩ context.correlationId
    let tables ← persistDeliveryAudit context audit (.project command.id) tables
    let operationOrdinal := tables.nextOperationOrdinal
    ensure (fitsInteger operationOrdinal) (storageError context)
    let tables ← persistDeliveryIdempotencyClaim context .updateProject arguments.occurredAt tables
    let affected := (tables.milestonesOf command.id).filter fun (milestone, _) =>
      classification.combine milestone.classification ≠ milestone.classification
    let (tables, raised) ← cascade context classification arguments 0 affected tables
    let result : Project :=
      { id := command.id
        name := command.name
        startAt := command.startAt
        endAt := command.endAt
        classification
        provenance := command.provenance
        version
        createdAt := registered.createdAt
        updatedAt := arguments.occurredAt }
    let derived := raised.map Prod.snd
    let tables ← recordResult context .updateProject command.identity (.project result) operationOrdinal
      (audit.id :: derived.map DerivedMilestoneMutation.auditEventId) derived tables
    let (tables, outcome) ← readBack context .updateProject (decodeDeliveryProjectOutcome context) tables
    return (tables, { outcome with cascadedMilestones := raised.map Prod.fst })

def createMilestone (command : CreateMilestone) (arguments : Arguments) (tables : DeliveryTables) :
    Except DomainError (DeliveryTables × DeliveryMutationOutcome Milestone) :=
  let context := command.context
  orRecorded context .createMilestone (fun stored => stored = command.identity)
    (decodeDeliveryMilestoneOutcome context tables) tables do
    ensure ((tables.registry.find command.id.asStr).isNone = true) (alreadyExists context)
    let (project, _) ← require (notFound context) (tables.project command.projectId)
    let record := command.record project.classification arguments.occurredAt
    let tables ← registerAggregate context command.id.asStr .milestone record.classification arguments.occurredAt tables
    ensure (0 ≤ command.dueAt.unixMillis) (storageError context)
    let milestones ← require (storageError context) (tables.milestones.insert
      ⟨command.id, command.projectId, command.name, command.verificationCriteria, command.dueAt, command.provenance⟩)
    let audit := buildDeliveryAudit arguments.auditEventId arguments.occurredAt (.milestone command.id)
      ⟨"milestone.created", .refl true⟩ context.correlationId
    let tables ← recordChange context .createMilestone command.identity (.milestone record) audit arguments.occurredAt
      { tables with milestones }
    return (tables, ⟨record, [audit], []⟩)

def updateMilestone (command : UpdateMilestone) (arguments : Arguments) (tables : DeliveryTables) :
    Except DomainError (DeliveryTables × DeliveryMutationOutcome Milestone) :=
  let context := command.context
  orRecorded context .updateMilestone command.agrees (decodeDeliveryMilestoneOutcome context tables) tables do
    let (registered, row) ← require (notFound context) (tables.milestone command.id)
    ensure (registered.version = command.expectedVersion) (staleVersion context registered.version)
    let requested ← raisedClassification context registered.classification command.classification
    let (project, _) ← require (storageError context) (tables.project row.projectId)
    let classification := project.classification.combine requested
    let version ← require (versionExhausted context) command.expectedVersion.next
    ensure (0 ≤ command.dueAt.unixMillis) (storageError context)
    let tables := { tables with
      milestones := tables.milestones.update command.id fun row =>
        { row with
          name := command.name
          verificationCriteria := command.verificationCriteria
          dueAt := command.dueAt } }
    let tables ← reviseAggregate context registered version classification arguments.occurredAt tables
    let audit := buildDeliveryAudit arguments.auditEventId arguments.occurredAt (.milestone command.id)
      ⟨"milestone.updated", .refl true⟩ context.correlationId
    let result : Milestone :=
      { id := command.id
        projectId := row.projectId
        name := command.name
        verificationCriteria := command.verificationCriteria
        dueAt := command.dueAt
        classification
        provenance := command.provenance
        version
        createdAt := registered.createdAt
        updatedAt := arguments.occurredAt }
    let tables ← recordChange context .updateMilestone command.identity (.milestone result) audit arguments.occurredAt tables
    readBack context .updateMilestone (decodeDeliveryMilestoneOutcome context) tables

end SqliteProductLedger

end MissionControl.Delivery

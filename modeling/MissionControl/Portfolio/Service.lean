import MissionControl.Portfolio.Record
import MissionControl.Delivery.Service

/-! The commands of the in-memory Portfolio service. A KPI definition that is written raises
its observations in the same commit; a lowering is previewed first and approved by digest,
and its preview stays where it is. -/

namespace MissionControl.Portfolio
open Checked Sorting
open Delivery (OperationContext Reading Ports LoweringTarget PrepareLowerClassification
  ApproveAndExecuteLowerClassification)

structure Service where
  state : PortfolioState
  failNextCommit : Bool
  preparedLowerings : KeyMap PreparedIntentId WorkManagementPreparedIntent
  preparedLoweringRequests : KeyMap IdempotencyId (CommandIdentity × PreparedIntentId)

def Service.new : Service := ⟨.new, false, ∅, ∅⟩

structure ErrorKeys where
  alreadyExists : MessageKey
  notFound : MessageKey
  notALowering : MessageKey
  preparedIntentIdUnavailable : MessageKey
  loweringInvalid : MessageKey
  approvalMismatch : MessageKey
  previewChanged : MessageKey
  approvalReceiptIdUnavailable : MessageKey
  approvalDenied : MessageKey

/-- What the commands on one kind of record use of it. -/
structure Family (Id Record : Type) [LinearOrder Id] where
  records : PortfolioState → KeyMap Id Record
  place : PortfolioState → Record → PortfolioState
  id : Record → Id
  version : Record → AggregateVersion
  classification : Record → DataClassification
  lowered : Record → DataClassification → AggregateVersion → UtcTimestamp → Record
  result : MutationOutcome Record → StoredResult
  result? : StoredResult → Option (MutationOutcome Record)
  auditTarget : Id → AuditTarget
  loweredCode : AuditEventCode
  operation : Id → AggregateVersion → DataClassification → DataClassification → WorkManagementRationale →
    WorkManagementOperation
  target : WorkManagementOperation → Option (LoweringTarget Id)
  prepareIdentity : Id → AggregateVersion → DataClassification → WorkManagementRationale → CommandIdentity
  executeIdentity : PreparedIntentId → AuditActor → WorkManagementPayloadDigest → CommandIdentity
  keys : ErrorKeys

def portfolios : Family PortfolioId PortfolioRecord where
  records := PortfolioState.portfolios
  place state value := { state with portfolios := state.portfolios.insert value.id value }
  id := PortfolioRecord.id
  version := PortfolioRecord.version
  classification := PortfolioRecord.classification
  lowered value classification version _ := { value with classification, version }
  result := .portfolio
  result?
    | .portfolio outcome => some outcome
    | _ => none
  auditTarget := .portfolio
  loweredCode := ⟨"portfolio.classification_lowered", by decide⟩
  operation := .lowerPortfolioClassification
  target
    | .lowerPortfolioClassification id version _ proposed rationale => some ⟨id, version, proposed, rationale⟩
    | _ => none
  prepareIdentity := .prepareLowerPortfolioClassification
  executeIdentity := .approveAndExecuteLowerPortfolioClassification
  keys :=
    { alreadyExists := ⟨"portfolio.already_exists", by decide⟩
      notFound := ⟨"portfolio.not_found", by decide⟩
      notALowering := ⟨"portfolio.classification_lowering_not_a_lowering", by decide⟩
      preparedIntentIdUnavailable := ⟨"portfolio.prepared_intent_id_unavailable", by decide⟩
      loweringInvalid := ⟨"portfolio.classification_lowering_invalid", by decide⟩
      approvalMismatch := ⟨"portfolio.classification_lowering_approval_mismatch", by decide⟩
      previewChanged := ⟨"portfolio.classification_lowering_preview_changed", by decide⟩
      approvalReceiptIdUnavailable := ⟨"portfolio.approval_receipt_id_unavailable", by decide⟩
      approvalDenied := ⟨"portfolio.classification_lowering_approval_denied", by decide⟩ }

def products : Family ProductId ProductRecord where
  records := PortfolioState.products
  place state value := { state with products := state.products.insert value.id value }
  id := ProductRecord.id
  version := ProductRecord.version
  classification := ProductRecord.classification
  lowered value classification version _ := { value with classification, version }
  result := .product
  result?
    | .product outcome => some outcome
    | _ => none
  auditTarget := .product
  loweredCode := ⟨"product.classification_lowered", by decide⟩
  operation := .lowerProductClassification
  target
    | .lowerProductClassification id version _ proposed rationale => some ⟨id, version, proposed, rationale⟩
    | _ => none
  prepareIdentity := .prepareLowerProductClassification
  executeIdentity := .approveAndExecuteLowerProductClassification
  keys :=
    { alreadyExists := ⟨"product.already_exists", by decide⟩
      notFound := ⟨"product.not_found", by decide⟩
      notALowering := ⟨"product.classification_lowering_not_a_lowering", by decide⟩
      preparedIntentIdUnavailable := ⟨"product.prepared_intent_id_unavailable", by decide⟩
      loweringInvalid := ⟨"product.classification_lowering_invalid", by decide⟩
      approvalMismatch := ⟨"product.classification_lowering_approval_mismatch", by decide⟩
      previewChanged := ⟨"product.classification_lowering_preview_changed", by decide⟩
      approvalReceiptIdUnavailable := ⟨"product.approval_receipt_id_unavailable", by decide⟩
      approvalDenied := ⟨"product.classification_lowering_approval_denied", by decide⟩ }

def roadmaps : Family RoadmapId RoadmapRecord where
  records := PortfolioState.roadmaps
  place state value := { state with roadmaps := state.roadmaps.insert value.id value }
  id := RoadmapRecord.id
  version := RoadmapRecord.version
  classification := RoadmapRecord.classification
  lowered value classification version _ := { value with classification, version }
  result := .roadmap
  result?
    | .roadmap outcome => some outcome
    | _ => none
  auditTarget := .roadmap
  loweredCode := ⟨"roadmap.classification_lowered", by decide⟩
  operation := .lowerRoadmapClassification
  target
    | .lowerRoadmapClassification id version _ proposed rationale => some ⟨id, version, proposed, rationale⟩
    | _ => none
  prepareIdentity := .prepareLowerRoadmapClassification
  executeIdentity := .approveAndExecuteLowerRoadmapClassification
  keys :=
    { alreadyExists := ⟨"roadmap.already_exists", by decide⟩
      notFound := ⟨"roadmap.not_found", by decide⟩
      notALowering := ⟨"roadmap.classification_lowering_not_a_lowering", by decide⟩
      preparedIntentIdUnavailable := ⟨"roadmap.prepared_intent_id_unavailable", by decide⟩
      loweringInvalid := ⟨"roadmap.classification_lowering_invalid", by decide⟩
      approvalMismatch := ⟨"roadmap.classification_lowering_approval_mismatch", by decide⟩
      previewChanged := ⟨"roadmap.classification_lowering_preview_changed", by decide⟩
      approvalReceiptIdUnavailable := ⟨"roadmap.approval_receipt_id_unavailable", by decide⟩
      approvalDenied := ⟨"roadmap.classification_lowering_approval_denied", by decide⟩ }

def kpis : Family KpiId KpiDefinitionRecord where
  records := PortfolioState.kpis
  place state value := { state with kpis := state.kpis.insert value.id value }
  id := KpiDefinitionRecord.id
  version := KpiDefinitionRecord.version
  classification := KpiDefinitionRecord.classification
  lowered value classification version _ := { value with classification, version }
  result := .kpi
  result?
    | .kpi outcome => some outcome
    | _ => none
  auditTarget := .kpi
  loweredCode := ⟨"kpi.classification_lowered", by decide⟩
  operation := .lowerKpiClassification
  target
    | .lowerKpiClassification id version _ proposed rationale => some ⟨id, version, proposed, rationale⟩
    | _ => none
  prepareIdentity := .prepareLowerKpiClassification
  executeIdentity := .approveAndExecuteLowerKpiClassification
  keys :=
    { alreadyExists := ⟨"kpi.already_exists", by decide⟩
      notFound := ⟨"kpi.not_found", by decide⟩
      notALowering := ⟨"kpi.classification_lowering_not_a_lowering", by decide⟩
      preparedIntentIdUnavailable := ⟨"kpi.prepared_intent_id_unavailable", by decide⟩
      loweringInvalid := ⟨"kpi.classification_lowering_invalid", by decide⟩
      approvalMismatch := ⟨"kpi.classification_lowering_approval_mismatch", by decide⟩
      previewChanged := ⟨"kpi.classification_lowering_preview_changed", by decide⟩
      approvalReceiptIdUnavailable := ⟨"kpi.approval_receipt_id_unavailable", by decide⟩
      approvalDenied := ⟨"kpi.classification_lowering_approval_denied", by decide⟩ }

def observations : Family KpiObservationId KpiObservationRecord where
  records := PortfolioState.observations
  place state value := { state with observations := state.observations.insert value.id value }
  id := KpiObservationRecord.id
  version := KpiObservationRecord.version
  classification := KpiObservationRecord.classification
  lowered value classification version occurredAt :=
    { value with classification, version, updatedAt := max occurredAt value.updatedAt }
  result := .observation
  result?
    | .observation outcome => some outcome
    | _ => none
  auditTarget := .kpiObservation
  loweredCode := ⟨"kpi.observation.classification_lowered", by decide⟩
  operation := .lowerKpiObservationClassification
  target
    | .lowerKpiObservationClassification id version _ proposed rationale => some ⟨id, version, proposed, rationale⟩
    | _ => none
  prepareIdentity := .prepareLowerKpiObservationClassification
  executeIdentity := .approveAndExecuteLowerKpiObservationClassification
  keys :=
    { alreadyExists := ⟨"kpi.observation.already_exists", by decide⟩
      notFound := ⟨"kpi.observation.not_found", by decide⟩
      notALowering := ⟨"kpi.observation.classification_lowering_not_a_lowering", by decide⟩
      preparedIntentIdUnavailable := ⟨"kpi.observation.prepared_intent_id_unavailable", by decide⟩
      loweringInvalid := ⟨"kpi.observation.classification_lowering_invalid", by decide⟩
      approvalMismatch := ⟨"kpi.observation.classification_lowering_approval_mismatch", by decide⟩
      previewChanged := ⟨"kpi.observation.classification_lowering_preview_changed", by decide⟩
      approvalReceiptIdUnavailable := ⟨"kpi.observation.approval_receipt_id_unavailable", by decide⟩
      approvalDenied := ⟨"kpi.observation.classification_lowering_approval_denied", by decide⟩ }

/-- What a command decided: an answer given before, or an answer and the state to commit
under the ordinal of the operation. -/
inductive Decision (Record : Type) where
  | replayed (outcome : MutationOutcome Record)
  | committed (outcome : MutationOutcome Record) (next : Nat → PortfolioState)

section
variable (context : OperationContext)

def ensureVersion (actual expected : AggregateVersion) : Except DomainError Unit :=
  ensure (actual = expected)
    ((operationError .domainConflict ⟨"portfolio.stale_version", by decide⟩ context).withExtension (.currentVersion actual))

def nextVersion (version : AggregateVersion) : Except DomainError AggregateVersion :=
  require (operationError .domainConflict ⟨"portfolio.version_exhausted", by decide⟩ context) version.next

def ensureClassificationNotLowered (current requested : DataClassification) : Except DomainError Unit :=
  ensure (requested.combine current = requested)
    (operationError .securityPolicyDenied ⟨"classification.lowering_requires_governed_intent", .refl true⟩ context)

/-- The classification after an update that may ask for another one. -/
def requestedClassification (current : DataClassification) :
    Option DataClassification → Except DomainError DataClassification
  | none => return current
  | some requested => do
    ensureClassificationNotLowered context current requested
    return requested

def isGenuineLowering (current proposed : DataClassification) : Prop := proposed.combine current ≠ proposed

instance (current proposed : DataClassification) : Decidable (isGenuineLowering current proposed) :=
  inferInstanceAs (Decidable (_ ≠ _))

def replay (state : PortfolioState) (command : CommandIdentity) : Except DomainError (Option StoredResult) :=
  match state.outcomes[context.idempotencyId]? with
  | none => .ok none
  | some stored => if stored.command = command then .ok (some stored.result) else .error (idempotencyError context)

def recordMutated : AuditEffectCode := ⟨"portfolio-record-mutated", by decide⟩

def prepareAudit (ports : Ports) (draw : Nat) (target : AuditTarget) (code : AuditEventCode)
    (occurredAt : UtcTimestamp) : Except DomainError AuditEvent := do
  let eventId ← require (operationError .platformInternal ⟨"portfolio.audit_id_unavailable", by decide⟩ context)
    (ports.nextAuditEventId draw)
  let disposition ← relabel
    (fun _ => operationError .platformInternal ⟨"portfolio.audit_id_unavailable", by decide⟩ context)
    (AuditDisposition.new .notRequired .notRequired .succeeded .complete [recordMutated])
  return .new eventId occurredAt .headOfProducts ⟨.portfolio, code, target⟩ context.correlationId disposition

def remember (command : CommandIdentity) (result : StoredResult) (events : List AuditEvent)
    (derived : List DerivedKpiObservationMutation) (state : PortfolioState) (operationOrdinal : Nat) : PortfolioState :=
  { state with
    auditEvents := state.auditEvents ++ events
    nextOperationOrdinal := operationOrdinal + 1
    outcomes := state.outcomes.insert context.idempotencyId
      { command
        result
        correlationId := context.correlationId
        auditEventIds := events.map (·.id)
        operationOrdinal
        derivedKpiObservationMutations := derived } }

variable {Id Record : Type} [LinearOrder Id] (family : Family Id Record)

/-- An answer of another kind than the command's own is a conflict. -/
def orReplayed (state : PortfolioState) (command : CommandIdentity) (fresh : Except DomainError (Decision Record)) :
    Except DomainError (Decision Record) := do
  match ← replay context state command with
  | none => fresh
  | some stored => .replayed <$> require (idempotencyError context) (family.result? stored)

def commit (ports : Ports) (command : CommandIdentity) (code : AuditEventCode) (occurredAt : UtcTimestamp)
    (record : Record) (state : PortfolioState) : Except DomainError (Decision Record) := do
  let audit ← prepareAudit context ports 0 (family.auditTarget (family.id record)) code occurredAt
  let outcome : MutationOutcome Record := ⟨record, audit⟩
  return .committed outcome (remember context command (family.result outcome) [audit] [] (family.place state record))

/-- The observations of a KPI definition that are less restricted than it, in the order of
their ids. -/
def affected (record : KpiDefinitionRecord) (state : PortfolioState) : List KpiObservationRecord :=
  sortBy (fun one other => compare one.id other.id) ((KeyMap.held state.observations).filter fun observation =>
    observation.kpiId = record.id ∧ record.classification.combine observation.classification ≠ observation.classification)

def inherited (ports : Ports) (record : KpiDefinitionRecord) (now : UtcTimestamp) (draw : Nat)
    (observation : KpiObservationRecord) :
    Except DomainError (KpiObservationRecord × AuditEvent × DerivedKpiObservationMutation) := do
  let resultingVersion ← nextVersion context observation.version
  let resultingClassification := record.classification.combine observation.classification
  let audit ← prepareAudit context ports draw (.kpiObservation observation.id)
    ⟨"kpi.observation.classification.inherited", by decide⟩ now
  let resultingUpdatedAt := max now observation.updatedAt
  return (
    { observation with
      version := resultingVersion
      classification := resultingClassification
      updatedAt := resultingUpdatedAt },
    audit,
    { observationId := observation.id
      previousVersion := observation.version
      resultingVersion
      previousClassification := observation.classification
      resultingClassification
      previousUpdatedAt := observation.updatedAt
      resultingUpdatedAt
      auditEventId := audit.id })

def inheritAll (ports : Ports) (record : KpiDefinitionRecord) (now : UtcTimestamp) : Nat → List KpiObservationRecord →
    Except DomainError (List (KpiObservationRecord × AuditEvent × DerivedKpiObservationMutation))
  | _, [] => return []
  | draw, observation :: rest => do
    let raised ← inherited context ports record now draw observation
    let others ← inheritAll ports record now (draw + 1) rest
    return raised :: others

def commitKpi (ports : Ports) (command : CommandIdentity) (code : AuditEventCode) (now : UtcTimestamp)
    (record : KpiDefinitionRecord) (state : PortfolioState) : Except DomainError (Decision KpiDefinitionRecord) := do
  let audit ← prepareAudit context ports 0 (.kpi record.id) code now
  let raised ← inheritAll context ports record now 1 (affected record state)
  let outcome : MutationOutcome KpiDefinitionRecord := ⟨record, audit⟩
  return .committed outcome (remember context command (.kpi outcome) (audit :: raised.map (·.2.1)) (raised.map (·.2.2))
    ((raised.map Prod.fst).foldl observations.place (kpis.place state record)))

/-- The injected failure comes first, then the ordinal; nothing is put in place before both. -/
def settle (service : Service) : Except DomainError (Decision Record) →
    Service × Except DomainError (MutationOutcome Record)
  | .error cause => (service, .error cause)
  | .ok (.replayed outcome) => (service, .ok outcome)
  | .ok (.committed outcome next) =>
    if service.failNextCommit then
      ({ service with failNextCommit := false },
        .error (operationError .platformInternal ⟨"portfolio.repository_unavailable", by decide⟩ context))
    else if service.state.nextOperationOrdinal + 1 < 2 ^ 64 then
      ({ service with state := next service.state.nextOperationOrdinal }, .ok outcome)
    else
      (service, .error (operationError .platformInternal ⟨"portfolio.operation_ordinal_exhausted", by decide⟩ context))

end

section
variable {Id Record : Type} [LinearOrder Id] (family : Family Id Record)

abbrev Write (Record : Type) := Ports → CommandIdentity → AuditEventCode → UtcTimestamp → Record → PortfolioState →
  Except DomainError (Decision Record)

def stageCreate (write : Write Record) (context : OperationContext) (command : CommandIdentity) (code : AuditEventCode)
    (record : Record) (state : PortfolioState) (ports : Ports) : Except DomainError (Decision Record) :=
  orReplayed context family state command do
    ensure ((family.records state)[family.id record]? = none)
      (operationError .domainConflict family.keys.alreadyExists context)
    write ports command code (ports.now .recording) record state

def stageUpdate (write : Write Record) (context : OperationContext) (command : CommandIdentity) (code : AuditEventCode)
    (id : Id) (expectedVersion : AggregateVersion) (requested : Option DataClassification)
    (change : Record → AggregateVersion → DataClassification → Record) (state : PortfolioState) (ports : Ports) :
    Except DomainError (Decision Record) :=
  orReplayed context family state command do
    let record ← require (operationError .domainNotFound family.keys.notFound context) (family.records state)[id]?
    ensureVersion context (family.version record) expectedVersion
    let version ← nextVersion context (family.version record)
    let classification ← requestedClassification context (family.classification record) requested
    write ports command code (ports.now .recording) (change record version classification) state

end

def stageCreatePortfolio (intent : CreatePortfolio) : PortfolioState → Ports → Except DomainError (Decision PortfolioRecord) :=
  stageCreate portfolios (commit intent.context portfolios) intent.context
    (.createPortfolio intent.id intent.name intent.details intent.classification intent.provenance)
    ⟨"portfolio.created", by decide⟩
    { id := intent.id
      name := intent.name
      details := intent.details
      classification := intent.classification.getD .unclassified
      provenance := intent.provenance
      version := .initial }

def stageUpdatePortfolioDetails (intent : UpdatePortfolioDetails) :
    PortfolioState → Ports → Except DomainError (Decision PortfolioRecord) :=
  stageUpdate portfolios (commit intent.context portfolios) intent.context
    (.updatePortfolio intent.id intent.expectedVersion intent.name intent.details intent.classification)
    ⟨"portfolio.updated", by decide⟩ intent.id intent.expectedVersion intent.classification
    fun record version classification => { record with version, name := intent.name, details := intent.details, classification }

def stageCreateProduct (intent : CreateProduct) : PortfolioState → Ports → Except DomainError (Decision ProductRecord) :=
  stageCreate products (commit intent.context products) intent.context
    (.createProduct intent.id intent.name intent.details intent.classification intent.provenance)
    ⟨"product.created", by decide⟩
    { id := intent.id
      name := intent.name
      details := intent.details
      classification := intent.classification.getD .unclassified
      provenance := intent.provenance
      version := .initial }

def stageUpdateProductDetails (intent : UpdateProductDetails) :
    PortfolioState → Ports → Except DomainError (Decision ProductRecord) :=
  stageUpdate products (commit intent.context products) intent.context
    (.updateProduct intent.id intent.expectedVersion intent.name intent.details intent.classification)
    ⟨"product.updated", by decide⟩ intent.id intent.expectedVersion intent.classification
    fun record version classification => { record with version, name := intent.name, details := intent.details, classification }

def stageCreateRoadmap (intent : CreateRoadmap) : PortfolioState → Ports → Except DomainError (Decision RoadmapRecord) :=
  stageCreate roadmaps (commit intent.context roadmaps) intent.context
    (.createRoadmap intent.id intent.name intent.details intent.classification intent.provenance)
    ⟨"roadmap.created", by decide⟩
    { id := intent.id
      name := intent.name
      details := intent.details
      classification := intent.classification.getD .unclassified
      provenance := intent.provenance
      version := .initial }

def stageUpdateRoadmapDetails (intent : UpdateRoadmapDetails) :
    PortfolioState → Ports → Except DomainError (Decision RoadmapRecord) :=
  stageUpdate roadmaps (commit intent.context roadmaps) intent.context
    (.updateRoadmap intent.id intent.expectedVersion intent.name intent.details intent.classification)
    ⟨"roadmap.updated", by decide⟩ intent.id intent.expectedVersion intent.classification
    fun record version classification => { record with version, name := intent.name, details := intent.details, classification }

def stageCreateKpiDefinition (intent : CreateKpiDefinition) :
    PortfolioState → Ports → Except DomainError (Decision KpiDefinitionRecord) :=
  stageCreate kpis (commitKpi intent.context) intent.context
    (.createKpi intent.id intent.name intent.definition intent.owner intent.target intent.cadence intent.source
      intent.classification intent.provenance)
    ⟨"kpi.definition.created", by decide⟩
    { id := intent.id
      name := intent.name
      definition := intent.definition
      owner := intent.owner
      target := intent.target
      cadence := intent.cadence
      source := intent.source
      classification := intent.classification.getD .unclassified
      provenance := intent.provenance
      version := .initial }

def stageUpdateKpiDefinitionDetails (intent : UpdateKpiDefinitionDetails) :
    PortfolioState → Ports → Except DomainError (Decision KpiDefinitionRecord) :=
  stageUpdate kpis (commitKpi intent.context) intent.context
    (.updateKpi intent.id intent.expectedVersion intent.name intent.definition intent.owner intent.target intent.cadence
      intent.source intent.classification)
    ⟨"kpi.definition.updated", by decide⟩ intent.id intent.expectedVersion intent.classification
    fun record version classification =>
      { record with
        version
        name := intent.name
        definition := intent.definition
        owner := intent.owner
        target := intent.target
        cadence := intent.cadence
        source := intent.source
        classification }

def stageCreateKpiObservation (intent : CreateKpiObservation) (state : PortfolioState) (ports : Ports) :
    Except DomainError (Decision KpiObservationRecord) :=
  let context := intent.context
  let command := .createObservation intent.id intent.kpiId intent.value intent.observedAt intent.source
    intent.classification intent.provenance
  orReplayed context observations state command do
    ensure (state.observations[intent.id]? = none)
      (operationError .domainConflict observations.keys.alreadyExists context)
    let definition ← require (operationError .domainNotFound kpis.keys.notFound context) state.kpis[intent.kpiId]?
    let now := ports.now .recording
    commit context observations ports command ⟨"kpi.observation.created", by decide⟩ now
      { id := intent.id
        kpiId := intent.kpiId
        value := intent.value
        observedAt := intent.observedAt
        source := intent.source
        classification := match intent.classification with
          | none => definition.classification
          | some value => value.combine definition.classification
        provenance := intent.provenance
        version := .initial
        createdAt := now
        updatedAt := now } state

def stageUpdateKpiObservationDetails (intent : UpdateKpiObservationDetails) (state : PortfolioState) (ports : Ports) :
    Except DomainError (Decision KpiObservationRecord) :=
  let context := intent.context
  let command := .updateObservation intent.id intent.expectedVersion intent.value intent.observedAt intent.source
    intent.classification
  orReplayed context observations state command do
    let record ← require (operationError .domainNotFound observations.keys.notFound context) state.observations[intent.id]?
    ensureVersion context record.version intent.expectedVersion
    let version ← nextVersion context record.version
    let operationOccurredAt := ports.now .recording
    let requested ← requestedClassification context record.classification intent.classification
    let definition ← require (operationError .domainNotFound kpis.keys.notFound context) state.kpis[record.kpiId]?
    commit context observations ports command ⟨"kpi.observation.updated", by decide⟩ operationOccurredAt
      { record with
        version
        value := intent.value
        observedAt := intent.observedAt
        source := intent.source
        updatedAt := max operationOccurredAt record.updatedAt
        classification := requested.combine definition.classification } state

section
variable {Id Record : Type} [LinearOrder Id] (family : Family Id Record)

/-- The preview of a lowering. What was prepared under the same idempotency id is given
again. -/
def prepareLowerClassification (service : Service) (ports : Ports) (intent : PrepareLowerClassification Id) :
    Service × Except DomainError WorkManagementPreparedIntent :=
  let context := intent.context
  let command := family.prepareIdentity intent.id intent.expectedVersion intent.proposedClassification intent.rationale
  match service.preparedLoweringRequests[context.idempotencyId]? with
  | some (stored, preparedId) =>
    (service, if stored = command then require (idempotencyError context) service.preparedLowerings[preparedId]?
      else .error (idempotencyError context))
  | none =>
    let checked : Except DomainError Record := do
      let record ← require (operationError .domainNotFound family.keys.notFound context)
        (family.records service.state)[intent.id]?
      ensureVersion context (family.version record) intent.expectedVersion
      ensure (isGenuineLowering (family.classification record) intent.proposedClassification)
        (operationError .domainConflict family.keys.notALowering context)
      return record
    match checked with
    | .error cause => (service, .error cause)
    | .ok record =>
      if service.failNextCommit then
        ({ service with failNextCommit := false },
          .error (operationError .platformInternal ⟨"portfolio.repository_unavailable", .refl true⟩ context))
      else
        let prepared : Except DomainError WorkManagementPreparedIntent := do
          let id ← require (operationError .platformInternal family.keys.preparedIntentIdUnavailable context)
            ports.nextPreparedIntentId
          relabel (fun _ => operationError .domainConflict family.keys.loweringInvalid context)
            (WorkManagementPreparedIntent.prepare id
              (family.operation (family.id record) (family.version record) (family.classification record)
                intent.proposedClassification intent.rationale)
              (family.classification record) none (ports.now .preparation))
        match prepared with
        | .error cause => (service, .error cause)
        | .ok prepared =>
          ({ service with
            preparedLowerings := service.preparedLowerings.insert prepared.id prepared
            preparedLoweringRequests := service.preparedLoweringRequests.insert context.idempotencyId
              (command, prepared.id) }, .ok prepared)

variable [Sha256]

def validationFailure (context : OperationContext) : WorkManagementApprovalValidationError → DomainError
  | .unauthorized => operationError .securityPolicyDenied family.keys.approvalDenied context
  | .preparedIntentMismatch | .digestMismatch | .expired | .previewChanged =>
    operationError .securityPreviewExpiredOrChanged family.keys.previewChanged context

def mint (context : OperationContext) (ports : Ports) (prepared : WorkManagementPreparedIntent)
    (approval : WorkManagementApproval) (operation : WorkManagementOperation) (classification : DataClassification) :
    Except DomainError WorkManagementApprovalReceipt := do
  let fresh ← relabel (fun _ => operationError .domainConflict family.keys.previewChanged context)
    (WorkManagementPreparedIntent.prepare prepared.id operation classification none (ports.now .preparation))
  let receiptId ← require (operationError .platformInternal family.keys.approvalReceiptIdUnavailable context)
    ports.nextApprovalReceiptId
  relabel (validationFailure family context)
    (validateAndMintWorkManagementH2aReceipt prepared approval
      { operation
        classification := fresh.preview.classification
        classificationSources := fresh.preview.classificationSources
        support := none
        policy := .allowed }
      (ports.now .minting) receiptId ports.authorize)

def stageLowerClassification (write : OperationContext → Write Record) (service : Service) (ports : Ports)
    (intent : ApproveAndExecuteLowerClassification) : Except DomainError (Decision Record) := do
  let approval := intent.approval
  let context := intent.context
  ensure (approval.idempotencyId = context.idempotencyId)
    (operationError .domainConflict family.keys.approvalMismatch context)
  let command := family.executeIdentity approval.preparedId approval.actor approval.acknowledgedPayloadDigest
  orReplayed context family service.state command do
    let prepared ← require (operationError .domainConflict family.keys.previewChanged context)
      service.preparedLowerings[approval.preparedId]?
    let target ← require (operationError .domainConflict family.keys.previewChanged context)
      (family.target prepared.operation)
    let record ← require (operationError .domainNotFound family.keys.notFound context)
      (family.records service.state)[target.id]?
    ensure (family.version record = target.version)
      ((operationError .securityPreviewExpiredOrChanged family.keys.previewChanged context).withExtension
        (.currentVersion (family.version record)))
    let _ ← mint family context ports prepared approval
      (family.operation target.id (family.version record) (family.classification record)
        target.proposedClassification target.rationale) (family.classification record)
    let version ← nextVersion context (family.version record)
    let now := ports.now .recording
    write context ports command family.loweredCode now (family.lowered record target.proposedClassification version now)
      service.state

def approveAndExecuteLowerClassification (write : OperationContext → Write Record) (service : Service) (ports : Ports)
    (intent : ApproveAndExecuteLowerClassification) : Service × Except DomainError (MutationOutcome Record) :=
  settle intent.context service (stageLowerClassification family write service ports intent)

end

section
variable (service : Service) (ports : Ports)

def createPortfolio (intent : CreatePortfolio) :=
  settle intent.context service (stageCreatePortfolio intent service.state ports)

def updatePortfolioDetails (intent : UpdatePortfolioDetails) :=
  settle intent.context service (stageUpdatePortfolioDetails intent service.state ports)

def createProduct (intent : CreateProduct) :=
  settle intent.context service (stageCreateProduct intent service.state ports)

def updateProductDetails (intent : UpdateProductDetails) :=
  settle intent.context service (stageUpdateProductDetails intent service.state ports)

def createRoadmap (intent : CreateRoadmap) :=
  settle intent.context service (stageCreateRoadmap intent service.state ports)

def updateRoadmapDetails (intent : UpdateRoadmapDetails) :=
  settle intent.context service (stageUpdateRoadmapDetails intent service.state ports)

def createKpiDefinition (intent : CreateKpiDefinition) :=
  settle intent.context service (stageCreateKpiDefinition intent service.state ports)

def updateKpiDefinitionDetails (intent : UpdateKpiDefinitionDetails) :=
  settle intent.context service (stageUpdateKpiDefinitionDetails intent service.state ports)

def createKpiObservation (intent : CreateKpiObservation) :=
  settle intent.context service (stageCreateKpiObservation intent service.state ports)

def updateKpiObservationDetails (intent : UpdateKpiObservationDetails) :=
  settle intent.context service (stageUpdateKpiObservationDetails intent service.state ports)

end

def prepareLowerPortfolioClassification := prepareLowerClassification portfolios
def prepareLowerProductClassification := prepareLowerClassification products
def prepareLowerRoadmapClassification := prepareLowerClassification roadmaps
def prepareLowerKpiClassification := prepareLowerClassification kpis
def prepareLowerKpiObservationClassification := prepareLowerClassification observations

section
variable [Sha256]

def approveAndExecuteLowerPortfolioClassification :=
  approveAndExecuteLowerClassification portfolios fun context => commit context portfolios

def approveAndExecuteLowerProductClassification :=
  approveAndExecuteLowerClassification products fun context => commit context products

def approveAndExecuteLowerRoadmapClassification :=
  approveAndExecuteLowerClassification roadmaps fun context => commit context roadmaps

def approveAndExecuteLowerKpiClassification := approveAndExecuteLowerClassification kpis commitKpi

def approveAndExecuteLowerKpiObservationClassification :=
  approveAndExecuteLowerClassification observations fun context => commit context observations

end

inductive Operation where
  | createPortfolio (intent : CreatePortfolio)
  | updatePortfolioDetails (intent : UpdatePortfolioDetails)
  | createProduct (intent : CreateProduct)
  | updateProductDetails (intent : UpdateProductDetails)
  | createRoadmap (intent : CreateRoadmap)
  | updateRoadmapDetails (intent : UpdateRoadmapDetails)
  | createKpiDefinition (intent : CreateKpiDefinition)
  | updateKpiDefinitionDetails (intent : UpdateKpiDefinitionDetails)
  | createKpiObservation (intent : CreateKpiObservation)
  | updateKpiObservationDetails (intent : UpdateKpiObservationDetails)
  | prepareLowerPortfolioClassification (intent : PrepareLowerClassification PortfolioId)
  | prepareLowerProductClassification (intent : PrepareLowerClassification ProductId)
  | prepareLowerRoadmapClassification (intent : PrepareLowerClassification RoadmapId)
  | prepareLowerKpiClassification (intent : PrepareLowerClassification KpiId)
  | prepareLowerKpiObservationClassification (intent : PrepareLowerClassification KpiObservationId)
  | approveAndExecuteLowerPortfolioClassification (intent : ApproveAndExecuteLowerClassification)
  | approveAndExecuteLowerProductClassification (intent : ApproveAndExecuteLowerClassification)
  | approveAndExecuteLowerRoadmapClassification (intent : ApproveAndExecuteLowerClassification)
  | approveAndExecuteLowerKpiClassification (intent : ApproveAndExecuteLowerClassification)
  | approveAndExecuteLowerKpiObservationClassification (intent : ApproveAndExecuteLowerClassification)
  | injectNextCommitFailure

inductive Response where
  | portfolio (answer : Except DomainError (MutationOutcome PortfolioRecord))
  | product (answer : Except DomainError (MutationOutcome ProductRecord))
  | roadmap (answer : Except DomainError (MutationOutcome RoadmapRecord))
  | kpi (answer : Except DomainError (MutationOutcome KpiDefinitionRecord))
  | observation (answer : Except DomainError (MutationOutcome KpiObservationRecord))
  | prepared (answer : Except DomainError WorkManagementPreparedIntent)
  | injected

def Response.refused : Response → Bool
  | .portfolio (.error _) | .product (.error _) | .roadmap (.error _) | .kpi (.error _) | .observation (.error _)
  | .prepared (.error _) => true
  | _ => false

def step [Sha256] (service : Service) (ports : Ports) : Operation → Service × Response
  | .createPortfolio intent => (createPortfolio service ports intent).map id .portfolio
  | .updatePortfolioDetails intent => (updatePortfolioDetails service ports intent).map id .portfolio
  | .createProduct intent => (createProduct service ports intent).map id .product
  | .updateProductDetails intent => (updateProductDetails service ports intent).map id .product
  | .createRoadmap intent => (createRoadmap service ports intent).map id .roadmap
  | .updateRoadmapDetails intent => (updateRoadmapDetails service ports intent).map id .roadmap
  | .createKpiDefinition intent => (createKpiDefinition service ports intent).map id .kpi
  | .updateKpiDefinitionDetails intent => (updateKpiDefinitionDetails service ports intent).map id .kpi
  | .createKpiObservation intent => (createKpiObservation service ports intent).map id .observation
  | .updateKpiObservationDetails intent => (updateKpiObservationDetails service ports intent).map id .observation
  | .prepareLowerPortfolioClassification intent =>
    (prepareLowerPortfolioClassification service ports intent).map id .prepared
  | .prepareLowerProductClassification intent => (prepareLowerProductClassification service ports intent).map id .prepared
  | .prepareLowerRoadmapClassification intent => (prepareLowerRoadmapClassification service ports intent).map id .prepared
  | .prepareLowerKpiClassification intent => (prepareLowerKpiClassification service ports intent).map id .prepared
  | .prepareLowerKpiObservationClassification intent =>
    (prepareLowerKpiObservationClassification service ports intent).map id .prepared
  | .approveAndExecuteLowerPortfolioClassification intent =>
    (approveAndExecuteLowerPortfolioClassification service ports intent).map id .portfolio
  | .approveAndExecuteLowerProductClassification intent =>
    (approveAndExecuteLowerProductClassification service ports intent).map id .product
  | .approveAndExecuteLowerRoadmapClassification intent =>
    (approveAndExecuteLowerRoadmapClassification service ports intent).map id .roadmap
  | .approveAndExecuteLowerKpiClassification intent =>
    (approveAndExecuteLowerKpiClassification service ports intent).map id .kpi
  | .approveAndExecuteLowerKpiObservationClassification intent =>
    (approveAndExecuteLowerKpiObservationClassification service ports intent).map id .observation
  | .injectNextCommitFailure => ({ service with failNextCommit := true }, .injected)

end MissionControl.Portfolio

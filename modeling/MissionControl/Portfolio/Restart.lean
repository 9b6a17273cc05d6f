import MissionControl.Portfolio.Service

/-! What the Portfolio service hands to a store, the check that such a snapshot must pass, and
the service that is made of it. The check replays every command that was carried out. -/

namespace MissionControl.Portfolio
open Checked Sorting
open Evidence (Provenance)

structure PortfolioReplayCapsule where
  idempotencyId : IdempotencyId
  command : CommandIdentity
  result : StoredResult
  correlationId : CorrelationId
  auditEventIds : List AuditEventId
  operationOrdinal : Nat
  derivedKpiObservationMutations : List DerivedKpiObservationMutation

structure PortfolioPersistenceSnapshot where
  portfolios : List PortfolioRecord
  products : List ProductRecord
  roadmaps : List RoadmapRecord
  kpiDefinitions : List KpiDefinitionRecord
  kpiObservations : List KpiObservationRecord
  replay : List PortfolioReplayCapsule
  audits : List AuditEvent

inductive PortfolioRehydrationError where
  | duplicateRecord
  | missingParent
  | duplicateAuditEvent
  | duplicateIdempotency
  | resultMismatch
  | versionLineageMismatch
  | classificationMismatch
  | auditMismatch
  | orphanAuditEvent

section
variable {Id Record : Type} [LinearOrder Id]

/-- What a Portfolio, a Product and a Roadmap have in common. -/
structure SimplePersistenceRecord (Id Record : Type) [LinearOrder Id] where
  family : Family Id Record
  name : Record → ShortText
  details : Record → LongText
  provenance : Record → Provenance

def simplePortfolios : SimplePersistenceRecord PortfolioId PortfolioRecord :=
  ⟨portfolios, (·.name), (·.details), (·.provenance)⟩

def simpleProducts : SimplePersistenceRecord ProductId ProductRecord := ⟨products, (·.name), (·.details), (·.provenance)⟩

def simpleRoadmaps : SimplePersistenceRecord RoadmapId RoadmapRecord := ⟨roadmaps, (·.name), (·.details), (·.provenance)⟩

/-- What a capsule stands for: the event of its outcome, as it has to be, and the records
after it. Of the state that carries them only the records count. -/
structure Verdict where
  outcomeAudit : AuditEvent
  target : AuditTarget
  code : AuditEventCode
  records : PortfolioState

variable (simple : SimplePersistenceRecord Id Record)

def simpleCreated (code : AuditEventCode) (id : Id) (name : ShortText) (details : LongText)
    (classification : Option DataClassification) (provenance : Provenance) (outcome : MutationOutcome Record)
    (records : PortfolioState) : Except PortfolioRehydrationError Verdict := do
  let value := outcome.record
  ensure (simple.family.id value = id ∧ simple.name value = name ∧ simple.details value = details ∧
    simple.family.classification value = classification.getD .unclassified ∧ simple.provenance value = provenance ∧
    simple.family.version value = .initial ∧ (simple.family.records records)[simple.family.id value]? = none) .resultMismatch
  return ⟨outcome.auditEvent, simple.family.auditTarget id, code, simple.family.place records value⟩

def validateSimpleUpdate (previous value : Record) (expected : AggregateVersion) (name : ShortText) (details : LongText)
    (classification : Option DataClassification) : Except PortfolioRehydrationError Unit :=
  ensure (simple.family.version previous = expected ∧ expected.next = some (simple.family.version value) ∧
    simple.family.id value = simple.family.id previous ∧ simple.name value = name ∧ simple.details value = details ∧
    simple.provenance value = simple.provenance previous ∧
    (simple.family.classification previous).combine (simple.family.classification value) = simple.family.classification value ∧
    simple.family.classification value = classification.getD (simple.family.classification previous)) .resultMismatch

def simpleUpdated (code : AuditEventCode) (id : Id) (expected : AggregateVersion) (name : ShortText) (details : LongText)
    (classification : Option DataClassification) (outcome : MutationOutcome Record) (records : PortfolioState) :
    Except PortfolioRehydrationError Verdict := do
  let previous ← require .versionLineageMismatch (simple.family.records records)[id]?
  validateSimpleUpdate simple previous outcome.record expected name details classification
  return ⟨outcome.auditEvent, simple.family.auditTarget id, code, simple.family.place records outcome.record⟩

end

section
variable (audits : List AuditEvent)

def auditOf (id : AuditEventId) : Option AuditEvent := audits.find? (·.id = id)

def RecordsMutation (event : AuditEvent) (code : AuditEventCode) (target : AuditTarget) (correlationId : CorrelationId) :
    Prop :=
  event.actor = .headOfProducts ∧ event.module = .portfolio ∧ event.code = code ∧ event.target = target ∧
    event.correlationId = correlationId ∧ event.policyOutcome = .notRequired ∧ event.approvalOutcome = .notRequired ∧
    event.executionOutcome = .succeeded ∧ event.effectScope = .complete ∧ event.actualEffects = [recordMutated]

instance (event : AuditEvent) (code : AuditEventCode) (target : AuditTarget) (correlationId : CorrelationId) :
    Decidable (RecordsMutation event code target correlationId) := inferInstanceAs (Decidable (_ ∧ _))

def replayInherited (capsule : PortfolioReplayCapsule) (value : KpiDefinitionRecord) (occurredAt : UtcTimestamp) :
    Nat → List KpiObservationRecord → List DerivedKpiObservationMutation → PortfolioState →
      Except PortfolioRehydrationError PortfolioState
  | index, observation :: rest, mutation :: others, records => do
    let expectedVersion ← require .versionLineageMismatch observation.version.next
    let expectedClassification := value.classification.combine observation.classification
    let derivedAuditId ← require .auditMismatch capsule.auditEventIds[index + 1]?
    let derivedAudit ← require .auditMismatch (auditOf audits derivedAuditId)
    ensure (mutation.observationId = observation.id ∧ mutation.previousVersion = observation.version ∧
      mutation.resultingVersion = expectedVersion ∧ mutation.previousClassification = observation.classification ∧
      mutation.resultingClassification = expectedClassification ∧ mutation.previousUpdatedAt = observation.updatedAt ∧
      mutation.resultingUpdatedAt = max occurredAt observation.updatedAt ∧ mutation.auditEventId = derivedAuditId ∧
      derivedAudit.occurredAt = occurredAt ∧
      RecordsMutation derivedAudit ⟨"kpi.observation.classification.inherited", by decide⟩ (.kpiObservation observation.id)
        capsule.correlationId) .auditMismatch
    replayInherited capsule value occurredAt (index + 1) rest others (observations.place records
      { observation with
        version := expectedVersion
        classification := expectedClassification
        updatedAt := mutation.resultingUpdatedAt })
  | _, _, _, records => return records

def validateCapsule (records : PortfolioState) (capsule : PortfolioReplayCapsule) : Except PortfolioRehydrationError Verdict :=
  match capsule.command, capsule.result with
  | .createPortfolio id name details classification provenance, .portfolio outcome =>
    simpleCreated simplePortfolios ⟨"portfolio.created", .refl true⟩ id name details classification provenance outcome records
  | .updatePortfolio id expected name details classification, .portfolio outcome =>
    simpleUpdated simplePortfolios ⟨"portfolio.updated", .refl true⟩ id expected name details classification outcome records
  | .createProduct id name details classification provenance, .product outcome =>
    simpleCreated simpleProducts ⟨"product.created", .refl true⟩ id name details classification provenance outcome records
  | .updateProduct id expected name details classification, .product outcome =>
    simpleUpdated simpleProducts ⟨"product.updated", .refl true⟩ id expected name details classification outcome records
  | .createRoadmap id name details classification provenance, .roadmap outcome =>
    simpleCreated simpleRoadmaps ⟨"roadmap.created", .refl true⟩ id name details classification provenance outcome records
  | .updateRoadmap id expected name details classification, .roadmap outcome =>
    simpleUpdated simpleRoadmaps ⟨"roadmap.updated", .refl true⟩ id expected name details classification outcome records
  | .createKpi id name definition owner target cadence source classification provenance, .kpi outcome => do
    let value := outcome.record
    ensure (value.id = id ∧ value.name = name ∧ value.definition = definition ∧ value.owner = owner ∧ value.target = target ∧
      value.cadence = cadence ∧ value.source = source ∧ value.classification = classification.getD .unclassified ∧
      value.provenance = provenance ∧ value.version = .initial ∧ records.kpis[value.id]? = none) .resultMismatch
    return ⟨outcome.auditEvent, .kpi id, ⟨"kpi.definition.created", .refl true⟩, kpis.place records value⟩
  | .updateKpi id expected name definition owner target cadence source classification, .kpi outcome => do
    let previous ← require .versionLineageMismatch records.kpis[id]?
    let value := outcome.record
    ensure (previous.version = expected ∧ expected.next = some value.version ∧ value.id = id ∧ value.name = name ∧
      value.definition = definition ∧ value.owner = owner ∧ value.target = target ∧ value.cadence = cadence ∧
      value.source = source ∧ value.provenance = previous.provenance ∧
      previous.classification.combine value.classification = value.classification ∧
      value.classification = classification.getD previous.classification) .resultMismatch
    ensure ((affected value records).length = capsule.derivedKpiObservationMutations.length) .classificationMismatch
    let raised ← replayInherited audits capsule value outcome.auditEvent.occurredAt 0 (affected value records)
      capsule.derivedKpiObservationMutations records
    return ⟨outcome.auditEvent, .kpi id, ⟨"kpi.definition.updated", .refl true⟩, kpis.place raised value⟩
  | .createObservation id kpiId value observedAt source classification provenance, .observation outcome => do
    let parent ← require .missingParent records.kpis[kpiId]?
    let record := outcome.record
    ensure (record.id = id ∧ record.kpiId = kpiId ∧ record.value = value ∧ record.observedAt = observedAt ∧
      record.source = source ∧
      record.classification = (match classification with
        | none => parent.classification
        | some value => value.combine parent.classification) ∧
      record.provenance = provenance ∧ record.version = .initial ∧ record.createdAt = record.updatedAt ∧
      record.createdAt = outcome.auditEvent.occurredAt ∧ records.observations[record.id]? = none) .resultMismatch
    return ⟨outcome.auditEvent, .kpiObservation id, ⟨"kpi.observation.created", .refl true⟩, observations.place records record⟩
  | .updateObservation id expected value observedAt source classification, .observation outcome => do
    let previous ← require .versionLineageMismatch records.observations[id]?
    let parent ← require .missingParent records.kpis[previous.kpiId]?
    let record := outcome.record
    let requested := classification.getD previous.classification
    ensure (previous.version = expected ∧ expected.next = some record.version ∧ record.id = id ∧
      record.kpiId = previous.kpiId ∧ record.value = value ∧ record.observedAt = observedAt ∧ record.source = source ∧
      record.provenance = previous.provenance ∧ record.createdAt = previous.createdAt ∧
      record.updatedAt = max outcome.auditEvent.occurredAt previous.updatedAt ∧
      previous.classification.combine requested = requested ∧
      record.classification = requested.combine parent.classification) .classificationMismatch
    return ⟨outcome.auditEvent, .kpiObservation id, ⟨"kpi.observation.updated", .refl true⟩, observations.place records record⟩
  | _, _ => .error .resultMismatch

structure Timeline where
  records : PortfolioState
  claimed : List AuditEventId
  auditCursor : Nat

/-- The audit events of a capsule are the next ones, and nobody else's. -/
def claim : List AuditEventId → Timeline → Except PortfolioRehydrationError Timeline
  | [], timeline => return timeline
  | id :: rest, timeline => do
    ensure (id ∉ timeline.claimed ∧ audits[timeline.auditCursor]?.map (·.id) = some id ∧ (auditOf audits id).isSome = true)
      .auditMismatch
    claim rest { timeline with claimed := timeline.claimed ++ [id], auditCursor := timeline.auditCursor + 1 }

def CommandIdentity.updatesKpi : CommandIdentity → Bool
  | .updateKpi .. => true
  | _ => false

def replayCapsule (timeline : Timeline) (capsule : PortfolioReplayCapsule) : Except PortfolioRehydrationError Timeline := do
  ensure (capsule.auditEventIds ≠ [] ∧
    capsule.auditEventIds.length = capsule.derivedKpiObservationMutations.length + 1) .auditMismatch
  let claimed ← claim audits capsule.auditEventIds timeline
  let auditId ← require .auditMismatch capsule.auditEventIds.head?
  let persistedAudit ← require .auditMismatch (auditOf audits auditId)
  ensure (capsule.command.updatesKpi = true ∨ capsule.derivedKpiObservationMutations = []) .resultMismatch
  let verdict ← validateCapsule audits timeline.records capsule
  ensure (verdict.outcomeAudit = persistedAudit ∧ verdict.outcomeAudit.id = auditId ∧
    RecordsMutation verdict.outcomeAudit verdict.code verdict.target capsule.correlationId) .auditMismatch
  return { claimed with records := verdict.records }

def mapsEqual {K V : Type} [LinearOrder K] (actual expected : KeyMap K V) : Prop :=
  actual.size = expected.size ∧ ∀ pair ∈ actual.toList, expected[pair.1]? = some pair.2

instance {K V : Type} [LinearOrder K] [DecidableEq V] (actual expected : KeyMap K V) : Decidable (mapsEqual actual expected) :=
  inferInstanceAs (Decidable (_ ∧ _))

def validatePortfolioTimeline (replay : List PortfolioReplayCapsule) (expected : PortfolioState) :
    Except PortfolioRehydrationError Unit := do
  let ordered := sortBy (comparing compare (·.operationOrdinal)) replay
  ensure (ordered.map (·.operationOrdinal) = List.range ordered.length) .versionLineageMismatch
  let timeline ← ordered.foldlM (replayCapsule audits) ⟨.new, [], 0⟩
  ensure (timeline.claimed.length = audits.length) .orphanAuditEvent
  ensure (mapsEqual timeline.records.portfolios expected.portfolios ∧ mapsEqual timeline.records.products expected.products ∧
    mapsEqual timeline.records.roadmaps expected.roadmaps ∧ mapsEqual timeline.records.kpis expected.kpis ∧
    mapsEqual timeline.records.observations expected.observations) .versionLineageMismatch

end

variable {Id Record : Type} [LinearOrder Id]

def uniqueRecords (id : Record → Id) (values : List Record) : Except PortfolioRehydrationError (KeyMap Id Record) :=
  values.foldlM (fun result value => do
    ensure (result[id value]? = none) .duplicateRecord
    return result.insert (id value) value) ∅

def PortfolioPersistenceSnapshot.validate (snapshot : PortfolioPersistenceSnapshot) :
    Except PortfolioRehydrationError PortfolioPersistenceSnapshot := do
  let portfolios ← uniqueRecords (·.id) snapshot.portfolios
  let products ← uniqueRecords (·.id) snapshot.products
  let roadmaps ← uniqueRecords (·.id) snapshot.roadmaps
  let kpis ← uniqueRecords (·.id) snapshot.kpiDefinitions
  let observations ← uniqueRecords (·.id) snapshot.kpiObservations
  ensure (∀ value ∈ snapshot.kpiObservations, kpis.contains value.kpiId = true) .missingParent
  ensure (snapshot.audits.map (·.id)).Nodup .duplicateAuditEvent
  ensure (snapshot.replay.map (·.idempotencyId)).Nodup .duplicateIdempotency
  validatePortfolioTimeline snapshot.audits snapshot.replay
    { PortfolioState.new with portfolios, products, roadmaps, kpis, observations }
  return snapshot

/-- The records of one kind in the order of their ids. -/
def listed (family : Family Id Record) (state : PortfolioState) : List Record :=
  sortBy (comparing compare family.id) (KeyMap.held (family.records state))

def PortfolioReplayCapsule.of (idempotencyId : IdempotencyId) (stored : StoredOutcome) : PortfolioReplayCapsule where
  idempotencyId
  command := stored.command
  result := stored.result
  correlationId := stored.correlationId
  auditEventIds := stored.auditEventIds
  operationOrdinal := stored.operationOrdinal
  derivedKpiObservationMutations := stored.derivedKpiObservationMutations

def PortfolioReplayCapsule.outcome (capsule : PortfolioReplayCapsule) : StoredOutcome where
  command := capsule.command
  result := capsule.result
  correlationId := capsule.correlationId
  auditEventIds := capsule.auditEventIds
  operationOrdinal := capsule.operationOrdinal
  derivedKpiObservationMutations := capsule.derivedKpiObservationMutations

def persistenceSnapshot (service : Service) : PortfolioPersistenceSnapshot where
  portfolios := listed portfolios service.state
  products := listed products service.state
  roadmaps := listed roadmaps service.state
  kpiDefinitions := listed kpis service.state
  kpiObservations := listed observations service.state
  replay := sortBy (comparing compare (·.operationOrdinal))
    (service.state.outcomes.toList.map fun entry => .of entry.1 entry.2)
  audits := service.state.auditEvents

def collect {Item Value : Type} (key : Item → Id) (value : Item → Value) (items : List Item) : KeyMap Id Value :=
  Std.ExtTreeMap.ofList (items.map fun item => (key item, value item)) compare

/-- The previews of lowerings are left behind. -/
def rehydrate (snapshot : PortfolioPersistenceSnapshot) : Service where
  state :=
    { portfolios := collect (·.id) id snapshot.portfolios
      products := collect (·.id) id snapshot.products
      roadmaps := collect (·.id) id snapshot.roadmaps
      kpis := collect (·.id) id snapshot.kpiDefinitions
      observations := collect (·.id) id snapshot.kpiObservations
      outcomes := collect (·.idempotencyId) (·.outcome) snapshot.replay
      auditEvents := snapshot.audits
      nextOperationOrdinal :=
        match (snapshot.replay.map (·.operationOrdinal)).max? with
        | none => 0
        | some last => min (last + 1) (2 ^ 64 - 1) }
  failNextCommit := false
  preparedLowerings := ∅
  preparedLoweringRequests := ∅

end MissionControl.Portfolio

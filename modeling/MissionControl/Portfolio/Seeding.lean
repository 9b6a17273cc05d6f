import MissionControl.Portfolio.Steps
import MissionControl.Portfolio.Writes

/-! The throwaway service that a lowering is executed on. It holds the record as it stands in
the tables, at its version, and remembers nothing but how it was seeded. -/

namespace MissionControl.Portfolio
open Checked
open Evidence (AggregateType RegistryRow)
open Delivery (OperationContext Ports PrepareLowerClassification ApproveAndExecuteLowerClassification
  PreparedIntentRow storageError seedPorts seedContext seedVersion)

/-- The place of a command among those that seed a record of this type. No approval is among
them. -/
def CommandIdentity.seedStep : AggregateType → CommandIdentity → Nat
  | .portfolio, .createPortfolio .. | .product, .createProduct .. | .roadmap, .createRoadmap ..
  | .kpiDefinition, .createKpi .. | .kpiObservation, .createObservation .. => 1
  | .portfolio, .updatePortfolio _ version .. | .product, .updateProduct _ version .. | .roadmap, .updateRoadmap _ version ..
  | .kpiDefinition, .updateKpi _ version .. | .kpiObservation, .updateObservation _ version .. => version.get + 1
  | _, .approveAndExecuteLowerPortfolioClassification .. | _, .approveAndExecuteLowerProductClassification ..
  | _, .approveAndExecuteLowerRoadmapClassification .. | _, .approveAndExecuteLowerKpiClassification ..
  | _, .approveAndExecuteLowerKpiObservationClassification .. => 2 ^ 65
  | _, _ => 0

structure Kept.Lawful {kind : IdKind} {Record : Type} (kept : Kept kind Record) : Prop where
  placed : ∀ state value, kept.family.records (kept.family.place state value) =
    (kept.family.records state).insert (kept.family.id value) value
  remembered : ∀ state value, (kept.family.place state value).outcomes = state.outcomes
  same : ∀ before after, SameRecords before after → kept.family.records after = kept.family.records before
  keyed : ∀ value, (kept.row value).key = kept.key (kept.family.id value)
  answered : ∀ value, kept.result? (kept.result value) = some value
  aimed : ∀ id, isPortfolioTarget (kept.family.auditTarget id) = true
  approves : ∀ preparedId actor digest,
    (kept.family.executeIdentity preparedId actor digest).seedStep kept.aggregateType = 2 ^ 65
  lowered : ∀ value classification version now,
    kept.row (kept.family.lowered value classification version now) = kept.row value ∧
    kept.family.version (kept.family.lowered value classification version now) = version ∧
    kept.family.classification (kept.family.lowered value classification version now) = classification
  versioned : ∀ registered row record, kept.record registered row = some record →
    kept.family.version record = registered.version
  written : ∀ registered row record, kept.record registered row = some record → kept.row record = row
  read : ∀ registered row id, row.key = kept.key id → ∃ record, kept.record registered row = some record

theorem keptPortfolios_lawful : keptPortfolios.Lawful where
  placed := fun _ _ => rfl
  remembered := fun _ _ => rfl
  same := fun _ _ same => same.portfolios
  keyed := fun _ => rfl
  answered := fun _ => rfl
  aimed := fun _ => rfl
  approves := fun _ _ _ => rfl
  lowered := fun _ _ _ _ => ⟨rfl, rfl, rfl⟩
  versioned := fun registered row record read => by cases row <;> cases read; rfl
  written := fun registered row record read => by cases row <;> cases read; rfl
  read := fun registered row id named => by
    cases row with
    | portfolio row => exact ⟨_, rfl⟩
    | _ => cases congrArg RecordKey.aggregateType named

theorem keptProducts_lawful : keptProducts.Lawful where
  placed := fun _ _ => rfl
  remembered := fun _ _ => rfl
  same := fun _ _ same => same.products
  keyed := fun _ => rfl
  answered := fun _ => rfl
  aimed := fun _ => rfl
  approves := fun _ _ _ => rfl
  lowered := fun _ _ _ _ => ⟨rfl, rfl, rfl⟩
  versioned := fun registered row record read => by cases row <;> cases read; rfl
  written := fun registered row record read => by cases row <;> cases read; rfl
  read := fun registered row id named => by
    cases row with
    | product row => exact ⟨_, rfl⟩
    | _ => cases congrArg RecordKey.aggregateType named

theorem keptRoadmaps_lawful : keptRoadmaps.Lawful where
  placed := fun _ _ => rfl
  remembered := fun _ _ => rfl
  same := fun _ _ same => same.roadmaps
  keyed := fun _ => rfl
  answered := fun _ => rfl
  aimed := fun _ => rfl
  approves := fun _ _ _ => rfl
  lowered := fun _ _ _ _ => ⟨rfl, rfl, rfl⟩
  versioned := fun registered row record read => by cases row <;> cases read; rfl
  written := fun registered row record read => by cases row <;> cases read; rfl
  read := fun registered row id named => by
    cases row with
    | roadmap row => exact ⟨_, rfl⟩
    | _ => cases congrArg RecordKey.aggregateType named

theorem keptKpis_lawful : keptKpis.Lawful where
  placed := fun _ _ => rfl
  remembered := fun _ _ => rfl
  same := fun _ _ same => same.kpis
  keyed := fun _ => rfl
  answered := fun _ => rfl
  aimed := fun _ => rfl
  approves := fun _ _ _ => rfl
  lowered := fun _ _ _ _ => ⟨rfl, rfl, rfl⟩
  versioned := fun registered row record read => by cases row <;> cases read; rfl
  written := fun registered row record read => by cases row <;> cases read; rfl
  read := fun registered row id named => by
    cases row with
    | kpiDefinition row => exact ⟨_, rfl⟩
    | _ => cases congrArg RecordKey.aggregateType named

theorem keptObservations_lawful : keptObservations.Lawful where
  placed := fun _ _ => rfl
  remembered := fun _ _ => rfl
  same := fun _ _ same => same.observations
  keyed := fun _ => rfl
  answered := fun _ => rfl
  aimed := fun _ => rfl
  approves := fun _ _ _ => rfl
  lowered := fun _ _ _ _ => ⟨rfl, rfl, rfl⟩
  versioned := fun registered row record read => by cases row <;> cases read; rfl
  written := fun registered row record read => by cases row <;> cases read; rfl
  read := fun registered row id named => by
    cases row with
    | kpiObservation row => exact ⟨_, rfl⟩
    | _ => cases congrArg RecordKey.aggregateType named

def Writing {Id Record : Type} [LinearOrder Id] (family : Family Id Record) (context : OperationContext)
    (write : Write Record) : Prop :=
  ∀ ports command code now value state decision, write ports command code now value state = .ok decision →
    ∃ id next, ports.nextAuditEventId 0 = some id ∧
      decision = .committed
        ⟨value, buildAudit id now (family.auditTarget (family.id value)) code context.correlationId⟩ next ∧
      ∀ ordinal, family.records (next ordinal) = (family.records state).insert (family.id value) value ∧
        ∃ stored : StoredOutcome, (next ordinal).outcomes = state.outcomes.insert context.idempotencyId stored ∧
          stored.command = command

section
variable {context : OperationContext} {ports : Ports} {state : PortfolioState}

theorem prepareAudit_built {draw : Nat} {target : AuditTarget} {code : AuditEventCode} {now : UtcTimestamp}
    {event : AuditEvent} (success : prepareAudit context ports draw target code now = .ok event) :
    ∃ id, ports.nextAuditEventId draw = some id ∧ event = buildAudit id now target code context.correlationId := by
  obtain ⟨id, drawn, success⟩ := bind_ok.mp success
  obtain ⟨_, made, success⟩ := bind_ok.mp success
  cases pure_ok.mp success
  cases relabel_ok.mp made
  exact ⟨id, require_ok.mp drawn, rfl⟩

theorem remember_outcomes {command : CommandIdentity} {result : StoredResult} {events : List AuditEvent}
    {derived : List DerivedKpiObservationMutation} (ordinal : Nat) :
    ∃ stored : StoredOutcome, (remember context command result events derived state ordinal).outcomes =
      state.outcomes.insert context.idempotencyId stored ∧ stored.command = command := ⟨_, rfl, rfl⟩

theorem commit_writing {kind : IdKind} {Record : Type} {kept : Kept kind Record} (lawful : kept.Lawful)
    (context : OperationContext) : Writing kept.family context (commit context kept.family) := by
  intro ports command code now value state decision success
  obtain ⟨audit, audited, success⟩ := bind_ok.mp success
  cases pure_ok.mp success
  obtain ⟨id, drawn, rfl⟩ := prepareAudit_built audited
  refine ⟨id, _, drawn, rfl, fun ordinal => ⟨?_, ?_⟩⟩
  · exact (lawful.same _ _ (remember_same ordinal)).trans (lawful.placed state value)
  · obtain ⟨stored, outcomes, asked⟩ := remember_outcomes ordinal
    exact ⟨stored, outcomes.trans (by rw [lawful.remembered]), asked⟩

theorem placeAll_beside (raised : List KpiObservationRecord) (state : PortfolioState) :
    (raised.foldl observations.place state).kpis = state.kpis ∧
      (raised.foldl observations.place state).outcomes = state.outcomes := by
  induction raised generalizing state with
  | nil => exact ⟨rfl, rfl⟩
  | cons first rest following => exact following _

theorem commitKpi_writing (context : OperationContext) : Writing kpis context (commitKpi context) := by
  intro ports command code now value state decision success
  obtain ⟨audit, audited, success⟩ := bind_ok.mp success
  obtain ⟨raised, _, success⟩ := bind_ok.mp success
  cases pure_ok.mp success
  obtain ⟨id, drawn, rfl⟩ := prepareAudit_built audited
  obtain ⟨beside, others⟩ := placeAll_beside (raised.map Prod.fst) (kpis.place state value)
  refine ⟨id, _, drawn, rfl, fun ordinal => ⟨?_, ?_⟩⟩
  · exact beside
  · obtain ⟨stored, outcomes, asked⟩ := remember_outcomes ordinal
    exact ⟨stored, outcomes.trans (by rw [others]; rfl), asked⟩

end

structure Seeded {kind : IdKind} {Record : Type} (kept : Kept kind Record) (id : OpaqueId kind) (good : Record → Prop)
    (calls : Nat) (service : Service) : Prop where
  held : ∀ other value, (kept.family.records service.state)[other]? = some value → other = id ∧ good value
  seen : ∀ (key : IdempotencyId) (outcome : StoredOutcome), service.state.outcomes[key]? = some outcome →
    outcome.command.seedStep kept.aggregateType < calls

section
variable {kind : IdKind} {Record : Type} {kept : Kept kind Record} {context : OperationContext} {service : Service}

variable {outcome : MutationOutcome Record}

theorem settle_ok {decided : Except DomainError (Decision Record)}
    (success : (settle context service decided).2 = .ok outcome) :
    decided = .ok (.replayed outcome) ∨ ∃ next ordinal, decided = .ok (.committed outcome next) ∧
      (settle context service decided).1.state = next ordinal := by
  unfold settle at success ⊢
  split at success
  · cases success
  · cases success
    exact .inl rfl
  next decided next =>
    split at success
    · cases success
    next healthy =>
      split at success
      next bounded =>
        cases success
        exact .inr ⟨next, service.state.nextOperationOrdinal, rfl, by rw [if_neg healthy, if_pos bounded]⟩
      · cases success

variable {command : CommandIdentity}

variable {fresh : Except DomainError (Decision Record)}

theorem orReplayed_unseen {state : PortfolioState} {decision : Decision Record}
    (unseen : ∀ (key : IdempotencyId) (outcome : StoredOutcome), state.outcomes[key]? = some outcome →
      outcome.command ≠ command) (success : orReplayed context kept.family state command fresh = .ok decision) :
    fresh = .ok decision := by
  obtain ⟨replayed, found, success⟩ := bind_ok.mp success
  unfold replay at found
  split at found
  next =>
    cases found
    exact success
  next stored known =>
    rw [if_neg (unseen _ stored known)] at found
    cases found

variable {id : OpaqueId kind}

theorem settle_seeded {good later : Record → Prop} {calls : Nat} (seeded : Seeded kept id good calls service)
    (ranked : command.seedStep kept.aggregateType = calls)
    (stages : ∀ decision, fresh = .ok decision → ∃ value outcome next, decision = .committed outcome next ∧
      kept.family.id value = id ∧ later value ∧ ∀ ordinal,
        kept.family.records (next ordinal) = (kept.family.records service.state).insert (kept.family.id value) value ∧
        ∃ stored : StoredOutcome, (next ordinal).outcomes = service.state.outcomes.insert context.idempotencyId stored ∧
          stored.command = command)
    (success : (settle context service (orReplayed context kept.family service.state command fresh)).2 = .ok outcome) :
    Seeded kept id later (calls + 1)
      (settle context service (orReplayed context kept.family service.state command fresh)).1 := by
  have unseen (key : IdempotencyId) (outcome : StoredOutcome) (found : service.state.outcomes[key]? = some outcome) :
      outcome.command ≠ command := fun same => by
    have before := seeded.seen key outcome found
    rw [same, ranked] at before
    exact absurd before (lt_irrefl _)
  obtain replayed | ⟨next, ordinal, decided, there⟩ := settle_ok success
  · obtain ⟨_, _, _, same, _⟩ := stages _ (orReplayed_unseen unseen replayed)
    cases same
  · obtain ⟨value, _, _, same, named, good, writes⟩ := stages _ (orReplayed_unseen unseen decided)
    cases same
    obtain ⟨records, stored, outcomes, asked⟩ := writes ordinal
    constructor
    · intro other held found
      rw [there, records, KeyMap.get_insert] at found
      split at found
      next same =>
        cases found
        exact ⟨same.symm.trans named, good⟩
      next different =>
        have known := (seeded.held other held found).1
        exact absurd (named.trans known.symm) different
    · intro key outcome found
      rw [there, outcomes, KeyMap.get_insert] at found
      split at found
      · cases found
        rw [asked, ranked]
        exact Nat.lt_succ_self calls
      · exact (seeded.seen key outcome found).trans (Nat.lt_succ_self calls)

theorem new_seeded (kept : Kept kind Record) (id : OpaqueId kind)
    (empty : ∀ other : OpaqueId kind, (kept.family.records PortfolioState.new)[other]? = none) :
    Seeded kept id (fun _ => False) 1 Service.new := by
  constructor
  · intro other value found
    cases (empty other).symm.trans found
  · intro key outcome found
    simp [Service.new, PortfolioState.new] at found

theorem seeded_ok {Outcome : Type} {attempt : Service × Except DomainError Outcome} {later : Service}
    (success : Portfolio.seeded context attempt = .ok later) : later = attempt.1 ∧ ∃ outcome, attempt.2 = .ok outcome := by
  obtain ⟨outcome, answered, success⟩ := bind_ok.mp success
  exact ⟨(pure_ok.mp success).symm, outcome, relabel_ok.mp answered⟩

theorem stageCreate_seeded {later : Record → Prop} {code : AuditEventCode} {write : Write Record} {value : Record}
    {ports : Ports} (writing : Writing kept.family context write) (seeded : Seeded kept id (fun _ => False) 1 service)
    (ranked : command.seedStep kept.aggregateType = 1) (named : kept.family.id value = id) (good : later value)
    (success : (settle context service (stageCreate kept.family write context command code value service.state ports)).2 =
      .ok outcome) :
    Seeded kept id later 2
      (settle context service (stageCreate kept.family write context command code value service.state ports)).1 := by
  refine settle_seeded seeded ranked (fun decision fresh => ?_) success
  obtain ⟨_, _, fresh⟩ := bind_ok.mp fresh
  obtain ⟨_, next, _, same, writes⟩ := writing _ _ _ _ _ _ _ fresh
  exact ⟨value, _, next, same, named, good, writes⟩

theorem stageUpdate_seeded {good later : Record → Prop} {calls : Nat} {code : AuditEventCode} {write : Write Record}
    {expectedVersion : AggregateVersion} {requested : Option DataClassification}
    {change : Record → AggregateVersion → DataClassification → Record} {ports : Ports}
    (writing : Writing kept.family context write) (seeded : Seeded kept id good calls service)
    (ranked : command.seedStep kept.aggregateType = calls)
    (changed : ∀ value version classification, good value → (kept.family.version value).next = some version →
      kept.family.id (change value version classification) = id ∧ later (change value version classification))
    (success : (settle context service (stageUpdate kept.family write context command code id expectedVersion requested change
      service.state ports)).2 = .ok outcome) :
    Seeded kept id later (calls + 1) (settle context service
      (stageUpdate kept.family write context command code id expectedVersion requested change service.state ports)).1 := by
  refine settle_seeded seeded ranked (fun decision fresh => ?_) success
  obtain ⟨current, found, fresh⟩ := bind_ok.mp fresh
  obtain ⟨_, _, fresh⟩ := bind_ok.mp fresh
  obtain ⟨version, advanced, fresh⟩ := bind_ok.mp fresh
  obtain ⟨classification, _, fresh⟩ := bind_ok.mp fresh
  obtain ⟨_, next, _, same, writes⟩ := writing _ _ _ _ _ _ _ fresh
  obtain ⟨named, good⟩ := changed current version classification (seeded.held _ _ (require_ok.mp found)).2
    (nextVersion_ok advanced)
  exact ⟨_, _, next, same, named, good, writes⟩

end

section
variable {context : OperationContext} {now : UtcTimestamp} {label text : String} {auditEventIds : Nat → Option AuditEventId}
  {Outcome : Type} {service later : Service}
  {create : OperationContext → Ports → Service → Service × Except DomainError Outcome}
  {update : OperationContext → AggregateVersion → Ports → Service → Service × Except DomainError Outcome}
  (holds : Nat → Service → Prop)
include holds

theorem seedUpdates_ok {first count : Nat}
    (updates : ∀ again version auditEventId service outcome, holds version.get service →
      (update again version (seedPorts now auditEventId) service).2 = .ok outcome →
      holds (version.get + 1) (update again version (seedPorts now auditEventId) service).1)
    (success : seedUpdates context now label text auditEventIds update (List.range' first count) service = .ok later)
    (initially : holds first service) : holds (first + count) later := by
  induction count generalizing first service with
  | zero =>
    cases pure_ok.mp success
    exact initially
  | succ count following =>
    obtain ⟨again, _, success⟩ := bind_ok.mp success
    obtain ⟨version, made, success⟩ := bind_ok.mp success
    obtain ⟨updated, called, success⟩ := bind_ok.mp success
    obtain ⟨rfl, outcome, answered⟩ := seeded_ok called
    have step : version.get = first := by
      have made := require_ok.mp made
      split at made
      · cases made; rfl
      · cases made
    subst step
    have next := following success (updates _ _ _ _ outcome initially answered)
    rwa [Nat.add_right_comm] at next

theorem seedRecord_ok {version : AggregateVersion} {initially : Service → Prop}
    (creates : ∀ creating auditEventId service outcome, initially service →
      (create creating (seedPorts now auditEventId) service).2 = .ok outcome →
      holds 1 (create creating (seedPorts now auditEventId) service).1)
    (updates : ∀ again version auditEventId service outcome, holds version.get service →
      (update again version (seedPorts now auditEventId) service).2 = .ok outcome →
      holds (version.get + 1) (update again version (seedPorts now auditEventId) service).1)
    (success : seedRecord context now label text auditEventIds create update version service = .ok later)
    (start : initially service) : holds version.get later := by
  obtain ⟨_, _, success⟩ := bind_ok.mp success
  obtain ⟨_, called, success⟩ := bind_ok.mp success
  obtain ⟨rfl, outcome, answered⟩ := seeded_ok called
  have last := seedUpdates_ok holds updates success (creates _ _ _ outcome start answered)
  rwa [Nat.add_sub_cancel' version.positive] at last

end

/-- A record as it is in the tables, but for its classification. -/
structure Copies {kind : IdKind} {Record : Type} (kept : Kept kind Record) (record : Record) (timed : Record → Prop)
    (version : Nat) (value : Record) : Prop where
  row : kept.row value = kept.row record
  version : (kept.family.version value).get = version
  timed : timed value

def Holds {kind : IdKind} {Record : Type} (kept : Kept kind Record) (record : Record) (timed : Record → Prop) (version : Nat)
    (service : Service) : Prop :=
  Seeded kept (kept.family.id record) (Copies kept record timed version) (version + 1) service

variable {context : OperationContext} {now : UtcTimestamp} {tables : PortfolioTables} {service : Service}

theorem Copies.next {kind : IdKind} {Record : Type} {kept : Kept kind Record} {record value changed : Record}
    {timed : Record → Prop} {calls : Nat} {version : AggregateVersion} (copies : Copies kept record timed calls value)
    (advanced : (kept.family.version value).next = some version) (row : kept.row changed = kept.row record)
    (versioned : kept.family.version changed = version) (stamped : timed changed) :
    Copies kept record timed (calls + 1) changed :=
  ⟨row, by rw [versioned, AggregateVersion.next_get advanced, copies.version], stamped⟩

theorem seedPortfolio_holds {id : PortfolioId} (success : seedPortfolioServiceForLowering context now id tables = .ok service) :
    ∃ registered record, keptPortfolios.stored tables id = some (registered, record) ∧
      Holds keptPortfolios record (fun _ => True) registered.version.get service := by
  obtain ⟨⟨registered, record⟩, found, success⟩ := bind_ok.mp success
  obtain ⟨_, _, success⟩ := bind_ok.mp success
  refine ⟨registered, record, require_ok.mp found, ?_⟩
  refine seedRecord_ok (Holds keptPortfolios record fun _ => True) ?_ ?_ success
    (new_seeded keptPortfolios record.id fun _ => by simp [keptPortfolios, portfolios, PortfolioState.new])
  · intro creating auditEventId service outcome seeded answered
    exact stageCreate_seeded (commit_writing keptPortfolios_lawful creating) seeded rfl rfl ⟨rfl, rfl, trivial⟩ answered
  · intro again version auditEventId service outcome seeded answered
    refine stageUpdate_seeded (commit_writing keptPortfolios_lawful again) seeded rfl (fun value later _ copies advanced => ?_)
      answered
    have row := copies.row
    simp only [keptPortfolios, RecordRow.portfolio.injEq, DetailsRow.mk.injEq] at row
    refine ⟨row.1, copies.next advanced ?_ rfl trivial⟩
    simp only [keptPortfolios, row]
    rfl

theorem seedProduct_holds {id : ProductId} (success : seedProductServiceForLowering context now id tables = .ok service) :
    ∃ registered record, keptProducts.stored tables id = some (registered, record) ∧
      Holds keptProducts record (fun _ => True) registered.version.get service := by
  obtain ⟨⟨registered, record⟩, found, success⟩ := bind_ok.mp success
  obtain ⟨_, _, success⟩ := bind_ok.mp success
  refine ⟨registered, record, require_ok.mp found, ?_⟩
  refine seedRecord_ok (Holds keptProducts record fun _ => True) ?_ ?_ success
    (new_seeded keptProducts record.id fun _ => by simp [keptProducts, products, PortfolioState.new])
  · intro creating auditEventId service outcome seeded answered
    exact stageCreate_seeded (commit_writing keptProducts_lawful creating) seeded rfl rfl ⟨rfl, rfl, trivial⟩ answered
  · intro again version auditEventId service outcome seeded answered
    refine stageUpdate_seeded (commit_writing keptProducts_lawful again) seeded rfl (fun value later _ copies advanced => ?_)
      answered
    have row := copies.row
    simp only [keptProducts, RecordRow.product.injEq, DetailsRow.mk.injEq] at row
    refine ⟨row.1, copies.next advanced ?_ rfl trivial⟩
    simp only [keptProducts, row]
    rfl

theorem seedRoadmap_holds {id : RoadmapId} (success : seedRoadmapServiceForLowering context now id tables = .ok service) :
    ∃ registered record, keptRoadmaps.stored tables id = some (registered, record) ∧
      Holds keptRoadmaps record (fun _ => True) registered.version.get service := by
  obtain ⟨⟨registered, record⟩, found, success⟩ := bind_ok.mp success
  obtain ⟨_, _, success⟩ := bind_ok.mp success
  refine ⟨registered, record, require_ok.mp found, ?_⟩
  refine seedRecord_ok (Holds keptRoadmaps record fun _ => True) ?_ ?_ success
    (new_seeded keptRoadmaps record.id fun _ => by simp [keptRoadmaps, roadmaps, PortfolioState.new])
  · intro creating auditEventId service outcome seeded answered
    exact stageCreate_seeded (commit_writing keptRoadmaps_lawful creating) seeded rfl rfl ⟨rfl, rfl, trivial⟩ answered
  · intro again version auditEventId service outcome seeded answered
    refine stageUpdate_seeded (commit_writing keptRoadmaps_lawful again) seeded rfl (fun value later _ copies advanced => ?_)
      answered
    have row := copies.row
    simp only [keptRoadmaps, RecordRow.roadmap.injEq, DetailsRow.mk.injEq] at row
    refine ⟨row.1, copies.next advanced ?_ rfl trivial⟩
    simp only [keptRoadmaps, row]
    rfl

theorem seedKpi_holds {id : KpiId} (success : seedKpiServiceForLowering context now id tables = .ok service) :
    ∃ registered record, keptKpis.stored tables id = some (registered, record) ∧
      Holds keptKpis record (fun _ => True) registered.version.get service := by
  obtain ⟨⟨registered, record⟩, found, success⟩ := bind_ok.mp success
  obtain ⟨_, _, success⟩ := bind_ok.mp success
  refine ⟨registered, record, require_ok.mp found, ?_⟩
  refine seedRecord_ok (Holds keptKpis record fun _ => True) ?_ ?_ success
    (new_seeded keptKpis record.id fun _ => by simp [keptKpis, kpis, PortfolioState.new])
  · intro creating auditEventId service outcome seeded answered
    exact stageCreate_seeded (commitKpi_writing creating) seeded rfl rfl ⟨rfl, rfl, trivial⟩ answered
  · intro again version auditEventId service outcome seeded answered
    refine stageUpdate_seeded (commitKpi_writing again) seeded rfl (fun value later _ copies advanced => ?_)
      answered
    have row := copies.row
    simp only [keptKpis, RecordRow.kpiDefinition.injEq, KpiDefinitionRow.mk.injEq] at row
    refine ⟨row.1, copies.next advanced ?_ rfl trivial⟩
    simp only [keptKpis, row]
    rfl

theorem settleKpi_bare {id : KpiObservationId} {command : CommandIdentity}
    {fresh : Except DomainError (Decision KpiDefinitionRecord)}
    {outcome : MutationOutcome KpiDefinitionRecord} (bare : Seeded keptObservations id (fun _ => False) 1 service)
    (ranked : command.seedStep .kpiObservation = 0)
    (commits : ∀ decision, fresh = .ok decision → ∃ ports code now value,
      commitKpi context ports command code now value service.state = .ok decision)
    (success : (settle context service (orReplayed context kpis service.state command fresh)).2 = .ok outcome) :
    Seeded keptObservations id (fun _ => False) 1
      (settle context service (orReplayed context kpis service.state command fresh)).1 := by
  obtain replayed | ⟨next, ordinal, decided, there⟩ := settle_ok success
  · rw [replayed]
    exact bare
  · obtain ⟨_, _, same⟩ | ⟨_, decided⟩ := orReplayed_ok decided
    · cases same
    obtain ⟨ports, code, now, value, committed⟩ := commits _ decided
    obtain ⟨_, _, _, same, writes⟩ := commitKpi_writing context _ _ _ _ _ _ _ committed
    cases same
    obtain ⟨_, _, _, same, places⟩ := commitKpi_commits value _ committed
    cases same
    obtain ⟨_, stored, outcomes, asked⟩ := writes ordinal
    obtain ⟨raised, raises, made⟩ := places ordinal
    have none : affected value service.state = [] := by
      refine List.eq_nil_iff_forall_not_mem.mpr fun observation held => ?_
      obtain ⟨held, _⟩ := List.mem_filter.mp ((Sorting.mem_sortBy _).mp held)
      obtain ⟨key, found⟩ := KeyMap.mem_held.mp held
      exact (bare.held key observation found).2
    rw [none] at raises
    cases raises
    constructor
    · intro other found there'
      rw [there] at there'
      have same : (next ordinal).observations = service.state.observations := made.observations
      have observed : (next ordinal).observations[other]? = some found := there'
      rw [same] at observed
      exact bare.held other found observed
    · intro key outcome found
      rw [there, outcomes, KeyMap.get_insert] at found
      split at found
      · cases found
        rw [asked]
        exact ranked ▸ Nat.zero_lt_one
      · exact bare.seen key outcome found

theorem seedKpiObservation_holds {id : KpiObservationId}
    (success : seedKpiObservationServiceForLowering context now id tables = .ok service) :
    ∃ registered record, keptObservations.stored tables id = some (registered, record) ∧
      Holds keptObservations record (fun value => value.createdAt = now ∧ value.updatedAt = now) registered.version.get
        service := by
  obtain ⟨⟨registered, record⟩, found, success⟩ := bind_ok.mp success
  obtain ⟨⟨parent, definition⟩, _, success⟩ := bind_ok.mp success
  obtain ⟨_, _, success⟩ := bind_ok.mp success
  obtain ⟨placed, placing, success⟩ := bind_ok.mp success
  refine ⟨registered, record, require_ok.mp found, ?_⟩
  have bare : Seeded keptObservations record.id (fun _ => False) 1 placed := by
    refine seedRecord_ok (fun _ => Seeded keptObservations record.id (fun _ => False) 1) ?_ ?_ placing
      (new_seeded keptObservations record.id fun _ => by simp [keptObservations, observations, PortfolioState.new])
    · intro creating auditEventId service outcome bare answered
      refine settleKpi_bare bare rfl (fun decision fresh => ?_) answered
      obtain ⟨_, _, fresh⟩ := bind_ok.mp fresh
      exact ⟨_, _, _, _, fresh⟩
    · intro again version auditEventId service outcome bare answered
      refine settleKpi_bare bare rfl (fun decision fresh => ?_) answered
      obtain ⟨_, _, fresh⟩ := bind_ok.mp fresh
      obtain ⟨_, _, fresh⟩ := bind_ok.mp fresh
      obtain ⟨_, _, fresh⟩ := bind_ok.mp fresh
      obtain ⟨_, _, fresh⟩ := bind_ok.mp fresh
      exact ⟨_, _, _, _, fresh⟩
  refine seedRecord_ok (Holds keptObservations record fun value => value.createdAt = now ∧ value.updatedAt = now) ?_ ?_
    success bare
  · intro creating auditEventId service outcome seeded answered
    refine settle_seeded seeded rfl (fun decision fresh => ?_) answered
    obtain ⟨_, _, fresh⟩ := bind_ok.mp fresh
    obtain ⟨_, _, fresh⟩ := bind_ok.mp fresh
    obtain ⟨_, next, _, same, writes⟩ := commit_writing keptObservations_lawful creating _ _ _ _ _ _ _ fresh
    refine ⟨_, _, next, same, ?_, ?_, writes⟩
    · rfl
    · exact ⟨rfl, rfl, rfl, rfl⟩
  · intro again version auditEventId service outcome seeded answered
    refine settle_seeded seeded rfl (fun decision fresh => ?_) answered
    obtain ⟨current, found, fresh⟩ := bind_ok.mp fresh
    obtain ⟨_, _, fresh⟩ := bind_ok.mp fresh
    obtain ⟨later, advanced, fresh⟩ := bind_ok.mp fresh
    obtain ⟨_, _, fresh⟩ := bind_ok.mp fresh
    obtain ⟨_, _, fresh⟩ := bind_ok.mp fresh
    obtain ⟨_, next, _, same, writes⟩ := commit_writing keptObservations_lawful again _ _ _ _ _ _ _ fresh
    have copies := (seeded.held _ _ (require_ok.mp found)).2
    have row := copies.row
    simp only [keptObservations, RecordRow.kpiObservation.injEq, KpiObservationRow.mk.injEq] at row
    refine ⟨_, _, next, same, ?_, ?_, writes⟩
    · exact row.1
    · refine copies.next (nextVersion_ok advanced) ?_ rfl ⟨copies.timed.1, ?_⟩
      · simp only [keptObservations, row]
        rfl
      · exact (congrArg (max now) copies.timed.2).trans (max_self now)

end MissionControl.Portfolio

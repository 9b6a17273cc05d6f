import MissionControl.Portfolio.Lowering

/-! What the commands of the Portfolio repository leave in the tables. Rows that tell of a
command stay as they are; a record either stays as it is or gets a later version. -/

namespace MissionControl.Portfolio
open Checked
open Evidence (RegistryRow)
open Delivery (OperationContext PreparedIntentRow storageError)

def KeepsAudits (before after : PortfolioTables) : Prop :=
  ∀ id row, before.auditEvents.find id = some row → after.auditEvents.find id = some row

/-- No record is lost, and one that changed has a later version. -/
def Advances (before after : PortfolioTables) : Prop :=
  ∀ key registered row, before.standing key = some (registered, row) →
    ∃ registered' row', after.standing key = some (registered', row') ∧ registered'.createdAt = registered.createdAt ∧
      ((registered' = registered ∧ row' = row) ∨ registered.version.get < registered'.version.get)

/-- What a later state still holds of what was kept of commands and of records. -/
structure Grows (before after : PortfolioTables) : Prop where
  results : ∀ key row, before.commandResults.find key = some row → after.commandResults.find key = some row
  prepares : ∀ id row, before.commandPrepares.find id = some row → after.commandPrepares.find id = some row
  executes : ∀ id row, before.commandExecutes.find id = some row → after.commandExecutes.find id = some row
  claims : ∀ id row, before.idempotencyClaims.find id = some row → after.idempotencyClaims.find id = some row
  digests : ∀ id digest, (before.preparedIntents.find id).map (·.payloadDigest) = some digest →
    (after.preparedIntents.find id).map (·.payloadDigest) = some digest
  audits : KeepsAudits before after
  advances : Advances before after

section
variable {before middle after : PortfolioTables}

theorem Advances.of_same (same : ∀ key, after.standing key = before.standing key) : Advances before after :=
  fun key registered row found => ⟨registered, row, (same key).trans found, rfl, .inl ⟨rfl, rfl⟩⟩

theorem Advances.trans (one : Advances before middle) (two : Advances middle after) : Advances before after := by
  intro key registered row found
  obtain ⟨registered', row', found', created', changed'⟩ := one key registered row found
  obtain ⟨registered'', row'', found'', created'', changed''⟩ := two key registered' row' found'
  refine ⟨registered'', row'', found'', created''.trans created', ?_⟩
  rcases changed' with ⟨rfl, rfl⟩ | later
  · exact changed''
  · rcases changed'' with ⟨rfl, rfl⟩ | latest
    · exact .inr later
    · exact .inr (later.trans latest)

theorem Grows.refl (tables : PortfolioTables) : Grows tables tables where
  results := fun _ _ found => found
  prepares := fun _ _ found => found
  executes := fun _ _ found => found
  claims := fun _ _ found => found
  digests := fun _ _ found => found
  audits := fun _ _ found => found
  advances := .of_same fun _ => rfl

theorem Grows.trans (one : Grows before middle) (two : Grows middle after) : Grows before after where
  results := fun key row found => two.results key row (one.results key row found)
  prepares := fun id row found => two.prepares id row (one.prepares id row found)
  executes := fun id row found => two.executes id row (one.executes id row found)
  claims := fun id row found => two.claims id row (one.claims id row found)
  digests := fun id digest found => two.digests id digest (one.digests id digest found)
  audits := fun id row found => two.audits id row (one.audits id row found)
  advances := one.advances.trans two.advances

theorem Grows.unclaimed {id : IdempotencyId} (grows : Grows before after) (unclaimed : after.idempotencyClaims.find id = none) :
    before.idempotencyClaims.find id = none := by
  cases found : before.idempotencyClaims.find id with
  | none => rfl
  | some row => cases (grows.claims id row found).symm.trans unclaimed

theorem Advances.touch {start : PortfolioTables} (key : RecordKey) (advances : Advances start before)
    (others : ∀ other, other ≠ key → after.standing other = before.standing other)
    (own : ∀ registered row, before.standing key = some (registered, row) →
      ∃ registered' row', after.standing key = some (registered', row') ∧ registered'.createdAt = registered.createdAt ∧
        ∀ first former, start.standing key = some (first, former) → first.version.get < registered'.version.get) :
    Advances start after := by
  intro other first former found
  obtain ⟨registered, row, there, created, changed⟩ := advances other first former found
  by_cases same : other = key
  · subst same
    obtain ⟨registered', row', there', created', later⟩ := own registered row there
    exact ⟨registered', row', there', created'.trans created, .inr (later first former found)⟩
  · exact ⟨registered, row, (others other same).trans there, created, changed⟩

end

section
variable {context : OperationContext} {before after : PortfolioTables}

theorem Grows.of_same (results : after.commandResults = before.commandResults)
    (prepares : after.commandPrepares = before.commandPrepares) (executes : after.commandExecutes = before.commandExecutes)
    (claims : after.idempotencyClaims = before.idempotencyClaims) (intents : after.preparedIntents = before.preparedIntents)
    (audits : after.auditEvents = before.auditEvents) (advances : Advances before after) : Grows before after where
  results := fun _ _ found => results ▸ found
  prepares := fun _ _ found => prepares ▸ found
  executes := fun _ _ found => executes ▸ found
  claims := fun _ _ found => claims ▸ found
  digests := fun _ _ found => intents ▸ found
  audits := fun _ _ found => audits ▸ found
  advances

variable {key : RecordKey}

theorem standing_some {tables : PortfolioTables} {registered : RegistryRow} {row : RecordRow} :
    tables.standing key = some (registered, row) ↔
      tables.aggregate key = some registered ∧ tables.records.find key = some row := by
  unfold PortfolioTables.standing
  constructor
  · intro found
    obtain ⟨_, aggregate, found⟩ := Option.bind_eq_some_iff.mp found
    obtain ⟨_, record, same⟩ := Option.map_eq_some_iff.mp found
    cases same
    exact ⟨aggregate, record⟩
  · intro ⟨aggregate, record⟩
    rw [aggregate, record]
    rfl

theorem decodeAudit_kept {id : AuditEventId} {audit : AuditEvent} (other : OperationContext) (kept : KeepsAudits before after)
    (told : decodeAudit context before id = .ok audit) : decodeAudit other after id = .ok audit := by
  obtain ⟨row, found, told⟩ := bind_ok.mp told
  obtain ⟨_, aimed, told⟩ := bind_ok.mp told
  refine bind_ok.mpr ⟨row, require_ok.mpr (kept id row (require_ok.mp found)), ?_⟩
  exact bind_ok.mpr ⟨(), ensure_ok.mpr (ensure_ok.mp aimed), pure_ok.mpr (pure_ok.mp told)⟩

variable {occurredAt : UtcTimestamp}

theorem persistPortfolioAudit_ok {id : AuditEventId} {target : AuditTarget} {code : AuditEventCode}
    (aimed : isPortfolioTarget target = true)
    (success : persistPortfolioAudit context (buildAudit id occurredAt target code context.correlationId) before = .ok after)
    :
    Grows before after ∧ ∀ other, decodeAudit other after id =
      .ok (buildAudit id occurredAt target code context.correlationId) := by
  obtain ⟨_, _, success⟩ := bind_ok.mp success
  obtain ⟨auditEvents, inserted, success⟩ := bind_ok.mp success
  cases pure_ok.mp success
  have inserted := require_ok.mp inserted
  constructor
  · exact { Grows.refl before with
      audits := fun _ _ => Relation.find_insert_kept inserted
      advances := .of_same fun _ => rfl }
  · intro other
    refine bind_ok.mpr ⟨_, require_ok.mpr (Relation.find_inserted inserted), ?_⟩
    exact bind_ok.mpr ⟨(), ensure_ok.mpr aimed, rfl⟩

variable {classification : DataClassification}

theorem registerAggregate_grows (success : registerAggregate context key classification occurredAt before = .ok after) :
    Grows before after := by
  obtain ⟨_, _, success⟩ := bind_ok.mp success
  obtain ⟨_, inserted, success⟩ := bind_ok.mp success
  cases pure_ok.mp success
  refine .of_same rfl rfl rfl rfl rfl rfl fun key registered row found => ?_
  obtain ⟨aggregate, record⟩ := standing_some.mp found
  obtain ⟨there, kind⟩ := Option.filter_eq_some_iff.mp aggregate
  refine ⟨registered, row, standing_some.mpr ⟨?_, record⟩, rfl, .inl ⟨rfl, rfl⟩⟩
  exact Option.filter_eq_some_iff.mpr ⟨Relation.find_insert_kept (require_ok.mp inserted) there, kind⟩

theorem insertRecord_grows {row : RecordRow} (success : insertRecord context row before = .ok after) : Grows before after := by
  obtain ⟨_, inserted, success⟩ := bind_ok.mp success
  cases pure_ok.mp success
  refine .of_same rfl rfl rfl rfl rfl rfl fun key registered row found => ?_
  obtain ⟨aggregate, record⟩ := standing_some.mp found
  have record := Relation.find_insert_kept (require_ok.mp inserted) record
  exact ⟨registered, row, standing_some.mpr ⟨aggregate, record⟩, rfl, .inl ⟨rfl, rfl⟩⟩

theorem claimIdempotency_ok {operation : PortfolioOperation} (success : claimIdempotency context operation before = .ok after) :
    Grows before after ∧
      after.idempotencyClaims.find context.idempotencyId = some ⟨context.idempotencyId, operation⟩ ∧
      before.idempotencyClaims.find context.idempotencyId = none := by
  obtain ⟨_, inserted, success⟩ := bind_ok.mp success
  cases pure_ok.mp success
  have inserted := require_ok.mp inserted
  exact ⟨{ Grows.refl before with
    claims := fun _ _ => Relation.find_insert_kept inserted
    advances := .of_same fun _ => rfl }, Relation.find_inserted inserted, Relation.insert_fresh inserted⟩

theorem persistIdempotencyClaim_grows {operation : PortfolioOperation}
    (success : persistIdempotencyClaim context operation occurredAt before = .ok after) : Grows before after := by
  obtain ⟨_, _, success⟩ := bind_ok.mp success
  exact (claimIdempotency_ok success).1

theorem advanceRevision_ok (success : advanceRevision context before = .ok after) :
    after = { before with ledgerRevision := before.ledgerRevision + 1 } := by
  obtain ⟨_, _, success⟩ := bind_ok.mp success
  exact (pure_ok.mp success).symm

theorem advanceRevision_grows (success : advanceRevision context before = .ok after) : Grows before after := by
  rw [advanceRevision_ok success]
  exact { Grows.refl before with advances := .of_same fun _ => rfl }

variable {version : AggregateVersion} {updatedAt : UtcTimestamp}

theorem reviseAggregate_ok (success : reviseAggregate context key version classification updatedAt before = .ok after) :
    after = { before with registry := after.registry } ∧ ∀ other, after.aggregate other =
      if other = key then (before.aggregate key).map fun row => { row with version, classification, updatedAt }
      else before.aggregate other := by
  obtain ⟨_, _, success⟩ := bind_ok.mp success
  obtain ⟨_, _, success⟩ := bind_ok.mp success
  cases pure_ok.mp success
  clear success
  refine ⟨rfl, fun other => ?_⟩
  unfold PortfolioTables.aggregate
  dsimp only
  rw [Relation.find_update]
  obtain ⟨kind, id⟩ := key
  obtain ⟨kind', id'⟩ := other
  by_cases same : id = id'
  · subst same
    cases before.registry.find id with
    | none => simp
    | some row =>
      by_cases typed : row.aggregateType = kind
      · subst typed
        by_cases alike : row.aggregateType = kind'
        · simp [Option.filter, alike]
        · simp [Option.filter, alike, Ne.symm alike]
      · by_cases alike : kind' = kind
        · simp [Option.filter, alike, typed]
        · simp [Option.filter, alike, typed]
  · have different : ({ aggregateType := kind', id := id' } : RecordKey) ≠ ⟨kind, id⟩ := fun equal => by
      cases equal
      exact same rfl
    rw [if_neg different]
    simp [same]

theorem rewrite_advances {start : PortfolioTables} {change : Change} (advances : Advances start before)
    (rises : ∀ registered, start.aggregate key = some registered → registered.version.get < version.get)
    (success : reviseAggregate context key version classification updatedAt
      { before with records := before.records.update key change.apply change.keeps } = .ok after) :
    Advances start after := by
  obtain ⟨same, aggregates⟩ := reviseAggregate_ok success
  have records : after.records = before.records.update key change.apply change.keeps := by rw [same]
  refine advances.touch key (fun other different => ?_) fun registered row found => ?_
  · unfold PortfolioTables.standing
    rw [aggregates, if_neg different, records, Relation.find_update_other (Ne.symm different)]
    rfl
  · obtain ⟨aggregate, record⟩ := standing_some.mp found
    refine ⟨{ registered with version, classification, updatedAt }, change.apply row, standing_some.mpr ⟨?_, ?_⟩, rfl,
      fun first former there => ?_⟩
    · exact (aggregates key).trans ((if_pos rfl).trans (congrArg (Option.map _) aggregate))
    · rw [records, Relation.find_update_self record]
    · exact rises first (standing_some.mp there).1

theorem revise_advances {start : PortfolioTables} (advances : Advances start before)
    (rises : ∀ registered, start.aggregate key = some registered → registered.version.get < version.get)
    (success : reviseAggregate context key version classification updatedAt before = .ok after) :
    Advances start after := by
  obtain ⟨same, aggregates⟩ := reviseAggregate_ok success
  have records : after.records = before.records := by rw [same]
  refine advances.touch key (fun other different => ?_) fun registered row found => ?_
  · unfold PortfolioTables.standing
    rw [aggregates, if_neg different, records]
  · obtain ⟨aggregate, record⟩ := standing_some.mp found
    refine ⟨{ registered with version, classification, updatedAt }, row, standing_some.mpr ⟨?_, records ▸ record⟩, rfl,
      fun first former there => ?_⟩
    · exact (aggregates key).trans ((if_pos rfl).trans (congrArg (Option.map _) aggregate))
    · exact rises first (standing_some.mp there).1

end

theorem next_rises {version later : AggregateVersion} (advanced : version.next = some later) : version.get < later.get := by
  have := AggregateVersion.next_get advanced
  omega

/-- A create or an update under this key, as later commands find it. -/
def CommandRecorded (context : OperationContext) (operation : PortfolioOperation) (command : CommandIdentity)
    (result : ResultRecord) (audit : AuditEvent) (tables : PortfolioTables) : Prop :=
  ∃ row id, tables.commandResults.find (operation, context.idempotencyId) = some row ∧ row.command = command ∧
    row.result = result ∧ row.auditEventIds.head? = some id ∧ ∀ other, decodeAudit other tables id = .ok audit

variable {context : OperationContext}

theorem CommandRecorded.grows {operation : PortfolioOperation} {command : CommandIdentity} {result : ResultRecord}
    {audit : AuditEvent} {before after : PortfolioTables}
    (recorded : CommandRecorded context operation command result audit before) (grows : Grows before after) :
    CommandRecorded context operation command result audit after := by
  obtain ⟨row, id, found, asked, answered, first, told⟩ := recorded
  exact ⟨row, id, grows.results _ row found, asked, answered, first, fun other =>
    decodeAudit_kept other grows.audits (told other)⟩

def Cascade.Raises (cascade : Cascade) : Prop :=
  ∀ before after derived, cascade before = .ok (after, derived) → Grows before after

theorem noCascade_raises : noCascade.Raises := by
  intro before after derived success
  cases success
  exact .refl before

section
variable {kind : IdKind} {Record : Type} {kept : Kept kind Record} {context : OperationContext}
  {operation : PortfolioOperation} {command : CommandIdentity} {code : AuditEventCode} {arguments : Arguments}
  {before after : PortfolioTables}

theorem recordChange_ok {result : ResultRecord} {id : AuditEventId} {occurredAt now : UtcTimestamp} {target : AuditTarget}
    {cascade : Cascade} (raises : cascade.Raises) (aimed : isPortfolioTarget target = true)
    (success : recordChange context operation command result
      (buildAudit id occurredAt target code context.correlationId) now cascade before = .ok after) :
    Grows before after ∧
      CommandRecorded context operation command result (buildAudit id occurredAt target code context.correlationId) after := by
  obtain ⟨audited, persisted, success⟩ := bind_ok.mp success
  obtain ⟨_, _, success⟩ := bind_ok.mp success
  obtain ⟨claiming, claimed, success⟩ := bind_ok.mp success
  obtain ⟨⟨raising, derived⟩, cascading, success⟩ := bind_ok.mp success
  obtain ⟨commandResults, inserted, success⟩ := bind_ok.mp success
  obtain ⟨own, told⟩ := persistPortfolioAudit_ok aimed persisted
  have inserted := require_ok.mp inserted
  have recording : Grows raising { raising with commandResults } := { Grows.refl raising with
    results := fun _ _ => Relation.find_insert_kept inserted
    advances := .of_same fun _ => rfl }
  have raised := (persistIdempotencyClaim_grows claimed).trans (raises _ _ _ cascading)
  have later := (raised.trans recording).trans (advanceRevision_grows success)
  have found := (advanceRevision_grows success).results _ _ (Relation.find_inserted inserted)
  exact ⟨own.trans later, _, id, found, rfl, rfl, rfl, fun other => decodeAudit_kept other later.audits (told other)⟩

variable {outcome : MutationOutcome Record}

theorem placeStored_ok {value : Record} (aimed : ∀ id, isPortfolioTarget (kept.family.auditTarget id) = true)
    (success : placeStored kept context operation command code value arguments before = .ok (after, outcome)) :
    Grows before after ∧ CommandRecorded context operation command (kept.result outcome.record) outcome.auditEvent after := by
  obtain ⟨_, registered, success⟩ := bind_ok.mp success
  obtain ⟨_, inserted, success⟩ := bind_ok.mp success
  obtain ⟨_, recorded, success⟩ := bind_ok.mp success
  cases pure_ok.mp success
  obtain ⟨grows, recorded⟩ := recordChange_ok noCascade_raises (aimed _) recorded
  exact ⟨((registerAggregate_grows registered).trans (insertRecord_grows inserted)).trans grows, recorded⟩

variable {id : OpaqueId kind}

theorem rewriteStored_ok {change : Change} {updatedAt : UtcTimestamp} {cascade : Cascade} {value : Record}
    (aimed : ∀ id, isPortfolioTarget (kept.family.auditTarget id) = true) (raises : cascade.Raises)
    (rises : ∀ registered, before.aggregate (kept.key id) = some registered →
      registered.version.get < (kept.family.version value).get)
    (success : rewriteStored kept context operation command code id change updatedAt cascade value arguments before =
      .ok (after, outcome)) :
    Grows before after ∧ CommandRecorded context operation command (kept.result outcome.record) outcome.auditEvent after := by
  obtain ⟨revised, revising, success⟩ := bind_ok.mp success
  obtain ⟨_, recorded, success⟩ := bind_ok.mp success
  cases pure_ok.mp success
  obtain ⟨same, _⟩ := reviseAggregate_ok revising
  have advances := rewrite_advances (.of_same fun _ => rfl) rises revising
  have rewriting : Grows before revised :=
    .of_same (by rw [same]) (by rw [same]) (by rw [same]) (by rw [same]) (by rw [same]) (by rw [same]) advances
  obtain ⟨grows, recorded⟩ := recordChange_ok raises (aimed _) recorded
  exact ⟨rewriting.trans grows, recorded⟩

theorem orRecorded_ok {fresh : Except DomainError (PortfolioTables × MutationOutcome Record)}
    (success : orRecorded kept context operation command before fresh = .ok (after, outcome)) :
    after = before ∨ fresh = .ok (after, outcome) := by
  unfold orRecorded at success
  split at success
  next existing found =>
    obtain ⟨_, _, success⟩ := bind_ok.mp success
    obtain ⟨_, _, success⟩ := bind_ok.mp success
    cases pure_ok.mp success
    exact .inl rfl
  next => exact .inr success

def Leaves (kept : Kept kind Record) (context : OperationContext) (operation : PortfolioOperation) (command : CommandIdentity)
    (outcome : MutationOutcome Record) (before after : PortfolioTables) : Prop :=
  after = before ∨
    Grows before after ∧ CommandRecorded context operation command (kept.result outcome.record) outcome.auditEvent after

theorem createStored_ok {value : Record} (aimed : ∀ id, isPortfolioTarget (kept.family.auditTarget id) = true)
    (success : createStored kept context operation command code value arguments before = .ok (after, outcome)) :
    Leaves kept context operation command outcome before after := by
  refine (orRecorded_ok success).imp_right fun success => ?_
  obtain ⟨_, _, success⟩ := bind_ok.mp success
  exact placeStored_ok aimed success

theorem stored_some {tables : PortfolioTables} {registered : RegistryRow} {record : Record} :
    kept.stored tables id = some (registered, record) ↔
      ∃ row, tables.standing (kept.key id) = some (registered, row) ∧ kept.record registered row = some record := by
  unfold Kept.stored
  constructor
  · intro found
    obtain ⟨⟨registered', row⟩, standing, found⟩ := Option.bind_eq_some_iff.mp found
    obtain ⟨_, read, same⟩ := Option.map_eq_some_iff.mp found
    cases same
    exact ⟨row, standing, read⟩
  · intro ⟨row, standing, read⟩
    exact Option.bind_eq_some_iff.mpr ⟨_, standing, Option.map_eq_some_iff.mpr ⟨record, read, rfl⟩⟩

theorem stored_aggregate {tables : PortfolioTables} {registered : RegistryRow} {record : Record}
    (found : kept.stored tables id = some (registered, record)) : tables.aggregate (kept.key id) = some registered := by
  obtain ⟨_, standing, _⟩ := stored_some.mp found
  exact (standing_some.mp standing).1

theorem updateStored_ok {expectedVersion : AggregateVersion} {requested : Option DataClassification} {change : Change}
    {changed : Record → AggregateVersion → DataClassification → Record} {cascade : DataClassification → Cascade}
    (aimed : ∀ id, isPortfolioTarget (kept.family.auditTarget id) = true)
    (raises : ∀ classification, (cascade classification).Raises)
    (versioned : ∀ record version classification, kept.family.version (changed record version classification) = version)
    (success : updateStored kept context operation command code id expectedVersion requested change changed cascade arguments
      before = .ok (after, outcome)) : Leaves kept context operation command outcome before after := by
  refine (orRecorded_ok success).imp_right fun success => ?_
  obtain ⟨⟨registered, record⟩, found, success⟩ := bind_ok.mp success
  obtain ⟨_, standing, success⟩ := bind_ok.mp success
  obtain ⟨classification, _, success⟩ := bind_ok.mp success
  obtain ⟨version, advanced, success⟩ := bind_ok.mp success
  refine rewriteStored_ok aimed (raises _) (fun first there => ?_) success
  cases (stored_aggregate (require_ok.mp found)).symm.trans there
  rw [versioned]
  exact next_rises (ensure_ok.mp standing ▸ require_ok.mp advanced)

end

variable {classification : DataClassification}

theorem inheritStored_ok {arguments : Arguments} {start before after : PortfolioTables} {draw : Nat}
    {affected : List (RegistryRow × KpiObservationRow)} {derived : List DerivedKpiObservationMutation}
    (grows : Grows start before)
    (held : ∀ found ∈ affected, start.aggregate (keptObservations.key found.2.id) = some found.1)
    (success : inheritStored context classification arguments draw affected before = .ok (after, derived)) :
    Grows start after := by
  induction affected generalizing draw before derived with
  | nil =>
    cases pure_ok.mp success
    exact grows
  | cons found rest following =>
    obtain ⟨registered, row⟩ := found
    obtain ⟨version, advanced, success⟩ := bind_ok.mp success
    obtain ⟨audited, persisted, success⟩ := bind_ok.mp success
    obtain ⟨revised, revising, success⟩ := bind_ok.mp success
    obtain ⟨⟨_, others⟩, onwards, success⟩ := bind_ok.mp success
    cases pure_ok.mp success
    have own := grows.trans (persistPortfolioAudit_ok rfl persisted).1
    obtain ⟨same, _⟩ := reviseAggregate_ok revising
    have advances : Advances start revised := revise_advances own.advances (fun first there => by
      cases (held _ (List.mem_cons_self ..)).symm.trans there
      exact next_rises (require_ok.mp advanced)) revising
    refine following ?_ (fun found later => held found (List.mem_cons_of_mem _ later)) onwards
    rw [same] at advances ⊢
    exact { own with advances }

theorem observationsOf_aggregate {tables : PortfolioTables} {id : KpiId} {found : RegistryRow × KpiObservationRow}
    (held : found ∈ tables.observationsOf id) : tables.aggregate (keptObservations.key found.2.id) = some found.1 := by
  obtain ⟨row, _, read⟩ := List.mem_filterMap.mp ((Sorting.mem_sortBy _).mp held)
  cases row with
  | kpiObservation row =>
    dsimp only at read
    split at read
    · obtain ⟨_, there, rfl⟩ := Option.map_eq_some_iff.mp read
      exact there
    · cases read
  | _ => cases read

theorem raiseObservations_raises {id : KpiId} {arguments : Arguments} :
    (raiseObservations context id arguments classification).Raises := by
  intro before after derived success
  exact inheritStored_ok (.refl before) (fun found held => observationsOf_aggregate (List.mem_filter.mp held).1) success

variable {arguments : Arguments} {before after : PortfolioTables}

variable {outcome : MutationOutcome KpiObservationRecord}

theorem createKpiObservation_ok {command : CreateKpiObservation}
    (success : SqliteProductLedger.createKpiObservation command arguments before = .ok (after, outcome)) :
    Leaves keptObservations command.context .createKpiObservation
      (.createObservation command.id command.kpiId command.value command.observedAt command.source command.classification
        command.provenance) outcome before after := by
  refine (orRecorded_ok success).imp_right fun success => ?_
  obtain ⟨_, _, success⟩ := bind_ok.mp success
  obtain ⟨_, _, success⟩ := bind_ok.mp success
  obtain ⟨_, _, success⟩ := bind_ok.mp success
  exact placeStored_ok (fun _ => rfl) success

theorem updateKpiObservationDetails_ok {command : UpdateKpiObservationDetails}
    (success : SqliteProductLedger.updateKpiObservationDetails command arguments before = .ok (after, outcome)) :
    Leaves keptObservations command.context .updateKpiObservation
      (.updateObservation command.id command.expectedVersion command.value command.observedAt command.source
        command.classification) outcome before after := by
  refine (orRecorded_ok success).imp_right fun success => ?_
  obtain ⟨⟨registered, record⟩, found, success⟩ := bind_ok.mp success
  obtain ⟨_, standing, success⟩ := bind_ok.mp success
  obtain ⟨_, _, success⟩ := bind_ok.mp success
  obtain ⟨_, _, success⟩ := bind_ok.mp success
  obtain ⟨version, advanced, success⟩ := bind_ok.mp success
  obtain ⟨_, _, success⟩ := bind_ok.mp success
  refine rewriteStored_ok (fun _ => rfl) noCascade_raises (fun first there => ?_) success
  cases (stored_aggregate (require_ok.mp found)).symm.trans there
  exact next_rises (ensure_ok.mp standing ▸ require_ok.mp advanced)

end MissionControl.Portfolio

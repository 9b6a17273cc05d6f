import MissionControl.Delivery.Lowering

/-! What a Delivery command leaves of itself in the tables: the claim of its key, its row
and the audits it names. -/

namespace MissionControl.Delivery
open Checked

def KeepsAudits (before after : DeliveryTables) : Prop :=
  ∀ id row, before.auditEvents.find id = some row → after.auditEvents.find id = some row

structure OnlyAudits (before after : DeliveryTables) : Prop where
  results : after.commandResults = before.commandResults
  executes : after.commandExecutes = before.commandExecutes
  claims : after.idempotencyClaims = before.idempotencyClaims
  kept : KeepsAudits before after

theorem OnlyAudits.trans {first middle last : DeliveryTables} (one : OnlyAudits first middle) (two : OnlyAudits middle last) :
    OnlyAudits first last where
  results := two.results.trans one.results
  executes := two.executes.trans one.executes
  claims := two.claims.trans one.claims
  kept := fun id row found => two.kept id row (one.kept id row found)

/-- A create or an update that was carried out. -/
structure Wrote (row : CommandResultRow) (audits : List AuditEvent) (before after : DeliveryTables) : Prop where
  claimed : before.idempotencyClaims.insert ⟨row.idempotencyId, row.operation⟩ = some after.idempotencyClaims
  recorded : before.commandResults.insert row = some after.commandResults
  executes : after.commandExecutes = before.commandExecutes
  kept : KeepsAudits before after
  audited : ∀ context, row.auditEventIds.mapM (decodeDeliveryAudit context after) = .ok audits

structure Executed (row : CommandExecuteRow) (audit : AuditEvent) (before after : DeliveryTables) : Prop where
  claimed : before.idempotencyClaims.insert ⟨row.idempotencyId, .executeLowerClassification⟩ = some after.idempotencyClaims
  recorded : before.commandExecutes.insert row = some after.commandExecutes
  results : after.commandResults = before.commandResults
  kept : KeepsAudits before after
  audited : ∀ context, decodeDeliveryAudit context after row.auditEventId = .ok audit

structure Previewed (id : IdempotencyId) (before after : DeliveryTables) : Prop where
  claimed : before.idempotencyClaims.insert ⟨id, .prepareLowerClassification⟩ = some after.idempotencyClaims
  results : after.commandResults = before.commandResults
  executes : after.commandExecutes = before.commandExecutes
  audits : after.auditEvents = before.auditEvents

theorem Wrote.after {row : CommandResultRow} {audits : List AuditEvent} {before middle after : DeliveryTables}
    (wrote : Wrote row audits middle after) (first : OnlyAudits before middle) : Wrote row audits before after where
  claimed := first.claims ▸ wrote.claimed
  recorded := first.results ▸ wrote.recorded
  executes := wrote.executes.trans first.executes
  kept := fun id row found => wrote.kept id row (first.kept id row found)
  audited := wrote.audited

section
variable {context : OperationContext} {before after : DeliveryTables} {id : AuditEventId} {audit : AuditEvent}

theorem decodeDeliveryAudit_kept (other : OperationContext) (kept : KeepsAudits before after)
    (told : decodeDeliveryAudit context before id = .ok audit) : decodeDeliveryAudit other after id = .ok audit := by
  obtain ⟨row, found, told⟩ := bind_ok.mp told
  obtain ⟨_, aimed, told⟩ := bind_ok.mp told
  refine bind_ok.mpr ⟨row, require_ok.mpr (kept id row (require_ok.mp found)), ?_⟩
  exact bind_ok.mpr ⟨(), ensure_ok.mpr (ensure_ok.mp aimed), pure_ok.mpr (pure_ok.mp told)⟩

theorem decodeDeliveryAudits_kept {ids : List AuditEventId} {audits : List AuditEvent} (other : OperationContext)
    (kept : KeepsAudits before after) (told : ids.mapM (decodeDeliveryAudit context before) = .ok audits) :
    ids.mapM (decodeDeliveryAudit other after) = .ok audits :=
  mapM_ok.mpr ((mapM_ok.mp told).imp fun _ _ => decodeDeliveryAudit_kept other kept)

theorem persistDeliveryAudit_ok {occurredAt : UtcTimestamp} {target : AuditTarget} {code : AuditEventCode}
    (aimed : isDeliveryTarget target = true)
    (success : persistDeliveryAudit context (buildDeliveryAudit id occurredAt target code context.correlationId) target before =
      .ok after) :
    OnlyAudits before after ∧ ∀ other, decodeDeliveryAudit other after id =
      .ok (buildDeliveryAudit id occurredAt target code context.correlationId) := by
  obtain ⟨_, _, success⟩ := bind_ok.mp success
  obtain ⟨auditEvents, inserted, success⟩ := bind_ok.mp success
  cases pure_ok.mp success
  have inserted := require_ok.mp inserted
  refine ⟨⟨rfl, rfl, rfl, fun _ _ => Relation.find_insert_kept inserted⟩, fun other => ?_⟩
  refine bind_ok.mpr ⟨_, require_ok.mpr (Relation.find_inserted inserted), ?_⟩
  exact bind_ok.mpr ⟨(), ensure_ok.mpr aimed, rfl⟩

end

section
variable {context : OperationContext} {before after : DeliveryTables}

variable {classification : DataClassification}

variable {occurredAt : UtcTimestamp}

theorem registerAggregate_ok {id : String} {aggregateType : Evidence.AggregateType}
    (success : registerAggregate context id aggregateType classification occurredAt before = .ok after) :
    OnlyAudits before after := by
  obtain ⟨_, _, success⟩ := bind_ok.mp success
  obtain ⟨_, _, success⟩ := bind_ok.mp success
  cases pure_ok.mp success
  exact ⟨rfl, rfl, rfl, fun _ _ found => found⟩

theorem reviseAggregate_ok {registered : Evidence.RegistryRow} {version : AggregateVersion}
    (success : reviseAggregate context registered version classification occurredAt before = .ok after) :
    OnlyAudits before after := by
  obtain ⟨_, _, success⟩ := bind_ok.mp success
  cases pure_ok.mp success
  exact ⟨rfl, rfl, rfl, fun _ _ found => found⟩

variable {operation : DeliveryOperation}

theorem claimIdempotency_ok (success : claimIdempotency context operation before = .ok after) :
    before.idempotencyClaims.insert ⟨context.idempotencyId, operation⟩ = some after.idempotencyClaims ∧
      after = { before with idempotencyClaims := after.idempotencyClaims } := by
  obtain ⟨_, inserted, success⟩ := bind_ok.mp success
  cases pure_ok.mp success
  exact ⟨require_ok.mp inserted, rfl⟩

theorem persistDeliveryIdempotencyClaim_ok
    (success : persistDeliveryIdempotencyClaim context operation occurredAt before = .ok after) :
    before.idempotencyClaims.insert ⟨context.idempotencyId, operation⟩ = some after.idempotencyClaims ∧
      after = { before with idempotencyClaims := after.idempotencyClaims } := by
  obtain ⟨_, _, success⟩ := bind_ok.mp success
  exact claimIdempotency_ok success

theorem advanceRevision_ok (success : advanceRevision context before = .ok after) :
    after = { before with ledgerRevision := before.ledgerRevision + 1 } := by
  obtain ⟨_, _, success⟩ := bind_ok.mp success
  exact (pure_ok.mp success).symm

/-- The row of a create or an update, as far as it does not depend on when it was carried out. -/
structure CommandResultRow.Tells (row : CommandResultRow) (context : OperationContext) (operation : DeliveryOperation)
    (command : CommandIdentity) (result : StoredResult) (auditEventIds : List AuditEventId) : Prop where
  operation : row.operation = operation
  idempotencyId : row.idempotencyId = context.idempotencyId
  command : row.command = command
  result : row.result = result
  auditEventIds : row.auditEventIds = auditEventIds

theorem recordResult_ok {command : CommandIdentity} {result : StoredResult} {operationOrdinal : Nat}
    {auditEventIds : List AuditEventId} {derived : List DerivedMilestoneMutation}
    (success : recordResult context operation command result operationOrdinal auditEventIds derived before = .ok after) :
    ∃ row, row.Tells context operation command result auditEventIds ∧
      before.commandResults.insert row = some after.commandResults ∧ after.commandExecutes = before.commandExecutes ∧
      after.idempotencyClaims = before.idempotencyClaims ∧ after.auditEvents = before.auditEvents := by
  obtain ⟨_, inserted, success⟩ := bind_ok.mp success
  obtain ⟨_, _, inserted⟩ := bind_ok.mp inserted
  obtain ⟨_, recorded, inserted⟩ := bind_ok.mp inserted
  cases pure_ok.mp inserted
  rw [advanceRevision_ok success]
  exact ⟨_, ⟨rfl, rfl, rfl, rfl, rfl⟩, require_ok.mp recorded, rfl, rfl, rfl⟩

theorem recordChange_ok {command : CommandIdentity} {result : StoredResult} {id : AuditEventId}
    {occurredAt now : UtcTimestamp} {target : AuditTarget} {code : AuditEventCode}
    (aimed : isDeliveryTarget target = true) (success : recordChange context operation command result
      (buildDeliveryAudit id occurredAt target code context.correlationId) now before = .ok after) :
    ∃ row, row.Tells context operation command result [id] ∧
      Wrote row [buildDeliveryAudit id occurredAt target code context.correlationId] before after := by
  obtain ⟨audited, persisted, success⟩ := bind_ok.mp success
  obtain ⟨_, _, success⟩ := bind_ok.mp success
  obtain ⟨claiming, claimed, success⟩ := bind_ok.mp success
  obtain ⟨only, told⟩ := persistDeliveryAudit_ok aimed persisted
  obtain ⟨claimed, same⟩ := persistDeliveryIdempotencyClaim_ok claimed
  obtain ⟨row, tells, recorded, executes, claims, audits⟩ := recordResult_ok success
  rw [same] at recorded executes audits
  have kept : KeepsAudits audited after := fun _ _ found => audits ▸ found
  have wrote : Wrote row [buildDeliveryAudit id occurredAt target code context.correlationId] audited after :=
    { claimed := by rw [tells.idempotencyId, tells.operation, claims, claimed]
      recorded
      executes
      kept
      audited := fun other => by
        rw [tells.auditEventIds]
        exact mapM_ok.mpr (.cons (decodeDeliveryAudit_kept other kept (told other)) .nil) }
  exact ⟨row, tells, wrote.after only⟩

theorem cascade_ok {arguments : Arguments} {draw : Nat} {affected : List (Evidence.RegistryRow × MilestoneRow)}
    {raised : List (Milestone × DerivedMilestoneMutation)}
    (success : cascade context classification arguments draw affected before = .ok (after, raised)) :
    OnlyAudits before after ∧ raised.length = affected.length ∧
      ∃ audits, ∀ other, (raised.map fun one => one.2.auditEventId).mapM (decodeDeliveryAudit other after) = .ok audits := by
  induction affected generalizing draw before raised with
  | nil =>
    cases pure_ok.mp success
    exact ⟨⟨rfl, rfl, rfl, fun _ _ found => found⟩, rfl, [], fun _ => rfl⟩
  | cons found rest following =>
    obtain ⟨registered, row⟩ := found
    obtain ⟨version, _, success⟩ := bind_ok.mp success
    obtain ⟨_, revised, success⟩ := bind_ok.mp success
    obtain ⟨auditEventId, _, success⟩ := bind_ok.mp success
    obtain ⟨_, persisted, success⟩ := bind_ok.mp success
    obtain ⟨_, _, success⟩ := bind_ok.mp success
    obtain ⟨⟨_, later⟩, onwards, success⟩ := bind_ok.mp success
    cases pure_ok.mp success
    obtain ⟨audited, told⟩ := persistDeliveryAudit_ok rfl persisted
    obtain ⟨others, same, audits, told'⟩ := following onwards
    refine ⟨((reviseAggregate_ok revised).trans audited).trans others, congrArg Nat.succ same, ?_⟩
    exact ⟨_, fun other => mapM_ok.mpr
      (.cons (decodeDeliveryAudit_kept other others.kept (told other)) (mapM_ok.mp (told' other)))⟩

end

section
variable {context : OperationContext} {tables : DeliveryTables} {row : CommandResultRow} {audit : AuditEvent}

variable {id : AuditEventId}

theorem decodeFirstAudit_ok (named : row.auditEventIds = [id])
    (told : row.auditEventIds.mapM (decodeDeliveryAudit context tables) = .ok [audit]) :
    decodeFirstAudit context tables row = .ok audit := by
  rw [named] at told
  cases mapM_ok.mp told with
  | cons told _ => exact bind_ok.mpr ⟨id, by rw [named]; rfl, told⟩

theorem decodeDeliveryInitiativeOutcome_ok {record : Initiative} (answers : row.result = .initiative record)
    (named : row.auditEventIds = [id])
    (told : row.auditEventIds.mapM (decodeDeliveryAudit context tables) = .ok [audit]) :
    decodeDeliveryInitiativeOutcome context tables row = .ok ⟨record, [audit], []⟩ :=
  bind_ok.mpr ⟨record, by rw [answers]; rfl, bind_ok.mpr ⟨audit, decodeFirstAudit_ok named told, rfl⟩⟩

theorem decodeDeliveryProjectOutcome_ok {audits : List AuditEvent} {record : Project} (answers : row.result = .project record)
    (told : row.auditEventIds.mapM (decodeDeliveryAudit context tables) = .ok audits) :
    decodeDeliveryProjectOutcome context tables row = .ok ⟨record, audits, []⟩ :=
  bind_ok.mpr ⟨record, by rw [answers]; rfl, bind_ok.mpr ⟨audits, told, rfl⟩⟩

theorem decodeDeliveryMilestoneOutcome_ok {record : Milestone} (answers : row.result = .milestone record)
    (named : row.auditEventIds = [id])
    (told : row.auditEventIds.mapM (decodeDeliveryAudit context tables) = .ok [audit]) :
    decodeDeliveryMilestoneOutcome context tables row = .ok ⟨record, [audit], []⟩ :=
  bind_ok.mpr ⟨record, by rw [answers]; rfl, bind_ok.mpr ⟨audit, decodeFirstAudit_ok named told, rfl⟩⟩

end

variable {arguments : Arguments} {before after : DeliveryTables}

variable {context : OperationContext}

variable {operation : DeliveryOperation}

theorem orRecorded_ok {Record : Type} {agrees : CommandIdentity → Bool}
    {decode : CommandResultRow → Except DomainError (DeliveryMutationOutcome Record)}
    {fresh : Except DomainError (DeliveryTables × DeliveryMutationOutcome Record)}
    {outcome : DeliveryMutationOutcome Record}
    (success : orRecorded context operation agrees decode before fresh = .ok (after, outcome)) :
    ((∃ row, before.commandResults.find (operation, context.idempotencyId) = some row) ∧ after = before) ∨
      fresh = .ok (after, outcome) := by
  unfold orRecorded at success
  split at success
  next existing found =>
    obtain ⟨_, _, success⟩ := bind_ok.mp success
    obtain ⟨_, _, success⟩ := bind_ok.mp success
    cases pure_ok.mp success
    exact .inl ⟨⟨existing, found⟩, rfl⟩
  next => exact .inr success

theorem readBack_ok {Record : Type}
    {decode : DeliveryTables → CommandResultRow → Except DomainError (DeliveryMutationOutcome Record)}
    {outcome : DeliveryMutationOutcome Record}
    (success : readBack context operation decode before = .ok (after, outcome)) :
    after = before ∧ ∃ row, before.commandResults.find (operation, context.idempotencyId) = some row ∧
      decode before row = .ok outcome := by
  obtain ⟨row, found, success⟩ := bind_ok.mp success
  obtain ⟨_, told, success⟩ := bind_ok.mp success
  cases pure_ok.mp success
  exact ⟨rfl, row, require_ok.mp found, told⟩

theorem Wrote.found {row : CommandResultRow} {audits : List AuditEvent} {command : CommandIdentity}
    {result : StoredResult} {ids : List AuditEventId} (wrote : Wrote row audits before after)
    (tells : row.Tells context operation command result ids) :
    after.commandResults.find (operation, context.idempotencyId) = some row := by
  rw [← tells.operation, ← tells.idempotencyId]
  exact Relation.find_inserted wrote.recorded

variable {outcome : DeliveryMutationOutcome Initiative}

theorem createInitiative_ok {command : CreateInitiative}
    (success : SqliteProductLedger.createInitiative command arguments before = .ok (after, outcome)) :
    ((∃ row, before.commandResults.find (.createInitiative, command.context.idempotencyId) = some row) ∧ after = before) ∨
      ∃ row audit, row.Tells command.context .createInitiative command.identity (.initiative outcome.record)
        [arguments.auditEventId] ∧ Wrote row [audit] before after ∧ outcome = ⟨outcome.record, [audit], []⟩ := by
  unfold SqliteProductLedger.createInitiative at success
  refine (orRecorded_ok success).imp_right fun success => ?_
  obtain ⟨_, _, success⟩ := bind_ok.mp success
  obtain ⟨_, registered, success⟩ := bind_ok.mp success
  obtain ⟨_, _, success⟩ := bind_ok.mp success
  obtain ⟨_, recorded, success⟩ := bind_ok.mp success
  cases pure_ok.mp success
  obtain ⟨row, tells, wrote⟩ := recordChange_ok rfl recorded
  have first := registerAggregate_ok registered
  exact ⟨row, _, tells, wrote.after ⟨first.results, first.executes, first.claims, first.kept⟩, rfl⟩

theorem updateInitiative_ok {command : UpdateInitiative}
    (success : SqliteProductLedger.updateInitiative command arguments before = .ok (after, outcome)) :
    ((∃ row, before.commandResults.find (.updateInitiative, command.context.idempotencyId) = some row) ∧ after = before) ∨
      ∃ row audit, row.Tells command.context .updateInitiative command.identity (.initiative outcome.record)
        [arguments.auditEventId] ∧ Wrote row [audit] before after ∧ outcome = ⟨outcome.record, [audit], []⟩ := by
  refine (orRecorded_ok success).imp_right fun success => ?_
  obtain ⟨⟨registered, _⟩, _, success⟩ := bind_ok.mp success
  obtain ⟨_, _, success⟩ := bind_ok.mp success
  obtain ⟨_, _, success⟩ := bind_ok.mp success
  obtain ⟨_, _, success⟩ := bind_ok.mp success
  obtain ⟨_, revised, success⟩ := bind_ok.mp success
  obtain ⟨_, recorded, success⟩ := bind_ok.mp success
  obtain ⟨row, tells, wrote⟩ := recordChange_ok rfl recorded
  have first := reviseAggregate_ok revised
  obtain ⟨rfl, _, found, told⟩ := readBack_ok success
  cases found.symm.trans (wrote.found tells)
  cases told.symm.trans (decodeDeliveryInitiativeOutcome_ok tells.result tells.auditEventIds (wrote.audited _))
  exact ⟨row, _, tells, wrote.after ⟨first.results, first.executes, first.claims, first.kept⟩, rfl⟩

theorem createProject_ok {command : CreateProject} {outcome : DeliveryMutationOutcome Project}
    (success : SqliteProductLedger.createProject command arguments before = .ok (after, outcome)) :
    ((∃ row, before.commandResults.find (.createProject, command.context.idempotencyId) = some row) ∧ after = before) ∨
      ∃ row audit, row.Tells command.context .createProject command.identity (.project outcome.record)
        [arguments.auditEventId] ∧ Wrote row [audit] before after ∧ outcome = ⟨outcome.record, [audit], []⟩ := by
  unfold SqliteProductLedger.createProject at success
  refine (orRecorded_ok success).imp_right fun success => ?_
  obtain ⟨_, _, success⟩ := bind_ok.mp success
  obtain ⟨_, _, success⟩ := bind_ok.mp success
  obtain ⟨_, registered, success⟩ := bind_ok.mp success
  obtain ⟨_, _, success⟩ := bind_ok.mp success
  obtain ⟨_, _, success⟩ := bind_ok.mp success
  obtain ⟨_, recorded, success⟩ := bind_ok.mp success
  cases pure_ok.mp success
  obtain ⟨row, tells, wrote⟩ := recordChange_ok rfl recorded
  have first := registerAggregate_ok registered
  exact ⟨row, _, tells, wrote.after ⟨first.results, first.executes, first.claims, first.kept⟩, rfl⟩

def UpdateProject.Raises (command : UpdateProject) (tables : DeliveryTables) : Prop :=
  ∃ project row, tables.project command.id = some (project, row) ∧ ∃ found ∈ tables.milestonesOf command.id,
    (command.classification.getD project.classification).combine found.1.classification ≠ found.1.classification

theorem raisedClassification_ok {current result : DataClassification} {requested : Option DataClassification}
    (success : raisedClassification context current requested = .ok result) : result = requested.getD current := by
  cases requested with
  | none => cases success; rfl
  | some value =>
    unfold raisedClassification at success
    dsimp only at success
    split at success
    · cases success; rfl
    · cases success

theorem persistDeliveryAudit_milestones {audit : AuditEvent} {target : AuditTarget}
    (success : persistDeliveryAudit context audit target before = .ok after) (other : ProjectId) :
    after.milestonesOf other = before.milestonesOf other := by
  obtain ⟨_, _, success⟩ := bind_ok.mp success
  obtain ⟨_, _, success⟩ := bind_ok.mp success
  cases pure_ok.mp success
  rfl

variable {classification : DataClassification}

theorem reviseAggregate_milestones {registered : Evidence.RegistryRow} {version : AggregateVersion}
    {occurredAt : UtcTimestamp} {id : String}
    (success : reviseAggregate context registered version classification occurredAt before = .ok after)
    (found : before.aggregate id .project = some registered) (other : ProjectId) :
    after.milestonesOf other = before.milestonesOf other := by
  obtain ⟨found, kind⟩ := Option.filter_eq_some_iff.mp found
  have named : registered.id = id := Relation.find_key found
  obtain ⟨_, _, success⟩ := bind_ok.mp success
  cases pure_ok.mp success
  have aggregates (name : String) : DeliveryTables.aggregate { before with
      registry := before.registry.update registered.id fun row => { row with version, classification, updatedAt := occurredAt } }
      name .milestone = before.aggregate name .milestone := by
    unfold DeliveryTables.aggregate
    rw [Relation.find_update]
    by_cases same : registered.id = name
    · have here : name = id := same.symm.trans named
      rw [here, found]
      simp [Option.filter, named, of_decide_eq_true kind]
    · simp [same]
  unfold DeliveryTables.milestonesOf DeliveryTables.milestone
  simp only [aggregates]

theorem raising_ok {command : CommandIdentity} {result : StoredResult} {operationOrdinal : Nat}
    {occurredAt : UtcTimestamp} {id : AuditEventId} {audit : AuditEvent}
    {affected : List (Evidence.RegistryRow × MilestoneRow)} {raised : List (Milestone × DerivedMilestoneMutation)}
    {claiming raising : DeliveryTables} (own : ∀ other, decodeDeliveryAudit other before id = .ok audit)
    (claimed : persistDeliveryIdempotencyClaim context .updateProject occurredAt before = .ok claiming)
    (cascading : cascade context classification arguments 0 affected claiming = .ok (raising, raised))
    (recorded : recordResult context .updateProject command result operationOrdinal
      (id :: (raised.map Prod.snd).map DerivedMilestoneMutation.auditEventId) (raised.map Prod.snd) raising = .ok after) :
    ∃ row ids audits, row.Tells context .updateProject command result ids ∧ Wrote row audits before after := by
  obtain ⟨claimed, same⟩ := persistDeliveryIdempotencyClaim_ok claimed
  obtain ⟨others, _, audits, inherited⟩ := cascade_ok cascading
  obtain ⟨row, tells, inserted, executes, claims, events⟩ := recordResult_ok recorded
  rw [same] at others
  have kept : KeepsAudits before after := fun id row found => events ▸ others.kept id row found
  refine ⟨row, _, audit :: audits, tells, ?_⟩
  exact
    { claimed := by rw [tells.idempotencyId, tells.operation, claims, others.claims, claimed]
      recorded := others.results ▸ inserted
      executes := executes.trans others.executes
      kept
      audited := fun other => by
        have later : KeepsAudits raising after := fun _ _ found => events ▸ found
        rw [tells.auditEventIds, List.map_map]
        refine mapM_ok.mpr (.cons (decodeDeliveryAudit_kept other kept (own other)) ?_)
        exact mapM_ok.mp (decodeDeliveryAudits_kept other later (inherited other)) }

theorem raises_iff {command : UpdateProject} {registered : Evidence.RegistryRow} {project : ProjectRow}
    (found : before.project command.id = some (registered, project)) :
    command.Raises before ↔ (before.milestonesOf command.id).filter (fun (milestone, _) =>
      (command.classification.getD registered.classification).combine milestone.classification ≠ milestone.classification) ≠ [] := by
  constructor
  · intro ⟨_, _, same, one, held, raises⟩
    cases found.symm.trans same
    exact List.ne_nil_of_mem (List.mem_filter.mpr ⟨held, decide_eq_true raises⟩)
  · intro some
    obtain ⟨one, held⟩ := List.exists_mem_of_ne_nil _ some
    obtain ⟨held, raises⟩ := List.mem_filter.mp held
    exact ⟨registered, project, found, one, held, of_decide_eq_true raises⟩

theorem updateProject_ok {command : UpdateProject} {outcome : DeliveryMutationOutcome Project}
    (success : SqliteProductLedger.updateProject command arguments before = .ok (after, outcome)) :
    ((∃ row, before.commandResults.find (.updateProject, command.context.idempotencyId) = some row) ∧ after = before) ∨
      ∃ row ids, row.Tells command.context .updateProject command.identity (.project outcome.record) ids ∧
        Wrote row outcome.auditEvents before after ∧ (outcome.cascadedMilestones = [] ↔ ¬ command.Raises before) := by
  refine (orRecorded_ok success).imp_right fun success => ?_
  obtain ⟨_, _, success⟩ := bind_ok.mp success
  obtain ⟨⟨registered, project⟩, found, success⟩ := bind_ok.mp success
  obtain ⟨_, _, success⟩ := bind_ok.mp success
  obtain ⟨classification, raises, success⟩ := bind_ok.mp success
  obtain ⟨_, _, success⟩ := bind_ok.mp success
  obtain ⟨_, _, success⟩ := bind_ok.mp success
  obtain ⟨revised, revising, success⟩ := bind_ok.mp success
  obtain ⟨audited, persisted, success⟩ := bind_ok.mp success
  obtain ⟨_, _, success⟩ := bind_ok.mp success
  obtain ⟨claiming, claimed, success⟩ := bind_ok.mp success
  obtain ⟨⟨raising, raised⟩, cascading, success⟩ := bind_ok.mp success
  obtain ⟨recording, recorded, success⟩ := bind_ok.mp success
  obtain ⟨⟨_, told⟩, back, success⟩ := bind_ok.mp success
  cases pure_ok.mp success
  have found := require_ok.mp found
  have first := reviseAggregate_ok revising
  obtain ⟨second, own⟩ := persistDeliveryAudit_ok rfl persisted
  obtain ⟨row, ids, audits, tells, wrote⟩ := raising_ok own claimed cascading recorded
  obtain ⟨rfl, _, there, answered⟩ := readBack_ok back
  cases there.symm.trans (wrote.found tells)
  cases answered.symm.trans (decodeDeliveryProjectOutcome_ok tells.result (wrote.audited _))
  have onlyAudits : OnlyAudits before audited := OnlyAudits.trans ⟨first.results, first.executes, first.claims, first.kept⟩ second
  refine ⟨row, ids, tells, wrote.after onlyAudits, ?_⟩
  have registry : before.aggregate command.id.asStr .project = some registered := by
    obtain ⟨_, registry, same⟩ := Option.bind_eq_some_iff.mp found
    obtain ⟨_, _, same⟩ := Option.map_eq_some_iff.mp same
    cases same
    exact registry
  have same : claiming.milestonesOf command.id = before.milestonesOf command.id := by
    rw [(persistDeliveryIdempotencyClaim_ok claimed).2]
    exact (persistDeliveryAudit_milestones persisted command.id).trans
      (reviseAggregate_milestones revising registry command.id)
  rw [raises_iff found, not_not, ← raisedClassification_ok raises, ← same, List.map_eq_nil_iff]
  rw [← List.length_eq_zero_iff, (cascade_ok cascading).2.1, List.length_eq_zero_iff]

theorem createMilestone_ok {command : CreateMilestone} {outcome : DeliveryMutationOutcome Milestone}
    (success : SqliteProductLedger.createMilestone command arguments before = .ok (after, outcome)) :
    ((∃ row, before.commandResults.find (.createMilestone, command.context.idempotencyId) = some row) ∧ after = before) ∨
      ∃ row audit, row.Tells command.context .createMilestone command.identity (.milestone outcome.record)
        [arguments.auditEventId] ∧ Wrote row [audit] before after ∧ outcome = ⟨outcome.record, [audit], []⟩ := by
  unfold SqliteProductLedger.createMilestone at success
  refine (orRecorded_ok success).imp_right fun success => ?_
  obtain ⟨_, _, success⟩ := bind_ok.mp success
  obtain ⟨⟨project, _⟩, _, success⟩ := bind_ok.mp success
  obtain ⟨_, registered, success⟩ := bind_ok.mp success
  obtain ⟨_, _, success⟩ := bind_ok.mp success
  obtain ⟨_, _, success⟩ := bind_ok.mp success
  obtain ⟨_, recorded, success⟩ := bind_ok.mp success
  cases pure_ok.mp success
  obtain ⟨row, tells, wrote⟩ := recordChange_ok rfl recorded
  have first := registerAggregate_ok registered
  exact ⟨row, _, tells, wrote.after ⟨first.results, first.executes, first.claims, first.kept⟩, rfl⟩

theorem updateMilestone_ok {command : UpdateMilestone} {outcome : DeliveryMutationOutcome Milestone}
    (success : SqliteProductLedger.updateMilestone command arguments before = .ok (after, outcome)) :
    ((∃ row, before.commandResults.find (.updateMilestone, command.context.idempotencyId) = some row) ∧ after = before) ∨
      ∃ row audit, row.Tells command.context .updateMilestone command.identity (.milestone outcome.record)
        [arguments.auditEventId] ∧ Wrote row [audit] before after ∧ outcome = ⟨outcome.record, [audit], []⟩ := by
  refine (orRecorded_ok success).imp_right fun success => ?_
  obtain ⟨⟨registered, _⟩, _, success⟩ := bind_ok.mp success
  obtain ⟨_, _, success⟩ := bind_ok.mp success
  obtain ⟨_, _, success⟩ := bind_ok.mp success
  obtain ⟨⟨project, _⟩, _, success⟩ := bind_ok.mp success
  obtain ⟨_, _, success⟩ := bind_ok.mp success
  obtain ⟨_, _, success⟩ := bind_ok.mp success
  obtain ⟨_, revised, success⟩ := bind_ok.mp success
  obtain ⟨_, recorded, success⟩ := bind_ok.mp success
  obtain ⟨row, tells, wrote⟩ := recordChange_ok rfl recorded
  have first := reviseAggregate_ok revised
  obtain ⟨rfl, _, found, told⟩ := readBack_ok success
  cases found.symm.trans (wrote.found tells)
  cases told.symm.trans (decodeDeliveryMilestoneOutcome_ok tells.result tells.auditEventIds (wrote.audited _))
  exact ⟨row, _, tells, wrote.after ⟨first.results, first.executes, first.claims, first.kept⟩, rfl⟩

end MissionControl.Delivery

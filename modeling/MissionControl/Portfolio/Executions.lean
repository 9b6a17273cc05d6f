import MissionControl.Portfolio.Seeding

/-! What an executed lowering leaves: the record in its new version, and rows that tell of the
approval but not of the record. -/

namespace MissionControl.Portfolio
open Checked
open Evidence (AggregateType RegistryRow)
open Delivery (OperationContext Ports PrepareLowerClassification ApproveAndExecuteLowerClassification
  PreparedIntentRow storageError)

/-- What a command asks for, apart from the context it is issued in. -/
inductive Request where
  | change (command : CommandIdentity)
  | preview (target : RecordKey) (expectedVersion : AggregateVersion) (proposedClassification : DataClassification)
      (rationale : WorkManagementRationale)
  | approval (aggregateType : AggregateType) (preparedId : PreparedIntentId) (actor : AuditActor)
      (acknowledgedDigest : WorkManagementPayloadDigest)

def Lowering.previewRequest {kind : IdKind} {Record : Type} (lowering : Lowering kind Record)
    (command : PrepareLowerClassification (OpaqueId kind)) : Request :=
  .preview (lowering.kept.key command.id) command.expectedVersion command.proposedClassification command.rationale

def Lowering.approvalRequest {kind : IdKind} {Record : Type} (lowering : Lowering kind Record)
    (command : ApproveAndExecuteLowerClassification) : Request :=
  .approval lowering.kept.aggregateType command.approval.preparedId command.approval.actor
    command.approval.acknowledgedPayloadDigest

def CommandPrepareRow.request (row : CommandPrepareRow) : Request :=
  .preview row.target row.expectedVersion row.proposedClassification row.rationale

def CommandExecuteRow.request (row : CommandExecuteRow) : Request :=
  .approval row.target.aggregateType row.preparedId row.actor row.acknowledgedDigest

/-- A later reading of the record agrees with what the lowering answered, as far as its times
are told at all. -/
structure Lowering.Lawful {kind : IdKind} {Record : Type} (lowering : Lowering kind Record)
    (timed : UtcTimestamp → Record → Prop) (timely : UtcTimestamp → PreparedIntentRow → Prop) : Prop where
  kept : lowering.kept.Lawful
  writing : ∀ context, Writing lowering.kept.family context (lowering.write context)
  seeds : ∀ context now id tables service, lowering.seed context now id tables = .ok service →
    ∃ registered record, lowering.kept.stored tables id = some (registered, record) ∧
      Holds lowering.kept record (timed now) registered.version.get service
  told : ∀ (intent : PreparedIntentRow) (registered : RegistryRow) (current : Record), timed intent.createdAt current →
    intent.createdAt ≤ registered.updatedAt →
      (lowering.kept.record registered (lowering.kept.row current) = some (lowering.kept.family.lowered current
        registered.classification registered.version registered.updatedAt) ↔ timely registered.createdAt intent)

/-- A preview that was made when its observation was. -/
def atCreation (createdAt : UtcTimestamp) (intent : PreparedIntentRow) : Prop := createdAt = intent.createdAt

section
variable (context : OperationContext)

theorem portfolioLowering_lawful : portfolioLowering.Lawful (fun _ _ => True) (fun _ _ => True) where
  kept := keptPortfolios_lawful
  writing := commit_writing keptPortfolios_lawful
  seeds := fun _ _ _ _ _ => seedPortfolio_holds
  told := fun _ _ _ _ _ => iff_of_true rfl trivial

theorem productLowering_lawful : productLowering.Lawful (fun _ _ => True) (fun _ _ => True) where
  kept := keptProducts_lawful
  writing := commit_writing keptProducts_lawful
  seeds := fun _ _ _ _ _ => seedProduct_holds
  told := fun _ _ _ _ _ => iff_of_true rfl trivial

theorem roadmapLowering_lawful : roadmapLowering.Lawful (fun _ _ => True) (fun _ _ => True) where
  kept := keptRoadmaps_lawful
  writing := commit_writing keptRoadmaps_lawful
  seeds := fun _ _ _ _ _ => seedRoadmap_holds
  told := fun _ _ _ _ _ => iff_of_true rfl trivial

theorem kpiLowering_lawful : kpiLowering.Lawful (fun _ _ => True) (fun _ _ => True) where
  kept := keptKpis_lawful
  writing := commitKpi_writing
  seeds := fun _ _ _ _ _ => seedKpi_holds
  told := fun _ _ _ _ _ => iff_of_true rfl trivial

theorem kpiObservationLowering_lawful : kpiObservationLowering.Lawful
    (fun now value => value.createdAt = now ∧ value.updatedAt = now) atCreation where
  kept := keptObservations_lawful
  writing := commit_writing keptObservations_lawful
  seeds := fun _ _ _ _ _ => seedKpiObservation_holds
  told := by
    intro intent registered current ⟨created, updated⟩ later
    have stamped : max registered.updatedAt current.updatedAt = registered.updatedAt := max_eq_left (updated ▸ later)
    simp only [kpiObservationLowering, keptObservations, observations, Option.some.injEq, KpiObservationRecord.mk.injEq,
      atCreation, stamped, created, true_and, and_true]

end

variable [Sha256] {kind : IdKind} {Record : Type} {lowering : Lowering kind Record} {timed : UtcTimestamp → Record → Prop}
  {timely : UtcTimestamp → PreparedIntentRow → Prop}

variable {id : OpaqueId kind}

omit [Sha256] in
theorem Seeded.of_state {kept : Kept kind Record} {good : Record → Prop} {calls : Nat} {service later : Service}
    (seeded : Seeded kept id good calls service) (same : later.state = service.state) :
    Seeded kept id good calls later where
  held := fun other value found => seeded.held other value (same ▸ found)
  seen := fun key outcome found => seeded.seen key outcome (same ▸ found)

variable {outcome : MutationOutcome Record}

/-- What the throwaway service does for an approval: no earlier one answers it, so it is bound to its
key and puts a lowered copy of the record in place. -/
theorem approved_seeded {service : Service} {ports : Ports} {intent : ApproveAndExecuteLowerClassification}
    {good : Record → Prop} {calls : Nat} (lawful : lowering.Lawful timed timely)
    (seeded : Seeded lowering.kept id good calls service) (bounded : calls ≤ 2 ^ 65) (success :
      (approveAndExecuteLowerClassification lowering.kept.family lowering.write service ports intent).2 = .ok outcome) :
    intent.approval.idempotencyId = intent.context.idempotencyId ∧ ∃ current proposed version drawn, good current ∧
      (lowering.kept.family.version current).next = some version ∧ ports.nextAuditEventId 0 = some drawn ∧
      outcome.record = lowering.kept.family.lowered current proposed version (ports.now .recording) ∧
      outcome.auditEvent = buildAudit drawn (ports.now .recording)
        (lowering.kept.family.auditTarget (lowering.kept.family.id outcome.record)) lowering.kept.family.loweredCode
        intent.context.correlationId := by
  have unseen (key : IdempotencyId) (stored : StoredOutcome) (found : service.state.outcomes[key]? = some stored) :
      stored.command ≠ lowering.kept.family.executeIdentity intent.approval.preparedId intent.approval.actor
        intent.approval.acknowledgedPayloadDigest := fun same => by
    have before := seeded.seen key stored found
    rw [same, lawful.kept.approves] at before
    exact absurd bounded (not_le.mpr before)
  have decides (decision : Decision Record)
      (decided : stageLowerClassification lowering.kept.family lowering.write service ports intent = .ok decision) :
      intent.approval.idempotencyId = intent.context.idempotencyId ∧ ∃ current proposed version drawn next, good current ∧
        (lowering.kept.family.version current).next = some version ∧ ports.nextAuditEventId 0 = some drawn ∧
        decision = .committed ⟨lowering.kept.family.lowered current proposed version (ports.now .recording),
          buildAudit drawn (ports.now .recording) (lowering.kept.family.auditTarget (lowering.kept.family.id
            (lowering.kept.family.lowered current proposed version (ports.now .recording)))) lowering.kept.family.loweredCode
            intent.context.correlationId⟩ next := by
    obtain ⟨_, bound, decided⟩ := bind_ok.mp decided
    have fresh := orReplayed_unseen unseen decided
    obtain ⟨prepared, _, fresh⟩ := bind_ok.mp fresh
    obtain ⟨target, _, fresh⟩ := bind_ok.mp fresh
    obtain ⟨current, found, fresh⟩ := bind_ok.mp fresh
    obtain ⟨_, _, fresh⟩ := bind_ok.mp fresh
    obtain ⟨_, _, fresh⟩ := bind_ok.mp fresh
    obtain ⟨version, advanced, fresh⟩ := bind_ok.mp fresh
    obtain ⟨drawn, next, named, same, _⟩ := lawful.writing _ _ _ _ _ _ _ _ fresh
    have good := (seeded.held _ _ (require_ok.mp found)).2
    exact ⟨ensure_ok.mp bound, current, _, version, drawn, next, good, nextVersion_ok advanced, named, same⟩
  obtain replayed | ⟨next, ordinal, decided, _⟩ := settle_ok success
  · obtain ⟨_, _, _, _, _, _, _, _, _, same⟩ := decides _ replayed
    cases same
  · obtain ⟨bound, current, proposed, version, drawn, _, good, advanced, named, same⟩ := decides _ decided
    cases same
    exact ⟨bound, current, proposed, version, drawn, good, advanced, named, rfl, rfl⟩

variable {command : ApproveAndExecuteLowerClassification}

variable {row : CommandPrepareRow} {arguments : Arguments}

theorem executeSeeded_ok {intent : PreparedIntentRow} {service : Service} {record : Record} {version : AggregateVersion}
    (lawful : lowering.Lawful timed timely)
    (holds : Holds lowering.kept record (timed intent.createdAt) version.get service)
    (success : executeSeeded lowering command arguments row intent id service = .ok outcome) :
    command.approval.idempotencyId = command.context.idempotencyId ∧ ∃ current proposed next,
      Copies lowering.kept record (timed intent.createdAt) version.get current ∧ version.next = some next ∧
      outcome.record = lowering.kept.family.lowered current proposed next arguments.occurredAt ∧
      outcome.auditEvent = buildAudit (arguments.auditEventId 0) arguments.occurredAt
        (lowering.kept.family.auditTarget (lowering.kept.family.id outcome.record)) lowering.kept.family.loweredCode
        command.context.correlationId := by
  obtain ⟨_, _, success⟩ := bind_ok.mp success
  obtain ⟨_, _, success⟩ := bind_ok.mp success
  have bounded : version.get + 1 ≤ 2 ^ 65 := by
    have := version.fits
    omega
  have same := prepareLowerClassification_state lowering.kept.family service
    (executionPorts arguments intent.createdAt command.approval.preparedId false)
  obtain ⟨bound, current, proposed, next, drawn, copies, advanced, named, lowered, audited⟩ :=
    approved_seeded lawful (holds.of_state (same _)) bounded success
  cases named
  have versioned : lowering.kept.family.version current = version := AggregateVersion.get_injective copies.version
  exact ⟨bound, current, proposed, next, copies, versioned ▸ advanced, lowered, audited⟩

structure ApprovalRecorded (command : ApproveAndExecuteLowerClassification) (target : RecordKey) (audit : AuditEvent)
    (row : CommandExecuteRow) (tables : PortfolioTables) : Prop where
  found : tables.commandExecutes.find command.context.idempotencyId = some row
  target : row.target = target
  preparedId : row.preparedId = command.approval.preparedId
  actor : row.actor = .headOfProducts
  acknowledgedDigest : row.acknowledgedDigest = command.approval.acknowledgedPayloadDigest
  claimed : tables.idempotencyClaims.find command.context.idempotencyId =
    some ⟨command.context.idempotencyId, .executeLowerClassification⟩
  audited : ∀ other, decodeAudit other tables row.auditEventId = .ok audit

variable {before after : PortfolioTables}

omit [Sha256] in
theorem ApprovalRecorded.grows {target : RecordKey} {audit : AuditEvent} {row : CommandExecuteRow}
    (approved : ApprovalRecorded command target audit row before) (grows : Grows before after) :
    ApprovalRecorded command target audit row after :=
  { approved with
    found := grows.executes _ _ approved.found
    claimed := grows.claims _ _ approved.claimed
    audited := fun other => decodeAudit_kept other grows.audits (approved.audited other) }

omit [Sha256] in
theorem persistLoweredBundle_ok {operationOrdinal : Nat} {id : AuditEventId} {occurredAt : UtcTimestamp}
    {code : AuditEventCode} (lawful : lowering.kept.Lawful) (audited : outcome.auditEvent = buildAudit id occurredAt
      (lowering.kept.family.auditTarget (lowering.kept.family.id outcome.record)) code command.context.correlationId)
    (rises : ∀ registered, before.aggregate (lowering.kept.key (lowering.kept.family.id outcome.record)) = some registered →
      registered.version.get < (lowering.kept.family.version outcome.record).get)
    (success : persistLoweredBundle lowering command arguments outcome operationOrdinal before = .ok after) :
    Grows before after ∧ before.idempotencyClaims.find command.context.idempotencyId = none ∧
      (∃ row, ApprovalRecorded command (lowering.kept.key (lowering.kept.family.id outcome.record)) outcome.auditEvent row
        after) ∧
      after.aggregate (lowering.kept.key (lowering.kept.family.id outcome.record)) =
        (before.aggregate (lowering.kept.key (lowering.kept.family.id outcome.record))).map (fun registered =>
          { registered with
            version := lowering.kept.family.version outcome.record
            classification := lowering.kept.family.classification outcome.record
            updatedAt := occurredAt }) ∧
      after.records = before.records ∧
      ∀ intent, before.preparedIntents.find command.approval.preparedId = some intent → intent.createdAt ≤ occurredAt := by
  obtain ⟨_, _, success⟩ := bind_ok.mp success
  rw [audited] at success ⊢
  obtain ⟨revised, revising, success⟩ := bind_ok.mp success
  obtain ⟨auditing, persisted, success⟩ := bind_ok.mp success
  obtain ⟨intent, pending, success⟩ := bind_ok.mp success
  obtain ⟨_, timely, success⟩ := bind_ok.mp success
  obtain ⟨_, _, success⟩ := bind_ok.mp success
  obtain ⟨approvalReceipts, _, success⟩ := bind_ok.mp success
  obtain ⟨claiming, claimed, success⟩ := bind_ok.mp success
  obtain ⟨commandExecutes, inserted, success⟩ := bind_ok.mp success
  cases pure_ok.mp success
  obtain ⟨same, aggregates⟩ := reviseAggregate_ok revising
  have advances := revise_advances (.of_same fun _ => rfl) rises revising
  have first : Grows before revised :=
    .of_same (by rw [same]) (by rw [same]) (by rw [same]) (by rw [same]) (by rw [same]) (by rw [same]) advances
  obtain ⟨second, told⟩ := persistPortfolioAudit_ok (lawful.aimed _) persisted
  obtain ⟨third, claim, unclaimed⟩ := claimIdempotency_ok claimed
  have consumed (tables : PortfolioTables) : Grows tables { tables with
      preparedIntents := tables.preparedIntents.update command.approval.preparedId fun row =>
        { row with consumedAt := row.consumedAt.or (some occurredAt) } } := { Grows.refl tables with
    digests := fun other digest found => by
      dsimp only
      rw [Relation.find_update]
      split
      · simpa [Option.map_map, Function.comp_def] using found
      · simpa using found
    advances := .of_same fun _ => rfl }
  have receipted (tables : PortfolioTables) (approvalReceipts) : Grows tables { tables with approvalReceipts } :=
    { Grows.refl tables with advances := .of_same fun _ => rfl }
  have inserted := require_ok.mp inserted
  have recording : Grows claiming { claiming with commandExecutes } := { Grows.refl claiming with
    executes := fun _ _ => Relation.find_insert_kept inserted
    advances := .of_same fun _ => rfl }
  have audited := (((consumed auditing).trans (receipted _ approvalReceipts)).trans third).trans recording
  have untouched : claiming = { auditing with
      preparedIntents := claiming.preparedIntents
      approvalReceipts := claiming.approvalReceipts
      idempotencyClaims := claiming.idempotencyClaims } := by
    obtain ⟨_, _, claimed⟩ := bind_ok.mp claimed
    cases pure_ok.mp claimed
    rfl
  have unwritten : auditing = { revised with auditEvents := auditing.auditEvents } := by
    obtain ⟨_, _, persisted⟩ := bind_ok.mp persisted
    obtain ⟨_, _, persisted⟩ := bind_ok.mp persisted
    cases pure_ok.mp persisted
    rfl
  refine ⟨(first.trans second).trans audited, (first.trans second).unclaimed unclaimed, ?_, ?_, ?_, fun earlier found => ?_⟩
  · exact ⟨_, Relation.find_inserted inserted, rfl, rfl, rfl, rfl, claim, fun other =>
      decodeAudit_kept other audited.audits (told other)⟩
  · have registry : claiming.registry = revised.registry := by rw [untouched, unwritten]
    refine Eq.trans ?_ ((aggregates _).trans (if_pos rfl))
    unfold PortfolioTables.aggregate
    rw [registry]
  · show claiming.records = before.records
    rw [untouched, unwritten, same]
  · have kept : auditing.preparedIntents = before.preparedIntents := by rw [unwritten, same]
    rw [← kept, require_ok.mp pending] at found
    cases found
    exact (ensure_ok.mp timely).1

structure Executed (lowering : Lowering kind Record) (timely : UtcTimestamp → PreparedIntentRow → Prop)
    (command : ApproveAndExecuteLowerClassification) (outcome : MutationOutcome Record) (row : CommandPrepareRow)
    (intent : PreparedIntentRow) (id : OpaqueId kind) (before after : PortfolioTables) : Prop where
  grows : Grows before after
  previewed : previewOf lowering before command.approval.preparedId = some (row, intent, id)
  bound : command.approval.idempotencyId = command.context.idempotencyId
  unclaimed : before.idempotencyClaims.find command.context.idempotencyId = none
  approved : ∃ executed, ApprovalRecorded command (lowering.kept.key id) outcome.auditEvent executed after
  standing : ∃ registered lowered record, before.aggregate (lowering.kept.key id) = some registered ∧
    registered.version.next = some lowered.version ∧ after.standing (lowering.kept.key id) = some (lowered, record) ∧
    lowering.kept.family.version outcome.record = lowered.version ∧
    (lowering.kept.record lowered record = some outcome.record ↔ timely registered.createdAt intent)

omit [Sha256] in
theorem previewOf_intent {tables : PortfolioTables} {preparedId : PreparedIntentId} {intent : PreparedIntentRow}
    (found : previewOf lowering tables preparedId = some (row, intent, id)) :
    tables.preparedIntents.find preparedId = some intent := by
  obtain ⟨_, _, found⟩ := Option.bind_eq_some_iff.mp found
  obtain ⟨_, pending, found⟩ := Option.bind_eq_some_iff.mp found
  obtain ⟨_, _, same⟩ := Option.bind_eq_some_iff.mp found
  cases same
  exact pending

theorem approveAndExecuteLowering_ok (lawful : lowering.Lawful timed timely)
    (success : approveAndExecuteLowering lowering command arguments before = .ok (after, outcome)) :
    (∃ row, before.commandExecutes.find command.context.idempotencyId = some row ∧
        row.request = lowering.approvalRequest command ∧ after = before) ∨
      ∃ row intent id, Executed lowering timely command outcome row intent id before after := by
  obtain ⟨_, _, success⟩ := bind_ok.mp success
  split at success
  next existing found =>
    obtain ⟨_, agrees, success⟩ := bind_ok.mp success
    obtain ⟨_, _, success⟩ := bind_ok.mp success
    cases pure_ok.mp success
    obtain ⟨found, kind⟩ := Option.filter_eq_some_iff.mp found
    obtain ⟨preparedId, actor, digest, _⟩ := ensure_ok.mp agrees
    refine .inl ⟨existing, found, ?_, rfl⟩
    exact (Request.approval.injEq ..).mpr ⟨of_decide_eq_true kind, preparedId, actor, digest⟩
  next =>
    obtain ⟨⟨row, intent, id⟩, previewed, success⟩ := bind_ok.mp success
    obtain ⟨service, seeding, success⟩ := bind_ok.mp success
    obtain ⟨_, executing, success⟩ := bind_ok.mp success
    obtain ⟨_, _, success⟩ := bind_ok.mp success
    obtain ⟨bundled, persisted, success⟩ := bind_ok.mp success
    obtain ⟨_, advanced, success⟩ := bind_ok.mp success
    cases pure_ok.mp success
    have previewed := require_ok.mp previewed
    obtain ⟨registered, record, stored, holds⟩ := lawful.seeds _ _ _ _ _ seeding
    obtain ⟨bound, current, proposed, next, copies, rises, lowered, audited⟩ := executeSeeded_ok lawful holds executing
    obtain ⟨written, standing, read⟩ := stored_some.mp stored
    obtain ⟨aggregate, kept⟩ := standing_some.mp standing
    obtain ⟨unmoved, versioned, classified⟩ := lawful.kept.lowered current proposed next arguments.occurredAt
    have row_same : lowering.kept.row current = written := copies.row.trans (lawful.kept.written _ _ _ read)
    have target : lowering.kept.key (lowering.kept.family.id outcome.record) = lowering.kept.key id := by
      rw [← lawful.kept.keyed, lowered, unmoved, row_same]
      exact Relation.find_key kept
    have later (first : RegistryRow)
        (there : before.aggregate (lowering.kept.key (lowering.kept.family.id outcome.record)) = some first) :
        first.version.get < (lowering.kept.family.version outcome.record).get := by
      cases (target ▸ there).symm.trans aggregate
      rw [lowered, versioned]
      exact next_rises rises
    obtain ⟨grows, unclaimed, approved, revised, records, timed⟩ :=
      persistLoweredBundle_ok lawful.kept audited later persisted
    have same := advanceRevision_ok advanced
    rw [target] at approved revised
    obtain ⟨executed, approved⟩ := approved
    refine .inr ⟨row, intent, id, grows.trans (advanceRevision_grows advanced), previewed, bound, unclaimed,
      ⟨executed, approved.grows (advanceRevision_grows advanced)⟩, ?_⟩
    rw [aggregate, lowered, versioned, classified] at revised
    refine ⟨registered, { registered with version := next, classification := proposed, updatedAt := arguments.occurredAt },
      written, aggregate, rises, standing_some.mpr ⟨?_, ?_⟩, ?_, ?_⟩
    · rw [same]
      exact revised
    · rw [same]
      exact records ▸ kept
    · rw [lowered, versioned]
    · rw [lowered, ← row_same]
      exact lawful.told intent _ current copies.timed (timed intent (previewOf_intent previewed))

structure PreviewRecorded (lowering : Lowering kind Record) (command : PrepareLowerClassification (OpaqueId kind))
    (prepared : WorkManagementPreparedIntent) (row : CommandPrepareRow) (tables : PortfolioTables) : Prop where
  found : tables.commandPrepares.find command.context.idempotencyId = some row
  request : row.request = lowering.previewRequest command
  resultReference : row.resultReference = prepared.id
  pending : (tables.preparedIntents.find prepared.id).map (·.payloadDigest) = some prepared.payloadDigest
  claimed : tables.idempotencyClaims.find command.context.idempotencyId =
    some ⟨command.context.idempotencyId, .prepareLowerClassification⟩

variable {prepared : WorkManagementPreparedIntent}

theorem PreviewRecorded.grows {command : PrepareLowerClassification (OpaqueId kind)}
    (recorded : PreviewRecorded lowering command prepared row before) (grows : Grows before after) :
    PreviewRecorded lowering command prepared row after :=
  { recorded with
    found := grows.prepares _ _ recorded.found
    pending := grows.digests _ _ recorded.pending
    claimed := grows.claims _ _ recorded.claimed }

theorem persistPreparedIntent_ok {context : OperationContext}
    (success : persistPreparedIntent context prepared before = .ok after) :
    Grows before after ∧ (after.preparedIntents.find prepared.id).map (·.payloadDigest) = some prepared.payloadDigest := by
  obtain ⟨_, _, success⟩ := bind_ok.mp success
  obtain ⟨_, _, success⟩ := bind_ok.mp success
  obtain ⟨preparedIntents, inserted, success⟩ := bind_ok.mp success
  cases pure_ok.mp success
  have inserted := require_ok.mp inserted
  constructor
  · refine { Grows.refl before with
      digests := fun other digest found => ?_
      advances := .of_same fun _ => rfl }
    obtain ⟨_, there, same⟩ := Option.map_eq_some_iff.mp found
    exact Option.map_eq_some_iff.mpr ⟨_, Relation.find_insert_kept inserted there, same⟩
  · exact Option.map_eq_some_iff.mpr ⟨_, Relation.find_inserted inserted, rfl⟩

theorem prepareLowering_ok {command : PrepareLowerClassification (OpaqueId kind)}
    {prepared answer : WorkManagementPreparedIntent}
    (success : prepareLowering lowering command prepared before = .ok (after, answer)) :
    answer = prepared ∧
      ((∃ row, before.commandPrepares.find command.context.idempotencyId = some row ∧
          row.request = lowering.previewRequest command ∧ after = before) ∨
        Grows before after ∧ before.idempotencyClaims.find command.context.idempotencyId = none ∧
          ∃ row, PreviewRecorded lowering command prepared row after) := by
  obtain ⟨_, _, success⟩ := bind_ok.mp success
  split at success
  next existing found =>
    obtain ⟨_, agrees, success⟩ := bind_ok.mp success
    cases pure_ok.mp success
    obtain ⟨target, version, proposed, rationale, _⟩ := ensure_ok.mp agrees
    refine ⟨rfl, .inl ⟨existing, (Option.filter_eq_some_iff.mp found).1, ?_, rfl⟩⟩
    exact (Request.preview.injEq ..).mpr ⟨target, version, proposed, rationale⟩
  next =>
    obtain ⟨⟨_, _⟩, _, success⟩ := bind_ok.mp success
    obtain ⟨_, _, success⟩ := bind_ok.mp success
    obtain ⟨_, _, success⟩ := bind_ok.mp success
    obtain ⟨_, _, success⟩ := bind_ok.mp success
    obtain ⟨_, _, success⟩ := bind_ok.mp success
    obtain ⟨persisted, storing, success⟩ := bind_ok.mp success
    obtain ⟨claiming, claimed, success⟩ := bind_ok.mp success
    obtain ⟨commandPrepares, inserted, success⟩ := bind_ok.mp success
    obtain ⟨_, advanced, success⟩ := bind_ok.mp success
    cases pure_ok.mp success
    have inserted := require_ok.mp inserted
    obtain ⟨first, pending⟩ := persistPreparedIntent_ok storing
    obtain ⟨second, claim, unclaimed⟩ := claimIdempotency_ok claimed
    have recording : Grows claiming { claiming with commandPrepares } := { Grows.refl claiming with
      prepares := fun _ _ => Relation.find_insert_kept inserted
      advances := .of_same fun _ => rfl }
    have third := advanceRevision_grows advanced
    refine ⟨rfl, .inr ⟨((first.trans second).trans recording).trans third, first.unclaimed unclaimed, ?_⟩⟩
    refine ⟨_, third.prepares _ _ (Relation.find_inserted inserted), rfl, rfl, ?_, ?_⟩
    · exact third.digests _ _ (second.digests _ _ pending)
    · exact third.claims _ _ claim

end MissionControl.Portfolio

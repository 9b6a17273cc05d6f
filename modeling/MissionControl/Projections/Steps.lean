import MissionControl.Projections.Ledger

/-! What the statements and calls of a publication do when they succeed. -/

namespace MissionControl.Projections
open Checked

section
variable {context : OperationContext} {tables later : ProjectionTables} {now : UtcTimestamp}

theorem claimIdempotency_ok (success : claimIdempotency context tables = .ok later) :
    ∃ claims, later = { tables with idempotencyClaims := claims } := by
  unfold claimIdempotency at success
  obtain ⟨_, _, success⟩ := bind_ok.mp success
  cases pure_ok.mp success
  exact ⟨_, rfl⟩

def preparedRow (prepared : ManagedProjectionRebuildPreparedIntent) : PreparedIntentRow where
  id := prepared.preview.preparedIntentId
  payloadDigest := prepared.payloadDigest
  classification := prepared.preview.classification
  expiresAt := prepared.preview.expiresAt
  createdAt := prepared.createdAt
  consumedAt := none
  rebuild := some
    { ledgerSchemaVersion := prepared.preview.ledgerSchemaVersion
      ledgerRevision := prepared.preview.ledgerRevision
      publishedBaselineDigest := prepared.preview.publishedBaselineDigest
      changes := prepared.preview.changes
      estimatedDurationMillis := prepared.preview.estimatedDurationMillis
      rationale := prepared.preview.rationale }

variable {prepared : ManagedProjectionRebuildPreparedIntent}

theorem persistPreparedIntent_ok (success : persistPreparedIntent context prepared tables = .ok later) :
    ∃ preparedIntents, tables.preparedIntents.insert (preparedRow prepared) = some preparedIntents ∧
      later = { tables with preparedIntents } := by
  unfold persistPreparedIntent at success
  obtain ⟨_, _, success⟩ := bind_ok.mp success
  obtain ⟨_, _, success⟩ := bind_ok.mp success
  obtain ⟨_, _, success⟩ := bind_ok.mp success
  obtain ⟨preparedIntents, inserted, success⟩ := bind_ok.mp success
  cases pure_ok.mp success
  exact ⟨preparedIntents, require_ok.mp inserted, rfl⟩

theorem persistPrepareReplay_ok {reference : PreparedIntentId}
    (success : persistPrepareReplay context reference tables = .ok later) :
    ∃ prepareReplays claims, later = { tables with prepareReplays, idempotencyClaims := claims } := by
  unfold persistPrepareReplay at success
  obtain ⟨prepareReplays, _, success⟩ := bind_ok.mp success
  obtain ⟨claims, rfl⟩ := claimIdempotency_ok success
  exact ⟨prepareReplays, claims, rfl⟩

variable {id : PreparedIntentId}

theorem decodePreparedIntent_ok (success : decodePreparedIntent context tables id = .ok prepared) :
    ∃ row payload, tables.preparedIntents.find id = some row ∧ row.rebuild = some payload ∧
      prepared.preview.preparedIntentId = id ∧ prepared.payloadDigest = row.payloadDigest ∧
      prepared.preview.expiresAt = row.expiresAt ∧ prepared.preview.changes = payload.changes ∧
      prepared.preview.ledgerSchemaVersion = payload.ledgerSchemaVersion ∧
      prepared.preview.ledgerRevision = payload.ledgerRevision ∧
      prepared.preview.publishedBaselineDigest = payload.publishedBaselineDigest := by
  unfold decodePreparedIntent at success
  obtain ⟨row, found, success⟩ := bind_ok.mp success
  obtain ⟨payload, kind, success⟩ := bind_ok.mp success
  cases pure_ok.mp success
  exact ⟨row, payload, require_ok.mp found, require_ok.mp kind, rfl, rfl, rfl, rfl, rfl, rfl, rfl⟩

theorem isConsumed_ok {consumed : Bool} {row : PreparedIntentRow}
    (success : isConsumed context tables id = .ok consumed) (found : tables.preparedIntents.find id = some row) :
    row.consumedAt.isSome = consumed := by
  unfold isConsumed at success
  obtain ⟨stored, read, success⟩ := bind_ok.mp success
  have same := (require_ok.mp read).symm.trans found
  cases same
  exact pure_ok.mp success

theorem consumePreparedIntent_ok (success : consumePreparedIntent context id now tables = .ok later) :
    later = { tables with
      preparedIntents := tables.preparedIntents.update id fun row => { row with consumedAt := some now } } := by
  unfold consumePreparedIntent at success
  obtain ⟨_, _, success⟩ := bind_ok.mp success
  obtain ⟨_, _, success⟩ := bind_ok.mp success
  obtain ⟨_, _, success⟩ := bind_ok.mp success
  exact (pure_ok.mp success).symm

theorem persistApprovalReceipt_ok {receipt : ApprovalReceiptRow}
    (success : persistApprovalReceipt context receipt tables = .ok later) :
    ∃ approvalReceipts, later = { tables with approvalReceipts } := by
  unfold persistApprovalReceipt at success
  obtain ⟨_, _, success⟩ := bind_ok.mp success
  obtain ⟨_, _, success⟩ := bind_ok.mp success
  obtain ⟨_, _, success⟩ := bind_ok.mp success
  cases pure_ok.mp success
  exact ⟨_, rfl⟩

def openedRow (context : OperationContext) (authorization : Authorization) (now : UtcTimestamp) : OperationRow where
  idempotencyId := context.idempotencyId
  correlationId := context.correlationId
  authorization
  status := .publishing
  startedAt := now

theorem persistOperation_ok {authorization : Authorization}
    (success : persistOperation context authorization now tables = .ok later) :
    ∃ operations claims, tables.operations.insert (openedRow context authorization now) = some operations ∧
      later = { tables with operations, idempotencyClaims := claims } := by
  unfold persistOperation at success
  obtain ⟨_, _, success⟩ := bind_ok.mp success
  obtain ⟨_, _, success⟩ := bind_ok.mp success
  obtain ⟨operations, inserted, success⟩ := bind_ok.mp success
  obtain ⟨claims, rfl⟩ := claimIdempotency_ok success
  exact ⟨operations, claims, require_ok.mp inserted, rfl⟩

def plannedRow (context : OperationContext) (entry : ManagedProjectionRebuildChangeEntry) : OperationItemRow where
  idempotencyId := context.idempotencyId
  relativePath := entry.relativePath
  changeKind := entry.change
  state := .untouched

theorem persistOperationItem_ok {entry : ManagedProjectionRebuildChangeEntry}
    (success : persistOperationItem context entry tables = .ok later) :
    ∃ items, tables.items.insert (plannedRow context entry) = some items ∧ later = { tables with items } := by
  unfold persistOperationItem at success
  obtain ⟨_, _, success⟩ := bind_ok.mp success
  obtain ⟨items, inserted, success⟩ := bind_ok.mp success
  cases pure_ok.mp success
  exact ⟨items, require_ok.mp inserted, rfl⟩

theorem persistOperationItems_ok {changes : List ManagedProjectionRebuildChangeEntry}
    (success : persistOperationItems context changes tables = .ok later) :
    ∃ items, items.rows = tables.items.rows ++ changes.map (plannedRow context) ∧ later = { tables with items } := by
  induction changes generalizing tables with
  | nil =>
    cases pure_ok.mp success
    exact ⟨later.items, by simp, rfl⟩
  | cons entry rest onwards =>
    obtain ⟨middle, first, following⟩ := bind_ok.mp success
    obtain ⟨items, inserted, rfl⟩ := persistOperationItem_ok first
    obtain ⟨final, grown, rfl⟩ := onwards following
    refine ⟨final, ?_, rfl⟩
    rw [grown, Relation.insert_rows inserted, List.map_cons, List.append_assoc, List.singleton_append]

theorem markHeadOutOfSync_ok (success : markHeadOutOfSync context now tables = .ok later) :
    ∃ updatedAt, later = { tables with
      head := some ⟨.outOfSync (tables.head.bind (·.integrity.manifestId)), updatedAt⟩ } := by
  unfold markHeadOutOfSync at success
  obtain ⟨_, _, success⟩ := bind_ok.mp success
  exact ⟨now, (pure_ok.mp success).symm⟩

theorem recordItem_ok {item : ManagedProjectionPublishItem} (success : recordItem context item tables = .ok later) :
    (tables.items.find (context.idempotencyId, item.relativePath)).isSome = true ∧
      later = { tables with
        items := tables.items.update (context.idempotencyId, item.relativePath) fun row =>
          { row with state := item.state } } := by
  unfold recordItem at success
  obtain ⟨_, planned, success⟩ := bind_ok.mp success
  exact ⟨ensure_ok.mp planned, (pure_ok.mp success).symm⟩

structure Recorded (context : OperationContext) (reported : List ManagedProjectionPublishItem)
    (before after : Relation OperationItemRow (IdempotencyId × String) fun row => (row.idempotencyId, row.relativePath)) :
    Prop where
  planned : ∀ item ∈ reported, (before.find (context.idempotencyId, item.relativePath)).isSome = true
  told : ∀ item ∈ reported, ∀ row, before.find (context.idempotencyId, item.relativePath) = some row →
    after.find (context.idempotencyId, item.relativePath) = some { row with state := item.state }
  others : ∀ key, key ∉ reported.map (fun item => (context.idempotencyId, item.relativePath)) →
    after.find key = before.find key

theorem recordItems_ok {reported : List ManagedProjectionPublishItem} (distinct : (reported.map (·.relativePath)).Nodup)
    (success : recordItems context reported tables = .ok later) :
    ∃ items, Recorded context reported tables.items items ∧ later = { tables with items } := by
  induction reported generalizing tables with
  | nil =>
    cases pure_ok.mp success
    exact ⟨later.items, ⟨fun _ held => absurd held List.not_mem_nil, fun _ held => absurd held List.not_mem_nil,
      fun _ _ => rfl⟩, rfl⟩
  | cons first rest onwards =>
    obtain ⟨middle, now, following⟩ := bind_ok.mp success
    obtain ⟨present, rfl⟩ := recordItem_ok now
    rw [List.map_cons, List.nodup_cons] at distinct
    obtain ⟨items, recorded, rfl⟩ := onwards distinct.2 following
    have different : ∀ item ∈ rest, (context.idempotencyId, first.relativePath) ≠ (context.idempotencyId, item.relativePath) := by
      intro item held same
      have path : first.relativePath = item.relativePath := congrArg Prod.snd same
      exact distinct.1 (path ▸ List.mem_map_of_mem held)
    refine ⟨items, ⟨?_, ?_, ?_⟩, rfl⟩
    · intro item held
      rw [List.mem_cons] at held
      rcases held with rfl | held
      · exact present
      · have later := recorded.planned item held
        rwa [Relation.find_update_other (different item held)] at later
    · intro item held row found
      rw [List.mem_cons] at held
      rcases held with rfl | held
      · have untouched : (context.idempotencyId, item.relativePath) ∉
            rest.map fun item => (context.idempotencyId, item.relativePath) := by
          intro among
          obtain ⟨other, member, same⟩ := List.mem_map.mp among
          exact different other member same.symm
        rw [recorded.others _ untouched, Relation.find_update_self found]
      · apply recorded.told item held
        rw [Relation.find_update_other (different item held)]
        exact found
    · intro key apart
      rw [List.map_cons, List.mem_cons, not_or] at apart
      rw [recorded.others key apart.2, Relation.find_update_other (Ne.symm apart.1)]

theorem endOperation_ok {row : OperationRow} {status : ManagedProjectionPublishStatus}
    {scope : ManagedProjectionEffectScope} (success : endOperation context row status scope now tables = .ok later) :
    later = { tables with
      operations := tables.operations.update context.idempotencyId fun row =>
        { row with status := .terminal status scope now } } := by
  unfold endOperation at success
  obtain ⟨_, _, success⟩ := bind_ok.mp success
  exact (pure_ok.mp success).symm

theorem persistManifest_ok {manifest : ManagedProjectionManifestGeneration}
    (success : persistManifest context manifest now tables = .ok later) :
    ∃ generations, tables.generations.insert ⟨manifest, now, context.idempotencyId⟩ = some generations ∧
      later = { tables with generations, head := some ⟨.verified manifest.manifestId, now⟩ } := by
  unfold persistManifest at success
  obtain ⟨_, _, success⟩ := bind_ok.mp success
  obtain ⟨_, _, success⟩ := bind_ok.mp success
  obtain ⟨_, _, success⟩ := bind_ok.mp success
  obtain ⟨generations, inserted, success⟩ := bind_ok.mp success
  cases pure_ok.mp success
  exact ⟨generations, require_ok.mp inserted, rfl⟩

end

theorem publicationInFlight_false {tables : ProjectionTables} :
    publicationInFlight tables = false ↔ ∀ row ∈ tables.operations.rows, row.status.inFlight = false := by
  unfold publicationInFlight
  rw [List.any_eq_false]
  simp

section
variable {items : List ManagedProjectionPublishItem}

theorem derive_none : ManagedProjectionEffectScope.derive items = .none ↔ ∀ item ∈ items, item.state ≠ .committed := by
  have empty : (items.filter fun item => item.state = .committed).length = 0 ↔
      ∀ item ∈ items, item.state ≠ .committed := by
    rw [List.length_eq_zero_iff, List.filter_eq_nil_iff]
    simp
  simp only [ManagedProjectionEffectScope.derive]
  rw [← empty]
  split
  next none => simp [none]
  next some =>
    split <;> simp [some]

theorem derive_complete (planned : items ≠ []) :
    ManagedProjectionEffectScope.derive items = .complete ↔ ∀ item ∈ items, item.state = .committed := by
  have whole : (items.filter fun item => item.state = .committed).length = items.length ↔
      ∀ item ∈ items, item.state = .committed := by
    rw [List.length_filter_eq_length_iff]
    simp
  have long : items.length ≠ 0 := fun short => planned (List.length_eq_zero_iff.mp short)
  simp only [ManagedProjectionEffectScope.derive]
  rw [← whole]
  split
  next none => simp [none, long.symm]
  next some =>
    split
    next all => simp [all]
    next some => simp [some]

end

section
variable {context : OperationContext} {tables later : ProjectionTables} {now : UtcTimestamp}

/-- A publication opens where none is in flight: its operation, its untouched paths and
a head that no longer claims to be in sync. -/
structure Opened (context : OperationContext) (authorization : Authorization)
    (changes : List ManagedProjectionRebuildChangeEntry) (now : UtcTimestamp) (before after : ProjectionTables) :
    Prop where
  idle : publicationInFlight before = false
  operations : before.operations.insert (openedRow context authorization now) = some after.operations
  items : after.items.rows = before.items.rows ++ changes.map (plannedRow context)
  head : ∃ updatedAt, after.head = some ⟨.outOfSync (before.head.bind (·.integrity.manifestId)), updatedAt⟩
  preparedIntents : after.preparedIntents = before.preparedIntents
  generations : after.generations = before.generations

variable {effects : ManagedProjectionRebuildEffects} {changes : List ManagedProjectionRebuildChangeEntry}

theorem openPublication_ok {authorization : Authorization} (idle : publicationInFlight tables = false)
    (success : openPublication context authorization changes now tables = .ok (later, effects)) :
    Opened context authorization changes now tables later ∧ effects.changes = changes := by
  unfold openPublication at success
  obtain ⟨_, operation, success⟩ := bind_ok.mp success
  obtain ⟨_, items, success⟩ := bind_ok.mp success
  obtain ⟨_, head, success⟩ := bind_ok.mp success
  obtain ⟨operations, claims, inserted, rfl⟩ := persistOperation_ok operation
  obtain ⟨items, grown, rfl⟩ := persistOperationItems_ok items
  obtain ⟨updatedAt, rfl⟩ := markHeadOutOfSync_ok head
  cases pure_ok.mp success
  exact ⟨⟨idle, inserted, grown, ⟨updatedAt, rfl⟩, rfl, rfl⟩, rfl⟩

theorem prepareRebuildManagedProjections_ok [Sha256] {command : PrepareRebuildManagedProjections} {id : PreparedIntentId}
    {intent : ManagedProjectionRebuildPreparedIntent}
    (success : prepareRebuildManagedProjections command id now tables = .ok (later, intent)) :
    later = tables ∨ ∃ preparedIntents prepareReplays claims,
      tables.preparedIntents.insert (preparedRow intent) = some preparedIntents ∧ intent.preview.changes ≠ [] ∧
      later = { tables with preparedIntents, prepareReplays, idempotencyClaims := claims } := by
  simp only [prepareRebuildManagedProjections] at success
  split at success
  next existing found =>
    obtain ⟨same, _, success⟩ := bind_ok.mp success
    cases same with
    | false => cases throw_ok.mp success
    | true =>
      obtain ⟨_, _, success⟩ := bind_ok.mp success
      cases pure_ok.mp success
      exact .inl rfl
  next =>
    obtain ⟨prepared, made, success⟩ := bind_ok.mp success
    obtain ⟨_, stored, success⟩ := bind_ok.mp success
    obtain ⟨_, replay, success⟩ := bind_ok.mp success
    obtain ⟨preparedIntents, inserted, rfl⟩ := persistPreparedIntent_ok stored
    obtain ⟨prepareReplays, claims, rfl⟩ := persistPrepareReplay_ok replay
    cases pure_ok.mp success
    obtain ⟨nonempty, _, _, changes, _⟩ := prepareRebuild_ok (relabel_ok.mp made)
    exact .inr ⟨preparedIntents, prepareReplays, claims, inserted, changes.symm ▸ nonempty, rfl⟩

variable {command : ApproveAndExecuteRebuildManagedProjections}

theorem replayExecute_ok {existing : OperationRow}
    (success : replayExecute command existing tables = .ok (later, effects)) : later = tables := by
  unfold replayExecute at success
  split at success
  · cases success
  · split at success
    · cases success; rfl
    · cases success

theorem replayExecute_answer {existing : OperationRow}
    (success : replayExecute command existing tables = .ok (later, effects)) :
    effects.changes = loadChanges tables command.approval.preparedId := by
  unfold replayExecute at success
  split at success
  · cases success
  · split at success
    next same =>
      cases success
      rw [same.1]
    · cases success

/-- What an approval spends: an intent not consumed before, under its own digest, before
it expires, and with the Ledger, the baseline and the changes as it was prepared from. -/
structure Spent (command : ApproveAndExecuteRebuildManagedProjections) (baseline : String)
    (changes : List ManagedProjectionRebuildChangeEntry) (now : UtcTimestamp) (tables : ProjectionTables)
    (row : PreparedIntentRow) (payload : RebuildPayloadRow) : Prop where
  found : tables.preparedIntents.find command.approval.preparedId = some row
  rebuild : row.rebuild = some payload
  unconsumed : row.consumedAt = none
  acknowledged : command.approval.acknowledgedPayloadDigest = row.payloadDigest
  unexpired : now < row.expiresAt
  schemaVersion : tables.schemaVersion = payload.ledgerSchemaVersion
  ledgerRevision : tables.ledgerRevision = payload.ledgerRevision
  baseline : baseline = payload.publishedBaselineDigest
  changes : changes = payload.changes

def spend (tables : ProjectionTables) (id : PreparedIntentId) (now : UtcTimestamp) : ProjectionTables :=
  { tables with
    preparedIntents := tables.preparedIntents.update id (fun row => { row with consumedAt := some now }) (consumed_id now) }

theorem approveAndExecuteRebuildManagedProjections_ok {receipt : ApprovalReceiptId} {baseline : String}
    (success : approveAndExecuteRebuildManagedProjections command receipt baseline changes now tables =
      .ok (later, effects)) :
    (∃ existing, tables.operations.find command.context.idempotencyId = some existing ∧ later = tables ∧
      effects.changes = loadChanges tables command.approval.preparedId) ∨ ∃ row payload, Spent command baseline changes now tables row payload ∧
      effects.changes = payload.changes ∧
      Opened command.context
        (.h2a command.approval.preparedId receipt .headOfProducts command.approval.acknowledgedPayloadDigest)
        payload.changes now (spend tables command.approval.preparedId now) later := by
  simp only [approveAndExecuteRebuildManagedProjections] at success
  split at success
  next existing found => exact .inl ⟨existing, found, replayExecute_ok success, replayExecute_answer success⟩
  next =>
    obtain ⟨consumed, read, success⟩ := bind_ok.mp success
    obtain ⟨_, fresh, success⟩ := bind_ok.mp success
    obtain ⟨prepared, decoded, success⟩ := bind_ok.mp success
    obtain ⟨allowed, executed, success⟩ := bind_ok.mp success
    obtain ⟨_, spent, success⟩ := bind_ok.mp success
    obtain ⟨_, idle, success⟩ := bind_ok.mp success
    obtain ⟨_, receipted, success⟩ := bind_ok.mp success
    obtain ⟨row, payload, found, kind, _, digest, expiry, planned, schema, revision, published⟩ :=
      decodePreparedIntent_ok decoded
    obtain ⟨_, acknowledged, unexpired, ⟨sameSchema, sameRevision, sameBaseline, sameChanges⟩, admitted⟩ :=
      executeRebuild_ok (relabel_ok.mp executed)
    have state := consumePreparedIntent_ok spent
    subst state
    obtain ⟨receipts, rfl⟩ := persistApprovalReceipt_ok receipted
    obtain ⟨opened, told⟩ := openPublication_ok (by exact ensure_ok.mp idle) success
    have changes : allowed.changes = payload.changes := admitted.trans planned
    rw [changes] at opened told
    have unconsumed : row.consumedAt = none := by
      have flag := (isConsumed_ok read found).trans (ensure_ok.mp fresh)
      simpa using flag
    refine .inr ⟨row, payload, ?_, told, ?_⟩
    · exact ⟨found, kind, unconsumed, acknowledged.trans digest, expiry ▸ unexpired, sameSchema.trans schema,
        sameRevision.trans revision, sameBaseline.trans published, sameChanges.trans planned⟩
    · exact ⟨opened.idle, opened.operations, opened.items, opened.head, opened.preparedIntents, opened.generations⟩

theorem beginH1AutoRebuildManagedProjections_ok {authorization : ManagedProjectionH1AutoAuthorization}
    (success : beginH1AutoRebuildManagedProjections context authorization changes now tables = .ok (later, effects)) :
    changes ≠ [] ∧ canonical changes = true ∧ projectionHeadIsVerified tables = true ∧ effects.changes = changes ∧
      Opened context .h1Auto changes now tables later := by
  unfold beginH1AutoRebuildManagedProjections at success
  obtain ⟨_, _, success⟩ := bind_ok.mp success
  obtain ⟨_, nonempty, success⟩ := bind_ok.mp success
  obtain ⟨_, ordered, success⟩ := bind_ok.mp success
  obtain ⟨_, synchronized, success⟩ := bind_ok.mp success
  obtain ⟨_, _, success⟩ := bind_ok.mp success
  obtain ⟨_, idle, success⟩ := bind_ok.mp success
  obtain ⟨opened, told⟩ := openPublication_ok (ensure_ok.mp idle) success
  exact ⟨ensure_ok.mp nonempty, ensure_ok.mp ordered, ensure_ok.mp synchronized, told, opened⟩

theorem requestRebuildManagedProjectionsCancellation_ok
    (success : requestRebuildManagedProjectionsCancellation context tables = .ok later) :
    later = tables ∨ ∃ row, tables.operations.find context.idempotencyId = some row ∧ row.status = .publishing ∧
      later = { tables with
        operations := tables.operations.update context.idempotencyId fun row => { row with status := .cancelling } } := by
  unfold requestRebuildManagedProjectionsCancellation at success
  obtain ⟨row, found, success⟩ := bind_ok.mp success
  split at success
  · exact .inl (pure_ok.mp success).symm
  next publishing => exact .inr ⟨row, require_ok.mp found, publishing, (pure_ok.mp success).symm⟩
  · cases throw_ok.mp success

/-- An end: the operation was in flight, the report covers its plan, and the head is
verified exactly when a manifest comes with it. -/
structure Completed (context : OperationContext) (report : ManagedProjectionPublishReport) (now : UtcTimestamp)
    (before after : ProjectionTables) : Prop where
  running : ∃ row, before.operations.find context.idempotencyId = some row ∧ row.status.inFlight = true
  distinct : (report.items.map (·.relativePath)).Nodup
  whole : report.items.length = (before.itemsOf context.idempotencyId).length
  items : Recorded context report.items before.items after.items
  operations : after.operations = before.operations.update context.idempotencyId fun row =>
    { row with status := .terminal report.status (ManagedProjectionEffectScope.derive report.items) now }
  preparedIntents : after.preparedIntents = before.preparedIntents
  head : match report.manifest with
    | some manifest => before.generations.insert ⟨manifest, now, context.idempotencyId⟩ = some after.generations ∧
        after.head = some ⟨.verified manifest.manifestId, now⟩
    | none => after.generations = before.generations ∧
        ∃ updatedAt, after.head = some ⟨.outOfSync (before.head.bind (·.integrity.manifestId)), updatedAt⟩

theorem completeRebuildManagedProjections_ok {report : ManagedProjectionPublishReport}
    {scope : ManagedProjectionEffectScope}
    (success : completeRebuildManagedProjections context report now tables = .ok (later, scope)) :
    Completed context report now tables later ∧ scope = ManagedProjectionEffectScope.derive report.items := by
  simp only [completeRebuildManagedProjections] at success
  obtain ⟨row, found, success⟩ := bind_ok.mp success
  obtain ⟨_, running, success⟩ := bind_ok.mp success
  obtain ⟨_, covers, success⟩ := bind_ok.mp success
  obtain ⟨_, recorded, success⟩ := bind_ok.mp success
  obtain ⟨_, ended, success⟩ := bind_ok.mp success
  obtain ⟨final, head, success⟩ := bind_ok.mp success
  cases pure_ok.mp success
  obtain ⟨distinct, whole⟩ := ensure_ok.mp covers
  obtain ⟨items, settled, rfl⟩ := recordItems_ok distinct recorded
  have state := endOperation_ok ended
  subst state
  have running : ∃ row, tables.operations.find context.idempotencyId = some row ∧ row.status.inFlight = true :=
    ⟨row, require_ok.mp found, ensure_ok.mp running⟩
  refine ⟨?_, rfl⟩
  obtain ⟨status, reported, given⟩ := report
  cases given with
  | some manifest =>
    obtain ⟨generations, inserted, rfl⟩ := persistManifest_ok head
    exact ⟨running, distinct, whole, settled, rfl, rfl, inserted, rfl⟩
  | none =>
    obtain ⟨updatedAt, rfl⟩ := markHeadOutOfSync_ok head
    exact ⟨running, distinct, whole, settled, rfl, rfl, rfl, updatedAt, rfl⟩

theorem markProjectionsOutOfSyncAfterRestore_ok (success : markProjectionsOutOfSyncAfterRestore now tables = .ok later) :
    later = { tables with head := some ⟨.outOfSync (tables.head.bind (·.integrity.manifestId)), now⟩ } := by
  unfold markProjectionsOutOfSyncAfterRestore at success
  obtain ⟨_, _, success⟩ := bind_ok.mp success
  exact (pure_ok.mp success).symm

end

/-- Everything a successful call can do. -/
inductive Moved [Sha256] (tables later : ProjectionTables) : Call → Prop where
  | unmoved {call : Call} (same : later = tables) : Moved tables later call
  | prepared {command : PrepareRebuildManagedProjections} {id : PreparedIntentId} {now : UtcTimestamp}
    (intent : ManagedProjectionRebuildPreparedIntent)
    (preparedIntents : Relation PreparedIntentRow PreparedIntentId PreparedIntentRow.id)
    (prepareReplays : Relation PrepareReplayRow IdempotencyId PrepareReplayRow.idempotencyId)
    (claims : List IdempotencyId)
    (inserted : tables.preparedIntents.insert (preparedRow intent) = some preparedIntents)
    (planned : intent.preview.changes ≠ [])
    (same : later = { tables with preparedIntents, prepareReplays, idempotencyClaims := claims }) :
    Moved tables later (.prepareRebuild command id now)
  | approved {command : ApproveAndExecuteRebuildManagedProjections} {receipt : ApprovalReceiptId} {baseline : String}
    {changes : List ManagedProjectionRebuildChangeEntry} {now : UtcTimestamp} (row : PreparedIntentRow)
    (payload : RebuildPayloadRow) (spent : Spent command baseline changes now tables row payload)
    (opened : Opened command.context
      (.h2a command.approval.preparedId receipt .headOfProducts command.approval.acknowledgedPayloadDigest)
      payload.changes now (spend tables command.approval.preparedId now) later) :
    Moved tables later (.approveAndExecuteRebuild command receipt baseline changes now)
  | automated {context : OperationContext} {authorization : ManagedProjectionH1AutoAuthorization}
    {changes : List ManagedProjectionRebuildChangeEntry} {now : UtcTimestamp} (planned : changes ≠ [])
    (opened : Opened context .h1Auto changes now tables later) :
    Moved tables later (.beginH1AutoRebuild context authorization changes now)
  | cancelling {context : OperationContext} (row : OperationRow)
    (found : tables.operations.find context.idempotencyId = some row) (publishing : row.status = .publishing)
    (same : later = { tables with
      operations := tables.operations.update context.idempotencyId fun row => { row with status := .cancelling } }) :
    Moved tables later (.requestCancellation context)
  | completed {context : OperationContext} {report : ManagedProjectionPublishReport} {now : UtcTimestamp}
    (completed : Completed context report now tables later) : Moved tables later (.completeRebuild context report now)
  | unsynchronized {now : UtcTimestamp} (updatedAt : UtcTimestamp)
    (same : later = { tables with head := some ⟨.outOfSync (tables.head.bind (·.integrity.manifestId)), updatedAt⟩ }) :
    Moved tables later (.markOutOfSyncAfterRestore now)

theorem Call.moved [Sha256] {call : Call} {tables later : ProjectionTables} {answer : Answer}
    (success : call.operation tables = .ok (later, answer)) : Moved tables later call := by
  cases call with
  | prepareRebuild command id now =>
    obtain ⟨⟨after, intent⟩, call, success⟩ := bind_ok.mp success
    cases pure_ok.mp success
    obtain same | ⟨preparedIntents, prepareReplays, claims, inserted, planned, same⟩ :=
      prepareRebuildManagedProjections_ok (relabel_ok.mp call)
    · exact .unmoved same
    · exact .prepared intent preparedIntents prepareReplays claims inserted planned same
  | approveAndExecuteRebuild command receipt baseline changes now =>
    obtain ⟨⟨after, effects⟩, call, success⟩ := bind_ok.mp success
    cases pure_ok.mp success
    obtain ⟨_, _, same, _⟩ | ⟨row, payload, spent, _, opened⟩ :=
      approveAndExecuteRebuildManagedProjections_ok (relabel_ok.mp call)
    · exact .unmoved same
    · exact .approved row payload spent opened
  | beginH1AutoRebuild context authorization changes now =>
    obtain ⟨⟨after, effects⟩, call, success⟩ := bind_ok.mp success
    cases pure_ok.mp success
    obtain ⟨planned, _, _, _, opened⟩ := beginH1AutoRebuildManagedProjections_ok (relabel_ok.mp call)
    exact .automated planned opened
  | requestCancellation context =>
    obtain ⟨after, call, success⟩ := bind_ok.mp success
    cases pure_ok.mp success
    obtain same | ⟨row, found, publishing, same⟩ := requestRebuildManagedProjectionsCancellation_ok (relabel_ok.mp call)
    · exact .unmoved same
    · exact .cancelling row found publishing same
  | completeRebuild context report now =>
    obtain ⟨⟨after, scope⟩, call, success⟩ := bind_ok.mp success
    cases pure_ok.mp success
    exact .completed (completeRebuildManagedProjections_ok (relabel_ok.mp call)).1
  | markOutOfSyncAfterRestore now =>
    obtain ⟨after, call, success⟩ := bind_ok.mp success
    cases pure_ok.mp success
    exact .unsynchronized now (markProjectionsOutOfSyncAfterRestore_ok (relabel_ok.mp call))

end MissionControl.Projections

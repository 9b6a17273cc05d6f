import MissionControl.Evidence.Ledger

/-! What the statements and commands do when they succeed. -/

namespace MissionControl.Evidence
open Checked

section
variable {tables : EvidenceTables} {id : EvidenceReferenceId} {registered : RegistryRow} {reference : EvidenceReferenceRow}

theorem aggregate_some {text : String} {aggregateType : AggregateType} :
    tables.aggregate text aggregateType = some registered ↔
      tables.registry.find text = some registered ∧ registered.aggregateType = aggregateType := by
  unfold EvidenceTables.aggregate
  rw [Option.filter_eq_some_iff]
  simp

theorem current_some :
    tables.current id = some (registered, reference) ↔
      tables.aggregate id.asStr .evidenceReference = some registered ∧ tables.references.find id = some reference := by
  unfold EvidenceTables.current
  rw [Option.bind_eq_some_iff]
  constructor
  · intro ⟨row, found, same⟩
    obtain ⟨other, held, pair⟩ := Option.map_eq_some_iff.mp same
    cases pair
    exact ⟨found, held⟩
  · intro ⟨found, held⟩
    exact ⟨registered, found, Option.map_eq_some_iff.mpr ⟨reference, held, rfl⟩⟩

end

variable {context : OperationContext} {tables later : EvidenceTables} {occurredAt : UtcTimestamp}

variable {id : EvidenceReferenceId}

theorem loadRecord_ok {record : EvidenceReferenceRecord}
    (success : loadEvidenceReferenceRecord context tables id = .ok record) :
    ∃ registered reference, tables.current id = some (registered, reference) ∧ record = recordOf registered reference := by
  unfold loadEvidenceReferenceRecord at success
  obtain ⟨⟨registered, reference⟩, found, success⟩ := bind_ok.mp success
  exact ⟨registered, reference, require_ok.mp found, (pure_ok.mp success).symm⟩

theorem loadRecord_current {registered : RegistryRow} {reference : EvidenceReferenceRow}
    (found : tables.current id = some (registered, reference)) :
    loadEvidenceReferenceRecord context tables id = .ok (recordOf registered reference) := by
  unfold loadEvidenceReferenceRecord
  rw [found]
  rfl

theorem decodeAudit_built {id : AuditEventId} {evidenceId : EvidenceReferenceId} {code : AuditEventCode}
    {correlationId : CorrelationId}
    (found : tables.auditEvents.find id = some (buildAudit id occurredAt evidenceId code correlationId)) :
    decodeAudit context tables id = .ok (buildAudit id occurredAt evidenceId code correlationId) := by
  unfold decodeAudit
  rw [found]
  rfl

theorem decodeAudit_ok {id : AuditEventId} {event : AuditEvent} (success : decodeAudit context tables id = .ok event) :
    event.policyOutcome = .notRequired := by
  unfold decodeAudit at success
  obtain ⟨_, _, success⟩ := bind_ok.mp success
  obtain ⟨_, _, success⟩ := bind_ok.mp success
  cases pure_ok.mp success
  rfl

theorem persistAudit_ok {audit : AuditEvent} (success : persistAudit context audit tables = .ok later) :
    ∃ auditEvents, tables.auditEvents.insert audit = some auditEvents ∧ later = { tables with auditEvents } := by
  unfold persistAudit at success
  obtain ⟨_, _, success⟩ := bind_ok.mp success
  obtain ⟨auditEvents, inserted, success⟩ := bind_ok.mp success
  exact ⟨auditEvents, require_ok.mp inserted, (pure_ok.mp success).symm⟩

theorem persistResult_ok {keep : EvidenceTables → Option EvidenceTables}
    (success : persistResult context keep tables = .ok later) :
    ∃ kept, keep tables = some kept ∧ later =
      { kept with
        idempotencyClaims := context.idempotencyId :: kept.idempotencyClaims
        ledgerRevision := kept.ledgerRevision + 1 } := by
  unfold persistResult at success
  obtain ⟨kept, stored, success⟩ := bind_ok.mp success
  obtain ⟨claimed, claims, success⟩ := bind_ok.mp success
  unfold claimIdempotency at claims
  obtain ⟨_, _, claims⟩ := bind_ok.mp claims
  cases pure_ok.mp claims
  unfold advanceRevision at success
  obtain ⟨_, _, success⟩ := bind_ok.mp success
  exact ⟨kept, require_ok.mp stored, (pure_ok.mp success).symm⟩

variable {version newVersion : AggregateVersion}

theorem advanceVersion_ok (success : advanceVersion context id version occurredAt tables = .ok (later, newVersion)) :
    (∃ registered, tables.aggregate id.asStr .evidenceReference = some registered ∧ registered.version = version) ∧
      version.next = some newVersion ∧ later = { tables with
        registry := tables.registry.update id.asStr fun row => { row with version := newVersion, updatedAt := occurredAt } } := by
  unfold advanceVersion at success
  obtain ⟨registered, found, success⟩ := bind_ok.mp success
  obtain ⟨_, standing, success⟩ := bind_ok.mp success
  obtain ⟨_, advanced, success⟩ := bind_ok.mp success
  obtain ⟨_, _, success⟩ := bind_ok.mp success
  cases pure_ok.mp success
  exact ⟨⟨registered, require_ok.mp found, (ensure_ok.mp standing).1⟩, require_ok.mp advanced, rfl⟩

def registryRow (record : EvidenceReferenceRecord) : RegistryRow where
  id := record.id.asStr
  aggregateType := .evidenceReference
  version := record.version
  classification := record.classification
  createdAt := record.createdAt
  updatedAt := record.updatedAt

def referenceRow (record : EvidenceReferenceRecord) : EvidenceReferenceRow where
  id := record.id
  verification := record.verification
  vaultPath := record.vaultPath
  fingerprint := record.fingerprint
  provenance := record.provenance

theorem insertReference_ok {record : EvidenceReferenceRecord} (success : insertReference context record tables = .ok later) :
    ∃ registry references, tables.registry.insert (registryRow record) = some registry ∧
      tables.references.insert (referenceRow record) = some references ∧ later = { tables with registry, references } := by
  unfold insertReference at success
  obtain ⟨_, _, success⟩ := bind_ok.mp success
  obtain ⟨registry, registered, success⟩ := bind_ok.mp success
  obtain ⟨references, inserted, success⟩ := bind_ok.mp success
  exact ⟨registry, references, require_ok.mp registered, require_ok.mp inserted, (pure_ok.mp success).symm⟩

theorem insertLink_ok {link : EvidenceLinkRecord} (success : insertLink context link tables = .ok later) :
    ∃ links, tables.links.insert link = some links ∧ later = { tables with links } := by
  unfold insertLink at success
  obtain ⟨_, _, success⟩ := bind_ok.mp success
  obtain ⟨links, inserted, success⟩ := bind_ok.mp success
  exact ⟨links, require_ok.mp inserted, (pure_ok.mp success).symm⟩

theorem insertLinks_ok {added : List EvidenceLinkRecord} (success : insertLinks context added tables = .ok later) :
    ∃ links, links.rows = tables.links.rows ++ added ∧ later = { tables with links } := by
  induction added generalizing tables with
  | nil =>
    cases pure_ok.mp success
    exact ⟨later.links, by simp, rfl⟩
  | cons link rest onwards =>
    obtain ⟨middle, first, following⟩ := bind_ok.mp success
    obtain ⟨links, inserted, rfl⟩ := insertLink_ok first
    obtain ⟨final, grown, rfl⟩ := onwards following
    refine ⟨final, ?_, rfl⟩
    rw [grown, Relation.insert_rows inserted, List.append_assoc, List.singleton_append]

theorem reviseReference_ok {verification : EvidenceVerification} {vaultPath : VaultRelativePath}
    {fingerprint : Option EvidenceFingerprint}
    (success : reviseReference context id version verification vaultPath fingerprint occurredAt tables =
      .ok (later, newVersion)) :
    version.next = some newVersion ∧ later = { tables with
      registry := tables.registry.update id.asStr fun row => { row with version := newVersion, updatedAt := occurredAt }
      references := tables.references.update id fun row => { row with verification, vaultPath, fingerprint } } := by
  unfold reviseReference at success
  obtain ⟨_, _, success⟩ := bind_ok.mp success
  obtain ⟨_, advanced, rfl⟩ := advanceVersion_ok success
  exact ⟨advanced, rfl⟩

def SeesLink (tables : EvidenceTables) (link : EvidenceLinkRecord) (seen : EvidenceSupersessionLinkSnapshot) : Prop :=
  ∃ target, tables.aggregate link.target.idStr link.target.aggregateType = some target ∧
    seen.target = link.target ∧ seen.targetClassification = target.classification ∧
    seen.linkClassification = link.classification

theorem loadSnapshot_ok {sourceId : EvidenceReferenceId} {source : EvidenceSupersessionSourceSnapshot}
    (success : loadEvidenceSupersessionSourceSnapshot context tables sourceId = .ok source) :
    ∃ registered reference, tables.current sourceId = some (registered, reference) ∧
      source.record = recordOf registered reference ∧ List.Forall₂ (SeesLink tables) (tables.linksOf sourceId) source.links := by
  unfold loadEvidenceSupersessionSourceSnapshot at success
  obtain ⟨_, _, success⟩ := bind_ok.mp success
  obtain ⟨record, loaded, success⟩ := bind_ok.mp success
  obtain ⟨links, read, success⟩ := bind_ok.mp success
  cases pure_ok.mp success
  obtain ⟨registered, reference, found, same⟩ := loadRecord_ok loaded
  refine ⟨registered, reference, found, same, (mapM_ok.mp read).imp ?_⟩
  intro link seen looked
  unfold linkSnapshot at looked
  obtain ⟨target, named, looked⟩ := bind_ok.mp looked
  cases pure_ok.mp looked
  exact ⟨target, require_ok.mp named, rfl, rfl, rfl⟩

def preparedRow (prepared : EvidenceSupersessionPreparedIntent) : PreparedIntentRow where
  id := prepared.preview.preparedIntentId
  payloadDigest := prepared.payloadDigest
  expiresAt := prepared.preview.expiresAt
  createdAt := prepared.createdAt
  consumedAt := none
  supersession := some
    { sourceId := prepared.preview.sourceId
      sourceVersion := prepared.preview.sourceVersion
      sourceVaultPath := prepared.preview.sourceVaultPath
      sourceFingerprint := prepared.preview.sourceFingerprint
      sourceClassification := prepared.preview.sourceClassification
      replacementId := prepared.preview.replacementId
      replacementVaultPath := prepared.preview.replacementVaultPath
      replacementFingerprint := prepared.preview.replacementFingerprint
      replacementObservedAt := prepared.preview.replacementObservedAt
      replacementClassification := prepared.preview.replacementClassification
      replacementProvenance := prepared.preview.replacementProvenance
      links := prepared.preview.links
      classification := prepared.preview.classification
      rationale := prepared.preview.rationale }

variable {prepared : EvidenceSupersessionPreparedIntent}

theorem persistPrepared_ok (success : persistEvidenceSupersessionPreparedIntent context prepared tables = .ok later) :
    ∃ preparedIntents, tables.preparedIntents.insert (preparedRow prepared) = some preparedIntents ∧
      later = { tables with preparedIntents } := by
  unfold persistEvidenceSupersessionPreparedIntent at success
  obtain ⟨_, _, success⟩ := bind_ok.mp success
  obtain ⟨preparedIntents, inserted, success⟩ := bind_ok.mp success
  exact ⟨preparedIntents, require_ok.mp inserted, (pure_ok.mp success).symm⟩

def PreparedIntentRow.prepared? (row : PreparedIntentRow) : Option EvidenceSupersessionPreparedIntent :=
  row.supersession.map (preparedOf row)

@[simp] theorem preparedRow_prepared (prepared : EvidenceSupersessionPreparedIntent) :
    (preparedRow prepared).prepared? = some prepared := rfl

theorem loadPrepared_ok {preparedId : PreparedIntentId} :
    loadEvidenceSupersessionPreparedIntent context tables preparedId = .ok prepared ↔
      ∃ row, tables.preparedIntents.find preparedId = some row ∧ row.prepared? = some prepared := by
  unfold loadEvidenceSupersessionPreparedIntent
  rw [bind_ok]
  constructor
  · intro ⟨row, found, success⟩
    obtain ⟨payload, kind, success⟩ := bind_ok.mp success
    cases pure_ok.mp success
    exact ⟨row, require_ok.mp found, Option.map_eq_some_iff.mpr ⟨payload, require_ok.mp kind, rfl⟩⟩
  · intro ⟨row, found, stands⟩
    obtain ⟨payload, kind, same⟩ := Option.map_eq_some_iff.mp stands
    exact ⟨row, require_ok.mpr found, bind_ok.mpr ⟨payload, require_ok.mpr kind, pure_ok.mpr same⟩⟩

theorem prepared_id {row : PreparedIntentRow} (stands : row.prepared? = some prepared) :
    prepared.preview.preparedIntentId = row.id := by
  obtain ⟨payload, _, rfl⟩ := Option.map_eq_some_iff.mp stands
  rfl

theorem consumePreparedIntent_ok {preparedId : PreparedIntentId}
    (success : consumePreparedIntent context preparedId occurredAt tables = .ok later) :
    later = { tables with
      preparedIntents := tables.preparedIntents.update preparedId fun row => { row with consumedAt := some occurredAt } } := by
  unfold consumePreparedIntent at success
  obtain ⟨_, _, success⟩ := bind_ok.mp success
  obtain ⟨_, _, success⟩ := bind_ok.mp success
  obtain ⟨_, _, success⟩ := bind_ok.mp success
  exact (pure_ok.mp success).symm

theorem persistApprovalReceipt_ok {receipt : ApprovalReceiptRow}
    (success : persistApprovalReceipt context receipt tables = .ok later) :
    ∃ approvalReceipts, later = { tables with approvalReceipts } := by
  unfold persistApprovalReceipt at success
  obtain ⟨_, _, success⟩ := bind_ok.mp success
  obtain ⟨approvalReceipts, _, success⟩ := bind_ok.mp success
  exact ⟨approvalReceipts, (pure_ok.mp success).symm⟩

theorem persistSupersession_ok {edge : SupersessionRow} (success : persistSupersession context edge tables = .ok later) :
    edge.sourceId ≠ edge.replacementId ∧
      ∃ supersessions, tables.supersessions.insert edge = some supersessions ∧ later = { tables with supersessions } := by
  unfold persistSupersession at success
  obtain ⟨_, allowed, success⟩ := bind_ok.mp success
  obtain ⟨supersessions, inserted, success⟩ := bind_ok.mp success
  exact ⟨(ensure_ok.mp allowed).1, supersessions, require_ok.mp inserted, (pure_ok.mp success).symm⟩

/-- What an execution leaves of its own effects. -/
structure Superseded (effects : EvidenceSupersessionEffects) (preparedIntentId : PreparedIntentId)
    (sourceVersion : AggregateVersion) (before after : EvidenceTables) (occurredAt : UtcTimestamp) : Prop where
  registered : ∃ registry newVersion, before.registry.insert (registryRow effects.replacement) = some registry ∧
    sourceVersion.next = some newVersion ∧ after.registry = registry.update effects.sourceId.asStr fun row =>
      { row with version := newVersion, updatedAt := occurredAt }
  referenced : before.references.insert (referenceRow effects.replacement) = some after.references
  linked : after.links.rows = before.links.rows ++ effects.replacementLinks
  edged : ∃ edge, edge.sourceId = effects.sourceId ∧ edge.replacementId = effects.replacement.id ∧
    edge.preparedIntentId = preparedIntentId ∧ before.supersessions.insert edge = some after.supersessions
  distinct : effects.sourceId ≠ effects.replacement.id

theorem persistEffects_ok {effects : EvidenceSupersessionEffects} {preparedIntentId : PreparedIntentId}
    {approvalReceiptId : ApprovalReceiptId} {sourceVersion : AggregateVersion} {rationale : WorkManagementRationale}
    (success : persistEvidenceSupersessionEffects context effects preparedIntentId approvalReceiptId sourceVersion
      rationale occurredAt tables = .ok later) :
    Superseded effects preparedIntentId sourceVersion tables later occurredAt ∧
      ∃ registry references links supersessions, later = { tables with registry, references, links, supersessions } := by
  unfold persistEvidenceSupersessionEffects at success
  obtain ⟨_, inserted, success⟩ := bind_ok.mp success
  obtain ⟨registry, references, registered, referenced, rfl⟩ := insertReference_ok inserted
  obtain ⟨_, added, success⟩ := bind_ok.mp success
  obtain ⟨links, grown, rfl⟩ := insertLinks_ok added
  obtain ⟨⟨_, newVersion⟩, advanced, success⟩ := bind_ok.mp success
  obtain ⟨_, next, rfl⟩ := advanceVersion_ok advanced
  obtain ⟨distinct, supersessions, edged, rfl⟩ := persistSupersession_ok success
  exact ⟨⟨⟨registry, newVersion, registered, next, rfl⟩, referenced, grown, ⟨_, rfl, rfl, rfl, edged⟩, distinct⟩,
    _, references, links, supersessions, rfl⟩

end MissionControl.Evidence

import MissionControl.Evidence.Steps

/-! What a command leaves in the tables: how it changes the references and their links,
and which rows it adds to those it can be answered from later. -/

namespace MissionControl.Evidence
open Checked

/-- The rows an answer is given from are kept as they are. -/
structure Grows (before after : EvidenceTables) : Prop where
  creations : ∀ key row, before.creations.find key = some row → after.creations.find key = some row := by
    exact fun _ _ found => found
  linkings : ∀ key row, before.linkings.find key = some row → after.linkings.find key = some row := by
    exact fun _ _ found => found
  verifications : ∀ key row, before.verifications.find key = some row → after.verifications.find key = some row := by
    exact fun _ _ found => found
  relocations : ∀ key row, before.relocations.find key = some row → after.relocations.find key = some row := by
    exact fun _ _ found => found
  pins : ∀ key row, before.pins.find key = some row → after.pins.find key = some row := by
    exact fun _ _ found => found
  preparations : ∀ key row, before.preparations.find key = some row → after.preparations.find key = some row := by
    exact fun _ _ found => found
  executions : ∀ key row, before.executions.find key = some row → after.executions.find key = some row := by
    exact fun _ _ found => found
  auditEvents : ∀ id row, before.auditEvents.find id = some row → after.auditEvents.find id = some row := by
    exact fun _ _ found => found
  reservations : ∀ id row, before.reservations.find id = some row → after.reservations.find id = some row := by
    exact fun _ _ found => found

theorem Grows.refl (tables : EvidenceTables) : Grows tables tables := {}

theorem Grows.trans {first middle last : EvidenceTables} (one : Grows first middle) (two : Grows middle last) :
    Grows first last where
  creations := fun key row found => two.creations key row (one.creations key row found)
  linkings := fun key row found => two.linkings key row (one.linkings key row found)
  verifications := fun key row found => two.verifications key row (one.verifications key row found)
  relocations := fun key row found => two.relocations key row (one.relocations key row found)
  pins := fun key row found => two.pins key row (one.pins key row found)
  preparations := fun key row found => two.preparations key row (one.preparations key row found)
  executions := fun key row found => two.executions key row (one.executions key row found)
  auditEvents := fun id row found => two.auditEvents id row (one.auditEvents id row found)
  reservations := fun id row found => two.reservations id row (one.reservations id row found)

/-- The tables that say what the references are. -/
structure Core where
  registry : Relation RegistryRow String RegistryRow.id
  references : Relation EvidenceReferenceRow EvidenceReferenceId EvidenceReferenceRow.id
  links : Relation EvidenceLinkRecord (EvidenceReferenceId × EvidenceLinkTarget) fun row => (row.evidenceId, row.target)
  supersessions : Relation SupersessionRow EvidenceReferenceId SupersessionRow.sourceId
  preparedIntents : Relation PreparedIntentRow PreparedIntentId PreparedIntentRow.id

def EvidenceTables.core (tables : EvidenceTables) : Core :=
  ⟨tables.registry, tables.references, tables.links, tables.supersessions, tables.preparedIntents⟩

inductive Change [Sha256] (before after : EvidenceTables) : Prop where
  | idle (same : after.core = before.core)
  | created (record : EvidenceReferenceRecord)
      (registry : Relation RegistryRow String RegistryRow.id)
      (references : Relation EvidenceReferenceRow EvidenceReferenceId EvidenceReferenceRow.id)
      (registered : before.registry.insert (registryRow record) = some registry)
      (referenced : before.references.insert (referenceRow record) = some references)
      (same : after.core = { before.core with registry, references })
  | linked (link : EvidenceLinkRecord) (registered : RegistryRow)
      (links : Relation EvidenceLinkRecord (EvidenceReferenceId × EvidenceLinkTarget) fun row => (row.evidenceId, row.target))
      (found : before.aggregate link.evidenceId.asStr .evidenceReference = some registered)
      (live : before.isSuperseded link.evidenceId = false)
      (inserted : before.links.insert link = some links)
      (same : after.core = { before.core with links })
  | revised (id : EvidenceReferenceId) (registered : RegistryRow) (reference : EvidenceReferenceRow)
      (newVersion : AggregateVersion) (verification : EvidenceVerification) (vaultPath : VaultRelativePath)
      (fingerprint : Option EvidenceFingerprint) (occurredAt : UtcTimestamp)
      (found : before.current id = some (registered, reference))
      (next : registered.version.next = some newVersion)
      (pinned : ∀ pin, reference.fingerprint = some pin → fingerprint = some pin)
      (same : after.core = { before.core with
        registry := before.registry.update id.asStr fun row => { row with version := newVersion, updatedAt := occurredAt }
        references := before.references.update id fun row => { row with verification, vaultPath, fingerprint } })
  | prepared (command : PrepareSupersedeEvidenceReference) (source : EvidenceSupersessionSourceSnapshot)
      (prepared : EvidenceSupersessionPreparedIntent) (now : UtcTimestamp)
      (preparedIntents : Relation PreparedIntentRow PreparedIntentId PreparedIntentRow.id)
      (loaded : loadEvidenceSupersessionSourceSnapshot command.context before command.sourceId = .ok source)
      (success : prepareSupersession command prepared.preview.preparedIntentId source now = .ok prepared)
      (inserted : before.preparedIntents.insert (preparedRow prepared) = some preparedIntents)
      (same : after.core = { before.core with preparedIntents })
      (requested : after.preparations.find command.context.idempotencyId =
        some ⟨command, prepared.preview.preparedIntentId⟩)
  | superseded (context : OperationContext) (approval : EvidenceSupersessionApproval) (row : PreparedIntentRow)
      (prepared : EvidenceSupersessionPreparedIntent) (source : EvidenceSupersessionSourceSnapshot)
      (effects : EvidenceSupersessionEffects) (occurredAt : UtcTimestamp)
      (found : before.preparedIntents.find row.id = some row) (stands : row.prepared? = some prepared)
      (loaded : loadEvidenceSupersessionSourceSnapshot context before prepared.preview.sourceId = .ok source)
      (success : executeSupersession approval prepared source (before.isSuperseded prepared.preview.sourceId) occurredAt =
        .ok effects)
      (effected : Superseded effects row.id prepared.preview.sourceVersion before after occurredAt)
      (consumed : after.preparedIntents =
        before.preparedIntents.update row.id fun row => { row with consumedAt := some occurredAt })

structure Rewrites (id : EvidenceReferenceId) (expectedVersion : AggregateVersion)
    (revise : EvidenceReferenceRow → EvidenceReferenceRow) (before after : EvidenceTables)
    (record : EvidenceReferenceRecord) : Prop where
  standing : ∃ registered reference registered', before.current id = some (registered, reference) ∧
    registered.version = expectedVersion ∧ registered.version.next = some registered'.version ∧
    after.current id = some (registered', revise reference) ∧ record = recordOf registered' (revise reference)
  others : ∀ other, other ≠ id → after.current other = before.current other

section
variable {before after : EvidenceTables} {id : EvidenceReferenceId} {registered : RegistryRow}
  {reference : EvidenceReferenceRow} {newVersion : AggregateVersion} {verification : EvidenceVerification}
  {vaultPath : VaultRelativePath} {fingerprint : Option EvidenceFingerprint} {occurredAt : UtcTimestamp}

variable {other : EvidenceReferenceId}

theorem asStr_ne (different : id ≠ other) : id.asStr ≠ other.asStr :=
  fun same => different (OpaqueId.asStr_injective same)

theorem aggregate_raised (before after : EvidenceTables)
    (registry : after.registry = before.registry.update id.asStr fun row =>
      { row with version := newVersion, updatedAt := occurredAt }) (different : id ≠ other) :
    after.aggregate other.asStr .evidenceReference = before.aggregate other.asStr .evidenceReference := by
  unfold EvidenceTables.aggregate
  rw [registry, Relation.find_update_other (asStr_ne different)]

theorem revised_current (found : before.current id = some (registered, reference))
    (registry : after.registry = before.registry.update id.asStr fun row =>
      { row with version := newVersion, updatedAt := occurredAt })
    (references : after.references = before.references.update id fun row => { row with verification, vaultPath, fingerprint }) :
    after.current id = some ({ registered with version := newVersion, updatedAt := occurredAt },
      { reference with verification, vaultPath, fingerprint }) := by
  obtain ⟨known, held⟩ := current_some.mp found
  obtain ⟨stored, kind⟩ := aggregate_some.mp known
  apply current_some.mpr
  constructor
  · apply aggregate_some.mpr
    rw [registry, Relation.find_update_self stored]
    exact ⟨rfl, kind⟩
  · rw [references, Relation.find_update_self held]

theorem revised_loaded {context : OperationContext} {record : EvidenceReferenceRecord}
    (loaded : loadEvidenceReferenceRecord context after id = .ok record)
    (found : before.current id = some (registered, reference))
    (registry : after.registry = before.registry.update id.asStr fun row =>
      { row with version := newVersion, updatedAt := occurredAt })
    (references : after.references = before.references.update id fun row => { row with verification, vaultPath, fingerprint }) :
    record = recordOf { registered with version := newVersion, updatedAt := occurredAt }
      { reference with verification, vaultPath, fingerprint } := by
  rw [loadRecord_current (revised_current found registry references)] at loaded
  exact (Except.ok.inj loaded).symm

theorem current_rewritten (registry : after.registry = before.registry.update id.asStr fun row =>
      { row with version := newVersion, updatedAt := occurredAt })
    (references : after.references = before.references.update id fun row => { row with verification, vaultPath, fingerprint })
    (different : other ≠ id) : after.current other = before.current other := by
  unfold EvidenceTables.current
  rw [aggregate_raised before after registry different.symm, references, Relation.find_update_other different.symm]

end

variable [Sha256] {arguments : Arguments} {tables later : EvidenceTables}

variable {outcome : MutationOutcome EvidenceReferenceRecord}

theorem insertEvidenceReference_ok {command : CreateEvidenceReference} {sameName : Option (String → String → Bool)}
    (success : insertEvidenceReference command sameName arguments tables = .ok (later, outcome)) :
    (tables.creations.find command.context.idempotencyId ≠ none ∧ later = tables) ∨
    (tables.creations.find command.context.idempotencyId = none ∧ Change tables later ∧ Grows tables later ∧
      ∃ classification,
        later.creations.find command.context.idempotencyId =
          some ⟨command, classification, arguments.occurredAt, arguments.auditEventId⟩ ∧
        later.auditEvents.find arguments.auditEventId = some outcome.auditEvent ∧
        outcome = ⟨createdRecord command classification arguments.occurredAt,
          buildAudit arguments.auditEventId arguments.occurredAt command.id ⟨"evidence.reference_created", by decide⟩
            command.context.correlationId⟩ ∧
        tables.registry.find command.id.asStr = none ∧
        later.current command.id = some (registryRow (createdRecord command classification arguments.occurredAt),
          referenceRow (createdRecord command classification arguments.occurredAt)) ∧
        ∀ other, other ≠ command.id → later.current other = tables.current other) := by
  unfold insertEvidenceReference at success
  dsimp only at success
  split at success
  next existing found =>
    obtain ⟨_, _, success⟩ := bind_ok.mp success
    obtain ⟨_, _, success⟩ := bind_ok.mp success
    cases pure_ok.mp success
    exact .inl ⟨by rw [found]; exact Option.some_ne_none _, rfl⟩
  next unseen =>
    obtain ⟨_, _, success⟩ := bind_ok.mp success
    obtain ⟨_, absent, success⟩ := bind_ok.mp success
    obtain ⟨_, inserted, success⟩ := bind_ok.mp success
    obtain ⟨registry, references, registered, referenced, rfl⟩ := insertReference_ok inserted
    obtain ⟨_, audited, success⟩ := bind_ok.mp success
    obtain ⟨auditEvents, recorded, rfl⟩ := persistAudit_ok audited
    obtain ⟨_, kept, success⟩ := bind_ok.mp success
    obtain ⟨_, stored, rfl⟩ := persistResult_ok kept
    obtain ⟨creations, added, same⟩ := Option.bind_eq_some_iff.mp stored
    cases same
    cases pure_ok.mp success
    refine .inr ⟨unseen, .created _ registry references registered referenced rfl, ?_, _, ?_, ?_, rfl,
      by simpa using ensure_ok.mp absent, ?_, fun other different => ?_⟩
    · exact { creations := fun _ _ => Relation.find_insert_kept added
              auditEvents := fun _ _ => Relation.find_insert_kept recorded }
    · exact Relation.find_inserted added
    · exact Relation.find_inserted recorded
    · exact current_some.mpr ⟨aggregate_some.mpr ⟨Relation.find_inserted registered, rfl⟩,
        Relation.find_inserted referenced⟩
    · unfold EvidenceTables.current EvidenceTables.aggregate
      dsimp only
      rw [Relation.find_insert registered, if_neg fun same => different (OpaqueId.asStr_injective same.symm),
        Relation.find_insert referenced, if_neg fun same => different same.symm]

theorem linkEvidence_ok {command : LinkEvidence} {outcome : MutationOutcome EvidenceLinkRecord}
    (success : linkEvidence command arguments tables = .ok (later, outcome)) :
    (tables.linkings.find command.context.idempotencyId ≠ none ∧ later = tables) ∨
    (tables.linkings.find command.context.idempotencyId = none ∧ Change tables later ∧ Grows tables later ∧
      ∃ classification,
        later.linkings.find command.context.idempotencyId =
          some ⟨command, classification, arguments.occurredAt, arguments.auditEventId⟩ ∧
        later.auditEvents.find arguments.auditEventId = some outcome.auditEvent ∧
        outcome = ⟨⟨command.evidenceId, command.target, classification, arguments.occurredAt⟩,
          buildAudit arguments.auditEventId arguments.occurredAt command.evidenceId ⟨"evidence.linked", by decide⟩
            command.context.correlationId⟩) := by
  unfold linkEvidence at success
  dsimp only at success
  split at success
  next existing found =>
    obtain ⟨_, _, success⟩ := bind_ok.mp success
    obtain ⟨_, _, success⟩ := bind_ok.mp success
    cases pure_ok.mp success
    exact .inl ⟨by rw [found]; exact Option.some_ne_none _, rfl⟩
  next unseen =>
    obtain ⟨evidence, found, success⟩ := bind_ok.mp success
    obtain ⟨_, _, success⟩ := bind_ok.mp success
    obtain ⟨_, live, success⟩ := bind_ok.mp success
    obtain ⟨target, _, success⟩ := bind_ok.mp success
    obtain ⟨_, _, success⟩ := bind_ok.mp success
    obtain ⟨_, inserted, success⟩ := bind_ok.mp success
    obtain ⟨links, linked, rfl⟩ := insertLink_ok inserted
    obtain ⟨_, audited, success⟩ := bind_ok.mp success
    obtain ⟨auditEvents, recorded, rfl⟩ := persistAudit_ok audited
    obtain ⟨_, kept, success⟩ := bind_ok.mp success
    obtain ⟨_, stored, rfl⟩ := persistResult_ok kept
    obtain ⟨linkings, added, same⟩ := Option.bind_eq_some_iff.mp stored
    cases same
    cases pure_ok.mp success
    refine .inr ⟨unseen, .linked _ evidence links (require_ok.mp found) (ensure_ok.mp live) linked rfl, ?_, _, ?_, ?_, rfl⟩
    · exact { linkings := fun _ _ => Relation.find_insert_kept added
              auditEvents := fun _ _ => Relation.find_insert_kept recorded }
    · exact Relation.find_inserted added
    · exact Relation.find_inserted recorded

/-- What an observation that went through has written, and the record it answers with. -/
structure Revised (id : EvidenceReferenceId) (arguments : Arguments) (correlationId : CorrelationId) (code : AuditEventCode)
    (registered : RegistryRow) (reference : EvidenceReferenceRow) (newVersion : AggregateVersion)
    (verification : EvidenceVerification) (vaultPath : VaultRelativePath) (fingerprint : Option EvidenceFingerprint)
    (before after : EvidenceTables) (outcome : MutationOutcome EvidenceReferenceRecord) : Prop where
  found : before.current id = some (registered, reference)
  change : Change before after
  audited : after.auditEvents.find arguments.auditEventId = some outcome.auditEvent
  now : after.current id = some ({ registered with version := newVersion, updatedAt := arguments.occurredAt },
    { reference with verification, vaultPath, fingerprint })
  answers : outcome = ⟨recordOf { registered with version := newVersion, updatedAt := arguments.occurredAt }
      { reference with verification, vaultPath, fingerprint },
    buildAudit arguments.auditEventId arguments.occurredAt id code correlationId⟩

theorem updateEvidenceVerification_ok {command : UpdateEvidenceVerification}
    (success : updateEvidenceVerification command arguments tables = .ok (later, outcome)) :
    (tables.verifications.find command.context.idempotencyId ≠ none ∧ later = tables) ∨
    (tables.verifications.find command.context.idempotencyId = none ∧ Grows tables later ∧
      ∃ registered reference newVersion,
        later.verifications.find command.context.idempotencyId =
          some ⟨command, reference.vaultPath, newVersion, arguments.auditEventId⟩ ∧
        Revised command.id arguments command.context.correlationId ⟨"evidence.verification_updated", by decide⟩ registered
          reference newVersion command.verification reference.vaultPath reference.fingerprint tables later outcome ∧
        Rewrites command.id command.expectedVersion (fun row => { row with verification := command.verification }) tables
          later outcome.record) := by
  unfold updateEvidenceVerification at success
  dsimp only at success
  split at success
  next existing found =>
    obtain ⟨_, _, success⟩ := bind_ok.mp success
    obtain ⟨_, _, success⟩ := bind_ok.mp success
    cases pure_ok.mp success
    exact .inl ⟨by rw [found]; exact Option.some_ne_none _, rfl⟩
  next unseen =>
    obtain ⟨⟨registered, reference⟩, found, success⟩ := bind_ok.mp success
    obtain ⟨_, standing, success⟩ := bind_ok.mp success
    obtain ⟨⟨_, newVersion⟩, revised, success⟩ := bind_ok.mp success
    obtain ⟨next, rfl⟩ := reviseReference_ok revised
    obtain ⟨_, audited, success⟩ := bind_ok.mp success
    obtain ⟨auditEvents, recorded, rfl⟩ := persistAudit_ok audited
    obtain ⟨_, kept, success⟩ := bind_ok.mp success
    obtain ⟨_, stored, rfl⟩ := persistResult_ok kept
    obtain ⟨verifications, added, same⟩ := Option.bind_eq_some_iff.mp stored
    cases same
    obtain ⟨_, loaded, success⟩ := bind_ok.mp success
    cases pure_ok.mp success
    have found := require_ok.mp found
    cases revised_loaded loaded found rfl rfl
    refine .inr ⟨unseen, ?_, registered, reference, newVersion, ?_, ⟨found,
      .revised _ registered reference newVersion _ _ _ _ found next (fun _ same => same) rfl, ?_,
      revised_current found rfl rfl, rfl⟩, ⟨registered, reference, _, found, ensure_ok.mp standing, next,
      revised_current found rfl rfl, rfl⟩, fun _ => current_rewritten rfl rfl⟩
    · exact { verifications := fun _ _ => Relation.find_insert_kept added
              auditEvents := fun _ _ => Relation.find_insert_kept recorded }
    · exact Relation.find_inserted added
    · exact Relation.find_inserted recorded

theorem relocateEvidenceReference_ok {command : RelocateEvidenceReference}
    (success : relocateEvidenceReference command arguments tables = .ok (later, outcome)) :
    (tables.relocations.find command.context.idempotencyId ≠ none ∧ later = tables) ∨
    (tables.relocations.find command.context.idempotencyId = none ∧ Grows tables later ∧
      ∃ registered reference newVersion,
        later.relocations.find command.context.idempotencyId = some ⟨command, newVersion, arguments.auditEventId⟩ ∧
        reference.fingerprint = some command.observedFingerprint ∧
        Revised command.id arguments command.context.correlationId ⟨"evidence.reference_relocated", by decide⟩ registered
          reference newVersion (.verified command.observedAt command.observedFingerprint.digest) command.newVaultPath
          reference.fingerprint tables later outcome ∧
        Rewrites command.id command.expectedVersion (fun row =>
          { row with
            verification := .verified command.observedAt command.observedFingerprint.digest
            vaultPath := command.newVaultPath }) tables later outcome.record) := by
  unfold relocateEvidenceReference at success
  dsimp only at success
  split at success
  next existing found =>
    obtain ⟨_, _, success⟩ := bind_ok.mp success
    obtain ⟨_, _, success⟩ := bind_ok.mp success
    cases pure_ok.mp success
    exact .inl ⟨by rw [found]; exact Option.some_ne_none _, rfl⟩
  next unseen =>
    obtain ⟨_, _, success⟩ := bind_ok.mp success
    obtain ⟨⟨registered, reference⟩, found, success⟩ := bind_ok.mp success
    obtain ⟨_, standing, success⟩ := bind_ok.mp success
    obtain ⟨_, _, success⟩ := bind_ok.mp success
    obtain ⟨pinned, pin, success⟩ := bind_ok.mp success
    obtain ⟨_, observed, success⟩ := bind_ok.mp success
    obtain ⟨⟨_, newVersion⟩, revised, success⟩ := bind_ok.mp success
    obtain ⟨next, rfl⟩ := reviseReference_ok revised
    obtain ⟨_, audited, success⟩ := bind_ok.mp success
    obtain ⟨auditEvents, recorded, rfl⟩ := persistAudit_ok audited
    obtain ⟨_, kept, success⟩ := bind_ok.mp success
    obtain ⟨_, stored, rfl⟩ := persistResult_ok kept
    obtain ⟨relocations, added, same⟩ := Option.bind_eq_some_iff.mp stored
    cases same
    obtain ⟨_, loaded, success⟩ := bind_ok.mp success
    cases pure_ok.mp success
    have found := require_ok.mp found
    have pin : reference.fingerprint = some command.observedFingerprint :=
      ensure_ok.mp observed ▸ require_ok.mp pin
    cases revised_loaded loaded found rfl rfl
    refine .inr ⟨unseen, ?_, registered, reference, newVersion, ?_, pin, ⟨found,
      .revised _ registered reference newVersion _ _ _ _ found next (fun _ same => same) rfl, ?_,
      revised_current found rfl rfl, rfl⟩, ⟨registered, reference, _, found, ensure_ok.mp standing, next,
      revised_current found rfl rfl, rfl⟩, fun _ => current_rewritten rfl rfl⟩
    · exact { relocations := fun _ _ => Relation.find_insert_kept added
              auditEvents := fun _ _ => Relation.find_insert_kept recorded }
    · exact Relation.find_inserted added
    · exact Relation.find_inserted recorded

theorem pinEvidenceFingerprint_ok {command : PinEvidenceFingerprint}
    (success : pinEvidenceFingerprint command arguments tables = .ok (later, outcome)) :
    (tables.pins.find command.context.idempotencyId ≠ none ∧ later = tables) ∨
    (tables.pins.find command.context.idempotencyId = none ∧ Grows tables later ∧
      ∃ registered reference newVersion,
        later.pins.find command.context.idempotencyId = some ⟨command, newVersion, arguments.auditEventId⟩ ∧
        Revised command.id arguments command.context.correlationId ⟨"evidence.fingerprint_pinned", by decide⟩ registered
          reference newVersion (.verified command.observedAt command.observedFingerprint.digest)
          command.expectedCurrentPath (some command.observedFingerprint) tables later outcome ∧
        reference.vaultPath = command.expectedCurrentPath ∧ Rewrites command.id command.expectedVersion (fun row =>
          { row with
            verification := .verified command.observedAt command.observedFingerprint.digest
            fingerprint := some command.observedFingerprint }) tables later outcome.record) := by
  unfold pinEvidenceFingerprint at success
  dsimp only at success
  split at success
  next existing found =>
    obtain ⟨_, _, success⟩ := bind_ok.mp success
    obtain ⟨_, _, success⟩ := bind_ok.mp success
    cases pure_ok.mp success
    exact .inl ⟨by rw [found]; exact Option.some_ne_none _, rfl⟩
  next unseen =>
    obtain ⟨⟨registered, reference⟩, found, success⟩ := bind_ok.mp success
    obtain ⟨_, standing, success⟩ := bind_ok.mp success
    obtain ⟨_, path, success⟩ := bind_ok.mp success
    obtain ⟨_, unpinned, success⟩ := bind_ok.mp success
    obtain ⟨⟨_, newVersion⟩, revised, success⟩ := bind_ok.mp success
    obtain ⟨next, rfl⟩ := reviseReference_ok revised
    obtain ⟨_, audited, success⟩ := bind_ok.mp success
    obtain ⟨auditEvents, recorded, rfl⟩ := persistAudit_ok audited
    obtain ⟨_, kept, success⟩ := bind_ok.mp success
    obtain ⟨_, stored, rfl⟩ := persistResult_ok kept
    obtain ⟨pins, added, same⟩ := Option.bind_eq_some_iff.mp stored
    cases same
    obtain ⟨_, loaded, success⟩ := bind_ok.mp success
    cases pure_ok.mp success
    have found := require_ok.mp found
    have unpinned : reference.fingerprint = none := ensure_ok.mp unpinned
    rw [← (ensure_ok.mp path : reference.vaultPath = command.expectedCurrentPath)]
    cases revised_loaded loaded found rfl rfl
    refine .inr ⟨unseen, ?_, registered, reference, newVersion, ?_, ⟨found,
      .revised _ registered reference newVersion _ _ _ _ found next (fun pin same => ?_) rfl, ?_,
      revised_current found rfl rfl, rfl⟩, rfl, ⟨registered, reference, _, found, ensure_ok.mp standing, next,
      revised_current found rfl rfl, rfl⟩, fun _ => current_rewritten rfl rfl⟩
    · exact { pins := fun _ _ => Relation.find_insert_kept added
              auditEvents := fun _ _ => Relation.find_insert_kept recorded }
    · exact Relation.find_inserted added
    · rw [unpinned] at same
      cases same
    · exact Relation.find_inserted recorded

theorem prepareSupersedeEvidenceReference_ok {command : PrepareSupersedeEvidenceReference}
    {prepared : EvidenceSupersessionPreparedIntent}
    (success : prepareSupersedeEvidenceReference command arguments tables = .ok (later, prepared)) :
    (tables.preparations.find command.context.idempotencyId ≠ none ∧ later = tables) ∨
    (tables.preparations.find command.context.idempotencyId = none ∧ Change tables later ∧ Grows tables later ∧
      later.preparations.find command.context.idempotencyId =
        some ⟨command, prepared.preview.preparedIntentId⟩ ∧
      later.preparedIntents.find prepared.preview.preparedIntentId = some (preparedRow prepared)) := by
  unfold prepareSupersedeEvidenceReference at success
  dsimp only at success
  split at success
  next existing found =>
    obtain ⟨_, _, success⟩ := bind_ok.mp success
    obtain ⟨_, _, success⟩ := bind_ok.mp success
    cases pure_ok.mp success
    exact .inl ⟨by rw [found]; exact Option.some_ne_none _, rfl⟩
  next unseen =>
    obtain ⟨source, loaded, success⟩ := bind_ok.mp success
    obtain ⟨_, _, success⟩ := bind_ok.mp success
    obtain ⟨_, ready, success⟩ := bind_ok.mp success
    obtain ⟨_, persisted, success⟩ := bind_ok.mp success
    obtain ⟨preparedIntents, inserted, rfl⟩ := persistPrepared_ok persisted
    obtain ⟨_, kept, success⟩ := bind_ok.mp success
    obtain ⟨_, stored, rfl⟩ := persistResult_ok kept
    obtain ⟨preparations, added, same⟩ := Option.bind_eq_some_iff.mp stored
    cases same
    cases pure_ok.mp success
    have ready := relabel_ok.mp ready
    have named := (prepareSupersession_ok ready).1
    rw [← named] at ready
    refine .inr ⟨unseen, .prepared command source prepared _ preparedIntents loaded ready inserted rfl
      (Relation.find_inserted added), ?_, ?_, ?_⟩
    · exact { preparations := fun _ _ => Relation.find_insert_kept added }
    · exact Relation.find_inserted added
    · exact Relation.find_inserted inserted

theorem approveAndExecute_ok {command : ApproveAndExecuteSupersedeEvidenceReference}
    (success : approveAndExecuteSupersedeEvidenceReference command arguments tables = .ok (later, outcome)) :
    command.approval.idempotencyId = command.context.idempotencyId ∧
    ((tables.executions.find command.context.idempotencyId ≠ none ∧ later = tables) ∨
    (tables.executions.find command.context.idempotencyId = none ∧ Change tables later ∧ Grows tables later ∧
      (∃ replacementId, later.executions.find command.context.idempotencyId = some
        { idempotencyId := command.context.idempotencyId
          preparedId := command.approval.preparedId
          actor := command.approval.actor
          acknowledgedDigest := command.approval.acknowledgedPayloadDigest
          replacementId
          auditEventId := arguments.auditEventId }) ∧
      outcome.auditEvent.policyOutcome = .allowed)) := by
  unfold approveAndExecuteSupersedeEvidenceReference at success
  dsimp only at success
  obtain ⟨_, bound, success⟩ := bind_ok.mp success
  refine ⟨ensure_ok.mp bound, ?_⟩
  split at success
  next existing found =>
    obtain ⟨_, _, success⟩ := bind_ok.mp success
    obtain ⟨_, _, success⟩ := bind_ok.mp success
    cases pure_ok.mp success
    exact .inl ⟨by rw [found]; exact Option.some_ne_none _, rfl⟩
  next unseen =>
    obtain ⟨prepared, known, success⟩ := bind_ok.mp success
    obtain ⟨row, found, stands⟩ := loadPrepared_ok.mp known
    obtain ⟨source, loaded, success⟩ := bind_ok.mp success
    obtain ⟨effects, allowed, success⟩ := bind_ok.mp success
    obtain ⟨_, consumed, success⟩ := bind_ok.mp success
    cases consumePreparedIntent_ok consumed
    obtain ⟨_, received, success⟩ := bind_ok.mp success
    obtain ⟨approvalReceipts, rfl⟩ := persistApprovalReceipt_ok received
    obtain ⟨_, persisted, success⟩ := bind_ok.mp success
    obtain ⟨effected, registry, references, links, supersessions, rfl⟩ := persistEffects_ok persisted
    obtain ⟨_, audited, success⟩ := bind_ok.mp success
    obtain ⟨auditEvents, recorded, rfl⟩ := persistAudit_ok audited
    obtain ⟨_, kept, success⟩ := bind_ok.mp success
    obtain ⟨_, stored, rfl⟩ := persistResult_ok kept
    obtain ⟨executions, added, same⟩ := Option.bind_eq_some_iff.mp stored
    cases same
    cases pure_ok.mp success
    have named := prepared_id stands
    have keyed : row.id = command.approval.preparedId := Relation.find_key found
    rw [← keyed] at found
    rw [named] at effected
    have allowed := relabel_ok.mp allowed
    refine .inr ⟨unseen, ?_, ?_, ⟨effects.replacement.id, Relation.find_inserted added⟩, rfl⟩
    · apply Change.superseded command.context command.approval row prepared source effects arguments.occurredAt found stands
        loaded allowed
      · exact ⟨effected.registered, effected.referenced, effected.linked, effected.edged, effected.distinct⟩
      · simp only [named]
    · exact { executions := fun _ _ => Relation.find_insert_kept added
              auditEvents := fun _ _ => Relation.find_insert_kept recorded }

omit [Sha256] in
theorem createFromReservation_ok {reserved : ReservedId} {observation : FileObservation} {context : OperationContext}
    {sameName : String → String → Bool}
    (success : createEvidenceReferenceFromReservation reserved observation context sameName arguments tables =
      .ok (later, outcome)) :
    (reserved.idempotencyId = context.idempotencyId ∧ reserved.request = evidenceReservation) ∧
      reservationMatches tables reserved = true ∧
      insertEvidenceReference (reservedCommand reserved observation context) (some sameName) arguments tables =
        .ok (later, outcome) := by
  unfold createEvidenceReferenceFromReservation at success
  obtain ⟨_, bound, success⟩ := bind_ok.mp success
  obtain ⟨_, held, success⟩ := bind_ok.mp success
  exact ⟨ensure_ok.mp bound, ensure_ok.mp held, success⟩

omit [Sha256] in
theorem answering_ok {α : Type} {answer : α → Answer} {result : Except DomainError (EvidenceTables × α)} {found : Answer} :
    answering answer result = .ok (later, found) ↔ ∃ outcome, result = .ok (later, outcome) ∧ found = answer outcome := by
  unfold answering
  cases result with
  | error error => simp [Except.map]
  | ok committed =>
    obtain ⟨reached, outcome⟩ := committed
    simp [Except.map, eq_comm]

theorem Command.operation_ok {command : Command} {answer : Answer}
    (success : command.operation arguments tables = .ok (later, answer)) : Change tables later ∧ Grows tables later := by
  have idle (same : later = tables) : Change tables later ∧ Grows tables later := same ▸ ⟨.idle rfl, .refl _⟩
  cases command with
  | create command =>
    obtain ⟨outcome, success, _⟩ := answering_ok.mp success
    obtain ⟨_, same⟩ | ⟨_, change, grows, _⟩ := insertEvidenceReference_ok success
    · exact idle same
    · exact ⟨change, grows⟩
  | createFromReservation reserved observation context sameName =>
    obtain ⟨outcome, success, _⟩ := answering_ok.mp success
    obtain ⟨_, _, success⟩ := createFromReservation_ok success
    obtain ⟨_, same⟩ | ⟨_, change, grows, _⟩ := insertEvidenceReference_ok success
    · exact idle same
    · exact ⟨change, grows⟩
  | link command =>
    obtain ⟨outcome, success, _⟩ := answering_ok.mp success
    obtain ⟨_, same⟩ | ⟨_, change, grows, _⟩ := linkEvidence_ok success
    · exact idle same
    · exact ⟨change, grows⟩
  | updateVerification command =>
    obtain ⟨outcome, success, _⟩ := answering_ok.mp success
    obtain ⟨_, same⟩ | ⟨_, grows, _, _, _, _, revised, _⟩ := updateEvidenceVerification_ok success
    · exact idle same
    · exact ⟨revised.change, grows⟩
  | relocate command =>
    obtain ⟨outcome, success, _⟩ := answering_ok.mp success
    obtain ⟨_, same⟩ | ⟨_, grows, _, _, _, _, _, revised, _⟩ := relocateEvidenceReference_ok success
    · exact idle same
    · exact ⟨revised.change, grows⟩
  | pin command =>
    obtain ⟨outcome, success, _⟩ := answering_ok.mp success
    obtain ⟨_, same⟩ | ⟨_, grows, _, _, _, _, revised, _⟩ := pinEvidenceFingerprint_ok success
    · exact idle same
    · exact ⟨revised.change, grows⟩
  | prepareSupersede command =>
    obtain ⟨outcome, success, _⟩ := answering_ok.mp success
    obtain ⟨_, same⟩ | ⟨_, change, grows, _⟩ := prepareSupersedeEvidenceReference_ok success
    · exact idle same
    · exact ⟨change, grows⟩
  | approveAndExecuteSupersede command =>
    obtain ⟨outcome, success, _⟩ := answering_ok.mp success
    obtain ⟨_, ⟨_, same⟩ | ⟨_, change, grows, _⟩⟩ := approveAndExecute_ok success
    · exact idle same
    · exact ⟨change, grows⟩

end MissionControl.Evidence

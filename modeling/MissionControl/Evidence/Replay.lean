import MissionControl.Evidence.Invariant

/-! What a run keeps for the commands issued again in it, and how they are answered from
the rows of their first attempt. -/

namespace MissionControl.Evidence
open Checked

/-- What no step changes of a reference; an absent fingerprint may still be pinned. -/
structure Remains (registered : RegistryRow) (reference : EvidenceReferenceRow) (registered' : RegistryRow)
    (reference' : EvidenceReferenceRow) : Prop where
  classification : registered'.classification = registered.classification
  createdAt : registered'.createdAt = registered.createdAt
  provenance : reference'.provenance = reference.provenance
  pinned : ∀ pin, reference.fingerprint = some pin → reference'.fingerprint = some pin

theorem Later.remains {registered registered' : RegistryRow} {reference reference' : EvidenceReferenceRow}
    (later : Later registered reference registered' reference') : Remains registered reference registered' reference' :=
  ⟨later.classification, later.createdAt, later.provenance, later.pinned⟩

theorem Remains.trans {registered registered' registered'' : RegistryRow} {reference reference' reference'' : EvidenceReferenceRow}
    (one : Remains registered reference registered' reference')
    (two : Remains registered' reference' registered'' reference'') : Remains registered reference registered'' reference'' where
  classification := two.classification.trans one.classification
  createdAt := two.createdAt.trans one.createdAt
  provenance := two.provenance.trans one.provenance
  pinned := fun pin same => two.pinned pin (one.pinned pin same)

/-- What a run keeps of what an answer is read from. -/
structure Outlives (before after : EvidenceTables) : Prop where
  grows : Grows before after
  references : ∀ id registered reference, before.current id = some (registered, reference) →
    ∃ registered' reference', after.current id = some (registered', reference') ∧
      Remains registered reference registered' reference'
  intents : ∀ id row prepared, before.preparedIntents.find id = some row → row.prepared? = some prepared →
    ∃ row', after.preparedIntents.find id = some row' ∧ row'.prepared? = some prepared

section
variable {before after : EvidenceTables}

theorem Outlives.refl (tables : EvidenceTables) : Outlives tables tables where
  grows := .refl tables
  references := fun _ registered reference found => ⟨registered, reference, found, (Later.refl _ _).remains⟩
  intents := fun _ row _ found stands => ⟨row, found, stands⟩

theorem Outlives.trans {first middle last : EvidenceTables} (one : Outlives first middle) (two : Outlives middle last) :
    Outlives first last where
  grows := one.grows.trans two.grows
  references := by
    intro id registered reference found
    obtain ⟨registered', reference', found', remains⟩ := one.references id registered reference found
    obtain ⟨registered'', reference'', found'', remains'⟩ := two.references id registered' reference' found'
    exact ⟨registered'', reference'', found'', remains.trans remains'⟩
  intents := by
    intro id row prepared found stands
    obtain ⟨row', found', stands'⟩ := one.intents id row prepared found stands
    exact two.intents id row' prepared found' stands'

theorem Follows.references (follows : Follows before after) (id : EvidenceReferenceId) (registered : RegistryRow)
    (reference : EvidenceReferenceRow) (found : before.current id = some (registered, reference)) :
    ∃ registered' reference', after.current id = some (registered', reference') ∧
      Remains registered reference registered' reference' := by
  obtain ⟨registered', reference', found', later⟩ := follows id registered reference found
  exact ⟨registered', reference', found', later.remains⟩

theorem Change.intents [Sha256] (change : Change before after) (id : PreparedIntentId) (row : PreparedIntentRow)
    (prepared : EvidenceSupersessionPreparedIntent) (found : before.preparedIntents.find id = some row)
    (stands : row.prepared? = some prepared) :
    ∃ row', after.preparedIntents.find id = some row' ∧ row'.prepared? = some prepared := by
  have unchanged (same : after.preparedIntents = before.preparedIntents) :
      ∃ row', after.preparedIntents.find id = some row' ∧ row'.prepared? = some prepared :=
    ⟨row, same ▸ found, stands⟩
  cases change with
  | idle same => exact unchanged (congrArg Core.preparedIntents same)
  | created _ _ _ _ _ same => exact unchanged (congrArg Core.preparedIntents same)
  | linked _ _ _ _ _ _ same => exact unchanged (congrArg Core.preparedIntents same)
  | revised _ _ _ _ _ _ _ _ _ _ _ same => exact unchanged (congrArg Core.preparedIntents same)
  | prepared _ _ _ _ preparedIntents _ _ inserted same =>
    have intents : after.preparedIntents = preparedIntents := congrArg Core.preparedIntents same
    exact ⟨row, intents ▸ Relation.find_insert_kept inserted found, stands⟩
  | superseded _ _ named _ _ _ occurredAt _ _ _ _ _ consumed =>
    rw [consumed, Relation.find_update, found, Option.map_some]
    refine ⟨_, rfl, ?_⟩
    split
    · exact (prepared_consumed occurredAt).trans stands
    · exact stands

theorem Elsewhere.outlives (elsewhere : Elsewhere before after) : Outlives before after where
  grows := elsewhere.grows
  references := elsewhere.follows.references
  intents := by
    intro id row prepared found stands
    have kind : row.supersession.isSome = true := by
      obtain ⟨payload, same, _⟩ := Option.map_eq_some_iff.mp stands
      rw [same]
      rfl
    exact ⟨row, (elsewhere.preparedIntents id row kind).mpr found, stands⟩

theorem Step.outlives [Sha256] {turn : Turn} (step : Step turn before after) : Outlives before after := by
  rcases step.cases with ⟨change, grows⟩ | elsewhere
  · exact ⟨grows, change.follows.references, change.intents⟩
  · exact elsewhere.outlives

theorem Outlives.run [Sha256] {turns : List Turn} (run : Run.Evolves Step before turns after) : Outlives before after := by
  apply run.invariant (Outlives before)
  · exact fun turn middle after step outlives => outlives.trans step.outlives
  · exact .refl before

end

variable {tables : EvidenceTables} {arguments : Arguments}

theorem insertEvidenceReference_again {command : CreateEvidenceReference} {sameName : Option (String → String → Bool)}
    {existing : CreateResultRow} (found : tables.creations.find command.context.idempotencyId = some existing) :
    insertEvidenceReference command sameName arguments tables =
      if { command with context := existing.command.context } = existing.command then do
        return (tables, ← decodeEvidenceReferenceOutcome command.context tables existing)
      else .error (idempotencyConflict command.context) := by
  unfold insertEvidenceReference
  dsimp only
  rw [found]
  apply ensure_bind
  obtain ⟨recorded⟩ := existing
  cases recorded
  simp [eq_comm]

theorem linkEvidence_again {command : LinkEvidence} {existing : LinkResultRow}
    (found : tables.linkings.find command.context.idempotencyId = some existing) :
    linkEvidence command arguments tables =
      if { command with context := existing.command.context } = existing.command then do
        return (tables, ← decodeEvidenceLinkOutcome command.context tables existing)
      else .error (idempotencyConflict command.context) := by
  unfold linkEvidence
  dsimp only
  rw [found]
  apply ensure_bind
  obtain ⟨recorded⟩ := existing
  cases recorded
  simp [eq_comm]

theorem updateEvidenceVerification_again {command : UpdateEvidenceVerification} {existing : VerificationResultRow}
    (found : tables.verifications.find command.context.idempotencyId = some existing) :
    updateEvidenceVerification command arguments tables =
      if { command with context := existing.command.context } = existing.command then do
        return (tables, ← decodeEvidenceVerificationOutcome command.context tables existing)
      else .error (idempotencyConflict command.context) := by
  unfold updateEvidenceVerification
  dsimp only
  rw [found]
  apply ensure_bind
  obtain ⟨recorded⟩ := existing
  cases recorded
  simp [eq_comm]

theorem relocateEvidenceReference_again {command : RelocateEvidenceReference} {existing : RelocationResultRow}
    (found : tables.relocations.find command.context.idempotencyId = some existing) :
    relocateEvidenceReference command arguments tables =
      if { command with context := existing.command.context } = existing.command then do
        return (tables, ← decodeEvidenceRelocationOutcome command.context tables existing)
      else .error (idempotencyConflict command.context) := by
  unfold relocateEvidenceReference
  dsimp only
  rw [found]
  apply ensure_bind
  obtain ⟨recorded⟩ := existing
  cases recorded
  simp [eq_comm]

theorem pinEvidenceFingerprint_again {command : PinEvidenceFingerprint} {existing : PinResultRow}
    (found : tables.pins.find command.context.idempotencyId = some existing) :
    pinEvidenceFingerprint command arguments tables =
      if { command with context := existing.command.context } = existing.command then do
        return (tables, ← decodeEvidenceFingerprintPinOutcome command.context tables existing)
      else .error (idempotencyConflict command.context) := by
  unfold pinEvidenceFingerprint
  dsimp only
  rw [found]
  apply ensure_bind
  obtain ⟨recorded⟩ := existing
  cases recorded
  simp [eq_comm]

theorem fingerprint_eq {one other : EvidenceFingerprint} : one = other ↔ one.digest = other.digest := by
  obtain ⟨⟨⟩, _⟩ := one
  obtain ⟨⟨⟩, _⟩ := other
  simp

theorem prepareSupersede_again [Sha256] {command : PrepareSupersedeEvidenceReference} {existing : PrepareResultRow}
    (found : tables.preparations.find command.context.idempotencyId = some existing) :
    prepareSupersedeEvidenceReference command arguments tables =
      if { command with
          context := existing.command.context
          replacementProvenance := existing.command.replacementProvenance } = existing.command then do
        return (tables, ← loadEvidenceSupersessionPreparedIntent command.context tables existing.resultReference)
      else .error (idempotencyConflict command.context) := by
  unfold prepareSupersedeEvidenceReference
  dsimp only
  rw [found]
  apply ensure_bind
  obtain ⟨recorded⟩ := existing
  cases recorded
  simp [eq_comm, fingerprint_eq]

theorem approveAndExecute_again [Sha256] {command : ApproveAndExecuteSupersedeEvidenceReference} {existing : ExecuteResultRow}
    (found : tables.executions.find command.context.idempotencyId = some existing) :
    approveAndExecuteSupersedeEvidenceReference command arguments tables =
      if command.approval.idempotencyId = command.context.idempotencyId ∧ existing.preparedId = command.approval.preparedId ∧
          existing.actor = command.approval.actor ∧
          existing.acknowledgedDigest = command.approval.acknowledgedPayloadDigest then do
        return (tables, ← decodeEvidenceSupersessionExecuteOutcome command.context tables existing)
      else .error (idempotencyConflict command.context) := by
  unfold approveAndExecuteSupersedeEvidenceReference
  dsimp only
  rw [found, ensure_bind Iff.rfl]
  by_cases bound : command.approval.idempotencyId = command.context.idempotencyId
  · rw [if_pos bound]
    apply ensure_bind
    simp only [bound, true_and]
  · rw [if_neg bound, if_neg (fun same => bound same.1)]

theorem decodeRevision_found {context : OperationContext} {id : EvidenceReferenceId} {auditEventId : AuditEventId}
    {vaultPath : VaultRelativePath} {fingerprint : Option EvidenceFingerprint} {verification : EvidenceVerification}
    {version : AggregateVersion} {registered : RegistryRow} {reference : EvidenceReferenceRow} {occurredAt : UtcTimestamp}
    {code : AuditEventCode} {correlationId : CorrelationId} (found : tables.current id = some (registered, reference))
    (audited : tables.auditEvents.find auditEventId = some (buildAudit auditEventId occurredAt id code correlationId)) :
    decodeRevision context tables id auditEventId vaultPath fingerprint verification version = .ok ⟨
      { id
        vaultPath
        fingerprint := fingerprint.or reference.fingerprint
        verification
        classification := registered.classification
        provenance := reference.provenance
        version
        createdAt := registered.createdAt
        updatedAt := occurredAt }, buildAudit auditEventId occurredAt id code correlationId⟩ := by
  unfold decodeRevision
  rw [found]
  exact bind_ok.mpr ⟨(registered, reference), rfl, bind_ok.mpr ⟨_, decodeAudit_built audited, rfl⟩⟩

end MissionControl.Evidence

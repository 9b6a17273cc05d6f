import MissionControl.Evidence.Changes
import MissionControl.Lib.Lineage

/-! What holds of the references in every Ledger a run leads to. -/

namespace MissionControl.Evidence

def Registered (tables : EvidenceTables) (id : EvidenceReferenceId) : Prop :=
  ∃ row, tables.aggregate id.asStr .evidenceReference = some row

def successor (tables : EvidenceTables) (id : EvidenceReferenceId) : Option EvidenceReferenceId :=
  (tables.supersessions.find id).map (·.replacementId)

/-- What one step can make of a reference. A pinned fingerprint stays, and whatever else
moves takes the version one further. -/
structure Later (registered : RegistryRow) (reference : EvidenceReferenceRow) (registered' : RegistryRow)
    (reference' : EvidenceReferenceRow) : Prop where
  classification : registered'.classification = registered.classification
  createdAt : registered'.createdAt = registered.createdAt
  provenance : reference'.provenance = reference.provenance
  pinned : ∀ pin, reference.fingerprint = some pin → reference'.fingerprint = some pin
  version : (registered'.version = registered.version ∧ reference' = reference) ∨
    registered.version.next = some registered'.version

theorem Later.refl (registered : RegistryRow) (reference : EvidenceReferenceRow) :
    Later registered reference registered reference :=
  ⟨rfl, rfl, rfl, fun _ same => same, .inl ⟨rfl, rfl⟩⟩

/-- What one step makes of all references. -/
def Follows (before after : EvidenceTables) : Prop :=
  ∀ id registered reference, before.current id = some (registered, reference) →
    ∃ registered' reference', after.current id = some (registered', reference') ∧
      Later registered reference registered' reference'

def Unmoved (tables : EvidenceTables) (record : EvidenceReferenceRecord) : Prop :=
  ∃ registered reference, tables.current record.id = some (registered, reference) ∧
    record.version.get ≤ registered.version.get ∧
    (registered.version = record.version → reference.vaultPath = record.vaultPath ∧
      reference.fingerprint = record.fingerprint ∧ registered.classification = record.classification)

theorem Unmoved.follows {before after : EvidenceTables} {record : EvidenceReferenceRecord} (unmoved : Unmoved before record)
    (follows : Follows before after) : Unmoved after record := by
  obtain ⟨registered, reference, found, bound, reads⟩ := unmoved
  obtain ⟨registered', reference', found', later⟩ := follows record.id registered reference found
  refine ⟨registered', reference', found', ?_, ?_⟩
  · rcases later.version with ⟨same, _⟩ | next
    · rw [same]
      exact bound
    · have advanced := AggregateVersion.next_get next
      omega
  · intro back
    rcases later.version with ⟨same, rfl⟩ | next
    · rw [same] at back
      obtain ⟨path, pin, _⟩ := reads back
      refine ⟨path, pin, ?_⟩
      rw [later.classification]
      exact (reads back).2.2
    · -- the version has gone past the one that was read
      have advanced := AggregateVersion.next_get next
      rw [back] at advanced
      omega

/-- A prepared supersession came of a request that is on record, and of a source that has
not moved unless its version has. -/
def Faithful [Sha256] (tables : EvidenceTables) (prepared : EvidenceSupersessionPreparedIntent) : Prop :=
  ∃ key request source now, tables.preparations.find key = some request ∧
    request.resultReference = prepared.preview.preparedIntentId ∧
    prepareSupersession request.command prepared.preview.preparedIntentId source now = .ok prepared ∧
    Unmoved tables source.record

structure Sound [Sha256] (tables : EvidenceTables) : Prop where
  linked : ∀ link ∈ tables.links.rows, Registered tables link.evidenceId
  edged : ∀ id edge, tables.supersessions.find id = some edge → Registered tables id ∧ Registered tables edge.replacementId
  ends : Lineage.Ends (successor tables)
  intents : ∀ id row prepared, tables.preparedIntents.find id = some row → row.prepared? = some prepared →
    Faithful tables prepared

section
variable {before after : EvidenceTables} {id : EvidenceReferenceId}

theorem current_congr (registry : after.registry = before.registry) (references : after.references = before.references) :
    after.current id = before.current id := by
  unfold EvidenceTables.current EvidenceTables.aggregate
  rw [registry, references]

theorem follows_of_same (registry : after.registry = before.registry) (references : after.references = before.references) :
    Follows before after := by
  intro id registered reference found
  exact ⟨registered, reference, (current_congr registry references).trans found, .refl _ _⟩

variable {record : EvidenceReferenceRecord}

theorem current_insert {registered : RegistryRow} {reference : EvidenceReferenceRow}
    (registry : before.registry.insert (registryRow record) = some after.registry)
    (references : before.references.insert (referenceRow record) = some after.references)
    (found : before.current id = some (registered, reference)) : after.current id = some (registered, reference) := by
  obtain ⟨known, held⟩ := current_some.mp found
  obtain ⟨stored, kind⟩ := aggregate_some.mp known
  exact current_some.mpr ⟨aggregate_some.mpr ⟨Relation.find_insert_kept registry stored, kind⟩,
    Relation.find_insert_kept references held⟩

theorem Elsewhere.aggregate (elsewhere : Elsewhere before after) (text : String) :
    after.aggregate text .evidenceReference = before.aggregate text .evidenceReference := by
  apply Option.ext
  intro row
  simp only [aggregate_some]
  constructor
  · rintro ⟨found, kind⟩
    exact ⟨(elsewhere.registry text row kind).mp found, kind⟩
  · rintro ⟨found, kind⟩
    exact ⟨(elsewhere.registry text row kind).mpr found, kind⟩

theorem Elsewhere.current (elsewhere : Elsewhere before after) : after.current id = before.current id := by
  unfold EvidenceTables.current
  rw [elsewhere.aggregate, elsewhere.references]

theorem Elsewhere.follows (elsewhere : Elsewhere before after) : Follows before after := by
  intro id registered reference found
  exact ⟨registered, reference, elsewhere.current.trans found, .refl _ _⟩

variable {registry : Relation RegistryRow String RegistryRow.id}

theorem registered_insert (inserted : before.registry.insert (registryRow record) = some registry) :
    Registered { before with registry } record.id :=
  ⟨registryRow record, aggregate_some.mpr ⟨Relation.find_inserted inserted, rfl⟩⟩

theorem not_registered (inserted : before.registry.insert (registryRow record) = some registry) :
    ¬ Registered before record.id := by
  intro ⟨row, known⟩
  have fresh : before.registry.find record.id.asStr = none := Relation.insert_fresh inserted
  cases fresh.symm.trans (aggregate_some.mp known).1

variable {effects : EvidenceSupersessionEffects} {preparedIntentId : PreparedIntentId}

theorem Superseded.replaced {sourceVersion : AggregateVersion} {occurredAt : UtcTimestamp}
    (superseded : Superseded effects preparedIntentId sourceVersion before after occurredAt) :
    Registered after effects.replacement.id := by
  obtain ⟨registry, newVersion, inserted, _, raised⟩ := superseded.registered
  obtain ⟨row, known⟩ := registered_insert inserted
  refine ⟨row, ?_⟩
  rw [← known]
  exact aggregate_raised { before with registry } after raised superseded.distinct

theorem Superseded.successor {sourceVersion : AggregateVersion} {occurredAt : UtcTimestamp}
    (superseded : Superseded effects preparedIntentId sourceVersion before after occurredAt) :
    successor after = Function.update (successor before) effects.sourceId (some effects.replacement.id) := by
  obtain ⟨edge, source, replacement, _, inserted⟩ := superseded.edged
  funext id
  unfold Evidence.successor
  rw [Relation.find_insert inserted, source]
  by_cases this : effects.sourceId = id
  · rw [if_pos this, ← this, Function.update_self, Option.map_some, replacement]
  · rw [if_neg this, Function.update_of_ne (Ne.symm this)]

theorem prepared_consumed {row : PreparedIntentRow} (occurredAt : UtcTimestamp) :
    { row with consumedAt := some occurredAt : PreparedIntentRow }.prepared? = row.prepared? := rfl

theorem unmoved_of_loaded {context : OperationContext} {sourceId : EvidenceReferenceId}
    {source : EvidenceSupersessionSourceSnapshot}
    (loaded : loadEvidenceSupersessionSourceSnapshot context before sourceId = .ok source) : Unmoved before source.record := by
  obtain ⟨registered, reference, found, read, _⟩ := loadSnapshot_ok loaded
  have named : reference.id = sourceId := Relation.find_key (current_some.mp found).2
  rw [read]
  refine ⟨registered, reference, ?_, le_rfl, fun _ => ⟨rfl, rfl, rfl⟩⟩
  rw [← found]
  exact congrArg before.current named

end

section
variable [Sha256] {before after : EvidenceTables}

theorem Change.follows (change : Change before after) : Follows before after := by
  cases change with
  | idle same => exact follows_of_same (congrArg Core.registry same) (congrArg Core.references same)
  | created record registry references registered referenced same =>
    intro id row reference found
    have registry : before.registry.insert (registryRow record) = some after.registry :=
      registered.trans (congrArg some (congrArg Core.registry same).symm)
    have references : before.references.insert (referenceRow record) = some after.references :=
      referenced.trans (congrArg some (congrArg Core.references same).symm)
    exact ⟨row, reference, current_insert registry references found, .refl _ _⟩
  | linked _ _ _ _ _ _ same => exact follows_of_same (congrArg Core.registry same) (congrArg Core.references same)
  | revised id registered reference newVersion verification vaultPath fingerprint occurredAt found next pinned same =>
    have registry : after.registry = _ := congrArg Core.registry same
    have references : after.references = _ := congrArg Core.references same
    intro other registered' reference' found'
    by_cases this : id = other
    · subst this
      cases found.symm.trans found'
      exact ⟨_, _, revised_current found registry references, rfl, rfl, rfl, pinned, .inr next⟩
    · obtain ⟨known, held⟩ := current_some.mp found'
      refine ⟨registered', reference', current_some.mpr ⟨?_, ?_⟩, .refl _ _⟩
      · rw [aggregate_raised before after registry this, known]
      · rw [references, Relation.find_update_other this, held]
  | prepared _ _ _ _ _ _ _ _ same => exact follows_of_same (congrArg Core.registry same) (congrArg Core.references same)
  | superseded context approval row prepared source effects occurredAt found stands loaded success effected consumed =>
    obtain ⟨registered, reference, known, read, _⟩ := loadSnapshot_ok loaded
    obtain ⟨_, ⟨_, version⟩, _, _, _, named, _⟩ := executeSupersession_ok success
    obtain ⟨registry, newVersion, inserted, next, raised⟩ := effected.registered
    -- between the two statements the replacement is there and the source is as it was
    have middle {id registered reference} (found : before.current id = some (registered, reference)) :
        { before with registry, references := after.references }.current id = some (registered, reference) :=
      current_insert inserted effected.referenced found
    intro other registered' reference' found'
    obtain ⟨known', held⟩ := current_some.mp (middle found')
    by_cases this : effects.sourceId = other
    · subst this
      rw [named] at found'
      cases known.symm.trans found'
      obtain ⟨stored, kind⟩ := aggregate_some.mp known'
      refine ⟨{ registered with version := newVersion, updatedAt := occurredAt }, reference,
        current_some.mpr ⟨aggregate_some.mpr ⟨?_, kind⟩, held⟩, rfl, rfl, rfl, fun _ same => same, .inr ?_⟩
      · rw [raised, Relation.find_update_self stored]
      · rw [← version, read] at next
        exact next
    · refine ⟨registered', reference', current_some.mpr ⟨?_, held⟩, .refl _ _⟩
      rw [← known']
      exact aggregate_raised { before with registry, references := after.references } after raised this

theorem Change.registry (change : Change before after) {text : String} {row : RegistryRow}
    (found : before.registry.find text = some row) :
    ∃ row', after.registry.find text = some row' ∧ row'.aggregateType = row.aggregateType := by
  have unchanged (same : after.registry = before.registry) :
      ∃ row', after.registry.find text = some row' ∧ row'.aggregateType = row.aggregateType :=
    ⟨row, same ▸ found, rfl⟩
  have raised {registry : Relation RegistryRow String RegistryRow.id} {id : EvidenceReferenceId}
      {newVersion : AggregateVersion} {occurredAt : UtcTimestamp} (held : registry.find text = some row)
      (same : after.registry = registry.update id.asStr fun row =>
        { row with version := newVersion, updatedAt := occurredAt }) :
      ∃ row', after.registry.find text = some row' ∧ row'.aggregateType = row.aggregateType := by
    rw [same, Relation.find_update, held, Option.map_some]
    refine ⟨_, rfl, ?_⟩
    split <;> rfl
  cases change with
  | idle same => exact unchanged (congrArg Core.registry same)
  | created record registry references registered referenced same =>
    have grown : after.registry = registry := congrArg Core.registry same
    exact ⟨row, grown ▸ Relation.find_insert_kept registered found, rfl⟩
  | linked _ _ _ _ _ _ same => exact unchanged (congrArg Core.registry same)
  | revised _ _ _ _ _ _ _ _ _ _ _ same => exact raised found (congrArg Core.registry same)
  | prepared _ _ _ _ _ _ _ _ same => exact unchanged (congrArg Core.registry same)
  | superseded _ _ _ _ _ _ _ _ _ _ _ effected =>
    obtain ⟨registry, newVersion, inserted, _, same⟩ := effected.registered
    exact raised (Relation.find_insert_kept inserted found) same

theorem Change.stays (change : Change before after) {id : EvidenceReferenceId} (there : Registered before id) :
    Registered after id := by
  obtain ⟨row, known⟩ := there
  obtain ⟨found, kind⟩ := aggregate_some.mp known
  obtain ⟨row', found', kind'⟩ := change.registry found
  exact ⟨row', aggregate_some.mpr ⟨found', kind'.trans kind⟩⟩

variable {prepared : EvidenceSupersessionPreparedIntent}

theorem Faithful.later (faithful : Faithful before prepared) (follows : Follows before after)
    (preparations : ∀ key row, before.preparations.find key = some row → after.preparations.find key = some row) :
    Faithful after prepared := by
  obtain ⟨key, request, source, now, found, names, success, unmoved⟩ := faithful
  exact ⟨key, request, source, now, preparations key request found, names, success, unmoved.follows follows⟩

theorem Sound.intents_of_same (sound : Sound before) (change : Change before after) (grows : Grows before after)
    (same : after.preparedIntents = before.preparedIntents) {id : PreparedIntentId} {row : PreparedIntentRow}
    (found : after.preparedIntents.find id = some row) (stands : row.prepared? = some prepared) :
    Faithful after prepared :=
  (sound.intents id row prepared (same ▸ found) stands).later change.follows grows.preparations

theorem Sound.intents_change (sound : Sound before) (change : Change before after) (grows : Grows before after)
    {id : PreparedIntentId} {row : PreparedIntentRow} (found : after.preparedIntents.find id = some row)
    (stands : row.prepared? = some prepared) : Faithful after prepared := by
  have whole := change
  cases change with
  | idle same => exact sound.intents_of_same whole grows (congrArg Core.preparedIntents same) found stands
  | created _ _ _ _ _ same => exact sound.intents_of_same whole grows (congrArg Core.preparedIntents same) found stands
  | linked _ _ _ _ _ _ same => exact sound.intents_of_same whole grows (congrArg Core.preparedIntents same) found stands
  | revised _ _ _ _ _ _ _ _ _ _ _ same =>
    exact sound.intents_of_same whole grows (congrArg Core.preparedIntents same) found stands
  | prepared command source fresh now preparedIntents loaded success inserted same requested =>
    have intents : after.preparedIntents = preparedIntents := congrArg Core.preparedIntents same
    rw [intents, Relation.find_insert inserted] at found
    split at found
    · cases found
      cases stands
      exact ⟨_, _, source, now, requested, rfl, success, (unmoved_of_loaded loaded).follows whole.follows⟩
    · exact (sound.intents id row prepared found stands).later whole.follows grows.preparations
  | superseded _ _ named _ _ _ occurredAt _ _ _ _ _ consumed =>
    rw [consumed, Relation.find_update] at found
    obtain ⟨old, held, same⟩ := Option.map_eq_some_iff.mp found
    have standing : old.prepared? = some prepared := by
      rw [← same] at stands
      split at stands
      · rwa [prepared_consumed] at stands
      · exact stands
    exact (sound.intents id old prepared held standing).later whole.follows grows.preparations

theorem Sound.change (sound : Sound before) (change : Change before after) (grows : Grows before after) : Sound after := by
  have whole := change
  have linked (same : after.links = before.links) : ∀ link ∈ after.links.rows, Registered after link.evidenceId :=
    fun link held => whole.stays (sound.linked link (same ▸ held))
  have edged (same : after.supersessions = before.supersessions) :
      ∀ id edge, after.supersessions.find id = some edge → Registered after id ∧ Registered after edge.replacementId := by
    intro id edge found
    obtain ⟨source, replacement⟩ := sound.edged id edge (same ▸ found)
    exact ⟨whole.stays source, whole.stays replacement⟩
  have ends (same : after.supersessions = before.supersessions) : Lineage.Ends (successor after) := by
    have unmoved : successor after = successor before := by
      unfold successor
      rw [same]
    exact unmoved ▸ sound.ends
  have intents := fun id row prepared => @Sound.intents_change _ _ _ prepared sound whole grows id row
  cases change with
  | idle same =>
    exact ⟨linked (congrArg Core.links same), edged (congrArg Core.supersessions same),
      ends (congrArg Core.supersessions same), intents⟩
  | created _ _ _ _ _ same =>
    exact ⟨linked (congrArg Core.links same), edged (congrArg Core.supersessions same),
      ends (congrArg Core.supersessions same), intents⟩
  | revised _ _ _ _ _ _ _ _ _ _ _ same =>
    exact ⟨linked (congrArg Core.links same), edged (congrArg Core.supersessions same),
      ends (congrArg Core.supersessions same), intents⟩
  | prepared _ _ _ _ _ _ _ _ same =>
    exact ⟨linked (congrArg Core.links same), edged (congrArg Core.supersessions same),
      ends (congrArg Core.supersessions same), intents⟩
  | linked link registered links found _ inserted same =>
    refine ⟨?_, edged (congrArg Core.supersessions same), ends (congrArg Core.supersessions same), intents⟩
    intro other held
    have grown : after.links = links := congrArg Core.links same
    rw [grown, Relation.mem_insert inserted] at held
    rcases held with old | rfl
    · exact whole.stays (sound.linked other old)
    · exact whole.stays ⟨registered, found⟩
  | superseded context approval row prepared source effects occurredAt _ _ loaded success effected =>
    obtain ⟨_, _, _, replacement, links, named, _⟩ := executeSupersession_ok success
    obtain ⟨registered, reference, known, _⟩ := loadSnapshot_ok loaded
    have sourced : Registered before effects.sourceId := named ▸ ⟨registered, (current_some.mp known).1⟩
    refine ⟨?_, ?_, ?_, intents⟩
    · intro link held
      rw [effected.linked, List.mem_append] at held
      rcases held with old | new
      · exact whole.stays (sound.linked link old)
      · rw [links] at new
        obtain ⟨_, _, rfl⟩ := List.mem_map.mp new
        have same : effects.replacement.id = prepared.preview.replacementId := congrArg EvidenceReferenceRecord.id replacement
        exact same ▸ effected.replaced
    · intro id edge found
      obtain ⟨added, leaves, leads, _, inserted⟩ := effected.edged
      rw [Relation.find_insert inserted] at found
      split at found
      next this =>
        cases found
        rw [← this, leaves, leads]
        exact ⟨whole.stays sourced, effected.replaced⟩
      next =>
        obtain ⟨source, replacement⟩ := sound.edged id edge found
        exact ⟨whole.stays source, whole.stays replacement⟩
    · rw [effected.successor]
      obtain ⟨_, _, inserted, _, _⟩ := effected.registered
      apply sound.ends.lengthen _ effected.distinct.symm
      -- the replacement is new, and no edge leaves it
      cases edge : before.supersessions.find effects.replacement.id with
      | none => rw [successor, edge]; rfl
      | some edge' => exact absurd (sound.edged _ _ edge).1 (not_registered inserted)

end

section
variable {before after : EvidenceTables}

theorem Elsewhere.grows (elsewhere : Elsewhere before after) : Grows before after where
  creations := fun _ _ found => elsewhere.creations ▸ found
  linkings := fun _ _ found => elsewhere.linkings ▸ found
  verifications := fun _ _ found => elsewhere.verifications ▸ found
  relocations := fun _ _ found => elsewhere.relocations ▸ found
  pins := fun _ _ found => elsewhere.pins ▸ found
  preparations := fun _ _ found => elsewhere.preparations ▸ found
  executions := fun _ _ found => elsewhere.executions ▸ found
  auditEvents := elsewhere.auditEvents
  reservations := elsewhere.reservations

theorem Elsewhere.stays (elsewhere : Elsewhere before after) {id : EvidenceReferenceId} (there : Registered before id) :
    Registered after id := by
  obtain ⟨row, known⟩ := there
  exact ⟨row, (elsewhere.aggregate id.asStr).trans known⟩

end

variable [Sha256] {before after : EvidenceTables}

theorem Sound.elsewhere (sound : Sound before) (elsewhere : Elsewhere before after) : Sound after where
  linked := fun link held => elsewhere.stays (sound.linked link (elsewhere.links ▸ held))
  edged := by
    intro id edge found
    obtain ⟨source, replacement⟩ := sound.edged id edge (elsewhere.supersessions ▸ found)
    exact ⟨elsewhere.stays source, elsewhere.stays replacement⟩
  ends := by
    have same : successor after = successor before := by
      unfold successor
      rw [elsewhere.supersessions]
    exact same ▸ sound.ends
  intents := by
    intro id row prepared found stands
    have kind : row.supersession.isSome = true := by
      obtain ⟨payload, same, _⟩ := Option.map_eq_some_iff.mp stands
      rw [same]
      rfl
    have held := (elsewhere.preparedIntents id row kind).mp found
    exact (sound.intents id row prepared held stands).later elsewhere.follows elsewhere.grows.preparations

theorem Initial.sound (initial : Initial before) : Sound before where
  linked := by
    intro link held
    rw [initial.links] at held
    cases held
  edged := by
    intro id edge found
    rw [initial.supersessions, Relation.find_empty] at found
    cases found
  ends := by
    have same : successor before = fun _ => none := by
      unfold successor
      rw [initial.supersessions]
      rfl
    exact same ▸ Lineage.ends_empty
  intents := by
    intro id row prepared found stands
    obtain ⟨payload, kind, _⟩ := Option.map_eq_some_iff.mp stands
    rw [initial.preparedIntents row (Relation.mem_of_find found)] at kind
    cases kind

theorem Step.cases {turn : Turn} (step : Step turn before after) :
    (Change before after ∧ Grows before after) ∨ Elsewhere before after := by
  cases turn with
  | elsewhere => exact .inr step
  | command command arguments available =>
    left
    obtain ⟨_, refused⟩ | ⟨later, answer, success, ran⟩ := Transaction.run_cases available (command.operation arguments) before
    · have same : before = after := (congrArg Prod.fst refused).symm.trans step
      exact same ▸ ⟨.idle rfl, .refl _⟩
    · have same : later = after := (congrArg Prod.fst ran).symm.trans step
      exact same ▸ Command.operation_ok success

theorem Sound.step {turn : Turn} (sound : Sound before) (step : Step turn before after) : Sound after := by
  rcases step.cases with ⟨change, grows⟩ | elsewhere
  · exact sound.change change grows
  · exact sound.elsewhere elsewhere

theorem Sound.run {turns : List Turn} (initial : Initial before) (run : Run.Evolves Step before turns after) : Sound after := by
  apply run.invariant Sound
  · exact fun turn before after step sound => sound.step step
  · exact initial.sound

end MissionControl.Evidence

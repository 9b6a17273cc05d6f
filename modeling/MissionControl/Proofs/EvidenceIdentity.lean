import MissionControl.Evidence.Invariant

/-! A reference stays what it is. Its pinned fingerprint is never replaced, each move shows
in its version, and where it is superseded the replacement takes over its links under a
preview that still holds. -/

namespace MissionControl.Evidence
open Checked Run Sorting

structure Replaces [Sha256] (before after : EvidenceTables) (edge : SupersessionRow) : Prop where
  carried : ∀ old ∈ before.linksOf edge.sourceId, ∃ link ∈ after.linksOf edge.replacementId, link.target = old.target
  restricted : ∀ link ∈ after.linksOf edge.replacementId, ∃ old ∈ before.linksOf edge.sourceId, old.target = link.target ∧
    old.classification ≤ link.classification ∧
    (∃ target, before.aggregate old.target.idStr old.target.aggregateType = some target ∧
      target.classification ≤ link.classification) ∧
    ∃ source, before.aggregate edge.sourceId.asStr .evidenceReference = some source ∧
      source.classification ≤ link.classification
  again : ∃ key request row prepared, before.preparations.find key = some request ∧
    request.resultReference = edge.preparedIntentId ∧ request.command.sourceId = edge.sourceId ∧
    before.preparedIntents.find edge.preparedIntentId = some row ∧ row.prepared? = some prepared ∧
    ∀ context otherId now, ∃ source again,
      loadEvidenceSupersessionSourceSnapshot context before edge.sourceId = .ok source ∧
      prepareSupersession request.command otherId source now = .ok again ∧ again.preview =
        { prepared.preview with
          preparedIntentId := otherId
          expiresAt := now.saturatingAdd evidenceSupersessionTtlMillis }

structure Stable [Sha256] (before after : EvidenceTables) : Prop where
  pinned : ∀ id registered reference pin, before.current id = some (registered, reference) →
    reference.fingerprint = some pin →
    ∃ registered' reference', after.current id = some (registered', reference') ∧ reference'.fingerprint = some pin
  versioned : ∀ id registered reference registered' reference', before.current id = some (registered, reference) →
    after.current id = some (registered', reference') →
    (reference'.vaultPath ≠ reference.vaultPath ∨ reference'.fingerprint ≠ reference.fingerprint ∨
      reference'.verification ≠ reference.verification) → registered'.version.get = registered.version.get + 1
  once : ∀ edge ∈ before.supersessions.rows, edge ∈ after.supersessions.rows
  single : ∀ edge ∈ after.supersessions.rows, ∀ other ∈ after.supersessions.rows, edge.sourceId = other.sourceId →
    edge = other
  others : ∀ edge ∈ after.supersessions.rows, edge.replacementId ≠ edge.sourceId
  ends : Lineage.Ends (successor after)
  unlinked : ∀ id, before.isSuperseded id = true → after.linksOf id = before.linksOf id
  replaced : ∀ edge ∈ after.supersessions.rows, edge ∉ before.supersessions.rows → Replaces before after edge

section
variable {before after : EvidenceTables}

theorem loadSnapshot_context {context other : OperationContext} {sourceId : EvidenceReferenceId}
    {source : EvidenceSupersessionSourceSnapshot}
    (loaded : loadEvidenceSupersessionSourceSnapshot context before sourceId = .ok source) :
    loadEvidenceSupersessionSourceSnapshot other before sourceId = .ok source := by
  unfold loadEvidenceSupersessionSourceSnapshot at loaded ⊢
  obtain ⟨_, there, loaded⟩ := bind_ok.mp loaded
  obtain ⟨record, read, loaded⟩ := bind_ok.mp loaded
  obtain ⟨links, seen, loaded⟩ := bind_ok.mp loaded
  obtain ⟨registered, reference, found, rfl⟩ := loadRecord_ok read
  refine bind_ok.mpr ⟨(), ensure_ok.mpr ?_, ?_⟩
  · exact ensure_ok.mp there
  refine bind_ok.mpr ⟨_, loadRecord_current found, ?_⟩
  refine bind_ok.mpr ⟨links, mapM_ok.mpr ((mapM_ok.mp seen).imp ?_), loaded⟩
  intro link snapshot looked
  obtain ⟨target, named, looked⟩ := bind_ok.mp looked
  exact bind_ok.mpr ⟨target, require_ok.mpr (require_ok.mp named), looked⟩

theorem mem_linksOf {id : EvidenceReferenceId} {link : EvidenceLinkRecord} :
    link ∈ before.linksOf id ↔ link ∈ before.links.rows ∧ link.evidenceId = id := by
  simp [EvidenceTables.linksOf]

theorem pinned_of_follows (follows : Follows before after) : ∀ id registered reference pin,
    before.current id = some (registered, reference) → reference.fingerprint = some pin →
    ∃ registered' reference', after.current id = some (registered', reference') ∧ reference'.fingerprint = some pin := by
  intro id registered reference pin found same
  obtain ⟨registered', reference', found', later⟩ := follows id registered reference found
  exact ⟨registered', reference', found', later.pinned pin same⟩

theorem versioned_of_follows (follows : Follows before after) : ∀ id registered reference registered' reference',
    before.current id = some (registered, reference) → after.current id = some (registered', reference') →
    (reference'.vaultPath ≠ reference.vaultPath ∨ reference'.fingerprint ≠ reference.fingerprint ∨
      reference'.verification ≠ reference.verification) → registered'.version.get = registered.version.get + 1 := by
  intro id registered reference registered' reference' found found' moved
  obtain ⟨_, _, same, later⟩ := follows id registered reference found
  cases found'.symm.trans same
  rcases later.version with ⟨_, rfl⟩ | next
  · simp at moved
  · exact AggregateVersion.next_get next

theorem successor_of_mem {edge : SupersessionRow} (held : edge ∈ after.supersessions.rows) :
    successor after edge.sourceId = some edge.replacementId := by
  rw [successor, Relation.find_mem held, Option.map_some]

theorem Sound.stable [Sha256] (sound : Sound after) (follows : Follows before after)
    (once : ∀ edge ∈ before.supersessions.rows, edge ∈ after.supersessions.rows)
    (unlinked : ∀ id, before.isSuperseded id = true → after.linksOf id = before.linksOf id)
    (replaced : ∀ edge ∈ after.supersessions.rows, edge ∉ before.supersessions.rows → Replaces before after edge) :
    Stable before after where
  pinned := pinned_of_follows follows
  versioned := versioned_of_follows follows
  once := once
  single := fun _ held _ held' same => List.inj_on_of_nodup_map after.supersessions.keyed held held' same
  others := fun _ held => sound.ends.ne (successor_of_mem held)
  ends := sound.ends
  unlinked := unlinked
  replaced := replaced

theorem Sound.stable_of_same [Sha256] (sound : Sound after) (follows : Follows before after)
    (supersessions : after.supersessions = before.supersessions)
    (unlinked : ∀ id, before.isSuperseded id = true → after.linksOf id = before.linksOf id) : Stable before after := by
  apply sound.stable follows
  · exact fun _ held => supersessions ▸ held
  · exact unlinked
  · exact fun _ held fresh => absurd (supersessions ▸ held) fresh

theorem linksOf_congr (links : after.links = before.links) (id : EvidenceReferenceId) :
    after.linksOf id = before.linksOf id := by
  unfold EvidenceTables.linksOf
  rw [links]

theorem linksOf_append {added : List EvidenceLinkRecord} (links : after.links.rows = before.links.rows ++ added)
    {id : EvidenceReferenceId} (others : ∀ link ∈ added, link.evidenceId ≠ id) : after.linksOf id = before.linksOf id := by
  have none : added.filter (fun row => row.evidenceId = id) = [] := by
    rw [List.filter_eq_nil_iff]
    simpa using others
  unfold EvidenceTables.linksOf
  rw [links, List.filter_append, none, List.append_nil]

variable [Sha256] {context : OperationContext} {approval : EvidenceSupersessionApproval} {row : PreparedIntentRow}
  {prepared : EvidenceSupersessionPreparedIntent} {source : EvidenceSupersessionSourceSnapshot}
  {effects : EvidenceSupersessionEffects} {occurredAt : UtcTimestamp}

theorem Sound.replacement_links (sound : Sound before)
    (effected : Superseded effects row.id prepared.preview.sourceVersion before after occurredAt) {link : EvidenceLinkRecord} :
    link ∈ after.linksOf effects.replacement.id ↔ link ∈ effects.replacementLinks ∧ link.evidenceId = effects.replacement.id := by
  obtain ⟨registry, _, inserted, _, _⟩ := effected.registered
  rw [mem_linksOf, effected.linked, List.mem_append]
  constructor
  · intro ⟨held, named⟩
    rcases held with old | new
    · exact absurd (named ▸ sound.linked link old) (not_registered inserted)
    · exact ⟨new, named⟩
  · intro ⟨held, named⟩
    exact ⟨.inr held, named⟩

theorem Sound.replaces (sound : Sound before) (found : before.preparedIntents.find row.id = some row)
    (stands : row.prepared? = some prepared)
    (loaded : loadEvidenceSupersessionSourceSnapshot context before prepared.preview.sourceId = .ok source)
    (success : executeSupersession approval prepared source (before.isSuperseded prepared.preview.sourceId) occurredAt =
      .ok effects)
    (effected : Superseded effects row.id prepared.preview.sourceVersion before after occurredAt) {edge : SupersessionRow}
    (leaves : edge.sourceId = effects.sourceId) (leads : edge.replacementId = effects.replacement.id)
    (of : edge.preparedIntentId = row.id) : Replaces before after edge := by
  obtain ⟨_, ⟨sourceSame, version⟩, sameLinks, replacement, links, named, _⟩ := executeSupersession_ok success
  obtain ⟨registered, reference, current, read, sees⟩ := loadSnapshot_ok loaded
  obtain ⟨forth, back⟩ := mem_matched sees
  obtain ⟨key, request, earlier, now, requested, names, ready, unmoved⟩ := sound.intents row.id row prepared found stands
  obtain ⟨_, _, _, sourceId, sourceVersion, _, _, _, sourceNamed, _, _, listed, classified⟩ := prepareSupersession_ok ready
  -- the source is still at the version it was prepared at, so it still reads the same
  obtain ⟨registered', reference', current', _, reads⟩ := unmoved
  rw [← sourceId] at current'
  cases current.symm.trans current'
  have stayed : registered.version = earlier.record.version := by
    rw [← sourceVersion, ← version, read]
    rfl
  obtain ⟨samePath, sameFingerprint, sameClassification⟩ := reads stayed
  have sameLinks : sortBy compareLinks source.links = sortBy compareLinks earlier.links := sameLinks.trans listed
  have listed : ∀ snapshot ∈ source.links, snapshot ∈ prepared.preview.links := by
    intro snapshot seen
    rw [listed, ← sameLinks]
    exact (mem_sortBy compareLinks).mpr seen
  have sorted : ∀ snapshot ∈ prepared.preview.links, snapshot ∈ source.links := by
    intro snapshot seen
    apply (mem_sortBy compareLinks).mp
    rwa [sameLinks, ← (prepareSupersession_ok ready).2.2.2.2.2.2.2.2.2.2.2.1]
  obtain ⟨aboveSource, aboveLinks⟩ := le_supersessionClassification earlier.record.classification
    request.command.replacementClassification (sortBy compareLinks earlier.links)
  rw [← classified] at aboveSource aboveLinks
  have replacementNamed : effects.replacement.id = prepared.preview.replacementId :=
    congrArg EvidenceReferenceRecord.id replacement
  refine ⟨?_, ?_, ?_⟩
  · intro old held
    rw [leaves, named] at held
    obtain ⟨snapshot, seen, target, known, same, _⟩ := forth old held
    refine ⟨⟨prepared.preview.replacementId, snapshot.target, prepared.preview.classification, occurredAt⟩, ?_, same⟩
    rw [leads, sound.replacement_links effected, links]
    exact ⟨List.mem_map.mpr ⟨snapshot, listed snapshot seen, rfl⟩, replacementNamed.symm⟩
  · intro link held
    rw [leads, sound.replacement_links effected, links] at held
    obtain ⟨snapshot, seen, rfl⟩ := List.mem_map.mp held.1
    obtain ⟨old, there, target, known, same, targetSame, linkSame⟩ := back snapshot (sorted snapshot seen)
    rw [leaves, named]
    have member : snapshot ∈ sortBy compareLinks earlier.links := by
      rw [← sameLinks]
      exact (mem_sortBy compareLinks).mpr (sorted snapshot seen)
    obtain ⟨aboveTarget, aboveLink⟩ := aboveLinks snapshot member
    refine ⟨old, there, same.symm, ?_, ⟨target, known, ?_⟩, registered, (current_some.mp current).1, ?_⟩
    · exact linkSame ▸ aboveLink
    · exact targetSame ▸ aboveTarget
    · exact sameClassification ▸ aboveSource
  · refine ⟨key, request, row, prepared, requested, ?_, ?_, ?_, stands, ?_⟩
    · rw [names, of, prepared_id stands]
    · rw [leaves, named, ← sourceNamed, sourceId]
    · rw [of, found]
    · intro other otherId later
      rw [leaves, named]
      obtain ⟨again, success, same⟩ := prepareSupersession_again ready (sourceSame.trans sourceId)
        (version.trans sourceVersion) (read ▸ samePath) (read ▸ sameFingerprint) (read ▸ sameClassification) sameLinks
        otherId later
      exact ⟨source, again, loadSnapshot_context loaded, success, same⟩

theorem Change.stable (change : Change before after) (grows : Grows before after) (sound : Sound before) :
    Stable before after := by
  have whole := change
  have later : Sound after := sound.change change grows
  have same (supersessions : after.supersessions = before.supersessions) (links : after.links = before.links) :
      Stable before after :=
    later.stable_of_same whole.follows supersessions fun id _ => linksOf_congr links id
  cases change with
  | idle core => exact same (congrArg Core.supersessions core) (congrArg Core.links core)
  | created _ _ _ _ _ core => exact same (congrArg Core.supersessions core) (congrArg Core.links core)
  | revised _ _ _ _ _ _ _ _ _ _ _ core => exact same (congrArg Core.supersessions core) (congrArg Core.links core)
  | prepared _ _ _ _ _ _ _ _ core => exact same (congrArg Core.supersessions core) (congrArg Core.links core)
  | linked link _ links _ live inserted core =>
    apply later.stable_of_same whole.follows (congrArg Core.supersessions core)
    intro id superseded
    have grown : after.links = links := congrArg Core.links core
    apply linksOf_append (grown ▸ Relation.insert_rows inserted)
    intro added one
    rw [List.mem_singleton] at one
    rintro rfl
    rw [one, live] at superseded
    cases superseded
  | superseded context approval row prepared source effects occurredAt found stands loaded success effected consumed =>
    obtain ⟨edge, leaves, leads, of, inserted⟩ := effected.edged
    obtain ⟨_, _, _, replacement, links, _⟩ := executeSupersession_ok success
    obtain ⟨_, _, registered, _, _⟩ := effected.registered
    apply later.stable whole.follows
    · exact fun other held => (Relation.mem_insert inserted).mpr (.inl held)
    · intro id superseded
      apply linksOf_append effected.linked
      intro link added named
      rw [links] at added
      obtain ⟨_, _, rfl⟩ := List.mem_map.mp added
      have replaced : effects.replacement.id = id := (congrArg EvidenceReferenceRecord.id replacement).trans named
      -- a superseded reference is registered, and the replacement is not yet
      obtain ⟨old, there⟩ := Option.isSome_iff_exists.mp superseded
      exact not_registered registered (replaced ▸ (sound.edged id old there).1)
    · intro other held fresh
      rcases (Relation.mem_insert inserted).mp held with old | rfl
      · exact absurd old fresh
      · exact sound.replaces found stands loaded success effected leaves leads of

theorem Elsewhere.stable (elsewhere : Elsewhere before after) (sound : Sound before) : Stable before after :=
  (sound.elsewhere elsewhere).stable_of_same elsewhere.follows elsewhere.supersessions
    fun id _ => linksOf_congr elsewhere.links id

end

/-- Evidence identity is stable over whole runs, whatever else the Ledger does. -/
theorem evidence_identity_stable [Sha256] {start before after : EvidenceTables} {turns : List Turn} {turn : Turn}
    (initial : Initial start) (run : Evolves Step start turns before) (step : Step turn before after) :
    Stable before after := by
  have sound : Sound before := Sound.run initial run
  rcases step.cases with ⟨change, grows⟩ | elsewhere
  · exact change.stable grows sound
  · exact elsewhere.stable sound

namespace Superseding

scoped instance : Sha256 where
  finalize _ := ⟨"5d2fbbb07c6e3a2cdd6a1f1b0c1df2f3a7cf0ffb0a0ee9f0d6f6a1a6d8f7c411", .refl true⟩

def pinned : EvidenceFingerprint := ⟨.sha256, ⟨"64879f7d6b960a01909762d911a32d4582c20010c5641ee90278b644a9e3b525", by decide⟩⟩

def replaced : EvidenceFingerprint := ⟨.sha256, ⟨"a76334386d615980d6a9aabc643c85c2b8298ac69279f5d9e0ac6fbfb232fc52", by decide⟩⟩

def instant (seconds : UInt8) : UtcTimestamp := ⟨seconds.toNat, UtcTimestamp.byte_lower seconds, UtcTimestamp.byte_upper seconds⟩

def plan : EvidenceReferenceId := ⟨"evidence-1", by decide⟩
def revisedPlan : EvidenceReferenceId := ⟨"evidence-2", by decide⟩
def product : ProductId := ⟨"product-1", by decide⟩
def intent : PreparedIntentId := ⟨"intent-1", .refl true⟩

def context (idempotencyId : IdempotencyId) : OperationContext := ⟨idempotencyId, ⟨"correlation-1", .refl true⟩⟩

def path : VaultRelativePath := ⟨"notes/plan.md", by decide +kernel⟩

def arguments (auditEventId : AuditEventId) (occurredAt : UtcTimestamp) : Arguments :=
  ⟨auditEventId, intent, ⟨"receipt-1", .refl true⟩, occurredAt⟩

def creating : Command := .create
  ⟨plan, path, some pinned, .verified (instant 10) pinned.digest, some .internal, .userEntered, context ⟨"create-1", .refl true⟩⟩

def linking : Command := .link ⟨plan, .initial, .product product, context ⟨"link-1", by decide⟩⟩

def preparing : Command := .prepareSupersede
  { sourceId := plan
    expectedSourceVersion := .initial
    replacementId := revisedPlan
    replacementVaultPath := path
    replacementFingerprint := replaced
    replacementObservedAt := instant 30
    replacementClassification := .confidential
    replacementProvenance := .userEntered
    rationale := ⟨"The plan was revised.", .refl true⟩
    context := context ⟨"prepare-1", .refl true⟩ }

def approving : Command := .approveAndExecuteSupersede
  { approval := ⟨intent, .headOfProducts,
      ⟨"5d2fbbb07c6e3a2cdd6a1f1b0c1df2f3a7cf0ffb0a0ee9f0d6f6a1a6d8f7c411", .refl true⟩, ⟨"approve-1", .refl true⟩, rfl⟩
    context := context ⟨"approve-1", .refl true⟩ }

def start : EvidenceTables where
  ledgerRevision := 0
  registry := ⟨[⟨"product-1", .product, .initial, .restricted, instant 1, instant 1⟩], List.nodup_singleton _⟩
  references := .empty
  links := .empty
  supersessions := .empty
  preparedIntents := .empty
  approvalReceipts := .empty
  creations := .empty
  linkings := .empty
  verifications := .empty
  relocations := .empty
  pins := .empty
  preparations := .empty
  executions := .empty
  auditEvents := .empty
  reservations := .empty
  idempotencyClaims := []

theorem initially : Initial start where
  registry := by
    intro row held
    have kind : row.aggregateType = .product := congrArg RegistryRow.aggregateType (List.mem_singleton.mp held)
    rw [kind]
    decide
  preparedIntents := by
    intro row held
    exact absurd held List.not_mem_nil
  references := rfl
  links := rfl
  supersessions := rfl
  creations := rfl
  linkings := rfl
  verifications := rfl
  relocations := rfl
  pins := rfl
  preparations := rfl
  executions := rfl

def created : EvidenceTables := creating.after (arguments ⟨"audit-1", .refl true⟩ (instant 10)) start
def linked : EvidenceTables := linking.after (arguments ⟨"audit-2", .refl true⟩ (instant 20)) created
def prepared : EvidenceTables := preparing.after (arguments ⟨"audit-3", .refl true⟩ (instant 30)) linked
def executed : EvidenceTables := approving.after (arguments ⟨"audit-4", .refl true⟩ (instant 40)) prepared

def turn (command : Command) (auditEventId : AuditEventId) (occurredAt : UtcTimestamp) : Turn :=
  .command command (arguments auditEventId occurredAt) true

theorem runs : Evolves Step start [turn creating ⟨"audit-1", by decide⟩ (instant 10),
    turn linking ⟨"audit-2", by decide⟩ (instant 20), turn preparing ⟨"audit-3", by decide⟩ (instant 30)] prepared :=
  .move _ (.move _ (.move _ .start rfl) rfl) rfl

theorem executes : Step (turn approving ⟨"audit-4", by decide⟩ (instant 40)) prepared executed := rfl

end Superseding

open Superseding

/-- The replacement of a linked reference carries its link, restricted as the product is. -/
theorem identity_replaced : Stable prepared executed ∧ successor executed plan = some revisedPlan ∧
    (executed.linksOf revisedPlan).map (fun link => (link.target, link.classification)) =
      [(.product product, .restricted)] :=
  ⟨evidence_identity_stable initially runs executes, by decide +kernel, by decide +kernel⟩

end MissionControl.Evidence

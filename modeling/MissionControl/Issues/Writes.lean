import MissionControl.Issues.Ledger
import MissionControl.Issues.Steps

/-! What the commands of the Issue repository leave in the tables. Rows that tell of a command
stay as they are; an Issue either stays as it is or gets a later version. -/

namespace MissionControl.Issues
open Checked
open Evidence (RegistryRow fitsInteger)

/-- The Issue is read from the same rows. -/
structure SameIssue (id : IssueId) (before after : IssueTables) : Prop where
  standing : after.standing id = before.standing id
  evidence : ∀ role, after.evidenceOf id role = before.evidenceOf id role
  reopens : after.reopensOf id = before.reopensOf id
  supports : after.supportsOf id = before.supportsOf id

def Advances (before after : IssueTables) : Prop :=
  ∀ id registered issue, before.standing id = some (registered, issue) → SameIssue id before after ∨
    ∃ registered' issue', after.standing id = some (registered', issue') ∧ registered.version.get < registered'.version.get

/-- A preview is only ever consumed, and that once. -/
def KeepsIntents (before after : IssueTables) : Prop :=
  ∀ id row, before.preparedIntents.find id = some row → ∃ row', after.preparedIntents.find id = some row' ∧
    { row' with consumedAt := row.consumedAt } = row ∧ ∀ consumed, row.consumedAt = some consumed → row' = row

/-- What a later state still holds of what was kept of commands and of Issues. -/
structure Grows (before after : IssueTables) : Prop where
  creates : ∀ id row, before.commandCreates.find id = some row → after.commandCreates.find id = some row
  executes : ∀ id row, before.commandExecutes.find id = some row → after.commandExecutes.find id = some row
  rejects : ∀ id row, before.rejectPrepareds.find id = some row → after.rejectPrepareds.find id = some row
  claims : ∀ id row, before.idempotencyClaims.find id = some row → after.idempotencyClaims.find id = some row
  supports : ∀ id row, before.supports.find id = some row → after.supports.find id = some row
  audits : ∀ id row, before.auditEvents.find id = some row → after.auditEvents.find id = some row
  intents : KeepsIntents before after
  advances : Advances before after

section
variable {before middle after : IssueTables} {id : IssueId}

theorem SameIssue.refl (id : IssueId) (tables : IssueTables) : SameIssue id tables tables :=
  ⟨rfl, fun _ => rfl, rfl, rfl⟩

theorem SameIssue.trans (one : SameIssue id before middle) (two : SameIssue id middle after) : SameIssue id before after where
  standing := two.standing.trans one.standing
  evidence := fun role => (two.evidence role).trans (one.evidence role)
  reopens := two.reopens.trans one.reopens
  supports := two.supports.trans one.supports

theorem Advances.of_same (same : ∀ id, SameIssue id before after) : Advances before after :=
  fun id _ _ _ => .inl (same id)

theorem Advances.trans (one : Advances before middle) (two : Advances middle after) : Advances before after := by
  intro id registered issue found
  obtain same | ⟨registered', issue', found', later⟩ := one id registered issue found
  · obtain same' | ⟨registered'', issue'', found'', later'⟩ := two id registered issue (same.standing.trans found)
    · exact .inl (same.trans same')
    · exact .inr ⟨registered'', issue'', found'', later'⟩
  · obtain same' | ⟨registered'', issue'', found'', later'⟩ := two id registered' issue' found'
    · exact .inr ⟨registered', issue', same'.standing.trans found', later⟩
    · exact .inr ⟨registered'', issue'', found'', later.trans later'⟩

theorem KeepsIntents.refl (tables : IssueTables) : KeepsIntents tables tables :=
  fun _ row found => ⟨row, found, rfl, fun _ _ => rfl⟩

theorem KeepsIntents.trans (one : KeepsIntents before middle) (two : KeepsIntents middle after) : KeepsIntents before after := by
  intro id row found
  obtain ⟨row', found', same', kept'⟩ := one id row found
  obtain ⟨row'', found'', same'', kept''⟩ := two id row' found'
  refine ⟨row'', found'', ?_, fun consumed there => ?_⟩
  · rw [← same', ← same'']
  · cases kept' consumed there
    exact kept'' consumed there

theorem Grows.refl (tables : IssueTables) : Grows tables tables where
  creates := fun _ _ found => found
  executes := fun _ _ found => found
  rejects := fun _ _ found => found
  claims := fun _ _ found => found
  supports := fun _ _ found => found
  audits := fun _ _ found => found
  intents := .refl tables
  advances := .of_same fun id => .refl id tables

theorem Grows.trans (one : Grows before middle) (two : Grows middle after) : Grows before after where
  creates := fun id row found => two.creates id row (one.creates id row found)
  executes := fun id row found => two.executes id row (one.executes id row found)
  rejects := fun id row found => two.rejects id row (one.rejects id row found)
  claims := fun id row found => two.claims id row (one.claims id row found)
  supports := fun id row found => two.supports id row (one.supports id row found)
  audits := fun id row found => two.audits id row (one.audits id row found)
  intents := one.intents.trans two.intents
  advances := one.advances.trans two.advances

end

section
variable {context : IssueOperationContext} {before after : IssueTables} {id : IssueId}

theorem standing_some {tables : IssueTables} {registered : RegistryRow} {issue : IssueRow} :
    tables.standing id = some (registered, issue) ↔
      tables.aggregate id = some registered ∧ tables.issues.find id = some issue := by
  unfold IssueTables.standing
  constructor
  · intro found
    obtain ⟨_, aggregate, found⟩ := Option.bind_eq_some_iff.mp found
    obtain ⟨_, record, same⟩ := Option.map_eq_some_iff.mp found
    cases same
    exact ⟨aggregate, record⟩
  · intro ⟨aggregate, record⟩
    rw [aggregate, record]
    rfl

theorem insertAudit_ok {row : AuditRow} (success : insertAudit context row before = .ok after) :
    Grows before after ∧ after.auditEvents.find row.id = some row ∧
      after = { before with auditEvents := after.auditEvents } := by
  obtain ⟨_, _, success⟩ := bind_ok.mp success
  obtain ⟨auditEvents, inserted, success⟩ := bind_ok.mp success
  cases pure_ok.mp success
  have inserted := require_ok.mp inserted
  exact ⟨{ Grows.refl before with
    audits := fun _ _ => Relation.find_insert_kept inserted
    advances := .of_same fun _ => ⟨rfl, fun _ => rfl, rfl, rfl⟩ }, Relation.find_inserted inserted, rfl⟩

theorem claimIdempotency_ok {operation : IssueOperation} (success : claimIdempotency context operation before = .ok after) :
    Grows before after ∧ after.idempotencyClaims.find context.idempotencyId = some ⟨context.idempotencyId, operation⟩ ∧
      before.idempotencyClaims.find context.idempotencyId = none ∧
      after = { before with idempotencyClaims := after.idempotencyClaims } := by
  obtain ⟨_, inserted, success⟩ := bind_ok.mp success
  cases pure_ok.mp success
  have inserted := require_ok.mp inserted
  exact ⟨{ Grows.refl before with
    claims := fun _ _ => Relation.find_insert_kept inserted
    advances := .of_same fun _ => ⟨rfl, fun _ => rfl, rfl, rfl⟩ }, Relation.find_inserted inserted,
    Relation.insert_fresh inserted, rfl⟩

theorem advanceRevision_ok (success : advanceRevision context before = .ok after) :
    after = { before with ledgerRevision := before.ledgerRevision + 1 } := by
  obtain ⟨_, _, success⟩ := bind_ok.mp success
  exact (pure_ok.mp success).symm

theorem advanceRevision_grows (success : advanceRevision context before = .ok after) : Grows before after := by
  rw [advanceRevision_ok success]
  exact { Grows.refl before with advances := .of_same fun _ => ⟨rfl, fun _ => rfl, rfl, rfl⟩ }

theorem reviseIssue_ok {version : AggregateVersion} {classification : Option DataClassification} {updatedAt : UtcTimestamp}
    (success : reviseIssue context id version classification updatedAt before = .ok after) :
    after = { before with registry := after.registry } ∧ ∀ other, after.aggregate other =
      if other = id then (before.aggregate id).map fun row =>
        { row with version, classification := classification.getD row.classification, updatedAt }
      else before.aggregate other := by
  obtain ⟨_, _, success⟩ := bind_ok.mp success
  obtain ⟨_, _, success⟩ := bind_ok.mp success
  cases pure_ok.mp success
  clear success
  refine ⟨rfl, fun other => ?_⟩
  unfold IssueTables.aggregate
  dsimp only
  rw [Relation.find_update]
  by_cases same : other = id
  · subst same
    rw [if_pos rfl]
    cases before.registry.find other.asStr with
    | none => rfl
    | some row =>
      by_cases typed : row.aggregateType = .issue
      · simp [Option.filter, typed]
      · simp [Option.filter, typed]
  · have different : id.asStr ≠ other.asStr := fun equal => same (OpaqueId.asStr_injective equal).symm
    rw [if_neg same]
    simp [different]

theorem insertEvidence_fold {role : EvidenceRole} {ids : List EvidenceReferenceId}
    (success : ids.foldlM (fun tables evidenceId => insertEvidence context ⟨id, evidenceId, role⟩ tables) before = .ok after) :
    after = { before with issueEvidence := before.issueEvidence ++ ids.map fun evidenceId => ⟨id, evidenceId, role⟩ } := by
  induction ids generalizing before with
  | nil =>
    cases pure_ok.mp success
    simp
  | cons first rest following =>
    obtain ⟨middle, inserted, success⟩ := bind_ok.mp success
    obtain ⟨_, _, inserted⟩ := bind_ok.mp inserted
    cases pure_ok.mp inserted
    rw [following success]
    simp

theorem Advances.touch (id : IssueId) (others : ∀ other, other ≠ id → SameIssue other before after)
    (own : ∀ registered issue, before.standing id = some (registered, issue) → ∃ registered' issue',
      after.standing id = some (registered', issue') ∧ registered.version.get < registered'.version.get) :
    Advances before after := by
  intro other registered issue found
  by_cases same : other = id
  · subst same
    exact .inr (own registered issue found)
  · exact .inl (others other same)

theorem insertIntent_keeps {row : PreparedIntentRow} {preparedIntents : Relation PreparedIntentRow PreparedIntentId PreparedIntentRow.id}
    (inserted : before.preparedIntents.insert row = some preparedIntents)
    (same : after.preparedIntents = preparedIntents) : KeepsIntents before after := by
  intro id other found
  exact ⟨other, same ▸ Relation.find_insert_kept inserted found, rfl, fun _ _ => rfl⟩

theorem consume_keeps {preparedId : PreparedIntentId} (change : PreparedIntentRow → PreparedIntentRow)
    (keeps : ∀ row, (change row).id = row.id)
    (same : after.preparedIntents = before.preparedIntents.update preparedId change keeps)
    (consumes : ∀ row, before.preparedIntents.find preparedId = some row →
      { change row with consumedAt := row.consumedAt } = row ∧ ∀ consumed, row.consumedAt = some consumed → change row = row) :
    KeepsIntents before after := by
  intro id row found
  by_cases named : preparedId = id
  · subst named
    obtain ⟨rest, kept⟩ := consumes row found
    exact ⟨change row, same ▸ Relation.find_update_self found, rest, kept⟩
  · exact ⟨row, by rw [same, Relation.find_update_other named, found], rfl, fun _ _ => rfl⟩

end

structure Consumes (preparedId : PreparedIntentId) (before after : IssueTables) : Prop where
  identities : after.issues.rows.map IssueRow.id = before.issues.rows.map IssueRow.id
  prepares : after.commandPrepares = before.commandPrepares
  intents : ∃ change : PreparedIntentRow → PreparedIntentRow, ∃ keeps : ∀ row, (change row).id = row.id,
    after.preparedIntents = before.preparedIntents.update preparedId change keeps ∧
      ∀ row, (change row).consumedAt ≠ none ∧ (change row).primaryId = row.primaryId

variable {preparedId id : PreparedIntentId} {row : PreparedIntentRow} {before middle after : IssueTables}

theorem Consumes.after_of (consumes : Consumes preparedId before middle) (identities : after.issues = middle.issues)
    (prepares : after.commandPrepares = middle.commandPrepares) (intents : after.preparedIntents = middle.preparedIntents) :
    Consumes preparedId before after where
  identities := by rw [identities]; exact consumes.identities
  prepares := prepares.trans consumes.prepares
  intents := by rw [intents]; exact consumes.intents

theorem Consumes.waiting (consumes : Consumes preparedId before after) (found : after.preparedIntents.find id = some row)
    (waits : row.consumedAt = none) : before.preparedIntents.find id = some row ∧ id ≠ preparedId := by
  obtain ⟨change, keeps, same, changed⟩ := consumes.intents
  rw [same, Relation.find_update] at found
  obtain ⟨earlier, there, rfl⟩ := Option.map_eq_some_iff.mp found
  split at waits
  · exact absurd waits (changed earlier).1
  next different => exact ⟨by rw [if_neg different]; exact there, fun equal => different equal.symm⟩

theorem Consumes.known (consumes : Consumes preparedId before after) (found : after.preparedIntents.find id = some row) :
    ∃ earlier, before.preparedIntents.find id = some earlier ∧ earlier.primaryId = row.primaryId := by
  obtain ⟨change, keeps, same, changed⟩ := consumes.intents
  rw [same, Relation.find_update] at found
  obtain ⟨earlier, there, rfl⟩ := Option.map_eq_some_iff.mp found
  refine ⟨earlier, there, ?_⟩
  split
  · exact (changed earlier).2.symm
  · rfl

end MissionControl.Issues

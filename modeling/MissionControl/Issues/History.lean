import MissionControl.Actions.Pins
import MissionControl.Issues.Runtime

/-! What the calls of the Issue repository were answered with, beside the tables they left. As long
as no call disturbs a preview that is still to be read, all of it is read back from the tables. -/

namespace MissionControl.Issues
open Evidence (RegistryRow)

def lastRecord (told : List Answer) (id : IssueId) : Option IssueRecord :=
  told.findSome? fun answer => match answer with
    | .mutation outcome => if outcome.record.id = id then some outcome.record else none
    | _ => none

structure IssueRecord.Agrees (shown told : IssueRecord) : Prop where
  same : { shown with
    resolutionEvidence := told.resolutionEvidence
    closureVerificationEvidence := told.closureVerificationEvidence
    failedVerificationEvidence := told.failedVerificationEvidence } = told
  evidence : ∀ role, (evidenceIn shown role).Perm (evidenceIn told role)

section
variable [Sha256]

structure RemadeLowering (tables : IssueTables) (row : PreparedIntentRow) (registered : RegistryRow)
    (prepared : WorkManagementPreparedIntent) : Prop where
  made : ∃ proposedClassification rationale,
    loweringRequest tables row.id = some (proposedClassification, rationale) ∧
      WorkManagementPreparedIntent.prepare row.id (.lowerIssueClassification row.primaryId registered.version
        registered.classification proposedClassification rationale) registered.classification none row.createdAt = .ok prepared
  digest : prepared.payloadDigest = row.payloadDigest
  classified : prepared.preview.classification = row.classification
  expires : prepared.preview.expiresAt = row.expiresAt

def Remakeable (tables : IssueTables) (row : PreparedIntentRow) (prepared : WorkManagementPreparedIntent) : Prop :=
  ∃ registered issue, tables.standing row.primaryId = some (registered, issue) ∧ match row.kind with
    | some kind => Remade tables kind row registered.classification prepared
    | none => RemadeLowering tables row registered prepared

/-- The previews of a call are those that the service makes of the Issue as the Ledger has it. -/
def Command.Offers (tables : IssueTables) : Command → Prop
  | .createIssue _ => True
  | .prepareResolveIssue command prepared => offersTransition command.transition prepared
  | .prepareCloseIssue command prepared => offersTransition command.transition prepared
  | .prepareReopenIssue command prepared => offersTransition command.transition prepared
  | .prepareLowerIssueClassification command prepared =>
    ∃ record ports, decodeIssueH2aRecord command.context tables command.issueId = .ok record ∧
      loweringPreview (IssueStore.empty.insertFromRisk record) ports command = .ok prepared
  | _ => True
where
  offersTransition (command : PrepareTransition) (prepared : WorkManagementPreparedIntent) : Prop :=
    ∃ record ports, decodeIssueH2aRecord command.context tables command.issueId = .ok record ∧
      transitionPreview (IssueStore.empty.insertFromRisk record) ports command.operation command.evidenceIds
        command.judgment command.context = .ok prepared

def OwnClass (id : IssueId) (prepared : WorkManagementPreparedIntent) (tables : IssueTables) : Prop :=
  ∀ registered issue, tables.standing id = some (registered, issue) →
    Actions.targetClassification prepared = registered.classification

/-- The approved preview restricts its Issue no further, and no lowering of the Issue is waiting. -/
def Mild (preparedId : PreparedIntentId) (tables : IssueTables) : Prop :=
  ∀ intent registered issue, tables.preparedIntents.find preparedId = some intent → intent.consumedAt = none →
    tables.standing intent.primaryId = some (registered, issue) → intent.classification = registered.classification ∧
      ∀ other ∈ tables.preparedIntents.rows, other.kind = none → other.primaryId = intent.primaryId → other.consumedAt ≠ none

def Alone (preparedId : PreparedIntentId) (tables : IssueTables) : Prop :=
  ∀ intent, tables.preparedIntents.find preparedId = some intent → intent.consumedAt = none →
    (∀ other ∈ tables.preparedIntents.rows, other.primaryId = intent.primaryId → other.id ≠ preparedId → other.consumedAt ≠ none) ∧
      ∀ row ∈ tables.rejectPrepareds.rows, ∀ other, tables.preparedIntents.find row.preparedIntentId = some other →
        other.primaryId ≠ intent.primaryId

/-- The condition on a call under which all previews can still be read after it. -/
def Command.Undisturbing (tables : IssueTables) : Command → Prop
  | .prepareResolveIssue command prepared => OwnClass command.issueId prepared tables
  | .prepareCloseIssue command prepared => OwnClass command.issueId prepared tables
  | .prepareReopenIssue command prepared => OwnClass command.issueId prepared tables
  | .approveAndExecuteResolveIssue command | .approveAndExecuteCloseIssue command
  | .approveAndExecuteReopenIssue command => Mild command.approval.preparedId tables
  | .approveAndExecuteLowerIssueClassification command => Alone command.approval.preparedId tables
  | _ => True

/-- A call beside the answers of those that committed; a call that changes no row commits nothing. -/
inductive Recounts (turn : Command × Arguments) : IssueTables × List Answer → IssueTables × List Answer → Prop where
  | committed {before after : IssueTables} {told : List Answer} {answer : Answer}
      (success : turn.1.operation turn.2 before = .ok (after, answer)) (wrote : after ≠ before)
      (offers : turn.1.Offers before) : Recounts turn (before, told) (after, answer :: told)
  | repeated {tables : IssueTables} {told : List Answer} {answer : Answer}
      (success : turn.1.operation turn.2 tables = .ok (tables, answer)) : Recounts turn (tables, told) (tables, told)

structure Shown (tables : IssueTables) (told : List Answer) : Prop where
  rooted : ∀ id ∈ tables.issues.rows.map IssueRow.id, ∃ standing, tables.standing id = some standing
  bare : ∀ id, tables.standing id = none →
    (∀ role, tables.evidenceOf id role = []) ∧ tables.reopensOf id = [] ∧ tables.supportsOf id = []
  records : ∀ id standing, tables.standing id = some standing → ∃ answered, lastRecord told id = some answered ∧
    ∃ record, (∀ context, decodeIssueH2aRecord context tables id = .ok record) ∧ record.Agrees answered
  complete : ∀ id record, lastRecord told id = some record → ∃ standing, tables.standing id = some standing

structure Awaited (tables : IssueTables) (told : List Answer) : Prop where
  previews : ∀ prepared, .prepared prepared ∈ told → ∃ row, tables.preparedIntents.find prepared.id = some row ∧
    (row.consumedAt = none → Remakeable tables row prepared)
  offered : ∀ id row, tables.preparedIntents.find id = some row → row.consumedAt = none →
    ∃ prepared, .prepared prepared ∈ told ∧ prepared.id = id
  owned : ∀ id row, tables.preparedIntents.find id = some row → ∃ standing, tables.standing row.primaryId = some standing
  referred : ∀ reply ∈ tables.commandPrepares.rows, ∃ row, tables.preparedIntents.find reply.resultReference = some row
  proper : ∀ id proposedClassification rationale,
    loweringRequest tables id = some (proposedClassification, rationale) → proposedClassification ≠ .unclassified
  remakes : ∀ id registered issue, tables.standing id = some (registered, issue) → Remakes tables id registered.classification

def Rejections (tables : IssueTables) (told : List Answer) : Prop :=
  ∀ rejected, .rejected rejected ∈ told ↔ ∃ row ∈ tables.rejectPrepareds.rows, ∃ intent,
    tables.preparedIntents.find row.preparedIntentId = some intent ∧ rejected = rejectionOf row intent

structure Legible (tables : IssueTables) (told : List Answer) : Prop where
  sound : Sound tables
  shown : Shown tables told
  awaited : Awaited tables told
  rejections : Rejections tables told

theorem Legible.empty : Legible .empty [] where
  sound := .empty
  shown :=
    { rooted _ listed := absurd listed List.not_mem_nil
      bare _ _ := ⟨fun _ => rfl, rfl, rfl⟩
      records _ _ stands := by cases stands
      complete _ _ last := by cases last }
  awaited :=
    { previews _ listed := absurd listed List.not_mem_nil
      offered _ _ found := by cases found
      owned _ _ found := by cases found
      referred _ listed := absurd listed List.not_mem_nil
      proper _ _ _ requested := by cases requested
      remakes _ _ _ stands := by cases stands }
  rejections _ := ⟨fun listed => absurd listed List.not_mem_nil, fun ⟨_, listed, _⟩ => absurd listed List.not_mem_nil⟩

end

variable {before after : IssueTables} {told : List Answer} {id : IssueId}

theorem lastRecord_mutation (outcome : IssueMutationOutcome) :
    lastRecord (.mutation outcome :: told) id = if outcome.record.id = id then some outcome.record else lastRecord told id := by
  unfold lastRecord
  rw [List.findSome?_cons]
  by_cases own : outcome.record.id = id
  · simp only [if_pos own]
  · simp only [if_neg own]

theorem Grows.stands (grows : Grows before after) {standing : RegistryRow × IssueRow} (stands : before.standing id = some standing) :
    ∃ later, after.standing id = some later := by
  obtain ⟨registered, issue⟩ := standing
  obtain same | ⟨registered', issue', found, _⟩ := grows.advances id registered issue stands
  · exact ⟨_, same.standing.trans stands⟩
  · exact ⟨_, found⟩

theorem Shown.kept (shown : Shown before told) (grows : Grows before after) (same : ∀ id, SameIssue id before after)
    (identities : after.issues.rows.map IssueRow.id = before.issues.rows.map IssueRow.id) {told' : List Answer}
    (last : ∀ id, lastRecord told' id = lastRecord told id) : Shown after told' where
  rooted id listed := by
    rw [identities] at listed
    obtain ⟨standing, stands⟩ := shown.rooted id listed
    exact grows.stands stands
  bare id absent := by
    rw [(same id).standing] at absent
    obtain ⟨evidence, reopens, supports⟩ := shown.bare id absent
    exact ⟨fun role => ((same id).evidence role).trans (evidence role), (same id).reopens.trans reopens,
      (same id).supports.trans supports⟩
  records id standing stands := by
    rw [(same id).standing] at stands
    obtain ⟨answered, told, record, read, agrees⟩ := shown.records id standing stands
    exact ⟨answered, (last id).trans told, record, fun context => decodeIssueH2aRecord_kept grows (same id) (read context), agrees⟩
  complete id record told := by
    rw [last] at told
    obtain ⟨standing, stands⟩ := shown.complete id record told
    exact grows.stands stands

theorem Shown.answered (shown : Shown before told) (grows : Grows before after) {outcome : IssueMutationOutcome}
    (others : ∀ other, other ≠ outcome.record.id → SameIssue other before after)
    (identities : ∀ id ∈ after.issues.rows.map IssueRow.id, id = outcome.record.id ∨ id ∈ before.issues.rows.map IssueRow.id)
    (own : ∃ record, (∀ context, decodeIssueH2aRecord context after outcome.record.id = .ok record) ∧
      record.Agrees outcome.record) : Shown after (.mutation outcome :: told) := by
  obtain ⟨record, read, agrees⟩ := own
  obtain ⟨registered, issue, supports, stood, _⟩ := decodeIssueH2aRecord_ok.mp (read ⟨⟨"load", by decide⟩, ⟨"load", by decide⟩⟩)
  constructor
  · intro id listed
    obtain rfl | known := identities id listed
    · exact ⟨_, stood⟩
    · obtain ⟨standing, stands⟩ := shown.rooted id known
      exact grows.stands stands
  · intro id absent
    have different : id ≠ outcome.record.id := by
      rintro rfl
      cases stood.symm.trans absent
    have same := others id different
    rw [same.standing] at absent
    obtain ⟨evidence, reopens, supports⟩ := shown.bare id absent
    exact ⟨fun role => (same.evidence role).trans (evidence role), same.reopens.trans reopens, same.supports.trans supports⟩
  · intro id standing stands
    rw [lastRecord_mutation]
    by_cases own : outcome.record.id = id
    · subst own
      exact ⟨outcome.record, if_pos rfl, record, read, agrees⟩
    · have same := others id (Ne.symm own)
      rw [same.standing] at stands
      obtain ⟨answered, told, record, read, agrees⟩ := shown.records id standing stands
      exact ⟨answered, (if_neg own).trans told, record,
        fun context => decodeIssueH2aRecord_kept grows same (read context), agrees⟩
  · intro id record told
    rw [lastRecord_mutation] at told
    split at told
    next own => exact ⟨_, own ▸ stood⟩
    next =>
      obtain ⟨standing, stands⟩ := shown.complete id record told
      exact grows.stands stands

end MissionControl.Issues

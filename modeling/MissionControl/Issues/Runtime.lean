import MissionControl.Issues.Replays

/-! All of the Issues read back at once: every Issue as it stands, every preview that still waits and
every rejection. -/

namespace MissionControl.Issues
open Checked

inductive IssuePersistenceLoadError where
  | storageUnavailable | invalidIssueSnapshot

structure IssueH2aRuntimeSnapshot where
  records : List IssueRecord
  prepared : List WorkManagementPreparedIntent
  rejections : List IssueH2aRejectionReplay

/-- The Issue that a preview of this namespace is about. -/
def preparedIssueTarget (prepared : WorkManagementPreparedIntent) : Option IssueId :=
  ((issueTransition prepared.operation).map (·.issueId)).or (validSnapshot.lowerTarget prepared.operation)

def IssueH2aRuntimeSnapshot.valid (snapshot : IssueH2aRuntimeSnapshot) : Bool :=
  let identities := snapshot.records.map (·.id)
  let preparedIdentities := snapshot.prepared.map (·.id)
  identities.Nodup ∧ preparedIdentities.Nodup ∧
  (∀ intent ∈ snapshot.prepared, (preparedIssueTarget intent).any fun target => target ∈ identities) ∧
  (snapshot.rejections.map fun rejection => rejection.prepared.id).Nodup ∧
  (snapshot.rejections.map fun rejection => rejection.context.idempotencyId).Nodup ∧
  (snapshot.rejections.map fun rejection => rejection.outcome.auditEvent.id).Nodup ∧
  ∀ rejection ∈ snapshot.rejections, rejection.prepared.id ∉ preparedIdentities ∧
    (rejectedIssueId rejection.prepared.operation).any fun issueId =>
      issueId ∈ identities ∧ validIssueRejection rejection issueId

variable [Sha256]

def snapshotLoadContext : IssueOperationContext :=
  ⟨⟨"ledger-issue-h2a-snapshot-load", by decide⟩, ⟨"ledger-issue-h2a-snapshot-load", by decide⟩⟩

/-- The previews that nothing consumed yet. -/
def outstanding (tables : IssueTables) : List PreparedIntentRow :=
  Sorting.sortBy (Sorting.comparing compare PreparedIntentRow.id)
    (tables.preparedIntents.rows.filter fun row => row.consumedAt.isNone)

def decodeOutstanding (tables : IssueTables) (records : List IssueRecord) (intent : PreparedIntentRow) :
    Except IssuePersistenceLoadError WorkManagementPreparedIntent := do
  let record ← require .invalidIssueSnapshot (records.find? fun record => record.id = intent.primaryId)
  relabel (fun _ => .invalidIssueSnapshot) (match intent.kind with
    | none => decodeLowerIssueClassificationPrepared snapshotLoadContext tables intent record
    | some kind => decodePreparedIntent snapshotLoadContext tables kind intent.id record.classification true)

def decodeIssueH2aRuntimeSnapshot (tables : IssueTables) : Except IssuePersistenceLoadError IssueH2aRuntimeSnapshot := do
  let ids := Sorting.sortBy compare (tables.issues.rows.map IssueRow.id)
  let records ← ids.mapM fun id =>
    relabel (fun _ => .invalidIssueSnapshot) (decodeIssueH2aRecord snapshotLoadContext tables id)
  let prepared ← (outstanding tables).mapM (decodeOutstanding tables records)
  let rejections ← records.mapM fun record =>
    relabel (fun _ => .invalidIssueSnapshot)
      (decodeIssueRejections snapshotLoadContext tables record.id record.classification)
  let snapshot : IssueH2aRuntimeSnapshot := ⟨records, prepared, rejections.flatten⟩
  ensure (snapshot.valid = true) .invalidIssueSnapshot
  return snapshot

end MissionControl.Issues

import MissionControl.Risks.Service
import MissionControl.Lib.Sorting

/-! The restart boundary of the Risk service: the snapshot a running service gives, the
checks a snapshot passes, and the service made from it. -/

namespace MissionControl.Risks
open Checked Staging
open Issues (IssueStore IssueRecord)

inductive RiskRehydrationError where
  | invalidCreatedRisk | duplicateRisk

structure RiskReplayEntry where
  idempotencyId : IdempotencyId
  signature : Signature
  stored : Stored

structure RiskPersistenceSnapshot where
  risks : List RiskRecord
  occurrenceIssues : List IssueRecord
  links : List RiskIssueLink
  prepared : List WorkManagementPreparedIntent
  replay : List RiskReplayEntry
  audits : List AuditEvent

/-- Nothing happened to the Issue since the occurrence made it. -/
def untouched (issue : IssueRecord) : Bool :=
  issue.recurrenceOf.isNone && issue.state = .open && issue.resolutionType.isNone &&
    issue.resolutionRationale.isNone && issue.resolutionEvidence.isEmpty &&
    issue.closureVerificationEvidence.isEmpty && issue.failedVerificationEvidence.isEmpty &&
    issue.reopenRationales.isEmpty && issue.supportHistory.isEmpty

def linkMatches (risks : List RiskRecord) (issues : List IssueRecord) (link : RiskIssueLink) : Bool :=
  match risks.find? (·.id = link.riskId), issues.find? (·.id = link.issueId) with
  | some risk, some issue =>
    risk.state = .occurred && risk.version = link.riskVersion && risk.classification = link.classification &&
      issue.sourceRiskId = some link.riskId && untouched issue && issue.version = link.issueVersion &&
      issue.classification = link.classification
  | _, _ => false

def linksCounted (links : List RiskIssueLink) (risk : RiskRecord) : Bool :=
  links.countP (·.riskId = risk.id) = if risk.state = .occurred then 1 else 0

def Stored.terminal? : Stored → Option RiskTerminalFailure
  | .terminal failure => some failure
  | _ => none

def Stored.rejected? : Stored → Option Actions.RejectedPreparedIntentOutcome
  | .rejected outcome => some outcome
  | _ => none

def Signature.executes [Sha256] (signature : Signature) (prepared : WorkManagementPreparedIntent) : Bool :=
  match signature with
  | .execute id actor digest => id = prepared.id && actor = .headOfProducts && digest = prepared.payloadDigest
  | _ => false

def Signature.rejects (signature : Signature) (id : PreparedIntentId) : Bool :=
  match signature with
  | .rejectPrepared prepared actor => prepared = id && actor = .headOfProducts
  | _ => false

def terminalMatches [Sha256] (prepared : List WorkManagementPreparedIntent) (audits : List AuditEvent)
    (entry : RiskReplayEntry) : Bool :=
  match entry.stored.terminal? with
  | none => true
  | some failure =>
    audits.any (·.id = failure.audit.id) && failure.audit.correlationId = failure.error.correlationId &&
      !prepared.any (·.id = failure.prepared.id) && entry.signature.executes failure.prepared

def rejectionMatches (prepared : List WorkManagementPreparedIntent) (audits : List AuditEvent)
    (entry : RiskReplayEntry) : Bool :=
  match entry.stored.rejected? with
  | none => true
  | some outcome =>
    entry.signature.rejects outcome.preparedIntentId && !prepared.any (·.id = outcome.preparedIntentId) &&
      audits.any (·.id = outcome.auditEvent.id)

def tryNewWithH2a [Sha256] (snapshot : RiskPersistenceSnapshot) :
    Except RiskRehydrationError RiskPersistenceSnapshot := do
  ensure (snapshot.risks.map (·.id)).Nodup .duplicateRisk
  ensure (snapshot.occurrenceIssues.map (·.id)).Nodup .duplicateRisk
  ensure (snapshot.links.all (linkMatches snapshot.risks snapshot.occurrenceIssues) ∧
    (snapshot.links.map fun link => (link.riskId, link.issueId)).Nodup) .invalidCreatedRisk
  ensure (snapshot.risks.all (linksCounted snapshot.links)) .invalidCreatedRisk
  ensure (snapshot.occurrenceIssues.length = snapshot.links.length) .invalidCreatedRisk
  ensure (snapshot.prepared.map (·.id)).Nodup .duplicateRisk
  ensure (snapshot.replay.map (·.idempotencyId)).Nodup .duplicateRisk
  ensure (snapshot.audits.map (·.id)).Nodup .duplicateRisk
  ensure (snapshot.replay.all (terminalMatches snapshot.prepared snapshot.audits) ∧
    ((snapshot.replay.filterMap (·.stored.terminal?)).map (·.prepared.id)).Nodup) .invalidCreatedRisk
  ensure (snapshot.replay.all (rejectionMatches snapshot.prepared snapshot.audits)) .invalidCreatedRisk
  return snapshot

def sortLinks (links : List RiskIssueLink) : List RiskIssueLink :=
  links.insertionSort fun left right =>
    left.riskId < right.riskId ∨ (left.riskId = right.riskId ∧ left.issueId ≤ right.issueId)

def persistenceSnapshotWithH2a [Sha256] (state : State) : Except RiskRehydrationError RiskPersistenceSnapshot := do
  let links := sortLinks state.own.links
  let issues ← links.mapM fun link => require .invalidCreatedRisk (state.authority.get link.issueId)
  tryNewWithH2a
    { risks := (KeyMap.held state.own.risks).insertionSort fun left right => left.id ≤ right.id
      occurrenceIssues := issues.insertionSort fun left right => left.id ≤ right.id
      links
      prepared := (KeyMap.held state.own.prepared).insertionSort fun left right => left.id ≤ right.id
      replay := (state.own.idem.toList.map fun (id, signature, stored) => RiskReplayEntry.mk id signature stored)
        |>.insertionSort fun left right => left.idempotencyId ≤ right.idempotencyId
      audits := state.own.audits }

def rehydrateWithH2aAndIssueAuthority (snapshot : RiskPersistenceSnapshot) (authority : IssueStore) :
    Except RiskRehydrationError Service := do
  ensure (snapshot.occurrenceIssues.all fun issue => authority.get issue.id = some issue) .invalidCreatedRisk
  let own : Store :=
    { risks := KeyMap.collect (snapshot.risks.map fun risk => (risk.id, risk))
      prepared := KeyMap.collect (snapshot.prepared.map fun intent => (intent.id, intent))
      idem := KeyMap.collect (snapshot.replay.map fun entry => (entry.idempotencyId, entry.signature, entry.stored))
      audits := snapshot.audits
      links := snapshot.links }
  return { state := { authority, own }, failNextCommit := false }

end MissionControl.Risks

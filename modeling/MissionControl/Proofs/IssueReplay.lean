import MissionControl.Issues.Replays

/-! An Issue command issued again. It is told from the Issue as it stands by then, so that it gets
its first answer only as long as nothing was done to the Issue since. -/

namespace MissionControl.Issues
open Run Transaction

def Command.kind : Command → IssueOperation
  | .createIssue _ => .create
  | .prepareResolveIssue _ _ => .prepare .resolve
  | .prepareCloseIssue _ _ => .prepare .close
  | .prepareReopenIssue _ _ => .prepare .reopen
  | .prepareLowerIssueClassification _ _ => .prepareLowerClassification
  | .approveAndExecuteResolveIssue _ => .execute .resolve
  | .approveAndExecuteCloseIssue _ => .execute .close
  | .approveAndExecuteReopenIssue _ => .execute .reopen
  | .approveAndExecuteLowerIssueClassification _ => .executeLowerClassification
  | .rejectIssuePreparedIntent _ => .rejectPrepared

/-- What a command asks for besides its context. -/
inductive Request where
  | creation (id : IssueId) (title : IssueTitle) (details : IssueDetails) (classification : DataClassification)
      (recurrenceOf : Option IssueId)
  | approval (preparedId : PreparedIntentId) (actor : AuditActor) (acknowledgedPayloadDigest : WorkManagementPayloadDigest)
  | rejection (preparedId : PreparedIntentId) (actor : AuditActor)

def ApproveAndExecuteIssueTransition.request (command : ApproveAndExecuteIssueTransition) : Request :=
  .approval command.approval.preparedId command.approval.actor command.approval.acknowledgedPayloadDigest

/-- Requests for previews are left out. -/
def Command.request : Command → Option Request
  | .createIssue command =>
    some (.creation command.id command.title command.details command.classification command.recurrenceOf)
  | .approveAndExecuteResolveIssue command | .approveAndExecuteCloseIssue command
  | .approveAndExecuteReopenIssue command | .approveAndExecuteLowerIssueClassification command => some command.request
  | .rejectIssuePreparedIntent command => some (.rejection command.preparedId command.actor)
  | _ => none

section
variable [Sha256]

/-- The condition under which a command is told its first answer. -/
def Command.Unrevised (before later : IssueTables) : Command → Prop
  | .createIssue command =>
    ∀ registered, later.aggregate command.id = some registered → registered.version = .initial
  | .approveAndExecuteResolveIssue command =>
    Quiet .resolve command.approval.preparedId before ∧ Unchanged command.approval.preparedId before later
  | .approveAndExecuteCloseIssue command =>
    Quiet .close command.approval.preparedId before ∧ Unchanged command.approval.preparedId before later
  | .approveAndExecuteReopenIssue command =>
    Quiet .reopen command.approval.preparedId before ∧ Unchanged command.approval.preparedId before later
  | .approveAndExecuteLowerIssueClassification command =>
    Holdable command.approval.preparedId before ∧ Unchanged command.approval.preparedId before later
  | .rejectIssuePreparedIntent command => Rebuilt command.preparedId later
  | _ => True

/-- Issued at any time and with any new identifiers, the command gets this answer and
changes no row. -/
def Command.Answered (command : Command) (answer : Answer) (tables : IssueTables) : Prop :=
  ∀ arguments, Transaction.run true (fun tables => command.operation arguments tables) tables = (tables, .ok answer)

/-- Whatever it is issued with, the command fails and changes no row. -/
def Command.Refused (command : Command) (tables : IssueTables) : Prop :=
  ∀ arguments, ∃ failure, Transaction.run true (fun tables => command.operation arguments tables) tables =
    (tables, .error failure)

/-- How the Ledger deals with a command that is issued again and with others of its operation
under its key. -/
structure Settled (command : Command) (answer : Answer) (before later : IssueTables) : Prop where
  answered : command.Answered answer later ↔ command.Unrevised before later
  refused : ∀ other : Command, other.context.idempotencyId = command.context.idempotencyId →
    other.kind = command.kind → other.request ≠ command.request → other.Refused later

variable {arguments : Arguments} {before committed later : IssueTables} {command : Command}

theorem Command.answered_iff (arguments : Arguments) {answer : Answer} {holds : Prop}
    (told : ∀ arguments, command.operation arguments later = .ok (later, answer) ↔ holds) :
    command.Answered answer later ↔ holds :=
  Transaction.answered_iff arguments told

theorem Command.refused_of (fails : ∀ arguments after answer, command.operation arguments later ≠ .ok (after, answer)) :
    command.Refused later :=
  Transaction.refused_of fails

omit [Sha256] in
theorem answering_iff {α : Type} {answer : α → Answer} (injective : Function.Injective answer)
    {result : Except DomainError (IssueTables × α)} {value : α} :
    answering answer result = .ok (later, answer value) ↔ result = .ok (later, value) :=
  map_ok_iff injective

section
variable {command : CreateIssue} {mutation : IssueMutationOutcome}

theorem creation_retold (success : SqliteProductLedger.createIssue command arguments before = .ok (committed, mutation))
    (wrote : committed ≠ before) (grows : Grows committed later) :
    (Command.createIssue command).Answered (.mutation mutation) later ↔
      (Command.createIssue command).Unrevised before later := by
  obtain ⟨same, _⟩ | ⟨_, recorded, _⟩ := createIssue_ok success
  · exact absurd same wrote
  refine Command.answered_iff arguments fun again => ?_
  exact (answering_iff fun _ _ => Answer.mutation.inj).trans ((recorded.replayed grows).trans (recorded.retold grows))

omit [Sha256] in
theorem creation_sole {other : CreateIssue} {again : Arguments} {after : IssueTables} {given : IssueMutationOutcome}
    (success : SqliteProductLedger.createIssue command arguments before = .ok (committed, mutation))
    (wrote : committed ≠ before) (grows : Grows committed later)
    (key : other.context.idempotencyId = command.context.idempotencyId)
    (another : SqliteProductLedger.createIssue other again later = .ok (after, given)) :
    (Command.createIssue other).request = (Command.createIssue command).request := by
  obtain ⟨same, _⟩ | ⟨_, recorded, _, claimed, _⟩ := createIssue_ok success
  · exact absurd same wrote
  obtain ⟨row, found, issue, title, details, classification⟩ := recorded.found
  obtain ⟨_, repeated⟩ | ⟨_, _, unclaimed, _⟩ := createIssue_ok another
  · obtain ⟨row', found', issue', title', details', classification'⟩ := repeated.found
    cases (key ▸ found').symm.trans (grows.creates _ _ found)
    simp only [Command.request, repeated.plain, recorded.plain, ← issue, ← title, ← details, ← classification,
      ← issue', ← title', ← details', ← classification']
  · cases (key ▸ unclaimed).symm.trans (grows.claims _ _ claimed)

end

section
variable {command other : ApproveAndExecuteIssueTransition} {outcome given : IssueMutationOutcome}

omit [Sha256] in
theorem approved_same {operation : IssueOperation} {kind : Option IssueH2aExecuteKind} {issueId : IssueId} {audit : AuditEvent}
    {row found : CommandExecuteRow}
    (recorded : ExecutionRecorded command.context operation kind command.approval issueId audit row later)
    (key : other.context.idempotencyId = command.context.idempotencyId)
    (held : later.commandExecutes.find other.context.idempotencyId = some found)
    (preparedId : found.preparedId = other.approval.preparedId) (actor : found.actor = other.approval.actor)
    (digest : found.acknowledgedDigest = other.approval.acknowledgedPayloadDigest) : other.request = command.request := by
  cases (key ▸ held).symm.trans recorded.found
  unfold ApproveAndExecuteIssueTransition.request
  rw [← preparedId, ← actor, ← digest, recorded.preparedId, recorded.actor, recorded.digest, command.approval.authorized]

omit [Sha256] in
theorem outcome_told {context : IssueOperationContext} {operation : IssueOperation} {kind : Option IssueH2aExecuteKind}
    {approval : WorkManagementApproval} {issueId : IssueId} {audit : AuditEvent} {row : CommandExecuteRow}
    (recorded : ExecutionRecorded context operation kind approval issueId audit row later)
    (audits : outcome.auditEvents = [audit]) (receipt : outcome.approvalReceiptId = some row.approvalReceiptId) :
    replayIssueExecuteOutcome context row later = .ok outcome ↔
      decodeIssueH2aRecord context later issueId = .ok outcome.record := by
  rw [recorded.told]
  constructor
  · rintro ⟨record, read, same⟩
    rw [same]
    exact read
  · intro read
    refine ⟨outcome.record, read, ?_⟩
    rw [← audits, ← receipt]

theorem transition_retold {kind : IssueH2aExecuteKind}
    (success : approveAndExecuteIssueH2a kind command arguments before = .ok (committed, outcome)) (wrote : committed ≠ before)
    (sound : SupportsSound before) (grows : Grows committed later) (again : Arguments) :
    answering .mutation (approveAndExecuteIssueH2a kind command again later) = .ok (later, .mutation outcome) ↔
      Quiet kind command.approval.preparedId before ∧ Unchanged command.approval.preparedId before later := by
  obtain ⟨same, _⟩ | ⟨intent, record, executed, _⟩ := approveAndExecuteIssueH2a_ok success
  · exact absurd same wrote
  obtain ⟨row, audit, audits, receipt, recorded⟩ := executed.recorded
  have recorded := recorded.grows grows
  rw [answering_iff fun _ _ => Answer.mutation.inj, recorded.replayed, outcome_told recorded audits receipt]
  exact executed.retold sound grows

theorem transition_sole {kind : IssueH2aExecuteKind} {again : Arguments} {after : IssueTables}
    (success : approveAndExecuteIssueH2a kind command arguments before = .ok (committed, outcome)) (wrote : committed ≠ before)
    (grows : Grows committed later) (key : other.context.idempotencyId = command.context.idempotencyId)
    (another : approveAndExecuteIssueH2a kind other again later = .ok (after, given)) : other.request = command.request := by
  obtain ⟨same, _⟩ | ⟨_, _, executed, _⟩ := approveAndExecuteIssueH2a_ok success
  · exact absurd same wrote
  obtain ⟨row, audit, _, _, recorded⟩ := executed.recorded
  have recorded := recorded.grows grows
  obtain ⟨_, row', held, _, preparedId, actor, digest⟩ | ⟨_, _, fresh, _⟩ := approveAndExecuteIssueH2a_ok another
  · exact approved_same recorded key held preparedId actor digest
  · cases (key ▸ fresh.unclaimed).symm.trans recorded.claimed

theorem lowering_retold
    (success : SqliteProductLedger.approveAndExecuteLowerIssueClassification command arguments before = .ok (committed, outcome))
    (wrote : committed ≠ before) (grows : Grows committed later) :
    (Command.approveAndExecuteLowerIssueClassification command).Answered (.mutation outcome) later ↔
      (Command.approveAndExecuteLowerIssueClassification command).Unrevised before later := by
  obtain ⟨same, _⟩ | ⟨intent, record, executed, _⟩ := approveAndExecuteLowerIssueClassification_ok success
  · exact absurd same wrote
  obtain ⟨row, audit, audits, receipt, recorded⟩ := executed.recorded
  have recorded := recorded.grows grows
  refine Command.answered_iff arguments fun again => (answering_iff fun _ _ => Answer.mutation.inj).trans ?_
  rw [recorded.lowering executed.bound, outcome_told recorded audits receipt]
  exact executed.retold grows

theorem lowering_sole {again : Arguments} {after : IssueTables}
    (success : SqliteProductLedger.approveAndExecuteLowerIssueClassification command arguments before = .ok (committed, outcome))
    (wrote : committed ≠ before) (grows : Grows committed later)
    (key : other.context.idempotencyId = command.context.idempotencyId)
    (another : SqliteProductLedger.approveAndExecuteLowerIssueClassification other again later = .ok (after, given)) :
    other.request = command.request := by
  obtain ⟨same, _⟩ | ⟨_, _, executed, _⟩ := approveAndExecuteLowerIssueClassification_ok success
  · exact absurd same wrote
  obtain ⟨row, audit, _, _, recorded⟩ := executed.recorded
  have recorded := recorded.grows grows
  obtain ⟨_, row', held, _, preparedId, actor, digest⟩ | ⟨_, _, fresh, _⟩ := approveAndExecuteLowerIssueClassification_ok another
  · exact approved_same recorded key held preparedId actor digest
  · cases (key ▸ fresh.unclaimed).symm.trans recorded.claimed

end

section
variable {command other : RejectIssuePreparedIntent} {rejected given : Actions.RejectedPreparedIntentOutcome}

theorem rejection_retold
    (success : SqliteProductLedger.rejectIssuePreparedIntent command arguments before = .ok (committed, rejected))
    (wrote : committed ≠ before) (grows : Grows committed later) (sound : Sound later) :
    (Command.rejectIssuePreparedIntent command).Answered (.rejected rejected) later ↔
      (Command.rejectIssuePreparedIntent command).Unrevised before later := by
  obtain ⟨same, _⟩ | ⟨row, intent, done, ⟨standing, stood⟩, _⟩ := rejectIssuePreparedIntent_ok success
  · exact absurd same wrote
  refine Command.answered_iff arguments fun again => (answering_iff fun _ _ => Answer.rejected.inj).trans ?_
  constructor
  · intro told
    obtain ⟨_, _, reread⟩ | ⟨_, _, fresh, _⟩ := rejectIssuePreparedIntent_ok told
    · exact reread.rebuilt sound
    · cases fresh.unclaimed.symm.trans (grows.claims _ _ done.claimed)
  · exact fun rebuilt => done.retold grows stood sound rebuilt

theorem rejection_sole {again : Arguments} {after : IssueTables}
    (success : SqliteProductLedger.rejectIssuePreparedIntent command arguments before = .ok (committed, rejected))
    (wrote : committed ≠ before) (grows : Grows committed later)
    (key : other.context.idempotencyId = command.context.idempotencyId)
    (another : SqliteProductLedger.rejectIssuePreparedIntent other again later = .ok (after, given)) :
    (Command.rejectIssuePreparedIntent other).request = (Command.rejectIssuePreparedIntent command).request := by
  obtain ⟨same, _⟩ | ⟨row, intent, done, _⟩ := rejectIssuePreparedIntent_ok success
  · exact absurd same wrote
  obtain ⟨named, preparedId, actor⟩ := done.asked
  have found := (done.recorded.grows grows).found
  obtain ⟨_, row', reread⟩ | ⟨_, _, fresh, _⟩ := rejectIssuePreparedIntent_ok another
  · have held := reread.found
    rw [key, ← named] at held
    cases held.symm.trans found
    simp only [Command.request, ← reread.asked.1, ← reread.asked.2, preparedId, actor]
  · cases (key ▸ fresh.unclaimed).symm.trans (grows.claims _ _ done.claimed)

end

theorem Command.retold {answer : Answer} (success : command.operation arguments before = .ok (committed, answer))
    (wrote : committed ≠ before) (asks : command.request.isSome = true) (sound : Sound before) (settled : Sound later)
    (grows : Grows committed later) : command.Answered answer later ↔ command.Unrevised before later := by
  cases command with
  | createIssue command =>
    obtain ⟨_, first, rfl⟩ := answering_ok.mp success
    exact creation_retold first wrote grows
  | prepareResolveIssue | prepareCloseIssue | prepareReopenIssue | prepareLowerIssueClassification => cases asks
  | approveAndExecuteResolveIssue command =>
    obtain ⟨_, first, rfl⟩ := answering_ok.mp success
    exact Command.answered_iff arguments (transition_retold first wrote sound.supports grows)
  | approveAndExecuteCloseIssue command =>
    obtain ⟨_, first, rfl⟩ := answering_ok.mp success
    exact Command.answered_iff arguments (transition_retold first wrote sound.supports grows)
  | approveAndExecuteReopenIssue command =>
    obtain ⟨_, first, rfl⟩ := answering_ok.mp success
    exact Command.answered_iff arguments (transition_retold first wrote sound.supports grows)
  | approveAndExecuteLowerIssueClassification command =>
    obtain ⟨_, first, rfl⟩ := answering_ok.mp success
    exact lowering_retold first wrote grows
  | rejectIssuePreparedIntent command =>
    obtain ⟨_, first, rfl⟩ := answering_ok.mp success
    exact rejection_retold first wrote grows settled

theorem Command.sole {command other : Command} {answer given : Answer} {again : Arguments} {after : IssueTables}
    (success : command.operation arguments before = .ok (committed, answer)) (wrote : committed ≠ before)
    (asks : command.request.isSome = true) (grows : Grows committed later)
    (key : other.context.idempotencyId = command.context.idempotencyId) (alike : other.kind = command.kind)
    (another : other.operation again later = .ok (after, given)) : other.request = command.request := by
  cases command with
  | prepareResolveIssue | prepareCloseIssue | prepareReopenIssue | prepareLowerIssueClassification => cases asks
  | createIssue command =>
    cases other <;> cases alike
    obtain ⟨_, first, _⟩ := answering_ok.mp success
    obtain ⟨_, second, _⟩ := answering_ok.mp another
    exact creation_sole first wrote grows key second
  | approveAndExecuteResolveIssue command =>
    cases other <;> cases alike
    obtain ⟨_, first, _⟩ := answering_ok.mp success
    obtain ⟨_, second, _⟩ := answering_ok.mp another
    exact congrArg some (transition_sole first wrote grows key second)
  | approveAndExecuteCloseIssue command =>
    cases other <;> cases alike
    obtain ⟨_, first, _⟩ := answering_ok.mp success
    obtain ⟨_, second, _⟩ := answering_ok.mp another
    exact congrArg some (transition_sole first wrote grows key second)
  | approveAndExecuteReopenIssue command =>
    cases other <;> cases alike
    obtain ⟨_, first, _⟩ := answering_ok.mp success
    obtain ⟨_, second, _⟩ := answering_ok.mp another
    exact congrArg some (transition_sole first wrote grows key second)
  | approveAndExecuteLowerIssueClassification command =>
    cases other <;> cases alike
    obtain ⟨_, first, _⟩ := answering_ok.mp success
    obtain ⟨_, second, _⟩ := answering_ok.mp another
    exact congrArg some (lowering_sole first wrote grows key second)
  | rejectIssuePreparedIntent command =>
    cases other <;> cases alike
    obtain ⟨_, first, _⟩ := answering_ok.mp success
    obtain ⟨_, second, _⟩ := answering_ok.mp another
    exact rejection_sole first wrote grows key second

/-- However the Ledger goes on after a command that committed, the command is answered as it was at
first just under its condition on the Issue, and whatever else of its operation is issued under its
key fails. -/
theorem issue_retried {command : Command} {answer : Answer} {earlier following : List (Command × Arguments)}
    (reached : Evolves Moves .empty earlier before)
    (success : command.operation arguments before = .ok (committed, answer)) (wrote : committed ≠ before)
    (asks : command.request.isSome = true) (onwards : Evolves Moves committed following later) :
    Settled command answer before later := by
  have grows : Grows committed later := Moves.run onwards
  have sound : Sound before := sound_reached reached
  have moved : Moves (command, arguments) before committed := ⟨answer, success⟩
  have settled : Sound later :=
    onwards.invariant Sound (fun _ _ _ moves => moves.keeps.2) (moved.keeps.2 sound)
  exact {
    answered := Command.retold success wrote asks sound settled grows
    refused := fun _ key alike differs => Command.refused_of fun _ _ _ another =>
      differs (Command.sole success wrote asks grows key alike another) }

end

def Command.after [Sha256] (command : Command) (arguments : Arguments) (tables : IssueTables) : IssueTables :=
  (Transaction.run true (fun tables => command.operation arguments tables) tables).1

theorem Command.after_ok [Sha256] (command : Command) (arguments : Arguments) (tables : IssueTables)
    (succeeds : (command.operation arguments tables).isOk = true) :
    ∃ answer, command.operation arguments tables = .ok (command.after arguments tables, answer) :=
  @run_success _ _ _ (fun tables => command.operation arguments tables) tables succeeds

theorem ledger_differs {tables other : IssueTables} (revised : tables.ledgerRevision ≠ other.ledgerRevision) :
    tables ≠ other := fun same => revised (congrArg IssueTables.ledgerRevision same)

namespace Revising

scoped instance : Sha256 where
  finalize _ := ⟨"5d2fbbb07c6e3a2cdd6a1f1b0c1df2f3a7cf0ffb0a0ee9f0d6f6a1a6d8f7c411", .refl true⟩

def instant (seconds : UInt8) : UtcTimestamp := ⟨seconds.toNat, UtcTimestamp.byte_lower seconds, UtcTimestamp.byte_upper seconds⟩

def issue : IssueId := ⟨"issue-1", by decide⟩

def context (idempotencyId : IdempotencyId) : IssueOperationContext := ⟨idempotencyId, ⟨"correlation-1", .refl true⟩⟩

def arguments (auditEventId : AuditEventId) (occurredAt : UtcTimestamp) : Arguments where
  auditEventId
  approvalReceiptId := ⟨"receipt-1", .refl true⟩
  occurredAt
  authorize _ := true
  currentPolicy _ := .allowed
  resolve _ _ := .error .unavailable
  currentClassification _ recorded := .ok recorded

def creating : Command := .createIssue
  ⟨issue, ⟨"Outage", .refl true⟩, ⟨"The service is down.", .refl true⟩, .restricted, none, context ⟨"create-1", .refl true⟩⟩

def preview : WorkManagementPreparedIntent :=
  (WorkManagementPreparedIntent.prepare ⟨"intent-1", .refl true⟩
    (.lowerIssueClassification issue .initial .restricted .internal ⟨"Published.", .refl true⟩) .restricted none
    (instant 20)).toOption.get (by decide +kernel)

def preparing : Command := .prepareLowerIssueClassification
  ⟨issue, .initial, .internal, ⟨"Published.", .refl true⟩, context ⟨"prepare-1", .refl true⟩⟩ preview

def approving : Command := .approveAndExecuteLowerIssueClassification
  ⟨⟨preview.id, .headOfProducts, preview.payloadDigest, ⟨"execute-1", by decide⟩, rfl⟩, context ⟨"execute-1", by decide⟩⟩

def created : IssueTables := creating.after (arguments ⟨"audit-1", .refl true⟩ (instant 10)) .empty
def previewed : IssueTables := preparing.after (arguments ⟨"audit-2", .refl true⟩ (instant 20)) created
def lowered : IssueTables := approving.after (arguments ⟨"audit-3", .refl true⟩ (instant 30)) previewed

end Revising

open Revising

/-- A creation is told while the lowering of its Issue is only previewed. -/
theorem creation_told : ∃ answer,
    creating.operation (arguments ⟨"audit-1", by decide⟩ (instant 10)) IssueTables.empty = .ok (created, answer) ∧
      creating.Answered answer previewed := by
  obtain ⟨answer, success⟩ := Command.after_ok creating (arguments ⟨"audit-1", by decide⟩ (instant 10)) .empty
    (by decide +kernel)
  have prepare := Command.after_ok preparing (arguments ⟨"audit-2", by decide⟩ (instant 20)) created (by decide +kernel)
  have onwards : Evolves Moves created [(preparing, arguments ⟨"audit-2", by decide⟩ (instant 20))] previewed :=
    .move _ .start prepare
  refine ⟨answer, success, (issue_retried .start success (ledger_differs (by decide +kernel)) rfl onwards).answered.mpr ?_⟩
  have first : ((previewed.aggregate issue).all fun registered => registered.version = .initial) = true := by decide +kernel
  intro registered aggregate
  have aggregate : previewed.aggregate issue = some registered := aggregate
  rw [aggregate] at first
  exact of_decide_eq_true first

/-- Once the Issue was lowered, its creation is not told any more. -/
theorem creation_forgotten : ∃ answer,
    creating.operation (arguments ⟨"audit-1", by decide⟩ (instant 10)) IssueTables.empty = .ok (created, answer) ∧
      Evolves Moves created [(preparing, arguments ⟨"audit-2", by decide⟩ (instant 20)),
        (approving, arguments ⟨"audit-3", by decide⟩ (instant 30))] lowered ∧ ¬ creating.Answered answer lowered := by
  obtain ⟨answer, success⟩ := Command.after_ok creating (arguments ⟨"audit-1", by decide⟩ (instant 10)) .empty
    (by decide +kernel)
  have prepare := Command.after_ok preparing (arguments ⟨"audit-2", by decide⟩ (instant 20)) created (by decide +kernel)
  have approve := Command.after_ok approving (arguments ⟨"audit-3", by decide⟩ (instant 30)) previewed (by decide +kernel)
  have onwards : Evolves Moves created [(preparing, arguments ⟨"audit-2", by decide⟩ (instant 20)),
      (approving, arguments ⟨"audit-3", by decide⟩ (instant 30))] lowered := .move _ (.move _ .start prepare) approve
  refine ⟨answer, success, onwards, fun answered => ?_⟩
  obtain ⟨_, first, rfl⟩ := answering_ok.mp success
  have unrevised := (creation_retold first (ledger_differs (by decide +kernel)) (Moves.run onwards)).mp answered
  have second : ((lowered.aggregate issue).any fun registered => registered.version ≠ .initial) = true := by decide +kernel
  obtain ⟨registered, aggregate, differs⟩ := (Option.any_eq_true _ _).mp second
  exact of_decide_eq_true differs (unrevised registered aggregate)

end MissionControl.Issues

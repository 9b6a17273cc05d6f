import MissionControl.Issues.Writes

/-! What an executed preview leaves in the tables, and how it is read back. -/

namespace MissionControl.Issues
open Checked Staging
open Evidence (RegistryRow fitsInteger)

def approvedAudit (id : AuditEventId) (occurredAt : UtcTimestamp) (code : AuditEventCode) (target : IssueId)
    (context : IssueOperationContext) : AuditEvent :=
  .new id occurredAt .headOfProducts ⟨.workManagement, code, .issue target⟩ context.correlationId
    ⟨.allowed, .approved, .succeeded, .complete, [code], rfl⟩

structure ExecutionRecorded (context : IssueOperationContext) (operation : IssueOperation)
    (kind : Option IssueH2aExecuteKind) (approval : WorkManagementApproval) (issueId : IssueId) (audit : AuditEvent)
    (row : CommandExecuteRow) (tables : IssueTables) : Prop where
  claimed : tables.idempotencyClaims.find context.idempotencyId = some ⟨context.idempotencyId, operation⟩
  found : tables.commandExecutes.find context.idempotencyId = some row
  kind : row.kind = kind
  issue : row.issueId = issueId
  preparedId : row.preparedId = approval.preparedId
  actor : row.actor = .headOfProducts
  digest : row.acknowledgedDigest = approval.acknowledgedPayloadDigest
  audited : ∀ other, decodeReplayAudit other tables row.auditEventId = .ok audit

section
variable {context : IssueOperationContext} {operation : IssueOperation} {kind : Option IssueH2aExecuteKind}
  {approval : WorkManagementApproval} {issueId : IssueId} {audit : AuditEvent} {row : CommandExecuteRow}
  {before after : IssueTables}

theorem decodeReplayAudit_kept {id : AuditEventId}
    (kept : ∀ id row, before.auditEvents.find id = some row → after.auditEvents.find id = some row)
    (told : decodeReplayAudit context before id = .ok audit) : decodeReplayAudit context after id = .ok audit := by
  obtain ⟨row, found, told⟩ := bind_ok.mp told
  exact bind_ok.mpr ⟨row, require_ok.mpr (kept id row (require_ok.mp found)), told⟩

theorem ExecutionRecorded.grows (recorded : ExecutionRecorded context operation kind approval issueId audit row before)
    (grows : Grows before after) : ExecutionRecorded context operation kind approval issueId audit row after :=
  { recorded with
    claimed := grows.claims _ _ recorded.claimed
    found := grows.executes _ _ recorded.found
    audited := fun other => decodeReplayAudit_kept grows.audits (recorded.audited other) }

theorem persistExecution_ok {outcome : IssueMutationOutcome} {auditId : AuditEventId} {occurredAt : UtcTimestamp}
    {code : AuditEventCode} {approvalReceiptId : ApprovalReceiptId} {operationOrdinal : Nat}
    (success : persistExecution context operation kind approval outcome
      (approvedAudit auditId occurredAt code outcome.record.id context) approvalReceiptId operationOrdinal before = .ok after) :
    Grows before after ∧ before.idempotencyClaims.find context.idempotencyId = none ∧
      ∃ row, ExecutionRecorded context operation kind approval outcome.record.id
          (approvedAudit auditId occurredAt code outcome.record.id context) row after ∧
        row.approvalReceiptId = approvalReceiptId ∧
        after = { before with
          auditEvents := after.auditEvents
          preparedIntents := after.preparedIntents
          approvalReceipts := after.approvalReceipts
          idempotencyClaims := after.idempotencyClaims
          commandExecutes := after.commandExecutes } ∧ Consumes approval.preparedId before after := by
  obtain ⟨audited, inserted, success⟩ := bind_ok.mp success
  obtain ⟨grows, recorded, same⟩ := insertAudit_ok inserted
  obtain ⟨_, _, success⟩ := bind_ok.mp success
  obtain ⟨intent, pending, success⟩ := bind_ok.mp success
  obtain ⟨_, _, success⟩ := bind_ok.mp success
  obtain ⟨_, _, success⟩ := bind_ok.mp success
  obtain ⟨approvalReceipts, _, success⟩ := bind_ok.mp success
  obtain ⟨claimed, claim, success⟩ := bind_ok.mp success
  obtain ⟨claims, found, unclaimed, same'⟩ := claimIdempotency_ok claim
  obtain ⟨commandExecutes, executed, success⟩ := bind_ok.mp success
  cases pure_ok.mp success
  have executed := require_ok.mp executed
  have consumed : Grows audited { audited with
      preparedIntents := audited.preparedIntents.update approval.preparedId fun row =>
        { row with consumedAt := row.consumedAt.or (some occurredAt) }
      approvalReceipts } :=
    { Grows.refl audited with
      intents := consume_keeps (fun row => { row with consumedAt := row.consumedAt.or (some occurredAt) }) (fun _ => rfl) rfl
        fun row _ => ⟨rfl, fun _ there => by cases row; cases there; rfl⟩
      advances := .of_same fun _ => ⟨rfl, fun _ => rfl, rfl, rfl⟩ }
  have kept : Grows claimed { claimed with commandExecutes } :=
    { Grows.refl claimed with
      executes := fun _ _ => Relation.find_insert_kept executed
      advances := .of_same fun _ => ⟨rfl, fun _ => rfl, rfl, rfl⟩ }
  refine ⟨grows.trans (consumed.trans (claims.trans kept)), by rw [same] at unclaimed; exact unclaimed, _,
    ⟨found, Relation.find_inserted executed, rfl, rfl, rfl, rfl, rfl, fun other => ?_⟩, rfl, ?_, ?_⟩
  · have found := (consumed.trans (claims.trans kept)).audits _ _ recorded
    exact bind_ok.mpr ⟨_, require_ok.mpr found, rfl⟩
  · rw [same', same]
  · rw [same', same]
    refine ⟨rfl, rfl, fun row => { row with consumedAt := row.consumedAt.or (some occurredAt) }, fun _ => rfl, rfl,
      fun row => ⟨?_, rfl⟩⟩
    cases row.consumedAt <;> simp

end

section
variable {context other : IssueOperationContext} {before after tables : IssueTables} {id : IssueId}

def recordOf (tables : IssueTables) (id : IssueId) (registered : RegistryRow) (issue : IssueRow)
    (supportHistory : List SupportWitness) : IssueRecord where
  id
  sourceRiskId := none
  recurrenceOf := none
  title := issue.title
  details := issue.details
  classification := registered.classification
  state := issue.state
  resolutionType := issue.resolutionType
  resolutionRationale := issue.resolutionRationale
  resolutionEvidence := tables.evidenceOf id .issueResolution
  closureVerificationEvidence := tables.evidenceOf id .issueClosureVerification
  failedVerificationEvidence := tables.evidenceOf id .issueFailedVerification
  reopenRationales := (tables.reopensOf id).map IssueReopenRow.rationale
  supportHistory
  version := registered.version

def Supports (context : IssueOperationContext) (tables : IssueTables) (rows : List IssueSupportRow)
    (supports : List SupportWitness) : Prop :=
  List.Forall₂ (fun row support => decodeIssueSupportHistoryEntry context tables row.support = .ok support) rows supports

theorem decodeIssueH2aRecord_ok {record : IssueRecord} : decodeIssueH2aRecord context tables id = .ok record ↔
    ∃ registered issue supports, tables.standing id = some (registered, issue) ∧
      Supports context tables (tables.supportsOf id) supports ∧ registered.classification ≠ .unclassified ∧
      record = recordOf tables id registered issue supports := by
  constructor
  · intro success
    obtain ⟨⟨registered, issue⟩, stands, success⟩ := bind_ok.mp success
    obtain ⟨supports, read, success⟩ := bind_ok.mp success
    obtain ⟨_, classified, success⟩ := bind_ok.mp success
    exact ⟨registered, issue, supports, require_ok.mp stands, mapM_ok.mp read, ensure_ok.mp classified,
      (pure_ok.mp success).symm⟩
  · rintro ⟨registered, issue, supports, stands, read, classified, rfl⟩
    refine bind_ok.mpr ⟨(registered, issue), require_ok.mpr stands, ?_⟩
    exact bind_ok.mpr ⟨supports, mapM_ok.mpr read, bind_ok.mpr ⟨(), ensure_ok.mpr classified, rfl⟩⟩

variable {preparedId : PreparedIntentId} {support : SupportWitness}

theorem decodeIssueH2aSupport_kept {role : EvidenceRole} (grows : Grows before after)
    (read : decodeIssueH2aSupport context before preparedId role = .ok support) :
    decodeIssueH2aSupport other after preparedId role = .ok support := by
  obtain ⟨row, found, read⟩ := bind_ok.mp read
  obtain ⟨_, roles, read⟩ := bind_ok.mp read
  obtain ⟨offered, made, read⟩ := bind_ok.mp read
  refine bind_ok.mpr ⟨row, require_ok.mpr (grows.supports _ _ (require_ok.mp found)), ?_⟩
  refine bind_ok.mpr ⟨(), ensure_ok.mpr (ensure_ok.mp roles), bind_ok.mpr ⟨offered, ?_, ?_⟩⟩
  · exact relabel_ok.mpr (relabel_ok.mp made)
  · exact relabel_ok.mpr (relabel_ok.mp read)

theorem decodeIssueSupportHistoryEntry_ok :
    decodeIssueSupportHistoryEntry context tables preparedId = .ok support ↔
      ∃ intent kind header, tables.preparedIntents.find preparedId = some intent ∧ intent.kind = some kind ∧
        decodeIssueH2aSupport context tables preparedId kind.evidenceRole = .ok support ∧
        tables.supports.find preparedId = some header ∧
        header.disposition = support.disposition ∧ header.classification = support.classification := by
  constructor
  · intro read
    obtain ⟨intent, found, read⟩ := bind_ok.mp read
    obtain ⟨kind, named, read⟩ := bind_ok.mp read
    obtain ⟨witness, decoded, read⟩ := bind_ok.mp read
    obtain ⟨header, headed, read⟩ := bind_ok.mp read
    obtain ⟨_, agrees, read⟩ := bind_ok.mp read
    cases pure_ok.mp read
    have agrees := ensure_ok.mp agrees
    exact ⟨intent, kind, header, require_ok.mp found, require_ok.mp named, decoded, require_ok.mp headed, agrees⟩
  · intro ⟨intent, kind, header, found, named, decoded, headed, agrees⟩
    refine bind_ok.mpr ⟨intent, require_ok.mpr found, bind_ok.mpr ⟨kind, require_ok.mpr named, ?_⟩⟩
    refine bind_ok.mpr ⟨support, decoded, bind_ok.mpr ⟨header, require_ok.mpr headed, ?_⟩⟩
    exact bind_ok.mpr ⟨(), ensure_ok.mpr agrees, rfl⟩

theorem decodeIssueSupportHistoryEntry_kept (grows : Grows before after)
    (read : decodeIssueSupportHistoryEntry context before preparedId = .ok support) :
    decodeIssueSupportHistoryEntry other after preparedId = .ok support := by
  obtain ⟨intent, kind, header, found, named, decoded, headed, agrees⟩ := decodeIssueSupportHistoryEntry_ok.mp read
  obtain ⟨later, found', same, _⟩ := grows.intents _ _ found
  refine decodeIssueSupportHistoryEntry_ok.mpr ⟨later, kind, header, found', ?_, decodeIssueH2aSupport_kept grows decoded,
    grows.supports _ _ headed, agrees⟩
  rw [← named, ← same]

theorem Supports.kept {rows : List IssueSupportRow} {supports : List SupportWitness} (grows : Grows before after)
    (read : Supports context before rows supports) : Supports other after rows supports :=
  read.imp fun _ _ read => decodeIssueSupportHistoryEntry_kept grows read

theorem recordOf_same {registered : RegistryRow} {issue : IssueRow} {supports : List SupportWitness}
    (same : SameIssue id before after) : recordOf after id registered issue supports = recordOf before id registered issue supports := by
  unfold recordOf
  rw [same.evidence, same.evidence, same.evidence, same.reopens]

theorem decodeIssueH2aRecord_kept {record : IssueRecord} (grows : Grows before after) (same : SameIssue id before after)
    (read : decodeIssueH2aRecord context before id = .ok record) : decodeIssueH2aRecord other after id = .ok record := by
  obtain ⟨registered, issue, supports, stands, history, classified, rfl⟩ := decodeIssueH2aRecord_ok.mp read
  refine decodeIssueH2aRecord_ok.mpr ⟨registered, issue, supports, same.standing.trans stands, ?_, classified,
    (recordOf_same same).symm⟩
  rw [same.supports]
  exact history.kept grows

end

section
variable {State Outcome ε : Type}

theorem settle_outcome {failure : ε} {service : Committing State} {decided : Except ε (Staged State Outcome)}
    {outcome : Outcome} (settled : (settle failure service decided).2 = .ok outcome) :
    ∃ staged, decided = .ok staged ∧ staged.outcome = outcome := by
  unfold settle at settled
  split at settled
  · cases settled
  · cases settled; exact ⟨_, rfl, rfl⟩
  · cases settled; exact ⟨_, rfl, rfl⟩
  · split at settled
    · cases settled
    · cases settled; exact ⟨_, rfl, rfl⟩

variable {ports : Ports} {context : IssueOperationContext} {id : IssueId}

theorem makeAudit_approved {failure : ε} {code : String} {event : AuditEvent}
    (made : makeAudit failure ports id code context true true = .ok event) :
    ∃ auditId effect, event = approvedAudit auditId (ports.now .audit) effect id context := by
  obtain ⟨auditId, _, made⟩ := bind_ok.mp made
  obtain ⟨effect, _, made⟩ := bind_ok.mp made
  obtain ⟨disposition, admitted, made⟩ := bind_ok.mp made
  cases pure_ok.mp made
  cases (relabel_ok.mp admitted : Except.ok (⟨.allowed, .approved, .succeeded, .complete, [effect], rfl⟩ : AuditDisposition) = _)
  exact ⟨auditId, effect, rfl⟩

section
variable [Sha256]

theorem mint_previewed {intent : WorkManagementPreparedIntent} {approval : WorkManagementApproval}
    {operation : WorkManagementOperation} {classification : DataClassification} {support : Option SupportWitness}
    {fresh : WorkManagementPreparedIntent} {receipt : WorkManagementApprovalReceipt}
    (success : mint ports intent approval operation classification support = .ok (fresh, receipt)) :
    fresh.preview.classification = intent.preview.classification ∧ support = intent.preview.support ∧
      ports.nextApprovalReceiptId = some receipt.id := by
  simp only [mint, bind_ok, relabel_ok, require_ok, pure_ok] at success
  obtain ⟨_, prepared, receiptId, drawn, _, minted, same⟩ := success
  cases same
  obtain ⟨approved, named⟩ := validateAndMint_ok minted
  have unchanged := approved.unchanged
  simp only [expectedSnapshot, WorkManagementAuthoritativeSnapshot.mk.injEq] at unchanged
  exact ⟨unchanged.2.1, unchanged.2.2.2.1, named ▸ drawn⟩

end

structure Carried (record : IssueRecord) (prepared : WorkManagementPreparedIntent) (ports : Ports)
    (command : ApproveAndExecuteIssueTransition) (outcome : IssueMutationOutcome) : Prop where
  named : command.approval.preparedId = prepared.id
  bound : command.approval.idempotencyId = command.context.idempotencyId
  receipt : outcome.approvalReceiptId = ports.nextApprovalReceiptId
  audit : ∃ auditId code, outcome.auditEvents = [approvedAudit auditId (ports.now .audit) code record.id command.context]

theorem rehydrate_prepared {record : IssueRecord} {prepared intent : WorkManagementPreparedIntent}
    {rejections : List IssueH2aRejectionReplay} {preparedId : PreparedIntentId}
    (found : (rehydrate record (some prepared) rejections).state.own.prepared[preparedId]? = some intent) :
    preparedId = prepared.id ∧ intent = prepared := by
  unfold rehydrate at found
  simp only [Option.elim_some, KeyMap.get_insert] at found
  split at found
  next same => exact ⟨same.symm, (Option.some.inj found).symm⟩
  · rw [KeyMap.get_empty] at found; cases found

theorem rehydrate_issue {record current : IssueRecord} {prepared : Option WorkManagementPreparedIntent}
    {rejections : List IssueH2aRejectionReplay} {issueId : IssueId}
    (found : (rehydrate record prepared rejections).state.authority.get issueId = some current) :
    record.id = issueId ∧ current = record := by
  unfold rehydrate at found
  simp only [IssueStore.get_insertFromRisk] at found
  split at found
  next same => exact ⟨same, (Option.some.inj found).symm⟩
  · rw [IssueStore.get_empty] at found; cases found

/-- What a throwaway service remembers of a rejection. -/
def IssueH2aRejectionReplay.answer (rejection : IssueH2aRejectionReplay) : Identity × Stored :=
  (.rejectPrepared rejection.prepared.id .headOfProducts, .rejected rejection.outcome)

theorem rehydrate_answers {record : IssueRecord} {prepared : Option WorkManagementPreparedIntent}
    {rejections : List IssueH2aRejectionReplay} {key : IdempotencyId} {answer : Identity × Stored}
    (found : (rehydrate record prepared rejections).state.own.idem[key]? = some answer) :
    ∃ rejection ∈ rejections, rejection.context.idempotencyId = key ∧ rejection.answer = answer := by
  have answered : ∀ idem : KeyMap IdempotencyId (Identity × Stored),
      (rejections.foldl (fun idem rejection => idem.insert rejection.context.idempotencyId rejection.answer) idem)[key]? =
        some answer → idem[key]? = some answer ∨
      ∃ rejection ∈ rejections, rejection.context.idempotencyId = key ∧ rejection.answer = answer := by
    clear found
    induction rejections with
    | nil => exact fun _ found => .inl found
    | cons first rest following =>
      intro idem found
      obtain earlier | ⟨rejection, listed, known⟩ := following _ found
      · rw [KeyMap.get_insert] at earlier
        split at earlier
        next same => exact .inr ⟨first, List.mem_cons_self, same, Option.some.inj earlier⟩
        · exact .inl earlier
      · exact .inr ⟨rejection, List.mem_cons_of_mem _ listed, known⟩
  obtain empty | known := answered ∅ found
  · rw [KeyMap.get_empty] at empty
    cases empty
  · exact known

theorem settleApproval_outcome {service : Service} {command : ApproveAndExecuteIssueTransition}
    {decided : Except Failure (Staged Issues.State IssueMutationOutcome)} {outcome : IssueMutationOutcome}
    (settled : (settleApproval service ports command decided).2 = .ok outcome) :
    ∃ staged, decided = .ok staged ∧ staged.outcome = outcome := by
  unfold settleApproval at settled
  split at settled
  next answered =>
    cases settled
    exact settle_outcome (congrArg Prod.snd answered)
  · unfold failed at settled
    split at settled <;> cases settled

variable [Sha256] {record : IssueRecord} {prepared : WorkManagementPreparedIntent} {rejections : List IssueH2aRejectionReplay}
  {command : ApproveAndExecuteIssueTransition} {outcome : IssueMutationOutcome}

theorem executeTransition_ok {kind : IssueH2aExecuteKind}
    (success : (kind.execute (rehydrate record (some prepared) rejections) ports command).2 = .ok outcome) :
    Carried record prepared ports command outcome ∧ ∃ transition support later code,
      issueTransition prepared.operation = some transition ∧ prepared.preview.support = some support ∧
        record.version.next = some later ∧
        transitioned prepared.operation (support.evidence.map (·.id))
          { record with
            state := transition.next
            classification := prepared.preview.classification
            version := later
            supportHistory := record.supportHistory ++ [support] } = .ok (outcome.record, code) := by
  have only : ∃ expected, kind.execute = approveAndExecuteOnly expected := by
    cases kind
    · exact ⟨_, rfl⟩
    · exact ⟨_, rfl⟩
    · exact ⟨_, rfl⟩
  obtain ⟨expected, same⟩ := only
  rw [same] at success
  unfold approveAndExecuteOnly at success
  split at success
  case isFalse => cases success
  obtain ⟨staged, decided, rfl⟩ := settleApproval_outcome success
  simp only [execute, bind_ok, ensure_ok] at decided
  obtain ⟨_, bound, decided⟩ := decided
  rcases orReplay_ok decided with ⟨stored, _, replayed, picked, _⟩ | ⟨_, _, _, decided⟩
  · obtain ⟨none, _⟩ | ⟨answer, same, found⟩ := replay_ok replayed
    · cases none
    · obtain ⟨rejection, _, _, told⟩ := rehydrate_answers found
      cases same
      cases told
  simp only [bind_ok, ensure_ok, require_ok, relabel_ok, pure_ok] at decided
  obtain ⟨intent, pending, transition, targeted, before, found, _, _, shown, supported, offered, _, authoritative, _, _, _, _,
    _, ⟨fresh, receipt⟩, minted, later, advances, ⟨after, code⟩, moved, event, made, rfl⟩ := decided
  obtain ⟨named, rfl⟩ := rehydrate_prepared pending
  obtain ⟨identified, rfl⟩ := rehydrate_issue found
  obtain ⟨classified, witnessed, drawn⟩ := mint_previewed minted
  cases witnessed.trans supported
  obtain ⟨auditId, effect, rfl⟩ := makeAudit_approved made
  refine ⟨⟨named, bound, drawn.symm, auditId, effect, by rw [identified]; rfl⟩, transition, shown, later, code, targeted,
    supported, advances, ?_⟩
  rw [← classified]
  exact moved

theorem executeLowering_ok
    (success : (Issues.approveAndExecuteLowerIssueClassification (rehydrate record (some prepared) rejections) ports
      command).2 = .ok outcome) :
    Carried record prepared ports command outcome ∧ ∃ target later, loweringTarget prepared.operation = some target ∧
      record.version.next = some later ∧
      outcome.record = { record with classification := target.proposedClassification, version := later } := by
  obtain ⟨staged, decided, rfl⟩ := settleApproval_outcome success
  simp only [executeLowerIssueClassification, bind_ok, ensure_ok] at decided
  obtain ⟨_, bound, decided⟩ := decided
  rcases orReplay_ok decided with ⟨stored, _, replayed, picked, _⟩ | ⟨_, _, _, decided⟩
  · obtain ⟨none, _⟩ | ⟨answer, same, found⟩ := replay_ok replayed
    · cases none
    · obtain ⟨rejection, _, _, told⟩ := rehydrate_answers found
      cases same
      cases told
  simp only [bind_ok, ensure_ok, require_ok, relabel_ok, pure_ok] at decided
  obtain ⟨intent, pending, target, targeted, before, found, _, _, authoritative, _, _, _, _, _, ⟨fresh, receipt⟩, minted,
    later, advances, event, made, rfl⟩ := decided
  obtain ⟨named, rfl⟩ := rehydrate_prepared pending
  obtain ⟨identified, rfl⟩ := rehydrate_issue found
  obtain ⟨_, _, drawn⟩ := mint_previewed minted
  obtain ⟨auditId, effect, rfl⟩ := makeAudit_approved made
  exact ⟨⟨named, bound, drawn.symm, auditId, effect, by rw [identified]; rfl⟩, target, later, targeted, advances, rfl⟩

end

/-- What a transition writes of the Issue. -/
structure Written (kind : IssueH2aExecuteKind) (record : IssueRecord) (preparedId : PreparedIntentId)
    (occurredAt : UtcTimestamp) (support : SupportRow) (before after : IssueTables) : Prop where
  shown : before.supports.find preparedId = some support
  aggregate : ∀ other, after.aggregate other = if other = record.id then
      (before.aggregate record.id).map fun row => { row with version := record.version, updatedAt := occurredAt }
    else before.aggregate other
  issues : after.issues = before.issues.update record.id fun row =>
    { row with
      state := record.state
      resolutionType := record.resolutionType
      resolutionRationale := record.resolutionRationale }
  evidence : after.issueEvidence = (if kind = .reopen then before else before.clearEvidence record.id kind.evidenceRole).issueEvidence ++
    (support.evidence.map (·.id)).map fun evidenceId => ⟨record.id, evidenceId, kind.evidenceRole⟩
  reopens : kind ≠ .reopen → after.reopenHistory = before.reopenHistory
  reopened : kind = .reopen → ∃ rationale, record.reopenRationales.getLast? = some rationale ∧
    after.reopenHistory = before.reopenHistory ++ [⟨record.id, before.nextReopen record.id, rationale, occurredAt⟩]
  supports : after.supportHistory = before.supportHistory ++ [⟨record.id, before.nextSupport record.id, preparedId⟩]

section
variable {context : IssueOperationContext} {approval : WorkManagementApproval} {outcome : IssueMutationOutcome}
  {auditId : AuditEventId} {occurredAt : UtcTimestamp} {code : AuditEventCode} {approvalReceiptId : ApprovalReceiptId}
  {operationOrdinal : Nat} {before after : IssueTables}

theorem insertReopen_ok {kind : IssueH2aExecuteKind} {record : IssueRecord}
    (success : insertReopen context kind record occurredAt before = .ok after) :
    (kind ≠ .reopen → after.reopenHistory = before.reopenHistory) ∧
      (kind = .reopen → ∃ rationale, record.reopenRationales.getLast? = some rationale ∧
        after.reopenHistory = before.reopenHistory ++ [⟨record.id, before.nextReopen record.id, rationale, occurredAt⟩]) ∧
      after = { before with reopenHistory := after.reopenHistory } := by
  unfold insertReopen at success
  split at success
  next reopens =>
    obtain ⟨rationale, last, success⟩ := bind_ok.mp success
    cases pure_ok.mp success
    exact ⟨fun never => absurd reopens never, fun _ => ⟨rationale, require_ok.mp last, rfl⟩, rfl⟩
  next never =>
    cases pure_ok.mp success
    exact ⟨fun _ => rfl, fun reopens => absurd reopens never, rfl⟩

theorem persistIssueExecuteBundle_ok {kind : IssueH2aExecuteKind}
    (audits : outcome.auditEvents = [approvedAudit auditId occurredAt code outcome.record.id context])
    (receipt : outcome.approvalReceiptId = some approvalReceiptId)
    (success : persistIssueExecuteBundle context kind approval outcome operationOrdinal before = .ok after) :
    ∃ middle support, Written kind outcome.record approval.preparedId occurredAt support before middle ∧
      middle = { before with
        registry := middle.registry
        issues := middle.issues
        issueEvidence := middle.issueEvidence
        reopenHistory := middle.reopenHistory
        supportHistory := middle.supportHistory } ∧
      persistExecution context (.execute kind) (some kind) approval outcome
        (approvedAudit auditId occurredAt code outcome.record.id context) approvalReceiptId operationOrdinal middle = .ok after := by
  obtain ⟨audit, head, success⟩ := bind_ok.mp success
  obtain ⟨receiptId, drawn, success⟩ := bind_ok.mp success
  rw [audits] at head
  cases require_ok.mp head
  cases receipt.symm.trans (require_ok.mp drawn)
  obtain ⟨revised, wrote, success⟩ := bind_ok.mp success
  obtain ⟨same, aggregate⟩ := reviseIssue_ok wrote
  obtain ⟨support, shown, success⟩ := bind_ok.mp success
  obtain ⟨proven, inserted, success⟩ := bind_ok.mp success
  have evidence := insertEvidence_fold inserted
  obtain ⟨reopened, told, success⟩ := bind_ok.mp success
  obtain ⟨never, always, same'⟩ := insertReopen_ok told
  generalize clearing : (if kind = .reopen then revised
    else revised.clearEvidence outcome.record.id kind.evidenceRole) = cleared at shown inserted evidence
  have kept : cleared = { revised with issueEvidence := cleared.issueEvidence } := by
    rw [← clearing]
    split <;> rfl
  have rows : cleared.issueEvidence =
      (if kind = .reopen then before else before.clearEvidence outcome.record.id kind.evidenceRole).issueEvidence := by
    rw [← clearing, same]
    split <;> rfl
  -- what the statements before the last one leave alone
  have whole : reopened = { before with
      registry := revised.registry
      issues := revised.issues
      issueEvidence := proven.issueEvidence
      reopenHistory := reopened.reopenHistory } := by
    rw [same', evidence, kept, same]
  have history : proven.reopenHistory = before.reopenHistory := by rw [evidence, kept, same]
  have ordinal : proven.nextReopen outcome.record.id = before.nextReopen outcome.record.id := by
    rw [IssueTables.nextReopen, history]
    rfl
  refine ⟨_, support, ⟨?_, ?_, ?_, ?_, ?_, ?_, ?_⟩, ?_, success⟩
  · rw [kept, same] at shown
    exact require_ok.mp shown
  · intro other
    rw [whole]
    exact aggregate other
  · rw [whole, same]
  · rw [whole, evidence, rows]
  · intro different
    exact (never different).trans history
  · intro reopens
    obtain ⟨rationale, last, added⟩ := always reopens
    exact ⟨rationale, last, by rw [← history, ← ordinal]; exact added⟩
  · rw [whole]
    rfl
  · rw [whole]

end

section
variable {α : Type} {compare : α → α → Ordering}

theorem orderedInsert_below {items : List α} {first last : α} (below : (compare first last).isLE = true) :
    (items ++ [last]).orderedInsert (fun left right => (compare left right).isLE = true) first =
      items.orderedInsert (fun left right => (compare left right).isLE = true) first ++ [last] := by
  induction items with
  | nil => simp [below]
  | cons head rest following =>
    rw [List.cons_append, List.orderedInsert_cons, List.orderedInsert_cons, following]
    split <;> rfl

theorem sortBy_append_last {items : List α} {last : α} (below : ∀ item ∈ items, (compare item last).isLE = true) :
    Sorting.sortBy compare (items ++ [last]) = Sorting.sortBy compare items ++ [last] := by
  induction items with
  | nil => rfl
  | cons first rest following =>
    unfold Sorting.sortBy at following ⊢
    rw [List.cons_append, List.insertionSort_cons, List.insertionSort_cons,
      following fun item listed => below item (List.mem_cons_of_mem _ listed)]
    exact orderedInsert_below (below first List.mem_cons_self)

theorem nextOrdinal_above {ordinals : List Nat} {ordinal : Nat} (listed : ordinal ∈ ordinals) : ordinal < nextOrdinal ordinals := by
  have grows : ∀ (ordinals : List Nat) (start : Nat),
      start ≤ ordinals.foldl (fun next ordinal => max next (ordinal + 1)) start ∧
        ∀ ordinal ∈ ordinals, ordinal < ordinals.foldl (fun next ordinal => max next (ordinal + 1)) start := by
    intro ordinals
    induction ordinals with
    | nil => simp
    | cons first rest following =>
      intro start
      obtain ⟨above, later⟩ := following (max start (first + 1))
      rw [List.foldl_cons]
      refine ⟨by omega, fun ordinal listed => ?_⟩
      rcases List.mem_cons.mp listed with rfl | listed
      · omega
      · exact later ordinal listed
  exact (grows ordinals 0).2 ordinal listed

end

section
variable {kind : IssueH2aExecuteKind} {record : IssueRecord} {preparedId : PreparedIntentId} {occurredAt : UtcTimestamp}
  {support : SupportRow} {before after : IssueTables}

theorem Written.evidence_others (written : Written kind record preparedId occurredAt support before after) {other : IssueId}
    {role : EvidenceRole} (different : other ≠ record.id ∨ role ≠ kind.evidenceRole) :
    (after.issueEvidence.filter fun row => row.issueId = other ∧ row.role = role) =
      before.issueEvidence.filter fun row => row.issueId = other ∧ row.role = role := by
  have none : ((support.evidence.map (·.id)).map fun evidenceId =>
      (⟨record.id, evidenceId, kind.evidenceRole⟩ : IssueEvidenceRow)).filter
        (fun row => row.issueId = other ∧ row.role = role) = [] := by
    rw [List.filter_eq_nil_iff]
    intro row listed
    obtain ⟨_, _, rfl⟩ := List.mem_map.mp listed
    intro same
    obtain ⟨issue, same⟩ := of_decide_eq_true same
    exact different.elim (· issue.symm) (· same.symm)
  rw [written.evidence, List.filter_append, none, List.append_nil]
  split
  · rfl
  · unfold IssueTables.clearEvidence
    dsimp only
    rw [List.filter_filter]
    apply List.filter_congr
    intro row _
    by_cases kept : row.issueId = other ∧ row.role = role
    · obtain ⟨rfl, rfl⟩ := kept
      simpa using different
    · simp [kept]

theorem Written.evidence_own (written : Written kind record preparedId occurredAt support before after) :
    (after.issueEvidence.filter fun row => row.issueId = record.id ∧ row.role = kind.evidenceRole).map
        IssueEvidenceRow.evidenceId =
      (if kind = .reopen then
        (before.issueEvidence.filter fun row => row.issueId = record.id ∧ row.role = kind.evidenceRole).map
          IssueEvidenceRow.evidenceId else []) ++ support.evidence.map (·.id) := by
  have all : ∀ ids : List EvidenceReferenceId, (((ids.map fun evidenceId =>
      (⟨record.id, evidenceId, kind.evidenceRole⟩ : IssueEvidenceRow)).filter
        (fun row => row.issueId = record.id ∧ row.role = kind.evidenceRole)).map IssueEvidenceRow.evidenceId) = ids := by
    intro ids
    induction ids with
    | nil => rfl
    | cons first rest following => simp_all
  rw [written.evidence, List.filter_append, List.map_append, all]
  split
  · rfl
  · congr 1
    unfold IssueTables.clearEvidence
    dsimp only
    rw [List.filter_filter, List.map_eq_nil_iff, List.filter_eq_nil_iff]
    intro row _
    simp only [Bool.and_eq_true, decide_eq_true_eq]
    intro ⟨⟨issue, same⟩, cleared⟩
    exact cleared.elim (· issue) (· same)

theorem filter_append_other {α : Type} {rows : List α} {row : α} {admits : α → Bool} (refused : admits row = false) :
    (rows ++ [row]).filter admits = rows.filter admits := by
  simp [refused]

theorem Written.others (written : Written kind record preparedId occurredAt support before after) {other : IssueId}
    (different : other ≠ record.id) : SameIssue other before after where
  standing := by
    have aggregate := written.aggregate other
    rw [if_neg different] at aggregate
    unfold IssueTables.standing
    rw [aggregate, written.issues, Relation.find_update_other (Ne.symm different)]
  evidence := by
    intro role
    unfold IssueTables.evidenceOf
    rw [written.evidence_others (.inl different)]
  reopens := by
    unfold IssueTables.reopensOf
    by_cases reopens : kind = .reopen
    · obtain ⟨rationale, _, added⟩ := written.reopened reopens
      rw [added, filter_append_other (by simpa using Ne.symm different)]
    · rw [written.reopens reopens]
  supports := by
    unfold IssueTables.supportsOf
    rw [written.supports, filter_append_other (by simpa using Ne.symm different)]

theorem Written.stands (written : Written kind record preparedId occurredAt support before after)
    {registered : RegistryRow} {issue : IssueRow} (stands : before.standing record.id = some (registered, issue)) :
    after.standing record.id = some ({ registered with version := record.version, updatedAt := occurredAt },
      { issue with
        state := record.state
        resolutionType := record.resolutionType
        resolutionRationale := record.resolutionRationale }) := by
  obtain ⟨aggregate, found⟩ := standing_some.mp stands
  refine standing_some.mpr ⟨?_, ?_⟩
  · rw [written.aggregate, if_pos rfl, aggregate]
    rfl
  · rw [written.issues]
    exact Relation.find_update_self found

theorem Written.supportsOf (written : Written kind record preparedId occurredAt support before after) :
    after.supportsOf record.id =
      before.supportsOf record.id ++ [⟨record.id, before.nextSupport record.id, preparedId⟩] := by
  unfold IssueTables.supportsOf
  rw [written.supports, List.filter_append]
  have own : ([⟨record.id, before.nextSupport record.id, preparedId⟩] : List IssueSupportRow).filter
      (fun row => row.issueId = record.id) = [⟨record.id, before.nextSupport record.id, preparedId⟩] := by simp
  rw [own]
  refine sortBy_append_last fun row listed => ?_
  have above : row.ordinal < before.nextSupport record.id := nextOrdinal_above (List.mem_map_of_mem listed)
  rw [Sorting.comparing, Nat.isLE_compare]
  exact above.le

theorem Written.rationales (written : Written kind record preparedId occurredAt support before after) :
    (after.reopensOf record.id).map IssueReopenRow.rationale = (before.reopensOf record.id).map IssueReopenRow.rationale ++
      if kind = .reopen then record.reopenRationales.getLast?.toList else [] := by
  unfold IssueTables.reopensOf
  split
  next reopens =>
    obtain ⟨rationale, last, added⟩ := written.reopened reopens
    rw [added, List.filter_append, last]
    have own : ([⟨record.id, before.nextReopen record.id, rationale, occurredAt⟩] : List IssueReopenRow).filter
        (fun row => row.issueId = record.id) = [⟨record.id, before.nextReopen record.id, rationale, occurredAt⟩] := by simp
    rw [own, sortBy_append_last fun row listed => ?_, List.map_append]
    · rfl
    · have above : row.ordinal < before.nextReopen record.id := nextOrdinal_above (List.mem_map_of_mem listed)
      rw [Sorting.comparing, Nat.isLE_compare]
      exact above.le
  next never => rw [written.reopens never, List.append_nil]

theorem Written.grows (written : Written kind record preparedId occurredAt support before after)
    (whole : after = { before with
      registry := after.registry
      issues := after.issues
      issueEvidence := after.issueEvidence
      reopenHistory := after.reopenHistory
      supportHistory := after.supportHistory })
    (rises : ∀ registered issue, before.standing record.id = some (registered, issue) →
      registered.version.get < record.version.get) : Grows before after := by
  have advances : Advances before after := .touch record.id (fun _ => written.others) fun registered issue stands =>
    ⟨_, _, written.stands stands, rises registered issue stands⟩
  rw [whole] at advances ⊢
  exact { Grows.refl before with advances }

end

section
variable [Sha256] {context : IssueOperationContext} {tables : IssueTables} {kind : IssueH2aExecuteKind}
  {preparedId : PreparedIntentId} {classification : DataClassification} {prepared : WorkManagementPreparedIntent}

structure Remade (tables : IssueTables) (kind : IssueH2aExecuteKind) (intent : PreparedIntentRow)
    (classification : DataClassification) (prepared : WorkManagementPreparedIntent) : Prop where
  made : ∃ operation support, kind.operation intent = some operation ∧
    (∀ context, decodeIssueH2aSupport context tables intent.id kind.evidenceRole = .ok support) ∧
    WorkManagementPreparedIntent.prepare intent.id operation classification (some support) intent.createdAt = .ok prepared
  digest : prepared.payloadDigest = intent.payloadDigest
  classified : prepared.preview.classification = intent.classification
  expires : prepared.preview.expiresAt = intent.expiresAt

theorem decodePreparedIntent_ok {outstanding : Bool} :
    decodePreparedIntent context tables kind preparedId classification outstanding = .ok prepared ↔
      ∃ intent, tables.preparedIntents.find preparedId = some intent ∧ intent.kind = some kind ∧
        (outstanding = true → intent.consumedAt = none) ∧ Remade tables kind intent classification prepared := by
  constructor
  · intro decoded
    obtain ⟨intent, pending, decoded⟩ := bind_ok.mp decoded
    obtain ⟨found, named⟩ := Option.filter_eq_some_iff.mp (require_ok.mp pending)
    obtain ⟨named, unconsumed⟩ := of_decide_eq_true named
    obtain ⟨operation, asked, decoded⟩ := bind_ok.mp decoded
    obtain ⟨support, read, decoded⟩ := bind_ok.mp decoded
    obtain ⟨rebuilt, made, decoded⟩ := bind_ok.mp decoded
    obtain ⟨_, same, decoded⟩ := bind_ok.mp decoded
    cases pure_ok.mp decoded
    obtain ⟨digest, classified, expires⟩ := ensure_ok.mp same
    cases Relation.find_key found
    refine ⟨intent, found, named, fun out => Option.isNone_iff_eq_none.mp (unconsumed out), ⟨operation, support,
      require_ok.mp asked, fun _ => decodeIssueH2aSupport_kept (.refl _) read, relabel_ok.mp made⟩, digest, classified, expires⟩
  · intro ⟨intent, found, named, unconsumed, ⟨operation, support, asked, read, made⟩, digest, classified, expires⟩
    cases Relation.find_key found
    have pending : (tables.preparedIntents.find intent.id).filter
        (fun row => row.kind = some kind ∧ (outstanding → row.consumedAt.isNone)) = some intent :=
      Option.filter_eq_some_iff.mpr ⟨found, decide_eq_true ⟨named, fun out => by rw [unconsumed out]; rfl⟩⟩
    refine bind_ok.mpr ⟨intent, require_ok.mpr pending, bind_ok.mpr ⟨operation, require_ok.mpr asked, ?_⟩⟩
    refine bind_ok.mpr ⟨support, read context, bind_ok.mpr ⟨prepared, relabel_ok.mpr made, ?_⟩⟩
    exact bind_ok.mpr ⟨(), ensure_ok.mpr ⟨digest, classified, expires⟩, rfl⟩

theorem Remade.kept {before after : IssueTables} {intent : PreparedIntentRow} (grows : Grows before after)
    (remade : Remade before kind intent classification prepared) : Remade after kind intent classification prepared := by
  obtain ⟨operation, support, asked, read, made⟩ := remade.made
  exact { remade with made := ⟨operation, support, asked, fun context => decodeIssueH2aSupport_kept grows (read context), made⟩ }

theorem Remade.previews {intent : PreparedIntentRow} (remade : Remade tables kind intent classification prepared) :
    prepared.id = intent.id ∧ kind.operation intent = some prepared.operation ∧ ∃ support,
      (∀ context, decodeIssueH2aSupport context tables intent.id kind.evidenceRole = .ok support) ∧
      prepared.preview.support = some support := by
  obtain ⟨operation, support, asked, read, made⟩ := remade.made
  obtain ⟨canonical, expiresAt, sorted, _, _, same⟩ :=
    preparePreview_ok (WorkManagementPreparedIntent.prepare_preview made)
  have kept : canonicalOperation operation = .ok operation := by
    cases kind with
    | resolve =>
      obtain ⟨_, _, asked⟩ := Option.bind_eq_some_iff.mp asked
      obtain ⟨_, _, asked⟩ := Option.bind_eq_some_iff.mp asked
      cases asked
      rfl
    | close => cases asked; rfl
    | reopen =>
      obtain ⟨_, _, asked⟩ := Option.bind_eq_some_iff.mp asked
      cases asked
      rfl
  cases kept.symm.trans sorted
  refine ⟨by rw [WorkManagementPreparedIntent.id, same]; rfl, ?_, support, read, by rw [same]; rfl⟩
  rw [asked, WorkManagementPreparedIntent.operation, same]
  rfl

end

structure Executed [Sha256] (kind : IssueH2aExecuteKind) (command : ApproveAndExecuteIssueTransition)
    (outcome : IssueMutationOutcome) (intent : PreparedIntentRow) (record : IssueRecord) (before after : IssueTables) : Prop where
  previewed : before.preparedIntents.find command.approval.preparedId = some intent
  named : intent.kind = some kind
  read : decodeIssueH2aRecord command.context before intent.primaryId = .ok record
  remade : ∃ prepared, Remade before kind intent record.classification prepared ∧
    ∃ transition support later code, issueTransition prepared.operation = some transition ∧
      prepared.preview.support = some support ∧ record.version.next = some later ∧
      transitioned prepared.operation (support.evidence.map (·.id))
        { record with
          state := transition.next
          classification := prepared.preview.classification
          version := later
          supportHistory := record.supportHistory ++ [support] } = .ok (outcome.record, code)
  bound : command.approval.idempotencyId = command.context.idempotencyId
  unclaimed : before.idempotencyClaims.find command.context.idempotencyId = none
  grows : Grows before after
  recorded : ∃ row audit, outcome.auditEvents = [audit] ∧ outcome.approvalReceiptId = some row.approvalReceiptId ∧
    ExecutionRecorded command.context (.execute kind) (some kind) command.approval intent.primaryId audit row after
  written : ∃ middle occurredAt support, Written kind outcome.record command.approval.preparedId occurredAt support before middle ∧
    ∀ id, SameIssue id middle after
  supports : after.supports = before.supports
  history : ∃ ordinal, after.supportHistory = before.supportHistory ++ [⟨intent.primaryId, ordinal, command.approval.preparedId⟩]
  rejects : after.rejectPrepareds = before.rejectPrepareds

section
variable [Sha256] {kind : IssueH2aExecuteKind} {command : ApproveAndExecuteIssueTransition} {arguments : Arguments}
  {outcome : IssueMutationOutcome} {before after : IssueTables}

omit [Sha256] in
theorem transitioned_same {operation : WorkManagementOperation} {ids : List EvidenceReferenceId} {record later : IssueRecord}
    {code : String} (moved : transitioned operation ids record = .ok (later, code)) :
    later.id = record.id ∧ later.version = record.version := by
  unfold transitioned at moved
  split at moved
  · cases moved; exact ⟨rfl, rfl⟩
  · split at moved
    · cases moved
    · cases moved; exact ⟨rfl, rfl⟩
  · cases moved; exact ⟨rfl, rfl⟩
  · cases moved

theorem approveAndExecuteIssueH2a_ok
    (success : approveAndExecuteIssueH2a kind command arguments before = .ok (after, outcome)) :
    (after = before ∧ ∃ row, before.commandExecutes.find command.context.idempotencyId = some row ∧ row.kind = some kind ∧
      row.preparedId = command.approval.preparedId ∧ row.actor = command.approval.actor ∧
      row.acknowledgedDigest = command.approval.acknowledgedPayloadDigest) ∨
    ∃ intent record, Executed kind command outcome intent record before after ∧
      intent.consumedAt = none ∧ Consumes command.approval.preparedId before after := by
  unfold approveAndExecuteIssueH2a at success
  obtain ⟨_, _, success⟩ := bind_ok.mp success
  split at success
  next row existing =>
    obtain ⟨found, named⟩ := Option.filter_eq_some_iff.mp existing
    obtain ⟨_, same, success⟩ := bind_ok.mp success
    obtain ⟨_, _, success⟩ := bind_ok.mp success
    cases pure_ok.mp success
    exact .inl ⟨rfl, row, found, of_decide_eq_true named, ensure_ok.mp same⟩
  obtain ⟨intent, pending, success⟩ := bind_ok.mp success
  obtain ⟨record, read, success⟩ := bind_ok.mp success
  obtain ⟨prepared, decoded, success⟩ := bind_ok.mp success
  obtain ⟨rejections, _, success⟩ := bind_ok.mp success
  obtain ⟨_, _, success⟩ := bind_ok.mp success
  obtain ⟨given, executed, success⟩ := bind_ok.mp success
  obtain ⟨_, kept, success⟩ := bind_ok.mp success
  obtain ⟨written, persisted, success⟩ := bind_ok.mp success
  obtain ⟨advanced, revised, success⟩ := bind_ok.mp success
  cases pure_ok.mp success
  obtain ⟨found, named⟩ := Option.filter_eq_some_iff.mp (require_ok.mp pending)
  obtain ⟨intent', found', _, _, remade⟩ := decodePreparedIntent_ok.mp decoded
  cases found.symm.trans found'
  obtain ⟨carried, transition, support, later, code, targeted, supported, advances, moved⟩ := executeTransition_ok executed
  obtain ⟨identified, version⟩ := transitioned_same moved
  obtain ⟨registered, issue, supports, stands, _, _, same⟩ := decodeIssueH2aRecord_ok.mp read
  have owned : record.id = intent.primaryId := by rw [same]; rfl
  obtain ⟨auditId, effect, audits⟩ := carried.audit
  have audits : outcome.auditEvents = [approvedAudit auditId arguments.occurredAt effect outcome.record.id command.context] := by
    rw [identified]
    exact audits
  obtain ⟨middle, header, wrote, whole, persisted⟩ := persistIssueExecuteBundle_ok audits (ensure_ok.mp kept).2 persisted
  obtain ⟨grows, unclaimed, row, recorded, receipt, rest, consumed⟩ := persistExecution_ok persisted
  have target : outcome.record.id = intent.primaryId := identified.trans owned
  have wrote' : Grows before middle := by
    refine wrote.grows whole fun registered' issue' stands' => ?_
    cases stands.symm.trans (target ▸ stands')
    have next := AggregateVersion.next_get advances
    rw [version]
    rw [same] at next
    exact next ▸ Nat.lt_succ_self _
  refine .inr ⟨intent, record, ⟨found, (of_decide_eq_true named).1, read,
    ⟨prepared, remade, transition, support, later, code, targeted, supported, advances, moved⟩, carried.bound, ?_,
    wrote'.trans (grows.trans (advanceRevision_grows revised)), ⟨row, _, audits, ?_, ?_⟩, ⟨middle, _, header, wrote, ?_⟩,
    ?_, ⟨before.nextSupport outcome.record.id, ?_⟩, ?_⟩, Option.isNone_iff_eq_none.mp (of_decide_eq_true named).2, ?_⟩
  · rw [whole] at unclaimed
    exact unclaimed
  · rw [receipt]
    exact (ensure_ok.mp kept).2
  · rw [← target]
    exact recorded.grows (advanceRevision_grows revised)
  · intro id
    rw [advanceRevision_ok revised, rest]
    exact ⟨rfl, fun _ => rfl, rfl, rfl⟩
  · rw [advanceRevision_ok revised, rest, whole]
  · rw [advanceRevision_ok revised, rest, ← target]
    exact wrote.supports
  · rw [advanceRevision_ok revised, rest, whole]
  · have consumed := @Consumes.after_of _ _ _ after consumed (by rw [advanceRevision_ok revised]) (by rw [advanceRevision_ok revised])
      (by rw [advanceRevision_ok revised])
    exact ⟨consumed.identities.trans (Relation.update_keys wrote.issues), consumed.prepares.trans (by rw [whole]),
      by have intents := consumed.intents; rw [whole] at intents; exact intents⟩

end

def SupportRow.Sound (header : SupportRow) : Prop :=
  ∃ offered support, EvidenceOrJudgment.new header.evidence header.judgments = .ok offered ∧
    offered.evaluateEvidenceRequired = .ok support ∧
    header.disposition = support.disposition ∧ header.classification = support.classification

def SupportsSound (tables : IssueTables) : Prop :=
  ∀ preparedId header, tables.supports.find preparedId = some header → header.Sound

section
variable {context : IssueOperationContext} {kind : IssueH2aExecuteKind} {preparedId : PreparedIntentId}
  {before after : IssueTables}

theorem decodeIssueH2aSupport_header {role : EvidenceRole} {support : SupportWitness} {header : SupportRow}
    (found : before.supports.find preparedId = some header)
    (read : decodeIssueH2aSupport context before preparedId role = .ok support) :
    support.evidence = header.evidence ∧ (SupportsSound before →
      header.disposition = support.disposition ∧ header.classification = support.classification) := by
  obtain ⟨row, there, read⟩ := bind_ok.mp read
  cases found.symm.trans (require_ok.mp there)
  obtain ⟨_, _, read⟩ := bind_ok.mp read
  obtain ⟨offered, made, read⟩ := bind_ok.mp read
  have made := relabel_ok.mp made
  have read := relabel_ok.mp read
  constructor
  · obtain ⟨⟨disposition, rfl⟩, _⟩ := EvidenceOrJudgment.evaluateEvidenceRequired_ok read
    unfold EvidenceOrJudgment.new at made
    split at made
    · cases made
    · cases made; rfl
  · intro sound
    obtain ⟨offered', support', made', read', agrees⟩ := sound _ _ found
    cases made.symm.trans made'
    cases read.symm.trans read'
    exact agrees

def shownEvidence (kind : IssueH2aExecuteKind) (tables : IssueTables) (id : IssueId) (support : SupportRow) :
    List EvidenceReferenceId :=
  (if kind = .reopen then tables.evidenceOf id kind.evidenceRole else []) ++ support.evidence.map (·.id)

theorem Written.evidenceOf_own {record : IssueRecord} {occurredAt : UtcTimestamp} {support : SupportRow}
    (written : Written kind record preparedId occurredAt support before after) :
    after.evidenceOf record.id kind.evidenceRole = Sorting.sortBy compare (shownEvidence kind before record.id support) := by
  unfold IssueTables.evidenceOf
  rw [written.evidence_own]
  refine Sorting.sortBy_eq_of_perm (fun _ _ _ _ => compare_eq_iff_eq.mp) ?_
  unfold shownEvidence
  refine List.Perm.append_right _ ?_
  split
  · exact (Sorting.sortBy_perm compare _).symm
  · exact .refl _

attribute [ext] IssueRecord

def evidenceIn (record : IssueRecord) : EvidenceRole → List EvidenceReferenceId
  | .issueResolution => record.resolutionEvidence
  | .issueClosureVerification => record.closureVerificationEvidence
  | .issueFailedVerification => record.failedVerificationEvidence
  | _ => []

/-- What a transition does to a record, the same for all three. -/
structure Moved (kind : IssueH2aExecuteKind) (ids : List EvidenceReferenceId) (start final : IssueRecord) : Prop where
  same : { final with
    resolutionType := start.resolutionType
    resolutionRationale := start.resolutionRationale
    resolutionEvidence := start.resolutionEvidence
    closureVerificationEvidence := start.closureVerificationEvidence
    failedVerificationEvidence := start.failedVerificationEvidence
    reopenRationales := start.reopenRationales } = start
  own : evidenceIn final kind.evidenceRole = (if kind = .reopen then evidenceIn start kind.evidenceRole else []) ++ ids
  others : ∀ role, role ≠ kind.evidenceRole → evidenceIn final role = evidenceIn start role
  rationales : final.reopenRationales = start.reopenRationales ++
    if kind = .reopen then final.reopenRationales.getLast?.toList else []

theorem transitioned_moved {intent : PreparedIntentRow} {operation : WorkManagementOperation}
    {ids : List EvidenceReferenceId} {start final : IssueRecord} {code : String}
    (asked : kind.operation intent = some operation) (moved : transitioned operation ids start = .ok (final, code)) :
    Moved kind ids start final := by
  cases kind with
  | resolve =>
    obtain ⟨_, _, asked⟩ := Option.bind_eq_some_iff.mp asked
    obtain ⟨_, _, asked⟩ := Option.bind_eq_some_iff.mp asked
    cases asked
    cases moved
    refine ⟨rfl, rfl, fun role different => ?_, by simp⟩
    cases role <;> first | rfl | exact absurd rfl different
  | close =>
    cases asked
    simp only [transitioned] at moved
    split at moved
    · cases moved
    · cases moved
      refine ⟨rfl, rfl, fun role different => ?_, by simp⟩
      cases role <;> first | rfl | exact absurd rfl different
  | reopen =>
    obtain ⟨_, _, asked⟩ := Option.bind_eq_some_iff.mp asked
    cases asked
    cases moved
    refine ⟨rfl, rfl, fun role different => ?_, by simp⟩
    cases role <;> first | rfl | exact absurd rfl different

variable [Sha256] {command : ApproveAndExecuteIssueTransition} {outcome : IssueMutationOutcome} {intent : PreparedIntentRow}
  {record : IssueRecord}

/-- A preview that restricts its Issue no further and shows its evidence in order. -/
def Quiet (kind : IssueH2aExecuteKind) (preparedId : PreparedIntentId) (tables : IssueTables) : Prop :=
  ∀ intent registered support, tables.preparedIntents.find preparedId = some intent →
    tables.aggregate intent.primaryId = some registered → tables.supports.find preparedId = some support →
      intent.classification = registered.classification ∧
        Sorting.sortBy compare (shownEvidence kind tables intent.primaryId support) =
          shownEvidence kind tables intent.primaryId support

theorem Executed.entry (executed : Executed kind command outcome intent record before after) (sound : SupportsSound before) :
    ∃ support, ∀ context, decodeIssueSupportHistoryEntry context after command.approval.preparedId = .ok support := by
  obtain ⟨prepared, remade, _⟩ := executed.remade
  obtain ⟨_, _, header, written, _⟩ := executed.written
  obtain ⟨_, _, support, shown, _⟩ := remade.previews
  rw [Relation.find_key executed.previewed] at shown
  obtain ⟨consumed, found, rest, _⟩ := executed.grows.intents _ _ executed.previewed
  refine ⟨support, fun context => decodeIssueSupportHistoryEntry_ok.mpr ⟨consumed, kind, header, found, ?_,
    decodeIssueH2aSupport_kept executed.grows (shown context), executed.grows.supports _ _ written.shown,
    (decodeIssueH2aSupport_header written.shown (shown context)).2 sound⟩⟩
  rw [← executed.named, ← rest]

/-- A record read back after a transition, beside the one that was answered: its class is not
written and its evidence is sorted. -/
structure ReadBack (kind : IssueH2aExecuteKind) (told answered : IssueRecord) : Prop where
  same : { told with
    classification := answered.classification
    resolutionEvidence := answered.resolutionEvidence
    closureVerificationEvidence := answered.closureVerificationEvidence
    failedVerificationEvidence := answered.failedVerificationEvidence } = answered
  own : evidenceIn told kind.evidenceRole = Sorting.sortBy compare (evidenceIn answered kind.evidenceRole)
  others : ∀ role, role ≠ kind.evidenceRole → evidenceIn told role = evidenceIn answered role

omit [Sha256] in
theorem ReadBack.version {told answered : IssueRecord} (back : ReadBack kind told answered) : told.version = answered.version := by
  have same := congrArg IssueRecord.version back.same
  exact same

omit [Sha256] in
theorem ReadBack.equal_iff {told answered : IssueRecord} (back : ReadBack kind told answered) :
    told = answered ↔ answered.classification = told.classification ∧
      Sorting.sortBy compare (evidenceIn answered kind.evidenceRole) = evidenceIn answered kind.evidenceRole := by
  constructor
  · rintro rfl
    exact ⟨rfl, back.own.symm⟩
  · intro ⟨classified, sorted⟩
    have evidence : ∀ role, evidenceIn told role = evidenceIn answered role := by
      intro role
      by_cases own : role = kind.evidenceRole
      · rw [own, back.own, sorted]
      · exact back.others role own
    obtain ⟨resolution, closure, failed⟩ : told.resolutionEvidence = answered.resolutionEvidence ∧
        told.closureVerificationEvidence = answered.closureVerificationEvidence ∧
        told.failedVerificationEvidence = answered.failedVerificationEvidence :=
      ⟨evidence .issueResolution, evidence .issueClosureVerification, evidence .issueFailedVerification⟩
    have same := back.same
    rw [classified, ← resolution, ← closure, ← failed] at same
    exact same

theorem Executed.read_back (executed : Executed kind command outcome intent record before after) (sound : SupportsSound before) :
    ∃ told registered header, decodeIssueH2aRecord context after intent.primaryId = .ok told ∧
      before.aggregate intent.primaryId = some registered ∧ told.classification = registered.classification ∧
      before.supports.find command.approval.preparedId = some header ∧
      outcome.record.classification = intent.classification ∧
      evidenceIn outcome.record kind.evidenceRole = shownEvidence kind before intent.primaryId header ∧
      ReadBack kind told outcome.record := by
  obtain ⟨prepared, remade, transition, support, later, code, targeted, supported, advances, moved⟩ := executed.remade
  obtain ⟨middle, occurredAt, header, written, same⟩ := executed.written
  obtain ⟨registered, issue, supports, stands, history, classified, rfl⟩ := decodeIssueH2aRecord_ok.mp executed.read
  obtain ⟨_, asked, witness, shown, supported'⟩ := remade.previews
  cases supported.symm.trans supported'
  have change := transitioned_moved asked moved
  have target : outcome.record.id = intent.primaryId := (transitioned_same moved).1
  have named : intent.id = command.approval.preparedId := Relation.find_key executed.previewed
  rw [named] at shown
  obtain ⟨listed, agrees⟩ := decodeIssueH2aSupport_header written.shown (shown context)
  -- the new support is read from the preview that was executed
  have entry : decodeIssueSupportHistoryEntry context after command.approval.preparedId = .ok support := by
    obtain ⟨consumed, found, rest, _⟩ := executed.grows.intents _ _ executed.previewed
    refine decodeIssueSupportHistoryEntry_ok.mpr ⟨consumed, kind, header, found, ?_,
      decodeIssueH2aSupport_kept executed.grows (shown context), executed.grows.supports _ _ written.shown, agrees sound⟩
    rw [← executed.named, ← rest]
  have stood := (same _).standing.trans (written.stands (target ▸ stands))
  have supported : after.supportsOf outcome.record.id = _ := (same _).supports.trans written.supportsOf
  rw [target] at stood supported
  have listing : Supports context after (after.supportsOf intent.primaryId) (supports ++ [support]) := by
    rw [supported]
    exact List.rel_append (history.kept executed.grows) (.cons entry .nil)
  have proven : evidenceIn outcome.record kind.evidenceRole = shownEvidence kind before intent.primaryId header := by
    rw [change.own, listed]
    cases kind <;> rfl
  refine ⟨_, registered, header, decodeIssueH2aRecord_ok.mpr ⟨_, _, supports ++ [support], stood, listing, classified, rfl⟩,
    (standing_some.mp stands).1, rfl, written.shown,
    (congrArg IssueRecord.classification change.same).trans remade.classified, proven, ?_, ?_, fun role other => ?_⟩
  · apply IssueRecord.ext
    · exact (congrArg IssueRecord.id change.same).symm
    · exact (congrArg IssueRecord.sourceRiskId change.same).symm
    · exact (congrArg IssueRecord.recurrenceOf change.same).symm
    · exact (congrArg IssueRecord.title change.same).symm
    · exact (congrArg IssueRecord.details change.same).symm
    · rfl
    · rfl
    · rfl
    · rfl
    · rfl
    · rfl
    · rfl
    · have told := written.rationales
      rw [target] at told
      exact (congrArg (List.map IssueReopenRow.rationale) (same _).reopens).trans (told.trans change.rationales.symm)
    · exact (congrArg IssueRecord.supportHistory change.same).symm
    · rfl
  · have shown := ((same _).evidence kind.evidenceRole).trans written.evidenceOf_own
    rw [target, ← proven] at shown
    rw [← shown]
    cases kind <;> rfl
  · rw [change.others role other]
    have kept : after.evidenceOf intent.primaryId role = before.evidenceOf intent.primaryId role := by
      rw [(same _).evidence, IssueTables.evidenceOf, written.evidence_others (.inr other)]
      rfl
    cases role <;> first | exact kept | rfl

theorem Executed.reads (executed : Executed kind command outcome intent record before after) (sound : SupportsSound before) :
    ∃ told, decodeIssueH2aRecord context after intent.primaryId = .ok told ∧ told.version = outcome.record.version ∧
      (told = outcome.record ↔ Quiet kind command.approval.preparedId before) := by
  obtain ⟨told, registered, header, read, aggregate, classified, shown, restricts, proven, back⟩ :=
    @Executed.read_back _ _ _ _ _ _ _ _ _ executed sound
  refine ⟨told, read, back.version, ?_⟩
  rw [back.equal_iff, restricts, classified, proven]
  constructor
  · intro same intent' registered' support' found first shown'
    cases executed.previewed.symm.trans found
    cases aggregate.symm.trans first
    cases shown.symm.trans shown'
    exact same
  · intro quiet
    exact quiet _ _ _ executed.previewed aggregate shown

end

structure ExecutedLowering (command : ApproveAndExecuteIssueTransition) (outcome : IssueMutationOutcome)
    (intent : PreparedIntentRow) (record : IssueRecord) (before after : IssueTables) : Prop where
  previewed : before.preparedIntents.find command.approval.preparedId = some intent
  named : intent.kind = none
  read : decodeIssueH2aRecord command.context before intent.primaryId = .ok record
  lowered : ∃ proposedClassification rationale later,
    loweringRequest before command.approval.preparedId = some (proposedClassification, rationale) ∧
      record.version.next = some later ∧
      outcome.record = { record with classification := proposedClassification, version := later }
  bound : command.approval.idempotencyId = command.context.idempotencyId
  unclaimed : before.idempotencyClaims.find command.context.idempotencyId = none
  grows : Grows before after
  recorded : ∃ row audit, outcome.auditEvents = [audit] ∧ outcome.approvalReceiptId = some row.approvalReceiptId ∧
    ExecutionRecorded command.context .executeLowerClassification none command.approval intent.primaryId audit row after
  written : ∃ middle updatedAt, (∀ id, SameIssue id middle after) ∧ middle = { before with registry := middle.registry } ∧
    ∀ other, middle.aggregate other = if other = intent.primaryId then (before.aggregate intent.primaryId).map fun row =>
        { row with version := outcome.record.version, classification := outcome.record.classification, updatedAt }
      else before.aggregate other
  supports : after.supports = before.supports
  history : after.supportHistory = before.supportHistory
  rejects : after.rejectPrepareds = before.rejectPrepareds

variable [Sha256] {context : IssueOperationContext} {command : ApproveAndExecuteIssueTransition} {arguments : Arguments}
  {outcome : IssueMutationOutcome} {intent : PreparedIntentRow} {record : IssueRecord} {before after : IssueTables}

omit [Sha256] in
theorem revised_grows {id : IssueId} {change : RegistryRow → RegistryRow}
    (whole : after = { before with registry := after.registry })
    (aggregate : ∀ other, after.aggregate other =
      if other = id then (before.aggregate id).map change else before.aggregate other)
    (rises : ∀ registered, before.aggregate id = some registered → registered.version.get < (change registered).version.get) :
    Grows before after := by
  have standing : ∀ other, after.standing other = (after.aggregate other).bind fun registered =>
      (before.issues.find other).map (registered, ·) := by
    intro other
    rw [IssueTables.standing, whole]
  have advances : Advances before after := by
    refine .touch id (fun other different => ?_) fun registered issue stands => ?_
    · refine ⟨?_, fun role => ?_, ?_, ?_⟩
      · rw [standing, aggregate, if_neg different]
        rfl
      · rw [whole]; rfl
      · rw [whole]; rfl
      · rw [whole]; rfl
    · obtain ⟨found, there⟩ := standing_some.mp stands
      refine ⟨change registered, issue, ?_, rises registered found⟩
      rw [standing, aggregate, if_pos rfl, found, there]
      rfl
  rw [whole] at advances ⊢
  exact { Grows.refl before with advances }

theorem decodeLowerIssueClassificationPrepared_ok {prepared : WorkManagementPreparedIntent}
    (decoded : decodeLowerIssueClassificationPrepared context before intent record = .ok prepared) :
    ∃ proposedClassification rationale, loweringRequest before intent.id = some (proposedClassification, rationale) ∧
      prepared.operation = .lowerIssueClassification record.id record.version record.classification
        proposedClassification rationale := by
  obtain ⟨⟨proposedClassification, rationale⟩, requested, decoded⟩ := bind_ok.mp decoded
  obtain ⟨rebuilt, made, decoded⟩ := bind_ok.mp decoded
  obtain ⟨_, _, decoded⟩ := bind_ok.mp decoded
  cases pure_ok.mp decoded
  obtain ⟨canonical, _, sorted, _, _, same⟩ :=
    preparePreview_ok (WorkManagementPreparedIntent.prepare_preview (relabel_ok.mp made))
  cases sorted
  refine ⟨proposedClassification, rationale, require_ok.mp requested, ?_⟩
  rw [WorkManagementPreparedIntent.operation, same]
  rfl

theorem approveAndExecuteLowerIssueClassification_ok
    (success : SqliteProductLedger.approveAndExecuteLowerIssueClassification command arguments before = .ok (after, outcome)) :
    (after = before ∧ ∃ row, before.commandExecutes.find command.context.idempotencyId = some row ∧ row.kind = none ∧
      row.preparedId = command.approval.preparedId ∧ row.actor = command.approval.actor ∧
      row.acknowledgedDigest = command.approval.acknowledgedPayloadDigest) ∨
    ∃ intent record, ExecutedLowering command outcome intent record before after ∧
      intent.consumedAt = none ∧ Consumes command.approval.preparedId before after := by
  unfold SqliteProductLedger.approveAndExecuteLowerIssueClassification at success
  obtain ⟨_, _, success⟩ := bind_ok.mp success
  split at success
  next row existing =>
    obtain ⟨found, named⟩ := Option.filter_eq_some_iff.mp existing
    obtain ⟨_, same, success⟩ := bind_ok.mp success
    obtain ⟨_, _, success⟩ := bind_ok.mp success
    cases pure_ok.mp success
    obtain ⟨preparedId, actor, digest, _⟩ := ensure_ok.mp same
    exact .inl ⟨rfl, row, found, of_decide_eq_true named, preparedId, actor, digest⟩
  obtain ⟨intent, pending, success⟩ := bind_ok.mp success
  obtain ⟨record, read, success⟩ := bind_ok.mp success
  obtain ⟨prepared, decoded, success⟩ := bind_ok.mp success
  obtain ⟨_, _, success⟩ := bind_ok.mp success
  obtain ⟨_, executed, success⟩ := bind_ok.mp success
  obtain ⟨_, kept, success⟩ := bind_ok.mp success
  obtain ⟨written, persisted, success⟩ := bind_ok.mp success
  obtain ⟨advanced, revised, success⟩ := bind_ok.mp success
  cases pure_ok.mp success
  obtain ⟨found, named⟩ := Option.filter_eq_some_iff.mp (require_ok.mp pending)
  obtain ⟨proposedClassification, rationale, requested, asked⟩ := decodeLowerIssueClassificationPrepared_ok decoded
  obtain ⟨carried, target', later, targeted, advances, lowered⟩ := executeLowering_ok executed
  rw [asked] at targeted
  cases targeted
  rw [Relation.find_key found] at requested
  obtain ⟨registered, issue, supports, stands, _, _, same⟩ := decodeIssueH2aRecord_ok.mp read
  have target : outcome.record.id = intent.primaryId := by rw [lowered, same]; rfl
  obtain ⟨auditId, effect, audits⟩ := carried.audit
  have audits : outcome.auditEvents = [approvedAudit auditId arguments.occurredAt effect outcome.record.id command.context] := by
    rw [lowered]
    exact audits
  -- the statements of the bundle
  obtain ⟨audit, head, persisted⟩ := bind_ok.mp persisted
  obtain ⟨receiptId, drawn, persisted⟩ := bind_ok.mp persisted
  rw [audits] at head
  cases require_ok.mp head
  cases (ensure_ok.mp kept).2.symm.trans (require_ok.mp drawn)
  obtain ⟨middle, wrote, persisted⟩ := bind_ok.mp persisted
  obtain ⟨whole, aggregate⟩ := reviseIssue_ok wrote
  obtain ⟨grows, unclaimed, row, recorded, receipt, rest, consumed⟩ := persistExecution_ok persisted
  rw [target] at aggregate
  have wrote' : Grows before middle := by
    refine revised_grows whole aggregate fun registered' there => ?_
    cases (standing_some.mp stands).1.symm.trans there
    have next := AggregateVersion.next_get advances
    rw [lowered]
    rw [same] at next
    exact next ▸ Nat.lt_succ_self _
  refine .inr ⟨intent, record, ⟨found, (of_decide_eq_true named).1, read,
    ⟨proposedClassification, rationale, later, requested, advances, lowered⟩, carried.bound, ?_, wrote'.trans (grows.trans (advanceRevision_grows revised)), ⟨row, _, audits, ?_, ?_⟩,
    ⟨middle, _, ?_, whole, aggregate⟩, ?_, ?_, ?_⟩, Option.isNone_iff_eq_none.mp (of_decide_eq_true named).2, ?_⟩
  · rw [whole] at unclaimed
    exact unclaimed
  · rw [receipt]
    exact (ensure_ok.mp kept).2
  · rw [← target]
    exact recorded.grows (advanceRevision_grows revised)
  · intro id
    rw [advanceRevision_ok revised, rest]
    exact ⟨rfl, fun _ => rfl, rfl, rfl⟩
  · rw [advanceRevision_ok revised, rest, whole]
  · rw [advanceRevision_ok revised, rest, whole]
  · rw [advanceRevision_ok revised, rest, whole]
  · have consumed := @Consumes.after_of _ _ _ after consumed (by rw [advanceRevision_ok revised]) (by rw [advanceRevision_ok revised])
      (by rw [advanceRevision_ok revised])
    rw [whole] at consumed
    exact ⟨consumed.identities, consumed.prepares, consumed.intents⟩

omit [Sha256] in
theorem ExecutedLowering.stands (executed : ExecutedLowering command outcome intent record before after)
    {registered : RegistryRow} {issue : IssueRow} (stands : before.standing intent.primaryId = some (registered, issue)) :
    ∃ updatedAt, after.standing intent.primaryId = some ({ registered with
      version := outcome.record.version, classification := outcome.record.classification, updatedAt }, issue) := by
  obtain ⟨middle, updatedAt, same, whole, aggregate⟩ := executed.written
  obtain ⟨found, there⟩ := standing_some.mp stands
  refine ⟨updatedAt, ?_⟩
  rw [(same _).standing]
  refine standing_some.mpr ⟨?_, ?_⟩
  · rw [aggregate, if_pos rfl, found]
    rfl
  · rw [whole]
    exact there

omit [Sha256] in
theorem ExecutedLowering.reads (executed : ExecutedLowering command outcome intent record before after)
    (classified : outcome.record.classification ≠ .unclassified) :
    decodeIssueH2aRecord context after intent.primaryId = .ok outcome.record := by
  obtain ⟨middle, _, same, whole, _⟩ := executed.written
  obtain ⟨registered, issue, supports, stands, history, _, read⟩ := decodeIssueH2aRecord_ok.mp executed.read
  obtain ⟨_, _, later, _, _, lowered⟩ := executed.lowered
  obtain ⟨updatedAt, stood⟩ := executed.stands stands
  refine decodeIssueH2aRecord_ok.mpr ⟨_, issue, supports, stood, ?_, classified, ?_⟩
  · rw [(same _).supports, whole]
    exact history.kept executed.grows
  · rw [recordOf_same (same _), whole, lowered, read]
    rfl

end MissionControl.Issues

import MissionControl.Issues.Executions

/-! What creations, previews and rejections leave in the tables, and what every state that the
commands reach keeps. -/

namespace MissionControl.Issues
open Checked Staging
open Evidence (RegistryRow fitsInteger)
open Actions (RejectedPreparedIntentOutcome preparedIntentRejectionAudit)

/-- A new Issue is placed, and nothing else is changed of the Issues and the previews. -/
structure Creates (id : IssueId) (before after : IssueTables) : Prop where
  fresh : before.standing id = none
  standing : ∀ other, other ≠ id → after.standing other = before.standing other
  evidence : after.issueEvidence = before.issueEvidence
  reopens : after.reopenHistory = before.reopenHistory
  supports : after.supportHistory = before.supportHistory
  identities : after.issues.rows.map IssueRow.id = before.issues.rows.map IssueRow.id ++ [id]
  intents : after.preparedIntents = before.preparedIntents
  prepares : after.commandPrepares = before.commandPrepares

theorem Creates.same {id other : IssueId} {before after : IssueTables} (creates : Creates id before after)
    (different : other ≠ id) : SameIssue other before after where
  standing := creates.standing other different
  evidence role := by unfold IssueTables.evidenceOf; rw [creates.evidence]
  reopens := by unfold IssueTables.reopensOf; rw [creates.reopens]
  supports := by unfold IssueTables.supportsOf; rw [creates.supports]

section
variable {command : CreateIssue} {arguments : Arguments} {mutation : IssueMutationOutcome} {before after : IssueTables}

structure CreationRecorded (command : CreateIssue) (mutation : IssueMutationOutcome) (tables : IssueTables) : Prop where
  found : ∃ row, tables.commandCreates.find command.context.idempotencyId = some row ∧ row.issueId = command.id ∧
    row.title = command.title ∧ row.details = command.details ∧ row.classification = command.classification
  plain : command.recurrenceOf = none
  told : outcome command.context command.id tables = .ok mutation

theorem outcome_initial {context : IssueOperationContext} {id : IssueId} (told : outcome context id before = .ok mutation) :
    ∃ registered issue, before.standing id = some (registered, issue) ∧ registered.version = .initial := by
  obtain ⟨_, _, told⟩ := bind_ok.mp told
  obtain ⟨_, _, told⟩ := bind_ok.mp told
  obtain ⟨_, _, told⟩ := bind_ok.mp told
  obtain ⟨⟨registered, issue⟩, stands, told⟩ := bind_ok.mp told
  obtain ⟨_, _, told⟩ := bind_ok.mp told
  obtain ⟨_, initial, _⟩ := bind_ok.mp told
  exact ⟨registered, issue, require_ok.mp stands, (ensure_ok.mp initial).2⟩

theorem outcome_kept {context : IssueOperationContext} {id : IssueId} (grows : Grows before after) (same : SameIssue id before after)
    (told : outcome context id before = .ok mutation) : outcome context id after = .ok mutation := by
  obtain ⟨replay, found, told⟩ := bind_ok.mp told
  obtain ⟨audit, audited, told⟩ := bind_ok.mp told
  obtain ⟨_, agreed, told⟩ := bind_ok.mp told
  obtain ⟨standing, stands, told⟩ := bind_ok.mp told
  refine bind_ok.mpr ⟨replay, require_ok.mpr (grows.creates _ _ (require_ok.mp found)), ?_⟩
  refine bind_ok.mpr ⟨audit, require_ok.mpr (grows.audits _ _ (require_ok.mp audited)), ?_⟩
  refine bind_ok.mpr ⟨(), ensure_ok.mpr (ensure_ok.mp agreed), ?_⟩
  exact bind_ok.mpr ⟨standing, require_ok.mpr (same.standing.trans (require_ok.mp stands)), told⟩

theorem createIssue_ok (success : SqliteProductLedger.createIssue command arguments before = .ok (after, mutation)) :
    (after = before ∧ CreationRecorded command mutation before) ∨
    Grows before after ∧ CreationRecorded command mutation after ∧
      before.idempotencyClaims.find command.context.idempotencyId = none ∧
      after.idempotencyClaims.find command.context.idempotencyId = some ⟨command.context.idempotencyId, .create⟩ ∧
      after.supports = before.supports ∧ after.supportHistory = before.supportHistory ∧
      after.rejectPrepareds = before.rejectPrepareds ∧ Creates command.id before after := by
  unfold SqliteProductLedger.createIssue at success
  dsimp only at success
  split at success
  next row found =>
    obtain ⟨_, same, success⟩ := bind_ok.mp success
    obtain ⟨_, told, success⟩ := bind_ok.mp success
    cases pure_ok.mp success
    obtain ⟨issue, title, details, classification, plain⟩ := ensure_ok.mp same
    exact .inl ⟨rfl, ⟨row, found, issue, title, details, classification⟩, plain, told⟩
  obtain ⟨_, plain, success⟩ := bind_ok.mp success
  obtain ⟨_, _, success⟩ := bind_ok.mp success
  obtain ⟨_, unclaimed, success⟩ := bind_ok.mp success
  obtain ⟨_, free, success⟩ := bind_ok.mp success
  obtain ⟨registry, registered, success⟩ := bind_ok.mp success
  obtain ⟨issues, inserted, success⟩ := bind_ok.mp success
  obtain ⟨audited, audit, success⟩ := bind_ok.mp success
  obtain ⟨claimed, claim, success⟩ := bind_ok.mp success
  obtain ⟨commandCreates, created, success⟩ := bind_ok.mp success
  obtain ⟨_, told, success⟩ := bind_ok.mp success
  obtain ⟨advanced, revised, success⟩ := bind_ok.mp success
  cases pure_ok.mp success
  have registered := require_ok.mp registered
  have inserted := require_ok.mp inserted
  have created := require_ok.mp created
  obtain ⟨grows, _, same⟩ := insertAudit_ok audit
  obtain ⟨claims, owned, _, same'⟩ := claimIdempotency_ok claim
  have standing : Grows before { before with registry, issues } := by
    refine { Grows.refl before with advances := fun id row issue stands => .inl ⟨?_, fun _ => rfl, rfl, rfl⟩ }
    obtain ⟨aggregate, there⟩ := standing_some.mp stands
    obtain ⟨there', kind⟩ := Option.filter_eq_some_iff.mp aggregate
    rw [stands]
    refine standing_some.mpr ⟨?_, Relation.find_insert_kept inserted there⟩
    exact Option.filter_eq_some_iff.mpr ⟨Relation.find_insert_kept registered there', kind⟩
  have kept : Grows claimed { claimed with commandCreates } :=
    { Grows.refl claimed with
      creates := fun _ _ => Relation.find_insert_kept created
      advances := .of_same fun _ => ⟨rfl, fun _ => rfl, rfl, rfl⟩ }
  have final := advanceRevision_grows revised
  have recorded := final.creates _ _ (Relation.find_inserted created)
  refine .inr ⟨standing.trans (grows.trans (claims.trans (kept.trans final))), ⟨⟨_, recorded, rfl, rfl, rfl, rfl⟩,
    ensure_ok.mp plain, ?_⟩, Option.isNone_iff_eq_none.mp (ensure_ok.mp unclaimed), ?_, ?_, ?_, ?_, ?_⟩
  · refine outcome_kept final ?_ told
    rw [advanceRevision_ok revised]
    exact ⟨rfl, fun _ => rfl, rfl, rfl⟩
  · exact final.claims _ _ owned
  · rw [advanceRevision_ok revised, same', same]
  · rw [advanceRevision_ok revised, same', same]
  · rw [advanceRevision_ok revised, same', same]
  · have free := Option.isNone_iff_eq_none.mp (ensure_ok.mp free)
    rw [advanceRevision_ok revised, same', same]
    refine ⟨?_, fun other different => ?_, rfl, rfl, rfl, ?_, rfl, rfl⟩
    · unfold IssueTables.standing IssueTables.aggregate
      rw [free]
      rfl
    · unfold IssueTables.standing IssueTables.aggregate
      dsimp only
      rw [Relation.find_insert registered, Relation.find_insert inserted,
        if_neg fun equal => different (OpaqueId.asStr_injective equal).symm, if_neg (Ne.symm different)]
    · dsimp only
      rw [Relation.insert_rows inserted, List.map_append]
      rfl

end

section
variable [Sha256] {prepared given : WorkManagementPreparedIntent} {context : IssueOperationContext} {before after : IssueTables}

omit [Sha256] in
theorem toOption_some {ε α : Type} {result : Except ε α} {value : α} (some : result.toOption = .some value) : result = .ok value := by
  cases result with
  | error error => cases some
  | ok found => cases some; rfl

variable {evidenceIds : List EvidenceReferenceId}

omit [Sha256] in
theorem supportMatchesCommand_sound {judgment : Option HumanJudgment} {support : SupportWitness}
    (agrees : supportMatchesCommand prepared evidenceIds judgment = true)
    (shown : prepared.preview.support = some support) :
    SupportRow.Sound ⟨prepared.id, support.disposition, support.classification, support.judgments, support.evidence⟩ := by
  unfold supportMatchesCommand at agrees
  rw [shown, Option.any_some, decide_eq_true_eq] at agrees
  obtain ⟨_, evaluated, _⟩ := agrees
  obtain ⟨offered, made, evaluated⟩ := Option.bind_eq_some_iff.mp evaluated
  exact ⟨offered, support, toOption_some made, toOption_some evaluated, rfl, rfl⟩

def previewRow (prepared : WorkManagementPreparedIntent) (kind : Option IssueH2aExecuteKind) (issueId : IssueId)
    (expectedVersion : AggregateVersion) (resolutionType : Option IssueResolutionType)
    (rationale : Option WorkManagementRationale) (createdAt : UtcTimestamp) : PreparedIntentRow where
  id := prepared.id
  kind
  payloadDigest := prepared.payloadDigest
  classification := prepared.preview.classification
  primaryId := issueId
  primaryVersion := expectedVersion
  resolutionType
  rationale
  expiresAt := prepared.preview.expiresAt
  createdAt
  consumedAt := none

/-- A preview is placed with what was asked for it, and nothing is changed of the Issues and the
other previews. -/
structure Places (row : PreparedIntentRow) (request : PrepareRequest) (before after : IssueTables) : Prop where
  inserted : before.preparedIntents.insert row = some after.preparedIntents
  asked : ∃ reply, after.commandPrepares.rows = before.commandPrepares.rows ++ [reply] ∧
    reply.resultReference = row.id ∧ reply.request = request
  issues : after.issues = before.issues
  same : ∀ id, SameIssue id before after

variable {expectedVersion : AggregateVersion}

theorem persistPreparedIntent_ok {kind : Option IssueH2aExecuteKind} {issueId : IssueId}
    {resolutionType : Option IssueResolutionType} {rationale : Option WorkManagementRationale}
    (success : persistPreparedIntent context prepared kind issueId expectedVersion resolutionType rationale before = .ok after)
    :
    Grows before after ∧ after = { before with preparedIntents := after.preparedIntents } ∧ ∃ createdAt,
      prepared.preview.expiresAt.checkedAdd (-workManagementH2aTtlMillis) = some createdAt ∧
      before.preparedIntents.insert (previewRow prepared kind issueId expectedVersion resolutionType rationale createdAt) =
        some after.preparedIntents := by
  obtain ⟨createdAt, dated, success⟩ := bind_ok.mp success
  obtain ⟨_, _, success⟩ := bind_ok.mp success
  obtain ⟨_, _, success⟩ := bind_ok.mp success
  obtain ⟨_, inserted, success⟩ := bind_ok.mp success
  cases pure_ok.mp success
  exact ⟨{ Grows.refl before with
    intents := insertIntent_keeps (require_ok.mp inserted) rfl
    advances := .of_same fun _ => ⟨rfl, fun _ => rfl, rfl, rfl⟩ }, rfl, createdAt, require_ok.mp dated, require_ok.mp inserted⟩

omit [Sha256] in
theorem persistIssueH2aSupport_ok {role : EvidenceRole} (success : persistIssueH2aSupport context prepared role before = .ok after) :
    Grows before after ∧ after = { before with supports := after.supports } ∧ ∃ support,
      prepared.preview.support = some support ∧ (∀ evidence ∈ support.evidence, evidence.role = role) ∧ before.supports.insert
        ⟨prepared.id, support.disposition, support.classification, support.judgments, support.evidence⟩ = some after.supports := by
  obtain ⟨support, shown, success⟩ := bind_ok.mp success
  obtain ⟨_, roles, success⟩ := bind_ok.mp success
  obtain ⟨_, _, success⟩ := bind_ok.mp success
  obtain ⟨_, inserted, success⟩ := bind_ok.mp success
  cases pure_ok.mp success
  have inserted := require_ok.mp inserted
  exact ⟨{ Grows.refl before with
    supports := fun _ _ => Relation.find_insert_kept inserted
    advances := .of_same fun _ => ⟨rfl, fun _ => rfl, rfl, rfl⟩ }, rfl, support, require_ok.mp shown, ensure_ok.mp roles, inserted⟩

omit [Sha256] in
theorem persistPrepare_ok {operation : IssueOperation} {issueId : IssueId} {request : PrepareRequest}
    {ordinals : List Nat}
    (success : persistPrepare context operation issueId expectedVersion request prepared ordinals before = .ok after) :
    Grows before after ∧ ∃ reply, after.commandPrepares.rows = before.commandPrepares.rows ++ [reply] ∧
      reply.resultReference = prepared.id ∧ reply.request = request ∧
      after = { before with
        idempotencyClaims := after.idempotencyClaims
        commandPrepares := after.commandPrepares
        ledgerRevision := after.ledgerRevision } := by
  obtain ⟨claimed, claim, success⟩ := bind_ok.mp success
  obtain ⟨commandPrepares, inserted, success⟩ := bind_ok.mp success
  obtain ⟨claims, _, _, same⟩ := claimIdempotency_ok claim
  have kept : Grows claimed { claimed with commandPrepares } :=
    { Grows.refl claimed with advances := .of_same fun _ => ⟨rfl, fun _ => rfl, rfl, rfl⟩ }
  have inserted := Relation.insert_rows (require_ok.mp inserted)
  have revised := advanceRevision_ok success
  rw [same] at inserted
  refine ⟨claims.trans (kept.trans (advanceRevision_grows success)), _,
    (congrArg (fun tables => tables.commandPrepares.rows) revised).trans inserted, rfl, rfl, ?_⟩
  rw [revised, same]

omit [Sha256] in
theorem supportMatchesCommand_read {judgment : Option HumanJudgment} {support : SupportWitness} {role : EvidenceRole}
    {tables : IssueTables} (agrees : supportMatchesCommand prepared evidenceIds judgment = true)
    (shown : prepared.preview.support = some support) (roles : ∀ evidence ∈ support.evidence, evidence.role = role)
    (found : tables.supports.find prepared.id =
      some ⟨prepared.id, support.disposition, support.classification, support.judgments, support.evidence⟩) :
    decodeIssueH2aSupport context tables prepared.id role = .ok support := by
  unfold supportMatchesCommand at agrees
  rw [shown, Option.any_some, decide_eq_true_eq] at agrees
  obtain ⟨_, evaluated, _⟩ := agrees
  obtain ⟨offered, made, evaluated⟩ := Option.bind_eq_some_iff.mp evaluated
  refine bind_ok.mpr ⟨_, require_ok.mpr found, bind_ok.mpr ⟨(), ensure_ok.mpr roles, bind_ok.mpr ⟨offered, ?_, ?_⟩⟩⟩
  · exact relabel_ok.mpr (toOption_some made)
  · exact relabel_ok.mpr (toOption_some evaluated)

structure PlacedTransition (command : PrepareTransition) (prepared : WorkManagementPreparedIntent) (before after : IssueTables) :
    Prop where
  stands : ∃ standing, before.standing command.issueId = some standing
  operation : prepared.operation = command.operation
  placed : ∃ createdAt, prepared.preview.expiresAt.checkedAdd (-workManagementH2aTtlMillis) = some createdAt ∧
    Places (previewRow prepared (some command.kind) command.issueId command.expectedVersion command.resolutionType
      command.rationale createdAt) command.request before after
  support : ∃ support, prepared.preview.support = some support ∧
    ∀ context, decodeIssueH2aSupport context after prepared.id command.kind.evidenceRole = .ok support

theorem prepareTransition_ok {command : PrepareTransition}
    (success : prepareTransition command prepared before = .ok (after, given)) :
    after = before ∨ Grows before after ∧ after.supportHistory = before.supportHistory ∧
      after.rejectPrepareds = before.rejectPrepareds ∧
      (∃ header, header.Sound ∧ before.supports.insert header = some after.supports) ∧
      given = prepared ∧ PlacedTransition command prepared before after := by
  unfold prepareTransition at success
  obtain ⟨_, _, success⟩ := bind_ok.mp success
  split at success
  · obtain ⟨_, _, success⟩ := bind_ok.mp success
    cases pure_ok.mp success
    exact .inl rfl
  obtain ⟨standing, stands, success⟩ := bind_ok.mp success
  obtain ⟨_, _, success⟩ := bind_ok.mp success
  obtain ⟨_, asked, success⟩ := bind_ok.mp success
  obtain ⟨placed, intent, success⟩ := bind_ok.mp success
  obtain ⟨shown, support, success⟩ := bind_ok.mp success
  obtain ⟨_, told, success⟩ := bind_ok.mp success
  cases pure_ok.mp success
  obtain ⟨operation, agrees⟩ := ensure_ok.mp asked
  obtain ⟨one, same, createdAt, dated, row⟩ := persistPreparedIntent_ok intent
  obtain ⟨two, same', witness, offered, roles, inserted⟩ := persistIssueH2aSupport_ok support
  obtain ⟨three, reply, replies, refers, requests, same''⟩ := persistPrepare_ok told
  have found := three.supports _ _ (Relation.find_inserted inserted)
  refine .inr ⟨one.trans (two.trans three), ?_, ?_, ⟨_, supportMatchesCommand_sound agrees offered, ?_⟩, rfl,
    ⟨_, require_ok.mp stands⟩, operation, ⟨createdAt, dated, ?_, ⟨reply, ?_, refers, requests⟩, ?_, fun id => ?_⟩,
    witness, offered, fun context => supportMatchesCommand_read agrees offered roles found⟩
  · rw [same'', same', same]
  · rw [same'', same', same]
  · rw [same'', ← inserted, same]
  · rw [same'', same']
    exact row
  · rw [replies, same', same]
  · rw [same'', same', same]
  · rw [same'', same', same]
    exact ⟨rfl, fun _ => rfl, rfl, rfl⟩

structure PlacedLowering (command : PrepareLowerIssueClassification) (prepared : WorkManagementPreparedIntent)
    (before after : IssueTables) : Prop where
  stands : ∃ registered issue, before.standing command.issueId = some (registered, issue) ∧
    registered.version = command.expectedVersion ∧
    prepared.operation = .lowerIssueClassification command.issueId command.expectedVersion registered.classification
      command.proposedClassification command.rationale
  placed : ∃ createdAt, prepared.preview.expiresAt.checkedAdd (-workManagementH2aTtlMillis) = some createdAt ∧
    Places (previewRow prepared none command.issueId command.expectedVersion none none createdAt)
      (.lowerClassification command.proposedClassification command.rationale) before after

theorem prepareLowerIssueClassification_ok {command : PrepareLowerIssueClassification}
    (success : SqliteProductLedger.prepareLowerIssueClassification command prepared before = .ok (after, given)) :
    Grows before after ∧ after.supports = before.supports ∧ after.supportHistory = before.supportHistory ∧
      after.rejectPrepareds = before.rejectPrepareds ∧
      (after = before ∨ given = prepared ∧ PlacedLowering command prepared before after) := by
  unfold SqliteProductLedger.prepareLowerIssueClassification at success
  obtain ⟨_, _, success⟩ := bind_ok.mp success
  split at success
  · obtain ⟨_, _, success⟩ := bind_ok.mp success
    cases pure_ok.mp success
    exact ⟨.refl _, rfl, rfl, rfl, .inl rfl⟩
  obtain ⟨⟨registered, issue⟩, stands, success⟩ := bind_ok.mp success
  obtain ⟨_, versioned, success⟩ := bind_ok.mp success
  obtain ⟨_, operation, success⟩ := bind_ok.mp success
  obtain ⟨placed, intent, success⟩ := bind_ok.mp success
  obtain ⟨_, told, success⟩ := bind_ok.mp success
  cases pure_ok.mp success
  obtain ⟨one, same, createdAt, dated, row⟩ := persistPreparedIntent_ok intent
  obtain ⟨two, reply, replies, refers, requests, same'⟩ := persistPrepare_ok told
  refine ⟨one.trans two, ?_, ?_, ?_, .inr ⟨rfl, ⟨registered, issue, require_ok.mp stands, ensure_ok.mp versioned,
    ensure_ok.mp operation⟩, createdAt, dated, ?_, ⟨reply, ?_, refers, requests⟩, ?_, fun id => ?_⟩⟩
  · rw [same', same]
  · rw [same', same]
  · rw [same', same]
  · rw [same']
    exact row
  · rw [replies, same]
  · rw [same', same]
  · rw [same', same]
    exact ⟨rfl, fun _ => rfl, rfl, rfl⟩

end

variable [Sha256] {command : RejectIssuePreparedIntent} {arguments : Arguments} {rejected : RejectedPreparedIntentOutcome}
  {before after : IssueTables}

def rejectedAudit (id : AuditEventId) (occurredAt : UtcTimestamp) (target : IssueId) (correlationId : CorrelationId) : AuditEvent :=
  .new id occurredAt .headOfProducts ⟨.workManagement, rejectedCode, .issue target⟩ correlationId
    ⟨.allowed, .rejected, .notAttempted, .none, [], rfl⟩

omit [Sha256] in
theorem preparedIntentRejectionAudit_eq (id : AuditEventId) (occurredAt : UtcTimestamp) (target : IssueId)
    (correlationId : CorrelationId) : preparedIntentRejectionAudit id occurredAt "issue.prepared_rejected" (.issue target)
      correlationId = some (rejectedAudit id occurredAt target correlationId) := rfl

def rejectionOf (row : RejectPreparedRow) (intent : PreparedIntentRow) : RejectedPreparedIntentOutcome :=
  ⟨intent.id, row.rejectedAt, decide (intent.expiresAt ≤ row.rejectedAt),
    rejectedAudit row.auditEventId row.rejectedAt intent.primaryId row.correlationId⟩

def rejectionAuditRow (row : RejectPreparedRow) (intent : PreparedIntentRow) : AuditRow where
  id := row.auditEventId
  occurredAt := row.rejectedAt
  code := rejectedCode
  target := intent.primaryId
  correlationId := row.correlationId
  approvalOutcome := .rejected
  executionOutcome := .notAttempted
  effectScope := .none
  effects := []

structure RejectionRecorded (row : RejectPreparedRow) (intent : PreparedIntentRow) (tables : IssueTables) : Prop where
  found : tables.rejectPrepareds.find row.idempotencyId = some row
  actor : row.actor = .headOfProducts
  pending : tables.preparedIntents.find row.preparedIntentId = some intent
  named : ∃ kind, intent.kind = some kind
  consumed : intent.consumedAt = some row.rejectedAt
  audited : tables.auditEvents.find row.auditEventId = some (rejectionAuditRow row intent)

variable {intent : PreparedIntentRow}

omit [Sha256] in
theorem RejectionRecorded.grows {row : RejectPreparedRow} {later : IssueTables}
    (recorded : RejectionRecorded row intent before) (grows : Grows before later) :
    RejectionRecorded row intent later := by
  obtain ⟨intent', pending, _, kept⟩ := grows.intents _ _ recorded.pending
  cases kept _ recorded.consumed
  exact { recorded with
    found := grows.rejects _ _ recorded.found
    pending
    audited := grows.audits _ _ recorded.audited }

variable {rejections : List IssueH2aRejectionReplay}

variable {prepared : Option WorkManagementPreparedIntent}

omit [Sha256] in
theorem rejectRehydrated_ok {record : IssueRecord}
    (unknown : (rehydrate record prepared rejections).state.own.idem[command.context.idempotencyId]? = none)
    (success : (Issues.rejectIssuePreparedIntent (rehydrate record prepared rejections) (arguments.ports false) command).2 =
      .ok rejected) :
    command.actor = .headOfProducts ∧ ∃ intent audit, prepared = some intent ∧ command.preparedId = intent.id ∧ ∃ issueId,
      rejectedIssueId intent.operation = some issueId ∧
      preparedIntentRejectionAudit arguments.auditEventId arguments.occurredAt "issue.prepared_rejected" (.issue issueId)
        command.context.correlationId = some audit ∧
      rejected = ⟨intent.id, arguments.occurredAt, decide (intent.preview.expiresAt ≤ arguments.occurredAt), audit⟩ := by
  obtain ⟨staged, decided, rfl⟩ := settle_outcome success
  unfold stageRejection at decided
  simp only [replay, unknown, bind_ok, ensure_ok, require_ok, pure_ok] at decided
  obtain ⟨_, ⟨actor, _⟩, intent, pending, issueId, targeted, auditId, drawn, audit, made, rfl⟩ := decided
  cases drawn
  cases prepared with
  | none =>
    unfold rehydrate at pending
    simp at pending
  | some prepared =>
    obtain ⟨named, rfl⟩ := rehydrate_prepared pending
    exact ⟨actor, intent, audit, rfl, named, issueId, targeted, made, rfl⟩

variable {context : IssueOperationContext} {tables : IssueTables} {id : IssueId} {classification : DataClassification}
  {row : RejectPreparedRow} {rejection : IssueH2aRejectionReplay}

theorem decodeRejection_ok (decoded : decodeRejection context tables id classification row = .ok rejection) :
    ∃ intent kind, tables.preparedIntents.find row.preparedIntentId = some intent ∧ intent.kind = some kind ∧
      Remade tables kind intent classification rejection.prepared ∧ rejection.context.idempotencyId = row.idempotencyId := by
  obtain ⟨intent, found, decoded⟩ := bind_ok.mp decoded
  obtain ⟨kind, named, decoded⟩ := bind_ok.mp decoded
  obtain ⟨prepared, rebuilt, decoded⟩ := bind_ok.mp decoded
  obtain ⟨_, _, decoded⟩ := bind_ok.mp decoded
  obtain ⟨audit, _, decoded⟩ := bind_ok.mp decoded
  obtain ⟨stored, _, decoded⟩ := bind_ok.mp decoded
  obtain ⟨_, _, decoded⟩ := bind_ok.mp decoded
  cases pure_ok.mp decoded
  obtain ⟨intent', found', _, _, remade⟩ := decodePreparedIntent_ok.mp rebuilt
  cases (require_ok.mp found).symm.trans found'
  exact ⟨intent, kind, found', require_ok.mp named, remade, rfl⟩

theorem RejectionRecorded.decoded {kind : IssueH2aExecuteKind} {prepared : WorkManagementPreparedIntent}
    (recorded : RejectionRecorded row intent tables) (named : intent.kind = some kind)
    (remade : Remade tables kind intent classification prepared) :
    decodeRejection context tables intent.primaryId classification row =
      .ok ⟨prepared, ⟨row.idempotencyId, row.correlationId⟩, rejectionOf row intent⟩ := by
  refine bind_ok.mpr ⟨intent, require_ok.mpr recorded.pending, bind_ok.mpr ⟨kind, require_ok.mpr named, ?_⟩⟩
  have rebuilt : decodePreparedIntent context tables kind row.preparedIntentId classification false = .ok prepared :=
    decodePreparedIntent_ok.mpr ⟨intent, recorded.pending, named, nofun, remade⟩
  refine bind_ok.mpr ⟨prepared, rebuilt, bind_ok.mpr ⟨(), ensure_ok.mpr recorded.consumed, ?_⟩⟩
  refine bind_ok.mpr ⟨_, require_ok.mpr (preparedIntentRejectionAudit_eq ..), bind_ok.mpr ⟨_, require_ok.mpr recorded.audited, ?_⟩⟩
  refine bind_ok.mpr ⟨(), ensure_ok.mpr ⟨rfl, rfl, rfl, rfl, rfl, rfl, rfl, rfl⟩, ?_⟩
  rw [remade.previews.1, remade.expires]
  rfl

def rejectionsOf (tables : IssueTables) (id : IssueId) : List RejectPreparedRow :=
  (Sorting.sortBy (Sorting.comparing compare RejectPreparedRow.operationOrdinal) tables.rejectPrepareds.rows).filter fun row =>
    (tables.preparedIntents.find row.preparedIntentId).any fun intent => intent.primaryId = id

omit [Sha256] in
theorem mem_rejectionsOf : row ∈ rejectionsOf tables id ↔ tables.rejectPrepareds.find row.idempotencyId = some row ∧
    ∃ intent, tables.preparedIntents.find row.preparedIntentId = some intent ∧ intent.primaryId = id := by
  unfold rejectionsOf
  rw [List.mem_filter, Sorting.mem_sortBy, Relation.mem_iff]
  refine and_congr_right fun _ => ?_
  constructor
  · intro any
    obtain ⟨intent, found, same⟩ := (Option.any_eq_true _ _).mp any
    exact ⟨intent, found, of_decide_eq_true same⟩
  · intro ⟨intent, found, same⟩
    exact (Option.any_eq_true _ _).mpr ⟨intent, found, decide_eq_true same⟩

theorem decodeIssueRejections_ok :
    decodeIssueRejections context tables id classification = .ok rejections ↔
      List.Forall₂ (fun row rejection => decodeRejection context tables id classification row = .ok rejection)
        (rejectionsOf tables id) rejections := mapM_ok

/-- A fresh rejection: what it found and what it left. -/
structure Rejected (command : RejectIssuePreparedIntent) (rejected : RejectedPreparedIntentOutcome) (row : RejectPreparedRow)
    (intent : PreparedIntentRow) (before after : IssueTables) : Prop where
  asked : row.idempotencyId = command.context.idempotencyId ∧ row.preparedIntentId = command.preparedId ∧
    row.actor = command.actor
  previewed : ∃ pending, before.preparedIntents.find command.preparedId = some pending ∧
    pending.primaryId = intent.primaryId
  recorded : RejectionRecorded row intent after
  answered : rejected = rejectionOf row intent
  unclaimed : before.idempotencyClaims.find command.context.idempotencyId = none
  claimed : after.idempotencyClaims.find command.context.idempotencyId = some ⟨command.context.idempotencyId, .rejectPrepared⟩
  grows : Grows before after
  inserted : before.rejectPrepareds.insert row = some after.rejectPrepareds
  fresh : ∀ other ∈ before.rejectPrepareds.rows, other.preparedIntentId ≠ row.preparedIntentId ∧
    other.auditEventId ≠ row.auditEventId
  supports : after.supports = before.supports
  history : after.supportHistory = before.supportHistory

structure Reread (command : RejectIssuePreparedIntent) (row : RejectPreparedRow) (tables : IssueTables) : Prop where
  found : tables.rejectPrepareds.find command.context.idempotencyId = some row
  asked : row.preparedIntentId = command.preparedId ∧ row.actor = command.actor
  read : ∃ intent record rejections, tables.preparedIntents.find command.preparedId = some intent ∧
    decodeIssueH2aRecord command.context tables intent.primaryId = .ok record ∧
    decodeIssueRejections command.context tables intent.primaryId record.classification = .ok rejections

omit [Sha256] in
theorem rejectedIssueId_operation {kind : IssueH2aExecuteKind} {operation : WorkManagementOperation}
    (asked : kind.operation intent = some operation) : rejectedIssueId operation = some intent.primaryId := by
  cases kind with
  | resolve =>
    obtain ⟨_, _, asked⟩ := Option.bind_eq_some_iff.mp asked
    obtain ⟨_, _, asked⟩ := Option.bind_eq_some_iff.mp asked
    cases asked
    rfl
  | close => cases asked; rfl
  | reopen =>
    obtain ⟨_, _, asked⟩ := Option.bind_eq_some_iff.mp asked
    cases asked
    rfl

theorem unknown_answer {record : IssueRecord} {key : IdempotencyId} (absent : tables.rejectPrepareds.find key = none)
    (decoded : decodeIssueRejections context tables id classification = .ok rejections) :
    (rehydrate record prepared rejections).state.own.idem[key]? = none := by
  cases found : (rehydrate record prepared rejections).state.own.idem[key]? with
  | none => rfl
  | some answer =>
    obtain ⟨rejection, listed, named, _⟩ := rehydrate_answers found
    obtain ⟨row, held, made⟩ := (mem_matched (decodeIssueRejections_ok.mp decoded)).2 rejection listed
    obtain ⟨_, _, _, _, _, same⟩ := decodeRejection_ok made
    cases ((same ▸ named) ▸ (mem_rejectionsOf.mp held).1).symm.trans absent

omit [Sha256] in
theorem persistIssuePreparedIntentRejection_ok {operationOrdinal : Nat} {auditId : AuditEventId}
    {rejectedAt : UtcTimestamp} (pending : before.preparedIntents.find command.preparedId = some intent)
    (actor : command.actor = .headOfProducts) (named : intent.id = command.preparedId)
    (success : SqliteProductLedger.persistIssuePreparedIntentRejection command.context operationOrdinal
      ⟨command.preparedId, rejectedAt, decide (intent.expiresAt ≤ rejectedAt),
        rejectedAudit auditId rejectedAt intent.primaryId command.context.correlationId⟩ before = .ok after) :
    ∃ row, Rejected command ⟨command.preparedId, rejectedAt, decide (intent.expiresAt ≤ rejectedAt),
      rejectedAudit auditId rejectedAt intent.primaryId command.context.correlationId⟩ row
      { intent with consumedAt := some rejectedAt } before after ∧
      intent.consumedAt = none ∧ Consumes command.preparedId before after ∧ ∀ id, SameIssue id before after := by
  obtain ⟨issueId, target, success⟩ := bind_ok.mp success
  cases require_ok.mp target
  obtain ⟨intent', found, success⟩ := bind_ok.mp success
  obtain ⟨found, unconsumed⟩ := Option.filter_eq_some_iff.mp (require_ok.mp found)
  cases pending.symm.trans found
  obtain ⟨_, kept, success⟩ := bind_ok.mp success
  obtain ⟨kinded, _⟩ := ensure_ok.mp kept
  obtain ⟨audited, inserted, success⟩ := bind_ok.mp success
  obtain ⟨_, fresh, success⟩ := bind_ok.mp success
  obtain ⟨claimed, claim, success⟩ := bind_ok.mp success
  obtain ⟨rejectPrepareds, rejected, success⟩ := bind_ok.mp success
  cases pure_ok.mp success
  have rejected := require_ok.mp rejected
  have fresh := ensure_ok.mp fresh
  obtain ⟨audits, recorded, same⟩ := insertAudit_ok inserted
  obtain ⟨claims, owned, unclaimed, same'⟩ := claimIdempotency_ok claim
  have consumed : Grows before { before with
      preparedIntents := before.preparedIntents.update command.preparedId fun row => { row with consumedAt := some rejectedAt } } :=
    { Grows.refl before with
      intents := consume_keeps (fun row => { row with consumedAt := some rejectedAt }) (fun _ => rfl) rfl fun row there => by
        cases pending.symm.trans there
        have none := Option.isNone_iff_eq_none.mp unconsumed
        exact ⟨rfl, fun _ some => by cases none.symm.trans some⟩
      advances := .of_same fun _ => ⟨rfl, fun _ => rfl, rfl, rfl⟩ }
  have kept : Grows claimed { claimed with rejectPrepareds } :=
    { Grows.refl claimed with
      rejects := fun _ _ => Relation.find_insert_kept rejected
      advances := .of_same fun _ => ⟨rfl, fun _ => rfl, rfl, rfl⟩ }
  have updated : (before.preparedIntents.update command.preparedId fun row =>
      { row with consumedAt := some rejectedAt }).find command.preparedId =
        some { intent with consumedAt := some rejectedAt } := Relation.find_update_self pending
  have rows : claimed.rejectPrepareds = before.rejectPrepareds := by rw [same', same]
  refine ⟨_, ⟨⟨rfl, rfl, actor.symm⟩, ⟨intent, pending, rfl⟩, ⟨Relation.find_inserted rejected, rfl, ?_, ?_, rfl, ?_⟩, ?_, ?_, owned,
    consumed.trans (audits.trans (claims.trans kept)), ?_, ?_, ?_, ?_⟩, Option.isNone_iff_eq_none.mp unconsumed, ?_, fun id => ?_⟩
  · dsimp only
    rw [same', same]
    exact updated
  · exact Option.isSome_iff_exists.mp kinded
  · exact claims.audits _ _ recorded
  · simp only [rejectionOf, named]
    rfl
  · rw [same] at unclaimed
    exact unclaimed
  · rw [← rows]
    exact rejected
  · rw [same] at fresh
    exact fresh
  · dsimp only
    rw [same', same]
  · dsimp only
    rw [same', same]
  · rw [same', same]
    exact ⟨rfl, rfl, fun row => { row with consumedAt := some rejectedAt }, fun _ => rfl, rfl, fun _ => ⟨nofun, rfl⟩⟩
  · rw [same', same]
    exact ⟨rfl, fun _ => rfl, rfl, rfl⟩

omit [Sha256] in
theorem Rejected.grown {row : RejectPreparedRow} {later : IssueTables}
    (done : Rejected command rejected row intent before after)
    (revised : later = { after with ledgerRevision := later.ledgerRevision }) :
    Rejected command rejected row intent before later := by
  have grows : Grows after later := by
    rw [revised]
    exact { Grows.refl after with advances := .of_same fun _ => ⟨rfl, fun _ => rfl, rfl, rfl⟩ }
  exact { done with
    recorded := done.recorded.grows grows
    claimed := grows.claims _ _ done.claimed
    grows := done.grows.trans grows
    inserted := by rw [revised]; exact done.inserted
    supports := by rw [revised]; exact done.supports
    history := by rw [revised]; exact done.history }

theorem rejectIssuePreparedIntent_ok
    (success : SqliteProductLedger.rejectIssuePreparedIntent command arguments before = .ok (after, rejected)) :
    (after = before ∧ ∃ row, Reread command row before) ∨
    ∃ row intent, Rejected command rejected row intent before after ∧
      (∃ standing, before.standing intent.primaryId = some standing) ∧
      (∃ pending, before.preparedIntents.find command.preparedId = some pending ∧ pending.consumedAt = none) ∧
      Consumes command.preparedId before after ∧ ∀ id, SameIssue id before after := by
  unfold SqliteProductLedger.rejectIssuePreparedIntent at success
  obtain ⟨_, admitted, success⟩ := bind_ok.mp success
  obtain ⟨intent, found, success⟩ := bind_ok.mp success
  obtain ⟨found, _⟩ := Option.filter_eq_some_iff.mp (require_ok.mp found)
  obtain ⟨kind, named, success⟩ := bind_ok.mp success
  obtain ⟨record, read, success⟩ := bind_ok.mp success
  obtain ⟨rejections, decoded, success⟩ := bind_ok.mp success
  obtain ⟨prepared, pending, success⟩ := bind_ok.mp success
  obtain ⟨_, _, success⟩ := bind_ok.mp success
  obtain ⟨given, answered, success⟩ := bind_ok.mp success
  unfold SqliteProductLedger.admitRejection at admitted
  dsimp only at admitted
  split at admitted
  next row replaying =>
    rw [replaying] at success
    cases pure_ok.mp success
    exact .inl ⟨rfl, row, replaying, ensure_ok.mp admitted, intent, record, rejections, found, read, decoded⟩
  next absent =>
    rw [absent] at success
    obtain ⟨_, _, success⟩ := bind_ok.mp success
    obtain ⟨written, persisted, success⟩ := bind_ok.mp success
    obtain ⟨_, _, success⟩ := bind_ok.mp success
    obtain ⟨advanced, revised, success⟩ := bind_ok.mp success
    cases pure_ok.mp success
    obtain ⟨actor, preview, audit, rfl, asked, issueId, targeted, made, rfl⟩ :=
      rejectRehydrated_ok (unknown_answer absent decoded) answered
    have named : intent.id = command.preparedId := Relation.find_key found
    unfold SqliteProductLedger.pendingPreview at pending
    split at pending
    case isFalse => cases pending
    have rebuilt : decodePreparedIntent command.context before kind command.preparedId record.classification true =
        .ok preview := by
      cases attempted : decodePreparedIntent command.context before kind command.preparedId record.classification true with
      | error error => rw [attempted] at pending; cases pending
      | ok rebuilt => rw [attempted] at pending; cases pending; rfl
    obtain ⟨intent', found', _, _, remade⟩ := decodePreparedIntent_ok.mp rebuilt
    cases found.symm.trans found'
    cases (rejectedIssueId_operation remade.previews.2.1).symm.trans targeted
    cases made
    rw [← asked, remade.expires] at persisted ⊢
    obtain ⟨row, done, waited, consumed, same⟩ := persistIssuePreparedIntentRejection_ok found actor named persisted
    obtain ⟨_, _, _, stands, _⟩ := decodeIssueH2aRecord_ok.mp read
    refine .inr ⟨row, _, done.grown (advanceRevision_ok revised ▸ rfl), ⟨_, stands⟩, ⟨_, found, waited⟩, ?_, fun id => ?_⟩
    · rw [advanceRevision_ok revised]
      exact ⟨consumed.identities, consumed.prepares, consumed.intents⟩
    · rw [advanceRevision_ok revised]
      exact ⟨(same id).standing, (same id).evidence, (same id).reopens, (same id).supports⟩

end MissionControl.Issues

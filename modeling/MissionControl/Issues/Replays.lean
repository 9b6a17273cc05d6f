import MissionControl.Issues.Reached

/-! What a command issued again is told from: a creation and an executed preview from the Issue
as it stands by then, a rejection from all rejections of the Issue. -/

namespace MissionControl.Issues
open Checked Staging
open Evidence (RegistryRow)
open Actions (RejectedPreparedIntentOutcome)

section
variable {command : CreateIssue} {arguments : Arguments} {mutation given : IssueMutationOutcome}
  {committed later : IssueTables}

theorem CreationRecorded.replayed (recorded : CreationRecorded command mutation committed) (grows : Grows committed later) :
    SqliteProductLedger.createIssue command arguments later = .ok (later, given) ↔
      outcome command.context command.id later = .ok given := by
  obtain ⟨row, found, issue, title, details, classification⟩ := recorded.found
  unfold SqliteProductLedger.createIssue
  dsimp only
  rw [grows.creates _ _ found]
  constructor
  · intro success
    obtain ⟨_, _, success⟩ := bind_ok.mp success
    obtain ⟨_, told, success⟩ := bind_ok.mp success
    cases pure_ok.mp success
    exact told
  · intro told
    refine bind_ok.mpr ⟨(), ensure_ok.mpr ⟨issue, title, details, classification, recorded.plain⟩, ?_⟩
    exact bind_ok.mpr ⟨_, told, rfl⟩

theorem CreationRecorded.retold (recorded : CreationRecorded command mutation committed) (grows : Grows committed later) :
    outcome command.context command.id later = .ok mutation ↔
      ∀ registered, later.aggregate command.id = some registered → registered.version = .initial := by
  obtain ⟨registered, issue, stands, first⟩ := outcome_initial recorded.told
  obtain same | ⟨present, row, standing, risen⟩ := grows.advances _ _ _ stands
  · refine iff_of_true (outcome_kept grows same recorded.told) fun present aggregate => ?_
    cases (standing_some.mp (same.standing.trans stands)).1.symm.trans aggregate
    exact first
  · have later_version : present.version ≠ .initial := by
      intro initial
      rw [first, initial] at risen
      exact lt_irrefl _ risen
    refine iff_of_false (fun told => ?_) fun unrevised => later_version (unrevised _ (standing_some.mp standing).1)
    obtain ⟨_, _, standing', initial⟩ := outcome_initial told
    cases standing.symm.trans standing'
    exact later_version initial

end

section
variable [Sha256] {context : IssueOperationContext} {command : ApproveAndExecuteIssueTransition} {arguments : Arguments}
  {outcome given : IssueMutationOutcome} {intent : PreparedIntentRow} {record : IssueRecord} {issueId : IssueId}
  {audit : AuditEvent} {row : CommandExecuteRow} {before committed later : IssueTables}

omit [Sha256] in
theorem ExecutionRecorded.told {operation : IssueOperation} {kind : Option IssueH2aExecuteKind}
    {approval : WorkManagementApproval} (recorded : ExecutionRecorded context operation kind approval issueId audit row later) :
    replayIssueExecuteOutcome context row later = .ok given ↔ ∃ record, decodeIssueH2aRecord context later issueId = .ok record ∧
      given = ⟨record, [audit], some row.approvalReceiptId⟩ := by
  constructor
  · intro told
    obtain ⟨record, read, told⟩ := bind_ok.mp told
    obtain ⟨_, audited, told⟩ := bind_ok.mp told
    cases pure_ok.mp told
    cases (recorded.audited context).symm.trans audited
    exact ⟨record, recorded.issue ▸ read, rfl⟩
  · rintro ⟨record, read, rfl⟩
    refine bind_ok.mpr ⟨record, recorded.issue.symm ▸ read, ?_⟩
    exact bind_ok.mpr ⟨audit, recorded.audited context, rfl⟩

omit [Sha256] in
theorem ExecutionRecorded.own {operation : IssueOperation} {kind : Option IssueH2aExecuteKind}
    {approval : WorkManagementApproval} (recorded : ExecutionRecorded context operation kind approval issueId audit row later) :
    claimedByOtherOperation context operation later = false ∧
      (later.commandExecutes.find context.idempotencyId).filter (fun row => row.kind = kind) = some row := by
  constructor
  · unfold claimedByOtherOperation
    rw [recorded.claimed]
    simp
  · exact Option.filter_eq_some_iff.mpr ⟨recorded.found, decide_eq_true recorded.kind⟩

theorem ExecutionRecorded.replayed {kind : IssueH2aExecuteKind} (recorded : ExecutionRecorded command.context (.execute kind)
    (some kind) command.approval issueId audit row later) :
    approveAndExecuteIssueH2a kind command arguments later = .ok (later, given) ↔
      replayIssueExecuteOutcome command.context row later = .ok given := by
  obtain ⟨own, found⟩ := recorded.own
  unfold approveAndExecuteIssueH2a
  dsimp only
  rw [found, own]
  constructor
  · intro success
    obtain ⟨_, _, success⟩ := bind_ok.mp success
    obtain ⟨_, _, success⟩ := bind_ok.mp success
    obtain ⟨_, told, success⟩ := bind_ok.mp success
    cases pure_ok.mp success
    exact told
  · intro told
    have actor := recorded.actor.trans command.approval.authorized.symm
    refine bind_ok.mpr ⟨(), ensure_ok.mpr rfl, ?_⟩
    refine bind_ok.mpr ⟨(), ensure_ok.mpr ⟨recorded.preparedId, actor, recorded.digest⟩, ?_⟩
    exact bind_ok.mpr ⟨_, told, rfl⟩

theorem ExecutionRecorded.lowering (recorded : ExecutionRecorded command.context .executeLowerClassification none
    command.approval issueId audit row later) (bound : command.approval.idempotencyId = command.context.idempotencyId) :
    SqliteProductLedger.approveAndExecuteLowerIssueClassification command arguments later = .ok (later, given) ↔
      replayIssueExecuteOutcome command.context row later = .ok given := by
  obtain ⟨own, found⟩ := recorded.own
  unfold SqliteProductLedger.approveAndExecuteLowerIssueClassification
  dsimp only
  rw [found, own]
  constructor
  · intro success
    obtain ⟨_, _, success⟩ := bind_ok.mp success
    obtain ⟨_, _, success⟩ := bind_ok.mp success
    obtain ⟨_, told, success⟩ := bind_ok.mp success
    cases pure_ok.mp success
    exact told
  · intro told
    have actor := recorded.actor.trans command.approval.authorized.symm
    refine bind_ok.mpr ⟨(), ensure_ok.mpr rfl, ?_⟩
    refine bind_ok.mpr ⟨(), ensure_ok.mpr ⟨recorded.preparedId, actor, recorded.digest, bound⟩, ?_⟩
    exact bind_ok.mpr ⟨_, told, rfl⟩

def Unchanged (preparedId : PreparedIntentId) (before later : IssueTables) : Prop :=
  ∀ intent registered present, before.preparedIntents.find preparedId = some intent →
    before.aggregate intent.primaryId = some registered → later.aggregate intent.primaryId = some present →
      registered.version.next = some present.version

omit [Sha256] in
theorem unchanged_cases {preparedId : PreparedIntentId} {registered written : RegistryRow} {issue changed : IssueRow}
    (previewed : before.preparedIntents.find preparedId = some intent)
    (stands : before.standing intent.primaryId = some (registered, issue))
    (rises : registered.version.next = some written.version)
    (stood : committed.standing intent.primaryId = some (written, changed)) (grows : Grows committed later) :
    (SameIssue intent.primaryId committed later ∧ Unchanged preparedId before later) ∨
      (∀ context record, decodeIssueH2aRecord context later intent.primaryId = .ok record → record.version ≠ written.version) ∧
        ¬ Unchanged preparedId before later := by
  obtain ⟨aggregate, _⟩ := standing_some.mp stands
  obtain same | ⟨present, row, standing, risen⟩ := grows.advances _ _ _ stood
  · refine .inl ⟨same, fun intent' registered' present found first there => ?_⟩
    cases previewed.symm.trans found
    cases aggregate.symm.trans first
    cases (standing_some.mp (same.standing.trans stood)).1.symm.trans there
    exact rises
  · have later_version : present.version ≠ written.version := by
      intro same
      rw [same] at risen
      exact lt_irrefl _ risen
    refine .inr ⟨fun context record read => ?_, fun unchanged => ?_⟩
    · obtain ⟨_, _, _, standing', _, _, rfl⟩ := decodeIssueH2aRecord_ok.mp read
      cases standing.symm.trans standing'
      exact later_version
    · have next := unchanged _ _ _ previewed aggregate (standing_some.mp standing).1
      exact later_version (Option.some.inj (next.symm.trans rises))

theorem Executed.retold {kind : IssueH2aExecuteKind} (executed : Executed kind command outcome intent record before committed)
    (sound : SupportsSound before) (grows : Grows committed later) :
    decodeIssueH2aRecord context later intent.primaryId = .ok outcome.record ↔
      Quiet kind command.approval.preparedId before ∧ Unchanged command.approval.preparedId before later := by
  have reads : ∃ told, decodeIssueH2aRecord context committed intent.primaryId = .ok told ∧
      told.version = outcome.record.version ∧ (told = outcome.record ↔ Quiet kind command.approval.preparedId before) :=
    executed.reads sound
  obtain ⟨told, read, version, quiet⟩ := reads
  obtain ⟨registered, issue, _, stands, _, _, same⟩ := decodeIssueH2aRecord_ok.mp executed.read
  obtain ⟨written, changed, _, stood, _, _, again⟩ := decodeIssueH2aRecord_ok.mp read
  obtain ⟨_, _, _, _, next, _, _, _, advances, moved⟩ := executed.remade
  have first : record.version = registered.version := by rw [same]; rfl
  have now : told.version = written.version := by rw [again]; rfl
  have rises : registered.version.next = some written.version := by
    rw [← first, advances, ← now, version, (transitioned_same moved).2]
  obtain ⟨same, unchanged⟩ | ⟨differs, revised⟩ := unchanged_cases executed.previewed stands rises stood grows
  · have kept : decodeIssueH2aRecord context later intent.primaryId = .ok told := decodeIssueH2aRecord_kept grows same read
    rw [kept, Except.ok.injEq, quiet]
    exact (and_iff_left unchanged).symm
  · exact iff_of_false (fun answered => differs _ _ answered (version.symm.trans now)) fun both => revised both.2

/-- What a lowering asked for is a class that data may be held in. -/
def Holdable (preparedId : PreparedIntentId) (before : IssueTables) : Prop :=
  ∀ proposedClassification rationale, loweringRequest before preparedId = some (proposedClassification, rationale) →
    proposedClassification ≠ .unclassified

omit [Sha256] in
theorem ExecutedLowering.retold (executed : ExecutedLowering command outcome intent record before committed)
    (grows : Grows committed later) :
    decodeIssueH2aRecord context later intent.primaryId = .ok outcome.record ↔
      Holdable command.approval.preparedId before ∧ Unchanged command.approval.preparedId before later := by
  obtain ⟨registered, issue, _, stands, _, _, read⟩ := decodeIssueH2aRecord_ok.mp executed.read
  obtain ⟨updatedAt, stood⟩ := executed.stands stands
  obtain ⟨proposedClassification, rationale, next, requested, advances, lowered⟩ := executed.lowered
  have first : record.version = registered.version := by rw [read]; rfl
  have rises : registered.version.next = some outcome.record.version := by rw [← first, advances, lowered]
  have classification : outcome.record.classification = proposedClassification := by rw [lowered]
  have holdable : Holdable command.approval.preparedId before ↔ outcome.record.classification ≠ .unclassified := by
    rw [classification]
    constructor
    · exact fun all => all _ _ requested
    · intro held proposed' rationale' requested'
      cases requested.symm.trans requested'
      exact held
  rw [holdable]
  obtain ⟨same, unchanged⟩ | ⟨differs, revised⟩ := unchanged_cases executed.previewed stands rises stood grows
  · constructor
    · intro told
      obtain ⟨_, _, _, _, _, held, equal⟩ := decodeIssueH2aRecord_ok.mp told
      refine ⟨?_, unchanged⟩
      rw [equal]
      exact held
    · intro ⟨held, _⟩
      have reads : decodeIssueH2aRecord context committed intent.primaryId = .ok outcome.record := executed.reads held
      exact decodeIssueH2aRecord_kept grows same reads
  · exact iff_of_false (fun told => differs _ _ told rfl) fun both => revised both.2

end

section
variable {α β γ : Type}

theorem exists_matched {matching : α → β → Prop} {items : List α} (all : ∀ item ∈ items, ∃ result, matching item result) :
    ∃ results, List.Forall₂ matching items results := by
  induction items with
  | nil => exact ⟨[], .nil⟩
  | cons item rest following =>
    obtain ⟨result, first⟩ := all item List.mem_cons_self
    obtain ⟨results, others⟩ := following fun other later => all other (List.mem_cons_of_mem _ later)
    exact ⟨result :: results, .cons first others⟩

theorem map_matched {first : α → γ} {second : β → γ} {items : List α} {results : List β}
    (matched : List.Forall₂ (fun item result => second result = first item) items results) :
    results.map second = items.map first := by
  induction matched with
  | nil => rfl
  | cons same _ rest => rw [List.map_cons, List.map_cons, same, rest]

end

section
variable {rejections : List IssueH2aRejectionReplay} {rejection : IssueH2aRejectionReplay}

theorem answers_other {key : IdempotencyId} (absent : key ∉ rejections.map fun rejection => rejection.context.idempotencyId)
    (idem : KeyMap IdempotencyId (Identity × Stored)) :
    (rejections.foldl (fun idem rejection => idem.insert rejection.context.idempotencyId rejection.answer) idem)[key]? =
      idem[key]? := by
  induction rejections generalizing idem with
  | nil => rfl
  | cons first rest following =>
    rw [List.map_cons, List.mem_cons, not_or] at absent
    rw [List.foldl_cons, following absent.2, KeyMap.get_insert, if_neg (Ne.symm absent.1)]

theorem answers_own (distinct : (rejections.map fun rejection => rejection.context.idempotencyId).Nodup)
    (listed : rejection ∈ rejections) (idem : KeyMap IdempotencyId (Identity × Stored)) :
    (rejections.foldl (fun idem rejection => idem.insert rejection.context.idempotencyId rejection.answer)
      idem)[rejection.context.idempotencyId]? = some rejection.answer := by
  induction rejections generalizing idem with
  | nil => cases listed
  | cons first rest following =>
    rw [List.map_cons, List.nodup_cons] at distinct
    rw [List.foldl_cons]
    rcases List.mem_cons.mp listed with rfl | later
    · rw [answers_other distinct.1, KeyMap.get_insert, if_pos rfl]
    · exact following distinct.2 later _

theorem rejectRehydrated_known {record : IssueRecord} {prepared : Option WorkManagementPreparedIntent} {ports : Ports}
    {command : RejectIssuePreparedIntent}
    (distinct : (rejections.map fun rejection => rejection.context.idempotencyId).Nodup) (listed : rejection ∈ rejections)
    (key : rejection.context.idempotencyId = command.context.idempotencyId) (asked : rejection.prepared.id = command.preparedId)
    (actor : command.actor = .headOfProducts) :
    (Issues.rejectIssuePreparedIntent (rehydrate record prepared rejections) ports command).2 = .ok rejection.outcome := by
  have known : (rehydrate record prepared rejections).state.own.idem[command.context.idempotencyId]? =
      some (.rejectPrepared command.preparedId command.actor, .rejected rejection.outcome) := by
    rw [← key, ← asked, actor]
    exact answers_own distinct listed ∅
  have decided : stageRejection (rehydrate record prepared rejections).state ports command =
      .ok (.replayed rejection.outcome) := by
    unfold stageRejection
    simp only [replay, known, if_true]
  unfold Issues.rejectIssuePreparedIntent
  rw [decided]
  rfl

end

variable [Sha256] {context : IssueOperationContext} {tables : IssueTables} {id : IssueId} {classification : DataClassification}
  {row : RejectPreparedRow} {rejection : IssueH2aRejectionReplay} {rejections : List IssueH2aRejectionReplay}

omit [Sha256] in
theorem Sound.readable (sound : Sound tables) {registered : RegistryRow} {issue : IssueRow}
    (stands : tables.standing id = some (registered, issue)) (held : registered.classification ≠ .unclassified) :
    ∃ record, (∀ context, decodeIssueH2aRecord context tables id = .ok record) ∧ record.id = id ∧
      record.classification = registered.classification := by
  obtain ⟨supports, read⟩ := exists_matched fun row (listed : row ∈ tables.supportsOf id) => by
    unfold IssueTables.supportsOf at listed
    rw [Sorting.mem_sortBy] at listed
    exact sound.history row (List.mem_of_mem_filter listed)
  refine ⟨recordOf tables id registered issue supports, fun context => ?_, rfl, rfl⟩
  exact decodeIssueH2aRecord_ok.mpr ⟨registered, issue, supports, stands, read.imp fun _ _ read => read context, held, rfl⟩

theorem Sound.remade (sound : Sound tables) (listed : row ∈ rejectionsOf tables id)
    (decoded : decodeRejection context tables id classification row = .ok rejection) :
    ∃ intent kind, RejectionRecorded row intent tables ∧ intent.primaryId = id ∧ intent.kind = some kind ∧
      Remade tables kind intent classification rejection.prepared ∧
      rejection = ⟨rejection.prepared, ⟨row.idempotencyId, row.correlationId⟩, rejectionOf row intent⟩ := by
  obtain ⟨found, intent, pending, rfl⟩ := mem_rejectionsOf.mp listed
  obtain ⟨intent', recorded⟩ := sound.rejections row (Relation.mem_of_find found)
  cases pending.symm.trans recorded.pending
  obtain ⟨intent', kind, pending', named, remade, _⟩ := decodeRejection_ok decoded
  cases pending.symm.trans pending'
  have again : decodeRejection context tables intent.primaryId classification row = _ := recorded.decoded named remade
  exact ⟨intent, kind, recorded, rfl, named, remade, Except.ok.inj (decoded.symm.trans again)⟩

def Remakes (tables : IssueTables) (id : IssueId) (classification : DataClassification) : Prop :=
  ∀ row ∈ tables.rejectPrepareds.rows, ∀ intent, tables.preparedIntents.find row.preparedIntentId = some intent →
    intent.primaryId = id → ∃ kind prepared, intent.kind = some kind ∧ Remade tables kind intent classification prepared

theorem Sound.remakes_iff (sound : Sound tables) :
    Remakes tables id classification ↔ ∃ rejections, decodeIssueRejections context tables id classification = .ok rejections := by
  constructor
  · intro remakes
    have all : ∀ row ∈ rejectionsOf tables id, ∃ rejection, decodeRejection context tables id classification row = .ok rejection := by
      intro row listed
      obtain ⟨found, intent, pending, rfl⟩ := mem_rejectionsOf.mp listed
      obtain ⟨intent', recorded⟩ := sound.rejections row (Relation.mem_of_find found)
      cases pending.symm.trans recorded.pending
      obtain ⟨kind, prepared, named, remade⟩ := remakes row (Relation.mem_of_find found) intent pending rfl
      exact ⟨_, recorded.decoded named remade⟩
    obtain ⟨rejections, matched⟩ := exists_matched all
    exact ⟨rejections, decodeIssueRejections_ok.mpr matched⟩
  · intro ⟨rejections, decoded⟩ row member intent pending target
    have listed : row ∈ rejectionsOf tables id := mem_rejectionsOf.mpr ⟨Relation.find_mem member, intent, pending, target⟩
    obtain ⟨rejection, _, made⟩ := (mem_matched (decodeIssueRejections_ok.mp decoded)).1 row listed
    obtain ⟨intent', kind, pending', named, remade, _⟩ := decodeRejection_ok made
    cases pending.symm.trans pending'
    exact ⟨kind, _, named, remade⟩

omit [Sha256] in
theorem nodup_rejectionsOf {Name : Type} {name : RejectPreparedRow → Name}
    (distinct : (tables.rejectPrepareds.rows.map name).Nodup) : ((rejectionsOf tables id).map name).Nodup := by
  refine List.Nodup.sublist (List.filter_sublist.map name) ?_
  exact ((Sorting.sortBy_perm _ _).map name).nodup_iff.mpr distinct

theorem Sound.named (sound : Sound tables) (decoded : decodeIssueRejections context tables id classification = .ok rejections) :
    rejections.map (fun rejection => rejection.prepared.id) = (rejectionsOf tables id).map RejectPreparedRow.preparedIntentId ∧
      rejections.map (fun rejection => rejection.context.idempotencyId) =
        (rejectionsOf tables id).map RejectPreparedRow.idempotencyId ∧
      rejections.map (fun rejection => rejection.outcome.auditEvent.id) =
        (rejectionsOf tables id).map RejectPreparedRow.auditEventId := by
  have matched := (List.forall₂_and_left _ _).mpr ⟨fun _ listed => listed, decodeIssueRejections_ok.mp decoded⟩
  refine ⟨map_matched (matched.imp ?_), map_matched (matched.imp ?_), map_matched (matched.imp ?_)⟩
  · intro row rejection ⟨listed, made⟩
    obtain ⟨_, _, recorded, _, _, remade, _⟩ := sound.remade listed made
    exact remade.previews.1.trans (Relation.find_key recorded.pending)
  · intro row rejection ⟨listed, made⟩
    obtain ⟨_, _, _, _, _, _, same⟩ := sound.remade listed made
    rw [same]
  · intro row rejection ⟨listed, made⟩
    obtain ⟨_, _, _, _, _, _, same⟩ := sound.remade listed made
    rw [same]
    rfl

theorem Sound.valid (sound : Sound tables) {record : IssueRecord} (owned : record.id = id)
    (decoded : decodeIssueRejections context tables id classification = .ok rejections) :
    validSnapshot record none rejections = true := by
  obtain ⟨names, keys, audits⟩ := sound.named decoded
  unfold validSnapshot
  refine decide_eq_true ⟨rfl, ?_, ?_, ?_, fun rejection known => ⟨rfl, ?_⟩⟩
  · rw [names]
    exact nodup_rejectionsOf sound.previews
  · rw [keys]
    exact nodup_rejectionsOf tables.rejectPrepareds.keyed
  · rw [audits]
    exact nodup_rejectionsOf sound.audits
  · obtain ⟨row, listed, made⟩ := (mem_matched (decodeIssueRejections_ok.mp decoded)).2 rejection known
    obtain ⟨intent, kind, recorded, target, named, remade, same⟩ := sound.remade listed made
    obtain ⟨identified, asked, _⟩ := remade.previews
    refine ⟨by rw [owned, ← target]; exact rejectedIssueId_operation asked, ?_⟩
    unfold validIssueRejection
    rw [same]
    refine decide_eq_true ⟨identified.symm, ?_, rfl, rfl, rfl, rfl, ?_, rfl, rfl, rfl⟩
    · rw [remade.expires]
      rfl
    · rw [owned, ← target]
      rfl

variable {command : RejectIssuePreparedIntent} {arguments : Arguments} {rejected : RejectedPreparedIntentOutcome}
  {intent : PreparedIntentRow} {before committed later after : IssueTables}

/-- The Issue of the preview may be held, and all its rejected previews are made again with the class it has. -/
def Rebuilt (preparedId : PreparedIntentId) (tables : IssueTables) : Prop :=
  ∀ intent registered, tables.preparedIntents.find preparedId = some intent →
    tables.aggregate intent.primaryId = some registered →
      registered.classification ≠ .unclassified ∧ Remakes tables intent.primaryId registered.classification

theorem Reread.rebuilt (reread : Reread command row later) (sound : Sound later) : Rebuilt command.preparedId later := by
  obtain ⟨intent, record, rejections, pending, read, decoded⟩ := reread.read
  obtain ⟨registered, _, _, stands, _, held, same⟩ := decodeIssueH2aRecord_ok.mp read
  have classified : record.classification = registered.classification := by rw [same]; rfl
  intro intent' registered' pending' aggregate
  cases pending.symm.trans pending'
  cases (standing_some.mp stands).1.symm.trans aggregate
  exact ⟨held, sound.remakes_iff.mpr ⟨rejections, classified ▸ decoded⟩⟩

theorem Rejected.retold (done : Rejected command rejected row intent before committed) (grows : Grows committed later)
    {standing : RegistryRow × IssueRow} (stood : before.standing intent.primaryId = some standing) (sound : Sound later)
    (rebuilt : Rebuilt command.preparedId later) :
    SqliteProductLedger.rejectIssuePreparedIntent command arguments later = .ok (later, rejected) := by
  have recorded := done.recorded.grows grows
  obtain ⟨key, asked, actor⟩ := done.asked
  obtain ⟨kind, named⟩ := recorded.named
  have pending : later.preparedIntents.find command.preparedId = some intent := asked ▸ recorded.pending
  obtain ⟨registered, issue, stands⟩ : ∃ registered issue, later.standing intent.primaryId = some (registered, issue) := by
    obtain same | ⟨registered, issue, stands, _⟩ := (done.grows.trans grows).advances _ _ _ stood
    · exact ⟨_, _, same.standing.trans stood⟩
    · exact ⟨registered, issue, stands⟩
  obtain ⟨held, remakes⟩ := rebuilt _ _ pending (standing_some.mp stands).1
  obtain ⟨record, read, owned, classified⟩ := sound.readable stands held
  obtain ⟨rejections, decoded⟩ := sound.remakes_iff.mp remakes
  have found := recorded.found
  rw [key] at found
  have admitted : SqliteProductLedger.admitRejection command later = .ok () := by
    unfold SqliteProductLedger.admitRejection
    dsimp only
    rw [found]
    exact ensure_ok.mpr ⟨asked, actor⟩
  have consumed : SqliteProductLedger.pendingPreview command.context later kind intent command.preparedId record.classification =
      .ok none := by
    unfold SqliteProductLedger.pendingPreview
    rw [recorded.consumed]
    rfl
  -- the rejection itself is among those that are made again
  have listed : row ∈ rejectionsOf later intent.primaryId :=
    mem_rejectionsOf.mpr ⟨recorded.found, intent, recorded.pending, rfl⟩
  obtain ⟨rejection, known, made⟩ := (mem_matched (decodeIssueRejections_ok.mp decoded)).1 row listed
  obtain ⟨intent', _, recorded', _, _, remade, same⟩ := sound.remade listed made
  cases recorded.pending.symm.trans recorded'.pending
  have keys : (rejections.map fun rejection => rejection.context.idempotencyId).Nodup := by
    rw [(sound.named decoded).2.1]
    exact nodup_rejectionsOf later.rejectPrepareds.keyed
  have told : rejection.outcome = rejected := by rw [same, done.answered]
  have answered : (Issues.rejectIssuePreparedIntent (rehydrate record none rejections) (arguments.ports false) command).2 =
      .ok rejected := by
    rw [← told]
    refine rejectRehydrated_known keys known ?_ ?_ (actor.symm.trans recorded.actor)
    · rw [same]
      exact key
    · rw [remade.previews.1]
      exact Relation.find_key pending
  unfold SqliteProductLedger.rejectIssuePreparedIntent
  refine bind_ok.mpr ⟨(), admitted, bind_ok.mpr ⟨intent, require_ok.mpr ?_, bind_ok.mpr ⟨kind, require_ok.mpr named, ?_⟩⟩⟩
  · exact Option.filter_eq_some_iff.mpr ⟨pending, by rw [named]; rfl⟩
  refine bind_ok.mpr ⟨record, read _, bind_ok.mpr ⟨rejections, classified ▸ decoded, bind_ok.mpr ⟨none, consumed, ?_⟩⟩⟩
  refine bind_ok.mpr ⟨(), ensure_ok.mpr (sound.valid owned decoded), bind_ok.mpr ⟨rejected, answered, ?_⟩⟩
  rw [found]
  rfl

end MissionControl.Issues

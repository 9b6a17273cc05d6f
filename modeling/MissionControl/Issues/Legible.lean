import MissionControl.Issues.Awaiting

/-! Every call that disturbs no waiting preview leaves tables from which all that was answered is
read back. -/

namespace MissionControl.Issues
open Checked
open Evidence (RegistryRow)

variable [Sha256] {before after : IssueTables} {told : List Answer}

omit [Sha256] in
theorem IssueRecord.Agrees.refl (record : IssueRecord) : record.Agrees record := ⟨rfl, fun _ => .refl _⟩

section
variable {command : CreateIssue} {arguments : Arguments} {mutation : IssueMutationOutcome}

omit [Sha256] in
theorem outcome_record {context : IssueOperationContext} {id : IssueId} (answered : outcome context id after = .ok mutation) :
    ∃ registered issue, after.standing id = some (registered, issue) ∧ registered.classification ≠ .unclassified ∧
      ∀ supports, after.supportsOf id = [] → after.reopensOf id = [] → (∀ role, after.evidenceOf id role = []) →
        supports = [] → recordOf after id registered issue supports = mutation.record := by
  obtain ⟨_, _, answered⟩ := bind_ok.mp answered
  obtain ⟨_, _, answered⟩ := bind_ok.mp answered
  obtain ⟨_, _, answered⟩ := bind_ok.mp answered
  obtain ⟨⟨registered, issue⟩, stands, answered⟩ := bind_ok.mp answered
  obtain ⟨_, plain, answered⟩ := bind_ok.mp answered
  obtain ⟨_, initial, answered⟩ := bind_ok.mp answered
  cases pure_ok.mp answered
  obtain ⟨_, opened, untyped, unexplained⟩ := ensure_ok.mp plain
  obtain ⟨classified, version⟩ := ensure_ok.mp initial
  refine ⟨registered, issue, require_ok.mp stands, classified, fun supports _ reopens evidence none => ?_⟩
  rw [none, recordOf, evidence, evidence, evidence, reopens, opened, untyped, unexplained, version]
  rfl

theorem Legible.created (legible : Legible before told)
    (success : SqliteProductLedger.createIssue command arguments before = .ok (after, mutation)) (wrote : after ≠ before)
    (sound : Sound after) : Legible after (.mutation mutation :: told) := by
  obtain ⟨same, _⟩ | ⟨grows, recorded, _, _, _, _, rejects, creates⟩ := createIssue_ok success
  · exact absurd same wrote
  obtain ⟨registered, issue, stands, classified, reads⟩ := outcome_record recorded.told
  obtain ⟨evidence, reopens, supports⟩ := legible.shown.bare _ creates.fresh
  have evidence : ∀ role, after.evidenceOf command.id role = [] := fun role => by
    rw [← evidence role, IssueTables.evidenceOf, creates.evidence]
    rfl
  have reopens : after.reopensOf command.id = [] := by
    rw [← reopens, IssueTables.reopensOf, creates.reopens]
    rfl
  have supports : after.supportsOf command.id = [] := by
    rw [← supports, IssueTables.supportsOf, creates.supports]
    rfl
  have read : ∀ context, decodeIssueH2aRecord context after command.id = .ok mutation.record := by
    intro context
    refine decodeIssueH2aRecord_ok.mpr ⟨registered, issue, [], stands, ?_, classified,
      (reads [] supports reopens evidence rfl).symm⟩
    rw [supports]
    exact .nil
  have owned : mutation.record.id = command.id := by
    rw [← reads [] supports reopens evidence rfl]
    rfl
  have stood : ∀ id row, before.preparedIntents.find id = some row → row.primaryId ≠ command.id := by
    intro id row found equal
    obtain ⟨standing, there⟩ := legible.awaited.owned id row found
    cases (equal ▸ there).symm.trans creates.fresh
  refine ⟨sound, legible.shown.answered grows ?_ ?_ ⟨mutation.record, by rw [owned]; exact read, .refl _⟩,
    legible.awaited.left grows ⟨?_, ?_, creates.prepares⟩ ?_ (fun _ equal => by cases equal), legible.rejections.kept legible.sound grows rejects fun _ equal => by cases equal⟩
  · rw [owned]
    exact fun _ => creates.same
  · intro id listed
    rw [creates.identities] at listed
    obtain known | new := List.mem_append.mp listed
    · exact .inr known
    · exact .inl ((List.mem_singleton.mp new).trans owned.symm)
  · intro id row found waits
    rw [creates.intents] at found
    exact ⟨found, .of_same (creates.same (stood id row found))⟩
  · intro id row found
    rw [creates.intents] at found
    exact ⟨row, found, rfl⟩
  · intro id registered' issue' there
    by_cases own : id = command.id
    · -- no preview of the Issue can be there yet
      subst own
      intro row listed intent pending target
      rw [creates.intents] at pending
      exact absurd target (stood _ intent pending)
    · rw [creates.standing id own] at there
      exact (legible.awaited.remakes id registered' issue' there).kept legible.sound grows rejects

end

section
variable {prepared given : WorkManagementPreparedIntent}

omit [Sha256] in
theorem checkedAdd_back {now expiresAt createdAt : UtcTimestamp} {millis : Int}
    (added : now.checkedAdd millis = some expiresAt) (taken : expiresAt.checkedAdd (-millis) = some createdAt) : createdAt = now := by
  unfold UtcTimestamp.checkedAdd at added taken
  split at added
  case isFalse => cases added
  cases added
  split at taken
  case isFalse => cases taken
  cases taken
  apply UtcTimestamp.unixMillis_injective
  dsimp only
  omega

omit [Sha256] in
theorem transitionPreview_ok {authority : IssueStore} {ports : Ports} {operation : WorkManagementOperation}
    {evidenceIds : List EvidenceReferenceId} {judgment : Option HumanJudgment} {context : IssueOperationContext}
    (success : transitionPreview authority ports operation evidenceIds judgment context = .ok prepared) :
    ∃ id classification support now,
      WorkManagementPreparedIntent.prepare id operation classification (some support) now = .ok prepared := by
  unfold transitionPreview at success
  obtain ⟨_, _, success⟩ := bind_ok.mp success
  obtain ⟨_, _, success⟩ := bind_ok.mp success
  obtain ⟨_, _, success⟩ := bind_ok.mp success
  obtain ⟨support, _, success⟩ := bind_ok.mp success
  obtain ⟨_, _, success⟩ := bind_ok.mp success
  obtain ⟨_, _, success⟩ := bind_ok.mp success
  obtain ⟨_, _, success⟩ := bind_ok.mp success
  obtain ⟨id, _, success⟩ := bind_ok.mp success
  exact ⟨id, _, support, _, relabel_ok.mp success⟩

variable {command : PrepareLowerIssueClassification}

omit [Sha256] in
theorem loweringPreview_ok {record : IssueRecord} {ports : Ports} (owned : record.id = command.issueId)
    (success : loweringPreview (IssueStore.empty.insertFromRisk record) ports command = .ok prepared) :
    command.proposedClassification ≠ .unclassified ∧ ∃ id now,
      WorkManagementPreparedIntent.prepare id (.lowerIssueClassification command.issueId command.expectedVersion
        record.classification command.proposedClassification command.rationale) record.classification none now = .ok prepared := by
  unfold loweringPreview at success
  obtain ⟨issue, found, success⟩ := bind_ok.mp success
  obtain ⟨_, _, success⟩ := bind_ok.mp success
  obtain ⟨_, genuine, success⟩ := bind_ok.mp success
  obtain ⟨_, _, success⟩ := bind_ok.mp success
  obtain ⟨id, _, success⟩ := bind_ok.mp success
  have found := require_ok.mp found
  rw [IssueStore.get_insertFromRisk, if_pos owned] at found
  cases found
  refine ⟨fun unclassified => ?_, id, _, relabel_ok.mp success⟩
  refine ensure_ok.mp genuine ?_
  rw [unclassified, DataClassification.unclassified_combine]

theorem Legible.previewed (legible : Legible before told) {command : PrepareTransition}
    (success : prepareTransition command prepared before = .ok (after, given)) (wrote : after ≠ before) (sound : Sound after)
    (offers : Command.Offers.offersTransition before command prepared) (own : OwnClass command.issueId prepared before)
    (asks : ∀ createdAt, command.kind.operation (previewRow prepared (some command.kind) command.issueId
      command.expectedVersion command.resolutionType command.rationale createdAt) = some command.operation)
    (requests : ∀ proposedClassification rationale, command.request ≠ .lowerClassification proposedClassification rationale) :
    Legible after (.prepared given :: told) := by
  obtain same | ⟨grows, _, rejects, _, rfl, placed⟩ := prepareTransition_ok success
  · exact absurd same wrote
  obtain ⟨createdAt, dated, places⟩ := placed.placed
  obtain ⟨⟨registered, issue⟩, stands⟩ := placed.stands
  obtain ⟨_, _, _, preview⟩ := offers
  obtain ⟨id, classification, support, now, made⟩ := transitionPreview_ok preview
  obtain ⟨canonical, expiresAt, _, added, _, shape, target⟩ := Actions.prepared_shape made
  obtain ⟨shown, offered, read⟩ := placed.support
  have named : given.id = id := by rw [WorkManagementPreparedIntent.id, shape]; rfl
  have expires : given.preview.expiresAt = expiresAt := by rw [shape]; rfl
  have supported : given.preview.support = some support := by rw [shape]; rfl
  cases offered.symm.trans supported
  have classified : classification = registered.classification := target.symm.trans (own registered issue stands)
  rw [← named, classified, ← checkedAdd_back added (expires ▸ dated)] at made
  have remade : Remade after command.kind (previewRow given (some command.kind) command.issueId command.expectedVersion
      command.resolutionType command.rationale createdAt) registered.classification given :=
    ⟨⟨command.operation, support, asks createdAt, read, made⟩, rfl, rfl, rfl⟩
  exact ⟨sound, legible.shown.kept grows places.same (by rw [places.issues]) fun _ => rfl,
    legible.awaited.placed legible.sound grows places rejects rfl ⟨_, stands⟩
      ⟨registered, issue, (places.same _).standing.trans stands, remade⟩ fun _ _ equal => absurd equal (requests _ _),
    legible.rejections.kept legible.sound grows rejects fun _ equal => by cases equal⟩

theorem Legible.previewedLowering (legible : Legible before told)
    (success : SqliteProductLedger.prepareLowerIssueClassification command prepared before = .ok (after, given))
    (wrote : after ≠ before) (sound : Sound after)
    (offers : (Command.prepareLowerIssueClassification command prepared).Offers before) :
    Legible after (.prepared given :: told) := by
  obtain ⟨grows, _, _, rejects, same | ⟨rfl, placed⟩⟩ := prepareLowerIssueClassification_ok success
  · exact absurd same wrote
  obtain ⟨createdAt, dated, places⟩ := placed.placed
  obtain ⟨registered, issue, stands, versioned, _⟩ := placed.stands
  obtain ⟨record, ports, read, preview⟩ := offers
  obtain ⟨registered', issue', _, stands', _, _, same⟩ := decodeIssueH2aRecord_ok.mp read
  cases stands.symm.trans stands'
  have owned : record.id = command.issueId := by rw [same]; rfl
  have classified : record.classification = registered.classification := by rw [same]; rfl
  obtain ⟨proper, id, now, made⟩ := loweringPreview_ok owned preview
  obtain ⟨canonical, expiresAt, _, added, _, shape, _⟩ := Actions.prepared_shape made
  have named : given.id = id := by rw [WorkManagementPreparedIntent.id, shape]; rfl
  have expires : given.preview.expiresAt = expiresAt := by rw [shape]; rfl
  rw [← named, classified, ← versioned, ← checkedAdd_back added (expires ▸ dated)] at made
  have remade : RemadeLowering after (previewRow given none command.issueId command.expectedVersion none none createdAt)
      registered given :=
    ⟨⟨_, _, legible.awaited.requested places, made⟩, rfl, rfl, rfl⟩
  refine ⟨sound, legible.shown.kept grows places.same (by rw [places.issues]) fun _ => rfl,
    legible.awaited.placed legible.sound grows places rejects rfl ⟨_, stands⟩
      ⟨registered, issue, (places.same _).standing.trans stands, remade⟩ ?_,
    legible.rejections.kept legible.sound grows rejects fun _ equal => by cases equal⟩
  intro proposedClassification rationale equal
  cases equal
  exact proper

end

section
variable {command : ApproveAndExecuteIssueTransition} {arguments : Arguments} {outcome : IssueMutationOutcome}
  {intent : PreparedIntentRow} {record : IssueRecord}

variable {kind : IssueH2aExecuteKind}

theorem Executed.owned (executed : Executed kind command outcome intent record before after) :
    outcome.record.id = intent.primaryId := by
  obtain ⟨_, _, _, _, _, _, _, _, _, moved⟩ := executed.remade
  obtain ⟨_, _, _, _, _, _, same⟩ := decodeIssueH2aRecord_ok.mp executed.read
  rw [(transitioned_same moved).1, same]
  rfl

theorem Executed.others (executed : Executed kind command outcome intent record before after) {other : IssueId}
    (different : other ≠ intent.primaryId) : SameIssue other before after := by
  obtain ⟨_, _, _, written, same⟩ := executed.written
  exact (written.others (executed.owned ▸ different)).trans (same other)

omit [Sha256] in
theorem ExecutedLowering.owned (executed : ExecutedLowering command outcome intent record before after) :
    outcome.record.id = intent.primaryId := by
  obtain ⟨_, _, _, _, _, lowered⟩ := executed.lowered
  obtain ⟨_, _, _, _, _, _, same⟩ := decodeIssueH2aRecord_ok.mp executed.read
  rw [lowered, same]
  rfl

omit [Sha256] in
theorem ExecutedLowering.others (executed : ExecutedLowering command outcome intent record before after)
    {other : IssueId} (different : other ≠ intent.primaryId) : SameIssue other before after := by
  obtain ⟨middle, _, same, whole, aggregate⟩ := executed.written
  refine SameIssue.trans ⟨?_, fun role => ?_, ?_, ?_⟩ (same other)
  · unfold IssueTables.standing
    rw [aggregate, if_neg different, whole]
  · rw [whole]
    rfl
  · rw [whole]
    rfl
  · rw [whole]
    rfl

omit [Sha256] in
theorem kept_of_other {row : PreparedIntentRow} (others : ∀ other, other ≠ intent.primaryId → SameIssue other before after)
    (own : row.primaryId = intent.primaryId → Kept before after row) : Kept before after row := by
  by_cases same : row.primaryId = intent.primaryId
  · exact own same
  · exact .of_same (others _ same)

theorem Legible.executed (legible : Legible before told)
    (success : approveAndExecuteIssueH2a kind command arguments before = .ok (after, outcome)) (wrote : after ≠ before)
    (sound : Sound after) (mild : Mild command.approval.preparedId before) :
    Legible after (.mutation outcome :: told) := by
  obtain ⟨same, _⟩ | ⟨intent, record, executed, waits, consumes⟩ := approveAndExecuteIssueH2a_ok success
  · exact absurd same wrote
  have back : ∃ told registered header, decodeIssueH2aRecord command.context after intent.primaryId = .ok told ∧
      before.aggregate intent.primaryId = some registered ∧ told.classification = registered.classification ∧
      before.supports.find command.approval.preparedId = some header ∧
      outcome.record.classification = intent.classification ∧
      evidenceIn outcome.record kind.evidenceRole = shownEvidence kind before intent.primaryId header ∧
      ReadBack kind told outcome.record := executed.read_back legible.sound.supports
  obtain ⟨shown, registered, _, read, aggregate, classified, _, restricts, _, back⟩ := back
  obtain ⟨registered', issue, _, stands, _⟩ := decodeIssueH2aRecord_ok.mp executed.read
  cases aggregate.symm.trans (standing_some.mp stands).1
  obtain ⟨later, issue', _, stood, _, _, same⟩ := decodeIssueH2aRecord_ok.mp read
  have unraised : later.classification = registered.classification := by rw [← classified, same]; rfl
  obtain ⟨equal, unlowered⟩ := mild _ _ _ executed.previewed waits stands
  have agrees : shown.Agrees outcome.record := by
    refine ⟨?_, fun role => ?_⟩
    · have same := back.same
      rw [restricts, equal, ← classified] at same
      exact same
    · by_cases own : role = kind.evidenceRole
      · rw [own, back.own]
        exact Sorting.sortBy_perm compare _
      · rw [back.others role own]
  have others : ∀ other, other ≠ intent.primaryId → SameIssue other before after := fun _ => executed.others
  refine ⟨sound, legible.shown.answered executed.grows (executed.owned ▸ others) ?_ ⟨shown, fun context => ?_, agrees⟩,
    legible.awaited.left executed.grows (consumes.leaves fun id row found waits _ => ?_) ?_ (fun _ equal => by cases equal),
    legible.rejections.kept legible.sound executed.grows executed.rejects fun _ equal => by cases equal⟩
  · intro id listed
    rw [consumes.identities] at listed
    exact .inr listed
  · rw [executed.owned]
    exact decodeIssueH2aRecord_kept (.refl _) (.refl _ _) read
  · refine kept_of_other others fun own => ?_
    intro first issue there
    rw [own] at there ⊢
    cases stands.symm.trans there
    refine ⟨later, issue', stood, unraised, fun lowers => ?_⟩
    exact absurd waits (unlowered row (Relation.mem_of_find found) lowers own)
  · intro id first issue there
    by_cases own : id = intent.primaryId
    · subst own
      cases stood.symm.trans there
      rw [unraised]
      exact (legible.awaited.remakes _ _ _ stands).kept legible.sound executed.grows executed.rejects
    · rw [(others id own).standing] at there
      exact (legible.awaited.remakes _ _ _ there).kept legible.sound executed.grows executed.rejects

theorem Legible.lowered (legible : Legible before told)
    (success : SqliteProductLedger.approveAndExecuteLowerIssueClassification command arguments before = .ok (after, outcome))
    (wrote : after ≠ before) (sound : Sound after) (alone : Alone command.approval.preparedId before) :
    Legible after (.mutation outcome :: told) := by
  obtain ⟨same, _⟩ | ⟨intent, record, executed, waits, consumes⟩ := approveAndExecuteLowerIssueClassification_ok success
  · exact absurd same wrote
  obtain ⟨proposedClassification, rationale, later, requested, _, lowered⟩ := executed.lowered
  have classified : outcome.record.classification ≠ .unclassified := by
    rw [lowered]
    exact legible.awaited.proper _ _ _ requested
  obtain ⟨solitary, unrejected⟩ := alone _ executed.previewed waits
  have others : ∀ other, other ≠ intent.primaryId → SameIssue other before after := fun _ => executed.others
  refine ⟨sound, legible.shown.answered executed.grows (executed.owned ▸ others) ?_ ⟨outcome.record, fun context => ?_, .refl _⟩,
    legible.awaited.left executed.grows (consumes.leaves fun id row found waits different => ?_) ?_
      (fun _ equal => by cases equal),
    legible.rejections.kept legible.sound executed.grows executed.rejects fun _ equal => by cases equal⟩
  · intro id listed
    rw [consumes.identities] at listed
    exact .inr listed
  · rw [executed.owned]
    exact executed.reads classified
  · refine kept_of_other others fun own => ?_
    exact absurd waits (solitary row (Relation.mem_of_find found) own (Relation.find_key found ▸ different))
  · intro id first issue there
    by_cases own : id = intent.primaryId
    · -- none of its previews was rejected
      subst own
      intro row listed other pending target
      rw [executed.rejects] at listed
      obtain ⟨earlier, recorded⟩ := legible.sound.rejections row listed
      cases pending.symm.trans (recorded.grows executed.grows).pending
      exact absurd target (unrejected row listed other recorded.pending)
    · rw [(others id own).standing] at there
      exact (legible.awaited.remakes _ _ _ there).kept legible.sound executed.grows executed.rejects

end

variable {command : RejectIssuePreparedIntent} {arguments : Arguments} {refusal : Actions.RejectedPreparedIntentOutcome}

theorem Remade.consumed {kind : IssueH2aExecuteKind} {pending intent : PreparedIntentRow} {classification : DataClassification}
    {prepared : WorkManagementPreparedIntent} (same : { intent with consumedAt := pending.consumedAt } = pending)
    (remade : Remade before kind pending classification prepared) : Remade before kind intent classification prepared := by
  cases intent
  cases pending
  cases same
  obtain ⟨⟨operation, support, asked, read, made⟩, digest, classified, expires⟩ := remade
  refine ⟨⟨operation, support, ?_, read, made⟩, digest, classified, expires⟩
  cases kind <;> exact asked

theorem Legible.rejected (legible : Legible before told)
    (success : SqliteProductLedger.rejectIssuePreparedIntent command arguments before = .ok (after, refusal))
    (wrote : after ≠ before) (sound : Sound after) : Legible after (.rejected refusal :: told) := by
  obtain ⟨unchanged, _⟩ | ⟨row, intent, done, ⟨standing, stands⟩, ⟨pending, found, waits⟩, consumes, same⟩ :=
    rejectIssuePreparedIntent_ok success
  · exact absurd unchanged wrote
  have listed : ∀ other, other ∈ after.rejectPrepareds.rows ↔ other ∈ before.rejectPrepareds.rows ∨ other = row :=
    fun _ => Relation.mem_insert done.inserted
  -- the preview was waiting, and is made again as long as it did
  obtain ⟨_, named, _⟩ := done.asked
  obtain ⟨later, found', rest, _⟩ := done.grows.intents _ _ found
  cases (named ▸ found').symm.trans done.recorded.pending
  obtain ⟨prepared, offered, identified⟩ := legible.awaited.offered _ _ found waits
  obtain ⟨pending', found'', remakeable⟩ := legible.awaited.previews prepared offered
  cases (identified ▸ found'').symm.trans found
  obtain ⟨registered, issue, stood, remade⟩ := remakeable waits
  obtain ⟨kind, kinded⟩ := done.recorded.named
  have kinded' : pending.kind = some kind := by rw [← rest]; exact kinded
  rw [kinded'] at remade
  have target : pending.primaryId = intent.primaryId := by rw [← rest]
  refine ⟨sound, legible.shown.kept done.grows same consumes.identities fun _ => rfl,
    legible.awaited.left done.grows (consumes.leaves fun _ _ _ _ _ => .of_same (same _)) ?_ (fun _ equal => by cases equal), ?_⟩
  · intro id first issue' there
    rw [(same id).standing] at there
    intro other known intent' pending' owned
    obtain known | rfl := (listed other).mp known
    · obtain ⟨earlier, recorded⟩ := legible.sound.rejections other known
      cases pending'.symm.trans (recorded.grows done.grows).pending
      obtain ⟨kind, prepared, named, remade⟩ := legible.awaited.remakes id first issue' there other known _ recorded.pending owned
      exact ⟨kind, prepared, named, remade.kept done.grows⟩
    · cases pending'.symm.trans done.recorded.pending
      subst owned
      rw [target] at stood
      cases stood.symm.trans there
      exact ⟨kind, prepared, kinded, (Remade.consumed rest remade).kept done.grows⟩
  · intro given
    rw [List.mem_cons, Answer.rejected.injEq, legible.rejections given]
    constructor
    · rintro (rfl | ⟨other, known, earlier, pending', told⟩)
      · exact ⟨row, (listed row).mpr (.inr rfl), intent, done.recorded.pending, done.answered⟩
      · obtain ⟨earlier', recorded⟩ := legible.sound.rejections other known
        cases pending'.symm.trans recorded.pending
        exact ⟨other, (listed other).mpr (.inl known), _, (recorded.grows done.grows).pending, told⟩
    · intro ⟨other, known, intent', pending', told⟩
      obtain known | rfl := (listed other).mp known
      · obtain ⟨earlier, recorded⟩ := legible.sound.rejections other known
        cases pending'.symm.trans (recorded.grows done.grows).pending
        exact .inr ⟨other, known, _, recorded.pending, told⟩
      · cases pending'.symm.trans done.recorded.pending
        exact .inl (told.trans done.answered.symm)

end MissionControl.Issues

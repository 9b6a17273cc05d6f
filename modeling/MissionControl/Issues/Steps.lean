import MissionControl.Issues.Service

/-! What the commands of the Issue service do to the shared Issues, said once: a new
Issue is added, or one Issue takes one of four changes. -/

namespace MissionControl.Issues
open Checked Staging

structure Created (authority : IssueStore) (command : CreateIssue) (record : IssueRecord) : Prop where
  absent : authority.get command.id = none
  becomes : ∃ classification, record = createdRecord command classification
  recurs : ∀ old, command.recurrenceOf = some old → ∃ issue, authority.get old = some issue ∧ issue.state = .closed

/-- The three transitions have in common that they add a support and do not lower. -/
structure Supported (before : IssueRecord) (state : IssueState) (support : SupportWitness)
    (evidenceIds : List EvidenceReferenceId) (after : IssueRecord) : Prop where
  restricts : before.classification ≤ after.classification
  advances : before.version.next = some after.version
  moves : after.state = state
  witnessed : after.supportHistory = before.supportHistory ++ [support]
  shown : evidenceIds ≠ []
  same : after.id = before.id ∧ after.sourceRiskId = before.sourceRiskId ∧ after.recurrenceOf = before.recurrenceOf

inductive Transitioned (before after : IssueRecord) : Prop where
  | resolved (support : SupportWitness) (evidenceIds : List EvidenceReferenceId)
      (resolutionType : IssueResolutionType) (rationale : WorkManagementRationale)
      (supported : Supported before .resolved support evidenceIds after) (required : before.state = .open)
      (resolution : after.resolutionType = some resolutionType ∧ after.resolutionRationale = some rationale ∧
        after.resolutionEvidence = evidenceIds)
      (reopens : after.reopenRationales = before.reopenRationales)
  | closed (support : SupportWitness) (evidenceIds : List EvidenceReferenceId)
      (supported : Supported before .closed support evidenceIds after) (required : before.state = .resolved)
      (resolution : after.resolutionType = before.resolutionType ∧
        after.resolutionRationale = before.resolutionRationale ∧
        after.resolutionEvidence = before.resolutionEvidence)
      (verified : after.closureVerificationEvidence = evidenceIds)
      (separate : ∀ id ∈ evidenceIds, id ∉ before.resolutionEvidence)
      (reopens : after.reopenRationales = before.reopenRationales)
  | reopened (support : SupportWitness) (evidenceIds : List EvidenceReferenceId) (rationale : WorkManagementRationale)
      (supported : Supported before .open support evidenceIds after) (required : before.state = .resolved)
      (reopens : after.reopenRationales = before.reopenRationales ++ [rationale])

def Lowered (before after : IssueRecord) : Prop :=
  ∃ classification later, before.version.next = some later ∧
    after = { before with classification, version := later }

theorem Transitioned.supported {before after : IssueRecord} (transitioned : Transitioned before after) :
    ∃ state support evidenceIds, Supported before state support evidenceIds after := by
  cases transitioned with
  | resolved _ _ _ _ supported => exact ⟨_, _, _, supported⟩
  | closed _ _ supported => exact ⟨_, _, _, supported⟩
  | reopened _ _ _ supported => exact ⟨_, _, _, supported⟩

section
variable {state : State} {ports : Ports}

variable {classification : DataClassification}

theorem recurrenceClassification_ok {authority : IssueStore} {command : CreateIssue}
    (success : recurrenceClassification authority ports command = .ok classification) :
    ∀ old, command.recurrenceOf = some old → ∃ issue, authority.get old = some issue ∧ issue.state = .closed := by
  intro old continues
  simp only [recurrenceClassification, continues] at success
  split at success
  · cases success
  next issue found =>
    split at success
    next closed => exact ⟨issue, found, closed⟩
    · cases success

theorem stageCreate_ok {command : CreateIssue} {staged : Staged State IssueMutationOutcome}
    (success : stageCreate state ports command = .ok staged) :
    staged.target = none ∨ ∃ outcome, Created state.authority command outcome.record ∧
      staged = .committed outcome
        ⟨state.authority.insertFromRisk outcome.record, state.own.record command.context command.identity outcome⟩ := by
  rcases orReplay_ok success with ⟨_, _, _, _, rfl⟩ | ⟨_, _, _, success⟩
  · exact .inl rfl
  simp only [bind_ok, ensure_ok, pure_ok] at success
  obtain ⟨_, _, _, absent, classification, effective, _, _, event, _, rfl⟩ := success
  exact .inr ⟨_, ⟨absent, ⟨classification, rfl⟩, recurrenceClassification_ok effective⟩, rfl⟩

theorem support_ok {ids : List EvidenceReferenceId} {judgments : List HumanJudgment} {role : EvidenceRole}
    {witness : SupportWitness} (success : support ports ids judgments role = .ok witness) : ids ≠ [] := by
  rintro rfl
  simp only [support, bind_ok, ensure_ok] at success
  obtain ⟨metadata, resolved, _, shown, _⟩ := success
  exact shown (pure_ok.mp resolved).symm

theorem preparePreview_classification {id : PreparedIntentId} {operation : WorkManagementOperation}
    {support : Option SupportWitness} {now : UtcTimestamp} {fresh : WorkManagementPreparedIntent}
    (success : WorkManagementPreparedIntent.prepare id operation classification support now = .ok fresh) :
    classification ≤ fresh.preview.classification := by
  obtain ⟨canonical, expiresAt, _, _, _, same⟩ :=
    preparePreview_ok (WorkManagementPreparedIntent.prepare_preview success)
  rw [same]
  have total := DataClassification.le_combineAll classification
    ((previewSources canonical classification support).map (·.classification))
  unfold previewOf previewClassification
  cases support with
  | none => exact total
  | some witness =>
    simp only [DataClassification.combine_eq_sup]
    exact le_sup_of_le_left total

variable [Sha256] {command : ApproveAndExecuteIssueTransition}

variable {operation : WorkManagementOperation}

theorem mint_ok {intent : WorkManagementPreparedIntent} {approval : WorkManagementApproval}
    {classification : DataClassification} {support : Option SupportWitness} {fresh : WorkManagementPreparedIntent}
    {receipt : WorkManagementApprovalReceipt}
    (success : mint ports intent approval operation classification support = .ok (fresh, receipt)) :
    classification ≤ fresh.preview.classification := by
  simp only [mint, bind_ok, relabel_ok, pure_ok] at success
  obtain ⟨_, prepared, _, _, _, _, same⟩ := success
  cases same
  exact preparePreview_classification prepared

omit [Sha256] in
theorem transitioned_ok {transition : IssueTransition} {evidenceIds : List EvidenceReferenceId} {before : IssueRecord}
    {classification : DataClassification} {later : AggregateVersion} {witness : SupportWitness} {after : IssueRecord}
    {code : String} (targeted : issueTransition operation = some transition)
    (required : before.state = transition.required) (restricts : before.classification ≤ classification)
    (advances : before.version.next = some later) (shown : evidenceIds ≠ [])
    (success : transitioned operation evidenceIds
      { before with state := transition.next, classification, version := later,
                    supportHistory := before.supportHistory ++ [witness] } = .ok (after, code)) :
    Transitioned before after := by
  cases operation with
  | resolveIssue issueId issueVersion resolutionType rationale =>
    cases targeted
    cases success
    exact .resolved witness evidenceIds resolutionType rationale
      ⟨restricts, advances, rfl, rfl, shown, rfl, rfl, rfl⟩ required ⟨rfl, rfl, rfl⟩ rfl
  | closeIssue issueId issueVersion =>
    cases targeted
    simp only [transitioned] at success
    split at success
    · cases success
    next separate =>
      cases success
      refine .closed witness evidenceIds ⟨restricts, advances, rfl, rfl, shown, rfl, rfl, rfl⟩ required
        ⟨rfl, rfl, rfl⟩ rfl ?_ rfl
      intro id listed earlier
      exact separate (List.any_eq_true.mpr ⟨id, listed, by simpa using earlier⟩)
  | reopenIssue issueId issueVersion rationale =>
    cases targeted
    cases success
    exact .reopened witness evidenceIds rationale ⟨restricts, advances, rfl, rfl, shown, rfl, rfl, rfl⟩ required rfl
  | _ => cases targeted

variable {staged : Staged State IssueMutationOutcome}

theorem execute_ok (success : execute state ports command = .ok staged) :
    staged.target = none ∨ ∃ intent before outcome,
      state.own.prepared[command.approval.preparedId]? = some intent ∧
      state.authority.get before.id = some before ∧ Transitioned before outcome.record ∧
      staged = .committed outcome
        (state.commit command.context (executionIdentity command.approval) intent.id outcome) := by
  simp only [execute, bind_ok, ensure_ok] at success
  obtain ⟨_, _, success⟩ := success
  rcases orReplay_ok success with ⟨_, _, _, _, rfl⟩ | ⟨_, _, _, success⟩
  · exact .inl rfl
  simp only [bind_ok, ensure_ok, require_ok, relabel_ok, pure_ok] at success
  obtain ⟨intent, pending, transition, targeted, before, found, _, ⟨_, required⟩, prepared, _, witness, supported,
    authoritative, _, _, _, _, _, ⟨fresh, receipt⟩, minted, later, advances, ⟨after, code⟩, moved, event, _, rfl⟩ :=
    success
  refine .inr ⟨intent, before, _, pending, ?_, ?_, rfl⟩
  · rw [IssueStore.get_id found]
    exact found
  · exact transitioned_ok targeted required
      (le_trans (DataClassification.le_combine_left before.classification authoritative) (mint_ok minted)) advances (support_ok supported)
      moved

theorem executeLowerIssueClassification_ok (success : executeLowerIssueClassification state ports command = .ok staged) :
    (∃ stored, state.own.idem[command.context.idempotencyId]? = some (executionIdentity command.approval, stored) ∧
      staged.target = none) ∨
    ∃ intent before outcome,
      state.own.prepared[command.approval.preparedId]? = some intent ∧
      state.authority.get before.id = some before ∧ Lowered before outcome.record ∧
      staged = .committed outcome
        (state.commit command.context (executionIdentity command.approval) intent.id outcome) := by
  simp only [executeLowerIssueClassification, bind_ok, ensure_ok] at success
  obtain ⟨_, _, success⟩ := success
  rcases orReplay_ok success with ⟨stored, _, replayed, _, rfl⟩ | ⟨_, _, _, success⟩
  · rcases replay_ok replayed with ⟨none, _⟩ | ⟨answer, _, found⟩
    · cases none
    · exact .inl ⟨answer, found, rfl⟩
  simp only [bind_ok, ensure_ok, require_ok, relabel_ok, pure_ok] at success
  obtain ⟨intent, pending, target, _, before, found, _, _, _, _, _, _, _, _, ⟨_, receipt⟩, _, later, advances, event, _,
    rfl⟩ := success
  refine .inr ⟨intent, before, _, pending, ?_, ⟨target.proposedClassification, later, advances, rfl⟩, rfl⟩
  rw [IssueStore.get_id found]
  exact found

end

inductive Effect (before : IssueStore) : Operation → IssueStore → Prop where
  | kept (operation : Operation) : Effect before operation before
  | created (command : CreateIssue) (record : IssueRecord) (created : Created before command record) :
      Effect before (.createIssue command) (before.insertFromRisk record)
  | transitioned (operation : Operation)
      (lowers : ∀ command, operation ≠ .approveAndExecuteLowerIssueClassification command)
      (issue record : IssueRecord) (found : before.get issue.id = some issue)
      (transitioned : Transitioned issue record) : Effect before operation (before.insertFromRisk record)
  | lowered (command : ApproveAndExecuteIssueTransition) (issue record : IssueRecord)
      (found : before.get issue.id = some issue) (lowered : Lowered issue record) :
      Effect before (.approveAndExecuteLowerIssueClassification command) (before.insertFromRisk record)

variable [Sha256] {service : Service} {ports : Ports}

omit [Sha256] in
theorem failed_authority {Outcome : Type} (service : Service) (target : Option IssueId) (code : AuditEventCode)
    (context : IssueOperationContext) (failure : Failure) :
    (@failed Outcome service ports target code context failure).1.state.authority =
      service.state.authority := by
  unfold failed
  split <;> rfl

omit [Sha256] in
theorem stagePreview_target {ε : Type} {conflict : ε} {state next : State} {context : IssueOperationContext}
    {signature : Identity} {preview : Except ε WorkManagementPreparedIntent}
    {staged : Staged State WorkManagementPreparedIntent}
    (success : stagePreview conflict state context signature preview = .ok staged)
    (target : staged.target = some next) :
    ∃ intent, preview = .ok intent ∧ staged = .placed intent (state.place context signature intent) ∧
      next = state.place context signature intent := by
  rcases orReplay_ok success with ⟨_, _, _, _, rfl⟩ | ⟨_, _, _, success⟩
  · cases target
  simp only [bind_ok, pure_ok] at success
  obtain ⟨intent, previewed, rfl⟩ := success
  exact ⟨intent, previewed, rfl, (Option.some.inj target).symm⟩

/-- A command either leaves the shared Issues alone, or it succeeds and has its effect. -/
def Acts {Outcome : Type} (service : Service) (operation : Operation)
    (answer : Service × Except DomainError Outcome) : Prop :=
  answer.1.state.authority = service.state.authority ∨
  (∃ outcome, answer.2 = .ok outcome) ∧ Effect service.state.authority operation answer.1.state.authority

omit [Sha256] in
theorem createIssue_acts (command : CreateIssue) :
    Acts service (.createIssue command) (createIssue service ports command) := by
  rcases settle_cases (infrastructureError command.context) service (stageCreate service.state ports command) with
    kept | ⟨staged, next, decided, target, settled⟩
  · exact .inl (congrArg State.authority kept)
  unfold createIssue
  rw [settled]
  rcases stageCreate_ok decided with none | ⟨outcome, created, rfl⟩
  · rw [none] at target
    cases target
  · cases target
    exact .inr ⟨⟨_, rfl⟩, .created command outcome.record created⟩

omit [Sha256] in
theorem settle_preview {ε : Type} (failure conflict : ε) (context : IssueOperationContext) (signature : Identity)
    (preview : Except ε WorkManagementPreparedIntent) :
    (settle failure service (stagePreview conflict service.state context signature preview)).1.state.authority =
      service.state.authority := by
  rcases settle_cases failure service (stagePreview conflict service.state context signature preview) with
    kept | ⟨staged, next, decided, target, settled⟩
  · exact congrArg State.authority kept
  · rw [settled]
    obtain ⟨intent, _, _, rfl⟩ := stagePreview_target decided target
    rfl

omit [Sha256] in
theorem prepare_authority (operation : WorkManagementOperation) (evidenceIds : List EvidenceReferenceId)
    (judgment : Option HumanJudgment) (context : IssueOperationContext) :
    (prepare service ports operation evidenceIds judgment context).1.state.authority = service.state.authority := by
  have kept := @settle_preview service Refusal (.refused (infrastructureError context))
    (.refused (idempotencyConflict context)) context (.prepare operation evidenceIds judgment)
    (transitionPreview service.state.authority ports operation evidenceIds judgment context)
  simp only [prepare]
  split
  next settled => rw [settled] at kept; exact kept
  next settled => rw [settled] at kept; exact kept
  next settled =>
    rw [settled] at kept
    exact (failed_authority _ _ _ _ _).trans kept

variable {command : ApproveAndExecuteIssueTransition}

variable {operation : Operation}

omit [Sha256] in
theorem settleApproval_acts {decided : Except Failure (Staged State IssueMutationOutcome)}
    (effect : ∀ staged next, decided = .ok staged → staged.target = some next →
      Effect service.state.authority operation next.authority) :
    Acts service operation (settleApproval service ports command decided) := by
  unfold settleApproval
  rcases settle_cases .infrastructure service decided with kept | ⟨staged, next, ok, target, settled⟩
  · refine .inl ?_
    split
    next settled => rw [settled] at kept; exact congrArg State.authority kept
    next settled =>
      rw [settled] at kept
      exact (failed_authority _ _ _ _ _).trans (congrArg State.authority kept)
  · rw [settled]
    exact .inr ⟨⟨_, rfl⟩, effect staged next ok target⟩

theorem execute_acts (lowers : ∀ command, operation ≠ .approveAndExecuteLowerIssueClassification command) :
    Acts service operation (approveAndExecute service ports command) := by
  refine settleApproval_acts fun staged next ok target => ?_
  rcases execute_ok ok with none | ⟨_, before, outcome, _, found, transitioned, rfl⟩
  · rw [none] at target
    cases target
  · cases target
    exact .transitioned operation lowers before outcome.record found transitioned

theorem executeOnly_acts {expected : WorkManagementOperation → Bool}
    (lowers : ∀ command, operation ≠ .approveAndExecuteLowerIssueClassification command) :
    Acts service operation (approveAndExecuteOnly expected service ports command) := by
  unfold approveAndExecuteOnly
  split
  · exact execute_acts lowers
  · exact .inl rfl

theorem executeLower_acts :
    Acts service (.approveAndExecuteLowerIssueClassification command)
      (approveAndExecuteLowerIssueClassification service ports command) := by
  refine settleApproval_acts fun staged next ok target => ?_
  rcases executeLowerIssueClassification_ok ok with ⟨_, _, none⟩ | ⟨_, before, outcome, _, found, lowered, rfl⟩
  · rw [none] at target
    cases target
  · cases target
    exact .lowered command before outcome.record found lowered

omit [Sha256] in
theorem reject_authority (command : RejectIssuePreparedIntent) :
    (rejectIssuePreparedIntent service ports command).1.state.authority = service.state.authority := by
  rcases settle_cases (infrastructureError command.context) service (stageRejection service.state ports command) with
    kept | ⟨staged, next, decided, target, settled⟩
  · exact congrArg State.authority kept
  unfold rejectIssuePreparedIntent
  rw [settled]
  simp only [stageRejection] at decided
  split at decided
  · cases decided
  · cases decided; cases target
  · cases decided
  · simp only [bind_ok, pure_ok] at decided
    obtain ⟨_, _, _, _, _, _, _, _, _, _, rfl⟩ := decided
    cases target
    rfl

/-- Every operation of the service leaves the shared Issues alone, or succeeds with its
effect on them. -/
theorem step_effect (service : Service) (ports : Ports) (operation : Operation) :
    (step service ports operation).1.state.authority = service.state.authority ∨
    (step service ports operation).2.refused = false ∧
      Effect service.state.authority operation (step service ports operation).1.state.authority := by
  have succeeds {Outcome : Type} {answer : Service × Except DomainError Outcome}
      (respond : Except DomainError Outcome → Response)
      (accepted : ∀ outcome, (respond (.ok outcome)).refused = false) (acts : Acts service operation answer) :
      (answer.map id respond).1.state.authority = service.state.authority ∨
      (answer.map id respond).2.refused = false ∧
        Effect service.state.authority operation (answer.map id respond).1.state.authority := by
    obtain ⟨later, result⟩ := answer
    rcases acts with kept | ⟨⟨outcome, rfl⟩, effect⟩
    · exact .inl kept
    · exact .inr ⟨accepted outcome, effect⟩
  cases operation with
  | createIssue command => exact succeeds .mutation (fun _ => rfl) (createIssue_acts command)
  | prepareResolveIssue | prepareCloseIssue | prepareReopenIssue => exact .inl (prepare_authority _ _ _ _)
  | prepareLowerIssueClassification => exact .inl (settle_preview _ _ _ _ _)
  | approveAndExecute => exact succeeds .mutation (fun _ => rfl) (execute_acts nofun)
  | approveAndExecuteResolve | approveAndExecuteClose | approveAndExecuteReopen =>
    exact succeeds .mutation (fun _ => rfl) (executeOnly_acts nofun)
  | approveAndExecuteLowerIssueClassification => exact succeeds .mutation (fun _ => rfl) executeLower_acts
  | rejectIssuePreparedIntent command => exact .inl (reject_authority command)
  | discardPreparedIntent | injectNextCommitFailure => exact .inl rfl

end MissionControl.Issues

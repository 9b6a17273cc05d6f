import MissionControl.Actions.Records

/-! What an operation answers. A success is remembered under the operation's
idempotency id, and from then on it is what the operation answers again. -/

namespace MissionControl.Actions

/-- The command an operation issues: its context, what identifies it, and the
idempotency id its approval names (for other commands the context's own). -/
structure Issue where
  context : ActionOperationContext
  identity : CommandIdentity
  approvalId : IdempotencyId

abbrev Issue.key (issue : Issue) : IdempotencyId := issue.context.idempotencyId

def Issue.of (context : ActionOperationContext) (identity : CommandIdentity) : Issue :=
  ⟨context, identity, context.idempotencyId⟩

def ApproveAndExecute.issue (command : ApproveAndExecute) (identity : ApprovalBusinessIdentity → CommandIdentity) :
    Issue :=
  ⟨command.context, identity (approvalBusinessIdentity command.approval), command.approval.idempotencyId⟩

def Operation.issue : Operation → Option Issue
  | .createActionRequestDraft command => some (.of command.context command.identity)
  | .submitActionRequest command =>
    some (.of command.context (.transitionRequest command.requestId command.expectedVersion .open none))
  | .declineActionRequest command =>
    some (.of command.context
      (.transitionRequest command.requestId command.expectedVersion .declined (some command.rationale)))
  | .withdrawActionRequest command =>
    some (.of command.context
      (.transitionRequest command.requestId command.expectedVersion .withdrawn (some command.rationale)))
  | .startAction command => some (.of command.context (.startAction command.actionId command.expectedVersion))
  | .linkActionCompletionEvidence command =>
    some (.of command.context
      (.linkCompletionEvidence command.actionId command.expectedVersion command.evidenceId none))
  | .prepareAcceptActionRequest command => some (.of command.context command.identity)
  | .prepareCompleteAction command => some (.of command.context command.identity)
  | .prepareCancelAction command => some (.of command.context command.identity)
  | .prepareReopenAction command => some (.of command.context command.identity)
  | .prepareLowerActionClassification command => some (.of command.context command.identity)
  | .approveAndExecuteAcceptActionRequest command => some (command.issue .executeAccept)
  | .approveAndExecuteCompleteAction command => some (command.issue (.executeAction .complete))
  | .approveAndExecuteCancelAction command => some (command.issue (.executeAction .cancel))
  | .approveAndExecuteReopenAction command => some (command.issue (.executeAction .reopen))
  | .approveAndExecuteLowerActionClassification command => some (command.issue .executeLowerActionClassification)
  | .rejectActionPreparedIntent command => some (.of command.context (.rejectPrepared command.preparedId command.actor))
  | .discardPreparedIntent _ | .commitDecisionStage _ | .injectNextCommitFailure => none

section
variable {operation : Operation}

theorem transition_issue {change : RequestTransition} (moves : operation.transition = some change) :
    operation.issue = some (.of change.context change.identity) := by
  cases operation <;> simp only [Operation.transition, Option.some.injEq, reduceCtorEq] at moves <;>
    subst moves <;> rfl

theorem preparing_issue {context : ActionOperationContext} {signature : CommandIdentity}
    (prepares : operation.preparing = some (context, signature)) : operation.issue = some (.of context signature) := by
  cases operation <;> simp_all [Operation.preparing, Operation.issue]

theorem deniable_issue {store : Store} {ports : Ports} {deniable : Deniable}
    (denies : operation.deniable store ports = some deniable) :
    operation.issue = some (.of deniable.context deniable.signature) := by
  cases operation <;> simp only [Operation.deniable, Option.some.injEq, reduceCtorEq] at denies <;>
    subst denies <;> rfl

theorem executing_issue {kind : PreparedActionTransitionKind} {command : ApproveAndExecute}
    (executes : operation.executing = some (kind, command)) :
    operation.issue = some (command.issue (.executeAction kind)) := by
  cases operation <;> simp_all [Operation.executing, Operation.issue]

theorem failing_issue [Sha256] {store : Store} {ports : Ports} {cause : ActionServiceError}
    {command : ApproveAndExecute} (fails : ApprovalFails store ports cause operation command) :
    ∃ identity, operation.issue = some (command.issue identity) := by
  cases fails with
  | accept _ => exact ⟨_, rfl⟩
  | transition executes _ => exact ⟨_, executing_issue executes⟩

end

def CommandIdentity.asIssued : CommandIdentity → CommandIdentity
  | .linkCompletionEvidence actionId expectedVersion evidenceId _ =>
    .linkCompletionEvidence actionId expectedVersion evidenceId none
  | identity => identity

def Response.succeeded : Response → Bool
  | .request (.ok _) | .action (.ok _) | .prepared (.ok _) | .accepted (.ok _) | .rejected (.ok _) => true
  | _ => false

def Operation.reply : Operation → StoredResult → Option Response
  | .createActionRequestDraft _, .request outcome
  | .submitActionRequest _, .request outcome
  | .declineActionRequest _, .request outcome
  | .withdrawActionRequest _, .request outcome => some (.request (.ok outcome))
  | .startAction _, .action outcome
  | .linkActionCompletionEvidence _, .action outcome
  | .approveAndExecuteCompleteAction _, .action outcome
  | .approveAndExecuteCancelAction _, .action outcome
  | .approveAndExecuteReopenAction _, .action outcome
  | .approveAndExecuteLowerActionClassification _, .action outcome => some (.action (.ok outcome))
  | .prepareAcceptActionRequest _, .prepared intent
  | .prepareCompleteAction _, .prepared intent
  | .prepareCancelAction _, .prepared intent
  | .prepareReopenAction _, .prepared intent
  | .prepareLowerActionClassification _, .prepared intent => some (.prepared (.ok intent))
  | .approveAndExecuteAcceptActionRequest _, .accepted outcome => some (.accepted (.ok outcome))
  | .rejectActionPreparedIntent _, .rejected outcome => some (.rejected (.ok outcome))
  | .prepareCompleteAction _, .terminal failure
  | .prepareCancelAction _, .terminal failure
  | .prepareReopenAction _, .terminal failure
  | .prepareLowerActionClassification _, .terminal failure => some (.prepared (.error failure.error))
  | .approveAndExecuteCompleteAction _, .terminal failure
  | .approveAndExecuteCancelAction _, .terminal failure
  | .approveAndExecuteReopenAction _, .terminal failure => some (.action (.error failure.error))
  | .approveAndExecuteAcceptActionRequest _, .terminal failure => some (.accepted (.error failure.error))
  | _, _ => none

def Remembers (store : Store) (operation : Operation) (issue : Issue) (response : Response) : Prop :=
  ∃ stored, store.idem[issue.key]? = some stored ∧ stored.signature.asIssued = issue.identity ∧
    operation.reply stored.result = some response

theorem Recorded.remembered {store changed next : Store} {context : ActionOperationContext}
    {signature : CommandIdentity} {result : StoredResult} {audits : List AuditEvent}
    (recorded : Recorded store changed context signature result audits next) :
    next.idem[context.idempotencyId]? =
      some ⟨signature, result, context.correlationId, store.nextOperationOrdinal⟩ := by
  rw [recorded.idem, KeyMap.get_insert_self]

section
variable {Outcome : Type} {service : Service} {ports : Ports} {cause : Except ActionServiceError (Staged Outcome)}

def Succeeds (service : Service) (cause : Except ActionServiceError (Staged Outcome))
    (answered : Service × Except DomainError Outcome) : Prop :=
  ∀ outcome, answered.2 = .ok outcome →
    (cause = .ok (.replayed outcome) ∧ answered.1 = service) ∨
    ∃ next, (cause = .ok (.committed outcome next) ∨ cause = .ok (.placed outcome next)) ∧ answered.1.store = next

theorem reported_success (context : ActionOperationContext) (target : ErrorTarget) :
    Succeeds service cause (report context target (settle service cause)) := by
  intro outcome success
  rcases settled : settle service cause with ⟨later, failure | answer⟩
  · simp [settled, report] at success
  · rw [settled] at success
    cases success
    exact settle_ok settled

theorem executed_success (command : ApproveAndExecute) : Succeeds service cause (execute service ports command cause) := by
  intro outcome success
  unfold execute at success ⊢
  rcases settled : settle service cause with ⟨later, failure | answer⟩
  · simp only [settled, failedActionExecution] at success
    split at success <;> cases success
  · rw [settled] at success
    cases success
    exact settle_ok settled

theorem denied_refuses (actionId : ActionId) (context : ActionOperationContext) (signature : CommandIdentity)
    (cause : ActionServiceError) (intent : WorkManagementPreparedIntent) :
    (denied service ports actionId context signature cause).2 ≠ .ok intent := by
  unfold denied
  split
  · dsimp only
    split <;> simp
  · simp

theorem prepared_success {cause : Except ActionServiceError (Staged WorkManagementPreparedIntent)} (actionId : ActionId)
    (context : ActionOperationContext) (signature : CommandIdentity) :
    Succeeds service cause (prepareActionTransition service ports actionId context signature cause) := by
  intro intent success
  unfold prepareActionTransition at success ⊢
  split at success
  · cases success
  · cases success
  · rcases settled : settle service cause with ⟨later, failure | answer⟩
    · rw [settled] at success
      exact absurd success (denied_refuses actionId context signature failure intent)
    · rw [settled] at success
      cases success
      exact settle_ok settled

end

section
variable {result : StoredResult}

theorem pickRequest_ok {outcome : ActionMutationOutcome ActionRequestRecord} :
    pickRequest result = .ok outcome ↔ result = .request outcome := by
  cases result <;> simp [pickRequest]

variable {outcome : ActionMutationOutcome ActionRecord}

theorem pickAction_ok : pickAction result = .ok outcome ↔ result = .action outcome := by
  cases result <;> simp [pickAction]

theorem pickAccepted_ok {outcome : AcceptedActionOutcome} :
    pickAccepted result = .ok outcome ↔ result = .accepted outcome := by
  cases result <;> simp [pickAccepted]

theorem pickPrepared_ok {intent : WorkManagementPreparedIntent} :
    pickPrepared result = .ok intent ↔ result = .prepared intent := by
  cases result <;> simp [pickPrepared]

theorem pickRejected_ok {outcome : RejectedPreparedIntentOutcome} :
    pickRejected result = .ok outcome ↔ result = .rejected outcome := by
  cases result <;> simp [pickRejected]

theorem replayLinkAction_some {store : Store} {id : IdempotencyId} {signature : CommandIdentity} :
    replayLinkAction store id signature = .ok (some outcome) ↔
      ∃ stored, store.idem[id]? = some stored ∧ sameLinkCommand stored.signature signature = true ∧
        stored.result = .action outcome := by
  unfold replayLinkAction
  split
  next absent => simp [absent]
  next stored found =>
    split
    next same =>
      cases shown : stored.result <;> simp [found, same, shown]
    next different => simp [found, different]

theorem sameLinkCommand_iff {stored : CommandIdentity} {actionId : ActionId} {expectedVersion : AggregateVersion}
    {evidenceId : EvidenceReferenceId} :
    sameLinkCommand stored (.linkCompletionEvidence actionId expectedVersion evidenceId none) = true ↔
      stored.asIssued = .linkCompletionEvidence actionId expectedVersion evidenceId none := by
  cases stored <;> simp [sameLinkCommand, CommandIdentity.asIssued, and_assoc]

end

variable {Outcome : Type} {service : Service} {operation : Operation} {issue : Issue}
  {cause : Except ActionServiceError (Staged Outcome)} {wrap : Except DomainError Outcome → Response}

/-- A command that goes on remembers what it answers, and one that does not answers
what is remembered. -/
def Recalls (store : Store) (operation : Operation) (issue : Issue)
    (cause : Except ActionServiceError (Staged Outcome)) (wrap : Except DomainError Outcome → Response) : Prop :=
  ∀ staged, cause = .ok staged →
    (∃ outcome, staged = .replayed outcome ∧ Remembers store operation issue (wrap (.ok outcome))) ∨
    ∃ outcome next, (staged = .committed outcome next ∨ staged = .placed outcome next) ∧
      Remembers next operation issue (wrap (.ok outcome)) ∧ store.idem[issue.key]? = none

structure Answered (service : Service) (operation : Operation) (issue : Issue) (answer : Service × Response) : Prop where
  remembered : Remembers answer.1.store operation issue answer.2
  origin : answer.1 = service ∨ service.store.idem[issue.key]? = none

theorem answered {answer : Service × Except DomainError Outcome} (succeeds : Succeeds service cause answer)
    (recalls : Recalls service.store operation issue cause wrap)
    (refused : ∀ error, (wrap (.error error)).succeeded = false)
    (success : (answer.map id wrap).2.succeeded = true) : Answered service operation issue (answer.map id wrap) := by
  rcases answer with ⟨later, error | outcome⟩
  · simp [refused] at success
  · rcases succeeds outcome rfl with ⟨replayed, same⟩ | ⟨next, staged, same⟩
    · rcases recalls _ replayed with ⟨_, shown, remembered⟩ | ⟨_, _, placed | placed, _⟩
      · cases shown
        cases same
        exact ⟨remembered, .inl rfl⟩
      · cases placed
      · cases placed
    · rcases staged with staged | staged
      all_goals
        rcases recalls _ staged with ⟨_, shown, _⟩ | ⟨_, _, placed | placed, remembered, fresh⟩
        · cases shown
        · cases placed <;> exact ⟨same ▸ remembered, .inr fresh⟩
        · cases placed <;> exact ⟨same ▸ remembered, .inr fresh⟩

variable {ports : Ports}

theorem moved_recalls {store : Store} (change : RequestTransition)
    (issued : issue = .of change.context change.identity)
    (replies : ∀ outcome, operation.reply (.request outcome) = some (.request (.ok outcome))) :
    Recalls store operation issue (requestTransition store ports change.requestId change.expectedVersion change.reason
      change.source change.target change.context) .request := by
  subst issued
  intro staged success
  rcases requestTransition_ok success with ⟨outcome, replayed, same⟩ | ⟨_, _, _, next, same, facts⟩
  · obtain ⟨stored, found, signed, picked⟩ := replayAs_some.mp replayed
    refine .inl ⟨outcome, same, stored, found, ?_, ?_⟩
    · rw [signed]; rfl
    · rw [pickRequest_ok.mp picked, replies]
  · exact .inr ⟨_, next, .inl same, ⟨_, facts.stored.recorded.remembered, rfl, replies _⟩, facts.stored.recorded.fresh⟩

theorem prepared_recalls {store : Store} {context : ActionOperationContext} {signature : CommandIdentity}
    {preview : Except ActionServiceError WorkManagementPreparedIntent}
    (derives : ∀ intent, preview = .ok intent → Preparation store ports signature intent)
    (plain : signature.asIssued = signature)
    (replies : ∀ intent, operation.reply (.prepared intent) = some (.prepared (.ok intent))) :
    Recalls store operation (.of context signature) (prepareStored store context signature preview) .prepared := by
  intro staged success
  rcases prepareStored_ok derives success with ⟨intent, replayed, same⟩ | ⟨intent, next, same, facts⟩
  · obtain ⟨stored, found, signed, picked⟩ := replayAs_some.mp replayed
    refine .inl ⟨intent, same, stored, found, ?_, ?_⟩
    · rw [signed, plain]; rfl
    · rw [pickPrepared_ok.mp picked, replies]
  · exact .inr ⟨_, next, .inr same, ⟨_, facts.recorded.remembered, plain, replies _⟩, facts.recorded.fresh⟩

variable [Sha256]

theorem executeH2_recalls {store : Store} {kind : PreparedActionTransitionKind} {command : ApproveAndExecute}
    (replies : ∀ outcome, operation.reply (.action outcome) = some (.action (.ok outcome))) :
    Recalls store operation (command.issue (.executeAction kind)) (executeH2 store ports kind command) .action := by
  intro staged success
  rcases executeH2_ok success with ⟨outcome, replayed, same⟩ | ⟨_, _, _, _, _, _, _, _, _, next, same, facts⟩
  · obtain ⟨stored, found, signed, picked⟩ := replayAs_some.mp replayed
    refine .inl ⟨outcome, same, stored, found, ?_, ?_⟩
    · rw [signed]; rfl
    · rw [pickAction_ok.mp picked, replies]
  · exact .inr ⟨_, next, .inl same, ⟨_, facts.recorded.remembered, rfl, replies _⟩, facts.recorded.fresh⟩

theorem step_success (issued : operation.issue = some issue)
    (success : (step service ports operation).2.succeeded = true) :
    Answered service operation issue (step service ports operation) := by
  cases operation with
  | createActionRequestDraft command =>
    cases issued
    refine answered (reported_success _ _) (fun staged staging => ?_) (fun _ => rfl) success
    rcases createActionRequestDraftCause_ok staging with ⟨outcome, replayed, same⟩ | ⟨_, next, same, facts⟩
    · obtain ⟨stored, found, signed, picked⟩ := replayAs_some.mp replayed
      exact .inl ⟨outcome, same, stored, found, by rw [signed]; rfl, by rw [pickRequest_ok.mp picked]; rfl⟩
    · exact .inr ⟨_, next, .inl same, ⟨_, facts.stored.recorded.remembered, rfl, rfl⟩, facts.stored.recorded.fresh⟩
  | submitActionRequest command =>
    exact answered (reported_success _ _)
      (moved_recalls ⟨command.requestId, command.expectedVersion, none, .draft, .open, command.context⟩
        (Option.some.inj issued).symm fun _ => rfl) (fun _ => rfl) success
  | declineActionRequest command =>
    exact answered (reported_success _ _)
      (moved_recalls ⟨command.requestId, command.expectedVersion, some command.rationale, .open, .declined,
        command.context⟩ (Option.some.inj issued).symm fun _ => rfl) (fun _ => rfl) success
  | withdrawActionRequest command =>
    exact answered (reported_success _ _)
      (moved_recalls ⟨command.requestId, command.expectedVersion, some command.rationale, .open, .withdrawn,
        command.context⟩ (Option.some.inj issued).symm fun _ => rfl) (fun _ => rfl) success
  | startAction command =>
    cases issued
    refine answered (reported_success _ _) (fun staged staging => ?_) (fun _ => rfl) success
    rcases startActionCause_ok staging with ⟨outcome, replayed, same⟩ | ⟨_, _, _, next, same, facts⟩
    · obtain ⟨stored, found, signed, picked⟩ := replayAs_some.mp replayed
      exact .inl ⟨outcome, same, stored, found, by rw [signed]; rfl, by rw [pickAction_ok.mp picked]; rfl⟩
    · exact .inr ⟨_, next, .inl same, ⟨_, facts.stored.recorded.remembered, rfl, rfl⟩, facts.stored.recorded.fresh⟩
  | linkActionCompletionEvidence command =>
    cases issued
    refine answered (reported_success _ _) (fun staged staging => ?_) (fun _ => rfl) success
    rcases linkActionCompletionEvidenceCause_ok staging with ⟨outcome, replayed, same⟩ | ⟨_, _, _, _, next, same, facts⟩
    · obtain ⟨stored, found, signed, shown⟩ := replayLinkAction_some.mp replayed
      exact .inl ⟨outcome, same, stored, found, sameLinkCommand_iff.mp signed, by rw [shown]; rfl⟩
    · exact .inr ⟨_, next, .inl same, ⟨_, facts.stored.recorded.remembered, rfl, rfl⟩, facts.stored.recorded.fresh⟩
  | prepareAcceptActionRequest command =>
    cases issued
    exact answered (reported_success _ _) (prepared_recalls (fun _ success => .accept success) rfl
      fun _ => rfl) (fun _ => rfl) success
  | prepareCompleteAction command =>
    cases issued
    exact answered (prepared_success _ _ _) (prepared_recalls (fun _ success => .complete success) rfl
      fun _ => rfl) (fun _ => rfl) success
  | prepareCancelAction command =>
    cases issued
    exact answered (prepared_success _ _ _) (prepared_recalls (fun _ success => .cancel success) rfl
      fun _ => rfl) (fun _ => rfl) success
  | prepareReopenAction command =>
    cases issued
    exact answered (prepared_success _ _ _) (prepared_recalls (fun _ success => .reopen success) rfl
      fun _ => rfl) (fun _ => rfl) success
  | prepareLowerActionClassification command =>
    cases issued
    exact answered (prepared_success _ _ _) (prepared_recalls (fun _ success => .lower success) rfl
      fun _ => rfl) (fun _ => rfl) success
  | approveAndExecuteAcceptActionRequest command =>
    cases issued
    refine answered (executed_success command) (fun staged staging => ?_) (fun _ => rfl) success
    rcases approveAndExecuteAcceptActionRequestCause_ok staging
      with ⟨outcome, replayed, same⟩ | ⟨_, _, _, _, _, _, _, _, next, same, facts⟩
    · obtain ⟨stored, found, signed, picked⟩ := replayAs_some.mp replayed
      exact .inl ⟨outcome, same, stored, found, by rw [signed]; rfl, by rw [pickAccepted_ok.mp picked]; rfl⟩
    · exact .inr ⟨_, next, .inl same, ⟨_, facts.recorded.remembered, rfl, rfl⟩, facts.recorded.fresh⟩
  | approveAndExecuteCompleteAction command | approveAndExecuteCancelAction command
  | approveAndExecuteReopenAction command =>
    cases issued
    exact answered (executed_success command) (executeH2_recalls fun _ => rfl) (fun _ => rfl) success
  | approveAndExecuteLowerActionClassification command =>
    cases issued
    refine answered (reported_success _ _) (fun staged staging => ?_) (fun _ => rfl) success
    rcases approveAndExecuteLowerActionClassificationCause_ok staging
      with ⟨outcome, replayed, same⟩ | ⟨_, _, _, _, _, _, next, same, facts⟩
    · obtain ⟨stored, found, signed, picked⟩ := replayAs_some.mp replayed
      exact .inl ⟨outcome, same, stored, found, by rw [signed]; rfl, by rw [pickAction_ok.mp picked]; rfl⟩
    · exact .inr ⟨_, next, .inl same, ⟨_, facts.recorded.remembered, rfl, rfl⟩, facts.recorded.fresh⟩
  | rejectActionPreparedIntent command =>
    cases issued
    refine answered (reported_success _ _) (fun staged staging => ?_) (fun _ => rfl) success
    rcases rejectActionPreparedIntentCause_ok staging with ⟨outcome, replayed, same⟩ | ⟨_, _, _, _, next, same, facts⟩
    · obtain ⟨stored, found, signed, picked⟩ := replayAs_some.mp replayed
      exact .inl ⟨outcome, same, stored, found, by rw [signed]; rfl, by rw [pickRejected_ok.mp picked]; rfl⟩
    · exact .inr ⟨_, next, .inl same, ⟨_, facts.recorded.remembered, rfl, rfl⟩, facts.recorded.fresh⟩
  | discardPreparedIntent _ | commitDecisionStage _ => cases issued
  | injectNextCommitFailure => cases issued

end MissionControl.Actions

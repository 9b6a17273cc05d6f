import MissionControl.Decisions.Run

/-! What the commands of the Decision service do, said once: a request is created or
moved, is resolved into a new Decision, a Decision is superseded by a new one, or a
Decision is lowered. -/

namespace MissionControl.Decisions
open Checked Staging

section
variable {state : Store} {ports : Ports}

theorem exactRequest_ok {id : DecisionRequestId} {version : AggregateVersion} {record : DecisionRequestRecord} :
    exactRequest state id version = .ok record ↔ state.requests[id]? = some record ∧ record.version = version := by
  simp only [exactRequest, bind_ok, require_ok, ensure_ok, pure_ok]
  constructor
  · rintro ⟨_, found, _, same, rfl⟩
    exact ⟨found, same⟩
  · rintro ⟨found, same⟩
    exact ⟨record, found, (), same, rfl⟩

theorem exactDecision_ok {id : DecisionId} {version : AggregateVersion} {record : DecisionRecord} :
    exactDecision state id version = .ok record ↔ state.decisions[id]? = some record ∧ record.version = version := by
  simp only [exactDecision, bind_ok, require_ok, ensure_ok, pure_ok]
  constructor
  · rintro ⟨_, found, _, same, rfl⟩
    exact ⟨found, same⟩
  · rintro ⟨found, same⟩
    exact ⟨record, found, (), same, rfl⟩

theorem next_ok {version later : AggregateVersion} : next version = .ok later ↔ version.next = some later :=
  require_ok

theorem replaying_ok {Next Outcome : Type} {pick : ResultValue → Option Outcome} {context : DecisionOperationContext}
    {signature : Signature} {fresh : Except DecisionError (Staged Next Outcome)} {staged : Staged Next Outcome}
    (decided : replaying pick state context signature fresh = .ok staged) :
    (∃ outcome, staged = .replayed outcome) ∨ state.idem[context.idempotencyId]? = none ∧ fresh = .ok staged := by
  rcases orConflict_ok decided with replayed | ⟨unanswered, success⟩
  · exact .inl replayed
  · rcases replay_ok unanswered with ⟨_, absent⟩ | ⟨_, answer, _⟩
    · exact .inr ⟨absent, success⟩
    · cases answer

end

/-- What a resolution found, and what it leaves. -/
structure Resolves [Sha256] (state : Store) (actions : Actions.Store) (actionPorts : Nat → Actions.Ports)
    (command : ApproveAndExecute) (intent : WorkManagementPreparedIntent) (target : ResolveTarget)
    (request : DecisionRequestRecord) (support : SupportWitness) (later : AggregateVersion)
    (outcome : ResolvedDecisionOutcome) (next : Pair) : Prop where
  fresh : state.idem[command.context.idempotencyId]? = none
  pending : state.prepared[command.approval.preparedId]? = some intent
  targeted : resolveTarget intent.operation = some target
  found : state.requests[target.requestId]? = some request
  required : request.state = .open
  absent : state.decisions[target.decisionId]? = none
  staged : stageAll actions (answered actionPorts (creations command.context "resolve" target.decisionId
    intent.preview.classification target.specs)) = .ok next.actions
  advances : request.version.next = some later
  becomes : next.decisions = { state.commit command outcome.auditEvents (.resolved outcome) with
    requests := state.requests.insert request.id (resolvedRequest request target.decisionId later)
    decisions := state.decisions.insert target.decisionId (target.decision intent.preview.classification support) }

/-- What a supersession found, and what it leaves. -/
structure Supersedes [Sha256] (state : Store) (actions : Actions.Store) (actionPorts : Nat → Actions.Ports)
    (command : ApproveAndExecute) (intent : WorkManagementPreparedIntent) (target : SupersedeTarget)
    (old : DecisionRecord) (support : SupportWitness) (later : AggregateVersion)
    (outcome : SupersededDecisionOutcome) (next : Pair) : Prop where
  fresh : state.idem[command.context.idempotencyId]? = none
  pending : state.prepared[command.approval.preparedId]? = some intent
  targeted : supersedeTarget intent.operation = some target
  found : state.decisions[target.oldId]? = some old
  required : old.state = .effective
  absent : state.decisions[target.newId]? = none
  downstream : downstream actions target.oldId = target.downstream
  staged : stageAll actions (answered actionPorts
    (creations command.context "supersede-create" target.newId intent.preview.classification target.specs ++
      markings command.context target.oldId intent.preview.classification target.specs.length target.downstream)) =
    .ok next.actions
  advances : old.version.next = some later
  becomes : next.decisions = { state.commit command outcome.auditEvents (.superseded outcome) with
    decisions := (state.decisions.insert target.oldId (supersededRecord old target.newId later)).insert target.newId
      (target.replacement intent.preview.classification support) }

section
variable [Sha256] {state : Store} {actions : Actions.Store} {ports : Ports} {actionPorts : Nat → Actions.Ports}
  {command : ApproveAndExecute}

theorem executeResolve_ok {staged : Staged Pair ResolvedDecisionOutcome}
    (success : executeResolve state actions ports actionPorts command = .ok staged) :
    (∃ outcome, staged = .replayed outcome) ∨
    ∃ intent target request support later outcome next, staged = .committed outcome next ∧
      Resolves state actions actionPorts command intent target request support later outcome next := by
  simp only [executeResolve, bind_ok] at success
  obtain ⟨_, _, success⟩ := success
  rcases replaying_ok success with replayed | ⟨fresh, success⟩
  · exact .inl replayed
  simp only [bind_ok, ensure_ok, require_ok, relabel_ok, exactRequest_ok, next_ok, pure_ok] at success
  obtain ⟨intent, pending, target, targeted, request, ⟨found, _⟩, _, ⟨required, _⟩, _, absent, support, _, receipt, _,
    stage, staged, later, advances, first, _, second, _, third, _, rfl⟩ := success
  exact .inr ⟨intent, target, request, support, later, _, _, rfl, fresh, pending, targeted, found, required, absent,
    staged, advances, rfl⟩

theorem executeSupersede_ok {staged : Staged Pair SupersededDecisionOutcome}
    (success : executeSupersede state actions ports actionPorts command = .ok staged) :
    (∃ outcome, staged = .replayed outcome) ∨
    ∃ intent target old support later outcome next, staged = .committed outcome next ∧
      Supersedes state actions actionPorts command intent target old support later outcome next := by
  simp only [executeSupersede, bind_ok] at success
  obtain ⟨_, _, success⟩ := success
  rcases replaying_ok success with replayed | ⟨fresh, success⟩
  · exact .inl replayed
  simp only [bind_ok, ensure_ok, require_ok, relabel_ok, exactDecision_ok, next_ok, pure_ok] at success
  obtain ⟨intent, pending, target, targeted, old, ⟨found, _⟩, _, ⟨required, absent⟩, support, _, _, downstream, receipt,
    _, stage, staged, later, advances, first, _, second, _, third, _, rfl⟩ := success
  exact .inr ⟨intent, target, old, support, later, _, _, rfl, fresh, pending, targeted, found, required, absent,
    downstream, staged, advances, rfl⟩

end

inductive Effect (before after : Store) : Prop where
  | kept (requests : after.requests = before.requests) (decisions : after.decisions = before.decisions)
  | created (record : DecisionRequestRecord) (absent : before.requests[record.id]? = none)
      (drafted : record.state = .draft) (requests : after.requests = before.requests.insert record.id record)
      (decisions : after.decisions = before.decisions)
  | moved (id : DecisionRequestId) (record moved : DecisionRequestRecord) (found : before.requests[id]? = some record)
      (required : record.state ≠ .resolved) (moves : moved.state ≠ .resolved) (same : moved.id = record.id)
      (requests : after.requests = before.requests.insert record.id moved)
      (decisions : after.decisions = before.decisions)
  | resolved (target : ResolveTarget) (request : DecisionRequestRecord) (classification : DataClassification)
      (support : SupportWitness) (later : AggregateVersion)
      (found : before.requests[target.requestId]? = some request) (required : request.state = .open)
      (absent : before.decisions[target.decisionId]? = none)
      (requests : after.requests = before.requests.insert request.id (resolvedRequest request target.decisionId later))
      (decisions : after.decisions =
        before.decisions.insert target.decisionId (target.decision classification support))
  | superseded (target : SupersedeTarget) (old : DecisionRecord) (classification : DataClassification)
      (support : SupportWitness) (later : AggregateVersion) (found : before.decisions[target.oldId]? = some old)
      (required : old.state = .effective) (absent : before.decisions[target.newId]? = none)
      (requests : after.requests = before.requests)
      (decisions : after.decisions = (before.decisions.insert target.oldId
        (supersededRecord old target.newId later)).insert target.newId (target.replacement classification support))
  | lowered (id : DecisionId) (record : DecisionRecord) (classification : DataClassification)
      (later : AggregateVersion) (found : before.decisions[id]? = some record)
      (requests : after.requests = before.requests)
      (decisions : after.decisions = before.decisions.insert id { record with version := later, classification })

theorem Effect.refl (state : Store) : Effect state state := .kept rfl rfl

section
variable {state next : Store} {ports : Ports}

variable {context : DecisionOperationContext}

theorem storeRequest_ok {record : DecisionRequestRecord} {signature : Signature} {code : String}
    {staged : Staged Store (DecisionMutationOutcome DecisionRequestRecord)}
    (success : storeRequest state ports record context signature code = .ok staged) (target : staged.target = some next) :
    next.requests = state.requests.insert record.id record ∧ next.decisions = state.decisions := by
  simp only [storeRequest, bind_ok, pure_ok] at success
  obtain ⟨_, _, rfl⟩ := success
  cases target
  exact ⟨rfl, rfl⟩

theorem createCause_effect {command : CreateDecisionRequestDraft}
    {staged : Staged Store (DecisionMutationOutcome DecisionRequestRecord)}
    (success : createCause state ports command = .ok staged) (target : staged.target = some next) :
    Effect state next := by
  rcases replaying_ok success with ⟨_, rfl⟩ | ⟨_, success⟩
  · cases target
  simp only [bind_ok, ensure_ok] at success
  obtain ⟨_, absent, stored⟩ := success
  obtain ⟨requests, decisions⟩ := storeRequest_ok stored target
  exact .created (createdRecord command) absent rfl requests decisions

theorem transition_effect {change : RequestTransition}
    {staged : Staged Store (DecisionMutationOutcome DecisionRequestRecord)}
    (source : change.source ≠ .resolved) (becomes : change.target ≠ .resolved)
    (success : transition state ports change = .ok staged) (target : staged.target = some next) :
    Effect state next := by
  simp only [transition, bind_ok] at success
  obtain ⟨signature, _, success⟩ := success
  rcases replaying_ok success with ⟨_, rfl⟩ | ⟨_, success⟩
  · cases target
  simp only [bind_ok, ensure_ok, exactRequest_ok] at success
  obtain ⟨record, ⟨found, _⟩, _, required, later, _, stored⟩ := success
  obtain ⟨requests, decisions⟩ := storeRequest_ok stored target
  let moved : DecisionRequestRecord :=
    { record with state := change.target, withdrawalRationale := change.rationale, version := later }
  exact .moved change.requestId record moved found (required ▸ source) becomes rfl requests decisions

variable {staged : Staged Store WorkManagementPreparedIntent}

theorem prepare_effect {operation : WorkManagementOperation} {classification : DataClassification}
    {support : Option SupportWitness} {signature : Signature}
    (success : prepare state ports operation classification support context signature = .ok staged)
    (target : staged.target = some next) : Effect state next := by
  simp only [prepare, bind_ok, pure_ok] at success
  obtain ⟨_, _, _, _, _, _, rfl⟩ := success
  cases target
  exact .kept rfl rfl

theorem prepareResolve_effect {command : PrepareResolveDecisionRequest}
    (success : prepareResolve state ports command = .ok staged) (target : staged.target = some next) :
    Effect state next := by
  rcases replaying_ok success with ⟨_, rfl⟩ | ⟨_, success⟩
  · cases target
  simp only [bind_ok] at success
  obtain ⟨_, _, _, _, _, _, _, _, _, _, prepared⟩ := success
  exact prepare_effect prepared target

theorem prepareSupersede_effect {actions : Actions.Store} {command : PrepareSupersedeDecision}
    (success : prepareSupersede state actions ports command = .ok staged) (target : staged.target = some next) :
    Effect state next := by
  rcases replaying_ok success with ⟨_, rfl⟩ | ⟨_, success⟩
  · cases target
  simp only [bind_ok] at success
  obtain ⟨_, _, _, _, _, _, _, _, prepared⟩ := success
  exact prepare_effect prepared target

theorem prepareLower_effect {command : PrepareLowerDecisionClassification}
    (success : prepareLower state ports command = .ok staged) (target : staged.target = some next) :
    Effect state next := by
  rcases replaying_ok success with ⟨_, rfl⟩ | ⟨_, success⟩
  · cases target
  simp only [bind_ok] at success
  obtain ⟨_, _, _, _, prepared⟩ := success
  exact prepare_effect prepared target

theorem rejectCause_effect {command : RejectDecisionPreparedIntent}
    {staged : Staged Store Actions.RejectedPreparedIntentOutcome}
    (success : rejectCause state ports command = .ok staged) (target : staged.target = some next) :
    Effect state next := by
  rcases replaying_ok success with ⟨_, rfl⟩ | ⟨_, success⟩
  · cases target
  simp only [bind_ok, pure_ok] at success
  obtain ⟨_, _, _, _, _, _, _, _, _, _, rfl⟩ := success
  cases target
  exact .kept rfl rfl

theorem discardPreparedIntent_effect (state : Store) (id : PreparedIntentId) :
    Effect state (discardPreparedIntent state id).2 := by
  unfold discardPreparedIntent
  split
  · exact .refl state
  · exact .kept rfl rfl

theorem executeLower_effect [Sha256] {command : ApproveAndExecute}
    {staged : Staged Store (DecisionMutationOutcome DecisionRecord)}
    (success : executeLowerDecisionClassification state ports command = .ok staged)
    (target : staged.target = some next) : Effect state next := by
  simp only [executeLowerDecisionClassification, bind_ok] at success
  obtain ⟨_, _, success⟩ := success
  rcases replaying_ok success with ⟨_, rfl⟩ | ⟨_, success⟩
  · cases target
  simp only [bind_ok, require_ok, exactDecision_ok, pure_ok] at success
  obtain ⟨_, _, aim, _, record, ⟨found, _⟩, _, _, later, _, _, _, rfl⟩ := success
  cases target
  exact .lowered aim.decisionId record aim.proposedClassification later found rfl rfl

end

/-- At most one audit event was recorded, and nothing else happened. -/
def Audited (before after : Store) : Prop :=
  ∃ failure : Option AuditEvent, after = { before with audits := before.audits ++ failure.toList }

theorem Audited.refl (state : Store) : Audited state state := ⟨none, by simp⟩

theorem Audited.effect {before after : Store} (audited : Audited before after) : Effect before after := by
  obtain ⟨_, rfl⟩ := audited
  exact .kept rfl rfl

section
variable {service : Service} {actions : Actions.Service} {ports : Ports} {Outcome : Type}

theorem settle_effect {decided : Except DecisionError (Staged Store Outcome)}
    (effect : ∀ staged next, decided = .ok staged → staged.target = some next → Effect service.state next) :
    Effect service.state (settle .infrastructure service decided).1.state := by
  rcases settle_cases .infrastructure service decided with same | ⟨staged, next, success, target, settled⟩
  · rw [same]
    exact .refl _
  · rw [settled]
    exact effect staged next success target

theorem reportPreparation_effect {target : AuditTarget} {context : DecisionOperationContext}
    {decided : Except DecisionError (Staged Store WorkManagementPreparedIntent)}
    (effect : ∀ staged next, decided = .ok staged → staged.target = some next → Effect service.state next) :
    Effect service.state (reportPreparation service ports target context decided).1.state := by
  have settled := settle_effect effect
  unfold reportPreparation
  split
  next later intent shown =>
    rw [shown] at settled
    exact settled
  next later cause shown =>
    have same : later.state = service.state := by
      have answered := congrArg Prod.snd shown
      have refused := settle_error answered
      rw [shown] at refused
      exact refused.1
    split
    · split
      · rw [same]
        exact .refl _
      · refine .kept ?_ ?_ <;> rw [same]
    · rw [same]
      exact .refl _

theorem failedApproval_refuses (Outcome : Type) (service : Service) (ports : Ports) (command : ApproveAndExecute)
    (cause : DecisionError) : ∃ later error,
      (failedApproval service ports command cause : Service × Except DomainError Outcome) = (later, .error error) ∧
        Audited service.state later.state := by
  unfold failedApproval
  split
  · exact ⟨_, _, rfl, .refl _⟩
  next state recorded =>
    refine ⟨_, _, rfl, ?_⟩
    unfold recordH2Failure at recorded
    split at recorded
    · cases recorded
      exact .refl _
    · simp only [bind_ok, pure_ok] at recorded
      obtain ⟨event, _, rfl⟩ := recorded
      exact ⟨some event, rfl⟩

theorem settlePair_cases (service : Service) (actions : Actions.Service)
    (decided : Except DecisionError (Staged Pair Outcome)) :
    (∃ later given cause, settlePair service actions decided = ((later, given), .error cause) ∧
      later.state = service.state ∧ given.store = actions.store) ∨
    (∃ outcome, decided = .ok (.replayed outcome) ∧
      settlePair service actions decided = ((service, actions), .ok outcome)) ∨
    ∃ staged next, decided = .ok staged ∧ staged.target = some next ∧
      settlePair service actions decided =
        (({ service with state := next.decisions }, { actions with store := next.actions }), .ok staged.outcome) := by
  have committing (staged : Staged Pair Outcome) (next : Pair) (success : decided = .ok staged)
      (target : staged.target = some next) :
      settlePair service actions decided =
        if actions.failNextCommit then ((service, { actions with failNextCommit := false }), .error .infrastructure)
        else if service.failNextCommit then (({ service with failNextCommit := false }, actions), .error .infrastructure)
        else (({ service with state := next.decisions }, { actions with store := next.actions }),
          .ok staged.outcome) := by
    subst success
    cases staged <;> cases target <;> rfl
  cases shown : decided with
  | error cause => exact .inl ⟨service, actions, cause, rfl, rfl, rfl⟩
  | ok staged =>
    subst shown
    cases target : staged.target with
    | none =>
      cases staged <;> cases target
      exact .inr (.inl ⟨_, rfl, rfl⟩)
    | some next =>
      rw [committing staged next rfl target]
      split
      · exact .inl ⟨_, _, _, rfl, rfl, rfl⟩
      · split
        · exact .inl ⟨_, _, _, rfl, rfl, rfl⟩
        · exact .inr (.inr ⟨staged, next, rfl, target, rfl⟩)

/-- An approval fails and at most records that it failed, answers again, or puts both
stores in place. -/
theorem settleApproval_cases (service : Service) (actions : Actions.Service) (ports : Ports)
    (command : ApproveAndExecute) (decided : Except DecisionError (Staged Pair Outcome)) :
    (∃ later given error, settleApproval service actions ports command decided = ((later, given), .error error) ∧
      Audited service.state later.state ∧ given.store = actions.store) ∨
    (∃ outcome, decided = .ok (.replayed outcome) ∧
      settleApproval service actions ports command decided = ((service, actions), .ok outcome)) ∨
    ∃ staged next, decided = .ok staged ∧ staged.target = some next ∧
      settleApproval service actions ports command decided =
        (({ service with state := next.decisions }, { actions with store := next.actions }), .ok staged.outcome) := by
  unfold settleApproval
  rcases settlePair_cases service actions decided with
    ⟨later, given, cause, settled, same, store⟩ | ⟨outcome, success, settled⟩ | ⟨staged, next, success, target, settled⟩
  · obtain ⟨recorded, error, refused, audited⟩ :=
      failedApproval_refuses Outcome later ports command cause
    rw [settled]
    simp only [refused]
    exact .inl ⟨recorded, given, error, rfl, same ▸ audited, store⟩
  · rw [settled]
    exact .inr (.inl ⟨outcome, success, rfl⟩)
  · rw [settled]
    exact .inr (.inr ⟨staged, next, success, target, rfl⟩)

end

theorem executeLower_settled [Sha256] (service : Service) (ports : Ports) (command : ApproveAndExecute) :
    Effect service.state (approveAndExecuteLowerDecisionClassification service ports command).1.state := by
  have settled : Effect service.state
      (settle .infrastructure service (executeLowerDecisionClassification service.state ports command)).1.state :=
    settle_effect fun _ _ => executeLower_effect
  unfold approveAndExecuteLowerDecisionClassification
  split
  next later outcome shown =>
    rw [shown] at settled
    exact settled
  next later cause shown =>
    obtain ⟨recorded, error, refused, audited⟩ :=
      failedApproval_refuses (DecisionMutationOutcome DecisionRecord) later ports command cause
    have same := (settle_error (congrArg Prod.snd shown)).1
    rw [shown] at same
    rw [refused]
    exact (same ▸ audited : Audited service.state recorded.state).effect

theorem step_effect [Sha256] (service : Service) (actions : Actions.Service) (ports : Ports)
    (actionPorts : Nat → Actions.Ports) (operation : Operation) :
    Effect service.state (step service actions ports actionPorts operation).1.1.state := by
  cases operation with
  | createDecisionRequestDraft command => exact settle_effect fun _ _ => createCause_effect
  | submitDecisionRequest command | withdrawDecisionRequest command => exact settle_effect fun _ _ => transition_effect nofun nofun
  | prepareResolveDecisionRequest command => exact reportPreparation_effect fun _ _ => prepareResolve_effect
  | prepareSupersedeDecision command => exact reportPreparation_effect fun _ _ => prepareSupersede_effect
  | prepareLowerDecisionClassification command => exact settle_effect fun _ _ => prepareLower_effect
  | approveAndExecuteResolveDecisionRequest command =>
    rcases settleApproval_cases service actions ports command
      (executeResolve service.state actions.store ports actionPorts command) with
      ⟨later, given, error, settled, audited, _⟩ | ⟨outcome, _, settled⟩ | ⟨staged, next, success, target, settled⟩
    all_goals simp only [step, approveAndExecuteResolveDecisionRequest, settled, Prod.map_fst, id_eq]
    · exact audited.effect
    · exact .refl _
    · rcases executeResolve_ok success with ⟨_, rfl⟩ | ⟨_, aim, request, support, later, _, _, rfl, resolves⟩
      · cases target
      · cases target
        exact .resolved aim request _ support later resolves.found resolves.required resolves.absent
          (by rw [resolves.becomes]) (by rw [resolves.becomes])
  | approveAndExecuteSupersedeDecision command =>
    rcases settleApproval_cases service actions ports command
      (executeSupersede service.state actions.store ports actionPorts command) with
      ⟨later, given, error, settled, audited, _⟩ | ⟨outcome, _, settled⟩ | ⟨staged, next, success, target, settled⟩
    all_goals simp only [step, approveAndExecuteSupersedeDecision, settled, Prod.map_fst, id_eq]
    · exact audited.effect
    · exact .refl _
    · rcases executeSupersede_ok success with ⟨_, rfl⟩ | ⟨_, aim, old, support, later, _, _, rfl, supersedes⟩
      · cases target
      · cases target
        exact .superseded aim old _ support later supersedes.found supersedes.required supersedes.absent
          (by rw [supersedes.becomes]; rfl) (by rw [supersedes.becomes])
  | approveAndExecuteLowerDecisionClassification command =>
    exact executeLower_settled service ports command
  | rejectDecisionPreparedIntent command => exact settle_effect fun _ _ => rejectCause_effect
  | discardPreparedIntent id => exact discardPreparedIntent_effect service.state id
  | injectNextCommitFailure => exact .refl _

end MissionControl.Decisions

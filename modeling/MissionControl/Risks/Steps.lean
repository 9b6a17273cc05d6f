import MissionControl.Risks.Service

/-! What the commands of the Risk service do, said once: to the Risks, their links and
the shared Issues on one side, and to the pending previews, the answers and the
audits on the other. -/

namespace MissionControl.Risks
open Checked Staging
open Issues (IssueStore IssueRecord)

structure Approved (own : Store) (id : RiskId) (version : AggregateVersion) (current : RiskRecord)
    (later : AggregateVersion) : Prop where
  found : own.risks[id]? = some current
  matched : current.version = version
  advances : current.version.next = some later

inductive Effect (before after : State) : Operation → Prop where
  | kept (operation : Operation) (risks : after.own.risks = before.own.risks)
      (links : after.own.links = before.own.links) (authority : after.authority = before.authority) :
      Effect before after operation
  | created (command : CreateRisk) (absent : before.own.risks[command.id]? = none)
      (classified : command.classification ≠ .unclassified)
      (risks : after.own.risks = before.own.risks.insert command.id (createdRisk command))
      (links : after.own.links = before.own.links) (authority : after.authority = before.authority) :
      Effect before after (.createRisk command)
  | responded (command : UpdateRiskResponse) (current : RiskRecord) (later : AggregateVersion)
      (approved : Approved before.own command.riskId command.expectedVersion current later)
      (required : current.state = .open)
      (risks : after.own.risks = before.own.risks.insert current.id (respondedRisk command later current))
      (links : after.own.links = before.own.links) (authority : after.authority = before.authority) :
      Effect before after (.updateRiskResponse command)
  | occurred (command : ApproveAndExecute) (target : OccurrenceTarget) (current : RiskRecord)
      (later : AggregateVersion) (approved : Approved before.own target.riskId target.riskVersion current later)
      (required : current.state = .open) (absent : before.authority.get target.issueId = none)
      (risks : after.own.risks =
        before.own.risks.insert target.riskId { current with state := .occurred, version := later })
      (links : after.own.links = before.own.links ++
        [⟨target.riskId, target.issueId, later, .initial, current.classification⟩])
      (authority : after.authority = before.authority.insertFromRisk
        (.fromRisk target.issueId target.riskId current.title current.details current.classification)) :
      Effect before after (.approveAndExecuteRecordRiskOccurrence command)
  | closed (command : ApproveAndExecute) (target : CloseTarget) (current : RiskRecord) (later : AggregateVersion)
      (approved : Approved before.own target.riskId target.riskVersion current later)
      (required : current.state = .open)
      (risks : after.own.risks = before.own.risks.insert target.riskId
        { current with state := .closed, inExceptionQueue := false, version := later })
      (links : after.own.links = before.own.links) (authority : after.authority = before.authority) :
      Effect before after (.approveAndExecuteCloseRisk command)
  | lowered (command : ApproveAndExecute) (target : LoweringTarget) (current : RiskRecord)
      (later : AggregateVersion) (approved : Approved before.own target.riskId target.riskVersion current later)
      (risks : after.own.risks = before.own.risks.insert target.riskId
        { current with classification := target.proposedClassification, version := later })
      (links : after.own.links = before.own.links) (authority : after.authority = before.authority) :
      Effect before after (.approveAndExecuteLowerRiskClassification command)

/-- The audit events a command adds carry ids drawn during it, each its own. -/
def auditDraws (ports : Ports) : List AuditEventId :=
  [AuditSlot.first, .second, .third, .failure].filterMap ports.nextAuditEventId

/-- An answer that neither previews nor ends a pending preview without its effect. -/
def Stored.plain : Stored → Bool
  | .risk _ | .occurred _ | .closed _ => true
  | .prepared _ | .terminal _ | .rejected _ => false

/-- The failure a decision came to, if it came to one. -/
def failureOf {ε α : Type} : Except ε α → Option ε
  | .error failure => some failure
  | .ok _ => none

def deniedApproval [Sha256] (state : State) (ports : Ports) : Operation → Option WorkManagementApproval
  | .approveAndExecuteRecordRiskOccurrence command =>
    if failureOf (executeOccurrence state ports command) = some .policyDenied then some command.approval else none
  | .approveAndExecuteCloseRisk command =>
    if failureOf (executeClose state ports command) = some .policyDenied then some command.approval else none
  | .approveAndExecuteLowerRiskClassification command =>
    if failureOf (executeLowerRiskClassification state ports command) = some .policyDenied then some command.approval
    else none
  | _ => none

inductive Bookkeeping [Sha256] (state : State) (ports : Ports) (operation : Operation) (after : Store) : Prop where
  | kept (events : List AuditEvent) (prepared : after.prepared = state.own.prepared) (idem : after.idem = state.own.idem)
      (audits : after.audits = state.own.audits ++ events)
      (drawn : (events.map (·.id)).Sublist (auditDraws ports))
  | answered (context : RiskOperationContext) (signature : Signature) (stored : Stored) (events : List AuditEvent)
      (plain : stored.plain = true)
      (prepared : after.prepared = state.own.prepared ∨ ∃ id, after.prepared = state.own.prepared.erase id)
      (idem : after.idem = state.own.idem.insert context.idempotencyId (signature, stored))
      (audits : after.audits = state.own.audits ++ events)
      (drawn : (events.map (·.id)).Sublist (auditDraws ports))
  | placed (context : RiskOperationContext) (signature : Signature) (intent : WorkManagementPreparedIntent)
      (fresh : ports.nextPreparedIntentId = some intent.id)
      (prepared : after.prepared = state.own.prepared.insert intent.id intent)
      (idem : after.idem = state.own.idem.insert context.idempotencyId (signature, .prepared intent))
      (audits : after.audits = state.own.audits)
  | terminalized (command : ApproveAndExecute) (intent : WorkManagementPreparedIntent) (event : AuditEvent)
      (denied : deniedApproval state ports operation = some command.approval)
      (pending : state.own.prepared[command.approval.preparedId]? = some intent)
      (prepared : after.prepared = state.own.prepared.erase command.approval.preparedId)
      (idem : after.idem = (state.own.forget command.approval.preparedId).idem.insert command.context.idempotencyId
        (executionSignature command.approval, .terminal ⟨intent, mapFailure .policyDenied command.context, event⟩))
      (audits : after.audits = state.own.audits ++ [event])
      (correlated : event.correlationId = command.context.correlationId)
      (drawn : ports.nextAuditEventId .failure = some event.id)
  | rejected (command : RejectRiskPreparedIntent) (intent : WorkManagementPreparedIntent)
      (outcome : Actions.RejectedPreparedIntentOutcome)
      (authorized : command.actor = .headOfProducts)
      (pending : state.own.prepared[command.preparedId]? = some intent) (named : outcome.preparedIntentId = intent.id)
      (prepared : after.prepared = state.own.prepared.erase command.preparedId)
      (idem : after.idem = state.own.idem.insert command.context.idempotencyId
        (.rejectPrepared command.preparedId command.actor, .rejected outcome))
      (audits : after.audits = state.own.audits ++ [outcome.auditEvent])
      (drawn : ports.nextAuditEventId .first = some outcome.auditEvent.id)
  | forgotten (id : PreparedIntentId) (prepared : after.prepared = state.own.prepared.erase id)
      (idem : after.idem = (state.own.forget id).idem) (audits : after.audits = state.own.audits)

section
variable {state next : State} {ports : Ports}

section

variable {event : AuditEvent}

theorem audit_ok {ε : Type} {failure : ε} {slot : AuditSlot} {target : AuditTarget} {code : String}
    {context : RiskOperationContext} {approved : Bool}
    (success : audit failure ports slot target code context approved = .ok event) :
    ports.nextAuditEventId slot = some event.id := by
  simp only [audit, bind_ok, require_ok, pure_ok] at success
  obtain ⟨id, drawn, _, _, _, _, rfl⟩ := success
  exact drawn

theorem failureAudit_ok {target : RiskId} {code : AuditEventCode} {context : RiskOperationContext}
    {outcomes : AuditPolicyOutcome × AuditApprovalOutcome × AuditExecutionOutcome}
    (success : failureAudit ports target code context outcomes = .ok event) :
    ports.nextAuditEventId .failure = some event.id ∧ event.correlationId = context.correlationId := by
  simp only [failureAudit, bind_ok, require_ok, pure_ok] at success
  obtain ⟨id, drawn, _, _, rfl⟩ := success
  exact ⟨drawn, rfl⟩

theorem drawn_first (drawn : ports.nextAuditEventId .first = some event.id) :
    ([event].map (·.id)).Sublist (auditDraws ports) := by
  rw [auditDraws, List.filterMap_cons, drawn]
  exact (List.nil_sublist _).cons_cons event.id

theorem drawn_failure (drawn : ports.nextAuditEventId .failure = some event.id) :
    ([event].map (·.id)).Sublist (auditDraws ports) := by
  have member : event.id ∈ auditDraws ports :=
    List.mem_filterMap.mpr ⟨.failure, by simp, drawn⟩
  exact List.singleton_sublist.mpr member

end

variable [Sha256]

variable {staged : Staged State RiskMutationOutcome}

theorem stageCreate_effect {command : CreateRisk} (success : stageCreate state ports command = .ok staged)
    (target : staged.target = some next) :
    Effect state next (.createRisk command) ∧ Bookkeeping state ports (.createRisk command) next.own := by
  rcases orReplay_ok success with ⟨_, _, _, _, rfl⟩ | ⟨_, _, _, success⟩
  · cases target
  simp only [bind_ok, ensure_ok, pure_ok] at success
  obtain ⟨_, classified, _, absent, event, audited, rfl⟩ := success
  cases target
  exact ⟨.created command absent classified rfl rfl rfl,
    .answered command.context command.signature _ [event] rfl (.inl rfl) rfl rfl (drawn_first (audit_ok audited))⟩

theorem stageResponse_effect {command : UpdateRiskResponse} (success : stageResponse state ports command = .ok staged)
    (target : staged.target = some next) :
    Effect state next (.updateRiskResponse command) ∧ Bookkeeping state ports (.updateRiskResponse command) next.own := by
  rcases orReplay_ok success with ⟨_, _, _, _, rfl⟩ | ⟨_, _, _, success⟩
  · cases target
  simp only [bind_ok, ensure_ok, require_ok, pure_ok] at success
  obtain ⟨current, found, _, ⟨exact, required⟩, _, _, later, advances, event, audited, rfl⟩ := success
  cases target
  exact ⟨.responded command current later ⟨found, exact, advances⟩ required rfl rfl rfl,
    .answered command.context command.signature _ [event] rfl (.inl rfl) rfl rfl (drawn_first (audit_ok audited))⟩

section
omit [Sha256]

variable {intent : WorkManagementPreparedIntent}

theorem previewed_ok {operation : WorkManagementOperation} {classification : DataClassification}
    (success : previewed ports operation classification = .ok intent) :
    ports.nextPreparedIntentId = some intent.id := by
  simp only [previewed, bind_ok, ensure_ok, require_ok, relabel_ok] at success
  obtain ⟨_, _, id, drawn, prepared⟩ := success
  obtain ⟨_, _, _, _, _, same⟩ := preparePreview_ok (WorkManagementPreparedIntent.prepare_preview prepared)
  rw [drawn, WorkManagementPreparedIntent.id, same]
  rfl

theorem occurrencePreview_ok {command : PrepareRecordRiskOccurrence}
    (success : occurrencePreview state.own ports command = .ok intent) :
    ports.nextPreparedIntentId = some intent.id := by
  simp only [occurrencePreview, bind_ok] at success
  obtain ⟨_, _, _, _, success⟩ := success
  exact previewed_ok success

theorem closePreview_ok {command : PrepareCloseRisk} (success : closePreview state.own ports command = .ok intent) :
    ports.nextPreparedIntentId = some intent.id := by
  simp only [closePreview, bind_ok] at success
  obtain ⟨_, _, _, _, success⟩ := success
  exact previewed_ok success

theorem lowerPreview_ok {command : PrepareLowerRiskClassification}
    (success : lowerPreview state.own ports command = .ok intent) : ports.nextPreparedIntentId = some intent.id := by
  simp only [lowerPreview, bind_ok] at success
  obtain ⟨_, _, _, _, _, _, success⟩ := success
  exact previewed_ok success

end

theorem stagePreview_effect {operation : Operation} {context : RiskOperationContext} {signature : Signature}
    {preview : Except RiskFailure WorkManagementPreparedIntent} {staged : Staged State WorkManagementPreparedIntent}
    (draws : ∀ intent, preview = .ok intent → ports.nextPreparedIntentId = some intent.id)
    (success : stagePreview state context signature preview = .ok staged) (target : staged.target = some next) :
    Effect state next operation ∧ Bookkeeping state ports operation next.own := by
  rcases orReplay_ok success with ⟨_, _, _, _, rfl⟩ | ⟨_, _, _, success⟩
  · cases target
  simp only [bind_ok, pure_ok] at success
  obtain ⟨intent, previewed, rfl⟩ := success
  cases target
  exact ⟨.kept operation rfl rfl rfl, .placed context signature intent (draws intent previewed) rfl rfl rfl⟩

theorem stageRejection_effect {command : RejectRiskPreparedIntent}
    {staged : Staged State Actions.RejectedPreparedIntentOutcome}
    (success : stageRejection state ports command = .ok staged) (target : staged.target = some next) :
    Effect state next (.rejectRiskPreparedIntent command) ∧
      Bookkeeping state ports (.rejectRiskPreparedIntent command) next.own := by
  simp only [stageRejection] at success
  split at success
  · cases success
  · cases success; cases target
  · cases success
  simp only [bind_ok, ensure_ok, require_ok, pure_ok] at success
  obtain ⟨_, ⟨authorized, _⟩, intent, pending, riskId, _, auditId, drawn, event, audited, rfl⟩ := success
  cases target
  refine ⟨.kept _ rfl rfl rfl, .rejected command intent _ authorized pending rfl rfl rfl rfl ?_⟩
  simp only [Actions.preparedIntentRejectionAudit, Option.bind_eq_bind, Option.bind_eq_some_iff, pure] at audited
  obtain ⟨_, _, _, _, same⟩ := audited
  cases same
  exact drawn

variable {command : ApproveAndExecute}

theorem executeOccurrence_effect {staged : Staged State OccurredRiskOutcome}
    (success : executeOccurrence state ports command = .ok staged) (target : staged.target = some next) :
    Effect state next (.approveAndExecuteRecordRiskOccurrence command) ∧
      Bookkeeping state ports (.approveAndExecuteRecordRiskOccurrence command) next.own := by
  simp only [executeOccurrence, bind_ok] at success
  obtain ⟨_, _, success⟩ := success
  rcases orReplay_ok success with ⟨_, _, _, _, rfl⟩ | ⟨_, _, _, success⟩
  · cases target
  simp only [bind_ok, ensure_ok, require_ok, pure_ok] at success
  obtain ⟨intent, _, aim, _, current, found, _, ⟨exact, required⟩, _, _, receipt, _, later, advances, stage, staging,
    occurred, occurring, created, creating, linked, linking, _, _, rfl⟩ := success
  cases target
  unfold RiskIssueStage.prepare at staging
  split at staging
  · cases staging
  next absent =>
    cases staging
    refine ⟨.occurred command aim current later ⟨found, exact, advances⟩ required absent rfl rfl rfl,
      .answered command.context _ _ _ rfl (.inr ⟨intent.id, rfl⟩) rfl rfl ?_⟩
    simp only [auditDraws, List.filterMap_cons, audit_ok occurring, audit_ok creating, audit_ok linking, List.map_cons,
      List.map_nil]
    exact (((List.nil_sublist _).cons_cons _).cons_cons _).cons_cons _

theorem executeClose_effect {staged : Staged State RiskMutationOutcome}
    (success : executeClose state ports command = .ok staged) (target : staged.target = some next) :
    Effect state next (.approveAndExecuteCloseRisk command) ∧
      Bookkeeping state ports (.approveAndExecuteCloseRisk command) next.own := by
  simp only [executeClose, bind_ok] at success
  obtain ⟨_, _, success⟩ := success
  rcases orReplay_ok success with ⟨_, _, _, _, rfl⟩ | ⟨_, _, _, success⟩
  · cases target
  simp only [bind_ok, ensure_ok, require_ok, pure_ok] at success
  obtain ⟨intent, _, aim, _, current, found, _, ⟨exact, required⟩, _, _, receipt, _, later, advances, event, audited,
    rfl⟩ := success
  cases target
  exact ⟨.closed command aim current later ⟨found, exact, advances⟩ required rfl rfl rfl,
    .answered command.context _ _ [event] rfl (.inr ⟨intent.id, rfl⟩) rfl rfl (drawn_first (audit_ok audited))⟩

theorem executeLowerRiskClassification_effect {staged : Staged State RiskMutationOutcome}
    (success : executeLowerRiskClassification state ports command = .ok staged)
    (target : staged.target = some next) :
    Effect state next (.approveAndExecuteLowerRiskClassification command) ∧
      Bookkeeping state ports (.approveAndExecuteLowerRiskClassification command) next.own := by
  simp only [executeLowerRiskClassification, bind_ok] at success
  obtain ⟨_, _, success⟩ := success
  rcases orReplay_ok success with ⟨_, _, _, _, rfl⟩ | ⟨_, _, _, success⟩
  · cases target
  simp only [bind_ok, ensure_ok, require_ok, pure_ok] at success
  obtain ⟨intent, _, aim, _, current, found, _, exact, _, _, receipt, _, later, advances, event, audited, rfl⟩ :=
    success
  cases target
  exact ⟨.lowered command aim current later ⟨found, exact, advances⟩ rfl rfl rfl,
    .answered command.context _ _ [event] rfl (.inr ⟨intent.id, rfl⟩) rfl rfl (drawn_first (audit_ok audited))⟩

end

structure Unmoved (before after : State) : Prop where
  risks : after.own.risks = before.own.risks
  links : after.own.links = before.own.links
  authority : after.authority = before.authority

theorem Unmoved.effect {before after : State} {operation : Operation} (unmoved : Unmoved before after) :
    Effect before after operation :=
  .kept operation unmoved.risks unmoved.links unmoved.authority

structure Acts [Sha256] {Outcome : Type} (service : Service) (ports : Ports) (operation : Operation)
    (answer : Service × Except DomainError Outcome) : Prop where
  moves : Unmoved service.state answer.1.state ∨
    (∃ outcome, answer.2 = .ok outcome) ∧ Effect service.state answer.1.state operation
  books : Bookkeeping service.state ports operation answer.1.state.own

section
variable [Sha256] {service : Service} {ports : Ports} {operation : Operation}

theorem Bookkeeping.refl (state : State) : Bookkeeping state ports operation state.own :=
  .kept [] rfl rfl (by simp) (List.nil_sublist _)

variable {Outcome : Type}

theorem Acts.unmoved {later : Service} {answer : Except DomainError Outcome} (same : later.state = service.state) :
    Acts service ports operation (later, answer) := by
  refine ⟨.inl ?_, ?_⟩
  · rw [same]
    exact ⟨rfl, rfl, rfl⟩
  · rw [same]
    exact .refl _

theorem settle_acts {ε Outcome : Type} (failure : ε) (decided : Except ε (Staged State Outcome))
    (effects : ∀ staged next, decided = .ok staged → staged.target = some next →
      Effect service.state next operation ∧ Bookkeeping service.state ports operation next.own) :
    (settle failure service decided).1.state = service.state ∨
    ∃ outcome, (settle failure service decided).2 = .ok outcome ∧
      Effect service.state (settle failure service decided).1.state operation ∧
      Bookkeeping service.state ports operation (settle failure service decided).1.state.own := by
  rcases settle_cases failure service decided with kept | ⟨staged, next, ok, target, settled⟩
  · exact .inl kept
  · rw [settled]
    exact .inr ⟨staged.outcome, rfl, effects staged next ok target⟩

theorem settlePreview_acts {target : RiskId} {code : AuditEventCode} {context : RiskOperationContext}
    {decided : Except RiskFailure (Staged State WorkManagementPreparedIntent)}
    (effects : ∀ staged next, decided = .ok staged → staged.target = some next →
      Effect service.state next operation ∧ Bookkeeping service.state ports operation next.own) :
    Acts service ports operation (settlePreview service ports target code context decided) := by
  unfold settlePreview
  rcases settle_acts .infrastructure decided effects with kept | ⟨outcome, succeeded, effect, books⟩
  · split
    next later intent settled =>
      rw [settled] at kept
      exact .unmoved kept
    next later failure settled =>
      rw [settled] at kept
      split
      · exact .unmoved kept
      next event audited =>
        have same : later.state = service.state := kept
        refine ⟨.inl ?_, .kept [event] ?_ ?_ ?_ (drawn_failure (failureAudit_ok audited).1)⟩
        all_goals simp only [State.appendAudit, same]
        exact ⟨rfl, rfl, rfl⟩
  · split
    next later intent settled =>
      rw [settled] at effect books
      exact ⟨.inr ⟨⟨intent, rfl⟩, effect⟩, books⟩
    next later failure settled =>
      rw [settled] at succeeded
      cases succeeded

/-- A recorded failure adds its audit, and ends the pending preview when the policy
denied it. -/
theorem failedExecution_acts (service : Service) (ports : Ports) (operation : Operation) (code : AuditEventCode)
    (command : ApproveAndExecute) (failure : RiskFailure)
    (denied : failure = .policyDenied → deniedApproval service.state ports operation = some command.approval) :
    Acts service ports operation (@failedExecution Outcome service ports code command failure) := by
  simp only [failedExecution]
  cases audited : failureAudit ports
      ((preparedRiskTarget service.state.own command.approval.preparedId).getD unknownRisk) code command.context
      (executionOutcomes failure) with
  | error error => exact .unmoved rfl
  | ok event =>
    obtain ⟨drawn, correlated⟩ := failureAudit_ok audited
    by_cases durable : isDurablePostStartTerminal failure = true
    · have policy : failure = .policyDenied := by simpa [isDurablePostStartTerminal] using durable
      cases policy
      simp only [durable, if_true, Store.terminalize]
      split
      · exact ⟨.inl ⟨rfl, rfl, rfl⟩, .kept [event] rfl rfl rfl (drawn_failure drawn)⟩
      next intent pending =>
        exact ⟨.inl ⟨rfl, rfl, rfl⟩,
          .terminalized command intent event (denied rfl) pending rfl rfl rfl correlated drawn⟩
    · simp only [durable]
      exact ⟨.inl ⟨rfl, rfl, rfl⟩, .kept [event] rfl rfl rfl (drawn_failure drawn)⟩

theorem settleApproval_acts {code : AuditEventCode} {command : ApproveAndExecute}
    {decided : Except RiskFailure (Staged State Outcome)} (denied : failureOf decided = some .policyDenied →
      deniedApproval service.state ports operation = some command.approval)
    (effects : ∀ staged next, decided = .ok staged → staged.target = some next →
      Effect service.state next operation ∧ Bookkeeping service.state ports operation next.own) :
    Acts service ports operation (settleApproval service ports code command decided) := by
  unfold settleApproval
  split
  · exact .unmoved rfl
  · exact .unmoved rfl
  rcases settle_acts .infrastructure decided effects with kept | ⟨outcome, succeeded, effect, books⟩
  · split
    next later outcome settled =>
      rw [settled] at kept
      exact .unmoved kept
    next later failure settled =>
      rw [settled] at kept
      have same : later.state = service.state := kept
      have cause : failure = .policyDenied → failureOf decided = some .policyDenied := by
        rintro rfl
        have refused := settle_error (congrArg Prod.snd settled)
        rcases refused.2 with error | impossible
        · rw [error]
          rfl
        · cases impossible
      obtain ⟨moves, books⟩ := @failedExecution_acts _ Outcome later ports operation code command failure
        (fun policy => same ▸ denied (cause policy))
      rw [same] at moves books
      exact ⟨moves, books⟩
  · split
    next later outcome settled =>
      rw [settled] at effect books
      exact ⟨.inr ⟨⟨outcome, rfl⟩, effect⟩, books⟩
    next later failure settled =>
      rw [settled] at succeeded
      cases succeeded

theorem settled_acts {failure : DomainError} {decided : Except DomainError (Staged State Outcome)}
    (effects : ∀ staged next, decided = .ok staged → staged.target = some next →
      Effect service.state next operation ∧ Bookkeeping service.state ports operation next.own) :
    Acts service ports operation (settle failure service decided) := by
  rcases settle_acts failure decided effects with kept | ⟨outcome, succeeded, effect, books⟩
  · exact .unmoved kept
  · exact ⟨.inr ⟨⟨outcome, succeeded⟩, effect⟩, books⟩

theorem rejectRiskPreparedIntent_acts (command : RejectRiskPreparedIntent) :
    Acts service ports (.rejectRiskPreparedIntent command) (rejectRiskPreparedIntent service ports command) := by
  unfold rejectRiskPreparedIntent
  rcases settle_acts .infrastructure (stageRejection service.state ports command)
    (fun _ _ => stageRejection_effect) with kept | ⟨outcome, succeeded, effect, books⟩
  · exact .unmoved kept
  · refine ⟨.inr ⟨⟨outcome, ?_⟩, effect⟩, books⟩
    simp only [succeeded, relabel]

theorem discardPreparedIntent_books (state : State) (id : PreparedIntentId) :
    (discardPreparedIntent state.own id).2.risks = state.own.risks ∧
      (discardPreparedIntent state.own id).2.links = state.own.links ∧
      Bookkeeping state ports operation (discardPreparedIntent state.own id).2 := by
  unfold discardPreparedIntent
  split
  · exact ⟨rfl, rfl, .refl _⟩
  · exact ⟨rfl, rfl, .forgotten id rfl rfl rfl⟩

end

variable [Sha256]

/-- Every operation of the service leaves the Risks, their links and the Issues alone,
or succeeds with its effect on them; and it keeps its books. -/
theorem step_acts (service : Service) (ports : Ports) (operation : Operation) :
    (Unmoved service.state (step service ports operation).1.state ∨
      (step service ports operation).2.refused = false ∧
        Effect service.state (step service ports operation).1.state operation) ∧
    Bookkeeping service.state ports operation (step service ports operation).1.state.own := by
  have concluded {Outcome : Type} {answer : Service × Except DomainError Outcome}
      (respond : Except DomainError Outcome → Response)
      (accepted : ∀ outcome, (respond (.ok outcome)).refused = false) (acts : Acts service ports operation answer) :
      (Unmoved service.state (answer.map id respond).1.state ∨
        (answer.map id respond).2.refused = false ∧
          Effect service.state (answer.map id respond).1.state operation) ∧
      Bookkeeping service.state ports operation (answer.map id respond).1.state.own := by
    obtain ⟨later, result⟩ := answer
    refine ⟨?_, acts.books⟩
    rcases acts.moves with unmoved | ⟨⟨outcome, rfl⟩, effect⟩
    · exact .inl unmoved
    · exact .inr ⟨accepted outcome, effect⟩
  cases operation with
  | createRisk command =>
    exact concluded .risk (fun _ => rfl) (settled_acts fun _ _ => stageCreate_effect)
  | updateRiskResponse command =>
    exact concluded .risk (fun _ => rfl) (settled_acts fun _ _ => stageResponse_effect)
  | prepareRecordRiskOccurrence command =>
    exact concluded .prepared (fun _ => rfl)
      (settlePreview_acts fun _ _ => stagePreview_effect fun _ => occurrencePreview_ok)
  | prepareCloseRisk command =>
    exact concluded .prepared (fun _ => rfl)
      (settlePreview_acts fun _ _ => stagePreview_effect fun _ => closePreview_ok)
  | prepareLowerRiskClassification command =>
    exact concluded .prepared (fun _ => rfl)
      (settlePreview_acts fun _ _ => stagePreview_effect fun _ => lowerPreview_ok)
  | approveAndExecuteRecordRiskOccurrence command =>
    exact concluded .occurred (fun _ => rfl)
      (settleApproval_acts (fun denied => if_pos denied) fun _ _ => executeOccurrence_effect)
  | approveAndExecuteCloseRisk command =>
    exact concluded .risk (fun _ => rfl)
      (settleApproval_acts (fun denied => if_pos denied) fun _ _ => executeClose_effect)
  | approveAndExecuteLowerRiskClassification command =>
    exact concluded .risk (fun _ => rfl)
      (settleApproval_acts (fun denied => if_pos denied) fun _ _ => executeLowerRiskClassification_effect)
  | rejectRiskPreparedIntent command =>
    exact concluded .rejected (fun _ => rfl) (rejectRiskPreparedIntent_acts command)
  | discardPreparedIntent id =>
    obtain ⟨risks, links, books⟩ := @discardPreparedIntent_books _ ports (.discardPreparedIntent id) service.state id
    exact ⟨.inl ⟨risks, links, rfl⟩, books⟩
  | injectNextCommitFailure => exact ⟨.inl ⟨rfl, rfl, rfl⟩, .refl _⟩

end MissionControl.Risks

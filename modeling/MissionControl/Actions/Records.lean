import MissionControl.Actions.Stepping

/-! How one step of the store can change its records and its pending previews. Both
record maps are keyed by the ids of what they hold, and a record once stored is only
ever changed in the few ways named here. -/

namespace MissionControl.Actions
open Checked

structure Keyed (store : Store) : Prop where
  requests : ∀ {id : ActionRequestId} {record}, store.requests[id]? = some record → record.id = id
  actions : ∀ {id : ActionId} {record}, store.actions[id]? = some record → record.id = id

namespace Recorded
variable {store changed next : Store} {context : ActionOperationContext} {signature : CommandIdentity}
  {result : StoredResult} {audits : List AuditEvent}

theorem requests (recorded : Recorded store changed context signature result audits next) :
    next.requests = changed.requests := by rw [recorded.becomes]

theorem actions (recorded : Recorded store changed context signature result audits next) :
    next.actions = changed.actions := by rw [recorded.becomes]

theorem prepared (recorded : Recorded store changed context signature result audits next) :
    next.prepared = changed.prepared := by rw [recorded.becomes]

theorem discardedPrepared (recorded : Recorded store changed context signature result audits next) :
    next.discardedPrepared = changed.discardedPrepared := by rw [recorded.becomes]

theorem idem (recorded : Recorded store changed context signature result audits next) :
    next.idem = store.idem.insert context.idempotencyId
      ⟨signature, result, context.correlationId, store.nextOperationOrdinal⟩ := by rw [recorded.becomes]

end Recorded

@[simp] theorem consume_requests (store : Store) (id : PreparedIntentId) :
    (store.consume id).requests = store.requests := by
  unfold Store.consume
  split <;> rfl

@[simp] theorem consume_actions (store : Store) (id : PreparedIntentId) :
    (store.consume id).actions = store.actions := by
  unfold Store.consume
  split <;> rfl

@[simp] theorem discard_requests (store : Store) (id : PreparedIntentId) :
    (discardPreparedIntent store id).2.requests = store.requests := by
  unfold discardPreparedIntent
  split
  · rfl
  · dsimp only
    split <;> simp

@[simp] theorem discard_actions (store : Store) (id : PreparedIntentId) :
    (discardPreparedIntent store id).2.actions = store.actions := by
  unfold discardPreparedIntent
  split
  · rfl
  · dsimp only
    split <;> simp

theorem discard_idem {store : Store} {id : PreparedIntentId} {intent : WorkManagementPreparedIntent}
    (pending : store.prepared[id]? = some intent) : ∃ renumber : Nat → Nat, ∀ key : IdempotencyId,
      (discardPreparedIntent store id).2.idem[key]? =
        (store.idem[key]?.filter fun stored => !stored.result.holdsPrepared id).map
          fun stored => { stored with operationOrdinal := renumber stored.operationOrdinal } := by
  unfold discardPreparedIntent
  simp only [pending]
  split
  · refine ⟨fun ordinal => ordinal, fun key => ?_⟩
    rw [KeyMap.get_filter]
    cases store.idem[key]?.filter fun stored => !stored.result.holdsPrepared id <;> rfl
  next ordinal _ =>
    refine ⟨fun later => if later > ordinal then later - 1 else later, fun key => ?_⟩
    rw [KeyMap.get_map, KeyMap.get_filter]
    refine congrArg (Option.map · _) (funext fun stored => ?_)
    by_cases later : stored.operationOrdinal > ordinal
    · simp only [later, if_true]
    · simp only [later, if_false]

theorem disposePrepared_ok {store changed : Store} {signature : CommandIdentity} {disposition : PreparedDisposition}
    (disposed : disposePrepared store signature disposition = .ok changed) :
    changed = store ∨ ∃ id, consumedId signature = some id ∧ disposition = .consumedAndDiscarded ∧
      changed = store.consume id := by
  cases disposition with
  | consumedAndDiscarded =>
    simp only [disposePrepared, bind_ok, require_ok, pure_ok] at disposed
    obtain ⟨id, consumes, same⟩ := disposed
    exact .inr ⟨id, consumes, rfl, same.symm⟩
  | _ => exact .inl (Except.ok.inj disposed).symm

theorem FailureRecorded.keeps {store changed next : Store} {context : ActionOperationContext}
    {signature : CommandIdentity} {failure : ActionTerminalFailure}
    (stored : FailureRecorded store context signature failure changed next) :
    next.requests = store.requests ∧ next.actions = store.actions := by
  rw [stored.recorded.requests, stored.recorded.actions]
  rcases disposePrepared_ok stored.disposed with rfl | ⟨_, _, _, rfl⟩ <;> simp

variable [Sha256] {ports : Ports} {store next : Store} {event : Event}

inductive RequestChange (ports : Ports) (store : Store) : Event → ActionRequestRecord → ActionRequestRecord → Prop where
  | moved {operation : Operation} {change : RequestTransition} {record : ActionRequestRecord}
      {later : AggregateVersion} {event : AuditEvent} {next : Store} :
      operation.transition = some change → RequestTransitioned store ports change record later event next →
      RequestChange ports store (.operation operation) record
        { record with state := change.target, terminalRationale := change.reason, version := later }
  | accepted {command : ApproveAndExecute} {intent : WorkManagementPreparedIntent} {target : AcceptTarget}
      {request : ActionRequestRecord} {owner : StakeholderId} {due : UtcTimestamp}
      {receipt : WorkManagementApprovalReceipt} {later : AggregateVersion} {outcome : AcceptedActionOutcome}
      {next : Store} :
      Accepted store ports command intent target request owner due receipt later outcome next →
      RequestChange ports store (.operation (.approveAndExecuteAcceptActionRequest command)) request
        (acceptedRequest request target.actionId later)
  | marked {id : ActionRequestId} {expectedVersion : AggregateVersion} {sourceDecisionId : DecisionId}
      {decidedClassification : DataClassification} {context : ActionOperationContext}
      {record : ActionRequestRecord} {later : AggregateVersion} {event : AuditEvent} {next : Store} :
      RequestMarked store ports id expectedVersion sourceDecisionId decidedClassification context record later event
        next →
      RequestChange ports store (.staged (.markActionRequestSupersededPremise id expectedVersion sourceDecisionId
        decidedClassification context)) record (markedRequest record decidedClassification later)

inductive ActionChange (ports : Ports) (store : Store) : Event → ActionRecord → ActionRecord → Prop where
  | started {command : StartAction} {record : ActionRecord} {later : AggregateVersion} {event : AuditEvent}
      {next : Store} :
      Started store ports command record later event next →
      ActionChange ports store (.operation (.startAction command)) record
        (startedRecord record (ports.now .transition) later)
  | linked {command : LinkActionCompletionEvidence} {record : ActionRecord} {evidence : EvidenceReferenceMetadata}
      {later : AggregateVersion} {event : AuditEvent} {next : Store} :
      Linked store ports command record evidence later event next →
      ActionChange ports store (.operation (.linkActionCompletionEvidence command)) record
        (linkedRecord record command.evidenceId evidence.classification later)
  | transitioned {operation : Operation} {kind : PreparedActionTransitionKind} {command : ApproveAndExecute}
      {intent : WorkManagementPreparedIntent} {target : TransitionTarget} {reason : Option ActionDetails}
      {record : ActionRecord} {snapshot : AuthoritativeSnapshot} {support : Option SupportWitness}
      {receipt : WorkManagementApprovalReceipt} {later : AggregateVersion} {event : AuditEvent} {next : Store} :
      operation.executing = some (kind, command) →
      Transitioned store ports kind command intent target reason record snapshot support receipt later event next →
      ActionChange ports store (.operation operation) record
        (executedRecord kind intent snapshot.classification reason (ports.now .transition) receipt.id later record)
  | lowered {command : ApproveAndExecute} {intent : WorkManagementPreparedIntent} {target : LoweringTarget}
      {record : ActionRecord} {receipt : WorkManagementApprovalReceipt} {later : AggregateVersion}
      {event : AuditEvent} {next : Store} :
      Lowered store ports command intent target record receipt later event next →
      ActionChange ports store (.operation (.approveAndExecuteLowerActionClassification command)) record
        (loweredRecord record target.proposedClassification later)
  | marked {id : ActionId} {expectedVersion : AggregateVersion} {sourceDecisionId : DecisionId}
      {decidedClassification : DataClassification} {context : ActionOperationContext} {record : ActionRecord}
      {later : AggregateVersion} {event : AuditEvent} {next : Store} :
      ActionMarked store ports id expectedVersion sourceDecisionId decidedClassification context record later event
        next →
      ActionChange ports store (.staged (.markActionSupersededPremise id expectedVersion sourceDecisionId
        decidedClassification context)) record (markedAction record decidedClassification later)

/-- What a step does to the two record maps. -/
inductive RecordEffect (ports : Ports) (store : Store) (event : Event) (next : Store) : Prop where
  | none : next.requests = store.requests → next.actions = store.actions → RecordEffect ports store event next
  | requestCreated (record : ActionRequestRecord) : store.requests[record.id]? = .none →
      record.state ≠ .accepted → record.linkedActionId = .none →
      next.requests = store.requests.insert record.id record → next.actions = store.actions →
      RecordEffect ports store event next
  | requestChanged {before after : ActionRequestRecord} : store.requests[before.id]? = some before →
      RequestChange ports store event before after → after.state ≠ .accepted →
      next.requests = store.requests.insert before.id after → next.actions = store.actions →
      RecordEffect ports store event next
  | accepted {command : ApproveAndExecute} {intent : WorkManagementPreparedIntent} {target : AcceptTarget}
      {request : ActionRequestRecord} {owner : StakeholderId} {due : UtcTimestamp}
      {receipt : WorkManagementApprovalReceipt} {later : AggregateVersion} {outcome : AcceptedActionOutcome} :
      Accepted store ports command intent target request owner due receipt later outcome next →
      event = .operation (.approveAndExecuteAcceptActionRequest command) →
      store.requests[request.id]? = some request → target.requestId = request.id →
      next.requests = store.requests.insert request.id (acceptedRequest request target.actionId later) →
      next.actions = store.actions.insert target.actionId
        (acceptedAction target request owner due intent.preview.classification) →
      RecordEffect ports store event next
  | actionChanged {before after : ActionRecord} : store.actions[before.id]? = some before →
      ActionChange ports store event before after →
      next.requests = store.requests → next.actions = store.actions.insert before.id after →
      RecordEffect ports store event next

theorem StoreStep.recordEffect (step : StoreStep ports store event next) (keyed : Keyed store) :
    RecordEffect ports store event next := by
  cases step with
  | created facts =>
    exact .requestCreated _ facts.absent (by simp [draftRecord]) rfl facts.stored.recorded.requests
      facts.stored.recorded.actions
  | @moved operation change record later event next moves facts =>
    have named := keyed.requests facts.found
    have target : change.target ≠ .accepted := by
      cases operation <;> simp only [Operation.transition, Option.some.injEq, reduceCtorEq] at moves <;>
        subst moves <;> simp
    exact .requestChanged (named ▸ facts.found) (.moved moves facts) target facts.stored.recorded.requests
      facts.stored.recorded.actions
  | started facts =>
    exact .actionChanged (keyed.actions facts.found ▸ facts.found) (.started facts) facts.stored.recorded.requests
      facts.stored.recorded.actions
  | linked facts =>
    exact .actionChanged (keyed.actions facts.found ▸ facts.found) (.linked facts) facts.stored.recorded.requests
      facts.stored.recorded.actions
  | prepared _ facts => exact .none facts.recorded.requests facts.recorded.actions
  | @accepted command intent target request owner due receipt later outcome next facts =>
    have named := keyed.requests facts.found
    obtain ⟨shownRequest, shownAction, _⟩ := facts.shown
    refine .accepted facts rfl (named ▸ facts.found) named.symm ?_ ?_
    · rw [facts.recorded.requests, ← shownRequest]
    · rw [facts.recorded.actions, ← shownAction]
  | transitioned executes facts =>
    have named := keyed.actions facts.found
    refine .actionChanged (named ▸ facts.found) (.transitioned executes facts) facts.recorded.requests ?_
    rw [facts.recorded.actions, named]
  | lowered facts =>
    have named := keyed.actions facts.found
    refine .actionChanged (named ▸ facts.found) (.lowered facts) facts.recorded.requests ?_
    rw [facts.recorded.actions, named]
  | rejected facts =>
    exact .none (by rw [facts.recorded.requests, consume_requests]) (by rw [facts.recorded.actions, consume_actions])
  | failed _ facts => exact .none facts.stored.keeps.1 facts.stored.keeps.2
  | denied _ _ facts => exact .none facts.stored.keeps.1 facts.stored.keeps.2
  | discarded _ => exact .none (discard_requests _ _) (discard_actions _ _)
  | resulting facts =>
    exact .requestCreated _ facts.absent (by simp [resultingRecord]) rfl facts.stored.recorded.requests
      facts.stored.recorded.actions
  | @markedRequest _ _ _ _ _ record _ _ _ facts =>
    have undecided : record.state ≠ .accepted := by rcases facts.legal with legal | legal <;> simp [legal]
    exact .requestChanged (keyed.requests facts.found ▸ facts.found) (.marked facts) undecided
      facts.stored.recorded.requests facts.stored.recorded.actions
  | markedAction facts =>
    exact .actionChanged (keyed.actions facts.found ▸ facts.found) (.marked facts) facts.stored.recorded.requests
      facts.stored.recorded.actions

theorem RequestChange.same_id {before after : ActionRequestRecord}
    (change : RequestChange ports store event before after) : after.id = before.id := by
  cases change <;> rfl

theorem ActionChange.same_identity {before after : ActionRecord} (change : ActionChange ports store event before after) :
    after.id = before.id ∧ after.sourceRequestId = before.sourceRequestId := by
  cases change <;> exact ⟨rfl, rfl⟩

theorem Keyed.step (keyed : Keyed store) (step : StoreStep ports store event next) : Keyed next := by
  cases step.recordEffect keyed with
  | none requests actions => exact ⟨by rw [requests]; exact keyed.requests, by rw [actions]; exact keyed.actions⟩
  | requestCreated record _ _ _ requests actions =>
    refine ⟨?_, by rw [actions]; exact keyed.actions⟩
    rw [requests]
    intro id found stored
    grind [keyed.requests]
  | requestChanged found change _ requests actions =>
    refine ⟨?_, by rw [actions]; exact keyed.actions⟩
    rw [requests]
    intro id record stored
    grind [keyed.requests, change.same_id]
  | accepted facts _ found named requests actions =>
    constructor
    · rw [requests]
      intro id record stored
      grind [keyed.requests, acceptedRequest]
    · rw [actions]
      intro id record stored
      grind [keyed.actions, acceptedAction]
  | actionChanged found change requests actions =>
    refine ⟨by rw [requests]; exact keyed.requests, ?_⟩
    rw [actions]
    intro id record stored
    grind [keyed.actions, change.same_identity]

/-- An Action that is there after a step was there before it, perhaps changed, or
a request was just accepted. -/
inductive ActionOrigin (ports : Ports) (store : Store) (event : Event) (next : Store) (id : ActionId)
    (after : ActionRecord) : Prop where
  | kept : store.actions[id]? = some after → ActionOrigin ports store event next id after
  | changed {before : ActionRecord} : store.actions[id]? = some before →
      ActionChange ports store event before after → ActionOrigin ports store event next id after
  | created {command : ApproveAndExecute} {intent : WorkManagementPreparedIntent} {target : AcceptTarget}
      {request : ActionRequestRecord} {owner : StakeholderId} {due : UtcTimestamp}
      {receipt : WorkManagementApprovalReceipt} {later : AggregateVersion} {outcome : AcceptedActionOutcome} :
      Accepted store ports command intent target request owner due receipt later outcome next →
      target.actionId = id → after = acceptedAction target request owner due intent.preview.classification →
      ActionOrigin ports store event next id after

theorem StoreStep.action_origin (step : StoreStep ports store event next) (keyed : Keyed store) {id : ActionId}
    {after : ActionRecord} (found : next.actions[id]? = some after) : ActionOrigin ports store event next id after := by
  cases step.recordEffect keyed with
  | none _ actions => exact .kept (actions ▸ found)
  | requestCreated _ _ _ _ _ actions => exact .kept (actions ▸ found)
  | requestChanged _ _ _ _ actions => exact .kept (actions ▸ found)
  | accepted facts _ _ _ _ actions =>
    rw [actions, KeyMap.get_insert] at found
    split at found
    next same => exact .created facts same (Option.some.inj found).symm
    · exact .kept found
  | actionChanged before change _ actions =>
    rw [actions, KeyMap.get_insert] at found
    split at found
    next same => exact .changed (same ▸ before) (Option.some.inj found ▸ change)
    · exact .kept found

theorem StoreStep.action_kept (step : StoreStep ports store event next) (keyed : Keyed store) {id : ActionId}
    {before : ActionRecord} (found : store.actions[id]? = some before) :
    ∃ after, next.actions[id]? = some after ∧ (after = before ∨ ActionChange ports store event before after) := by
  cases step.recordEffect keyed with
  | none _ actions => exact ⟨before, actions ▸ found, .inl rfl⟩
  | requestCreated _ _ _ _ _ actions => exact ⟨before, actions ▸ found, .inl rfl⟩
  | requestChanged _ _ _ _ actions => exact ⟨before, actions ▸ found, .inl rfl⟩
  | @accepted _ _ target _ _ _ _ _ _ facts _ _ _ _ actions =>
    have different : target.actionId ≠ id := by
      rintro rfl
      simp [facts.absent] at found
    exact ⟨before, by rw [actions, KeyMap.get_insert_other _ _ different, found], .inl rfl⟩
  | @actionChanged previous after stored change _ actions =>
    by_cases same : previous.id = id
    · subst same
      obtain rfl : previous = before := Option.some.inj (stored.symm.trans found)
      exact ⟨after, by rw [actions, KeyMap.get_insert_self], .inr change⟩
    · exact ⟨before, by rw [actions, KeyMap.get_insert_other _ _ same, found], .inl rfl⟩

omit [Sha256] in
theorem Keyed.empty : Keyed .empty := by
  constructor <;> intro id record found <;> simp [Store.empty] at found

theorem keyed_of_run {seen : List Label} (run : StoreRun .empty seen store) : Keyed store :=
  run.invariant Keyed (fun _ _ _ step keyed => keyed.step step) .empty

inductive IntentEffect (ports : Ports) (store next : Store) : Prop where
  | none : next.prepared = store.prepared → next.discardedPrepared = store.discardedPrepared →
      IntentEffect ports store next
  | prepared {context : ActionOperationContext} {signature : CommandIdentity} {intent : WorkManagementPreparedIntent} :
      PreviewPrepared store ports context signature intent next →
      next.prepared = store.prepared.insert intent.id intent → next.discardedPrepared = store.discardedPrepared →
      IntentEffect ports store next
  | executed {id : PreparedIntentId} {intent : WorkManagementPreparedIntent} : store.prepared[id]? = some intent →
      next.prepared = store.prepared.erase id → next.discardedPrepared = store.discardedPrepared →
      IntentEffect ports store next
  | consumed {id : PreparedIntentId} {intent : WorkManagementPreparedIntent} : store.prepared[id]? = some intent →
      next.prepared = store.prepared.erase id → next.discardedPrepared = store.discardedPrepared ++ [intent] →
      IntentEffect ports store next

omit [Sha256] in
theorem consume_effect (store : Store) (id : PreparedIntentId) {next : Store}
    (prepared : next.prepared = (store.consume id).prepared)
    (discarded : next.discardedPrepared = (store.consume id).discardedPrepared) : IntentEffect ports store next := by
  unfold Store.consume at prepared discarded
  split at prepared
  next intent pending =>
    rw [pending] at discarded
    exact .consumed pending prepared discarded
  next absent =>
    rw [absent] at discarded
    exact .none prepared discarded

omit [Sha256] in
theorem discard_intents (store : Store) (id : PreparedIntentId) :
    (discardPreparedIntent store id).2.prepared = (store.consume id).prepared ∧
      (discardPreparedIntent store id).2.discardedPrepared = (store.consume id).discardedPrepared := by
  unfold discardPreparedIntent
  split
  next absent => simp [Store.consume, absent]
  · dsimp only
    split <;> exact ⟨rfl, rfl⟩

omit [Sha256] in
theorem FailureRecorded.intentEffect {store changed next : Store} {context : ActionOperationContext}
    {signature : CommandIdentity} {failure : ActionTerminalFailure}
    (stored : FailureRecorded store context signature failure changed next) : IntentEffect ports store next := by
  rcases disposePrepared_ok stored.disposed with rfl | ⟨id, _, _, rfl⟩
  · exact .none stored.recorded.prepared stored.recorded.discardedPrepared
  · exact consume_effect store id stored.recorded.prepared stored.recorded.discardedPrepared

theorem StoreStep.intentEffect (step : StoreStep ports store event next) : IntentEffect ports store next := by
  cases step with
  | created facts | started facts | linked facts | resulting facts | markedRequest facts | markedAction facts => exact .none facts.stored.recorded.prepared facts.stored.recorded.discardedPrepared
  | moved _ facts => exact .none facts.stored.recorded.prepared facts.stored.recorded.discardedPrepared
  | prepared _ facts => exact .prepared facts facts.recorded.prepared facts.recorded.discardedPrepared
  | accepted facts | lowered facts => exact .executed facts.pending facts.recorded.prepared facts.recorded.discardedPrepared
  | transitioned _ facts => exact .executed facts.pending facts.recorded.prepared facts.recorded.discardedPrepared
  | rejected facts => exact consume_effect store _ facts.recorded.prepared facts.recorded.discardedPrepared
  | failed _ facts => exact facts.stored.intentEffect
  | denied _ _ facts => exact facts.stored.intentEffect
  | discarded _ => exact consume_effect store _ (discard_intents _ _).1 (discard_intents _ _).2

theorem StoreStep.pending_origin (step : StoreStep ports store event next) {id : PreparedIntentId}
    {intent : WorkManagementPreparedIntent} (pending : next.prepared[id]? = some intent) :
    store.prepared[id]? = some intent ∨ ∃ context signature,
      PreviewPrepared store ports context signature intent next ∧ id = intent.id := by
  cases step.intentEffect with
  | none prepared _ => exact .inl (prepared ▸ pending)
  | prepared facts prepared _ =>
    rw [prepared, KeyMap.get_insert] at pending
    split at pending
    next same => cases pending; exact .inr ⟨_, _, facts, same.symm⟩
    · exact .inl pending
  | executed _ prepared _ | consumed _ prepared _ => exact .inl (KeyMap.get_of_erase (prepared ▸ pending)).2

end MissionControl.Actions

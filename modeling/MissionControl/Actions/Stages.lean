import MissionControl.Actions.Pins

/-! The commands staged for Decisions. Each is answered under a signature of its own
that no operation uses; a premise is marked at a version that the record then leaves
behind, so the mark is never answered again for a record that is still at it. -/

namespace MissionControl.Actions

def CommandIdentity.ofDecision : CommandIdentity → Bool
  | .createRequestFromDecision .. | .markRequestSupersededPremise .. | .markActionSupersededPremise .. => true
  | _ => false

namespace DecisionStageCommand

def identity : DecisionStageCommand → CommandIdentity
  | .createResultingActionRequest spec sourceDecisionId decidedClassification _ =>
    .createRequestFromDecision spec sourceDecisionId (decidedClassification.combine spec.classification)
  | .markActionRequestSupersededPremise id expectedVersion sourceDecisionId decidedClassification _ =>
    .markRequestSupersededPremise id expectedVersion sourceDecisionId decidedClassification
  | .markActionSupersededPremise id expectedVersion sourceDecisionId decidedClassification _ =>
    .markActionSupersededPremise id expectedVersion sourceDecisionId decidedClassification

/-- The record a command writes. -/
def subject : DecisionStageCommand → ActionRequestId ⊕ ActionId
  | .createResultingActionRequest spec _ _ _ => .inl spec.id
  | .markActionRequestSupersededPremise id _ _ _ _ => .inl id
  | .markActionSupersededPremise id _ _ _ _ => .inr id

end DecisionStageCommand

def CommandIdentity.subject : CommandIdentity → Option (ActionRequestId ⊕ ActionId)
  | .createRequestFromDecision spec _ _ => some (.inl spec.id)
  | .markRequestSupersededPremise id _ _ _ => some (.inl id)
  | .markActionSupersededPremise id _ _ _ => some (.inr id)
  | _ => none

theorem DecisionStageCommand.identity_subject (command : DecisionStageCommand) :
    command.identity.subject = some command.subject := by
  cases command <;> rfl

variable [Sha256] {ports : Ports} {store next : Store} {event : Event}

theorem RequestChange.advances {before after : ActionRequestRecord}
    (change : RequestChange ports store event before after) : after.version.get = before.version.get + 1 := by
  cases change with
  | moved _ facts => exact AggregateVersion.next_get facts.advanced
  | accepted facts => exact AggregateVersion.next_get facts.advanced
  | marked facts => exact AggregateVersion.next_get facts.advanced

theorem StoreStep.request_kept (step : StoreStep ports store event next) (keyed : Keyed store) {id : ActionRequestId}
    {record : ActionRequestRecord} (found : store.requests[id]? = some record) :
    ∃ after, next.requests[id]? = some after ∧ (after = record ∨ after.version.get = record.version.get + 1) := by
  cases step.recordEffect keyed with
  | none requests _ => exact ⟨record, requests ▸ found, .inl rfl⟩
  | requestCreated created absent _ _ requests _ =>
    have other : created.id ≠ id := by
      rintro rfl
      cases absent.symm.trans found
    exact ⟨record, by rw [requests, KeyMap.get_insert_other _ _ other, found], .inl rfl⟩
  | @requestChanged before after held change _ requests _ =>
    by_cases same : before.id = id
    · subst same
      cases held.symm.trans found
      exact ⟨after, by rw [requests, KeyMap.get_insert_self], .inr change.advances⟩
    · exact ⟨record, by rw [requests, KeyMap.get_insert_other _ _ same, found], .inl rfl⟩
  | @accepted _ _ target request _ _ _ later _ facts _ held _ requests _ =>
    by_cases same : request.id = id
    · subst same
      cases held.symm.trans found
      exact ⟨acceptedRequest record target.actionId later, by rw [requests, KeyMap.get_insert_self],
        .inr (AggregateVersion.next_get facts.advanced)⟩
    · exact ⟨record, by rw [requests, KeyMap.get_insert_other _ _ same, found], .inl rfl⟩
  | actionChanged _ _ requests _ => exact ⟨record, requests ▸ found, .inl rfl⟩

/-- What a step remembers: an answer of its own kind, or of a command staged for a
Decision; or it forgets the answer of a discarded preview. -/
inductive Remembering (store : Store) (event : Event) (next : Store) : Prop where
  | operated {changed : Store} {context : ActionOperationContext} {signature : CommandIdentity}
      {result : StoredResult} {audits : List AuditEvent} :
      Recorded store changed context signature result audits next → signature.ofDecision = false →
      Remembering store event next
  | staged {changed : Store} {context : ActionOperationContext} {command : DecisionStageCommand}
      {result : StoredResult} {audits : List AuditEvent} :
      Recorded store changed context command.identity result audits next → event = .staged command →
      Remembering store event next
  | discarded {id : PreparedIntentId} {intent : WorkManagementPreparedIntent} :
      store.prepared[id]? = some intent → next = (discardPreparedIntent store id).2 → Remembering store event next

omit [Sha256] in
theorem preparing_ofDecision {operation : Operation} {context : ActionOperationContext} {signature : CommandIdentity}
    (prepares : operation.preparing = some (context, signature)) : signature.ofDecision = false := by
  cases operation <;> simp only [Operation.preparing, Option.some.injEq, Prod.mk.injEq, reduceCtorEq] at prepares <;>
    obtain ⟨_, rfl⟩ := prepares <;> rfl

omit [Sha256] in
theorem deniable_ofDecision {operation : Operation} {deniable : Deniable}
    (denies : operation.deniable store ports = some deniable) : deniable.signature.ofDecision = false := by
  cases operation <;> simp only [Operation.deniable, Option.some.injEq, reduceCtorEq] at denies <;>
    subst denies <;> rfl

omit [Sha256] in
theorem failureSignature_ofDecision (approval : WorkManagementApproval) :
    (failureSignature store approval).ofDecision = false := by
  unfold failureSignature
  split <;> rfl

theorem StoreStep.remembering (step : StoreStep ports store event next) : Remembering store event next := by
  cases step with
  | created facts | started facts | linked facts => exact .operated facts.stored.recorded rfl
  | moved _ facts => exact .operated facts.stored.recorded rfl
  | prepared prepares facts => exact .operated facts.recorded (preparing_ofDecision prepares)
  | accepted facts | lowered facts | rejected facts => exact .operated facts.recorded rfl
  | transitioned _ facts => exact .operated facts.recorded rfl
  | failed _ facts => exact .operated facts.stored.recorded (failureSignature_ofDecision _)
  | denied denies _ facts => exact .operated facts.stored.recorded (deniable_ofDecision denies)
  | discarded pending => exact .discarded pending rfl
  | resulting facts | markedRequest facts | markedAction facts => exact .staged facts.stored.recorded rfl

theorem StoreStep.answer_origin (step : StoreStep ports store event next) {key : IdempotencyId} {stored : Stored}
    (found : next.idem[key]? = some stored) (decision : stored.signature.ofDecision = true) :
    (∃ before, store.idem[key]? = some before ∧ before.signature = stored.signature) ∨
    ∃ command, event = .staged command ∧ stored.signature = command.identity := by
  cases step.remembering with
  | operated recorded own =>
    rw [recorded.idem, KeyMap.get_insert] at found
    split at found
    · cases found
      cases own.symm.trans decision
    · exact .inl ⟨stored, found, rfl⟩
  | staged recorded same =>
    rw [recorded.idem, KeyMap.get_insert] at found
    split at found
    · cases found
      exact .inr ⟨_, same, rfl⟩
    · exact .inl ⟨stored, found, rfl⟩
  | discarded pending became =>
    subst became
    obtain ⟨renumber, entries⟩ := discard_idem pending
    rw [entries, Option.map_eq_some_iff] at found
    obtain ⟨before, found, rfl⟩ := found
    exact .inl ⟨before, Option.eq_some_of_filter_eq_some found, rfl⟩

structure Passed (store : Store) : Prop where
  requests : ∀ {key : IdempotencyId} {stored id version sourceDecisionId classification},
    store.idem[key]? = some stored →
    stored.signature = .markRequestSupersededPremise id version sourceDecisionId classification →
    ∃ record, store.requests[id]? = some record ∧ version.get < record.version.get
  actions : ∀ {key : IdempotencyId} {stored id version sourceDecisionId classification},
    store.idem[key]? = some stored →
    stored.signature = .markActionSupersededPremise id version sourceDecisionId classification →
    ∃ record, store.actions[id]? = some record ∧ version.get < record.version.get

theorem Passed.step (passed : Passed store) (keyed : Keyed store) (step : StoreStep ports store event next) :
    Passed next := by
  constructor
  · intro key stored id version sourceDecisionId classification found signed
    rcases step.answer_origin found (by rw [signed]; rfl) with ⟨before, held, same⟩ | ⟨command, staged, issued⟩
    · obtain ⟨record, present, later⟩ := passed.requests held (same.trans signed)
      obtain ⟨after, kept, onwards⟩ := step.request_kept keyed present
      exact ⟨after, kept, by rcases onwards with rfl | onwards <;> omega⟩
    · subst staged
      rw [signed] at issued
      cases step with
      | resulting facts => cases issued
      | markedAction facts => cases issued
      | @markedRequest _ _ _ _ _ record later _ _ facts =>
        cases issued
        have advances := AggregateVersion.next_get facts.advanced
        refine ⟨markedRequest record classification later, ?_, ?_⟩
        · rw [facts.stored.recorded.requests]
          simp only [markedRequest, keyed.requests facts.found, KeyMap.get_insert_self]
        · simp only [markedRequest, ← facts.current]
          omega
  · intro key stored id version sourceDecisionId classification found signed
    rcases step.answer_origin found (by rw [signed]; rfl) with ⟨before, held, same⟩ | ⟨command, staged, issued⟩
    · obtain ⟨record, present, later⟩ := passed.actions held (same.trans signed)
      obtain ⟨after, kept, rfl | change⟩ := step.action_kept keyed present
      · exact ⟨_, kept, later⟩
      · have advances := change.advances
        exact ⟨after, kept, by omega⟩
    · subst staged
      rw [signed] at issued
      cases step with
      | resulting facts => cases issued
      | markedRequest facts => cases issued
      | @markedAction _ _ _ _ _ record later _ _ facts =>
        cases issued
        have advances := AggregateVersion.next_get facts.advanced
        refine ⟨markedAction record classification later, ?_, ?_⟩
        · rw [facts.stored.recorded.actions]
          simp only [markedAction, keyed.actions facts.found, KeyMap.get_insert_self]
        · simp only [markedAction, ← facts.current]
          omega

omit [Sha256] in
theorem Passed.empty : Passed .empty := by
  constructor <;> intro key stored id version sourceDecisionId classification found <;> simp [Store.empty] at found

end MissionControl.Actions

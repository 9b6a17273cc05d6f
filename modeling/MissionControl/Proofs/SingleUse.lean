import MissionControl.Actions.Answers
import MissionControl.Proofs.ActionStructure

/-! A prepared intent is used once. Its id is drawn once, so when it has left the
pending previews nothing can put it back, and only a pending one can be used. -/

namespace MissionControl.SingleUse
open Actions ActionStructure Run

def consumes : Operation → Option PreparedIntentId
  | .approveAndExecuteAcceptActionRequest command
  | .approveAndExecuteCompleteAction command
  | .approveAndExecuteCancelAction command
  | .approveAndExecuteReopenAction command
  | .approveAndExecuteLowerActionClassification command => some command.approval.preparedId
  | .rejectActionPreparedIntent command => some command.preparedId
  | _ => none

def receiptOf : Response → Option ApprovalReceiptId
  | .request (.ok outcome) => outcome.approvalReceiptId
  | .action (.ok outcome) => outcome.approvalReceiptId
  | .accepted (.ok outcome) => some outcome.approvalReceiptId
  | _ => none

def storedReceipt : StoredResult → Option ApprovalReceiptId
  | .request outcome => outcome.approvalReceiptId
  | .action outcome => outcome.approvalReceiptId
  | .accepted outcome => some outcome.approvalReceiptId
  | _ => none

theorem reply_receipt {operation : Operation} {result : StoredResult} {response : Response}
    (replied : operation.reply result = some response) : receiptOf response = storedReceipt result := by
  cases operation <;> cases result <;> simp only [Operation.reply, Option.some.injEq, reduceCtorEq] at replied <;>
    subst replied <;> rfl

section
variable [Sha256] {service : Service} {ports : Ports} {operation : Operation} {issue : Issue}

structure SucceedsAnew (service : Service) (ports : Ports) (operation : Operation) (issue : Issue) : Prop where
  issued : operation.issue = some issue
  fresh : service.store.idem[issue.key]? = none
  success : (step service ports operation).2.succeeded = true

theorem SucceedsAnew.steps (anew : SucceedsAnew service ports operation issue) :
    StoreStep ports service.store (.operation operation) (step service ports operation).1.store ∧
      Remembers (step service ports operation).1.store operation issue (step service ports operation).2 := by
  have answered := step_success anew.issued anew.success
  refine ⟨?_, answered.remembered⟩
  obtain ⟨stored, found, _⟩ := answered.remembered
  have single : ∀ commands, operation ≠ .commitDecisionStage commands := by
    rintro commands rfl
    cases anew.issued
  have stepped : Stepped service ports operation _ := step_store operation single
  rcases stepped with same | step
  · rw [same, anew.fresh] at found
    cases found
  · exact step

theorem SucceedsAnew.recorded (anew : SucceedsAnew service ports operation issue) {changed : Store}
    {context : ActionOperationContext} {signature : CommandIdentity} {result : StoredResult}
    {audits : List AuditEvent} (keyed : issue.context = context)
    (recorded : Recorded service.store changed context signature result audits
      (step service ports operation).1.store) :
    operation.reply result = some (step service ports operation).2 := by
  obtain ⟨stored, found, _, replied⟩ := anew.steps.2
  have remembered := recorded.remembered
  rw [← keyed, found] at remembered
  cases remembered
  exact replied

omit [Sha256] in
theorem reply_terminal {failure : ActionTerminalFailure} {response : Response}
    (replied : operation.reply (.terminal failure) = some response) : response.succeeded = false := by
  cases operation <;> simp only [Operation.reply, Option.some.injEq, reduceCtorEq] at replied <;> subst replied <;> rfl

omit [Sha256] in
theorem executing_consumes {kind : PreparedActionTransitionKind} {command : ApproveAndExecute}
    (executes : operation.executing = some (kind, command)) : consumes operation = some command.approval.preparedId := by
  cases operation <;> simp_all [Operation.executing, consumes]

theorem SucceedsAnew.not_failed (anew : SucceedsAnew service ports operation issue) {cause : ActionServiceError}
    {command : ApproveAndExecute} {record : FailureRecord} {target : AuditTarget} {event : AuditEvent}
    {changed : Store} (fails : ApprovalFails service.store ports cause operation command)
    (facts : ApprovalFailed service.store ports command cause record target event changed
      (step service ports operation).1.store) : False := by
  obtain ⟨identity, issued⟩ := failing_issue fails
  have same : issue.context = command.context := by
    cases anew.issued.symm.trans issued
    rfl
  have failed := reply_terminal (anew.recorded same facts.stored.recorded)
  rw [anew.success] at failed
  cases failed

def Consumes (service : Service) (ports : Ports) (operation : Operation) (id : PreparedIntentId) : Prop :=
  consumes operation = some id ∧ ∃ issue, SucceedsAnew service ports operation issue

theorem Consumes.removes {id : PreparedIntentId} (used : Consumes service ports operation id) :
    (∃ intent, service.store.prepared[id]? = some intent) ∧
      (step service ports operation).1.store.prepared[id]? = none := by
  obtain ⟨names, issue, anew⟩ := used
  have step := anew.steps.1
  have erased : ∀ {intent : WorkManagementPreparedIntent}, service.store.prepared[id]? = some intent →
      (Actions.step service ports operation).1.store.prepared = service.store.prepared.erase id →
      (∃ intent, service.store.prepared[id]? = some intent) ∧
        (Actions.step service ports operation).1.store.prepared[id]? = none :=
    fun pending becomes => ⟨⟨_, pending⟩, by rw [becomes, KeyMap.get_erase_self]⟩
  cases step
  case accepted facts =>
    cases names
    exact erased facts.pending facts.recorded.prepared
  case transitioned executes facts =>
    cases (executing_consumes executes).symm.trans names
    exact erased facts.pending facts.recorded.prepared
  case lowered facts =>
    cases names
    exact erased facts.pending facts.recorded.prepared
  case rejected facts =>
    cases names
    refine erased facts.pending ?_
    rw [facts.recorded.prepared, Store.consume, facts.pending]
  case failed fails facts => exact (anew.not_failed fails facts).elim
  case moved moves _ => cases operation <;> simp_all [Operation.transition, consumes]
  case prepared prepares _ => cases operation <;> simp_all [Operation.preparing, consumes]
  case denied _ denies _ => cases operation <;> simp_all [Operation.deniable, consumes]
  all_goals cases names

theorem SucceedsAnew.receipt_drawn (anew : SucceedsAnew service ports operation issue) {receipt : ApprovalReceiptId}
    (shown : receiptOf (step service ports operation).2 = some receipt) : ports.nextApprovalReceiptId = some receipt := by
  have issued := anew.issued
  have names : ∀ {changed : Store} {context : ActionOperationContext} {signature : CommandIdentity}
      {result : StoredResult} {audits : List AuditEvent}, issue.context = context →
      Recorded service.store changed context signature result audits (step service ports operation).1.store →
      storedReceipt result = some receipt :=
    fun same recorded => (reply_receipt (anew.recorded same recorded)).symm.trans shown
  cases anew.steps.1
  case created facts => cases issued; cases names rfl facts.stored.recorded
  case moved moves facts =>
    cases issued.symm.trans (transition_issue moves)
    cases names rfl facts.stored.recorded
  case started facts => cases issued; cases names rfl facts.stored.recorded
  case linked facts => cases issued; cases names rfl facts.stored.recorded
  case prepared prepares facts =>
    cases issued.symm.trans (preparing_issue prepares)
    cases names rfl facts.recorded
  case accepted facts =>
    cases issued
    have named := names rfl facts.recorded
    rw [storedReceipt, facts.shown.2.2] at named
    exact facts.validated.drawn.trans named
  case transitioned executes facts =>
    cases issued.symm.trans (executing_issue executes)
    exact facts.validated.drawn.trans (names rfl facts.recorded)
  case lowered facts =>
    cases issued
    exact facts.validated.drawn.trans (names rfl facts.recorded)
  case rejected facts => cases issued; cases names rfl facts.recorded
  case failed fails facts => exact (anew.not_failed fails facts).elim
  case denied _ denies facts =>
    cases issued.symm.trans (deniable_issue denies)
    cases names rfl facts.stored.recorded
  case discarded _ => cases issued

end

def intentDraws (label : Label) : List PreparedIntentId := label.1.nextPreparedIntentId.toList

structure IntentsIssued (seen : List Label) (store : Store) : Prop where
  pending : ∀ {id : PreparedIntentId} {intent : WorkManagementPreparedIntent}, store.prepared[id]? = some intent →
    intent.id = id ∧ id ∈ seen.flatMap intentDraws
  discarded : ∀ {intent : WorkManagementPreparedIntent}, intent ∈ store.discardedPrepared →
    intent.id ∈ seen.flatMap intentDraws ∧ store.prepared[intent.id]? = none

section
variable [Sha256] {seen following : List Label} {store next : Store} {label : Label}

omit [Sha256] in
theorem IntentsIssued.idle (issued : IntentsIssued seen store) : IntentsIssued (seen ++ [label]) store :=
  ⟨fun found => (issued.pending found).imp_right mem_drawn, fun member => (issued.discarded member).imp_left mem_drawn⟩

omit [Sha256] in
theorem none_of_erase {map : KeyMap PreparedIntentId WorkManagementPreparedIntent} {erased id : PreparedIntentId}
    (absent : map[id]? = none) : (map.erase erased)[id]? = none := by
  rw [KeyMap.get_erase]
  split <;> simp [absent]

theorem IntentsIssued.step (issued : IntentsIssued seen store) (fresh : Distinct intentDraws (seen ++ [label]))
    (step : LabelStep label store next) : IntentsIssued (seen ++ [label]) next := by
  have earlier : IntentsIssued (seen ++ [label]) store := issued.idle
  cases StoreStep.intentEffect step with
  | none prepared discarded =>
    exact ⟨prepared ▸ earlier.pending, prepared ▸ discarded ▸ earlier.discarded⟩
  | @prepared _ _ intent facts prepared discarded =>
    have drawn : intent.id ∈ intentDraws label := by simp [intentDraws, facts.preparation.drawn]
    refine ⟨fun {id other} found => ?_, fun {other} member => ?_⟩
    · rw [prepared, KeyMap.get_insert] at found
      split at found
      next same => cases found; exact ⟨same, same ▸ drawn_last drawn⟩
      · exact earlier.pending found
    · rw [discarded] at member
      refine ⟨(earlier.discarded member).1, ?_⟩
      rw [prepared, KeyMap.get_insert_other _ _ ?_, (earlier.discarded member).2]
      intro same
      exact fresh.fresh drawn (same ▸ (issued.discarded member).1)
  | @executed id intent pending prepared discarded =>
    refine ⟨fun found => earlier.pending (KeyMap.get_of_erase (prepared ▸ found)).2, fun {other} member => ?_⟩
    rw [discarded] at member
    exact ⟨(earlier.discarded member).1, prepared ▸ none_of_erase (earlier.discarded member).2⟩
  | @consumed id intent pending prepared discarded =>
    refine ⟨fun found => earlier.pending (KeyMap.get_of_erase (prepared ▸ found)).2, fun {other} member => ?_⟩
    rw [discarded, List.mem_append, List.mem_singleton] at member
    rcases member with member | rfl
    · exact ⟨(earlier.discarded member).1, prepared ▸ none_of_erase (earlier.discarded member).2⟩
    · obtain ⟨named, drawn⟩ := earlier.pending pending
      exact ⟨named ▸ drawn, by rw [prepared, named, KeyMap.get_erase_self]⟩

theorem intentsIssued_of_run (run : StoreRun .empty seen store) (fresh : Distinct intentDraws seen) :
    IntentsIssued seen store := by
  refine run.invariantAlong (Distinct intentDraws) IntentsIssued (fun _ _ => Distinct.shrinks) (fun _ _ _ => .idle)
    (fun _ _ _ _ fresh step issued => issued.step fresh step) fresh ⟨?_, ?_⟩
  · intro id intent found
    simp [Store.empty] at found
  · intro intent member
    simp [Store.empty] at member

theorem stays_gone (run : StoreRun store following next) (fresh : Distinct intentDraws (seen ++ following))
    {id : PreparedIntentId} (drawn : id ∈ seen.flatMap intentDraws) (gone : store.prepared[id]? = none) :
    next.prepared[id]? = none := by
  refine run.invariantAlong (fun later => Distinct intentDraws (seen ++ later))
    (fun _ reached => reached.prepared[id]? = none) ?_ (fun _ _ _ holds => holds) ?_ fresh gone
  · intro later label distinct
    rw [← List.append_assoc] at distinct
    exact distinct.shrinks
  · intro later label before after distinct step absent
    rw [← List.append_assoc] at distinct
    cases pending : after.prepared[id]? with
    | none => rfl
    | some intent =>
      rcases StoreStep.pending_origin step pending with before | ⟨_, _, facts, rfl⟩
      · exact absent.symm.trans before |>.symm
      · have now : intent.id ∈ intentDraws label := by simp [intentDraws, facts.preparation.drawn]
        refine absurd ?_ (distinct.fresh now)
        rw [List.flatMap_append]
        exact List.mem_append_left _ drawn

end

section
variable [Sha256]

/-- The places of a run that execute or reject the preview anew. -/
def ConsumedAt (earlier : Script) (event : Ports × Operation) (id : PreparedIntentId) : Prop :=
  Consumes (run earlier) event.1 event.2 id

/-- The places after which the preview is used up: executed, rejected, or discarded. -/
def FinishedAt (earlier : Script) (event : Ports × Operation) (id : PreparedIntentId) : Prop :=
  ConsumedAt earlier event id ∨ ∃ intent ∈ (run (earlier ++ [event])).store.discardedPrepared, intent.id = id

def ReceiptShownAt (earlier : Script) (event : Ports × Operation) (receipt : ApprovalReceiptId) : Prop :=
  (∃ issue, SucceedsAnew (run earlier) event.1 event.2 issue) ∧
    receiptOf (step (run earlier) event.1 event.2).2 = some receipt

structure IdsNeverRepeat (script : Script) : Prop where
  intents : Distinct intentDraws (labels script)
  receipts : Distinct receiptDraws (labels script)

omit [Sha256] in
theorem IdsNeverRepeat.left {first second : Script} (fresh : IdsNeverRepeat (first ++ second)) :
    IdsNeverRepeat first :=
  ⟨(labels_append first second ▸ fresh.intents).left, (labels_append first second ▸ fresh.receipts).left⟩

variable {event : Ports × Operation}

omit [Sha256] in
theorem IdsNeverRepeat.upto {first second : Script} (fresh : IdsNeverRepeat (first ++ event :: second)) :
    IdsNeverRepeat (first ++ [event]) := by
  rw [← List.singleton_append, ← List.append_assoc] at fresh
  exact fresh.left

variable {id : PreparedIntentId}

theorem FinishedAt.gone {earlier : Script} (finished : FinishedAt earlier event id)
    (fresh : IdsNeverRepeat (earlier ++ [event])) :
    id ∈ (labels (earlier ++ [event])).flatMap intentDraws ∧
      (run (earlier ++ [event])).store.prepared[id]? = none := by
  rcases finished with used | ⟨intent, discarded, rfl⟩
  · obtain ⟨⟨intent, pending⟩, gone⟩ := Consumes.removes used
    have issued := intentsIssued_of_run (run_storeRun earlier) fresh.left.intents
    refine ⟨?_, run_snoc earlier event ▸ gone⟩
    rw [labels_append, List.flatMap_append]
    exact List.mem_append_left _ (issued.pending pending).2
  · exact (intentsIssued_of_run (run_storeRun _) fresh.intents).discarded discarded

variable {earlier middle : Script}

theorem FinishedAt.stays (finished : FinishedAt earlier event id) (fresh : IdsNeverRepeat (earlier ++ event :: middle)) :
    (run (earlier ++ event :: middle)).store.prepared[id]? = none := by
  rw [← List.singleton_append, ← List.append_assoc] at fresh ⊢
  obtain ⟨drawn, gone⟩ := finished.gone fresh.left
  exact stays_gone (run_onwards _ middle) (labels_append _ middle ▸ fresh.intents) drawn gone

theorem FinishedAt.not_consumed {event next : Ports × Operation} (finished : FinishedAt earlier event id)
    (fresh : IdsNeverRepeat (earlier ++ event :: middle)) : ¬ ConsumedAt (earlier ++ event :: middle) next id := by
  intro again
  obtain ⟨⟨intent, pending⟩, _⟩ := Consumes.removes again
  rw [finished.stays fresh] at pending
  cases pending

omit [Sha256] in
theorem issued_labels {operation : Operation} {issue : Issue} (issued : operation.issue = some issue) (ports : Ports) :
    operation.labels ports = [(ports, .operation operation)] := by
  cases operation <;> first | rfl | cases issued

theorem ReceiptShownAt.drawn {earlier : Script} {receipt : ApprovalReceiptId}
    (shown : ReceiptShownAt earlier event receipt) :
    labels [event] = [(event.1, .operation event.2)] ∧ receipt ∈ receiptDraws (event.1, .operation event.2) := by
  obtain ⟨⟨issue, anew⟩, names⟩ := shown
  refine ⟨by simp [labels, issued_labels anew.issued], ?_⟩
  simp [receiptDraws, anew.receipt_drawn names]

theorem ReceiptShownAt.once {event other : Ports × Operation} {receipt : ApprovalReceiptId}
    (shown : ReceiptShownAt earlier event receipt) (again : ReceiptShownAt (earlier ++ event :: middle) other receipt)
    (fresh : IdsNeverRepeat (earlier ++ event :: middle ++ [other])) : False := by
  have distinct := fresh.receipts
  rw [labels_append, again.drawn.1] at distinct
  refine distinct.fresh again.drawn.2 ?_
  rw [← List.singleton_append, labels_append, labels_append, shown.drawn.1, List.flatMap_append, List.flatMap_append]
  exact List.mem_append_right _ (List.mem_append_left _ (by simpa using shown.drawn.2))

theorem intents_used_once (script : Script) (fresh : IdsNeverRepeat script) :
    (∀ {id : PreparedIntentId} {earlier following first later : Script} {event other : Ports × Operation},
      script = earlier ++ event :: following → script = first ++ other :: later →
      ConsumedAt earlier event id → ConsumedAt first other id → earlier = first) ∧
    (∀ {id : PreparedIntentId} {earlier middle rest : Script} {event : Ports × Operation},
      script = earlier ++ event :: middle ++ rest → FinishedAt earlier event id →
      (run (earlier ++ event :: middle)).store.prepared[id]? = none ∧
        ∀ next, ¬ ConsumedAt (earlier ++ event :: middle) next id) ∧
    (∀ {receipt : ApprovalReceiptId} {earlier following first later : Script} {event other : Ports × Operation},
      script = earlier ++ event :: following → script = first ++ other :: later →
      ReceiptShownAt earlier event receipt → ReceiptShownAt first other receipt → earlier = first) := by
  refine ⟨?_, ?_, ?_⟩
  · rintro id earlier following first later event other one two used again
    rcases places (one.symm.trans two) with same | ⟨middle, rfl⟩ | ⟨middle, rfl⟩
    · exact same
    · exact (FinishedAt.not_consumed (.inl used) (two ▸ fresh).left again).elim
    · exact (FinishedAt.not_consumed (.inl again) (one ▸ fresh).left used).elim
  · rintro id earlier middle rest event split finished
    have before := (split ▸ fresh : IdsNeverRepeat (earlier ++ event :: middle ++ rest)).left
    exact ⟨finished.stays before, fun next => finished.not_consumed before⟩
  · rintro receipt earlier following first later event other one two shown again
    rcases places (one.symm.trans two) with same | ⟨middle, rfl⟩ | ⟨middle, rfl⟩
    · exact same
    · exact (shown.once again (two ▸ fresh).upto).elim
    · exact (again.once shown (one ▸ fresh).upto).elim

end

open Journey

theorem intents_used_once_completed :
    ConsumedAt previewed (ports 7 (evidence .«public»), completion) (name .preparedIntent 6) ∧
      (run (previewed ++ [(ports 7 (evidence .«public»), completion)])).store.prepared[name .preparedIntent 6]? = none := by
  have used : ConsumedAt previewed (ports 7 (evidence .«public»), completion) (name .preparedIntent 6) :=
    ⟨rfl, _, rfl, by decide +kernel, by decide +kernel⟩
  have fresh : IdsNeverRepeat completed :=
    ⟨show List.Nodup ((labels completed).flatMap intentDraws) by decide +kernel,
      show List.Nodup ((labels completed).flatMap receiptDraws) by decide +kernel⟩
  have last : completed = previewed ++ [(ports 7 (evidence .«public»), completion)] ++ [] := by simp [completed]
  exact ⟨used, ((intents_used_once completed fresh).2.1 last (.inl used)).1⟩

end MissionControl.SingleUse

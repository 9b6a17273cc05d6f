import MissionControl.Actions.Pins
import MissionControl.Proofs.SingleUse

/-! What is executed is what was approved. An execution that succeeds could be
previewed again from the state it finds, and the preview would show the same. -/

namespace MissionControl.ExactApproval
open Actions SingleUse Checked

/-- The approvals of previews that name their target by its version. -/
def approves : Operation → Option ApproveAndExecute
  | .approveAndExecuteAcceptActionRequest command
  | .approveAndExecuteCompleteAction command
  | .approveAndExecuteCancelAction command
  | .approveAndExecuteReopenAction command => some command
  | _ => none

/-- A preview of the same kind with the parameters of the one there is. -/
def deriveAgain (store : Store) (ports : Ports) (intent : WorkManagementPreparedIntent) :
    Except ActionServiceError WorkManagementPreparedIntent :=
  match intent.operation with
  | .acceptActionRequest requestId requestVersion .. => acceptPreview store ports requestId requestVersion
  | .completeAction actionId actionVersion =>
    completePreview store ports actionId actionVersion (preparedJudgments intent).head?.toList
  | .cancelAction actionId actionVersion reason _ => cancelPreview store ports actionId actionVersion reason
  | .reopenAction actionId actionVersion mode reason _ =>
    reopenPreview store ports actionId actionVersion mode reason
  | _ => .error .preparedIntentChanged

/-- Ports that can prepare, resolve evidence alike, and offer an accepted request
the Action id it was offered before. -/
structure Rederives (ports other : Ports) (intent : WorkManagementPreparedIntent) (id : PreparedIntentId)
    (expiresAt : UtcTimestamp) : Prop where
  resolves : ∀ evidence, other.resolve .command evidence = ports.resolve .command evidence
  draws : other.nextPreparedIntentId = some id
  expires : (other.now .preparation).checkedAdd workManagementH2aTtlMillis = some expiresAt
  offers : ∀ target, acceptTarget intent.operation = some target → other.nextActionId = some target.actionId

structure Exact [Sha256] (store : Store) (ports : Ports) (approval : WorkManagementApproval)
    (intent : WorkManagementPreparedIntent) : Prop where
  rederived : ∀ {other id expiresAt}, Rederives ports other intent id expiresAt →
    ∃ fresh, deriveAgain store other intent = .ok fresh ∧ fresh.preview = { intent.preview with id, expiresAt }
  acknowledged : approval.acknowledgedPayloadDigest = intent.payloadDigest
  inTime : ports.now .minting < intent.preview.expiresAt

variable {classification : DataClassification}

theorem prepare_of_admission {ports : Ports} {operation canonical : WorkManagementOperation}
    {support : Option SupportWitness} {id : PreparedIntentId} {expiresAt : UtcTimestamp}
    (sorted : canonicalOperation operation = .ok canonical) (admission : Admission canonical classification support)
    (draws : ports.nextPreparedIntentId = some id)
    (expires : (ports.now .preparation).checkedAdd workManagementH2aTtlMillis = some expiresAt) :
    ∃ fresh, prepare ports operation classification support = .ok fresh ∧
      fresh.preview = previewOf id canonical classification support expiresAt := by
  have derived : preparePreview id operation classification support (ports.now .preparation) =
      .ok (previewOf id canonical classification support expiresAt) := by
    simp [preparePreview, sorted, expires, admission.requirement, admission.roles, admission.distinct,
      admission.classified]
  refine ⟨⟨_, _, _, _, _, _, derived⟩, ?_, rfl⟩
  simp only [prepare, bind_ok, require_ok, relabel_ok]
  exact ⟨id, draws, WorkManagementPreparedIntent.prepare_of_preview derived⟩

theorem revalidated_again {ports : Ports} {intent : WorkManagementPreparedIntent} {operation : WorkManagementOperation}
    {support : Option SupportWitness} (revalidated : Revalidated intent operation classification support)
    {id : PreparedIntentId} {expiresAt : UtcTimestamp} (draws : ports.nextPreparedIntentId = some id)
    (expires : (ports.now .preparation).checkedAdd workManagementH2aTtlMillis = some expiresAt) :
    ∃ fresh, prepare ports operation classification support = .ok fresh ∧
      fresh.preview = { intent.preview with id, expiresAt } := by
  obtain ⟨fresh, success, shape⟩ := prepare_of_admission revalidated.canonical revalidated.admission draws expires
  refine ⟨fresh, success, shape.trans ?_⟩
  obtain ⟨prepared, _, original⟩ := intent.shape
  rw [original]
  simp only [previewOf, WorkManagementPreview.mk.injEq, true_and, and_true]
  exact ⟨revalidated.total.symm.trans (congrArg WorkManagementPreview.classification original),
    revalidated.sources.symm.trans (congrArg WorkManagementPreview.classificationSources original),
    revalidated.shown.symm⟩

theorem snapshot_again {ports other : Ports} (resolves : ∀ evidence, other.resolve .command evidence =
    ports.resolve .command evidence) (record : ActionRecord) :
    authoritativeActionSnapshot other record = authoritativeActionSnapshot ports record := by
  have same : resolveEvidence other = resolveEvidence ports := by
    funext evidence
    rw [resolveEvidence, resolveEvidence, resolves]
  rw [authoritativeActionSnapshot, authoritativeActionSnapshot, same]

section
variable [Sha256] {store next : Store} {ports other : Ports} {command : ApproveAndExecute}
  {intent : WorkManagementPreparedIntent} {id : PreparedIntentId} {expiresAt : UtcTimestamp}

variable {receipt : WorkManagementApprovalReceipt} {later : AggregateVersion}

theorem accept_again {target : AcceptTarget} {request : ActionRequestRecord} {owner : StakeholderId}
    {due : UtcTimestamp} {outcome : AcceptedActionOutcome} (keyed : Keyed store)
    (facts : Accepted store ports command intent target request owner due receipt later outcome next)
    (rederives : Rederives ports other intent id expiresAt) :
    ∃ fresh, deriveAgain store other intent = .ok fresh ∧ fresh.preview = { intent.preview with id, expiresAt } := by
  obtain ⟨fresh, success, shape⟩ := revalidated_again facts.validated.revalidated rederives.draws rederives.expires
  refine ⟨fresh, ?_, shape⟩
  have offered := rederives.offers target facts.targeted
  have targeted := facts.targeted
  unfold deriveAgain
  cases named : intent.operation <;> simp only [named, acceptTarget, Option.some.injEq, reduceCtorEq] at targeted
  subst targeted
  simp only [acceptPreview, bind_ok, ensure_ok, require_ok, exactRequest_ok]
  have identified := keyed.requests facts.found
  refine ⟨request, ⟨facts.found, facts.current⟩, (), facts.legal, owner, facts.owned, due, facts.dated, _, offered, (),
    facts.absent, ?_⟩
  rw [currentAcceptOperation, identified, facts.current] at success
  exact success

variable {snapshot : AuthoritativeSnapshot} {support : Option SupportWitness} {reason : Option ActionDetails}
  {target : TransitionTarget} {record : ActionRecord} {event : AuditEvent}

theorem complete_again (kept : PreviewsKept store)
    (facts : Transitioned store ports .complete command intent target reason record snapshot support receipt later
      event next) (rederives : Rederives ports other intent id expiresAt) :
    ∃ fresh, deriveAgain store other intent = .ok fresh ∧ fresh.preview = { intent.preview with id, expiresAt } := by
  have revalidated := facts.validated.revalidated
  obtain ⟨fresh, success, shape⟩ := revalidated_again revalidated rederives.draws rederives.expires
  refine ⟨fresh, ?_, shape⟩
  have targeted := facts.targeted
  have relied := kept facts.pending
  have supported := facts.supported
  have shown := revalidated.shown
  have classified := revalidated.target
  obtain ⟨resolved, resolves⟩ := authoritativeActionSnapshot_ok.mp facts.resolved
  simp only [currentSupport, bind_ok, relabel_ok, pure_ok] at supported
  obtain ⟨offered, offers, witness, satisfied, rfl⟩ := supported
  unfold deriveAgain
  cases named : intent.operation <;> simp only [named, transitionTarget, Option.some.injEq, reduceCtorEq] at targeted
  subst targeted
  rw [PreviewKept, named] at relied
  obtain ⟨⟨pinned, stored, _, completes⟩, judgment, judged⟩ := relied
  cases facts.found.symm.trans stored
  have evidence := completeEvidence offers satisfied
  have linked : record.completionEvidence ≠ [] := by
    rintro empty
    have none := resolves.resolves
    rw [empty, List.forall₂_nil_left_iff] at none
    have shownNone := (EvidenceOrJudgment.evaluateEvidenceRequired_ok satisfied).2
    rw [offered_ok offers, resolves.evidence, none] at shownNone
    exact shownNone rfl
  have total : snapshot.classification.combine witness.classification = intent.preview.classification := by
    rw [resolves.classification, ← evidence, ← completes facts.current witness shown]
    exact classified
  simp only [completePreview, bind_ok, ensure_ok, relabel_ok, exactAction_ok]
  refine ⟨record, ⟨facts.found, facts.current⟩, (), ?_, (), linked, snapshot, ?_, offered, ?_, witness, satisfied, ?_⟩
  · simpa [transitionLegal] using facts.legal
  · rw [snapshot_again rederives.resolves, facts.resolved]
  · rw [judged] at offers
    rw [judged, Option.head?_toList, resolves.evidence, sortEvidence_again, ← resolves.evidence, offers]
  · rw [total, ← named]
    exact success

theorem cancel_again (kept : PreviewsKept store)
    (facts : Transitioned store ports .cancel command intent target reason record snapshot support receipt later
      event next) (rederives : Rederives ports other intent id expiresAt) :
    ∃ fresh, deriveAgain store other intent = .ok fresh ∧ fresh.preview = { intent.preview with id, expiresAt } := by
  have revalidated := facts.validated.revalidated
  obtain ⟨fresh, success, shape⟩ := revalidated_again revalidated rederives.draws rederives.expires
  refine ⟨fresh, ?_, shape⟩
  have targeted := facts.targeted
  have relied := kept facts.pending
  have bound := facts.bound
  obtain rfl : support = none := (Except.ok.inj facts.supported).symm
  unfold deriveAgain
  cases named : intent.operation <;> simp only [named, transitionTarget, Option.some.injEq, reduceCtorEq] at targeted
  subst targeted
  rw [PreviewKept, named] at relied
  obtain ⟨pinned, stored, _, keeps⟩ := relied
  cases facts.found.symm.trans stored
  simp only [bindingsUnchanged, named, preparedBindings, Option.mem_def, Option.some.injEq, forall_eq'] at bound
  subst bound
  simp only [cancelPreview, bind_ok, ensure_ok, exactAction_ok]
  refine ⟨record, ⟨facts.found, facts.current⟩, (), ?_, snapshot, ?_, (), ?_, ?_⟩
  · simpa [transitionLegal] using facts.legal
  · rw [snapshot_again rederives.resolves, facts.resolved]
  · have classified : targetClassification intent = snapshot.classification := revalidated.target
    exact classified ▸ keeps facts.current
  · rw [← named]
    exact success

theorem reopen_again (kept : PreviewsKept store)
    (facts : Transitioned store ports .reopen command intent target reason record snapshot support receipt later
      event next) (rederives : Rederives ports other intent id expiresAt) :
    ∃ fresh, deriveAgain store other intent = .ok fresh ∧ fresh.preview = { intent.preview with id, expiresAt } := by
  have revalidated := facts.validated.revalidated
  obtain ⟨fresh, success, shape⟩ := revalidated_again revalidated rederives.draws rederives.expires
  refine ⟨fresh, ?_, shape⟩
  have targeted := facts.targeted
  have relied := kept facts.pending
  have bound := facts.bound
  obtain rfl : support = none := (Except.ok.inj facts.supported).symm
  unfold deriveAgain
  cases named : intent.operation <;> simp only [named, transitionTarget, Option.some.injEq, reduceCtorEq] at targeted
  subst targeted
  rw [PreviewKept, named] at relied
  obtain ⟨pinned, stored, _, keeps⟩ := relied
  cases facts.found.symm.trans stored
  simp only [bindingsUnchanged, named, preparedBindings, Option.mem_def, Option.some.injEq, forall_eq'] at bound
  subst bound
  simp only [reopenPreview, bind_ok, ensure_ok, exactAction_ok]
  refine ⟨record, ⟨facts.found, facts.current⟩, (), (keeps facts.current).2, snapshot, ?_, (), ?_, ?_⟩
  · rw [snapshot_again rederives.resolves, facts.resolved]
  · have classified : targetClassification intent = snapshot.classification := revalidated.target
    exact classified ▸ (keeps facts.current).1
  · rw [← named]
    exact success

end

/-- What the preview depends on is no longer what it was prepared from. -/
inductive Changed (store : Store) (ports : Ports) (intent : WorkManagementPreparedIntent) : Prop where
  | request {target : AcceptTarget} : acceptTarget intent.operation = some target →
      (∀ request, store.requests[target.requestId]? = some request → request.version ≠ target.requestVersion) →
      Changed store ports intent
  | action {kind : PreparedActionTransitionKind} {target : TransitionTarget} :
      transitionTarget kind intent.operation = some target →
      (∀ record, store.actions[target.actionId]? = some record → record.version ≠ target.actionVersion) →
      Changed store ports intent
  | evidence {target : TransitionTarget} {record : ActionRecord} {witness : SupportWitness} :
      transitionTarget .complete intent.operation = some target →
      store.actions[target.actionId]? = some record → intent.preview.support = some witness →
      (∀ resolved, record.completionEvidence.mapM (resolveEvidence ports) = .ok resolved →
        sortEvidence resolved ≠ witness.evidence) → Changed store ports intent
  | bindings {kind : PreparedActionTransitionKind} {target : TransitionTarget} {record : ActionRecord}
      {bindings : List EvidenceClassificationBinding} :
      transitionTarget kind intent.operation = some target → preparedBindings intent.operation = some bindings →
      store.actions[target.actionId]? = some record →
      (∀ resolved, record.completionEvidence.mapM (resolveEvidence ports) = .ok resolved →
        sortBindings ((sortEvidence resolved).map fun item => ⟨item.id, item.classification⟩) ≠ bindings) →
      Changed store ports intent
  | policy : ports.currentPolicy intent.operation = .denied → Changed store ports intent

section
variable [Sha256] {store next : Store} {ports : Ports} {command : ApproveAndExecute}
  {intent : WorkManagementPreparedIntent}

variable {receipt : WorkManagementApprovalReceipt} {later : AggregateVersion}

theorem Accepted.unchanged {target : AcceptTarget} {request : ActionRequestRecord} {owner : StakeholderId}
    {due : UtcTimestamp} {outcome : AcceptedActionOutcome}
    (facts : Accepted store ports command intent target request owner due receipt later outcome next) :
    ¬ Changed store ports intent := by
  have only : ∀ kind, transitionTarget kind intent.operation = none := by
    have targeted := facts.targeted
    intro kind
    cases named : intent.operation <;> simp only [named, acceptTarget, reduceCtorEq] at targeted
    cases kind <;> rfl
  intro changed
  cases changed with
  | request targeted differs =>
    cases targeted.symm.trans facts.targeted
    exact differs _ facts.found facts.current
  | action targeted _ => simp [only] at targeted
  | evidence targeted _ _ _ => simp [only] at targeted
  | bindings targeted _ _ _ => simp [only] at targeted
  | policy denied => simp [facts.validated.allowed] at denied

omit [Sha256] in
theorem transitionTarget_kind {operation : WorkManagementOperation} {kind other : PreparedActionTransitionKind}
    {one two : TransitionTarget} (first : transitionTarget kind operation = some one)
    (second : transitionTarget other operation = some two) : kind = other ∧ one = two := by
  cases operation <;> cases kind <;> cases other <;>
    simp_all only [transitionTarget, Option.some.injEq, reduceCtorEq, and_self]

variable {kind : PreparedActionTransitionKind}

theorem Transitioned.unchanged {target : TransitionTarget} {reason : Option ActionDetails} {record : ActionRecord}
    {snapshot : AuthoritativeSnapshot} {support : Option SupportWitness} {event : AuditEvent}
    (facts : Transitioned store ports kind command intent target reason record snapshot support receipt later
      event next) : ¬ Changed store ports intent := by
  obtain ⟨resolved, resolves⟩ := authoritativeActionSnapshot_ok.mp facts.resolved
  intro changed
  cases changed with
  | request targeted _ =>
    have transitions := facts.targeted
    cases named : intent.operation <;> simp only [named, acceptTarget, reduceCtorEq] at targeted
    cases kind <;> simp [named, transitionTarget] at transitions
  | action targeted differs =>
    obtain ⟨rfl, rfl⟩ := transitionTarget_kind facts.targeted targeted
    exact differs _ facts.found facts.current
  | evidence targeted stored shown differs =>
    obtain ⟨rfl, rfl⟩ := transitionTarget_kind facts.targeted targeted
    cases facts.found.symm.trans stored
    have supported := facts.supported
    simp only [currentSupport, bind_ok, relabel_ok, pure_ok] at supported
    obtain ⟨offered, offers, witness, satisfied, rfl⟩ := supported
    cases shown.symm.trans facts.validated.revalidated.shown
    refine differs resolved (mapM_ok.mpr resolves.resolves) ?_
    rw [completeEvidence offers satisfied, resolves.evidence]
  | bindings targeted listed stored differs =>
    obtain ⟨rfl, rfl⟩ := transitionTarget_kind facts.targeted targeted
    cases facts.found.symm.trans stored
    refine differs resolved (mapM_ok.mpr resolves.resolves) ?_
    rw [← resolves.evidence, ← resolves.bindings, facts.bound _ listed]
  | policy denied => simp [facts.validated.allowed] at denied

theorem Accepted.exact {target : AcceptTarget} {request : ActionRequestRecord} {owner : StakeholderId}
    {due : UtcTimestamp} {outcome : AcceptedActionOutcome} (keyed : Keyed store)
    (facts : Accepted store ports command intent target request owner due receipt later outcome next) :
    Exact store ports command.approval intent :=
  have ⟨_, _, minted⟩ := facts.validated.derived
  ⟨accept_again keyed facts, minted.acknowledged, minted.inTime⟩

theorem Transitioned.exact {target : TransitionTarget} {reason : Option ActionDetails} {record : ActionRecord}
    {snapshot : AuthoritativeSnapshot} {support : Option SupportWitness} {event : AuditEvent}
    (kept : PreviewsKept store)
    (facts : Transitioned store ports kind command intent target reason record snapshot support receipt later
      event next) : Exact store ports command.approval intent := by
  obtain ⟨_, _, minted⟩ := facts.validated.derived
  refine ⟨?_, minted.acknowledged, minted.inTime⟩
  cases kind with
  | complete => exact complete_again kept facts
  | cancel => exact cancel_again kept facts
  | reopen => exact reopen_again kept facts

variable {service : Service} {operation : Operation}

omit [Sha256] in
theorem execute_refused {Outcome : Type} {cause : Except ActionServiceError (Staged Outcome)} {error : DomainError}
    (refused : (execute service ports command cause).2 = .error error) :
    (execute service ports command cause).1.store.requests = service.store.requests ∧
      (execute service ports command cause).1.store.actions = service.store.actions := by
  unfold execute at refused ⊢
  rcases settled : settle service cause with ⟨shown, failure | outcome⟩
  · have same := (settle_error settled).1
    have recorded : (settle shown (failureRecording shown.store ports command failure)).1.store.requests =
          service.store.requests ∧
        (settle shown (failureRecording shown.store ports command failure)).1.store.actions =
          service.store.actions := by
      rw [← same]
      rcases settle_store shown (failureRecording shown.store ports command failure)
        with unchanged | ⟨_, next, staged | staged, became⟩
      · rw [unchanged]; exact ⟨rfl, rfl⟩
      all_goals
        rcases failureRecording_ok staged with replayed | ⟨_, _, _, _, _, committed, facts⟩
        · cases replayed
        · cases committed <;> exact became ▸ facts.stored.keeps
    simp only [failedActionExecution]
    split
    next outcome => rw [outcome] at recorded; exact recorded
    next outcome => rw [outcome] at recorded; exact recorded
  · simp [settled] at refused

theorem refused_keeps (approving : approves operation = some command)
    (refused : (step service ports operation).2.succeeded = false) :
    (step service ports operation).1.store.requests = service.store.requests ∧
      (step service ports operation).1.store.actions = service.store.actions := by
  have kept : ∀ {Outcome : Type} {cause : Except ActionServiceError (Staged Outcome)}
      {wrap : Except DomainError Outcome → Response}, (∀ outcome, (wrap (.ok outcome)).succeeded = true) →
      ((execute service ports command cause).map id wrap).2.succeeded = false →
      ((execute service ports command cause).map id wrap).1.store.requests = service.store.requests ∧
        ((execute service ports command cause).map id wrap).1.store.actions = service.store.actions := by
    intro Outcome cause wrap successful refused
    rcases answered : (execute service ports command cause).2 with error | outcome
    · exact execute_refused answered
    · simp [answered, successful] at refused
  cases operation <;> simp only [approves, Option.some.injEq, reduceCtorEq] at approving <;> subst approving
  · exact kept (fun _ => rfl) refused
  · exact kept (fun _ => rfl) refused
  · exact kept (fun _ => rfl) refused
  · exact kept (fun _ => rfl) refused

omit [Sha256] in
theorem approves_issue (approving : approves operation = some command) :
    ∃ identity, operation.issue = some (command.issue identity) := by
  cases operation <;> simp only [approves, Option.some.injEq, reduceCtorEq] at approving <;> subst approving <;>
    exact ⟨_, rfl⟩

theorem success_exact {issue : Issue} (approving : approves operation = some command)
    (anew : SucceedsAnew service ports operation issue) (keyed : Keyed service.store)
    (kept : PreviewsKept service.store)
    (pending : service.store.prepared[command.approval.preparedId]? = some intent) :
    Exact service.store ports command.approval intent ∧ ¬ Changed service.store ports intent := by
  cases anew.steps.1
  case accepted facts =>
    cases approving
    cases pending.symm.trans facts.pending
    exact ⟨Accepted.exact keyed facts, Accepted.unchanged facts⟩
  case transitioned kind command' _ _ _ _ _ _ _ _ _ executes facts =>
    have same : command' = command := by
      cases operation <;> simp_all [Operation.executing, approves]
    subst same
    cases pending.symm.trans facts.pending
    exact ⟨Transitioned.exact kept facts, Transitioned.unchanged facts⟩
  case failed fails facts => exact (anew.not_failed fails facts).elim
  case moved moves _ => cases operation <;> simp_all [Operation.transition, approves]
  case prepared prepares _ => cases operation <;> simp_all [Operation.preparing, approves]
  case denied _ denies _ => cases operation <;> simp_all [Operation.deniable, approves]
  all_goals cases approving

end

theorem exact_approval [Sha256] (script : Script) (ports : Ports) {operation : Operation} {command : ApproveAndExecute}
    {intent : WorkManagementPreparedIntent} (approving : approves operation = some command)
    (pending : (run script).store.prepared[command.approval.preparedId]? = some intent)
    (fresh : (run script).store.idem[command.context.idempotencyId]? = none) :
    ((step (run script) ports operation).2.succeeded = true →
      Exact (run script).store ports command.approval intent) ∧
    (Changed (run script).store ports intent →
      (step (run script) ports operation).2.succeeded = false ∧
      (step (run script) ports operation).1.store.requests = (run script).store.requests ∧
      (step (run script) ports operation).1.store.actions = (run script).store.actions) := by
  obtain ⟨keyed, kept⟩ := pins_of_run (run_storeRun script)
  obtain ⟨identity, issued⟩ := approves_issue approving
  have shown : (step (run script) ports operation).2.succeeded = true →
      Exact (run script).store ports command.approval intent ∧ ¬ Changed (run script).store ports intent :=
    fun success => success_exact approving ⟨issued, fresh, success⟩ keyed kept pending
  refine ⟨fun success => (shown success).1, fun changed => ?_⟩
  have refused : (step (run script) ports operation).2.succeeded = false := by
    cases answer : (step (run script) ports operation).2.succeeded with
    | false => rfl
    | true => exact absurd changed (shown answer).2
  exact ⟨refused, refused_keeps approving refused⟩

open ActionStructure.Journey

theorem exact_approval_accepted : ∃ intent, (run offered).store.prepared[name .preparedIntent 2]? = some intent ∧
    Exact (run offered).store (ports 3 (evidence .confidential)) (approve 2 3 acceptDigest).approval intent := by
  have pending : ((run offered).store.prepared[name .preparedIntent 2]?).isSome = true := by decide +kernel
  obtain ⟨intent, found⟩ := Option.isSome_iff_exists.mp pending
  exact ⟨intent, found, (exact_approval offered (ports 3 (evidence .confidential))
    (rfl : approves acceptance = some (approve 2 3 acceptDigest)) found (by decide +kernel)).1 (by decide +kernel)⟩

def outdated : EvidenceReferenceMetadata :=
  { evidence .confidential with sourceVersion := version 1, verification := .unverified }

def EvidenceChanged (before after : Ports) (record : ActionRecord) : Prop :=
  ∃ id ∈ record.completionEvidence, before.resolve .command id ≠ after.resolve .command id

/-- Cancelling looks only at the classification of the evidence. -/
theorem cancel_ignores_verification :
    (∃ record, (run cancelOffered).store.actions[name .action 0]? = some record ∧
      EvidenceChanged (ports 6 (evidence .confidential)) (ports 7 outdated) record) ∧
    (step (run cancelOffered) (ports 7 outdated) cancellation).2.succeeded = true := by
  refine ⟨?_, by decide +kernel⟩
  have linked : (run cancelOffered).store.actions[name .action 0]?.map (·.completionEvidence) =
      some [name .evidenceReference 0] := by
    decide +kernel
  obtain ⟨record, found, listed⟩ := Option.map_eq_some_iff.mp linked
  refine ⟨record, found, name .evidenceReference 0, by simp [listed], ?_⟩
  show Except.ok (evidence .confidential) ≠ Except.ok outdated
  decide

end MissionControl.ExactApproval

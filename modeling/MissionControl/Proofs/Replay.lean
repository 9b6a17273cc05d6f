import MissionControl.Proofs.ActionStructure
import MissionControl.Proofs.Replaying

/-! A command is answered once. What the store remembers under an idempotency id
stays there until its own preview is discarded, so whatever happens in between, the
command gets its first answer again. -/

namespace MissionControl.Replay
open Actions

section
variable [Sha256] {ports : Ports} {store next : Store} {event : Event} {key : IdempotencyId} {stored : Stored}

/-- What a step does to what is remembered: one entry more, or the answer of a
discarded preview less. -/
inductive MemoryEffect (store next : Store) (event : Event) : Prop where
  | remembered {changed : Store} {context : ActionOperationContext} {signature : CommandIdentity}
      {result : StoredResult} {audits : List AuditEvent} :
      Recorded store changed context signature result audits next →
      (∀ failure, result = .terminal failure → failure.error.code = errorCode failure.cause) →
      MemoryEffect store next event
  | discarded {id : PreparedIntentId} {intent : WorkManagementPreparedIntent} :
      event = .operation (.discardPreparedIntent id) → store.prepared[id]? = some intent →
      next = (discardPreparedIntent store id).2 → MemoryEffect store next event

theorem StoreStep.memoryEffect (step : StoreStep ports store event next) : MemoryEffect store next event := by
  cases step with
  | created facts | started facts | linked facts | resulting facts | markedRequest facts | markedAction facts => exact .remembered facts.stored.recorded (fun _ same => nomatch same)
  | moved _ facts => exact .remembered facts.stored.recorded (fun _ same => nomatch same)
  | prepared _ facts | transitioned _ facts => exact .remembered facts.recorded (fun _ same => nomatch same)
  | accepted facts | lowered facts | rejected facts => exact .remembered facts.recorded (fun _ same => nomatch same)
  | failed _ facts =>
    refine .remembered facts.stored.recorded fun failure same => ?_
    cases same
    exact runtimeTarget_code _ _ _ _ _
  | denied _ _ facts =>
    refine .remembered facts.stored.recorded fun failure same => ?_
    cases same
    exact runtimeTarget_code _ _ _ _ _
  | discarded pending => exact .discarded rfl pending rfl

theorem TerminalsCoded.step (coded : TerminalsCoded store) (step : StoreStep ports store event next) :
    TerminalsCoded next := by
  intro key stored failure found result
  cases StoreStep.memoryEffect step with
  | remembered recorded shown =>
    rw [recorded.idem, KeyMap.get_insert] at found
    split at found
    · cases found
      exact shown failure result
    · exact coded found result
  | discarded _ pending became =>
    subst became
    obtain ⟨renumber, entries⟩ := discard_idem pending
    rw [entries, Option.map_eq_some_iff] at found
    obtain ⟨before, found, rfl⟩ := found
    exact coded (Option.eq_some_of_filter_eq_some found) result

theorem terminalsCoded_of_run {seen : List Label} (run : StoreRun .empty seen store) : TerminalsCoded store := by
  refine run.invariant TerminalsCoded (fun _ _ _ step coded => coded.step step) ?_
  intro key stored failure found
  simp [Store.empty] at found

def Holds (store : Store) (key : IdempotencyId) (signature : CommandIdentity) (result : StoredResult) : Prop :=
  ∃ stored, store.idem[key]? = some stored ∧ stored.signature = signature ∧ stored.result = result

def Forgets (result : StoredResult) (event : Event) : Prop :=
  ∃ id, event = .operation (.discardPreparedIntent id) ∧ result.holdsPrepared id = true

theorem Holds.step {signature : CommandIdentity} {result : StoredResult} (holds : Holds store key signature result)
    (step : StoreStep ports store event next) (kept : ¬ Forgets result event) : Holds next key signature result := by
  obtain ⟨stored, found, signed, held⟩ := holds
  cases StoreStep.memoryEffect step with
  | @remembered _ context _ _ _ recorded _ =>
    have other : context.idempotencyId ≠ key := by
      rintro rfl
      rw [recorded.fresh] at found
      cases found
    exact ⟨stored, by rw [recorded.idem, KeyMap.get_insert_other _ _ other, found], signed, held⟩
  | @discarded id _ discards pending became =>
    subst became
    obtain ⟨renumber, entries⟩ := discard_idem pending
    have other : stored.result.holdsPrepared id = false := by
      rw [held]
      exact Bool.eq_false_iff.mpr fun holds => kept ⟨id, discards, holds⟩
    exact ⟨{ stored with operationOrdinal := renumber stored.operationOrdinal }, by simp [entries, found, other],
      signed, held⟩

theorem Holds.of_run {signature : CommandIdentity} {result : StoredResult} {seen : List Label}
    (holds : Holds store key signature result) (run : StoreRun store seen next)
    (kept : ∀ label ∈ seen, ¬ Forgets result label.2) : Holds next key signature result := by
  refine run.invariantAlong (fun seen => ∀ label ∈ seen, ¬ Forgets result label.2)
    (fun _ store => Holds store key signature result) ?_ (fun _ _ _ holds => holds) ?_ kept holds
  · exact fun seen label kept other member => kept other (List.mem_append_left _ member)
  · exact fun seen label before after kept step holds => Holds.step holds step (kept label (by simp))

end

def preparedOf : Response → Option PreparedIntentId
  | .prepared (.ok intent) => some intent.id
  | _ => none

section
variable {operation : Operation} {response : Response}

theorem reply_prepared {result : StoredResult} {id : PreparedIntentId} (replied : operation.reply result = some response)
    (holds : result.holdsPrepared id = true) : preparedOf response = some id := by
  cases result <;> simp only [StoredResult.holdsPrepared, reduceCtorEq, beq_iff_eq] at holds
  subst holds
  cases operation <;> simp only [Operation.reply, Option.some.injEq, reduceCtorEq] at replied <;> subst replied <;> rfl

theorem reply_error {failure : ActionTerminalFailure} (replied : operation.reply (.terminal failure) = some response) :
    errorOf response = some failure.error := by
  cases operation <;> simp only [Operation.reply, Option.some.injEq, reduceCtorEq] at replied <;> subst replied <;> rfl

theorem mem_labels_discard {script : Script} {label : Label} {id : PreparedIntentId} (member : label ∈ labels script)
    (discards : label.2 = .operation (.discardPreparedIntent id)) :
    ∃ event ∈ script, event.2 = .discardPreparedIntent id := by
  obtain ⟨⟨ports, operation⟩, shown, labelled⟩ := List.mem_flatMap.mp member
  cases operation <;> simp only [Operation.labels, List.mem_map, List.mem_singleton] at labelled
  case commitDecisionStage =>
    obtain ⟨_, _, rfl⟩ := labelled
    cases discards
  all_goals
    subst labelled
    cases discards
  exact ⟨_, shown, rfl⟩

end

section
variable [Sha256]

inductive Resolves (service : Service) (ports : Ports) (operation : Operation) (issue : Issue) : Prop where
  | success : (step service ports operation).2.succeeded = true → Resolves service ports operation issue
  | recorded {stored : Stored} {failure : ActionTerminalFailure} : service.store.idem[issue.key]? = none →
      (step service ports operation).1.store.idem[issue.key]? = some stored → stored.result = .terminal failure →
      Resolves service ports operation issue

variable {service : Service} {ports : Ports} {operation : Operation} {issue : Issue}

theorem Resolves.remembered (resolves : Resolves service ports operation issue)
    (issued : operation.issue = some issue) (own : CallsOwnKind service.store operation) :
    ∃ stored, (step service ports operation).1.store.idem[issue.key]? = some stored ∧
      stored.signature.asIssued = issue.identity ∧
      operation.reply stored.result = some (step service ports operation).2 ∧
      (issue.approvalId ≠ issue.key →
        ∃ failure, stored.result = .terminal failure ∧ failure.cause = .idempotencyConflict) := by
  have successful : (step service ports operation).2.succeeded = true →
      ∃ stored, (step service ports operation).1.store.idem[issue.key]? = some stored ∧
        stored.signature.asIssued = issue.identity ∧
        operation.reply stored.result = some (step service ports operation).2 ∧
        (issue.approvalId ≠ issue.key →
          ∃ failure, stored.result = .terminal failure ∧ failure.cause = .idempotencyConflict) := by
    intro success
    obtain ⟨stored, found, signed, replied⟩ := (step_success issued success).remembered
    refine ⟨stored, found, signed, replied, fun misnamed => ?_⟩
    exact absurd success (Bool.not_eq_true _ ▸ misnamed_refused issued misnamed)
  cases resolves with
  | success success => exact successful success
  | recorded fresh found result =>
    cases refused : (step service ports operation).2.succeeded with
    | true => exact successful refused
    | false =>
      have refusal := step_refused issued own fresh refused found
      obtain ⟨stored, shown, signed, replied⟩ := refusal.remembered
      refine ⟨stored, shown, signed, replied, fun misnamed => ?_⟩
      obtain ⟨other, failure, known, terminal, conflict⟩ := refusal.misnamed misnamed
      cases shown.symm.trans known
      exact ⟨failure, terminal, conflict⟩

/-- Issued again under its id, the command gets its first outcome, and nothing changes;
another command under that id is refused as a conflict. -/
theorem resolved_once {earlier middle : Script} (issued : operation.issue = some issue)
    (own : CallsOwnKind (run earlier).store operation) (resolves : Resolves (run earlier) ports operation issue)
    (kept : ∀ event ∈ middle, ∀ id, preparedOf (step (run earlier) ports operation).2 = some id →
      event.2 ≠ .discardPreparedIntent id)
    {again : Operation} {reissue : Issue} (reissued : again.issue = some reissue) (sameKey : reissue.key = issue.key)
    (later : Ports) :
    (reissue.identity = issue.identity ∧ reissue.approvalId = issue.approvalId →
      step (run (earlier ++ (ports, operation) :: middle)) later again =
        (run (earlier ++ (ports, operation) :: middle), (step (run earlier) ports operation).2)) ∧
    (reissue.identity ≠ issue.identity ∨ reissue.approvalId ≠ issue.approvalId →
      Conflicts (run (earlier ++ (ports, operation) :: middle))
        (step (run (earlier ++ (ports, operation) :: middle)) later again)) := by
  obtain ⟨stored, found, signed, replied, misnaming⟩ := resolves.remembered issued own
  have onwards := run_onwards (earlier ++ [(ports, operation)]) middle
  rw [run_snoc, List.append_assoc, List.singleton_append] at onwards
  have holds : Holds (step (run earlier) ports operation).1.store issue.key stored.signature stored.result :=
    ⟨stored, found, rfl, rfl⟩
  obtain ⟨present, known, sameSignature, sameResult⟩ := holds.of_run onwards fun label member forgets => by
    obtain ⟨id, discards, held⟩ := forgets
    obtain ⟨event, shown, discarding⟩ := mem_labels_discard member discards
    exact kept event shown id (reply_prepared replied held) discarding
  have coded : TerminalsCoded (run (earlier ++ (ports, operation) :: middle)).store :=
    terminalsCoded_of_run (run_storeRun _)
  rw [← sameSignature] at signed
  rw [← sameResult] at replied misnaming
  rw [← sameKey] at known misnaming
  generalize run (earlier ++ (ports, operation) :: middle) = reached at known coded ⊢
  have remembers : reissue.identity = issue.identity →
      Remembers reached.store again reissue (step (run earlier) ports operation).2 := by
    intro same
    refine ⟨present, known, same ▸ signed, ?_⟩
    rw [reply_eq reissued, same, ← reply_eq issued, replied]
  constructor
  · rintro ⟨same, alike⟩
    by_cases named : reissue.approvalId = reissue.key
    · exact step_remembered reissued named (remembers same)
    · obtain ⟨failure, terminal, conflict⟩ := misnaming (alike ▸ named)
      obtain ⟨_, shown, _, replies⟩ := remembers same
      cases known.symm.trans shown
      exact step_misnamed reissued named known terminal conflict replies
  · intro different
    by_cases misnamed : reissue.approvalId ≠ reissue.key
    · exact step_conflict reissued coded known (.inr misnamed)
    by_cases same : reissue.identity = issue.identity
    · -- the first approval was misnamed, so the conflict it was refused with is shown again
      have named : reissue.approvalId = reissue.key := not_not.mp misnamed
      have other := different.resolve_left (not_not.mpr same)
      obtain ⟨failure, terminal, conflict⟩ := misnaming fun alike => other (named.trans alike.symm)
      rw [step_remembered reissued named (remembers same)]
      refine ⟨rfl, failure.error, reply_error (terminal ▸ replied), ?_⟩
      rw [coded known terminal, conflict]
      rfl
    · exact step_conflict reissued coded known (.inl fun equal => same (equal.symm.trans signed))

end

open ActionStructure.Journey

/-- An acceptance that took effect is answered alike after the Action has started. -/
theorem resolved_once_accepted :
    step (run (accepted ++ [start])) (ports 6 (evidence .confidential)) acceptance =
      (run (accepted ++ [start]), (step (run offered) (ports 3 (evidence .confidential)) acceptance).2) := by
  have own : CallsOwnKind (run offered).store acceptance := by
    intro kind command called _ _
    cases called
    decide +kernel
  have kept : ∀ event ∈ [start], ∀ id, preparedOf (step (run offered) (ports 3 (evidence .confidential)) acceptance).2 =
      some id → event.2 ≠ .discardPreparedIntent id := by simp [start]
  exact (resolved_once rfl own (.success (by decide +kernel)) kept rfl rfl _).1 ⟨rfl, rfl⟩

def misdirected : Operation := .approveAndExecuteCancelAction (approve 2 3 acceptDigest)

def shownError : StoredResult → Option DomainError
  | .terminal failure => some failure.error
  | _ => none

/-- The failure is recorded and shown, but under an acceptance: the same approval
issued again is refused as a conflict. -/
theorem misdirected_forgotten :
    ((step (run offered) (ports 3 (evidence .confidential)) misdirected).1.store.answer
        (context 3).idempotencyId).bind shownError =
      errorOf (step (run offered) (ports 3 (evidence .confidential)) misdirected).2 ∧
    (errorOf (step (run offered) (ports 3 (evidence .confidential)) misdirected).2).map (·.code) =
      some .securityPreviewExpiredOrChanged ∧
    (errorOf (step (run (offered ++ [(ports 3 (evidence .confidential), misdirected)]))
      (ports 4 (evidence .confidential)) misdirected).2).map (·.code) = some .domainIdempotencyConflict := by
  decide +kernel

end MissionControl.Replay

import MissionControl.Actions.Transitions
import Mathlib.Data.List.Induction

/-! Every operation of the service changes its store in one step at most, but for
the commit of a Decision, which takes the steps it staged. So a run of the service
is a run of the store. -/

namespace MissionControl.Actions
open Checked

section
variable {Outcome : Type} {service later : Service} {cause : Except ActionServiceError (Staged Outcome)}

theorem settle_ok {outcome : Outcome} (settled : settle service cause = (later, .ok outcome)) :
    (cause = .ok (.replayed outcome) ∧ later = service) ∨
    ∃ next, (cause = .ok (.committed outcome next) ∨ cause = .ok (.placed outcome next)) ∧ later.store = next := by
  unfold settle at settled
  split at settled
  · cases settled
  · cases settled; exact .inl ⟨rfl, rfl⟩
  · cases settled; exact .inr ⟨_, .inr rfl, rfl⟩
  · split at settled
    · cases settled
    · cases settled; exact .inr ⟨_, .inl rfl, rfl⟩

theorem settle_error {failure : ActionServiceError} (settled : settle service cause = (later, .error failure)) :
    later.store = service.store ∧ (cause = .error failure ∨
      failure = .infrastructureFailure ∧ ∃ outcome next, cause = .ok (.committed outcome next)) := by
  unfold settle at settled
  split at settled
  · cases settled; exact ⟨rfl, .inl rfl⟩
  · cases settled
  · cases settled
  · split at settled
    · cases settled; exact ⟨rfl, .inr ⟨rfl, _, _, rfl⟩⟩
    · cases settled

theorem settle_store (service : Service) (cause : Except ActionServiceError (Staged Outcome)) :
    (settle service cause).1.store = service.store ∨
    ∃ outcome next, (cause = .ok (.committed outcome next) ∨ cause = .ok (.placed outcome next)) ∧
      (settle service cause).1.store = next := by
  rcases settled : settle service cause with ⟨later, outcome | outcome⟩
  · exact .inl (settle_error settled).1
  · rcases settle_ok settled with ⟨_, rfl⟩ | ⟨next, staged, same⟩
    · exact .inl rfl
    · exact .inr ⟨outcome, next, staged, same⟩

@[simp] theorem report_store {context : ActionOperationContext} {target : ErrorTarget}
    (settled : Service × Except ActionServiceError Outcome) : (report context target settled).1 = settled.1 := by
  rcases settled with ⟨later, _ | _⟩ <;> rfl

end

def Stepped [Sha256] (service : Service) (ports : Ports) (operation : Operation) (later : Service) : Prop :=
  later.store = service.store ∨ StoreStep ports service.store (.operation operation) later.store

theorem prepareStored_error {store : Store} {context : ActionOperationContext} {signature : CommandIdentity}
    {preview : Except ActionServiceError WorkManagementPreparedIntent} {outcome : WorkManagementPreparedIntent}
    {next : Store} (success : prepareStored store context signature preview = .ok (.committed outcome next)) : False := by
  rcases orReplay_ok.mp success with ⟨_, _, same⟩ | ⟨_, placed⟩
  · cases same
  · simp only [storePrepared, bind_ok, pure_ok] at placed
    obtain ⟨_, _, _, _, same⟩ := placed
    cases same

section
variable [Sha256] {service : Service} {ports : Ports} {operation : Operation}

theorem stepped_of_settle {Outcome : Type} {cause : Except ActionServiceError (Staged Outcome)}
    (steps : ∀ staged, cause = .ok staged → (∃ outcome, staged = .replayed outcome) ∨
      ∃ outcome next, (staged = .committed outcome next ∨ staged = .placed outcome next) ∧
        StoreStep ports service.store (.operation operation) next) :
    Stepped service ports operation (settle service cause).1 := by
  refine (settle_store service cause).imp id ?_
  rintro ⟨outcome, next, staged, same⟩
  rw [same]
  rcases staged with staged | staged
  all_goals
    rcases steps _ staged with ⟨_, replayed⟩ | ⟨_, _, placed | committed, step⟩
    · cases replayed
    · cases placed <;> exact step
    · cases committed <;> exact step

theorem moved_step (change : RequestTransition) (moves : operation.transition = some change) :
    Stepped service ports operation (settle service (requestTransition service.store ports change.requestId
      change.expectedVersion change.reason change.source change.target change.context)).1 := by
  refine stepped_of_settle fun staged success => ?_
  rcases requestTransition_ok success with ⟨outcome, _, same⟩ | ⟨record, later, event, next, same, facts⟩
  · exact .inl ⟨outcome, same⟩
  · exact .inr ⟨_, next, .inl same, .moved moves facts⟩

variable {preview : Except ActionServiceError WorkManagementPreparedIntent}

theorem prepared_step {context : ActionOperationContext} {signature : CommandIdentity}
    (prepares : operation.preparing = some (context, signature))
    (derives : ∀ intent, preview = .ok intent → Preparation service.store ports signature intent) :
    Stepped service ports operation (settle service (prepareStored service.store context signature preview)).1 := by
  refine stepped_of_settle fun staged success => ?_
  rcases prepareStored_ok derives success with ⟨outcome, _, same⟩ | ⟨intent, next, same, facts⟩
  · exact .inl ⟨outcome, same⟩
  · exact .inr ⟨_, next, .inr same, .prepared prepares facts⟩

theorem denied_step {deniable : Deniable} {cause : ActionServiceError}
    (denies : operation.deniable service.store ports = some deniable) (failed : deniable.attempt = .error cause)
    {shown : Service} (same : shown.store = service.store) :
    Stepped service ports operation
      (denied shown ports deniable.actionId deniable.context deniable.signature cause).1 := by
  unfold denied
  rw [same]
  split
  next isDenial =>
    dsimp only
    have recorded : Stepped service ports operation (settle shown (recordH3Denial service.store ports
        deniable.actionId deniable.context deniable.signature
        (h3TerminalServiceCause (h3DenialCauseForAction service.store ports deniable.actionId cause))
        (h3DenialCauseForAction service.store ports deniable.actionId cause))).1 := by
      rcases settle_store shown (recordH3Denial service.store ports deniable.actionId deniable.context
          deniable.signature (h3TerminalServiceCause (h3DenialCauseForAction service.store ports deniable.actionId
            cause)) (h3DenialCauseForAction service.store ports deniable.actionId cause))
        with unchanged | ⟨_, next, staged | staged, became⟩
      · exact .inl (unchanged.trans same)
      all_goals
        rcases recordH3Denial_ok isDenial staged with replayed | ⟨_, _, _, committed, facts⟩
        · cases replayed
        · cases committed <;> exact .inr (became ▸ .denied denies failed facts)
    split
    next outcome => rw [outcome] at recorded; exact recorded
    next outcome => rw [outcome] at recorded; exact recorded
  · exact .inl same

theorem prepareActionTransition_step (deniable : Deniable)
    (denies : operation.deniable service.store ports = some deniable)
    (prepares : operation.preparing = some (deniable.context, deniable.signature))
    (attempts : deniable.attempt = prepareStored service.store deniable.context deniable.signature preview)
    (derives : ∀ intent, preview = .ok intent → Preparation service.store ports deniable.signature intent) :
    Stepped service ports operation (prepareActionTransition service ports deniable.actionId deniable.context
      deniable.signature deniable.attempt).1 := by
  unfold prepareActionTransition
  split
  · exact .inl rfl
  · exact .inl rfl
  · have placed : Stepped service ports operation _ := prepared_step prepares derives
    rw [← attempts] at placed
    split
    next settled => rw [settled] at placed; exact placed
    next settled =>
      obtain ⟨same, failed | ⟨_, _, _, committed⟩⟩ := settle_error settled
      · exact denied_step denies failed same
      · exact (prepareStored_error (attempts ▸ committed)).elim

variable {command : ApproveAndExecute}

theorem failedActionExecution_step {Outcome : Type} {cause : ActionServiceError} {shown : Service}
    (same : shown.store = service.store)
    (fails : ApprovalFails service.store ports cause operation command ∨ cause = .infrastructureFailure) :
    Stepped service ports operation (failedActionExecution shown ports command cause : Service × Except DomainError Outcome).1 := by
  have recorded : Stepped service ports operation
      (settle shown (failureRecording shown.store ports command cause)).1 := by
    rw [same]
    rcases settle_store shown (failureRecording service.store ports command cause)
      with unchanged | ⟨_, next, staged | staged, became⟩
    · exact .inl (unchanged.trans same)
    all_goals
      rcases failureRecording_ok staged with replayed | ⟨_, _, _, _, _, committed, facts⟩
      · cases replayed
      · rcases fails with fails | rfl
        · cases committed <;> exact .inr (became ▸ .failed fails facts)
        · rcases facts.kept with ⟨impossible, _⟩ | ⟨impossible, _⟩ <;> cases impossible
  unfold failedActionExecution
  split
  next outcome => rw [outcome] at recorded; exact recorded
  next outcome => rw [outcome] at recorded; exact recorded

theorem execute_step {Outcome : Type} {cause : Except ActionServiceError (Staged Outcome)}
    (steps : ∀ staged, cause = .ok staged → (∃ outcome, staged = .replayed outcome) ∨
      ∃ outcome next, (staged = .committed outcome next ∨ staged = .placed outcome next) ∧
        StoreStep ports service.store (.operation operation) next)
    (fails : ∀ failure, cause = .error failure → ApprovalFails service.store ports failure operation command) :
    Stepped service ports operation (execute service ports command cause).1 := by
  have stepped : Stepped service ports operation (settle service cause).1 := stepped_of_settle steps
  unfold execute
  split
  next settled => rw [settled] at stepped; exact stepped
  next settled =>
    obtain ⟨same, failed | ⟨failed, _⟩⟩ := settle_error settled
    · exact failedActionExecution_step same (.inl (fails _ failed))
    · exact failedActionExecution_step same (.inr failed)

theorem executeH2_step {kind : PreparedActionTransitionKind} (executes : operation.executing = some (kind, command)) :
    Stepped service ports operation
      (execute service ports command (executeH2 service.store ports kind command)).1 := by
  refine execute_step (fun staged success => ?_) fun failure failed => .transition executes failed
  rcases executeH2_ok success with ⟨outcome, _, same⟩ | ⟨_, _, _, _, _, _, _, _, _, next, same, facts⟩
  · exact .inl ⟨outcome, same⟩
  · exact .inr ⟨_, next, .inl same, .transitioned executes facts⟩

theorem step_store (operation : Operation) (single : ∀ commands, operation ≠ .commitDecisionStage commands) :
    Stepped service ports operation (step service ports operation).1 := by
  cases operation with
  | createActionRequestDraft command =>
    simp only [step, createActionRequestDraft, Prod.map_fst, id, report_store]
    refine stepped_of_settle fun staged success => ?_
    rcases createActionRequestDraftCause_ok success with ⟨outcome, _, same⟩ | ⟨event, next, same, facts⟩
    · exact .inl ⟨outcome, same⟩
    · exact .inr ⟨_, next, .inl same, .created facts⟩
  | submitActionRequest command =>
    simp only [step, submitActionRequest, Prod.map_fst, id, report_store]
    exact moved_step ⟨command.requestId, command.expectedVersion, none, .draft, .open, command.context⟩ rfl
  | declineActionRequest command =>
    simp only [step, declineActionRequest, Prod.map_fst, id, report_store]
    exact moved_step ⟨command.requestId, command.expectedVersion, some command.rationale, .open, .declined,
      command.context⟩ rfl
  | withdrawActionRequest command =>
    simp only [step, withdrawActionRequest, Prod.map_fst, id, report_store]
    exact moved_step ⟨command.requestId, command.expectedVersion, some command.rationale, .open, .withdrawn,
      command.context⟩ rfl
  | startAction command =>
    simp only [step, startAction, Prod.map_fst, id, report_store]
    refine stepped_of_settle fun staged success => ?_
    rcases startActionCause_ok success with ⟨outcome, _, same⟩ | ⟨_, _, _, next, same, facts⟩
    · exact .inl ⟨outcome, same⟩
    · exact .inr ⟨_, next, .inl same, .started facts⟩
  | linkActionCompletionEvidence command =>
    simp only [step, linkActionCompletionEvidence, Prod.map_fst, id, report_store]
    refine stepped_of_settle fun staged success => ?_
    rcases linkActionCompletionEvidenceCause_ok success with ⟨outcome, _, same⟩ | ⟨_, _, _, _, next, same, facts⟩
    · exact .inl ⟨outcome, same⟩
    · exact .inr ⟨_, next, .inl same, .linked facts⟩
  | prepareAcceptActionRequest command =>
    simp only [step, prepareAcceptActionRequest, Prod.map_fst, id, report_store]
    exact prepared_step rfl fun intent success => .accept success
  | prepareCompleteAction command =>
    simp only [step, prepareCompleteAction, Prod.map_fst, id]
    exact prepareActionTransition_step
      ⟨command.actionId, command.context, command.identity, prepareCompleteActionCause service.store ports command⟩
      rfl rfl rfl fun intent success => .complete success
  | prepareCancelAction command =>
    simp only [step, prepareCancelAction, Prod.map_fst, id]
    exact prepareActionTransition_step
      ⟨command.actionId, command.context, command.identity, prepareCancelActionCause service.store ports command⟩
      rfl rfl rfl fun intent success => .cancel success
  | prepareReopenAction command =>
    simp only [step, prepareReopenAction, Prod.map_fst, id]
    exact prepareActionTransition_step
      ⟨command.actionId, command.context, command.identity, prepareReopenActionCause service.store ports command⟩
      rfl rfl rfl fun intent success => .reopen success
  | prepareLowerActionClassification command =>
    simp only [step, prepareLowerActionClassification, Prod.map_fst, id]
    exact prepareActionTransition_step
      ⟨command.actionId, command.context, command.identity, prepareLowerActionClassificationCause service.store ports command⟩
      rfl rfl rfl fun intent success => .lower success
  | approveAndExecuteAcceptActionRequest command =>
    refine execute_step (fun staged success => ?_) fun failure failed => .accept failed
    rcases approveAndExecuteAcceptActionRequestCause_ok success
      with ⟨outcome, _, same⟩ | ⟨_, _, _, _, _, _, _, _, next, same, facts⟩
    · exact .inl ⟨outcome, same⟩
    · exact .inr ⟨_, next, .inl same, .accepted facts⟩
  | approveAndExecuteCompleteAction command => exact executeH2_step rfl
  | approveAndExecuteCancelAction command => exact executeH2_step rfl
  | approveAndExecuteReopenAction command => exact executeH2_step rfl
  | approveAndExecuteLowerActionClassification command =>
    simp only [step, approveAndExecuteLowerActionClassification, Prod.map_fst, id, report_store]
    refine stepped_of_settle fun staged success => ?_
    rcases approveAndExecuteLowerActionClassificationCause_ok success
      with ⟨outcome, _, same⟩ | ⟨_, _, _, _, _, _, next, same, facts⟩
    · exact .inl ⟨outcome, same⟩
    · exact .inr ⟨_, next, .inl same, .lowered facts⟩
  | rejectActionPreparedIntent command =>
    simp only [step, rejectActionPreparedIntent, Prod.map_fst, id, report_store]
    refine stepped_of_settle fun staged success => ?_
    rcases rejectActionPreparedIntentCause_ok success with ⟨outcome, _, same⟩ | ⟨_, _, _, _, next, same, facts⟩
    · exact .inl ⟨outcome, same⟩
    · exact .inr ⟨_, next, .inl same, .rejected facts⟩
  | discardPreparedIntent id =>
    cases pending : service.store.prepared[id]? with
    | none => exact .inl (by simp [step, discardPreparedIntent, pending])
    | some intent => exact .inr (.discarded pending)
  | commitDecisionStage commands => exact absurd rfl (single commands)
  | injectNextCommitFailure => exact .inl rfl

theorem stageDecisionCommand_step (store : Store) (ports : Ports) (command : DecisionStageCommand) :
    store = stageDecisionCommand store ports command ∨
      StoreStep ports store (.staged command) (stageDecisionCommand store ports command) := by
  cases command with
  | createResultingActionRequest spec sourceDecisionId decidedClassification context =>
    simp only [stageDecisionCommand]
    rcases attempt : createResultingActionRequestFromDecisionTransition store ports spec sourceDecisionId
        decidedClassification context with failure | staged
    · exact .inl rfl
    · rcases createResultingActionRequestFromDecisionTransition_ok attempt with ⟨_, rfl⟩ | ⟨_, _, _, rfl, facts⟩
      · exact .inl rfl
      · exact .inr (.resulting facts)
  | markActionRequestSupersededPremise id expectedVersion sourceDecisionId decidedClassification context =>
    simp only [stageDecisionCommand]
    rcases attempt : markActionRequestSupersededPremiseFromDecision store ports id expectedVersion sourceDecisionId
        decidedClassification context with failure | staged
    · exact .inl rfl
    · rcases markActionRequestSupersededPremiseFromDecision_ok attempt with ⟨_, rfl⟩ | ⟨_, _, _, _, _, rfl, facts⟩
      · exact .inl rfl
      · exact .inr (.markedRequest facts)
  | markActionSupersededPremise id expectedVersion sourceDecisionId decidedClassification context =>
    simp only [stageDecisionCommand]
    rcases attempt : markActionSupersededPremiseFromDecision store ports id expectedVersion sourceDecisionId
        decidedClassification context with failure | staged
    · exact .inl rfl
    · rcases markActionSupersededPremiseFromDecision_ok attempt with ⟨_, rfl⟩ | ⟨_, _, _, _, _, rfl, facts⟩
      · exact .inl rfl
      · exact .inr (.markedAction facts)

end

/-- What may change the store, with the ports it asks. -/
abbrev Label := Ports × Event

def LabelStep [Sha256] (label : Label) (before after : Store) : Prop := StoreStep label.1 before label.2 after

def Operation.labels (ports : Ports) : Operation → List Label
  | .commitDecisionStage commands => commands.map fun command => (command.1, .staged command.2)
  | operation => [(ports, .operation operation)]

def labels (script : Script) : List Label := script.flatMap fun event => event.2.labels event.1

abbrev StoreRun [Sha256] (start : Store) (seen : List Label) (later : Store) : Prop :=
  Run.Evolves LabelStep start seen later

variable [Sha256]

theorem idles (store : Store) (seen : List Label) : StoreRun store seen store := by
  induction seen using List.reverseRecOn with
  | nil => exact .start
  | append_singleton _ label rest => exact .idle label rest

theorem commands_run (commands : List (Ports × DecisionStageCommand)) (store : Store) :
    StoreRun store (commands.map fun command => (command.1, .staged command.2))
      (commands.foldl (fun stage command => stageDecisionCommand stage command.1 command.2) store) := by
  induction commands generalizing store with
  | nil => exact .start
  | cons command commands rest =>
    exact .trans (.single (stageDecisionCommand_step store command.1 command.2)) (rest _)

theorem step_run (service : Service) (ports : Ports) (operation : Operation) :
    StoreRun service.store (operation.labels ports) (step service ports operation).1.store := by
  cases operation with
  | commitDecisionStage commands =>
    simp only [step, commitDecisionStage, settle, Prod.map_fst, id, Operation.labels]
    split
    · exact idles _ _
    · exact commands_run commands service.store
  | _ => exact .single ((step_store _ fun _ => Operation.noConfusion).imp Eq.symm id)

theorem runFrom_run (script : Script) (service : Service) :
    StoreRun service.store (labels script) (runFrom service script).store := by
  induction script generalizing service with
  | nil => exact .start
  | cons event script rest => exact .trans (step_run service event.1 event.2) (rest _)

theorem run_storeRun (script : Script) : StoreRun .empty (labels script) (run script).store :=
  runFrom_run script .new

theorem runFrom_append (service : Service) (first second : Script) :
    runFrom service (first ++ second) = runFrom (runFrom service first) second :=
  List.foldl_append

theorem run_onwards (first second : Script) :
    StoreRun (run first).store (labels second) (run (first ++ second)).store := by
  have onwards := runFrom_run second (run first)
  rwa [run, ← runFrom_append] at onwards

@[simp] theorem run_snoc (script : Script) (event : Ports × Operation) :
    run (script ++ [event]) = (step (run script) event.1 event.2).1 :=
  runFrom_append .new script [event]

omit [Sha256] in
theorem labels_append (first second : Script) : labels (first ++ second) = labels first ++ labels second :=
  List.flatMap_append

end MissionControl.Actions

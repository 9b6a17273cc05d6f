import MissionControl.Decisions.Stages
import MissionControl.Decisions.Steps

/-! The Decision service and the Action service it decides about, from the start. A
Decision's stage reaches the Action store only through the Decision service. -/

namespace MissionControl.Decisions
open Checked
open Actions (DecisionStageCommand StoreStep StoreRun Keyed Passed stageDecisionCommand
  stageDecisionCommand_step)

structure Services where
  decisions : Service
  actions : Actions.Service

def Services.new : Services := ⟨.new, .new⟩

/-- An operation of either service, with what its surroundings answer. -/
inductive Event where
  | decision (ports : Ports) (actionPorts : Nat → Actions.Ports) (operation : Operation)
  | action (ports : Actions.Ports) (operation : Actions.Operation)
      (outside : ∀ commands, operation ≠ .commitDecisionStage commands)

variable [Sha256]

def act (services : Services) : Event → Services
  | .decision ports actionPorts operation =>
    let after := (step services.decisions services.actions ports actionPorts operation).1
    ⟨after.1, after.2⟩
  | .action ports operation _ => { services with actions := (Actions.step services.actions ports operation).1 }

def runPair (script : List Event) : Services := script.foldl act .new

theorem runPair_snoc (script : List Event) (event : Event) :
    runPair (script ++ [event]) = act (runPair script) event := by
  simp [runPair]

theorem stageAll_answers {commands : List (Actions.Ports × DecisionStageCommand)} {stage next : Actions.Store}
    (success : stageAll stage commands = .ok next) {key : IdempotencyId} {stored : Actions.Stored}
    (held : next.idem[key]? = some stored) (decision : stored.signature.ofDecision = true) :
    (∃ before, stage.idem[key]? = some before ∧ before.signature = stored.signature) ∨
    ∃ command ∈ commands, stored.signature = command.2.identity := by
  induction commands generalizing stage with
  | nil =>
    cases success
    exact .inl ⟨stored, held, rfl⟩
  | cons command commands ih =>
    obtain ⟨between, first, rest⟩ := bind_ok.mp success
    rcases ih rest with ⟨before, found, same⟩ | ⟨other, member, own⟩
    · obtain ⟨became, _⟩ := stageCommand_ok first
      rcases stageDecisionCommand_step stage command.1 command.2 with unchanged | step
      · exact .inl ⟨before, by rw [unchanged, became, found], same⟩
      · rw [became] at step
        rcases step.answer_origin found (same ▸ decision) with ⟨earlier, there, alike⟩ | ⟨issued, event, own⟩
        · exact .inl ⟨earlier, there, alike.trans same⟩
        · cases event
          exact .inr ⟨command, List.mem_cons_self, same.symm.trans own⟩
    · exact .inr ⟨other, List.mem_cons_of_mem _ member, own⟩

/-- A Decision's operation stages commands that create requests for one Decision only,
which is there afterwards, or leaves the Action store alone. -/
inductive Stages (before after : Actions.Store) (later : Store) : Prop where
  | kept (same : after = before)
  | staged (decisionId : DecisionId) (record : DecisionRecord) (commands : List (Actions.Ports × DecisionStageCommand))
      (success : stageAll before commands = .ok after) (made : later.decisions[decisionId]? = some record)
      (own : ∀ command ∈ commands, ∀ spec source classification,
        command.2.identity = .createRequestFromDecision spec source classification → source = decisionId)

variable {classification : DataClassification} {context : DecisionOperationContext}

theorem creations_own {kind : String} {decisionId : DecisionId} {specs : List DecisionResultingActionRequest}
    {command : DecisionStageCommand} (member : command ∈ creations context kind decisionId classification specs) :
    ∃ spec ∈ specs, ∃ own, command = .createResultingActionRequest spec decisionId classification own := by
  obtain ⟨⟨spec, index⟩, listed, rfl⟩ := List.mem_map.mp member
  exact ⟨spec, (List.mem_zipIdx' listed).2 ▸ List.getElem_mem _, _, rfl⟩

theorem markings_own {oldId : DecisionId} {offset : Nat} {work : List IncompleteDownstreamWork}
    {command : DecisionStageCommand} (member : command ∈ markings context oldId classification offset work) :
    ∃ item ∈ work, ∃ index, command = marking context oldId classification index item := by
  obtain ⟨⟨item, index⟩, listed, rfl⟩ := List.mem_map.mp member
  exact ⟨item, (List.mem_zipIdx listed).2.2 ▸ List.getElem_mem _, index, rfl⟩

variable {actionPorts : Nat → Actions.Ports}

omit [Sha256] in
theorem answered_own {commands : List DecisionStageCommand} {command : Actions.Ports × DecisionStageCommand}
    (member : command ∈ answered actionPorts commands) : command.2 ∈ commands := by
  obtain ⟨⟨issued, index⟩, listed, rfl⟩ := List.mem_map.mp member
  exact (List.mem_zipIdx' listed).2 ▸ List.getElem_mem _

variable {intent : WorkManagementPreparedIntent}

theorem Resolves.stages {state : Store} {actions : Actions.Store} {command : ApproveAndExecute} {target : ResolveTarget}
    {request : DecisionRequestRecord} {support : SupportWitness} {later : AggregateVersion}
    {outcome : ResolvedDecisionOutcome} {next : Pair}
    (resolves : Resolves state actions actionPorts command intent target request support later outcome next) :
    Stages actions next.actions next.decisions := by
  refine .staged target.decisionId (target.decision intent.preview.classification support) _ resolves.staged ?_ ?_
  · rw [resolves.becomes]
    exact KeyMap.get_insert_self ..
  · intro command member spec source classification issued
    obtain ⟨_, _, _, same⟩ := creations_own (answered_own member)
    rw [same] at issued
    cases issued
    rfl

theorem Supersedes.stages {state : Store} {actions : Actions.Store} {command : ApproveAndExecute}
    {target : SupersedeTarget} {old : DecisionRecord} {support : SupportWitness} {later : AggregateVersion}
    {outcome : SupersededDecisionOutcome} {next : Pair}
    (supersedes : Supersedes state actions actionPorts command intent target old support later outcome next) :
    Stages actions next.actions next.decisions := by
  refine .staged target.newId (target.replacement intent.preview.classification support) _ supersedes.staged ?_ ?_
  · rw [supersedes.becomes]
    exact KeyMap.get_insert_self ..
  · intro command member spec source classification issued
    rcases List.mem_append.mp (answered_own member) with created | marked
    · obtain ⟨_, _, _, same⟩ := creations_own created
      rw [same] at issued
      cases issued
      rfl
    · obtain ⟨item, _, _, same⟩ := markings_own marked
      rw [same] at issued
      cases item <;> cases issued

theorem step_stages (service : Service) (actions : Actions.Service) (ports : Ports)
    (actionPorts : Nat → Actions.Ports) (operation : Operation) :
    Stages actions.store (step service actions ports actionPorts operation).1.2.store
      (step service actions ports actionPorts operation).1.1.state := by
  cases operation with
  | approveAndExecuteResolveDecisionRequest command =>
    rcases settleApproval_cases service actions ports command
      (executeResolve service.state actions.store ports actionPorts command) with
      ⟨later, given, error, settled, _, same⟩ | ⟨outcome, _, settled⟩ | ⟨staged, next, success, target, settled⟩
    all_goals simp only [step, approveAndExecuteResolveDecisionRequest, settled, Prod.map_fst, id_eq]
    · exact .kept same
    · exact .kept rfl
    · rcases executeResolve_ok success with ⟨_, rfl⟩ | ⟨_, _, _, _, _, _, _, rfl, resolves⟩
      · cases target
      · cases target
        exact resolves.stages
  | approveAndExecuteSupersedeDecision command =>
    rcases settleApproval_cases service actions ports command
      (executeSupersede service.state actions.store ports actionPorts command) with
      ⟨later, given, error, settled, _, same⟩ | ⟨outcome, _, settled⟩ | ⟨staged, next, success, target, settled⟩
    all_goals simp only [step, approveAndExecuteSupersedeDecision, settled, Prod.map_fst, id_eq]
    · exact .kept same
    · exact .kept rfl
    · rcases executeSupersede_ok success with ⟨_, rfl⟩ | ⟨_, _, _, _, _, _, _, rfl, supersedes⟩
      · cases target
      · cases target
        exact supersedes.stages
  | _ => exact .kept rfl

omit [Sha256] in
theorem Effect.keeps {before after : Store} (effect : Effect before after) {id : DecisionId} {record : DecisionRecord}
    (held : before.decisions[id]? = some record) : ∃ later, after.decisions[id]? = some later := by
  have inserted (decisions : KeyMap DecisionId DecisionRecord) (other : DecisionId) (added : DecisionRecord)
      (held : ∃ later, decisions[id]? = some later) : ∃ later, (decisions.insert other added)[id]? = some later := by
    by_cases same : other = id
    · exact ⟨added, by rw [same, KeyMap.get_insert_self]⟩
    · rw [KeyMap.get_insert_other _ _ same]
      exact held
  cases effect with
  | kept _ decisions => exact ⟨record, decisions ▸ held⟩
  | created _ _ _ _ decisions => exact ⟨record, decisions ▸ held⟩
  | moved _ _ _ _ _ _ _ _ decisions => exact ⟨record, decisions ▸ held⟩
  | resolved _ _ _ _ _ _ _ _ _ decisions =>
    rw [decisions]
    exact inserted _ _ _ ⟨record, held⟩
  | superseded _ _ _ _ _ _ _ _ _ decisions =>
    rw [decisions]
    exact inserted _ _ _ (inserted _ _ _ ⟨record, held⟩)
  | lowered _ _ _ _ _ _ decisions =>
    rw [decisions]
    exact inserted _ _ _ ⟨record, held⟩

/-- What holds of both services together. -/
structure Joined (services : Services) : Prop where
  keyed : Keyed services.actions.store
  passed : Passed services.actions.store
  made : ∀ {key : IdempotencyId} {stored spec source classification},
    services.actions.store.idem[key]? = some stored →
    stored.signature = .createRequestFromDecision spec source classification →
    ∃ record, services.decisions.state.decisions[source]? = some record

theorem Joined.run {before : Services} (joined : Joined before) (after : Services) {seen : List Actions.Label}
    (run : StoreRun before.actions.store seen after.actions.store) :
    Keyed after.actions.store ∧ Passed after.actions.store := by
  refine Run.Evolves.invariant (fun reached => Keyed reached ∧ Passed reached) ?_ run ⟨joined.keyed, joined.passed⟩
  intro label before after step ⟨keyed, passed⟩
  exact ⟨keyed.step step, passed.step keyed step⟩

theorem Joined.after {services : Services} (joined : Joined services) (event : Event) :
    Joined (act services event) := by
  cases event with
  | action ports operation outside =>
    obtain ⟨keyed, passed⟩ := joined.run (act services (.action ports operation outside))
      (Actions.step_run services.actions ports operation)
    refine ⟨keyed, passed, ?_⟩
    intro key stored spec source classification held signed
    have stepped : Actions.Stepped services.actions ports operation (Actions.step services.actions ports operation).1 :=
      Actions.step_store operation outside
    rcases stepped with same | step
    · exact joined.made (by rw [← same]; exact held) signed
    · rcases step.answer_origin held (by rw [signed]; rfl) with ⟨before, found, same⟩ | ⟨_, impossible, _⟩
      · exact joined.made found (same.trans signed)
      · cases impossible
  | decision ports actionPorts operation =>
    have effect := step_effect services.decisions services.actions ports actionPorts operation
    cases step_stages services.decisions services.actions ports actionPorts operation with
    | kept same =>
      refine ⟨by rw [act, same]; exact joined.keyed, by rw [act, same]; exact joined.passed, ?_⟩
      intro key stored spec source classification held signed
      obtain ⟨record, found⟩ := joined.made (by rw [act, same] at held; exact held) signed
      exact effect.keeps found
    | staged decisionId record commands success made own =>
      obtain ⟨keyed, passed⟩ := joined.run (act services (.decision ports actionPorts operation))
        (stageAll_run success)
      refine ⟨keyed, passed, ?_⟩
      intro key stored spec source classification held signed
      rcases stageAll_answers success held (by rw [signed]; rfl) with ⟨before, found, same⟩ | ⟨command, member, issued⟩
      · obtain ⟨record, found⟩ := joined.made found (same.trans signed)
        exact effect.keeps found
      · cases own command member spec source classification (issued.symm.trans signed)
        exact ⟨record, made⟩

theorem joined_of_run (script : List Event) : Joined (runPair script) := by
  induction script using List.reverseRecOn with
  | nil =>
    refine ⟨.empty, .empty, ?_⟩
    intro key stored spec source classification held
    simp [runPair, Services.new, Actions.Service.new, Actions.Store.empty] at held
  | append_singleton script event ih =>
    rw [runPair_snoc]
    exact ih.after event

end MissionControl.Decisions

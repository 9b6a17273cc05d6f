import MissionControl.Decisions.Pair
import MissionControl.Domain.Canonical
import MissionControl.Proofs.ActionStructure
import Mathlib.Data.List.Chain

/-! Resolving and superseding change both stores or neither. A success has written one
request for each that was previewed, has marked the unfinished work of the Decision
superseded, and has left every other record alone. -/

namespace MissionControl.DecisionAtomicity
open Checked Staging
open Decisions (Store Service Services Event Pair ApproveAndExecute DecisionOperationContext
  ResolveTarget SupersedeTarget resolveTarget supersedeTarget Joined joined_of_run runPair stageAll answered creations
  markings marking Unanswered Carried Frame stageAll_ok downstream unfinishedWork unfinishedRequest unfinishedAction
  requestWork actionWork actionRequestsForDecision actionsForDecision executionSignature Resolves Supersedes
  executeResolve executeSupersede executeResolve_ok executeSupersede_ok settleApproval_cases Audited
  approveAndExecuteResolveDecisionRequest approveAndExecuteSupersedeDecision ResolvedDecisionOutcome
  SupersededDecisionOutcome)
open Actions (ActionRequestRecord ActionRecord Keyed Passed resultingRecord markedRequest markedAction
  DecisionStageCommand)

section

theorem sortResulting_distinct {requests : List DecisionResultingActionRequest}
    (apart : repeatsResulting (sortResulting requests) = false) : ((sortResulting requests).map (·.id)).Nodup :=
  distinct_of_sorted _ (Sorting.sorted _ requests) apart

/-- The requests an operation is to lead to have ids of their own, which none of the
requests it is to mark has. -/
def Distinct : WorkManagementOperation → Prop
  | .resolveDecisionRequest _ _ _ _ _ _ _ _ _ specs => (specs.map (·.id)).Nodup
  | .supersedeDecision _ _ _ _ _ _ _ _ _ _ specs work => (specs.map (·.id)).Nodup ∧
    ∀ spec ∈ specs, ∀ version classification, .actionRequest spec.id version classification ∉ work
  | _ => True

theorem canonical_distinct {operation canonical : WorkManagementOperation}
    (success : canonicalOperation operation = .ok canonical) : Distinct canonical := by
  cases operation with
  | resolveDecisionRequest =>
    simp only [canonicalOperation] at success
    split at success
    · cases success
    next apart =>
      rw [← Except.ok.inj success]
      exact sortResulting_distinct (by simpa using apart)
  | supersedeDecision =>
    simp only [canonicalOperation] at success
    split at success
    · cases success
    · split at success
      · cases success
      next admitted =>
        rw [← Except.ok.inj success]
        simp only [Bool.or_eq_true, not_or, Bool.not_eq_true] at admitted
        obtain ⟨⟨apart, _⟩, unflagged⟩ := admitted
        refine ⟨sortResulting_distinct apart, ?_⟩
        intro spec member version classification marked
        rw [flagsResulting, List.any_eq_false] at unflagged
        exact unflagged spec member (List.any_eq_true.mpr ⟨_, marked, beq_self_eq_true _⟩)
  | cancelAction | reopenAction =>
    simp only [canonicalOperation] at success
    split at success
    · cases success
    · rw [← Except.ok.inj success]
      trivial
  | _ =>
    rw [← Except.ok.inj success]
    trivial

theorem previewed_distinct (intent : WorkManagementPreparedIntent) : Distinct intent.operation := by
  obtain ⟨id, operation, classification, support, now, success⟩ := intent.admitted
  obtain ⟨canonical, _, sorted, _, _, shape⟩ := preparePreview_ok success
  rw [WorkManagementPreparedIntent.operation, shape]
  exact canonical_distinct sorted

variable {intent : WorkManagementPreparedIntent}

theorem resolveTarget_distinct {target : ResolveTarget} (targeted : resolveTarget intent.operation = some target) :
    (target.specs.map (·.id)).Nodup := by
  have distinct := previewed_distinct intent
  unfold resolveTarget at targeted
  split at targeted
  next shown =>
    cases targeted
    rw [shown] at distinct
    exact distinct
  · cases targeted

theorem supersedeTarget_distinct {target : SupersedeTarget} (targeted : supersedeTarget intent.operation = some target) :
    (target.specs.map (·.id)).Nodup ∧
      ∀ spec ∈ target.specs, ∀ version classification,
        .actionRequest spec.id version classification ∉ target.downstream := by
  have distinct := previewed_distinct intent
  unfold supersedeTarget at targeted
  split at targeted
  next shown =>
    cases targeted
    rw [shown] at distinct
    exact distinct
  · cases targeted

end

def FlaggedRequest (superseded : Option DecisionId) (record : ActionRequestRecord) : Prop :=
  superseded ≠ none ∧ record.sourceDecisionId = superseded ∧ (record.state = .draft ∨ record.state = .open)

def FlaggedAction (superseded : Option DecisionId) (record : ActionRecord) : Prop :=
  superseded ≠ none ∧ record.sourceDecisionId = superseded ∧ (record.state = .open ∨ record.state = .inProgress)

structure StagedExactly (before after : Actions.Store) (specs : List DecisionResultingActionRequest)
    (decisionId : DecisionId) (classification : DataClassification) (superseded : Option DecisionId) : Prop where
  apart : (specs.map (·.id)).Nodup
  created : ∀ spec ∈ specs, before.requests[spec.id]? = none ∧ after.requests[spec.id]? =
    some (resultingRecord spec decisionId (classification.combine spec.classification))
  flaggedRequests : ∀ (id : ActionRequestId) record, before.requests[id]? = some record →
    FlaggedRequest superseded record → ∃ later, record.version.next = some later ∧
      after.requests[id]? = some (markedRequest record classification later)
  flaggedActions : ∀ (id : ActionId) record, before.actions[id]? = some record →
    FlaggedAction superseded record → ∃ later, record.version.next = some later ∧
      after.actions[id]? = some (markedAction record classification later)
  otherRequests : ∀ id : ActionRequestId, (∀ spec ∈ specs, spec.id ≠ id) →
    (∀ record, before.requests[id]? = some record → ¬ FlaggedRequest superseded record) →
      after.requests[id]? = before.requests[id]?
  otherActions : ∀ id : ActionId,
    (∀ record, before.actions[id]? = some record → ¬ FlaggedAction superseded record) →
      after.actions[id]? = before.actions[id]?

def workSubject : IncompleteDownstreamWork → ActionRequestId ⊕ ActionId
  | .actionRequest id _ _ => .inl id
  | .action id _ _ => .inr id

structure Covers (store : Actions.Store) (superseded : Option DecisionId) (work : List IncompleteDownstreamWork) :
    Prop where
  once : (work.map workSubject).Nodup
  requests : ∀ id version classification, .actionRequest id version classification ∈ work ↔
    ∃ record, store.requests[id]? = some record ∧ FlaggedRequest superseded record ∧ record.version = version ∧
      record.classification = classification
  actions : ∀ id version classification, .action id version classification ∈ work ↔
    ∃ record, store.actions[id]? = some record ∧ FlaggedAction superseded record ∧ record.version = version ∧
      record.classification = classification

theorem covers_none (store : Actions.Store) : Covers store none [] where
  once := List.nodup_nil
  requests := by simp [FlaggedRequest]
  actions := by simp [FlaggedAction]

section
variable {store : Actions.Store} {id : DecisionId}

theorem mem_requestsForDecision {record : ActionRequestRecord} : record ∈ actionRequestsForDecision store id ↔
    (∃ key : ActionRequestId, store.requests[key]? = some record) ∧ record.sourceDecisionId = some id := by
  rw [actionRequestsForDecision, List.mem_insertionSort, List.mem_filter, KeyMap.mem_held, decide_eq_true_eq]

theorem mem_actionsForDecision {record : ActionRecord} : record ∈ actionsForDecision store id ↔
    (∃ key : ActionId, store.actions[key]? = some record) ∧ record.sourceDecisionId = some id := by
  rw [actionsForDecision, List.mem_insertionSort, List.mem_filter, KeyMap.mem_held, decide_eq_true_eq]

theorem requestsForDecision_distinct (keyed : Keyed store) :
    (((actionRequestsForDecision store id).filter unfinishedRequest).map (·.id)).Nodup := by
  have held : ((KeyMap.held store.requests).map (·.id)).Nodup :=
    KeyMap.nodup_held fun _ _ found => keyed.requests found
  refine List.Nodup.sublist (List.filter_sublist.map _) ?_
  exact ((List.perm_insertionSort _ _).map _).nodup_iff.mpr (held.sublist (List.filter_sublist.map _))

theorem actionsForDecision_distinct (keyed : Keyed store) :
    (((actionsForDecision store id).filter unfinishedAction).map (·.id)).Nodup := by
  have held : ((KeyMap.held store.actions).map (·.id)).Nodup :=
    KeyMap.nodup_held fun _ _ found => keyed.actions found
  refine List.Nodup.sublist (List.filter_sublist.map _) ?_
  exact ((List.perm_insertionSort _ _).map _).nodup_iff.mpr (held.sublist (List.filter_sublist.map _))

theorem downstream_covers (keyed : Keyed store) : Covers store (some id) (downstream store id) := by
  have same : (downstream store id).Perm (unfinishedWork store id) := List.perm_insertionSort _ _
  refine ⟨?_, ?_, ?_⟩
  · rw [(same.map workSubject).nodup_iff, unfinishedWork, List.map_append, List.map_map, List.map_map]
    have requests : ((actionRequestsForDecision store id).filter unfinishedRequest).map (workSubject ∘ requestWork) =
        (((actionRequestsForDecision store id).filter unfinishedRequest).map (·.id)).map Sum.inl := by
      rw [List.map_map]
      rfl
    have actions : ((actionsForDecision store id).filter unfinishedAction).map (workSubject ∘ actionWork) =
        (((actionsForDecision store id).filter unfinishedAction).map (·.id)).map Sum.inr := by
      rw [List.map_map]
      rfl
    rw [requests, actions]
    refine List.Nodup.append (List.Nodup.map Sum.inl_injective (requestsForDecision_distinct keyed))
      (List.Nodup.map Sum.inr_injective (actionsForDecision_distinct keyed)) ?_
    intro subject left right
    obtain ⟨request, _, rfl⟩ := List.mem_map.mp left
    obtain ⟨action, _, impossible⟩ := List.mem_map.mp right
    cases impossible
  · intro requestId version classification
    rw [same.mem_iff, unfinishedWork, List.mem_append]
    constructor
    · intro member
      rcases member with listed | listed
      · obtain ⟨record, member, shown⟩ := List.mem_map.mp listed
        obtain ⟨member, unfinished⟩ := List.mem_filter.mp member
        obtain ⟨⟨key, found⟩, sourced⟩ := mem_requestsForDecision.mp member
        cases shown
        refine ⟨record, ?_, ⟨nofun, sourced, of_decide_eq_true unfinished⟩, rfl, rfl⟩
        rw [keyed.requests found]
        exact found
      · obtain ⟨_, _, impossible⟩ := List.mem_map.mp listed
        cases impossible
    · rintro ⟨record, found, ⟨_, sourced, unfinished⟩, rfl, rfl⟩
      refine .inl (List.mem_map.mpr ⟨record, List.mem_filter.mpr ⟨?_, decide_eq_true unfinished⟩, ?_⟩)
      · exact mem_requestsForDecision.mpr ⟨⟨requestId, found⟩, sourced⟩
      · rw [requestWork, keyed.requests found]
  · intro actionId version classification
    rw [same.mem_iff, unfinishedWork, List.mem_append]
    constructor
    · intro member
      rcases member with listed | listed
      · obtain ⟨_, _, impossible⟩ := List.mem_map.mp listed
        cases impossible
      · obtain ⟨record, member, shown⟩ := List.mem_map.mp listed
        obtain ⟨member, unfinished⟩ := List.mem_filter.mp member
        obtain ⟨⟨key, found⟩, sourced⟩ := mem_actionsForDecision.mp member
        cases shown
        refine ⟨record, ?_, ⟨nofun, sourced, of_decide_eq_true unfinished⟩, rfl, rfl⟩
        rw [keyed.actions found]
        exact found
    · rintro ⟨record, found, ⟨_, sourced, unfinished⟩, rfl, rfl⟩
      refine .inr (List.mem_map.mpr ⟨record, List.mem_filter.mpr ⟨?_, decide_eq_true unfinished⟩, ?_⟩)
      · exact mem_actionsForDecision.mpr ⟨⟨actionId, found⟩, sourced⟩
      · rw [actionWork, keyed.actions found]

end

section

theorem answered_commands (actionPorts : Nat → Actions.Ports) (commands : List DecisionStageCommand) :
    (answered actionPorts commands).map (·.2) = commands := by
  rw [answered, List.map_map]
  exact List.zipIdx_map_fst 0 commands

theorem answered_subjects (actionPorts : Nat → Actions.Ports) (commands : List DecisionStageCommand) :
    (answered actionPorts commands).map (fun command => command.2.subject) = commands.map (·.subject) := by
  conv_rhs => rw [← answered_commands actionPorts commands, List.map_map]
  rfl

variable [Sha256] {before after : Actions.Store} {context : DecisionOperationContext} {kind : String}
  {decisionId oldId : DecisionId} {classification : DataClassification} {specs : List DecisionResultingActionRequest}
  {work : List IncompleteDownstreamWork} {offset : Nat}

theorem creations_subjects : (creations context kind decisionId classification specs).map (·.subject) =
    (specs.map (·.id)).map Sum.inl := by
  rw [creations, List.map_map, List.map_map]
  conv_rhs => rw [← List.zipIdx_map_fst 0 specs, List.map_map]
  rfl

theorem markings_subjects : (markings context oldId classification offset work).map (·.subject) =
    work.map workSubject := by
  rw [markings, List.map_map]
  conv_rhs => rw [← List.zipIdx_map_fst offset work, List.map_map]
  refine List.map_congr_left fun pair _ => ?_
  obtain ⟨item, index⟩ := pair
  cases item <;> rfl

theorem creations_mem {spec : DecisionResultingActionRequest} (member : spec ∈ specs) :
    ∃ own, .createResultingActionRequest spec decisionId classification own ∈
      creations context kind decisionId classification specs := by
  obtain ⟨index, bound, rfl⟩ := List.getElem_of_mem member
  exact ⟨_, List.mem_map.mpr ⟨(specs[index], index), List.mk_mem_zipIdx_iff_getElem?.mpr (by simp [bound]), rfl⟩⟩

theorem markings_mem {item : IncompleteDownstreamWork} (member : item ∈ work) :
    ∃ index, marking context oldId classification index item ∈
      markings context oldId classification offset work := by
  obtain ⟨index, bound, rfl⟩ := List.getElem_of_mem member
  refine ⟨offset + index, List.mem_map.mpr ⟨(work[index], offset + index), ?_, rfl⟩⟩
  exact List.mk_add_mem_zipIdx_iff_getElem?.mpr (by simp [bound])

theorem staged_exactly {actionPorts : Nat → Actions.Ports} {superseded : Option DecisionId}
    (keyed : Keyed before) (passed : Passed before)
    (unmade : ∀ (key : IdempotencyId) stored spec source classification, before.idem[key]? = some stored →
      stored.signature = .createRequestFromDecision spec source classification → source ≠ decisionId)
    (apart : (specs.map (·.id)).Nodup)
    (separate : ∀ spec ∈ specs, ∀ version classification, .actionRequest spec.id version classification ∉ work)
    (covers : Covers before superseded work)
    (success : stageAll before (answered actionPorts (creations context kind decisionId classification specs ++
      markings context oldId classification offset work)) = .ok after) :
    StagedExactly before after specs decisionId classification superseded := by
  have subjects : (answered actionPorts (creations context kind decisionId classification specs ++
      markings context oldId classification offset work)).map (fun command => command.2.subject) =
        (specs.map (·.id)).map Sum.inl ++ work.map workSubject := by
    rw [answered_subjects, List.map_append, creations_subjects, markings_subjects]
  have once : ((specs.map DecisionResultingActionRequest.id).map Sum.inl ++ work.map workSubject).Nodup := by
    refine List.Nodup.append (List.Nodup.map Sum.inl_injective apart) covers.once ?_
    intro subject created marked
    obtain ⟨_, listed, rfl⟩ := List.mem_map.mp created
    obtain ⟨spec, member, rfl⟩ := List.mem_map.mp listed
    obtain ⟨item, worked, named⟩ := List.mem_map.mp marked
    cases item with
    | actionRequest id version classification => cases named; exact separate spec member _ _ worked
    | action id version classification => cases named
  have fresh : ∀ command ∈ answered actionPorts (creations context kind decisionId classification specs ++
      markings context oldId classification offset work), Unanswered before command.2 := by
    intro command member key stored held signed
    rcases List.mem_append.mp (Decisions.answered_own member) with created | marked
    · obtain ⟨spec, _, own, same⟩ := Decisions.creations_own created
      rw [same] at signed
      exact unmade key stored _ _ _ held signed rfl
    · obtain ⟨item, worked, index, same⟩ := Decisions.markings_own marked
      rw [same] at signed
      cases item with
      | actionRequest id version shown =>
        obtain ⟨record, found, _, current, _⟩ := (covers.requests id version shown).mp worked
        obtain ⟨later, there, past⟩ := passed.requests held signed
        cases found.symm.trans there
        rw [current] at past
        omega
      | action id version shown =>
        obtain ⟨record, found, _, current, _⟩ := (covers.actions id version shown).mp worked
        obtain ⟨later, there, past⟩ := passed.actions held signed
        cases found.symm.trans there
        rw [current] at past
        omega
  obtain ⟨carried, frame⟩ := stageAll_ok keyed fresh (subjects ▸ once) success
  rw [subjects] at frame
  have each {command : DecisionStageCommand} (member : command ∈ creations context kind decisionId classification specs ++
      markings context oldId classification offset work) : Carried before after command := by
    rw [← answered_commands actionPorts (_ ++ _)] at member
    obtain ⟨pair, listed, rfl⟩ := List.mem_map.mp member
    exact carried pair listed
  refine ⟨apart, ?_, ?_, ?_, ?_, ?_⟩
  · intro spec member
    obtain ⟨own, listed⟩ := creations_mem member
    exact each (List.mem_append_left _ listed)
  · intro id record found flagged
    have worked := (covers.requests id record.version record.classification).mpr ⟨record, found, flagged, rfl, rfl⟩
    obtain ⟨index, listed⟩ := markings_mem worked
    obtain ⟨marked, later, there, advances, became⟩ := each (List.mem_append_right _ listed)
    cases found.symm.trans there
    exact ⟨later, advances, became⟩
  · intro id record found flagged
    have worked := (covers.actions id record.version record.classification).mpr ⟨record, found, flagged, rfl, rfl⟩
    obtain ⟨index, listed⟩ := markings_mem worked
    obtain ⟨marked, later, there, advances, became⟩ := each (List.mem_append_right _ listed)
    cases found.symm.trans there
    exact ⟨later, advances, became⟩
  · intro id uncreated unflagged
    refine frame.requests id ?_
    intro written
    rcases List.mem_append.mp written with created | marked
    · obtain ⟨_, listed, named⟩ := List.mem_map.mp created
      obtain ⟨spec, member, rfl⟩ := List.mem_map.mp listed
      exact uncreated spec member (Sum.inl.inj named)
    · obtain ⟨item, worked, named⟩ := List.mem_map.mp marked
      cases item with
      | actionRequest other version shown =>
        cases named
        obtain ⟨record, found, flagged, _⟩ := (covers.requests _ _ _).mp worked
        exact unflagged record found flagged
      | action other version shown => cases named
  · intro id unflagged
    refine frame.actions id ?_
    intro written
    rcases List.mem_append.mp written with created | marked
    · obtain ⟨_, _, impossible⟩ := List.mem_map.mp created
      cases impossible
    · obtain ⟨item, worked, named⟩ := List.mem_map.mp marked
      cases item with
      | actionRequest other version shown => cases named
      | action other version shown =>
        cases named
        obtain ⟨record, found, flagged, _⟩ := (covers.actions _ _ _).mp worked
        exact unflagged record found flagged

end

/-- An approval changes nothing when it is refused or was answered before; otherwise it
has succeeded in both stores. -/
structure AllOrNothing {Outcome : Type} (services : Services) (command : ApproveAndExecute)
    (succeeded : Actions.Store → Prop) (answer : (Service × Actions.Service) × Except DomainError Outcome) : Prop where
  refused : ∀ error, answer.2 = .error error →
    Audited services.decisions.state answer.1.1.state ∧ answer.1.2.store = services.actions.store
  anew : ∀ outcome, answer.2 = .ok outcome →
    services.decisions.state.idem[command.context.idempotencyId]? = none → succeeded answer.1.2.store
  again : ∀ outcome, answer.2 = .ok outcome →
    services.decisions.state.idem[command.context.idempotencyId]? ≠ none →
      answer.1 = (services.decisions, services.actions)

theorem settled_all_or_nothing {Outcome : Type} {services : Services} {ports : Decisions.Ports}
    {command : ApproveAndExecute} {succeeded : Actions.Store → Prop}
    {decided : Except Decisions.DecisionError (Staged Pair Outcome)}
    (replays : ∀ outcome, decided = .ok (.replayed outcome) →
      services.decisions.state.idem[command.context.idempotencyId]? ≠ none)
    (commits : ∀ staged next, decided = .ok staged → staged.target = some next →
      services.decisions.state.idem[command.context.idempotencyId]? = none ∧ succeeded next.actions) :
    AllOrNothing services command succeeded
      (Decisions.settleApproval services.decisions services.actions ports command decided) := by
  rcases settleApproval_cases services.decisions services.actions ports command decided with
    ⟨later, given, error, settled, audited, same⟩ | ⟨outcome, success, settled⟩ |
      ⟨staged, next, success, target, settled⟩
  all_goals rw [settled]
  · refine ⟨fun _ _ => ⟨audited, same⟩, ?_, ?_⟩ <;> intro _ impossible <;> cases impossible
  · refine ⟨?_, ?_, fun _ _ _ => rfl⟩
    · intro _ impossible
      cases impossible
    · intro _ _ absent
      exact absurd absent (replays outcome success)
  · obtain ⟨absent, succeeded⟩ := commits staged next success target
    refine ⟨?_, fun _ _ _ => succeeded, fun _ _ known => absurd absent known⟩
    intro _ impossible
    cases impossible

theorem replaying_absent {Next Outcome : Type} {pick : Decisions.ResultValue → Option Outcome} {state : Store}
    {context : DecisionOperationContext} {signature : Decisions.Signature}
    {fresh : Except Decisions.DecisionError (Staged Next Outcome)}
    (absent : state.idem[context.idempotencyId]? = none) :
    Decisions.replaying pick state context signature fresh = fresh := by
  rw [Decisions.replaying, replay, absent]
  rfl

section
variable [Sha256]

variable {actionPorts : Nat → Actions.Ports} {command : ApproveAndExecute}

theorem resolve_replays {state : Store} {actions : Actions.Store} {ports : Decisions.Ports}
    {outcome : ResolvedDecisionOutcome}
    (replayed : executeResolve state actions ports actionPorts command = .ok (.replayed outcome)) :
    state.idem[command.context.idempotencyId]? ≠ none := by
  intro absent
  simp only [executeResolve, replaying_absent absent, bind_ok, pure_ok, reduceCtorEq, and_false, exists_false]
    at replayed

variable {outcome : SupersededDecisionOutcome}

theorem supersede_replays {state : Store} {actions : Actions.Store} {ports : Decisions.Ports}
    (replayed : executeSupersede state actions ports actionPorts command = .ok (.replayed outcome)) :
    state.idem[command.context.idempotencyId]? ≠ none := by
  intro absent
  simp only [executeSupersede, replaying_absent absent, bind_ok, pure_ok, reduceCtorEq, and_false, exists_false]
    at replayed

variable {services : Services}

omit [Sha256] in
theorem unmade (joined : Joined services) {id : DecisionId} (absent : services.decisions.state.decisions[id]? = none)
    (key : IdempotencyId) (stored : Actions.Stored) (spec : DecisionResultingActionRequest) (source : DecisionId)
    (classification : DataClassification) (held : services.actions.store.idem[key]? = some stored)
    (signed : stored.signature = .createRequestFromDecision spec source classification) : source ≠ id := by
  rintro rfl
  obtain ⟨record, found⟩ := joined.made held signed
  cases absent.symm.trans found

def Resolved (services : Services) (command : ApproveAndExecute) (after : Actions.Store) : Prop :=
  ∃ intent target, services.decisions.state.prepared[command.approval.preparedId]? = some intent ∧
    resolveTarget intent.operation = some target ∧
      StagedExactly services.actions.store after target.specs target.decisionId intent.preview.classification none

def Superseded (services : Services) (command : ApproveAndExecute) (after : Actions.Store) : Prop :=
  ∃ intent target, services.decisions.state.prepared[command.approval.preparedId]? = some intent ∧
    supersedeTarget intent.operation = some target ∧
      StagedExactly services.actions.store after target.specs target.newId intent.preview.classification
        (some target.oldId)

variable {intent : WorkManagementPreparedIntent}

theorem Resolves.exactly (joined : Joined services) {target : ResolveTarget} {request : Decisions.DecisionRequestRecord}
    {support : SupportWitness} {later : AggregateVersion} {outcome : ResolvedDecisionOutcome} {next : Pair}
    (resolves : Resolves services.decisions.state
      services.actions.store actionPorts command intent target request support later outcome next) :
    Resolved services command next.actions := by
  refine ⟨intent, target, resolves.pending, resolves.targeted, ?_⟩
  -- a resolution marks nothing
  have nothing : markings command.context target.decisionId intent.preview.classification 0 [] = [] := rfl
  have staged := resolves.staged
  rw [← List.append_nil (creations _ _ _ _ _), ← nothing] at staged
  exact staged_exactly joined.keyed joined.passed (unmade joined resolves.absent)
    (resolveTarget_distinct resolves.targeted) (fun _ _ _ _ => List.not_mem_nil) (covers_none _) staged

theorem Supersedes.exactly (joined : Joined services) {target : SupersedeTarget} {old : Decisions.DecisionRecord}
    {support : SupportWitness} {later : AggregateVersion} {next : Pair}
    (supersedes : Supersedes services.decisions.state
      services.actions.store actionPorts command intent target old support later outcome next) :
    Superseded services command next.actions := by
  refine ⟨intent, target, supersedes.pending, supersedes.targeted, ?_⟩
  obtain ⟨apart, separate⟩ := supersedeTarget_distinct supersedes.targeted
  have covers : Covers services.actions.store (some target.oldId) (downstream services.actions.store target.oldId) :=
    downstream_covers joined.keyed
  rw [supersedes.downstream] at covers
  exact staged_exactly joined.keyed joined.passed (unmade joined supersedes.absent) apart separate covers
    supersedes.staged

end

namespace Vendor
open ActionStructure.Journey (name instant version integrity)

def context (round : Fin 8) : DecisionOperationContext := ⟨name .idempotency (Fin.ofNat _ round), name .correlation 0⟩

def slotNumber : Decisions.AuditSlot → Fin 4
  | .first => 0
  | .second => 1
  | .third => 2
  | .failure => 3

def ports (round : Fin 8) : Decisions.Ports where
  now _ := instant
  nextDecisionId := some (name .decision (Fin.ofNat _ round))
  nextPreparedIntentId := some (name .preparedIntent (Fin.ofNat _ round))
  nextApprovalReceiptId := some (name .approvalReceipt (Fin.ofNat _ round))
  nextAuditEventId slot := some (name .auditEvent (Fin.ofNat _ (round * 4 + slotNumber slot)))
  authorize _ := true
  currentPolicy _ := .allowed
  resolve _ _ := .error .notFound

def actionPorts (index : Nat) : Actions.Ports where
  now _ := instant
  nextActionId := none
  nextPreparedIntentId := none
  nextApprovalReceiptId := none
  nextAuditEventId _ := some (name .auditEvent (Fin.ofNat _ (31 - index)))
  authorize _ := true
  currentPolicy _ := .allowed
  resolve _ _ := .error .notFound

def step (round : Fin 8) (operation : Decisions.Operation) : Event := .decision (ports round) actionPorts operation

def request : DecisionRequestId := name .decisionRequest 0

def contract : DecisionResultingActionRequest where
  id := name .actionRequest 0
  subject := ⟨"Sign the contract", .refl true⟩
  details := ⟨"With the vendor decided on", .refl true⟩
  intendedOwner := name .stakeholder 1
  dueAt := instant
  classification := .confidential

def previewed : List Event :=
  [step 0 (.createDecisionRequestDraft ⟨request, ⟨"Which vendor", .refl true⟩, ⟨"For the data centre", .refl true⟩,
      some (name .stakeholder 0), .internal, context 0⟩),
    step 1 (.submitDecisionRequest ⟨request, version 0, context 1⟩),
    step 2 (.prepareResolveDecisionRequest ⟨request, version 1, ⟨"The nearest one", .refl true⟩,
      ⟨"It is the fastest to arrive", .refl true⟩, ⟨"Lower latency", .refl true⟩, [],
      [⟨⟨"Measured last week", .refl true⟩, .internal⟩], [contract], context 2⟩)]

def previewDigest : WorkManagementPayloadDigest :=
  ⟨"867e79f0a450602beb820180edc8fe8d65302bcb006ac1236c32b75d144a4eb3", .refl true⟩

def stageDigest : WorkManagementPayloadDigest :=
  ⟨"9bf2439d87f08928801da80f57ac0b9e79eced7b6656b0bf8fd38b0811af2b6e", by decide⟩

/-- SHA-256 on the preview and on the context of the one command staged. -/
scoped instance : Sha256 where
  finalize bytes := if bytes.length = 1325 then previewDigest else stageDigest

def approval : ApproveAndExecute where
  approval := ⟨name .preparedIntent 2, .headOfProducts, previewDigest, (context 3).idempotencyId, rfl⟩
  context := context 3

def resolved : List Event := previewed ++ [step 3 (.approveAndExecuteResolveDecisionRequest approval)]

end Vendor

open Vendor

end MissionControl.DecisionAtomicity

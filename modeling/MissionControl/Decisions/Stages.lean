import MissionControl.Actions.Stages
import MissionControl.Decisions.Execution

/-! What staging the commands of a Decision comes to. When they are about records that
differ, and none of them was answered before, each does all it says and nothing else
happens to the records. -/

namespace MissionControl.Decisions
open Checked
open Actions (DecisionStageCommand StoreStep StoreRun Keyed replayAs_some orReplay_ok resultingRecord
  markedRequest markedAction stageDecisionCommand)

def Unanswered (store : Actions.Store) (command : DecisionStageCommand) : Prop :=
  ∀ (key : IdempotencyId) stored, store.idem[key]? = some stored → stored.signature ≠ command.identity

def Carried (before after : Actions.Store) : DecisionStageCommand → Prop
  | .createResultingActionRequest spec sourceDecisionId decidedClassification _ =>
    before.requests[spec.id]? = none ∧ after.requests[spec.id]? =
      some (resultingRecord spec sourceDecisionId (decidedClassification.combine spec.classification))
  | .markActionRequestSupersededPremise id _ _ decidedClassification _ =>
    ∃ record later, before.requests[id]? = some record ∧ record.version.next = some later ∧
      after.requests[id]? = some (markedRequest record decidedClassification later)
  | .markActionSupersededPremise id _ _ decidedClassification _ =>
    ∃ record later, before.actions[id]? = some record ∧ record.version.next = some later ∧
      after.actions[id]? = some (markedAction record decidedClassification later)

/-- Only the records named are written. -/
structure Frame (written : List (ActionRequestId ⊕ ActionId)) (before after : Actions.Store) : Prop where
  requests : ∀ id, .inl id ∉ written → after.requests[id]? = before.requests[id]?
  actions : ∀ id, .inr id ∉ written → after.actions[id]? = before.actions[id]?

theorem Frame.refl (store : Actions.Store) : Frame [] store store := ⟨fun _ _ => rfl, fun _ _ => rfl⟩

variable {first second : List (ActionRequestId ⊕ ActionId)}

theorem Frame.trans {before between after : Actions.Store} (one : Frame first before between)
    (other : Frame second between after) : Frame (first ++ second) before after where
  requests := by
    intro id unwritten
    rw [List.mem_append, not_or] at unwritten
    rw [other.requests id unwritten.2, one.requests id unwritten.1]
  actions := by
    intro id unwritten
    rw [List.mem_append, not_or] at unwritten
    rw [other.actions id unwritten.2, one.actions id unwritten.1]

theorem Carried.framed {start before after later : Actions.Store} {command : DecisionStageCommand}
    (carried : Carried before after command) (ahead : Frame first start before) (onwards : Frame second after later)
    (notAhead : command.subject ∉ first) (notOnwards : command.subject ∉ second) : Carried start later command := by
  cases command with
  | createResultingActionRequest spec sourceDecisionId decidedClassification context =>
    rw [Carried, ← ahead.requests spec.id notAhead, onwards.requests spec.id notOnwards]
    exact carried
  | markActionRequestSupersededPremise id expectedVersion sourceDecisionId decidedClassification context =>
    rw [Carried, ← ahead.requests id notAhead, onwards.requests id notOnwards]
    exact carried
  | markActionSupersededPremise id expectedVersion sourceDecisionId decidedClassification context =>
    rw [Carried, ← ahead.actions id notAhead, onwards.actions id notOnwards]
    exact carried

theorem map_ok {α β ε : Type} {outcome : Except ε α} {change : α → β} {result : β} :
    outcome.map change = .ok result ↔ ∃ value, outcome = .ok value ∧ change value = result := by
  cases outcome <;> simp [Except.map]

variable [Sha256] {stage next : Actions.Store} {ports : Actions.Ports} {command : DecisionStageCommand}

theorem stageCommand_ok (success : stageCommand stage ports command = .ok next) :
    stageDecisionCommand stage ports command = next ∧
      (¬ Unanswered stage command ∨ StoreStep ports stage (.staged command) next) := by
  have answered {key : IdempotencyId} {stored : Actions.Stored} (held : stage.idem[key]? = some stored)
      (signed : stored.signature = command.identity) : ¬ Unanswered stage command :=
    fun unanswered => unanswered key stored held signed
  cases command with
  | createResultingActionRequest spec sourceDecisionId decidedClassification context =>
    obtain ⟨staged, decided, became⟩ := map_ok.mp success
    refine ⟨by rw [stageDecisionCommand, decided, became], ?_⟩
    rcases orReplay_ok.mp decided with ⟨_, replayed, _⟩ | ⟨_, fresh⟩
    · obtain ⟨stored, held, signed, _⟩ := replayAs_some.mp replayed
      exact .inl (answered held signed)
    · rcases Actions.createResultingActionRequestFromDecisionTransition_ok decided with ⟨_, rfl⟩ | ⟨_, _, _, rfl, facts⟩
      · simp only [bind_ok, Actions.storeRequest, pure_ok, reduceCtorEq, and_false, exists_false] at fresh
      · exact .inr (became ▸ .resulting facts)
  | markActionRequestSupersededPremise id expectedVersion sourceDecisionId decidedClassification context =>
    obtain ⟨staged, decided, became⟩ := map_ok.mp success
    refine ⟨by rw [stageDecisionCommand, decided, became], ?_⟩
    rcases orReplay_ok.mp decided with ⟨_, replayed, _⟩ | ⟨_, fresh⟩
    · obtain ⟨stored, held, signed, _⟩ := replayAs_some.mp replayed
      exact .inl (answered held signed)
    · rcases Actions.markActionRequestSupersededPremiseFromDecision_ok decided with
        ⟨_, rfl⟩ | ⟨_, _, _, _, _, rfl, facts⟩
      · simp only [bind_ok, Actions.storeRequest, pure_ok, reduceCtorEq, and_false, exists_false] at fresh
      · exact .inr (became ▸ .markedRequest facts)
  | markActionSupersededPremise id expectedVersion sourceDecisionId decidedClassification context =>
    obtain ⟨staged, decided, became⟩ := map_ok.mp success
    refine ⟨by rw [stageDecisionCommand, decided, became], ?_⟩
    rcases orReplay_ok.mp decided with ⟨_, replayed, _⟩ | ⟨_, fresh⟩
    · obtain ⟨stored, held, signed, _⟩ := replayAs_some.mp replayed
      exact .inl (answered held signed)
    · rcases Actions.markActionSupersededPremiseFromDecision_ok decided with ⟨_, rfl⟩ | ⟨_, _, _, _, _, rfl, facts⟩
      · simp only [bind_ok, Actions.storeAction, pure_ok, reduceCtorEq, and_false, exists_false] at fresh
      · exact .inr (became ▸ .markedAction facts)

theorem staged_carried (keyed : Keyed stage) (step : StoreStep ports stage (.staged command) next) :
    Carried stage next command ∧ Frame [command.subject] stage next := by
  cases step with
  | @resulting spec _ _ _ _ _ facts =>
    have requests := facts.stored.recorded.requests
    refine ⟨⟨facts.absent, by rw [requests, resultingRecord, KeyMap.get_insert_self]⟩, ?_, ?_⟩
    · intro id unwritten
      rw [requests, KeyMap.get_insert_other]
      rintro rfl
      exact unwritten (List.mem_singleton_self _)
    · intro id _
      rw [facts.stored.recorded.actions]
  | @markedRequest id _ _ _ _ record later _ _ facts =>
    have requests := facts.stored.recorded.requests
    have named := keyed.requests facts.found
    simp only [markedRequest, named] at requests
    refine ⟨⟨record, later, facts.found, facts.advanced, by rw [requests, KeyMap.get_insert_self, markedRequest, named]⟩, ?_, ?_⟩
    · intro other unwritten
      rw [requests, KeyMap.get_insert_other]
      rintro rfl
      exact unwritten (List.mem_singleton_self _)
    · intro other _
      rw [facts.stored.recorded.actions]
  | @markedAction id _ _ _ _ record later _ _ facts =>
    have actions := facts.stored.recorded.actions
    have named := keyed.actions facts.found
    simp only [markedAction, named] at actions
    refine ⟨⟨record, later, facts.found, facts.advanced, by rw [actions, KeyMap.get_insert_self, markedAction, named]⟩, ?_, ?_⟩
    · intro other _
      rw [facts.stored.recorded.requests]
    · intro other unwritten
      rw [actions, KeyMap.get_insert_other]
      rintro rfl
      exact unwritten (List.mem_singleton_self _)

theorem Unanswered.staged {other : DecisionStageCommand} (unanswered : Unanswered stage other)
    (different : command.subject ≠ other.subject) (step : StoreStep ports stage (.staged command) next) :
    Unanswered next other := by
  intro key stored held signed
  rcases step.answer_origin held (by rw [signed]; cases other <;> rfl) with ⟨before, held, same⟩ | ⟨issued, event, own⟩
  · exact unanswered key before held (same.trans signed)
  · cases event
    have subjects := congrArg Actions.CommandIdentity.subject (own.symm.trans signed)
    rw [DecisionStageCommand.identity_subject, DecisionStageCommand.identity_subject] at subjects
    exact different (Option.some.inj subjects)

variable {commands : List (Actions.Ports × DecisionStageCommand)}

theorem stageAll_ok (keyed : Keyed stage) (fresh : ∀ command ∈ commands, Unanswered stage command.2)
    (once : (commands.map fun command => command.2.subject).Nodup) (success : stageAll stage commands = .ok next) :
    (∀ command ∈ commands, Carried stage next command.2) ∧
      Frame (commands.map fun command => command.2.subject) stage next := by
  induction commands generalizing stage with
  | nil =>
    cases success
    exact ⟨fun _ member => absurd member List.not_mem_nil, .refl _⟩
  | cons command commands ih =>
    obtain ⟨between, first, rest⟩ := bind_ok.mp success
    obtain ⟨apart, once⟩ := List.nodup_cons.mp once
    obtain ⟨_, answered | step⟩ := stageCommand_ok first
    · exact absurd (fresh command List.mem_cons_self) answered
    have different {other : Actions.Ports × DecisionStageCommand} (member : other ∈ commands) :
        command.2.subject ≠ other.2.subject :=
      fun same => apart (List.mem_map.mpr ⟨other, member, same.symm⟩)
    obtain ⟨carried, frame⟩ := staged_carried keyed step
    obtain ⟨others, onwards⟩ := ih (keyed.step step)
      (fun other member => (fresh other (List.mem_cons_of_mem _ member)).staged (different member) step) once rest
    refine ⟨?_, frame.trans onwards⟩
    intro other member
    rcases List.mem_cons.mp member with rfl | member
    · exact carried.framed (.refl _) onwards List.not_mem_nil apart
    · have apart : other.2.subject ∉ [command.2.subject] := by
        rw [List.mem_singleton]
        exact (different member).symm
      exact (others other member).framed frame (.refl _) apart List.not_mem_nil

theorem stageAll_run (success : stageAll stage commands = .ok next) :
    StoreRun stage (commands.map fun command => (command.1, .staged command.2)) next := by
  have same : commands.foldl (fun stage command => stageDecisionCommand stage command.1 command.2) stage = next := by
    induction commands generalizing stage with
    | nil => exact Except.ok.inj success
    | cons command commands ih =>
      obtain ⟨between, first, rest⟩ := bind_ok.mp success
      rw [List.foldl_cons, (stageCommand_ok first).1, ih rest]
  rw [← same]
  exact Actions.commands_run commands stage

end MissionControl.Decisions

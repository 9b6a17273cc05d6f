import MissionControl.Actions.Pins
import MissionControl.Proofs.ActionStructure

/-! What an operation other than a governed lowering does to the classification of
an Action. Completing starts again from the commitment while there is no support
yet, and is the one operation that can lower. -/

namespace MissionControl.ActionClassification
open Actions

def isLowering : Operation → Bool
  | .approveAndExecuteLowerActionClassification _ => true
  | _ => false

def NeverLowers (before after : Store) : Prop :=
  ∀ {id : ActionId} {record : ActionRecord}, before.actions[id]? = some record →
    record.classification ≠ .unclassified → ∃ later, after.actions[id]? = some later ∧
      record.classification.combine later.classification = later.classification

def completedClassification (intent : WorkManagementPreparedIntent) (record : ActionRecord)
    (evidence : List EvidenceReferenceMetadata) : DataClassification :=
  DataClassification.combineAll record.commitmentClassification
    (evidence.map (·.classification) ++ (preparedJudgments intent).map (·.classification))

section
variable [Sha256] {ports : Ports} {store next : Store} {event : Event}

variable {receipt : WorkManagementApprovalReceipt} {intent : WorkManagementPreparedIntent}

variable {record : ActionRecord} {snapshot : AuthoritativeSnapshot} {support : Option SupportWitness}
  {reason : Option ActionDetails} {command : ApproveAndExecute} {target : TransitionTarget}
  {later : AggregateVersion} {audited : AuditEvent}

theorem complete_support
    (facts : Transitioned store ports .complete command intent target reason record snapshot support receipt later
      audited next) :
    ∃ disposition, (EvidenceOrJudgment.mk snapshot.evidence (preparedJudgments intent)).classifications ≠ [] ∧
      intent.preview.support = some
        ((EvidenceOrJudgment.mk snapshot.evidence (preparedJudgments intent)).witness .evidenceRequired disposition) := by
  have supported := facts.supported
  simp only [currentSupport, Checked.bind_ok, Checked.relabel_ok, Checked.pure_ok] at supported
  obtain ⟨offered, offers, witness, satisfied, same⟩ := supported
  obtain ⟨⟨disposition, rfl⟩, evidence⟩ := EvidenceOrJudgment.evaluateEvidenceRequired_ok satisfied
  obtain rfl := offered_ok offers
  refine ⟨disposition, ?_, facts.validated.revalidated.shown.trans same.symm⟩
  simp only [EvidenceOrJudgment.classifications, ne_eq, List.append_eq_nil_iff, List.map_eq_nil_iff, not_and]
  exact fun empty => absurd empty evidence

theorem complete_classification
    (facts : Transitioned store ports .complete command intent target reason record snapshot support receipt later
      audited next) (unsupported : record.support = none) :
    executedClassification .complete intent snapshot.classification =
      completedClassification intent record snapshot.evidence := by
  obtain ⟨disposition, shown, witness⟩ := complete_support facts
  obtain ⟨resolved, snapshotFacts⟩ := authoritativeActionSnapshot_ok.mp facts.resolved
  refine eq_of_forall_ge_iff fun bound => ?_
  simp only [executedClassification, witness, Option.map_some, Option.getD_some, DataClassification.combine_eq_sup,
    sup_le_iff, EvidenceOrJudgment.witness_classification_le_iff _ _ _ shown, snapshotFacts.classification,
    baseClassification, unsupported, completedClassification, DataClassification.combineAll_le_iff,
    EvidenceOrJudgment.classifications]
  simp only [Option.isSome_none, Bool.false_eq_true, ↓reduceIte, List.mem_append]
  constructor
  · rintro ⟨⟨base, evidence⟩, all⟩
    exact ⟨base, all⟩
  · rintro ⟨base, all⟩
    exact ⟨⟨base, fun item member => all item (.inl member)⟩, all⟩

/-- A preview of cancelling or reopening was refused when it would lower, and is
executed only at the version and with the classification it was prepared with. -/
theorem transition_keeps {kind : PreparedActionTransitionKind}
    (facts : Transitioned store ports kind command intent target reason record snapshot support receipt later
      audited next) (kept : PreviewsKept store) (other : kind ≠ .complete) :
    keepsClassification record (executedClassification kind intent snapshot.classification) := by
  have target := facts.validated.revalidated.target
  have relied := kept facts.pending
  have targeted := facts.targeted
  have found := facts.found
  have current := facts.current
  cases kind with
  | complete => exact absurd rfl other
  | cancel =>
    cases named : intent.operation <;> simp only [named, transitionTarget, Option.some.injEq, reduceCtorEq] at targeted
    subst targeted
    rw [PreviewKept, named] at relied
    obtain ⟨pinned, stored, _, holds⟩ := relied
    cases found.symm.trans stored
    exact (show targetClassification intent = snapshot.classification from target) ▸ holds current
  | reopen =>
    cases named : intent.operation <;> simp only [named, transitionTarget, Option.some.injEq, reduceCtorEq] at targeted
    subst targeted
    rw [PreviewKept, named] at relied
    obtain ⟨pinned, stored, _, holds⟩ := relied
    cases found.symm.trans stored
    exact (show targetClassification intent = snapshot.classification from target) ▸ (holds current).1

/-- A completion that takes effect for an Action without support leads at least to
what the Action holds. -/
def CompletionsCovered (store : Store) (ports : Ports) : Operation → Prop
  | .approveAndExecuteCompleteAction command => ∀ {intent : WorkManagementPreparedIntent} {target : TransitionTarget}
      {reason : Option ActionDetails} {record : ActionRecord} {snapshot : AuthoritativeSnapshot}
      {support : Option SupportWitness} {receipt : WorkManagementApprovalReceipt} {later : AggregateVersion}
      {audited : AuditEvent} {next : Store},
      Transitioned store ports .complete command intent target reason record snapshot support receipt later audited
        next →
      record.support = none → record.classification ≠ .unclassified →
      record.classification ≤ completedClassification intent record snapshot.evidence
  | _ => True

omit [Sha256] in
theorem keepsClassification_le {current : DataClassification} (keeps : keepsClassification record current)
    (known : record.classification ≠ .unclassified) : record.classification ≤ current :=
  DataClassification.combine_eq_right.mp (keeps.resolve_left known)

theorem change_keeps {operation : Operation} {before after : ActionRecord}
    (change : ActionChange ports store (.operation operation) before after) (kept : PreviewsKept store)
    (other : isLowering operation = false) (covered : CompletionsCovered store ports operation)
    (known : before.classification ≠ .unclassified) : before.classification ≤ after.classification := by
  cases change with
  | started _ => exact le_rfl
  | linked _ => simp only [linkedRecord, DataClassification.combine_eq_sup, le_sup_left]
  | lowered _ => simp [isLowering] at other
  | @transitioned _ kind command intent _ _ _ snapshot _ _ _ _ _ executes facts =>
    by_cases completes : kind = .complete
    · subst completes
      have named : operation = .approveAndExecuteCompleteAction command := by
        cases operation <;> simp_all [Actions.Operation.executing]
      subst named
      cases supported : before.support with
      | none =>
        simp only [executedRecord, complete_classification facts supported]
        exact covered facts supported known
      | some witness =>
        obtain ⟨resolved, snapshotFacts⟩ := authoritativeActionSnapshot_ok.mp facts.resolved
        have base : baseClassification before = before.classification := by simp [baseClassification, supported]
        calc before.classification
            ≤ snapshot.classification := by
              rw [snapshotFacts.classification, base]
              exact DataClassification.le_combineAll _ _
          _ ≤ executedClassification .complete intent snapshot.classification := by
              simp only [executedClassification, DataClassification.combine_eq_sup, le_sup_left]
    · exact keepsClassification_le (transition_keeps facts kept completes) known

theorem staged_raises {command : DecisionStageCommand} {before after : ActionRecord}
    (change : ActionChange ports store (.staged command) before after) :
    before.classification ≤ after.classification := by
  cases change with
  | marked _ => simp only [markedAction, DataClassification.combine_eq_sup, le_sup_left]

theorem stepped_keeps {service later : Service} {operation : Operation}
    (stepped : Stepped service ports operation later) (keyed : Keyed service.store) (kept : PreviewsKept service.store)
    (other : isLowering operation = false) (covered : CompletionsCovered service.store ports operation) :
    NeverLowers service.store later.store := by
  intro id record found known
  rcases stepped with same | step
  · exact ⟨record, same ▸ found, DataClassification.combine_eq_right.mpr le_rfl⟩
  · obtain ⟨after, stored, rfl | change⟩ := step.action_kept keyed found
    · exact ⟨_, stored, DataClassification.combine_eq_right.mpr le_rfl⟩
    · exact ⟨after, stored, DataClassification.combine_eq_right.mpr (change_keeps change kept other covered known)⟩

theorem stage_keeps {seen : List Label} {start : Store} (run : StoreRun start seen store) (keyed : Keyed start)
    (staged : ∀ label ∈ seen, ∃ command, label.2 = .staged command) : NeverLowers start store := by
  have raised : Keyed store ∧ ∀ {id : ActionId} {record : ActionRecord}, start.actions[id]? = some record →
      ∃ later, store.actions[id]? = some later ∧ record.classification ≤ later.classification := by
    refine run.invariantAlong (fun (seen : List Label) => ∀ label ∈ seen, ∃ command, label.2 = .staged command)
      (fun _ reached => Keyed reached ∧ ∀ {id : ActionId} {record : ActionRecord}, start.actions[id]? = some record →
        ∃ later, reached.actions[id]? = some later ∧ record.classification ≤ later.classification)
      (fun _ _ all label member => all label (List.mem_append_left _ member)) (fun _ _ _ holds => holds) ?_ staged
      ⟨keyed, fun found => ⟨_, found, le_rfl⟩⟩
    rintro seen ⟨asked, event⟩ before after all step ⟨keyed, raised⟩
    obtain ⟨command, rfl⟩ : ∃ command, event = .staged command := all (asked, event) (by simp)
    refine ⟨keyed.step step, fun found => ?_⟩
    obtain ⟨middle, stored, above⟩ := raised found
    obtain ⟨later, kept, rfl | change⟩ := step.action_kept keyed stored
    · exact ⟨_, kept, above⟩
    · exact ⟨later, kept, above.trans (staged_raises change)⟩
  intro id record found _
  obtain ⟨later, stored, above⟩ := raised.2 found
  exact ⟨later, stored, DataClassification.combine_eq_right.mpr above⟩

theorem operation_keeps (service : Service) (operation : Operation) (keyed : Keyed service.store)
    (kept : PreviewsKept service.store) (other : isLowering operation = false)
    (covered : CompletionsCovered service.store ports operation) :
    NeverLowers service.store (step service ports operation).1.store := by
  by_cases commits : ∃ commands, operation = .commitDecisionStage commands
  · obtain ⟨commands, rfl⟩ := commits
    refine stage_keeps (step_run service ports (.commitDecisionStage commands)) keyed ?_
    simp only [Operation.labels, List.mem_map, forall_exists_index, and_imp]
    rintro _ command _ rfl
    exact ⟨command.2, rfl⟩
  · exact stepped_keeps (step_store operation fun commands same => commits ⟨commands, same⟩) keyed kept other covered

end

open ActionStructure.Journey

end MissionControl.ActionClassification

import MissionControl.Domain.Canonical
import MissionControl.Lib.Repeats
import MissionControl.Proofs.EvidenceGate

/-! What a preparation establishes, in whatever order the lists of its operation are given: how the
preview is classified, what it names, and when it expires. -/

namespace MissionControl.Preparation
open Repeats

/-- A record that an operation lists. -/
inductive Listed where
  | actionRequest (id : ActionRequestId)
  | action (id : ActionId)
  | evidence (id : EvidenceReferenceId)
  deriving DecidableEq

def workListed : IncompleteDownstreamWork → Listed
  | .actionRequest id _ _ => .actionRequest id
  | .action id _ _ => .action id

def ofTarget : WorkManagementTarget → List Listed
  | .actionRequest id _ => [.actionRequest id]
  | .action id _ => [.action id]
  | _ => []

def ofEffect : WorkManagementEffect → List Listed
  | .acceptActionRequest id | .createResultingActionRequest id | .linkDecisionToActionRequest _ id
  | .flagSupersededPremiseActionRequest id => [.actionRequest id]
  | .createAction id | .completeAction id | .cancelAction id | .reopenAction id | .flagSupersededPremiseAction id
  | .lowerActionClassification id => [.action id]
  | .linkActionRequestToAction request action => [.actionRequest request, .action action]
  | _ => []

def ofSource : WorkManagementClassificationSource → List Listed
  | ⟨.evidence id, _⟩ => [.evidence id]
  | ⟨.downstreamActionRequest id, _⟩ | ⟨.resultingActionRequest id, _⟩ => [.actionRequest id]
  | ⟨.downstreamAction id, _⟩ => [.action id]
  | _ => []

def naming (effects : List WorkManagementEffect) (record : Listed) : List WorkManagementEffect :=
  effects.filter fun effect => decide (record ∈ ofEffect effect)

def createdDecision : WorkManagementOperation → Option DecisionId
  | .resolveDecisionRequest _ _ decisionId .. => some decisionId
  | .supersedeDecision _ _ replacementDecisionId .. => some replacementDecisionId
  | _ => none

def workOf (operation : WorkManagementOperation) : List Listed :=
  (operation.resultingActionRequests.map fun request => .actionRequest request.id) ++
    operation.incompleteDownstream.map workListed

def evidenceOf (operation : WorkManagementOperation) : List Listed :=
  operation.evidenceClassifications.map fun binding => .evidence binding.evidenceId

def listedOf (operation : WorkManagementOperation) : List Listed := workOf operation ++ evidenceOf operation

def createdClassification : WorkManagementOperation → Option DataClassification
  | .acceptActionRequest _ _ _ actionClassification .. => some actionClassification
  | .resolveDecisionRequest _ _ _ decisionClassification .. => some decisionClassification
  | .supersedeDecision _ _ _ _ replacementDecisionClassification .. => some replacementDecisionClassification
  | .recordRiskOccurrence _ _ _ issueClassification => some issueClassification
  | _ => none

def workClassification : IncompleteDownstreamWork → DataClassification
  | .actionRequest _ _ classification | .action _ _ classification => classification

/-- All that a preview's classification comes from. -/
inductive Source (operation : WorkManagementOperation) (targetClassification : DataClassification)
    (support : Option SupportWitness) : DataClassification → Prop where
  | target : Source operation targetClassification support targetClassification
  | created {classification} (creates : createdClassification operation = some classification) :
      Source operation targetClassification support classification
  | resulting {request} (among : request ∈ operation.resultingActionRequests) :
      Source operation targetClassification support request.classification
  | downstream {work} (among : work ∈ operation.incompleteDownstream) :
      Source operation targetClassification support (workClassification work)
  | bound {binding} (among : binding ∈ operation.evidenceClassifications) :
      Source operation targetClassification support binding.classification
  | evidence {witness} (shown : support = some witness) {reference} (among : reference ∈ witness.evidence) :
      Source operation targetClassification support reference.classification
  | judgment {witness} (shown : support = some witness) {judgment} (among : judgment ∈ witness.judgments) :
      Source operation targetClassification support judgment.classification

def Concluded (support : Option SupportWitness) : Prop :=
  ∀ witness, support = some witness → ∃ offered : EvidenceOrJudgment,
    offered.evaluateEvidenceRequired = .ok witness ∨ offered.evaluateEvidenceOrJudgment = .ok witness

structure Prepared (operation : WorkManagementOperation) (targetClassification : DataClassification)
    (support : Option SupportWitness) (now : UtcTimestamp) (preview : WorkManagementPreview) : Prop where
  classified : ∀ classification, Source operation targetClassification support classification →
    classification ≠ .unclassified
  least : IsLUB {classification | Source operation targetClassification support classification} preview.classification
  declared : ∀ classification, Source operation targetClassification support classification ↔
    classification ∈ preview.classificationSources.map (·.classification)
  targets : ∀ record ∈ workOf operation, (preview.targets.flatMap ofTarget).count record = 1
  created : ∀ request ∈ operation.resultingActionRequests, ∃ decision,
    createdDecision operation = some decision ∧ naming preview.effects (.actionRequest request.id) =
      [.createResultingActionRequest request.id, .linkDecisionToActionRequest decision request.id]
  flagged : ∀ work ∈ operation.incompleteDownstream,
    naming preview.effects (workListed work) = [work.effect]
  bound : ∀ record ∈ listedOf operation, (preview.classificationSources.flatMap ofSource).count record = 1
  expires : preview.expiresAt.unixMillis = now.unixMillis + 300000

def PreparesCanonically (operation : WorkManagementOperation) (targetClassification : DataClassification)
    (support : Option SupportWitness) (now : UtcTimestamp) : Prop :=
  ∀ id, (∀ other, Rearranges operation other →
      WorkManagementPreparedIntent.prepare id other targetClassification support now =
        WorkManagementPreparedIntent.prepare id operation targetClassification support now) ∧
    ∀ prepared, WorkManagementPreparedIntent.prepare id operation targetClassification support now = .ok prepared →
      Prepared operation targetClassification support now prepared.preview

section
variable {operation other canonical : WorkManagementOperation}

theorem requests_distinct {requests : List DecisionResultingActionRequest}
    (apart : repeatsResulting (sortResulting requests) = false) :
    ((sortResulting requests).map fun request => Listed.actionRequest request.id).Nodup := by
  have ids := distinct_of_sorted (fun request : DecisionResultingActionRequest => request.id)
    (Sorting.sorted _ requests) apart
  have listed := ids.map fun _ _ same => Listed.actionRequest.inj same
  rwa [List.map_map] at listed

theorem bindings_distinct {bindings : List EvidenceClassificationBinding}
    (apart : repeatsBinding (sortBindings bindings) = false) :
    ((sortBindings bindings).map fun binding => Listed.evidence binding.evidenceId).Nodup := by
  have ids := distinct_of_sorted (fun binding : EvidenceClassificationBinding => binding.evidenceId)
    (Sorting.sorted _ bindings) apart
  have listed := ids.map fun _ _ same => Listed.evidence.inj same
  rwa [List.map_map] at listed

theorem work_distinct {work : List IncompleteDownstreamWork}
    (apart : anyAdjacent sameDownstreamIdentity (sortDownstream work) = false) :
    ((sortDownstream work).map workListed).Nodup := by
  rw [sameDownstreamIdentity_eq, sortDownstream_eq] at apart
  have keys := distinct_of_sorted downstreamKey (Sorting.sorted _ work) apart
  rw [← sortDownstream_eq] at keys
  refine List.Nodup.of_map (fun listed : Listed => match listed with
    | .actionRequest id => toLex (id.asStr, 0)
    | .action id => toLex (id.asStr, 1)
    | .evidence id => toLex (id.asStr, 2)) ?_
  rw [List.map_map]
  have same : (sortDownstream work).map downstreamKey = _ := List.map_congr_left fun item _ => by
    show downstreamKey item = ((fun listed : Listed => match listed with
      | .actionRequest id => toLex (id.asStr, 0)
      | .action id => toLex (id.asStr, 1)
      | .evidence id => toLex (id.asStr, 2)) ∘ workListed) item
    cases item <;> rfl
  rwa [same] at keys

theorem canonical_listed (success : canonicalOperation operation = .ok canonical) : (listedOf canonical).Nodup := by
  cases operation with
  | resolveDecisionRequest =>
    simp only [canonicalOperation] at success
    split at success
    · cases success
    next apart =>
      cases success
      simpa [listedOf, workOf, evidenceOf, WorkManagementOperation.resultingActionRequests,
        WorkManagementOperation.incompleteDownstream, WorkManagementOperation.evidenceClassifications]
        using requests_distinct (eq_false_of_ne_true apart)
  | supersedeDecision =>
    simp only [canonicalOperation] at success
    split at success
    · cases success
    split at success
    · cases success
    next apart =>
      cases success
      simp only [Bool.or_eq_true, not_or, Bool.not_eq_true] at apart
      obtain ⟨⟨requests, work⟩, crossing⟩ := apart
      simp only [listedOf, workOf, evidenceOf, WorkManagementOperation.resultingActionRequests,
        WorkManagementOperation.incompleteDownstream, WorkManagementOperation.evidenceClassifications, List.map_nil,
        List.append_nil]
      refine (requests_distinct requests).append (work_distinct work) ?_
      intro record resulting downstream
      obtain ⟨request, among, rfl⟩ := List.mem_map.mp resulting
      obtain ⟨item, within, same⟩ := List.mem_map.mp downstream
      simp only [flagsResulting, List.any_eq_false, Bool.not_eq_true] at crossing
      have other := crossing request among item within
      cases item with
      | actionRequest id => simp [Listed.actionRequest.inj same] at other
      | action id => cases same
  | cancelAction | reopenAction =>
    simp only [canonicalOperation] at success
    split at success
    · cases success
    next apart =>
      cases success
      exact bindings_distinct (eq_false_of_ne_true apart)
  | _ =>
    cases success
    exact List.nodup_nil

theorem listed_rearranged (rearranged : Rearranges operation other) : (listedOf other).Perm (listedOf operation) :=
  ((rearranged.resulting.map _).append (rearranged.downstream.map _)).append (rearranged.bindings.map _)

theorem work_rearranged (rearranged : Rearranges operation other) : (workOf other).Perm (workOf operation) :=
  (rearranged.resulting.map _).append (rearranged.downstream.map _)

end

section
variable {operation : WorkManagementOperation}

theorem named_each {Item Entry : Type} {make : Item → Entry} {names : Entry → List Listed} {name : Item → Listed}
    (same : ∀ item, names (make item) = [name item]) (items : List Item) :
    (items.map make).flatMap names = items.map name := by
  rw [List.flatMap_map, List.map_eq_flatMap]
  exact List.flatMap_congr fun item _ => same item

theorem targets_work (lists : workOf operation ≠ []) : operation.targets.flatMap ofTarget = workOf operation := by
  have requested (requests : List DecisionResultingActionRequest) :
      (requests.map fun item => WorkManagementTarget.actionRequest item.id .initial).flatMap ofTarget =
        requests.map fun request => .actionRequest request.id := by
    apply named_each
    exact fun _ => rfl
  have flagged (work : List IncompleteDownstreamWork) :
      (work.map (·.target)).flatMap ofTarget = work.map workListed := named_each (fun item => by cases item <;> rfl) work
  cases operation with
  | resolveDecisionRequest =>
    simp only [WorkManagementOperation.targets, List.flatMap_append, requested]
    exact (List.append_nil _).symm
  | supersedeDecision =>
    simp only [WorkManagementOperation.targets, List.flatMap_append, requested, flagged]
    rfl
  | _ => exact absurd rfl lists

theorem sources_listed (lists : listedOf operation ≠ []) :
    operation.classificationSources.flatMap ofSource = listedOf operation := by
  have requested (requests : List DecisionResultingActionRequest) :
      (requests.map fun item => WorkManagementClassificationSource.mk (.resultingActionRequest item.id) item.classification).flatMap
        ofSource = requests.map fun request => .actionRequest request.id := by
    apply named_each
    exact fun _ => rfl
  have flagged (work : List IncompleteDownstreamWork) :
      (work.map (·.classificationSource)).flatMap ofSource = work.map workListed :=
    named_each (fun item => by cases item <;> rfl) work
  have bound (bindings : List EvidenceClassificationBinding) :
      (bindings.map fun binding => WorkManagementClassificationSource.mk (.evidence binding.evidenceId) binding.classification).flatMap
        ofSource = bindings.map fun binding => .evidence binding.evidenceId := by
    apply named_each
    exact fun _ => rfl
  cases operation with
  | resolveDecisionRequest =>
    simp only [WorkManagementOperation.classificationSources, List.flatMap_cons, requested]
    simp [listedOf, workOf, evidenceOf, ofSource, WorkManagementOperation.resultingActionRequests,
      WorkManagementOperation.incompleteDownstream, WorkManagementOperation.evidenceClassifications]
  | supersedeDecision =>
    simp only [WorkManagementOperation.classificationSources, List.flatMap_append, List.flatMap_cons, requested, flagged]
    simp [listedOf, workOf, evidenceOf, ofSource, WorkManagementOperation.resultingActionRequests,
      WorkManagementOperation.incompleteDownstream, WorkManagementOperation.evidenceClassifications]
  | cancelAction | reopenAction =>
    simp only [WorkManagementOperation.classificationSources, bound]
    rfl
  | _ => exact absurd rfl lists

theorem naming_resulting {decision : DecisionId} {requests : List DecisionResultingActionRequest}
    (distinct : (requests.map fun request => Listed.actionRequest request.id).Nodup) {request : DecisionResultingActionRequest}
    (among : request ∈ requests) :
    naming (requests.flatMap fun item => [.createResultingActionRequest item.id, .linkDecisionToActionRequest decision item.id])
      (.actionRequest request.id) =
        [.createResultingActionRequest request.id, .linkDecisionToActionRequest decision request.id] := by
  apply filter_named (fun effect record => decide (record ∈ ofEffect effect)) distinct ?_ among
  intro item _ effect given wanted
  rw [decide_eq_true_eq]
  simp only [List.mem_cons, List.not_mem_nil, or_false] at given
  rcases given with rfl | rfl <;> exact List.mem_singleton

theorem naming_downstream {work : List IncompleteDownstreamWork} (distinct : (work.map workListed).Nodup)
    {item : IncompleteDownstreamWork} (among : item ∈ work) :
    naming (work.map (·.effect)) (workListed item) = [item.effect] := by
  rw [List.map_eq_flatMap]
  apply filter_named (fun effect record => decide (record ∈ ofEffect effect)) distinct ?_ among
  intro other _ effect given wanted
  rw [decide_eq_true_eq, List.mem_singleton.mp given]
  cases other <;> exact List.mem_singleton

theorem naming_other {effects : List WorkManagementEffect} {record : Listed}
    (absent : ∀ effect ∈ effects, record ∉ ofEffect effect) : naming effects record = [] := by
  rw [naming, List.filter_eq_nil_iff]
  intro effect among
  simpa using absent effect among

end

section
variable {operation other : WorkManagementOperation} {targetClassification classification : DataClassification}
  {support : Option SupportWitness}

theorem source_cases : Source operation targetClassification support classification ↔
    classification = targetClassification ∨ (createdClassification operation = some classification ∨
      (∃ request ∈ operation.resultingActionRequests, request.classification = classification) ∨
      (∃ item ∈ operation.incompleteDownstream, workClassification item = classification) ∨
      ∃ binding ∈ operation.evidenceClassifications, binding.classification = classification) ∨
    ∃ witness, support = some witness ∧ ((∃ reference ∈ witness.evidence, reference.classification = classification) ∨
      ∃ judgment ∈ witness.judgments, judgment.classification = classification) := by
  constructor
  · intro source
    cases source with
    | target => exact .inl rfl
    | created creates => exact .inr (.inl (.inl creates))
    | resulting among => exact .inr (.inl (.inr (.inl ⟨_, among, rfl⟩)))
    | downstream among => exact .inr (.inl (.inr (.inr (.inl ⟨_, among, rfl⟩))))
    | bound among => exact .inr (.inl (.inr (.inr (.inr ⟨_, among, rfl⟩))))
    | evidence shown among => exact .inr (.inr ⟨_, shown, .inl ⟨_, among, rfl⟩⟩)
    | judgment shown among => exact .inr (.inr ⟨_, shown, .inr ⟨_, among, rfl⟩⟩)
  · rintro (rfl | (creates | ⟨_, among, rfl⟩ | ⟨_, among, rfl⟩ | ⟨_, among, rfl⟩) |
      ⟨_, shown, ⟨_, among, rfl⟩ | ⟨_, among, rfl⟩⟩)
    · exact .target
    · exact .created creates
    · exact .resulting among
    · exact .downstream among
    · exact .bound among
    · exact .evidence shown among
    · exact .judgment shown among

theorem source_iff : Source operation targetClassification support classification ↔
    classification ∈ (previewSources operation targetClassification support).map (·.classification) := by
  have work : ∀ item : IncompleteDownstreamWork, item.classificationSource.classification = workClassification item := by
    rintro (_ | _) <;> rfl
  rw [source_cases, previewSources, List.map_cons, List.map_append, List.mem_cons, List.mem_append]
  refine or_congr .rfl (or_congr ?_ ?_)
  · cases operation <;>
      simp [WorkManagementOperation.classificationSources, createdClassification,
        WorkManagementOperation.resultingActionRequests, WorkManagementOperation.incompleteDownstream,
        WorkManagementOperation.evidenceClassifications, work, eq_comm]
  · cases support <;> simp [supportSources]

theorem created_rearranged (rearranged : Rearranges operation other) :
    createdClassification other = createdClassification operation := by
  obtain ⟨_, _, _, _, _, _, rfl⟩ := rearranged
  cases operation <;> rfl

theorem decision_rearranged (rearranged : Rearranges operation other) :
    createdDecision other = createdDecision operation := by
  obtain ⟨_, _, _, _, _, _, rfl⟩ := rearranged
  cases operation <;> rfl

theorem source_rearranged (rearranged : Rearranges operation other) :
    Source other targetClassification support classification ↔ Source operation targetClassification support classification := by
  simp only [source_cases, created_rearranged rearranged, rearranged.resulting.mem_iff, rearranged.downstream.mem_iff,
    rearranged.bindings.mem_iff]

end

section
variable {operation canonical : WorkManagementOperation} {targetClassification : DataClassification}
  {support : Option SupportWitness} {id : PreparedIntentId} {now expiresAt : UtcTimestamp}

theorem concluded_le_iff (concluded : Concluded support) {witness : SupportWitness} (shown : support = some witness)
    {bound : DataClassification} : witness.classification ≤ bound ↔
      (∀ reference ∈ witness.evidence, reference.classification ≤ bound) ∧
        ∀ judgment ∈ witness.judgments, judgment.classification ≤ bound := by
  have least : ∃ offered : EvidenceOrJudgment, witness.evidence = offered.evidence ∧
      witness.judgments = offered.judgments ∧
        IsLUB {classification | classification ∈ offered.classifications} witness.classification := by
    obtain ⟨offered, required | either⟩ := concluded witness shown
    · obtain ⟨_, some, rfl⟩ := EvidenceGate.required_ok_iff.mp required
      exact ⟨offered, rfl, rfl, EvidenceGate.isLUB_witness (.inl some) _ _⟩
    · obtain ⟨_, some, rfl⟩ := EvidenceGate.either_ok_iff.mp either
      exact ⟨offered, rfl, rfl, EvidenceGate.isLUB_witness some _ _⟩
  obtain ⟨offered, evidence, judgments, least⟩ := least
  rw [isLUB_le_iff least, evidence, judgments]
  simp [upperBounds, EvidenceOrJudgment.classifications, or_imp, forall_and]

theorem preview_le_iff (concluded : Concluded support) {bound : DataClassification} :
    previewClassification operation targetClassification support ≤ bound ↔
      ∀ classification, Source operation targetClassification support classification → classification ≤ bound := by
  have total : DataClassification.combineAll targetClassification
      ((previewSources operation targetClassification support).map (·.classification)) ≤ bound ↔
        ∀ classification, Source operation targetClassification support classification → classification ≤ bound := by
    rw [DataClassification.combineAll_le_iff]
    constructor
    · rintro ⟨_, sources⟩ classification source
      exact sources classification (source_iff.mp source)
    · intro sources
      exact ⟨sources _ .target, fun classification among => sources _ (source_iff.mpr among)⟩
  cases support with
  | none => exact total
  | some witness =>
    simp only [previewClassification]
    rw [DataClassification.combine_eq_sup, sup_le_iff, total, concluded_le_iff concluded rfl]
    constructor
    · exact fun both => both.1
    · intro sources
      exact ⟨sources, fun reference among => sources _ (.evidence rfl among),
        fun judgment among => sources _ (.judgment rfl among)⟩

theorem isLUB_preview (concluded : Concluded support) :
    IsLUB {classification | Source operation targetClassification support classification}
      (previewClassification operation targetClassification support) := by
  constructor
  · intro classification source
    exact (preview_le_iff concluded).mp le_rfl classification source
  · intro bound upper
    exact (preview_le_iff concluded).mpr fun classification source => upper source

theorem admitted_classified (admission : Admission operation targetClassification support) {classification : DataClassification}
    (source : Source operation targetClassification support classification) : classification ≠ .unclassified := by
  rintro rfl
  have known := admission.classified
  rw [bindsUnclassified, List.contains_iff_mem.mpr (source_iff.mp source)] at known
  simp at known

theorem unsupported (admission : Admission operation targetClassification support)
    (bound : evidenceOf operation ≠ []) : support = none := by
  have requirement := admission.requirement
  cases operation with
  | cancelAction | reopenAction =>
    cases support with
    | none => rfl
    | some => cases requirement
  | _ => exact absurd rfl bound

theorem sources_count (admission : Admission operation targetClassification support)
    (distinct : (listedOf operation).Nodup) {record : Listed} (listed : record ∈ listedOf operation) :
    ((previewSources operation targetClassification support).flatMap ofSource).count record = 1 := by
  have own := List.count_eq_one_of_mem distinct listed
  have shown : ((supportSources support).flatMap ofSource).count record = 0 := by
    rw [List.count_eq_zero]
    intro supported
    obtain ⟨source, among, named⟩ := List.mem_flatMap.mp supported
    rcases List.mem_append.mp listed with work | bound
    · cases support with
      | none => cases among
      | some witness =>
        simp only [supportSources, List.mem_append, List.mem_map] at among
        rcases among with ⟨_, _, rfl⟩ | ⟨_, _, rfl⟩
        · rw [List.mem_singleton.mp named] at work
          rcases List.mem_append.mp work with resulting | downstream
          · obtain ⟨_, _, same⟩ := List.mem_map.mp resulting
            cases same
          · obtain ⟨item, _, same⟩ := List.mem_map.mp downstream
            cases item <;> cases same
        · cases named
    · rw [unsupported admission (List.ne_nil_of_mem bound)] at among
      cases among
  have primary : ofSource ⟨.primaryTarget, targetClassification⟩ = [] := rfl
  rw [previewSources, List.flatMap_cons, List.flatMap_append, primary, List.nil_append, List.count_append,
    sources_listed (List.ne_nil_of_mem listed), own, shown]

theorem created_effects (distinct : (listedOf operation).Nodup) {request : DecisionResultingActionRequest}
    (among : request ∈ operation.resultingActionRequests) :
    ∃ decision, createdDecision operation = some decision ∧ naming operation.effects (.actionRequest request.id) =
      [.createResultingActionRequest request.id, .linkDecisionToActionRequest decision request.id] := by
  have work := (List.nodup_append.mp distinct).1
  obtain ⟨requests, _, apart⟩ := List.nodup_append.mp work
  have member : Listed.actionRequest request.id ∈
      operation.resultingActionRequests.map fun request => Listed.actionRequest request.id := List.mem_map_of_mem among
  cases operation with
  | resolveDecisionRequest _ _ decision =>
    refine ⟨decision, rfl, ?_⟩
    rw [WorkManagementOperation.effects, naming, List.filter_append]
    exact naming_resulting requests among
  | supersedeDecision _ _ replacement _ _ _ _ _ _ _ _ downstream =>
    refine ⟨replacement, rfl, ?_⟩
    rw [WorkManagementOperation.effects, naming, List.filter_append, List.filter_append]
    have flagged : naming (downstream.map (·.effect)) (.actionRequest request.id) = [] := naming_other ?_
    · rw [naming] at flagged
      rw [flagged, List.append_nil]
      exact naming_resulting requests among
    · intro effect listed named
      obtain ⟨item, within, rfl⟩ := List.mem_map.mp listed
      refine apart _ member _ (List.mem_map_of_mem within) ?_
      cases item <;> exact List.mem_singleton.mp named
  | _ => cases among

theorem flagged_effects (distinct : (listedOf operation).Nodup) {item : IncompleteDownstreamWork}
    (among : item ∈ operation.incompleteDownstream) : naming operation.effects (workListed item) = [item.effect] := by
  have work := (List.nodup_append.mp distinct).1
  obtain ⟨_, downstream, apart⟩ := List.nodup_append.mp work
  have member : workListed item ∈ operation.incompleteDownstream.map workListed := List.mem_map_of_mem among
  cases operation with
  | supersedeDecision _ _ replacement _ _ _ _ _ _ _ requests =>
    rw [WorkManagementOperation.effects, naming, List.filter_append, List.filter_append]
    have decisions : naming (requests.flatMap fun item =>
        [.createResultingActionRequest item.id, .linkDecisionToActionRequest replacement item.id]) (workListed item) = [] := by
      apply naming_other
      intro effect listed named
      obtain ⟨request, within, given⟩ := List.mem_flatMap.mp listed
      refine apart _ (List.mem_map_of_mem within) _ member ?_
      simp only [List.mem_cons, List.not_mem_nil, or_false] at given
      rcases given with rfl | rfl <;> exact (List.mem_singleton.mp named).symm
    rw [naming] at decisions
    rw [decisions]
    exact naming_downstream downstream among
  | _ => cases among

end

def reason : WorkManagementRationale := ⟨"r", by decide⟩

def cancelled : WorkManagementOperation :=
  .cancelAction ⟨"action-1", .refl true⟩ .initial reason [⟨⟨"evidence-1", .refl true⟩, .internal⟩]

def preparedAt : UtcTimestamp := ⟨0, UtcTimestamp.epoch_lower, UtcTimestamp.epoch_upper⟩

end MissionControl.Preparation

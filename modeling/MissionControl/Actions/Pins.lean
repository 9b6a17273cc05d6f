import MissionControl.Actions.Records
import MissionControl.Lib.Sorting

/-! Previews stay true of the version they were prepared at: a change of an Action
moves its version, so what a preview saw still holds while the version is its own. -/

namespace MissionControl.Actions
open Checked

def targetClassification (intent : WorkManagementPreparedIntent) : DataClassification :=
  (intent.preview.classificationSources.head?.map (·.classification)).getD .unclassified

variable {intent : WorkManagementPreparedIntent} {operation : WorkManagementOperation}
  {classification : DataClassification}

theorem prepared_shape {id : PreparedIntentId} {support : Option SupportWitness} {now : UtcTimestamp}
    (success : WorkManagementPreparedIntent.prepare id operation classification support now = .ok intent) :
    ∃ canonical expiresAt, canonicalOperation operation = .ok canonical ∧
      now.checkedAdd workManagementH2aTtlMillis = some expiresAt ∧ Admission canonical classification support ∧
      intent.preview = previewOf id canonical classification support expiresAt ∧
      targetClassification intent = classification := by
  obtain ⟨canonical, expiresAt, sorted, added, admission, shape⟩ :=
    preparePreview_ok (WorkManagementPreparedIntent.prepare_preview success)
  refine ⟨canonical, expiresAt, sorted, added, admission, shape, ?_⟩
  simp [targetClassification, shape, previewOf, previewSources]

/-- A validated approval acts on exactly what its preview shows. -/
structure Revalidated (intent : WorkManagementPreparedIntent) (operation : WorkManagementOperation)
    (classification : DataClassification) (support : Option SupportWitness) : Prop where
  canonical : canonicalOperation operation = .ok intent.operation
  target : targetClassification intent = classification
  shown : intent.preview.support = support
  total : intent.preview.classification = previewClassification intent.operation classification support
  sources : intent.preview.classificationSources = previewSources intent.operation classification support
  admission : Admission intent.operation classification support

theorem Validated.revalidated [Sha256] {ports : Ports} {approval : WorkManagementApproval}
    {support : Option SupportWitness} {receipt : WorkManagementApprovalReceipt}
    (validated : Validated ports intent approval operation classification support receipt) :
    Revalidated intent operation classification support := by
  obtain ⟨current, prepared, minted⟩ := validated.derived
  obtain ⟨canonical, expiresAt, sorted, _, admission, shape, target⟩ := prepared_shape prepared
  have unchanged := minted.unchanged
  simp only [expectedSnapshot, shape, previewOf, WorkManagementAuthoritativeSnapshot.mk.injEq] at unchanged
  obtain ⟨sameOperation, sameTotal, sameSources, sameSupport, _⟩ := unchanged
  refine ⟨?_, ?_, sameSupport.symm, ?_, ?_, ?_⟩
  · rw [sorted, sameOperation]
  · rw [← target, targetClassification, targetClassification, shape, ← sameSources]
    rfl
  · rw [WorkManagementPreparedIntent.operation, ← sameOperation, ← sameTotal]
  · rw [WorkManagementPreparedIntent.operation, ← sameOperation, ← sameSources]
  · rw [WorkManagementPreparedIntent.operation, ← sameOperation]
    exact admission

structure SnapshotResolved (ports : Ports) (action : ActionRecord) (resolved : List EvidenceReferenceMetadata)
    (snapshot : AuthoritativeSnapshot) : Prop where
  committed : action.commitmentClassification ≠ .unclassified
  resolves : List.Forall₂ (fun id metadata => resolveEvidence ports id = .ok metadata) action.completionEvidence resolved
  known : ∀ item ∈ resolved, item.classification ≠ .unclassified
  classification : snapshot.classification =
    DataClassification.combineAll (baseClassification action) (snapshot.evidence.map (·.classification))
  bindings : snapshot.bindings = sortBindings (snapshot.evidence.map fun item => ⟨item.id, item.classification⟩)
  evidence : snapshot.evidence = sortEvidence resolved

theorem authoritativeActionSnapshot_ok {ports : Ports} {action : ActionRecord} {snapshot : AuthoritativeSnapshot} :
    authoritativeActionSnapshot ports action = .ok snapshot ↔
      ∃ resolved, SnapshotResolved ports action resolved snapshot := by
  simp only [authoritativeActionSnapshot, bind_ok, ensure_ok, mapM_ok, pure_ok]
  constructor
  · rintro ⟨_, committed, resolved, resolves, _, known, rfl⟩
    exact ⟨resolved, committed, resolves, known, rfl, rfl, rfl⟩
  · rintro ⟨resolved, facts⟩
    refine ⟨(), facts.committed, resolved, facts.resolves, (), facts.known, ?_⟩
    obtain ⟨_, _, _, classification, bindings, evidence⟩ := facts
    obtain ⟨total, bound, shown⟩ := snapshot
    simp_all

theorem sortEvidence_again (evidence : List EvidenceReferenceMetadata) :
    sortEvidence (sortEvidence evidence) = sortEvidence evidence :=
  Sorting.again EvidenceReferenceMetadata.id evidence

variable {evidence : List EvidenceReferenceMetadata}

theorem offered_ok {judgments : List HumanJudgment} {offered : EvidenceOrJudgment}
    (offers : EvidenceOrJudgment.new evidence judgments = .ok offered) : offered = ⟨evidence, judgments⟩ := by
  unfold EvidenceOrJudgment.new at offers
  split at offers
  · cases offers
  · exact (Except.ok.inj offers).symm

theorem completeEvidence {judgments : List HumanJudgment} {offered : EvidenceOrJudgment} {support : SupportWitness}
    (offers : EvidenceOrJudgment.new evidence judgments = .ok offered)
    (satisfied : offered.evaluateEvidenceRequired = .ok support) : support.evidence = evidence := by
  obtain ⟨⟨disposition, rfl⟩, _⟩ := EvidenceOrJudgment.evaluateEvidenceRequired_ok satisfied
  rw [offered_ok offers]
  rfl

/-- An Action the preview pinned is still there, no older than the pin, and while
its version is the pinned one the fact holds of it. -/
def Pinned (store : Store) (id : ActionId) (version : AggregateVersion) (fact : ActionRecord → Prop) : Prop :=
  ∃ record, store.actions[id]? = some record ∧ version.get ≤ record.version.get ∧
    (record.version = version → fact record)

def completes (intent : WorkManagementPreparedIntent) (record : ActionRecord) : Prop :=
  ∀ witness, intent.preview.support = some witness → targetClassification intent =
    (DataClassification.combineAll (baseClassification record) (witness.evidence.map (·.classification))).combine
      witness.classification

def PreviewKept (store : Store) (intent : WorkManagementPreparedIntent) : Prop :=
  match intent.operation with
  | .completeAction actionId version => Pinned store actionId version (completes intent) ∧
    ∃ judgment : Option HumanJudgment, preparedJudgments intent = judgment.toList
  | .cancelAction actionId version .. =>
    Pinned store actionId version fun record => keepsClassification record (targetClassification intent)
  | .reopenAction actionId version mode .. =>
    Pinned store actionId version fun record =>
      keepsClassification record (targetClassification intent) ∧ reopenModeMatches record.state mode
  | _ => True

def PreviewsKept (store : Store) : Prop :=
  ∀ {id : PreparedIntentId} {intent : WorkManagementPreparedIntent}, store.prepared[id]? = some intent →
    PreviewKept store intent

variable [Sha256] {ports : Ports} {store next : Store} {event : Event}

theorem ActionChange.advances {before after : ActionRecord} (change : ActionChange ports store event before after) :
    after.version.get = before.version.get + 1 := by
  cases change with
  | started facts | linked facts | lowered facts | marked facts => exact AggregateVersion.next_get facts.advanced
  | transitioned _ facts => exact AggregateVersion.next_get facts.advanced

theorem Pinned.step {id : ActionId} {version : AggregateVersion} {fact : ActionRecord → Prop}
    (pinned : Pinned store id version fact) (keyed : Keyed store) (step : StoreStep ports store event next) :
    Pinned next id version fact := by
  obtain ⟨record, found, bound, holds⟩ := pinned
  obtain ⟨after, kept, rfl | change⟩ := step.action_kept keyed found
  · exact ⟨_, kept, bound, holds⟩
  · have advances := change.advances
    refine ⟨after, kept, by omega, ?_⟩
    rintro rfl
    omega

theorem PreviewKept.step {intent : WorkManagementPreparedIntent} (kept : PreviewKept store intent)
    (keyed : Keyed store) (step : StoreStep ports store event next) : PreviewKept next intent := by
  unfold PreviewKept at kept ⊢
  split
  next named => rw [named] at kept; exact ⟨kept.1.step keyed step, kept.2⟩
  next named => rw [named] at kept; exact kept.step keyed step
  next named => rw [named] at kept; exact kept.step keyed step
  · trivial

omit [Sha256] in
theorem pinned_now {id : ActionId} {version : AggregateVersion} {record : ActionRecord} {fact : ActionRecord → Prop}
    (found : store.actions[id]? = some record) (current : record.version = version) (holds : fact record) :
    Pinned store id version fact :=
  ⟨record, found, by rw [current], fun _ => holds⟩

omit [Sha256] in
theorem Preparation.kept {signature : CommandIdentity} {intent : WorkManagementPreparedIntent}
    (preparation : Preparation store ports signature intent) : PreviewKept store intent := by
  cases preparation with
  | accept success =>
    simp only [acceptPreview, bind_ok] at success
    obtain ⟨_, _, _, _, _, _, _, _, _, _, _, _, success⟩ := success
    obtain ⟨canonical, _, sorted, _, _, shape, _⟩ := prepared_shape (prepare_ok success).2
    obtain rfl := Except.ok.inj sorted
    simp [PreviewKept, WorkManagementPreparedIntent.operation, shape, previewOf]
  | @complete _ _ judgment _ success =>
    simp only [completePreview, bind_ok, ensure_ok, exactAction_ok, relabel_ok] at success
    obtain ⟨record, ⟨found, current⟩, _, legal, _, linked, snapshot, resolved, offered, offers, support, satisfied,
      success⟩ := success
    obtain ⟨canonical, _, sorted, _, _, shape, target⟩ := prepared_shape (prepare_ok success).2
    obtain rfl := Except.ok.inj sorted
    simp only [PreviewKept, WorkManagementPreparedIntent.operation, shape, previewOf]
    refine ⟨pinned_now found current fun witness shown => ?_, judgment, ?_⟩
    · obtain ⟨evidence, facts⟩ := authoritativeActionSnapshot_ok.mp resolved
      have same : witness = support := (Option.some.inj (by simpa [shape, previewOf] using shown)).symm
      rw [target, same, facts.classification, completeEvidence offers satisfied, facts.evidence, sortEvidence_again]
    · simp only [preparedJudgments, shape, previewOf, Option.map_some, Option.getD_some]
      obtain ⟨⟨disposition, rfl⟩, _⟩ := EvidenceOrJudgment.evaluateEvidenceRequired_ok satisfied
      rw [offered_ok offers]
      rfl
  | cancel success =>
    simp only [cancelPreview, bind_ok, ensure_ok, exactAction_ok] at success
    obtain ⟨record, ⟨found, current⟩, _, legal, snapshot, resolved, _, keeps, success⟩ := success
    obtain ⟨canonical, _, sorted, _, _, shape, target⟩ := prepared_shape (prepare_ok success).2
    simp only [canonicalOperation] at sorted
    split at sorted
    · cases sorted
    · obtain rfl := Except.ok.inj sorted
      simp only [PreviewKept, WorkManagementPreparedIntent.operation, shape, previewOf]
      exact pinned_now found current (target ▸ keeps)
  | reopen success =>
    simp only [reopenPreview, bind_ok, ensure_ok, exactAction_ok] at success
    obtain ⟨record, ⟨found, current⟩, _, matched, snapshot, resolved, _, keeps, success⟩ := success
    obtain ⟨canonical, _, sorted, _, _, shape, target⟩ := prepared_shape (prepare_ok success).2
    simp only [canonicalOperation] at sorted
    split at sorted
    · cases sorted
    · obtain rfl := Except.ok.inj sorted
      simp only [PreviewKept, WorkManagementPreparedIntent.operation, shape, previewOf]
      exact pinned_now found current ⟨target ▸ keeps, matched⟩
  | lower success =>
    simp only [lowerPreview, bind_ok] at success
    obtain ⟨_, _, _, _, success⟩ := success
    obtain ⟨canonical, _, sorted, _, _, shape, _⟩ := prepared_shape (prepare_ok success).2
    obtain rfl := Except.ok.inj sorted
    simp [PreviewKept, WorkManagementPreparedIntent.operation, shape, previewOf]

theorem previewsKept_step (kept : PreviewsKept store) (keyed : Keyed store)
    (step : StoreStep ports store event next) : PreviewsKept next := by
  intro id intent pending
  rcases step.pending_origin pending with before | ⟨context, signature, facts, _⟩
  · exact (kept before).step keyed step
  · exact facts.preparation.kept.step keyed step

theorem pins_of_run {seen : List Label} (run : StoreRun .empty seen store) : Keyed store ∧ PreviewsKept store := by
  refine run.invariant (fun reached => Keyed reached ∧ PreviewsKept reached) ?_ ⟨.empty, ?_⟩
  · rintro label before after step ⟨keyed, kept⟩
    exact ⟨keyed.step step, previewsKept_step kept keyed step⟩
  · intro id intent pending
    simp [Store.empty] at pending

end MissionControl.Actions

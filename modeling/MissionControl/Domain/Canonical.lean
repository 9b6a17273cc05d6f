import MissionControl.Domain.PreparedIntent
import MissionControl.Lib.Sorting
import Mathlib.Data.Prod.Lex

/-! The canonical form of an operation: its lists in the order of their identifiers, each of which
occurs once. It is the same in whatever order the lists were given. -/

namespace MissionControl
open Sorting

section
variable {α Key : Type} [LinearOrder Key] (key : α → Key)

theorem distinct_of_sorted {items : List α} (sorted : items.Pairwise fun left right => key left ≤ key right)
    (apart : anyAdjacent (fun left right => key left == key right) items = false) : (items.map key).Nodup := by
  suffices increasing : items.Pairwise fun left right => key left < key right by
    rw [List.Nodup, List.pairwise_map]
    exact increasing.imp ne_of_lt
  induction items with
  | nil => exact .nil
  | cons first rest ih =>
    obtain ⟨least, sorted⟩ := List.pairwise_cons.mp sorted
    cases rest with
    | nil => exact List.pairwise_singleton ..
    | cons second rest =>
      simp only [anyAdjacent, Bool.or_eq_false_iff, beq_eq_false_iff_ne] at apart
      have increasing := ih sorted apart.2
      have before : key first < key second := lt_of_le_of_ne (least second List.mem_cons_self) apart.1
      refine List.pairwise_cons.mpr ⟨?_, increasing⟩
      intro item member
      rcases List.mem_cons.mp member with rfl | later
      · exact before
      · exact before.trans ((List.pairwise_cons.mp increasing).1 item later)

theorem apart_of_distinct {items : List α} (distinct : (items.map key).Nodup) :
    anyAdjacent (fun left right => key left == key right) items = false := by
  induction items with
  | nil => rfl
  | cons first rest apart =>
    rw [List.map_cons, List.nodup_cons] at distinct
    cases rest with
    | nil => rfl
    | cons second rest =>
      have different : key first ≠ key second := fun same => distinct.1 (by simp [same])
      simpa [anyAdjacent, different] using apart distinct.2

theorem apart_iff (items : List α) :
    anyAdjacent (fun left right => key left == key right) (items.insertionSort fun left right => key left ≤ key right) =
      false ↔ (items.map key).Nodup := by
  have same := ((List.perm_insertionSort (fun left right => key left ≤ key right) items).map key).nodup_iff
  constructor
  · intro apart
    exact same.mp (distinct_of_sorted key (sorted key items) apart)
  · intro distinct
    exact apart_of_distinct key (same.mpr distinct)

theorem sorted_alike {items others : List α} (permuted : others.Perm items) :
    (anyAdjacent (fun left right => key left == key right)
        (others.insertionSort fun left right => key left ≤ key right) = true ∧
      anyAdjacent (fun left right => key left == key right)
        (items.insertionSort fun left right => key left ≤ key right) = true) ∨
    (others.insertionSort fun left right => key left ≤ key right) =
      items.insertionSort fun left right => key left ≤ key right := by
  have keys := (permuted.map key).nodup_iff
  by_cases distinct : (items.map key).Nodup
  · exact .inr (insertionSort_eq_of_perm key distinct permuted.symm).symm
  · refine .inl ⟨eq_true_of_ne_false ?_, eq_true_of_ne_false ?_⟩
    · intro apart
      exact distinct (keys.mp ((apart_iff key others).mp apart))
    · intro apart
      exact distinct ((apart_iff key items).mp apart)

end

theorem sortResulting_alike {requests others : List DecisionResultingActionRequest} (permuted : others.Perm requests) :
    (repeatsResulting (sortResulting others) = true ∧ repeatsResulting (sortResulting requests) = true) ∨
      sortResulting others = sortResulting requests :=
  sorted_alike (fun request : DecisionResultingActionRequest => request.id) permuted

theorem sortBindings_alike {bindings others : List EvidenceClassificationBinding} (permuted : others.Perm bindings) :
    (repeatsBinding (sortBindings others) = true ∧ repeatsBinding (sortBindings bindings) = true) ∨
      sortBindings others = sortBindings bindings :=
  sorted_alike (fun binding : EvidenceClassificationBinding => binding.evidenceId) permuted

def downstreamKey (work : IncompleteDownstreamWork) : String ×ₗ Nat := toLex (downstreamId work, downstreamKind work)

theorem sortDownstream_eq (work : List IncompleteDownstreamWork) :
    sortDownstream work = work.insertionSort fun left right => downstreamKey left ≤ downstreamKey right := by
  unfold sortDownstream
  congr 1
  funext left right
  simp only [downstreamKey, Prod.Lex.toLex_le_toLex]

theorem sameDownstreamIdentity_eq :
    sameDownstreamIdentity = fun left right => @BEq.beq _ instBEqOfDecidableEq (downstreamKey left) (downstreamKey right) := by
  funext left right
  rw [Bool.eq_iff_iff]
  simp only [sameDownstreamIdentity, downstreamKey, Bool.and_eq_true, beq_iff_eq, toLex_inj, Prod.mk.injEq]
  exact and_comm

theorem sortDownstream_alike {work others : List IncompleteDownstreamWork} (permuted : others.Perm work) :
    (anyAdjacent sameDownstreamIdentity (sortDownstream others) = true ∧
      anyAdjacent sameDownstreamIdentity (sortDownstream work) = true) ∨ sortDownstream others = sortDownstream work := by
  rw [sameDownstreamIdentity_eq, sortDownstream_eq, sortDownstream_eq]
  exact sorted_alike downstreamKey permuted

def WorkManagementOperation.withLists (requests : List DecisionResultingActionRequest)
    (work : List IncompleteDownstreamWork) (bindings : List EvidenceClassificationBinding) :
    WorkManagementOperation → WorkManagementOperation
  | .resolveDecisionRequest requestId requestVersion decisionId decisionClassification statement rationale impact
      decisionOwner decidedAt _ =>
    .resolveDecisionRequest requestId requestVersion decisionId decisionClassification statement rationale impact
      decisionOwner decidedAt requests
  | .supersedeDecision decisionId decisionVersion replacementDecisionId replacementDecisionVersion
      replacementDecisionClassification replacementStatement replacementRationale replacementImpact
      replacementOwner replacementDecidedAt _ _ =>
    .supersedeDecision decisionId decisionVersion replacementDecisionId replacementDecisionVersion
      replacementDecisionClassification replacementStatement replacementRationale replacementImpact
      replacementOwner replacementDecidedAt requests work
  | .cancelAction actionId actionVersion reason _ => .cancelAction actionId actionVersion reason bindings
  | .reopenAction actionId actionVersion mode reason _ => .reopenAction actionId actionVersion mode reason bindings
  | operation => operation

/-- Two operations that differ at most in the order of their lists. -/
def Rearranges (operation other : WorkManagementOperation) : Prop :=
  ∃ requests work bindings, requests.Perm operation.resultingActionRequests ∧
    work.Perm operation.incompleteDownstream ∧ bindings.Perm operation.evidenceClassifications ∧
    other = operation.withLists requests work bindings

variable {operation other canonical : WorkManagementOperation}

theorem canonical_rearranged (rearranged : Rearranges operation other) :
    canonicalOperation other = canonicalOperation operation := by
  obtain ⟨requests, work, bindings, resulting, downstream, bound, rfl⟩ := rearranged
  cases operation with
  | resolveDecisionRequest =>
    have requested := sortResulting_alike resulting
    simp only [WorkManagementOperation.withLists, WorkManagementOperation.resultingActionRequests, canonicalOperation]
      at requested ⊢
    rcases requested with ⟨refused, repeated⟩ | alike
    · rw [if_pos refused, if_pos repeated]
    · rw [alike]
  | supersedeDecision =>
    have requested := sortResulting_alike resulting
    have flagged := sortDownstream_alike downstream
    simp only [WorkManagementOperation.withLists, WorkManagementOperation.resultingActionRequests,
      WorkManagementOperation.incompleteDownstream, canonicalOperation] at requested flagged ⊢
    rcases requested with ⟨refused, repeated⟩ | alike
    · simp only [refused, repeated, Bool.true_or, if_true]
    · rw [alike]
      rcases flagged with ⟨refused, repeated⟩ | same
      · simp only [refused, repeated, Bool.or_true, Bool.true_or, if_true]
      · rw [same]
  | cancelAction | reopenAction =>
    have shown := sortBindings_alike bound
    simp only [WorkManagementOperation.withLists, WorkManagementOperation.evidenceClassifications, canonicalOperation]
      at shown ⊢
    rcases shown with ⟨refused, repeated⟩ | alike
    · rw [if_pos refused, if_pos repeated]
    · rw [alike]
  | _ => rfl

theorem canonical_rearranges (success : canonicalOperation operation = .ok canonical) : Rearranges operation canonical := by
  cases operation with
  | resolveDecisionRequest =>
    simp only [canonicalOperation] at success
    split at success
    · cases success
    · cases success
      exact ⟨_, [], [], List.perm_insertionSort _ _, .refl _, .refl _, rfl⟩
  | supersedeDecision =>
    simp only [canonicalOperation] at success
    split at success
    · cases success
    split at success
    · cases success
    · cases success
      exact ⟨_, _, [], List.perm_insertionSort _ _, List.perm_insertionSort _ _, .refl _, rfl⟩
  | cancelAction | reopenAction =>
    simp only [canonicalOperation] at success
    split at success
    · cases success
    · cases success
      exact ⟨[], [], _, .refl _, .refl _, List.perm_insertionSort _ _, rfl⟩
  | _ =>
    cases success
    exact ⟨[], [], [], .refl _, .refl _, .refl _, rfl⟩

section
variable (rearranged : Rearranges operation other)

include rearranged

theorem Rearranges.resulting : other.resultingActionRequests.Perm operation.resultingActionRequests := by
  obtain ⟨requests, work, bindings, resulting, _, _, rfl⟩ := rearranged
  cases operation with
  | resolveDecisionRequest | supersedeDecision => exact resulting
  | _ => exact .refl _

theorem Rearranges.downstream : other.incompleteDownstream.Perm operation.incompleteDownstream := by
  obtain ⟨requests, work, bindings, _, downstream, _, rfl⟩ := rearranged
  cases operation with
  | supersedeDecision => exact downstream
  | _ => exact .refl _

theorem Rearranges.bindings : other.evidenceClassifications.Perm operation.evidenceClassifications := by
  obtain ⟨requests, work, bindings, _, _, bound, rfl⟩ := rearranged
  cases operation with
  | cancelAction | reopenAction => exact bound
  | _ => exact .refl _

end

variable (id : PreparedIntentId) (targetClassification : DataClassification) (support : Option SupportWitness)
  (now : UtcTimestamp)

theorem prepare_congr
    (same : preparePreview id other targetClassification support now =
      preparePreview id operation targetClassification support now) :
    WorkManagementPreparedIntent.prepare id other targetClassification support now =
      WorkManagementPreparedIntent.prepare id operation targetClassification support now := by
  unfold WorkManagementPreparedIntent.prepare
  split
  next error failed =>
    split
    next _ again => cases (failed.symm.trans same).trans again; rfl
    next _ again => cases (failed.symm.trans same).trans again
  next preview succeeded =>
    split
    next _ again => cases (succeeded.symm.trans same).trans again
    next _ again => cases (succeeded.symm.trans same).trans again; rfl

theorem prepare_rearranged (rearranged : Rearranges operation other) :
    WorkManagementPreparedIntent.prepare id other targetClassification support now =
      WorkManagementPreparedIntent.prepare id operation targetClassification support now := by
  apply prepare_congr
  unfold preparePreview
  rw [canonical_rearranged rearranged]

end MissionControl

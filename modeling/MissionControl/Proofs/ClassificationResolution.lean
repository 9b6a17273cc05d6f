import MissionControl.Domain.ClassificationGovernance
import Mathlib.Order.Bounds.Basic
import Mathlib.Data.List.Nodup

/-! Resolution fails closed: a record is classified exactly when every source its manifest names
is read as classified, and then as the most restrictive of them. -/

namespace MissionControl.ClassificationResolution
open DataClassification RequiredClassificationSources

section
variable {ids : List ClassificationSourceId}

theorem hasDuplicateIds_iff : hasDuplicateIds ids = true ↔ ¬ids.Nodup := by
  rw [hasDuplicateIds, List.any_eq_true, List.Nodup, List.pairwise_iff_getElem]
  constructor
  · rintro ⟨⟨id, index⟩, placed, repeated⟩ distinct
    obtain ⟨inside, here⟩ := List.getElem?_eq_some_iff.mp (List.mem_zipIdx_iff_getElem?.mp placed)
    obtain ⟨earlier, before, same⟩ := List.mem_take_iff_getElem.mp (List.contains_iff_mem.mp repeated)
    rw [lt_min_iff] at before
    exact distinct earlier index before.2 inside before.1 (same.trans here.symm)
  · intro repeated
    push Not at repeated
    obtain ⟨earlier, later, first, second, before, same⟩ := repeated
    refine ⟨(ids[later], later), List.mem_zipIdx_iff_getElem?.mpr (List.getElem?_eq_getElem second), ?_⟩
    rw [List.contains_iff_mem, List.mem_take_iff_getElem]
    exact ⟨earlier, lt_min before first, same⟩

theorem manifestProblem_none (distinct : ids.Nodup) : manifestProblem ids ids = none := by
  rw [manifestProblem, List.findSome?_eq_none_iff]
  rintro ⟨id, index⟩ placed
  have single : hasDuplicateIds ids = false := by simpa using hasDuplicateIds_iff.not_left.mpr distinct
  have first := List.any_eq_false.mp single (id, index) placed
  have listed : ids.contains id = true := List.contains_iff_mem.mpr (List.mem_of_getElem? (List.mem_zipIdx_iff_getElem?.mp placed))
  simp only at first ⊢
  rw [if_neg first, listed]
  rfl

theorem entryProblem_none (distinct : ids.Nodup) : entryProblem ids ids = none := by
  rw [entryProblem, List.findSome?_eq_none_iff]
  intro id member
  have listed : ids.contains id = true := List.contains_iff_mem.mpr member
  have once : ¬ids.count id > 1 := not_lt.mpr (List.nodup_iff_count_le_one.mp distinct id)
  rw [listed, if_neg once]
  rfl

end

section
variable {Subject : Type} {port : ClassificationAuthorityPort Subject} {subject : Subject}
  {manifest : List ClassificationSourceId}

theorem sourceState_id (sourceId : ClassificationSourceId) : (sourceState port subject sourceId).id = some sourceId := by
  unfold sourceState
  split <;> rfl

theorem entryIds_sources : (manifest.map (sourceState port subject)).filterMap (·.id) = manifest := by
  rw [List.filterMap_map]
  have same : (fun entry : ClassificationSourceState => entry.id) ∘ sourceState port subject = some := funext sourceState_id
  rw [same, List.filterMap_some]

theorem fromAuthority_sources (shown : manifest ≠ []) (distinct : manifest.Nodup) :
    fromAuthority manifest (manifest.map (sourceState port subject)) =
      .ok ⟨manifest, manifest.map (sourceState port subject)⟩ := by
  unfold fromAuthority
  rw [if_neg (by simpa using shown), if_neg (by simp)]
  simp only [entryIds_sources, manifestProblem_none distinct, entryProblem_none distinct]

variable {sourceId : ClassificationSourceId}

theorem entries_of (distinct : manifest.Nodup) (member : sourceId ∈ manifest) :
    ((manifest.map (sourceState port subject)).filter fun entry => entry.id = some sourceId) =
      [sourceState port subject sourceId] := by
  rw [List.filter_map]
  have same : (fun entry : ClassificationSourceState => decide (entry.id = some sourceId)) ∘ sourceState port subject =
      fun other => decide (other = sourceId) := by
    funext other
    simp [sourceState_id]
  rw [same, List.filter_eq, List.count_eq_one_of_mem distinct member]
  rfl

def valueOf (port : ClassificationAuthorityPort Subject) (subject : Subject) (sourceId : ClassificationSourceId) :
    Option DataClassification :=
  match port.readClassification subject sourceId with
  | .ok (.classified value) => some value
  | _ => none

/-- What keeps a source from closing the result. -/
def Known (port : ClassificationAuthorityPort Subject) (subject : Subject) (sourceId : ClassificationSourceId) : Prop :=
  ∃ value, port.readClassification subject sourceId = .ok (.classified value) ∧ value ≠ .unclassified

theorem valueOf_some {value : DataClassification} :
    valueOf port subject sourceId = some value ↔ port.readClassification subject sourceId = .ok (.classified value) := by
  unfold valueOf
  split <;> simp_all

def closes (value : Option DataClassification) : Bool := value == none || value == some .unclassified

theorem closes_iff : closes (valueOf port subject sourceId) = false ↔ Known port subject sourceId := by
  unfold Known
  simp only [← valueOf_some]
  cases valueOf port subject sourceId <;> simp [closes]

theorem absorb_source (resolved : ResolvedClassification) (sourceId : ClassificationSourceId) :
    resolved.absorb [sourceState port subject sourceId] =
      { classification := combineAll resolved.classification (valueOf port subject sourceId).toList
        failClosed := resolved.failClosed || closes (valueOf port subject sourceId)
        trustedSourceCount := resolved.trustedSourceCount + (valueOf port subject sourceId).toList.length } := by
  unfold sourceState valueOf
  rcases port.readClassification subject sourceId with _ | (_ | _ | _) <;> simp [ResolvedClassification.absorb, closes]

theorem absorb_sources (sources : List ClassificationSourceId) (resolved : ResolvedClassification) :
    sources.foldl (fun resolved sourceId => resolved.absorb [sourceState port subject sourceId]) resolved =
      { classification := combineAll resolved.classification (sources.filterMap (valueOf port subject))
        failClosed := resolved.failClosed || sources.any fun sourceId => closes (valueOf port subject sourceId)
        trustedSourceCount := resolved.trustedSourceCount + (sources.filterMap (valueOf port subject)).length } := by
  induction sources generalizing resolved with
  | nil => simp
  | cons head tail rest =>
    rw [List.foldl_cons, rest, absorb_source, List.filterMap_cons, List.any_cons, Bool.or_assoc]
    cases valueOf port subject head with
    | none => rfl
    | some value => simp [Nat.add_assoc, Nat.add_comm 1]

/-- The result of a manifest that can be used. -/
def resolvedFrom (port : ClassificationAuthorityPort Subject) (subject : Subject)
    (manifest : List ClassificationSourceId) : ResolvedClassification :=
  let values := manifest.filterMap (valueOf port subject)
  if manifest.any fun sourceId => closes (valueOf port subject sourceId) then ⟨.unclassified, true, values.length⟩
  else ⟨combineAll .«public» values, false, values.length⟩

theorem resolve_usable (listed : port.requiredSourceManifest subject = .ok manifest) (shown : manifest ≠ [])
    (distinct : manifest.Nodup) : port.resolve subject = resolvedFrom port subject manifest := by
  have entered : resolveInheritance ⟨manifest, manifest.map (sourceState port subject)⟩ =
      resolvedFrom port subject manifest := by
    have single : manifest.foldl (fun (resolved : ResolvedClassification) requiredId => resolved.absorb
        ((manifest.map (sourceState port subject)).filter fun entry => entry.id = some requiredId)) ⟨.«public», false, 0⟩ =
        manifest.foldl (fun (resolved : ResolvedClassification) sourceId =>
          resolved.absorb [sourceState port subject sourceId])
          ⟨.«public», false, 0⟩ :=
      List.foldl_ext _ _ _ fun resolved sourceId member => by rw [entries_of distinct member]
    simp only [resolveInheritance, resolvedFrom, single, absorb_sources, Bool.false_or, Nat.zero_add]
    cases closed : manifest.any fun sourceId => closes (valueOf port subject sourceId) with
    | true => rw [if_pos (.inr rfl)]; rfl
    | false =>
      obtain ⟨sourceId, member⟩ := List.exists_mem_of_ne_nil _ shown
      have known : Known port subject sourceId := closes_iff.mp (by simpa using List.any_eq_false.mp closed sourceId member)
      obtain ⟨value, read, _⟩ := known
      have some : manifest.filterMap (valueOf port subject) ≠ [] :=
        List.ne_nil_of_mem (List.mem_filterMap.mpr ⟨sourceId, member, valueOf_some.mpr read⟩)
      rw [if_neg (by simpa using some)]
      rfl
  unfold ClassificationAuthorityPort.resolve
  simp only [listed]
  rw [if_neg, fromAuthority_sources shown distinct]
  · exact entered
  · simpa [hasDuplicateIds_iff, distinct] using shown

theorem resolve_unusable (unusable : ∀ manifest, port.requiredSourceManifest subject = .ok manifest →
    manifest = [] ∨ ¬manifest.Nodup) : port.resolve subject = ⟨.unclassified, true, 0⟩ := by
  unfold ClassificationAuthorityPort.resolve
  split
  · rfl
  next manifest listed =>
    rw [if_pos]
    · rfl
    · have bad := unusable manifest listed
      rw [Bool.or_eq_true, List.isEmpty_iff, hasDuplicateIds_iff]
      exact bad

theorem combineAll_mem (initial : DataClassification) (rest : List DataClassification) :
    combineAll initial rest = initial ∨ combineAll initial rest ∈ rest := by
  induction rest generalizing initial with
  | nil => exact .inl rfl
  | cons head tail step =>
    rw [combineAll_cons]
    rcases step (initial.combine head) with kept | found
    · rw [kept, combine_eq_sup]
      rcases le_total initial head with lower | higher
      · rw [sup_eq_right.mpr lower]
        exact .inr List.mem_cons_self
      · rw [sup_eq_left.mpr higher]
        exact .inl rfl
    · exact .inr (List.mem_cons_of_mem _ found)

theorem isGreatest_combineAll {values : List DataClassification} (shown : values ≠ []) :
    IsGreatest {value | value ∈ values} (combineAll .«public» values) := by
  have upper : ∀ value ∈ values, value ≤ combineAll .«public» values := fun value member => mem_le_combineAll member
  refine ⟨?_, upper⟩
  rcases combineAll_mem .«public» values with least | found
  · obtain ⟨value, member⟩ := List.exists_mem_of_ne_nil _ shown
    have low := upper value member
    rw [least] at low ⊢
    have bottom : value = .«public» := by cases value <;> first | rfl | exact absurd low (by decide)
    exact bottom ▸ member
  · exact found

theorem combineAll_perm {values others : List DataClassification} (permuted : values.Perm others) :
    combineAll .«public» values = combineAll .«public» others := by
  apply eq_of_forall_ge_iff
  intro bound
  rw [combineAll_le_iff, combineAll_le_iff]
  simp only [permuted.mem_iff]

theorem resolvedFrom_known (known : ∀ sourceId ∈ manifest, Known port subject sourceId) :
    (resolvedFrom port subject manifest).classification =
      combineAll .«public» (manifest.filterMap (valueOf port subject)) := by
  have opened : ¬(manifest.any fun sourceId => closes (valueOf port subject sourceId)) = true := by
    rw [Bool.not_eq_true, List.any_eq_false]
    intro sourceId member
    rw [closes_iff.mpr (known sourceId member)]
    exact Bool.false_ne_true
  rw [resolvedFrom, if_neg opened]

theorem known_of_resolved (resolved : (resolvedFrom port subject manifest).classification ≠ .unclassified) :
    ∀ sourceId ∈ manifest, Known port subject sourceId := by
  intro sourceId member
  rw [← closes_iff]
  by_contra closed
  rw [Bool.not_eq_false] at closed
  apply resolved
  rw [resolvedFrom, if_pos (List.any_eq_true.mpr ⟨sourceId, member, closed⟩)]

theorem greatest_resolved (shown : manifest ≠ []) (known : ∀ sourceId ∈ manifest, Known port subject sourceId) :
    IsGreatest {value | ∃ sourceId ∈ manifest, port.readClassification subject sourceId = .ok (.classified value)}
      (resolvedFrom port subject manifest).classification := by
  rw [resolvedFrom_known known]
  have values : {value | ∃ sourceId ∈ manifest, port.readClassification subject sourceId = .ok (.classified value)} =
      {value | value ∈ manifest.filterMap (valueOf port subject)} := by
    ext value
    simp only [Set.mem_ofPred_eq, List.mem_filterMap, valueOf_some]
  rw [values]
  apply isGreatest_combineAll
  obtain ⟨sourceId, member⟩ := List.exists_mem_of_ne_nil _ shown
  obtain ⟨value, read, _⟩ := known sourceId member
  exact List.ne_nil_of_mem (List.mem_filterMap.mpr ⟨sourceId, member, valueOf_some.mpr read⟩)

theorem usable_of_resolved (resolved : (port.resolve subject).classification ≠ .unclassified) :
    ∃ manifest, port.requiredSourceManifest subject = .ok manifest ∧ manifest ≠ [] ∧ manifest.Nodup ∧
      port.resolve subject = resolvedFrom port subject manifest := by
  by_contra unusable
  apply resolved
  rw [resolve_unusable]
  intro manifest listed
  by_contra usable
  rw [not_or, not_not] at usable
  exact unusable ⟨manifest, listed, usable.1, usable.2, resolve_usable listed usable.1 usable.2⟩

theorem resolvedFrom_perm {others : List ClassificationSourceId} (permuted : manifest.Perm others) :
    resolvedFrom port subject manifest = resolvedFrom port subject others := by
  have values := permuted.filterMap (valueOf port subject)
  simp only [resolvedFrom, combineAll_perm values, values.length_eq, permuted.any_eq]

end

structure FailsClosed {Subject : Type} (port : ClassificationAuthorityPort Subject) (subject : Subject) : Prop where
  known_iff : (port.resolve subject).classification ≠ .unclassified ↔
    ∃ manifest, port.requiredSourceManifest subject = .ok manifest ∧ manifest ≠ [] ∧ manifest.Nodup ∧
      ∀ sourceId ∈ manifest, Known port subject sourceId
  greatest : ∀ manifest, port.requiredSourceManifest subject = .ok manifest →
    (port.resolve subject).classification ≠ .unclassified →
    IsGreatest {value | ∃ sourceId ∈ manifest, port.readClassification subject sourceId = .ok (.classified value)}
      (port.resolve subject).classification
  orderFree : ∀ (other : ClassificationAuthorityPort Subject) (manifest others : List ClassificationSourceId),
    port.requiredSourceManifest subject = .ok manifest → other.requiredSourceManifest subject = .ok others →
    manifest.Perm others → other.readClassification subject = port.readClassification subject →
    other.resolve subject = port.resolve subject
  eligible : (∀ classification reason, port.externalAiEligibility subject ≠ .denied classification reason) →
    (port.resolve subject).classification ≠ .unclassified

theorem fails_closed {Subject : Type} (port : ClassificationAuthorityPort Subject) (subject : Subject) :
    FailsClosed port subject where
  known_iff := by
    constructor
    · intro resolved
      obtain ⟨manifest, listed, shown, distinct, same⟩ := usable_of_resolved resolved
      rw [same] at resolved
      exact ⟨manifest, listed, shown, distinct, known_of_resolved resolved⟩
    · rintro ⟨manifest, listed, shown, distinct, known⟩ unclassified
      rw [resolve_usable listed shown distinct] at unclassified
      obtain ⟨sourceId, member, read⟩ := (greatest_resolved shown known).1
      obtain ⟨value, readAs, classified⟩ := known sourceId member
      rw [read, unclassified] at readAs
      cases readAs
      exact classified rfl
  greatest manifest listed resolved := by
    obtain ⟨usable, found, shown, _, same⟩ := usable_of_resolved resolved
    cases listed.symm.trans found
    rw [same] at resolved ⊢
    exact greatest_resolved shown (known_of_resolved resolved)
  orderFree other manifest others listed listedOther permuted reads := by
    have read : valueOf other subject = valueOf port subject := funext fun sourceId => by simp only [valueOf, reads]
    have values : resolvedFrom other subject others = resolvedFrom port subject others := by simp only [resolvedFrom, read]
    by_cases usable : manifest ≠ [] ∧ manifest.Nodup
    · have shown : others ≠ [] := fun empty => usable.1 (by simpa [empty] using permuted)
      rw [resolve_usable listed usable.1 usable.2, resolve_usable listedOther shown (permuted.nodup_iff.mp usable.2),
        values, resolvedFrom_perm permuted]
    · rw [not_and_or, not_not] at usable
      rw [resolve_unusable, resolve_unusable]
      · intro source found
        cases listed.symm.trans found
        exact usable
      · intro source found
        cases listedOther.symm.trans found
        exact usable.imp (fun empty => by simpa [empty] using permuted.symm) permuted.nodup_iff.not.mp
  eligible undenied unclassified := by
    apply undenied .unclassified .unclassified
    simp only [ClassificationAuthorityPort.externalAiEligibility, eligibilityForResolved, unclassified]

end MissionControl.ClassificationResolution

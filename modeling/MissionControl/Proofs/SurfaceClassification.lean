import MissionControl.Surfaces.ProductDetail
import MissionControl.Surfaces.Lens
import MissionControl.Lib.Raising

/-! Nothing is shown under a weaker classification than its own: the Product detail, a point
of the Lens and a people entry are shown at the least level that covers what they expose. -/

namespace MissionControl.SurfaceClassification
open Surfaces Raising

section

structure Covers (own effective : DataClassification) (exposed : List DataClassification) : Prop where
  absorbs : ∀ classification ∈ own :: exposed, effective.combine classification = effective
  least : ∀ level : DataClassification, (∀ classification ∈ own :: exposed, level.combine classification = level) →
    level.combine effective = level

/-- A surface at the level that covers what it exposes, with a note of the item that raised it
there, if it is not the record's own. -/
structure Labelled {Item Note : Type} (own effective : DataClassification) (exposed : List Item)
    (level : Item → DataClassification) (note : Item → DataClassification → Note) (forcedBy : Option Note) : Prop where
  covers : Covers own effective (exposed.map level)
  unforced : forcedBy = none ↔ effective = own
  forced : ∀ named, forcedBy = some named → ∃ before item after, exposed = before ++ item :: after ∧
    named = note item effective ∧ DataClassification.combineAll own (before.map level) ≠ effective ∧
      (DataClassification.combineAll own (before.map level)).combine (level item) = effective

variable {Item Note : Type} {level : Item → DataClassification} {note : Item → DataClassification → Note}
  {own effective : DataClassification} {exposed others : List DataClassification} {items : List Item}

theorem combine_self_iff {level other : DataClassification} : level.combine other = level ↔ other ≤ level := by
  rw [DataClassification.combine_eq_sup, sup_eq_left]

theorem covers_iff : Covers own effective exposed ↔ effective = DataClassification.combineAll own exposed := by
  have absorbed : ∀ level : DataClassification, (∀ classification ∈ own :: exposed,
      level.combine classification = level) ↔ DataClassification.combineAll own exposed ≤ level := by
    intro level
    simp only [combine_self_iff, List.forall_mem_cons, DataClassification.combineAll_le_iff]
  constructor
  · intro covers
    have above := (absorbed effective).mp covers.absorbs
    exact le_antisymm (combine_self_iff.mp (covers.least _ ((absorbed _).mpr le_rfl))) above
  · rintro rfl
    exact ⟨(absorbed _).mpr le_rfl, fun level all => combine_self_iff.mpr ((absorbed level).mp all)⟩

theorem joined_eq : joined level own items = DataClassification.combineAll own (items.map level) := by
  rw [DataClassification.combineAll, List.foldl_map]
  simp only [joined, DataClassification.combine_eq_sup]

theorem labelled_of_raised {held : DataClassification × Option Note} (raised : Raised level note own items held) :
    Labelled own held.1 items level note held.2 where
  covers := covers_iff.mpr (raised.ends.trans joined_eq)
  unforced := raised.unforced
  forced named noted := by
    obtain ⟨before, item, after, same, names, weaker, raises⟩ := raised.forced named noted
    rw [joined_eq] at weaker raises
    refine ⟨before, item, after, same, names, weaker, ?_⟩
    rw [DataClassification.combine_eq_sup]
    exact raises

end

def ProductDetailBody.exposed (body : ProductDetailBody) : List (ComposedEntityKind × String × DataClassification) :=
  (body.structural.map fun child => (child.entity.kind, child.entity.id, child.entity.classification)) ++
  (body.evidence.flatMap fun evidence =>
    [(evidence.entity.kind, evidence.entity.id, evidence.entity.classification),
      (evidence.entity.kind, evidence.entity.id, evidence.classificationAtLink)]) ++
  body.people.flatMap fun person =>
    (person.entity.kind, person.entity.id, person.entity.classification) ::
      person.carried.map fun item => (kindOfWork item.kind, item.id, item.classification)

theorem foldClassification_eq :
    foldClassification = raise (·.2.2) fun item level => (⟨item.1, item.2.1, level⟩ : ClassificationFold) := by
  funext held item
  simp only [foldClassification, raise, DataClassification.combine_eq_sup]

theorem product_labelled (facts : ProductDetailFacts) (ledgerRevision : Nat) :
    ∃ shown, composeProductDetail facts ledgerRevision = .ok shown ∧
      Labelled facts.product.classification shown.body.product.classification (ProductDetailBody.exposed shown.body)
        (·.2.2) (fun item level => ⟨item.1, item.2.1, level⟩) shown.body.classificationForcedBy := by
  obtain ⟨shown, _, composed, _, _, classification, forcedBy, structural, evidence, people⟩ :=
    composeProductDetail_ok facts ledgerRevision
  refine ⟨shown, composed, ?_⟩
  have exposed : ProductDetailBody.exposed shown.body = facts.folds := by
    simp only [ProductDetailBody.exposed, structural, evidence, people, ProductDetailFacts.folds, List.map_map,
      List.flatMap_map, PersonFacts.entry]
    rfl
  rw [classification, forcedBy, exposed, ProductDetailFacts.effectiveClassification, foldClassification_eq]
  exact labelled_of_raised (raised_fold _)

section
variable {composition : LedgerCompositionSnapshot} {point : LensPoint}

def LensPoint.contributions (point : LensPoint) : List Contribution :=
  contributionsOf point.timing point.observability point.coverage

theorem foldContribution_eq : foldContribution = raise (·.classification) fun item _ => item := by
  funext held item
  simp only [foldContribution, raise, DataClassification.combine_eq_sup]

theorem lens_labelled (shown : point ∈ (composeExecutiveLens composition).points) :
    Labelled point.productClassification point.effectiveClassification (LensPoint.contributions point)
      (·.classification) (fun item _ => item) point.classificationForcedBy := by
  obtain ⟨product, _, rfl⟩ := List.mem_map.mp shown
  have folded : Raised Contribution.classification (fun item _ => item) product.classification
      (LensPoint.contributions (lensPoint composition product)) ((LensPoint.contributions
        (lensPoint composition product)).foldl foldContribution (product.classification, none)) := by
    rw [foldContribution_eq]
    exact raised_fold _
  exact labelled_of_raised folded

theorem shared_contributed (shown : point ∈ (composeExecutiveLens composition).points) {id : String}
    (shared : id ∈ point.sharedProjectIds) : ∃ contribution ∈ LensPoint.contributions point, contribution.id = id := by
  obtain ⟨product, _, rfl⟩ := List.mem_map.mp shown
  obtain ⟨contribution, among, rfl⟩ := List.mem_map.mp shared
  refine ⟨contribution, ?_, rfl⟩
  have timed := List.mem_of_mem_filter (List.mem_of_mem_filter among)
  exact List.mem_append_left _ (List.mem_append_left _ timed)

def counted (kind : String) (contributions : List Contribution) : Nat :=
  (contributions.filter fun contribution => contribution.kind = kind).length

theorem counted_append (kind : String) (first second : List Contribution) :
    counted kind (first ++ second) = counted kind first + counted kind second := by
  rw [counted, List.filter_append, List.length_append]
  rfl

theorem counted_all {kind : String} {contributions : List Contribution}
    (all : ∀ contribution ∈ contributions, contribution.kind = kind) : counted kind contributions = contributions.length := by
  rw [counted, List.filter_eq_self.mpr]
  exact fun contribution among => decide_eq_true (all contribution among)

theorem counted_none {kind other : String} {contributions : List Contribution}
    (all : ∀ contribution ∈ contributions, contribution.kind = other) (differs : other ≠ kind) :
    counted kind contributions = 0 := by
  rw [counted, List.filter_eq_nil_iff.mpr, List.length_nil]
  intro contribution among same
  exact differs ((all contribution among).symm.trans (of_decide_eq_true same))

theorem links_kind {kind : IdKind} {records : List (NamedReadRecord kind)} {edge : Relationships.RelationshipKind}
    {productId otherType : String} :
    ∀ contribution ∈ (presentLinks records (productLinks composition productId edge otherType)).map (·.2),
      contribution.kind = "relationship" := by
  intro contribution among
  obtain ⟨link, present, rfl⟩ := List.mem_map.mp among
  obtain ⟨relationship, _, made⟩ := List.mem_filterMap.mp (List.mem_of_mem_filter present)
  obtain ⟨_, _, rfl⟩ := Option.map_eq_some_iff.mp made
  rfl

theorem records_kind {kind : IdKind} {role : String} {records : List (NamedReadRecord kind)} {linked : List String} :
    ∀ contribution ∈ linkedRecords role records linked, contribution.kind = role := by
  intro contribution among
  obtain ⟨_, _, rfl⟩ := List.mem_map.mp among
  rfl

theorem map_kind {Record : Type} (contribute : Record → Contribution) (kind : String) {records : List Record}
    (same : ∀ record, (contribute record).kind = kind) :
    ∀ contribution ∈ records.map contribute, contribution.kind = kind := by
  intro contribution among
  obtain ⟨record, _, rfl⟩ := List.mem_map.mp among
  exact same record

theorem counts_contributed (shown : point ∈ (composeExecutiveLens composition).points) :
    point.timing.milestoneCount = counted "milestone" point.timing.contributions ∧
      point.observability.defined = counted "kpi_definition" point.observability.contributions ∧
      point.coverage.linked = counted "evidence_reference" point.coverage.contributions := by
  obtain ⟨product, _, rfl⟩ := List.mem_map.mp shown
  refine ⟨?_, ?_, ?_⟩
  · simp only [lensPoint, timingFor, counted_append]
    rw [counted_none links_kind (by decide), counted_none records_kind (by decide),
      counted_all (map_kind milestoneContribution "milestone" fun _ => rfl), List.length_map]
    exact (Nat.zero_add _).symm
  · simp only [lensPoint, observabilityFor, counted_append]
    rw [counted_none links_kind (by decide), counted_all records_kind,
      counted_none (map_kind observationContribution "kpi_observation" fun _ => rfl) (by decide), Nat.zero_add,
      Nat.add_zero]
  · simp only [lensPoint, coverageFor, counted_append]
    rw [counted_none (map_kind (linkContribution product.id.asStr) "evidence_link" fun _ => rfl) (by decide),
      counted_all (map_kind referenceContribution "evidence_reference" fun _ => rfl), List.length_map, Nat.zero_add]

end

section
variable {snapshot : LedgerCompositionSnapshot}

/-- What a person's entry exposes: their relationships, the subjects these name, and the
requests that wait for them. -/
def personExposes (snapshot : LedgerCompositionSnapshot) (id : String) : List DataClassification :=
  ((snapshot.stakeholderRelationships.filter fun relationship => relationship.stakeholderId.asStr = id).flatMap
    fun relationship => relationship.classification :: ((subjectOf snapshot relationship).map (·.classification)).toList) ++
  (snapshot.actionRequests.filter fun request =>
    isOutstandingRequest request.state && request.intendedOwnerId.any fun owner => owner.asStr = id).map (·.classification)

theorem relationship_classification (relationship : StakeholderRelationshipReadRecord) :
    (relationshipFactsOf snapshot relationship).classification = DataClassification.combineAll relationship.classification
      ((subjectOf snapshot relationship).map (·.classification)).toList := by
  unfold relationshipFactsOf
  cases subjectOf snapshot relationship <;> rfl

theorem combineAll_flatMap {Item : Type} (head : Item → DataClassification) (tail : Item → List DataClassification)
    (own : DataClassification) (items : List Item) :
    DataClassification.combineAll own (items.flatMap fun item => head item :: tail item) =
      DataClassification.combineAll own (items.map fun item => DataClassification.combineAll (head item) (tail item)) := by
  refine eq_of_forall_ge_iff fun level => ?_
  simp only [DataClassification.combineAll_le_iff, List.mem_flatMap, List.mem_map, forall_exists_index, and_imp,
    List.mem_cons]
  constructor
  · rintro ⟨below, all⟩
    refine ⟨below, ?_⟩
    rintro _ item member rfl
    rw [DataClassification.combineAll_le_iff]
    exact ⟨all _ item member (.inl rfl), fun other among => all other item member (.inr among)⟩
  · rintro ⟨below, all⟩
    refine ⟨below, fun other item member among => ?_⟩
    have both := DataClassification.combineAll_le_iff.mp (all _ item member rfl)
    rcases among with rfl | among
    · exact both.1
    · exact both.2 other among

theorem entry_covers {entry : DirectoryEntryFacts} (listed : entry ∈ directoryEntriesFromSnapshot snapshot) :
    ∃ record ∈ snapshot.stakeholders, record.id.asStr = entry.stakeholder.id ∧
      Covers record.classification entry.effectiveClassification (personExposes snapshot entry.stakeholder.id) := by
  obtain ⟨record, member, rfl⟩ := List.mem_map.mp listed
  refine ⟨record, member, rfl, covers_iff.mpr ?_⟩
  rw [personExposes, DataClassification.combineAll_append, combineAll_flatMap]
  simp only [← relationship_classification]
  simp only [DirectoryEntryFacts.effectiveClassification, relationshipFacts, outstandingFacts,
    DataClassification.combineAll, List.foldl_map]
  rfl

theorem requests_exposed {entry : DirectoryEntryFacts} (listed : entry ∈ directoryEntriesFromSnapshot snapshot)
    (degraded : String → Bool) {request : ComposedEntity}
    (shown : request ∈ (composeStakeholderDetail entry degraded).outstandingRequests) :
    request.classification ∈ personExposes snapshot entry.stakeholder.id := by
  obtain ⟨record, _, rfl⟩ := List.mem_map.mp listed
  obtain ⟨facts, among, rfl⟩ := List.mem_map.mp shown
  obtain ⟨waiting, member, rfl⟩ := List.mem_map.mp among
  exact List.mem_append_right _ (List.mem_map_of_mem member)

end

structure SurfacesLabelled (facts : ProductDetailFacts) (snapshot : LedgerCompositionSnapshot) : Prop where
  product : ∀ ledgerRevision, ∃ shown, composeProductDetail facts ledgerRevision = .ok shown ∧
    Labelled facts.product.classification shown.body.product.classification (ProductDetailBody.exposed shown.body)
      (·.2.2) (fun item level => ⟨item.1, item.2.1, level⟩) shown.body.classificationForcedBy
  point : ∀ point ∈ (composeExecutiveLens snapshot).points,
    Labelled point.productClassification point.effectiveClassification (LensPoint.contributions point)
        (·.classification) (fun item _ => item) point.classificationForcedBy ∧
      (∀ id ∈ point.sharedProjectIds, ∃ contribution ∈ LensPoint.contributions point, contribution.id = id) ∧
      point.timing.milestoneCount = counted "milestone" point.timing.contributions ∧
      point.observability.defined = counted "kpi_definition" point.observability.contributions ∧
      point.coverage.linked = counted "evidence_reference" point.coverage.contributions
  person : ∀ asOf ledgerRevision page, ∀ shown ∈
    (composePeopleDirectory (directoryEntriesFromSnapshot snapshot) asOf ledgerRevision page).body.stakeholders,
    ∃ record ∈ snapshot.stakeholders, record.id.asStr = shown.id ∧
      Covers record.classification shown.classification (personExposes snapshot shown.id)
  detail : ∀ id entry degraded, stakeholderDetailFromSnapshot snapshot id = some entry →
    ∃ record ∈ snapshot.stakeholders, record.id.asStr = id ∧
      Covers record.classification (composeStakeholderDetail entry degraded).stakeholder.classification
        (personExposes snapshot id) ∧
      ∀ request ∈ (composeStakeholderDetail entry degraded).outstandingRequests,
        request.classification ∈ personExposes snapshot id

end MissionControl.SurfaceClassification

import MissionControl.Surfaces.Snapshot

/-! The Executive Lens: each Product's measures, the records each measure stands on, and
the classification folded over all of them. -/

namespace MissionControl.Surfaces
open Projections Relationships

def dueSoonWindowMillis : Int := 14 * 24 * 60 * 60 * 1000

inductive TimingState where
  | unknown | later | dueSoon | datePassed
  deriving DecidableEq

def TimingState.isHigh : TimingState → Bool
  | .dueSoon | .datePassed => true
  | _ => false

def severity : List String :=
  ["integrity_mismatch", "unverified", "observed_unpinned", "degraded_last_verified", "verified"]

def verificationKind : EvidenceVerification → String
  | .verified .. => "verified"
  | .degradedLastVerified .. => "degraded_last_verified"
  | .unverified => "unverified"
  | .integrityMismatch => "integrity_mismatch"
  | .observedUnpinned .. => "observed_unpinned"

structure Contribution where
  kind : String
  id : String
  version : Option Nat
  classification : DataClassification
  role : String

structure TimingMeasure where
  state : TimingState
  earliestDueAt : Option UtcTimestamp
  milestoneCount : Nat
  contributions : List Contribution

structure ObservabilityMeasure where
  observed : Nat
  defined : Nat
  latestObservedAt : Option UtcTimestamp
  contributions : List Contribution

def ObservabilityMeasure.isKnown (measure : ObservabilityMeasure) : Bool := 0 < measure.defined

def ObservabilityMeasure.isHigh (measure : ObservabilityMeasure) : Bool :=
  0 < measure.defined && measure.defined ≤ measure.observed * 2

structure CoverageMeasure where
  verified : Nat
  linked : Nat
  byState : List (String × Nat)
  worst : Option String
  contributions : List Contribution

inductive Quadrant where
  | keepMomentum | monitorClosely | exploreAndValidate | prioritizeNow

structure LensPoint where
  productId : String
  productName : String
  productVersion : Nat
  productClassification : DataClassification
  timing : TimingMeasure
  observability : ObservabilityMeasure
  coverage : CoverageMeasure
  quadrant : Option Quadrant
  effectiveClassification : DataClassification
  classificationForcedBy : Option Contribution
  sharedProjectIds : List String

structure ExecutiveLens where
  asOf : UtcTimestamp
  ledgerRevision : Nat
  dueSoonWindowMillis : Int
  points : List LensPoint

section
variable (composition : LedgerCompositionSnapshot) (productId : String)

def productLinks (kind : RelationshipKind) (otherType : String) : List (String × Contribution) :=
  (composition.portfolioRelationships.filter fun relationship =>
    relationship.kind = kind && relationship.endpointId "product" = some productId).filterMap fun relationship =>
      (relationship.endpointId otherType).map fun other =>
        (other, ⟨"relationship", relationship.id, some relationship.version.get, relationship.classification,
          kind.asPersisted⟩)

/-- The edges to records the snapshot carries. -/
def presentLinks {kind : IdKind} (records : List (NamedReadRecord kind)) (links : List (String × Contribution)) :
    List (String × Contribution) :=
  links.filter fun link => (records.map (·.id.asStr)).contains link.1

def namedContribution {kind : IdKind} (role : String) (record : NamedReadRecord kind) : Contribution :=
  ⟨role, record.id.asStr, some record.version.get, record.classification, role⟩

def linkedRecords {kind : IdKind} (role : String) (records : List (NamedReadRecord kind)) (linked : List String) :
    List Contribution :=
  (records.filter fun record => linked.contains record.id.asStr).map (namedContribution role)

/-- A `BTreeMap` of the items by their identifier, of which a later one takes the place of an
earlier one. -/
def keyedById {α : Type} (key : α → String) (items : List α) : List α :=
  (sortedDeduplicated (items.map key)).filterMap fun id => items.reverse.find? fun item => key item = id

/-- The `min_by_key`, and `max` by the first of the latest. -/
def earliest (times : List UtcTimestamp) : Option UtcTimestamp :=
  times.foldl (fun found time => if found.any (· ≤ time) then found else some time) none

def latest (times : List UtcTimestamp) : Option UtcTimestamp :=
  times.foldl (fun found time => if found.any (time ≤ ·) then found else some time) none

def timingState (asOf : UtcTimestamp) : Option UtcTimestamp → TimingState
  | none => .unknown
  | some due =>
    if due.unixMillis < asOf.unixMillis then .datePassed
    else if due.unixMillis - asOf.unixMillis ≤ dueSoonWindowMillis then .dueSoon
    else .later

def milestoneContribution (milestone : MilestoneReadRecord) : Contribution :=
  ⟨"milestone", milestone.id.asStr, some milestone.version.get, milestone.classification, "milestone"⟩

def timingFor : TimingMeasure :=
  let links := presentLinks composition.projects (productLinks composition productId .projectProduct "project")
  let projectIds := links.map (·.1)
  let milestones := keyedById (·.id.asStr) (composition.milestones.filter fun milestone =>
    projectIds.contains milestone.projectId.asStr)
  let earliestDueAt := earliest (milestones.map (·.dueAt))
  { state := timingState composition.ledgerAsOfUtc earliestDueAt
    earliestDueAt
    milestoneCount := milestones.length
    contributions := links.map (·.2) ++ linkedRecords "project" composition.projects projectIds ++
      milestones.map milestoneContribution }

def observationContribution (observation : KpiObservationReadRecord) : Contribution :=
  ⟨"kpi_observation", observation.id.asStr, some observation.version.get, observation.classification,
    "kpi_observation"⟩

def observabilityFor : ObservabilityMeasure :=
  let links := presentLinks composition.kpiDefinitions (productLinks composition productId .productKpi "kpi_definition")
  let kpiIds := links.map (·.1)
  let definitions := linkedRecords "kpi_definition" composition.kpiDefinitions kpiIds
  let observations := composition.kpiObservations.filter fun observation =>
    kpiIds.contains observation.kpiId.asStr &&
      observation.observedAt.unixMillis ≤ composition.ledgerAsOfUtc.unixMillis
  { observed := (observations.map (·.kpiId.asStr)).dedup.length
    defined := definitions.length
    latestObservedAt := latest (observations.map (·.observedAt))
    contributions := links.map (·.2) ++ definitions ++ observations.map observationContribution }

def linkContribution (link : EvidenceLinkReadRecord) : Contribution :=
  ⟨"evidence_link", link.evidenceId.asStr ++ " -> product " ++ productId, none, link.classificationAtLink,
    "evidence_link"⟩

def firstLinks (seen : List String) : List EvidenceLinkReadRecord → List EvidenceLinkReadRecord
  | [] => []
  | link :: rest =>
    if link.evidenceId.asStr ∈ seen then firstLinks seen rest
    else link :: firstLinks (link.evidenceId.asStr :: seen) rest

def referenceContribution (reference : EvidenceReferenceReadRecord) : Contribution :=
  ⟨"evidence_reference", reference.id.asStr, some reference.version.get, reference.classification,
    "evidence_reference"⟩

def countsByState (references : List EvidenceReferenceReadRecord) : List (String × Nat) :=
  (severity.map fun kind =>
    (kind, (references.filter fun reference => verificationKind reference.verification = kind).length)).filter (0 < ·.2)

def coverageFor : CoverageMeasure :=
  let links := firstLinks [] (composition.evidenceLinks.filter fun link =>
    link.targetType = "product" && link.targetId = productId &&
      (composition.evidenceReferences.map (·.id.asStr)).contains link.evidenceId.asStr)
  let references := composition.evidenceReferences.filter fun reference =>
    (links.map (·.evidenceId.asStr)).contains reference.id.asStr
  { verified := (references.filter (·.verification.isVerified)).length
    linked := references.length
    byState := countsByState references
    worst := (countsByState references).head?.map (·.1)
    contributions := links.map (linkContribution productId) ++ references.map referenceContribution }

end

def quadrantFor (timing : TimingMeasure) (observability : ObservabilityMeasure) : Option Quadrant :=
  if timing.state = .unknown || !observability.isKnown then none
  else match timing.state.isHigh, observability.isHigh with
    | true, true => some .monitorClosely
    | true, false => some .prioritizeNow
    | false, false => some .exploreAndValidate
    | false, true => some .keepMomentum

def foldContribution (folded : DataClassification × Option Contribution) (contribution : Contribution) :
    DataClassification × Option Contribution :=
  let next := folded.1.combine contribution.classification
  if next ≠ folded.1 then (next, some contribution) else folded

/-- Every contribution a point shows, in the order they are folded in. -/
def contributionsOf (timing : TimingMeasure) (observability : ObservabilityMeasure) (coverage : CoverageMeasure) :
    List Contribution :=
  timing.contributions ++ observability.contributions ++ coverage.contributions

def productsOfProject (composition : LedgerCompositionSnapshot) (projectId : String) : List String :=
  ((composition.portfolioRelationships.filter fun relationship =>
    relationship.kind = .projectProduct && relationship.endpointId "project" = some projectId).filterMap
      (·.endpointId "product")).dedup

def lensPoint (composition : LedgerCompositionSnapshot) (product : NamedReadRecord .product) : LensPoint :=
  let id := product.id.asStr
  let timing := timingFor composition id
  let observability := observabilityFor composition id
  let coverage := coverageFor composition id
  let folded := (contributionsOf timing observability coverage).foldl foldContribution (product.classification, none)
  { productId := id
    productName := product.name
    productVersion := product.version.get
    productClassification := product.classification
    timing
    observability
    coverage
    quadrant := quadrantFor timing observability
    effectiveClassification := folded.1
    classificationForcedBy := folded.2
    sharedProjectIds := ((timing.contributions.filter fun contribution => contribution.kind = "project").filter
      fun contribution => 1 < (productsOfProject composition contribution.id).length).map (·.id) }

def compareProducts (left right : NamedReadRecord .product) : Ordering :=
  (compare left.name right.name).then (compare left.id.asStr right.id.asStr)

def composeExecutiveLens (composition : LedgerCompositionSnapshot) : ExecutiveLens where
  asOf := composition.ledgerAsOfUtc
  ledgerRevision := composition.ledgerRevision
  dueSoonWindowMillis := dueSoonWindowMillis
  points := (Sorting.sortBy compareProducts composition.products).map (lensPoint composition)

end MissionControl.Surfaces

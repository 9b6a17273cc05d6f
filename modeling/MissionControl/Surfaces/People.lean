import MissionControl.Surfaces.Snapshot

/-! The people directory and one person's detail. An entry is shown at the most restrictive
classification of anything it exposes. -/

namespace MissionControl.Surfaces
open Queue Relationships

inductive RelationshipPurpose where
  | responsibility | dependency

def RelationshipPurpose.asStr : RelationshipPurpose → String
  | .responsibility => "responsibility"
  | .dependency => "dependency"

def purposeOf : StakeholderRelationshipPurpose → RelationshipPurpose
  | .responsibility => .responsibility
  | .dependency => .dependency

structure StakeholderFacts where
  id : String
  displayName : String
  classification : DataClassification
  revision : Nat
  asOf : UtcTimestamp

structure RelationshipFacts where
  subjectId : String
  subjectLabel : String
  purpose : RelationshipPurpose
  classification : DataClassification
  revision : Nat
  asOf : UtcTimestamp

structure OutstandingRequestFacts where
  id : String
  classification : DataClassification
  revision : Nat
  asOf : UtcTimestamp

structure DirectoryEntryFacts where
  stakeholder : StakeholderFacts
  relationships : List RelationshipFacts
  requests : List OutstandingRequestFacts

def DirectoryEntryFacts.effectiveClassification (entry : DirectoryEntryFacts) : DataClassification :=
  let related := entry.relationships.foldl (fun effective relationship => effective.combine relationship.classification)
    entry.stakeholder.classification
  entry.requests.foldl (fun effective request => effective.combine request.classification) related

def stakeholderEntity (stakeholder : StakeholderFacts) (classification : DataClassification) : ComposedEntity :=
  entity .stakeholder stakeholder.id .stakeholders classification stakeholder.revision stakeholder.asOf

structure PeopleDirectoryBody where
  stakeholders : List ComposedEntity
  page : PageState

/-- Ordered by identifier. -/
def composePeopleDirectory (entries : List DirectoryEntryFacts) (asOf : UtcTimestamp) (ledgerRevision : Nat)
    (page : PageState) : CompositionResult PeopleDirectoryBody :=
  let composed := Sorting.sortBy (fun left right : ComposedEntity => compare left.id right.id)
    (entries.map fun entry => stakeholderEntity entry.stakeholder entry.effectiveClassification)
  let stakeholders := (composed.drop page.offset).take page.limit
  { state := if stakeholders.isEmpty then .empty else .success
    asOf
    ledgerRevision
    body := { stakeholders, page } }

structure StakeholderDetailBody where
  stakeholder : ComposedEntity
  responsibilities : List (Sourced String)
  outstandingRequests : List ComposedEntity

/-- The body of one person's detail. The port says of which subjects the Evidence could not
be looked at; the route is degraded exactly when the person is. -/
def composeStakeholderDetail (entry : DirectoryEntryFacts) (degraded : String → Bool) : StakeholderDetailBody where
  stakeholder := { stakeholderEntity entry.stakeholder entry.effectiveClassification with
    degraded := entry.relationships.any fun relationship => degraded relationship.subjectId }
  responsibilities := entry.relationships.map fun relationship =>
    { value := relationship.purpose.asStr ++ " for " ++ relationship.subjectLabel
      provenance := ⟨.stakeholders, relationship.subjectId, "stakeholder_relationship", relationship.revision,
        relationship.asOf⟩ }
  outstandingRequests := entry.requests.map fun request =>
    entity .actionRequest request.id .actionManagement request.classification request.revision request.asOf

variable (snapshot : LedgerCompositionSnapshot)

structure NamedSubject where
  subjectType : String
  subjectId : String
  name : String
  classification : DataClassification

def namedAs {kind : IdKind} (subjectType : String) (records : List (NamedReadRecord kind)) : List NamedSubject :=
  records.map fun record => ⟨subjectType, record.id.asStr, record.name, record.classification⟩

/-- The `named_subjects`, of which a later one takes the place of an earlier one. -/
def namedSubjects : List NamedSubject :=
  (snapshot.milestones.map fun record => ⟨"milestone", record.id.asStr, record.name, record.classification⟩) ++
  namedAs "product" snapshot.products ++ namedAs "initiative" snapshot.initiatives ++
  namedAs "project" snapshot.projects ++ namedAs "roadmap" snapshot.roadmaps ++
  namedAs "kpi_definition" snapshot.kpiDefinitions

def subjectOf (relationship : StakeholderRelationshipReadRecord) : Option NamedSubject :=
  (namedSubjects snapshot).reverse.find? fun subject =>
    subject.subjectType = relationship.subjectType ∧ subject.subjectId = relationship.subjectId

def relationshipFactsOf (relationship : StakeholderRelationshipReadRecord) : RelationshipFacts :=
  let subject := subjectOf snapshot relationship
  { subjectId := relationship.subjectId
    subjectLabel := (subject.map (·.name)).getD (relationship.subjectType ++ " " ++ relationship.subjectId)
    purpose := purposeOf relationship.purpose
    classification := match subject with
      | some subject => relationship.classification.combine subject.classification
      | none => relationship.classification
    revision := relationship.version.get
    asOf := snapshot.ledgerAsOfUtc }

def relationshipFacts (stakeholder : String) : List RelationshipFacts :=
  (snapshot.stakeholderRelationships.filter fun relationship => relationship.stakeholderId.asStr = stakeholder).map
    (relationshipFactsOf snapshot)

def isOutstandingRequest : ActionRequestState → Bool
  | .open => true
  | _ => false

def requestFacts (request : ActionRequestReadRecord) : OutstandingRequestFacts :=
  ⟨request.id, request.classification, request.version.get, snapshot.ledgerAsOfUtc⟩

def outstandingFacts (stakeholder : String) : List OutstandingRequestFacts :=
  (snapshot.actionRequests.filter fun request =>
    isOutstandingRequest request.state && request.intendedOwnerId.any fun owner => owner.asStr = stakeholder).map
    (requestFacts snapshot)

def directoryEntriesFromSnapshot : List DirectoryEntryFacts :=
  snapshot.stakeholders.map fun stakeholder =>
    { stakeholder :=
        ⟨stakeholder.id.asStr, stakeholder.displayName, stakeholder.classification, stakeholder.version.get,
          snapshot.ledgerAsOfUtc⟩
      relationships := relationshipFacts snapshot stakeholder.id.asStr
      requests := outstandingFacts snapshot stakeholder.id.asStr }

def stakeholderDetailFromSnapshot (stakeholder : String) : Option DirectoryEntryFacts :=
  (directoryEntriesFromSnapshot snapshot).find? fun entry => entry.stakeholder.id = stakeholder

end MissionControl.Surfaces

import MissionControl.Domain.PreviewDigest

/-! The preview of a Relationship's removal, and the bytes its payload digest is
computed over. -/

namespace MissionControl.Relationships
open Encoding

/-- An endpoint as the Ledger holds it at the moment of asking. -/
structure Snapshot (kind : IdKind) where
  id : OpaqueId kind
  version : AggregateVersion
  classification : DataClassification

abbrev PortfolioSnapshot := Snapshot .portfolio
abbrev ProductSnapshot := Snapshot .product
abbrev InitiativeSnapshot := Snapshot .initiative
abbrev RoadmapSnapshot := Snapshot .roadmap
abbrev KpiSnapshot := Snapshot .kpi
abbrev ProjectSnapshot := Snapshot .project
abbrev StakeholderSnapshot := Snapshot .stakeholder

structure MilestoneSnapshot where
  id : MilestoneId
  projectId : ProjectId
  version : AggregateVersion
  classification : DataClassification

inductive EndpointSnapshot where
  | portfolio (snapshot : PortfolioSnapshot)
  | product (snapshot : ProductSnapshot)
  | initiative (snapshot : InitiativeSnapshot)
  | roadmap (snapshot : RoadmapSnapshot)
  | kpi (snapshot : KpiSnapshot)
  | project (snapshot : ProjectSnapshot)
  | milestone (snapshot : MilestoneSnapshot)
  | stakeholder (snapshot : StakeholderSnapshot)

inductive StakeholderRelationshipPurpose where
  | responsibility | dependency

inductive RelationshipKind where
  | portfolioProduct | portfolioInitiative | productRoadmap | productKpi | initiativeProject | projectProduct
  | stakeholderSubject
  deriving DecidableEq

def RelationshipKind.asPersisted : RelationshipKind → String
  | .portfolioProduct => "portfolio_product"
  | .portfolioInitiative => "portfolio_initiative"
  | .productRoadmap => "product_roadmap"
  | .productKpi => "product_kpi"
  | .initiativeProject => "initiative_project"
  | .projectProduct => "project_product"
  | .stakeholderSubject => "stakeholder_subject"

inductive RemovalEffect where
  | removeRelationshipRecord | removeSemanticRelationshipIndex | createIdempotencyTombstone

inductive RemovalPolicyDecision where
  | allowed

inductive CancellationPolicy where
  | notCancellableAfterSubmit

abbrev RecoveryEvidenceId := OpaqueId .recoveryEvidence

structure RecoveryEvidence where
  id : RecoveryEvidenceId
  name : BoundedText 128
  verifiedAt : UtcTimestamp
  relationshipId : RelationshipId
  compatible : Bool

/-- A text in memory; its length is a `u64`. -/
structure HeapText where
  asStr : String
  fits : asStr.utf8ByteSize < 2 ^ 64

structure RemoveRelationshipPreview where
  intentType : HeapText
  intentVersion : UInt16
  preparedId : PreparedIntentId
  relationshipId : RelationshipId
  relationshipVersion : AggregateVersion
  endpoints : List EndpointSnapshot
  kind : RelationshipKind
  purpose : Option StakeholderRelationshipPurpose
  effects : List RemovalEffect
  classification : DataClassification
  policyDecision : RemovalPolicyDecision
  evidence : RecoveryEvidence
  expiresAt : UtcTimestamp
  cancellationPolicy : CancellationPolicy
  confirmationChallenge : HeapText

def removalFields (kind id : String) (version : AggregateVersion) (classification : DataClassification)
    (parent : String) : List String :=
  [kind, id, toString version.get, classification.asPersisted, parent]

def EndpointSnapshot.removalDigestFields : EndpointSnapshot → List String
  | .portfolio v => removalFields "portfolio" v.id.asStr v.version v.classification ""
  | .product v => removalFields "product" v.id.asStr v.version v.classification ""
  | .initiative v => removalFields "initiative" v.id.asStr v.version v.classification ""
  | .roadmap v => removalFields "roadmap" v.id.asStr v.version v.classification ""
  | .kpi v => removalFields "kpi" v.id.asStr v.version v.classification ""
  | .project v => removalFields "project" v.id.asStr v.version v.classification ""
  | .milestone v => removalFields "milestone" v.id.asStr v.version v.classification v.projectId.asStr
  | .stakeholder v => removalFields "stakeholder" v.id.asStr v.version v.classification ""

def purposeName : Option StakeholderRelationshipPurpose → String
  | none => "none"
  | some .responsibility => "responsibility"
  | some .dependency => "dependency"

def RemovalEffect.effectName : RemovalEffect → String
  | .removeRelationshipRecord => "remove_relationship_record"
  | .removeSemanticRelationshipIndex => "remove_semantic_relationship_index"
  | .createIdempotencyTombstone => "create_idempotency_tombstone"

def digestEndpoint (endpoint : EndpointSnapshot) : List UInt8 :=
  endpoint.removalDigestFields.flatMap digestText

def digestRecovery (evidence : RecoveryEvidence) : List UInt8 :=
  digestText evidence.id.asStr ++ digestText evidence.name.asStr ++ digestInstant evidence.verifiedAt ++
    digestText evidence.relationshipId.asStr ++ digestField [evidence.compatible.toUInt8]

/-- What is fed to the hash; neither the endpoints nor the effects are counted. -/
def removalBytes (preview : RemoveRelationshipPreview) : List UInt8 :=
  digestText preview.intentType.asStr ++ digestField (bigEndian 2 preview.intentVersion.toNat) ++
    digestText preview.preparedId.asStr ++ digestText preview.relationshipId.asStr ++
    digestVersion preview.relationshipVersion ++ preview.endpoints.flatMap digestEndpoint ++
    digestText preview.kind.asPersisted ++ digestText (purposeName preview.purpose) ++
    preview.effects.flatMap (fun effect => digestText effect.effectName) ++
    digestClassification preview.classification ++ digestText "allowed" ++ digestRecovery preview.evidence ++
    digestInstant preview.expiresAt ++ digestText "not_cancellable_after_submit" ++
    digestText preview.confirmationChallenge.asStr

end MissionControl.Relationships

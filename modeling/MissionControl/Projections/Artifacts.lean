import MissionControl.Domain.Lifecycle
import MissionControl.Lib.Sorting
import MissionControl.Projections.Record

/-! The files a Ledger snapshot is projected into, and how a fresh set of them differs
from what is published. -/

namespace MissionControl.Projections

abbrev Bytes := List UInt8

abbrev ProjectionRecordType := ManagedProjectionRebuildRecordKind

/-- The record and change kinds have the same cases on both sides of the conversion. -/
abbrev ProjectionArtifactChange := ManagedProjectionRebuildChangeKind

def ManagedProjectionRebuildRecordKind.folderName : ProjectionRecordType → String
  | .product => "Products"
  | .project => "Projects"
  | .action => "Actions"
  | .decision => "Decisions"
  | .risk => "Risks"
  | .kpi => "KPIs"

def banner : String :=
  "> [!WARNING] Generated read-only Projection\n" ++
  "> This file is generated from Product Ledger. Do not edit it.\n" ++
  "> Manual changes are never imported into Product Ledger and may be overwritten after review.\n"

def sha256Hex [Sha256] (bytes : Bytes) : String := (Sha256.finalize bytes).asStr

/-- The digest in the name tells records apart where the file system folds case. -/
def projectionRelativePath [Sha256] (recordType : ProjectionRecordType) (recordId : String) : String :=
  let digest := sha256Hex (asBytes "pmc-projection-path-v1\x00" ++ asBytes recordType.asPersisted ++
    asBytes "\x00" ++ asBytes recordId)
  recordType.folderName ++ "/" ++ recordId ++ "--" ++ String.ofList (digest.toList.take 32) ++ ".md"

structure ProjectionFrontmatter where
  recordType : ProjectionRecordType
  recordId : String
  sourceRevision : Nat
  ledgerSchemaVersion : Nat
  ledgerRevision : Nat
  ledgerAsOfUtc : String
  classification : DataClassification
  lifecycle : Option String
  relationshipRefs : List String
  dueOrObservedAtUtc : Option String
  attentionLabels : List String

def quoted (key value : String) : String := key ++ ": \"" ++ value ++ "\"\n"

def listed (key : String) (values : List String) : String :=
  if values.isEmpty then ""
  else key ++ ":\n" ++ String.join (values.map fun value => "  - \"" ++ value ++ "\"\n")

def renderFrontmatter (fields : ProjectionFrontmatter) (payloadHash : Option String) : String :=
  "---\n" ++ quoted "pmc_projection_schema" "pmc.projection/v1" ++ "pmc_managed: true\n" ++
  quoted "pmc_record_type" fields.recordType.asPersisted ++ quoted "pmc_record_id" fields.recordId ++
  "pmc_source_revision: " ++ toString fields.sourceRevision ++ "\n" ++
  "pmc_ledger_schema_version: " ++ toString fields.ledgerSchemaVersion ++ "\n" ++
  "pmc_ledger_revision: " ++ toString fields.ledgerRevision ++ "\n" ++
  quoted "pmc_ledger_as_of_utc" fields.ledgerAsOfUtc ++
  quoted "pmc_classification" fields.classification.asPersisted ++
  (fields.lifecycle.map (quoted "pmc_lifecycle")).getD "" ++
  listed "pmc_relationship_refs" fields.relationshipRefs ++
  (fields.dueOrObservedAtUtc.map (quoted "pmc_due_or_observed_at_utc")).getD "" ++
  listed "pmc_attention_labels" fields.attentionLabels ++
  (payloadHash.map (quoted "pmc_managed_payload_sha256")).getD "" ++
  "---\n" ++ banner

structure ProjectionArtifact where
  relativePath : String
  frontmatter : ProjectionFrontmatter
  content : Bytes
  managedPayloadSha256 : String
  finalFileSha256 : String

def renderProjectionArtifact [Sha256] (fields : ProjectionFrontmatter) : ProjectionArtifact :=
  let managedPayloadSha256 := sha256Hex (asBytes (renderFrontmatter fields none))
  let content := asBytes (renderFrontmatter fields (some managedPayloadSha256))
  { relativePath := projectionRelativePath fields.recordType fields.recordId
    frontmatter := fields
    content
    managedPayloadSha256
    finalFileSha256 := sha256Hex content }

structure ProjectionArtifactSet where
  ledgerSchemaVersion : Nat
  ledgerRevision : Nat
  artifacts : List ProjectionArtifact

def littleEndian (width number : Nat) : Bytes := (Encoding.bigEndian width number).reverse

def ProjectionArtifactSet.aggregateManifestDigest [Sha256] (set : ProjectionArtifactSet) : String :=
  sha256Hex (littleEndian 4 set.ledgerSchemaVersion ++ littleEndian 8 set.ledgerRevision ++
    set.artifacts.flatMap fun artifact =>
      asBytes artifact.relativePath ++ [0] ++ asBytes artifact.frontmatter.recordType.asPersisted ++ [0] ++
      asBytes artifact.frontmatter.recordId ++ [0] ++ littleEndian 8 artifact.frontmatter.sourceRevision ++
      asBytes artifact.managedPayloadSha256 ++ [0] ++ asBytes artifact.finalFileSha256 ++ [0])

def civilFromDays (days : Int) : Int × Int × Int :=
  let z := days + 719468
  let era := (if z ≥ 0 then z else z - 146096).tdiv 146097
  let dayOfEra := z - era * 146097
  let yearOfEra := (dayOfEra - dayOfEra.tdiv 1460 + dayOfEra.tdiv 36524 - dayOfEra.tdiv 146096).tdiv 365
  let dayOfYear := dayOfEra - (365 * yearOfEra + yearOfEra.tdiv 4 - yearOfEra.tdiv 100)
  let monthPrime := (5 * dayOfYear + 2).tdiv 153
  let day := dayOfYear - (153 * monthPrime + 2).tdiv 5 + 1
  let month := if monthPrime < 10 then monthPrime + 3 else monthPrime - 9
  let year := yearOfEra + era * 400
  (if month ≤ 2 then year + 1 else year, month, day)

/-- Zeros in front, after the sign. -/
def padded (width : Nat) (number : Int) : String :=
  let digits := toString number.natAbs
  let sign := if number < 0 then "-" else ""
  sign ++ String.ofList (List.replicate (width - sign.length - digits.length) '0') ++ digits

def toRfc3339Utc (instant : UtcTimestamp) : String :=
  let millisOfDay := instant.unixMillis % 86400000
  let (year, month, day) := civilFromDays ((instant.unixMillis - millisOfDay) / 86400000)
  padded 4 year ++ "-" ++ padded 2 month ++ "-" ++ padded 2 day ++ "T" ++ padded 2 (millisOfDay / 3600000) ++ ":" ++
    padded 2 (millisOfDay / 60000 % 60) ++ ":" ++ padded 2 (millisOfDay / 1000 % 60) ++ "." ++
    padded 3 (millisOfDay % 1000) ++ "Z"

/-- A product, a project or a KPI: what is projected of it is only where it stands. -/
structure PlainProjectionSource (kind : IdKind) where
  id : OpaqueId kind
  classification : DataClassification
  sourceRevision : AggregateVersion

structure ActionProjectionSource where
  id : ActionId
  classification : DataClassification
  sourceRevision : AggregateVersion
  state : ActionState
  dueAt : UtcTimestamp
  sourceRequestId : ActionRequestId
  sourceDecisionId : Option DecisionId

structure DecisionProjectionSource where
  id : DecisionId
  classification : DataClassification
  sourceRevision : AggregateVersion
  state : DecisionState
  decidedAt : UtcTimestamp
  supersedesDecisionId : Option DecisionId
  supersededByDecisionId : Option DecisionId

structure RiskProjectionSource where
  id : RiskId
  classification : DataClassification
  sourceRevision : AggregateVersion
  state : RiskState
  nextReviewAt : Option UtcTimestamp

structure LedgerProjectionSnapshot where
  schemaVersion : Nat
  ledgerRevision : Nat
  ledgerAsOfUtc : UtcTimestamp
  products : List (PlainProjectionSource .product)
  projects : List (PlainProjectionSource .project)
  actions : List ActionProjectionSource
  decisions : List DecisionProjectionSource
  risks : List RiskProjectionSource
  kpis : List (PlainProjectionSource .kpi)

def DecisionState.asPersisted : DecisionState → String
  | .effective => "effective"
  | .superseded => "superseded"

def relationshipRef (kind id : String) : String := kind ++ ":" ++ id

/-- `sort` and then `dedup`, which drops an item equal to the one in front of it. -/
def sortedDeduplicated (values : List String) : List String :=
  (Sorting.sortBy compare values).destutter (· ≠ ·)

def frontmatterOf (snapshot : LedgerProjectionSnapshot) (recordType : ProjectionRecordType) (recordId : String)
    (sourceRevision : AggregateVersion) (classification : DataClassification) : ProjectionFrontmatter where
  recordType
  recordId
  sourceRevision := sourceRevision.get
  ledgerSchemaVersion := snapshot.schemaVersion
  ledgerRevision := snapshot.ledgerRevision
  ledgerAsOfUtc := toRfc3339Utc snapshot.ledgerAsOfUtc
  classification
  lifecycle := none
  relationshipRefs := []
  dueOrObservedAtUtc := none
  attentionLabels := []

def plainFrontmatter {kind : IdKind} (snapshot : LedgerProjectionSnapshot) (recordType : ProjectionRecordType)
    (source : PlainProjectionSource kind) : ProjectionFrontmatter :=
  frontmatterOf snapshot recordType source.id.asStr source.sourceRevision source.classification

def actionFrontmatter (snapshot : LedgerProjectionSnapshot) (action : ActionProjectionSource) : ProjectionFrontmatter :=
  { frontmatterOf snapshot .action action.id.asStr action.sourceRevision action.classification with
    lifecycle := some action.state.asPersisted
    relationshipRefs := sortedDeduplicated (relationshipRef "action-request" action.sourceRequestId.asStr ::
      action.sourceDecisionId.toList.map fun id => relationshipRef "decision" id.asStr)
    dueOrObservedAtUtc := some (toRfc3339Utc action.dueAt) }

def decisionFrontmatter (snapshot : LedgerProjectionSnapshot) (decision : DecisionProjectionSource) :
    ProjectionFrontmatter :=
  { frontmatterOf snapshot .decision decision.id.asStr decision.sourceRevision decision.classification with
    lifecycle := some (DecisionState.asPersisted decision.state)
    relationshipRefs := sortedDeduplicated ((decision.supersedesDecisionId.toList ++
      decision.supersededByDecisionId.toList).map fun id => relationshipRef "decision" id.asStr)
    dueOrObservedAtUtc := some (toRfc3339Utc decision.decidedAt) }

def riskFrontmatter (snapshot : LedgerProjectionSnapshot) (risk : RiskProjectionSource) : ProjectionFrontmatter :=
  { frontmatterOf snapshot .risk risk.id.asStr risk.sourceRevision risk.classification with
    lifecycle := some risk.state.asPersisted
    dueOrObservedAtUtc := risk.nextReviewAt.map toRfc3339Utc }

def generateProjectionArtifactSet [Sha256] (snapshot : LedgerProjectionSnapshot) : ProjectionArtifactSet where
  ledgerSchemaVersion := snapshot.schemaVersion
  ledgerRevision := snapshot.ledgerRevision
  artifacts := Sorting.sortBy (Sorting.comparing compare (·.relativePath)) (List.map renderProjectionArtifact (
    snapshot.products.map (plainFrontmatter snapshot .product) ++
    snapshot.projects.map (plainFrontmatter snapshot .project) ++
    snapshot.actions.map (actionFrontmatter snapshot) ++
    snapshot.decisions.map (decisionFrontmatter snapshot) ++
    snapshot.risks.map (riskFrontmatter snapshot) ++
    snapshot.kpis.map (plainFrontmatter snapshot .kpi)))

def ProjectionArtifact.verified [Sha256] (artifact : ProjectionArtifact) : Bool :=
  let recomputed := renderProjectionArtifact artifact.frontmatter
  recomputed.relativePath = artifact.relativePath ∧
    recomputed.managedPayloadSha256 = artifact.managedPayloadSha256 ∧
    recomputed.finalFileSha256 = artifact.finalFileSha256 ∧ recomputed.content = artifact.content

def verifyStagedArtifactSet [Sha256] (set : ProjectionArtifactSet) : Bool :=
  set.artifacts.all ProjectionArtifact.verified

def manifestEntry (artifact : ProjectionArtifact) : ManagedProjectionManifestEntry where
  relativePath := artifact.relativePath
  recordKind := artifact.frontmatter.recordType
  recordId := artifact.frontmatter.recordId
  sourceRevision := artifact.frontmatter.sourceRevision
  classification := artifact.frontmatter.classification
  managedPayloadSha256 := artifact.managedPayloadSha256
  finalFileSha256 := artifact.finalFileSha256

def manifestEntriesOf (fresh : ProjectionArtifactSet) : List ManagedProjectionManifestEntry :=
  fresh.artifacts.map manifestEntry

structure ProjectionChangeSetEntry where
  relativePath : String
  recordType : ProjectionRecordType
  recordId : String
  change : ProjectionArtifactChange
  classification : DataClassification

def publishedByPath (published : List ManagedProjectionManifestEntry) (path : String) :
    Option ManagedProjectionManifestEntry :=
  published.reverse.find? fun entry => entry.relativePath = path

def writtenChange (published : List ManagedProjectionManifestEntry) (artifact : ProjectionArtifact) :
    Option ProjectionChangeSetEntry :=
  let entry change : ProjectionChangeSetEntry :=
    { relativePath := artifact.relativePath
      recordType := artifact.frontmatter.recordType
      recordId := artifact.frontmatter.recordId
      change
      classification := artifact.frontmatter.classification }
  match publishedByPath published artifact.relativePath with
  | none => some (entry .created)
  | some baseline => if baseline.finalFileSha256 ≠ artifact.finalFileSha256 then some (entry .updated) else none

def removedChange (fresh : ProjectionArtifactSet) (entry : ManagedProjectionManifestEntry) :
    Option ProjectionChangeSetEntry :=
  if entry.relativePath ∈ fresh.artifacts.map (·.relativePath) then none
  else some
    { relativePath := entry.relativePath
      recordType := entry.recordKind
      recordId := entry.recordId
      change := .removed
      classification := entry.classification }

def diffAgainstPublished (fresh : ProjectionArtifactSet) (published : List ManagedProjectionManifestEntry) :
    List ProjectionChangeSetEntry :=
  Sorting.sortBy (Sorting.comparing compare (·.relativePath))
    (fresh.artifacts.filterMap (writtenChange published) ++ published.filterMap (removedChange fresh))

def artifactFor (fresh : ProjectionArtifactSet) (path : String) : Option ProjectionArtifact :=
  fresh.artifacts.find? fun artifact => artifact.relativePath = path

def expectedFinalFileSha256 (fresh : ProjectionArtifactSet) (entry : ProjectionChangeSetEntry) : Option (Option String) :=
  match entry.change with
  | .removed => some none
  | .created | .updated => (artifactFor fresh entry.relativePath).map fun artifact => some artifact.finalFileSha256

def h2aChangeEntry (fresh : ProjectionArtifactSet) (entry : ProjectionChangeSetEntry) :
    Option ManagedProjectionRebuildChangeEntry :=
  (expectedFinalFileSha256 fresh entry).map fun expectedFinalFileSha256 =>
    { relativePath := entry.relativePath
      recordKind := entry.recordType
      recordId := entry.recordId
      change := entry.change
      classification := entry.classification
      expectedFinalFileSha256 }

def h2aChangeEntries (changeSet : List ProjectionChangeSetEntry) (fresh : ProjectionArtifactSet) :
    List ManagedProjectionRebuildChangeEntry :=
  changeSet.filterMap (h2aChangeEntry fresh)

end MissionControl.Projections

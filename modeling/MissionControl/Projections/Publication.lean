import MissionControl.Lib.Program
import MissionControl.Projections.Artifacts
import MissionControl.Projections.Ledger

/-! Publication cycles: the Ledger's calls and the files of the managed subtree, written
between them and outside any transaction. A cycle may stop before any of its actions. -/

namespace MissionControl.Projections

abbrev Disk := String → Option Bytes

structure Written where
  authorised : List ManagedProjectionRebuildChangeEntry
  path : String
  contents : Bytes

/-- The last two fields are not stored anywhere: they remember what the Ledger last
admitted and what was written since the beginning. -/
structure PublicationWorld where
  tables : ProjectionTables
  disk : Disk
  authorised : List ManagedProjectionRebuildChangeEntry
  written : List Written

inductive PublicationOp : Type → Type where
  | call (call : Call) : PublicationOp (Except (Transaction.Failure CallError) Answer)
  | publishedManifest : PublicationOp (Option (List ManagedProjectionManifestEntry))
  | cancellationRequested (context : OperationContext) : PublicationOp Bool
  | publishManagedFile (path : String) (contents : Bytes) : PublicationOp Bool
  | removeManagedFile (path : String) : PublicationOp Bool
  | validateCanonicalRoot : PublicationOp Bool
  | fingerprint (path : String) : PublicationOp (Option String)

def ProjectionTables.publishedManifest (tables : ProjectionTables) : List ManagedProjectionManifestEntry :=
  (((tables.head.bind (·.integrity.manifestId)).bind tables.generations.find).map (·.manifest.entries)).getD []

section
variable [Sha256]

def callEffect (call : Call) (works : Bool) (world : PublicationWorld) :
    Except (Transaction.Failure CallError) Answer × PublicationWorld :=
  let result := Transaction.run works call.operation world.tables
  let authorised := match result.2 with
    | .ok (.opened effects) => effects.changes
    | _ => world.authorised
  (result.2, { world with tables := result.1, authorised })

/-- A cancellation is requested in the Ledger just before the poll that sees it. A file
that is already absent is removed with success. -/
def publicationEffect : Effect PublicationOp PublicationWorld := fun _ op works world =>
  match op with
  | .call call => callEffect call works world
  | .publishedManifest => (if works then some world.tables.publishedManifest else none, world)
  | .cancellationRequested context =>
    if works then (true, (callEffect (.requestCancellation context) true world).2) else (false, world)
  | .publishManagedFile path contents =>
    if works then
      (true, { world with
        disk := Function.update world.disk path (some contents)
        written := ⟨world.authorised, path, contents⟩ :: world.written })
    else (false, world)
  | .removeManagedFile path =>
    if works then (true, { world with disk := Function.update world.disk path none }) else (false, world)
  | .validateCanonicalRoot => (works, world)
  | .fingerprint path => (if works then (world.disk path).map sha256Hex else none, world)

end

abbrev PublicationProgram := Program PublicationOp

def untouchedItems (changes : List ManagedProjectionRebuildChangeEntry) : List ManagedProjectionPublishItem :=
  changes.map fun entry => ⟨entry.relativePath, .untouched⟩

/-- Only bytes with the approved hash are written. -/
def publishEntry (fresh : ProjectionArtifactSet) (entry : ManagedProjectionRebuildChangeEntry) :
    PublicationProgram Bool :=
  match entry.change with
  | .removed => Program.perform (.removeManagedFile entry.relativePath)
  | .created | .updated =>
    match artifactFor fresh entry.relativePath with
    | some artifact =>
      if entry.expectedFinalFileSha256 = some artifact.finalFileSha256 then
        Program.perform (.publishManagedFile entry.relativePath artifact.content)
      else pure false
    | none => pure false

/-- The question at each safe boundary, until there is an answer that ends it. -/
def pollCancellation (context : OperationContext) (failed cancelled : Bool) : PublicationProgram Bool :=
  if failed || cancelled then pure cancelled else Program.perform (.cancellationRequested context)

/-- The first failure or cancellation leaves every later path untouched. -/
def publishEntries (context : OperationContext) (fresh : ProjectionArtifactSet) (failed cancelled : Bool) :
    List ManagedProjectionRebuildChangeEntry → PublicationProgram (List ManagedProjectionPublishItem × Bool)
  | [] => pure ([], cancelled)
  | entry :: rest => do
    let cancelled ← pollCancellation context failed cancelled
    if failed || cancelled then
      let (items, cancelled) ← publishEntries context fresh failed cancelled rest
      return (⟨entry.relativePath, .untouched⟩ :: items, cancelled)
    else
      let outcome ← publishEntry fresh entry
      let (items, cancelled) ← publishEntries context fresh (!outcome) cancelled rest
      return (⟨entry.relativePath, if outcome then .committed else .failed⟩ :: items, cancelled)

def allCommitted (items : List ManagedProjectionPublishItem) : Bool :=
  items.all fun item => item.state = .committed

def publishChangeSet [Sha256] (context : OperationContext) (fresh : ProjectionArtifactSet)
    (changes : List ManagedProjectionRebuildChangeEntry) : PublicationProgram ManagedProjectionPublishReport :=
  if verifyStagedArtifactSet fresh then do
    let (items, cancelled) ← publishEntries context fresh false false changes
    return {
      status := if allCommitted items then .succeeded else if cancelled then .cancelled else .failed
      items
      manifest := none }
  else pure ⟨.failed, untouchedItems changes, none⟩

def artifactsMatch : List ProjectionArtifact → PublicationProgram Bool
  | [] => pure true
  | artifact :: rest => do
    let digest ← Program.perform (.fingerprint artifact.relativePath)
    if digest = some artifact.finalFileSha256 then artifactsMatch rest else pure false

def publishedSetMatches (fresh : ProjectionArtifactSet) : PublicationProgram Bool := do
  let valid ← Program.perform .validateCanonicalRoot
  if valid then artifactsMatch fresh.artifacts else pure false

def attachVerifiedManifest [Sha256] (fresh : ProjectionArtifactSet) (report : ManagedProjectionPublishReport)
    (manifestId : String) : PublicationProgram ManagedProjectionPublishReport := do
  if report.status = .succeeded ∧ allCommitted report.items then
    let agrees ← publishedSetMatches fresh
    if agrees then
      return { report with
        manifest := some
          { manifestId
            ledgerSchemaVersion := fresh.ledgerSchemaVersion
            ledgerRevision := fresh.ledgerRevision
            manifestDigest := fresh.aggregateManifestDigest
            entries := manifestEntriesOf fresh } }
    else return { report with manifest := none }
  else return { report with manifest := none }

/-- How a publication is admitted, with everything its caller supplies. -/
inductive Route where
  | h2a (prepareContext : OperationContext) (preparedIntentId : PreparedIntentId) (preparedAt : UtcTimestamp)
    (publishedBaselineDigest : String) (estimatedDurationMillis : Nat) (rationale : WorkManagementRationale)
    (approvalReceiptId : ApprovalReceiptId) (currentPublishedBaselineDigest : String)
  | h1Auto (estimatedDurationMillis : Nat) (isInitialOrFullRebuild integrityConflict : Bool)

structure Publication where
  snapshot : LedgerProjectionSnapshot
  context : OperationContext
  route : Route
  openedAt : UtcTimestamp
  manifestId : String
  completedAt : UtcTimestamp

section
variable [Sha256]

def Publication.fresh (publication : Publication) : ProjectionArtifactSet :=
  generateProjectionArtifactSet publication.snapshot

def Publication.changes (publication : Publication) (published : List ManagedProjectionManifestEntry) :
    List ManagedProjectionRebuildChangeEntry :=
  h2aChangeEntries (diffAgainstPublished publication.fresh published) publication.fresh

/-- Opens the publication, unless the Ledger or the limits of automation refuse it. -/
def admitPublication (publication : Publication) (changes : List ManagedProjectionRebuildChangeEntry) :
    PublicationProgram (Option ManagedProjectionRebuildEffects) :=
  match publication.route with
  | .h2a prepareContext preparedIntentId preparedAt publishedBaselineDigest estimatedDurationMillis rationale
      approvalReceiptId currentPublishedBaselineDigest => do
    let prepared ← Program.perform (.call (.prepareRebuild
      { ledgerSchemaVersion := publication.snapshot.schemaVersion
        ledgerRevision := publication.snapshot.ledgerRevision
        publishedBaselineDigest
        changes
        estimatedDurationMillis
        rationale
        context := prepareContext } preparedIntentId preparedAt))
    match prepared with
    | .ok (.prepared intent) =>
      let opened ← Program.perform (.call (.approveAndExecuteRebuild
        { approval :=
            { preparedId := intent.preview.preparedIntentId
              actor := .headOfProducts
              acknowledgedPayloadDigest := intent.payloadDigest
              idempotencyId := publication.context.idempotencyId
              authorized := rfl }
          context := publication.context } approvalReceiptId currentPublishedBaselineDigest changes publication.openedAt))
      match opened with
      | .ok (.opened effects) => return some effects
      | _ => return none
    | _ => return none
  | .h1Auto estimatedDurationMillis isInitialOrFullRebuild integrityConflict =>
    match ManagedProjectionH1AutoAuthorization.authorize changes.length estimatedDurationMillis isInitialOrFullRebuild
        integrityConflict with
    | .error _ => return none
    | .ok authorization => do
      let opened ← Program.perform
        (.call (.beginH1AutoRebuild publication.context authorization changes publication.openedAt))
      match opened with
      | .ok (.opened effects) => return some effects
      | _ => return none

def publicationCycle (publication : Publication) : PublicationProgram Unit := do
  let manifest ← Program.perform .publishedManifest
  match manifest with
  | none => return ()
  | some published =>
    match ← admitPublication publication (publication.changes published) with
    | none => return ()
    | some effects =>
      let report ← publishChangeSet publication.context publication.fresh effects.changes
      let report ← attachVerifiedManifest publication.fresh report publication.manifestId
      let _ ← Program.perform (.call (.completeRebuild publication.context report publication.completedAt))
      return ()

/-- A cycle that may be cut short, or a change of the Ledger between two cycles. -/
inductive PublicationEvent where
  | cycle (publication : Publication) (schedule : List Bool)
  | elsewhere

def PublicationStep : PublicationEvent → PublicationWorld → PublicationWorld → Prop
  | .cycle publication schedule, before, after =>
    ((publicationCycle publication).attempt publicationEffect schedule before).1 = after
  | .elsewhere, before, after => ∃ tables, Elsewhere before.tables tables ∧ after = { before with tables }

end

/-- A Ledger that never published, and a managed subtree without files. -/
def PublicationWorld.initial (schemaVersion ledgerRevision : Nat) (claims : List IdempotencyId) : PublicationWorld where
  tables := .migrated schemaVersion ledgerRevision claims
  disk := fun _ => none
  authorised := []
  written := []

end MissionControl.Projections

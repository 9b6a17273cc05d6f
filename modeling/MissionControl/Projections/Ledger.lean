import MissionControl.Lib.Run
import MissionControl.Lib.Transaction
import MissionControl.Projections.Tables

/-! The repository calls that publish managed projections, each one transaction over
the projection tables, and the runs any number of callers make of them. -/

namespace MissionControl.Projections
open Checked

section
variable [Sha256]

def prepareRebuildManagedProjections (command : PrepareRebuildManagedProjections) (preparedIntentId : PreparedIntentId)
    (now : UtcTimestamp) (tables : ProjectionTables) :
    Except DomainError (ProjectionTables × ManagedProjectionRebuildPreparedIntent) := do
  let context := command.context
  match tables.prepareReplays.find context.idempotencyId with
  | some existing =>
    if ← prepareInputsMatch context tables existing.resultReference command then
      return (tables, ← decodePreparedIntent context tables existing.resultReference)
    else throw (idempotencyConflict context)
  | none =>
    let prepared ← relabel (rebuildDomainError context) (prepareRebuild command preparedIntentId now)
    let tables ← persistPreparedIntent context prepared tables
    let tables ← persistPrepareReplay context prepared.preview.preparedIntentId tables
    return (tables, prepared)

end

/-- A repeated execute answers as the first one did, when everything the approval
asserts is the same. An automatic publication has no binding to read. -/
def replayExecute (command : ApproveAndExecuteRebuildManagedProjections) (existing : OperationRow)
    (tables : ProjectionTables) : Except DomainError (ProjectionTables × ManagedProjectionRebuildEffects) :=
  match existing.authorization with
  | .h1Auto => .error (storageError command.context)
  | .h2a preparedIntentId _ actor acknowledgedDigest =>
    if preparedIntentId = command.approval.preparedId ∧
        acknowledgedDigest = command.approval.acknowledgedPayloadDigest ∧ actor = command.approval.actor ∧
        existing.correlationId = command.context.correlationId then
      .ok (tables, ⟨loadChanges tables preparedIntentId⟩)
    else .error (idempotencyConflict command.context)

/-- What both routes do once a publication is admitted. -/
def openPublication (context : OperationContext) (authorization : Authorization)
    (changes : List ManagedProjectionRebuildChangeEntry) (now : UtcTimestamp) (tables : ProjectionTables) :
    Except DomainError (ProjectionTables × ManagedProjectionRebuildEffects) := do
  let tables ← persistOperation context authorization now tables
  let tables ← persistOperationItems context changes tables
  let tables ← markHeadOutOfSync context now tables
  return (tables, ⟨changes⟩)

def approveAndExecuteRebuildManagedProjections (command : ApproveAndExecuteRebuildManagedProjections)
    (approvalReceiptId : ApprovalReceiptId) (currentPublishedBaselineDigest : String)
    (currentChanges : List ManagedProjectionRebuildChangeEntry) (now : UtcTimestamp) (tables : ProjectionTables) :
    Except DomainError (ProjectionTables × ManagedProjectionRebuildEffects) := do
  let context := command.context
  match tables.operations.find context.idempotencyId with
  | some existing => replayExecute command existing tables
  | none =>
    let preparedId := command.approval.preparedId
    let consumed ← isConsumed context tables preparedId
    ensure (consumed = false) (preparedIntentAlreadyConsumed context)
    let prepared ← decodePreparedIntent context tables preparedId
    let effects ← relabel (rebuildDomainError context) (executeRebuild command.approval prepared tables.schemaVersion
      tables.ledgerRevision currentPublishedBaselineDigest currentChanges now)
    let tables ← consumePreparedIntent context preparedId now tables
    ensure (publicationInFlight tables = false) (rebuildDomainError context .publicationInFlight)
    let tables ← persistApprovalReceipt context
      { id := approvalReceiptId
        preparedIntentId := preparedId
        actor := .headOfProducts
        acknowledgedPayloadDigest := command.approval.acknowledgedPayloadDigest
        idempotencyId := context.idempotencyId
        approvedAt := now
        expiresAt := prepared.preview.expiresAt
        consumedAt := some now } tables
    openPublication context
      (.h2a preparedId approvalReceiptId .headOfProducts command.approval.acknowledgedPayloadDigest)
      effects.changes now tables

def beginH1AutoRebuildManagedProjections (context : OperationContext)
    (authorization : ManagedProjectionH1AutoAuthorization) (changes : List ManagedProjectionRebuildChangeEntry)
    (now : UtcTimestamp) (tables : ProjectionTables) :
    Except DomainError (ProjectionTables × ManagedProjectionRebuildEffects) := do
  ensure (authorization.changeCount = changes.length) (rebuildDomainError context .h1AutoNotPermitted)
  ensure (changes ≠ []) (rebuildDomainError context .emptyChangeSet)
  ensure (canonical changes = true) (rebuildDomainError context .changesNotCanonical)
  -- Automation only ever starts from a synchronized baseline.
  ensure (projectionHeadIsVerified tables = true) (rebuildDomainError context .h1AutoNotPermitted)
  ensure ((tables.operations.find context.idempotencyId).isNone = true) (idempotencyConflict context)
  ensure (publicationInFlight tables = false) (rebuildDomainError context .publicationInFlight)
  openPublication context .h1Auto changes now tables

def requestRebuildManagedProjectionsCancellation (context : OperationContext) (tables : ProjectionTables) :
    Except DomainError ProjectionTables := do
  let row ← require (unknownOperation context) (tables.operations.find context.idempotencyId)
  match row.status with
  | .cancelling => return tables
  | .publishing =>
    return { tables with
      operations := tables.operations.update context.idempotencyId fun row => { row with status := .cancelling } }
  | .terminal .. => throw (operationAlreadyTerminal context)

/-- Without a manifest the last verified generation stays the baseline. -/
def moveHead (context : OperationContext) (manifest : Option ManagedProjectionManifestGeneration) (now : UtcTimestamp)
    (tables : ProjectionTables) : Except DomainError ProjectionTables :=
  match manifest with
  | some manifest => persistManifest context manifest now tables
  | none => markHeadOutOfSync context now tables

/-- An end names every planned path once, and only planned paths. -/
def completeRebuildManagedProjections (context : OperationContext) (report : ManagedProjectionPublishReport)
    (now : UtcTimestamp) (tables : ProjectionTables) :
    Except DomainError (ProjectionTables × ManagedProjectionEffectScope) := do
  let row ← require (unknownOperation context) (tables.operations.find context.idempotencyId)
  ensure (row.status.inFlight = true) (operationAlreadyTerminal context)
  let planned := (tables.itemsOf context.idempotencyId).length
  ensure ((report.items.map (·.relativePath)).Nodup ∧ report.items.length = planned) (incompleteReport context)
  let tables ← recordItems context report.items tables
  let effectScope := ManagedProjectionEffectScope.derive report.items
  let tables ← endOperation context row report.status effectScope now tables
  let tables ← moveHead context report.manifest now tables
  return (tables, effectScope)

/-- After a restore the files on disk are no longer known to match. -/
def markProjectionsOutOfSyncAfterRestore (now : UtcTimestamp) (tables : ProjectionTables) :
    Except Unit ProjectionTables := do
  ensure (0 ≤ now.unixMillis) ()
  return { tables with
    head := some
      { integrity := .outOfSync (tables.head.bind (·.integrity.manifestId))
        updatedAt := now } }

inductive Call where
  | prepareRebuild (command : PrepareRebuildManagedProjections) (preparedIntentId : PreparedIntentId) (now : UtcTimestamp)
  | approveAndExecuteRebuild (command : ApproveAndExecuteRebuildManagedProjections)
    (approvalReceiptId : ApprovalReceiptId) (currentPublishedBaselineDigest : String)
    (currentChanges : List ManagedProjectionRebuildChangeEntry) (now : UtcTimestamp)
  | beginH1AutoRebuild (context : OperationContext) (authorization : ManagedProjectionH1AutoAuthorization)
    (changes : List ManagedProjectionRebuildChangeEntry) (now : UtcTimestamp)
  | requestCancellation (context : OperationContext)
  | completeRebuild (context : OperationContext) (report : ManagedProjectionPublishReport) (now : UtcTimestamp)
  | markOutOfSyncAfterRestore (now : UtcTimestamp)

inductive Answer where
  | prepared (intent : ManagedProjectionRebuildPreparedIntent)
  | opened (effects : ManagedProjectionRebuildEffects)
  | completed (effectScope : ManagedProjectionEffectScope)
  | done

inductive CallError where
  | domain (error : DomainError)
  | unspecified

def Call.operation [Sha256] (call : Call) (tables : ProjectionTables) : Except CallError (ProjectionTables × Answer) :=
  match call with
  | .prepareRebuild command preparedIntentId now => do
    let (tables, intent) ← relabel .domain (prepareRebuildManagedProjections command preparedIntentId now tables)
    return (tables, .prepared intent)
  | .approveAndExecuteRebuild command approvalReceiptId baseline changes now => do
    let (tables, effects) ← relabel .domain
      (approveAndExecuteRebuildManagedProjections command approvalReceiptId baseline changes now tables)
    return (tables, .opened effects)
  | .beginH1AutoRebuild context authorization changes now => do
    let (tables, effects) ← relabel .domain
      (beginH1AutoRebuildManagedProjections context authorization changes now tables)
    return (tables, .opened effects)
  | .requestCancellation context => do
    let tables ← relabel .domain (requestRebuildManagedProjectionsCancellation context tables)
    return (tables, .done)
  | .completeRebuild context report now => do
    let (tables, effectScope) ← relabel .domain (completeRebuildManagedProjections context report now tables)
    return (tables, .completed effectScope)
  | .markOutOfSyncAfterRestore now => do
    let tables ← relabel (fun _ => .unspecified) (markProjectionsOutOfSyncAfterRestore now tables)
    return (tables, .done)

/-- What the rest of the Ledger may do between two calls: raise the revision, claim keys,
and keep intents and receipts of other kinds. -/
structure Elsewhere (before after : ProjectionTables) : Prop where
  schemaVersion : after.schemaVersion = before.schemaVersion
  preparedIntents : ∀ id row, row.rebuild.isSome = true →
    (after.preparedIntents.find id = some row ↔ before.preparedIntents.find id = some row)
  prepareReplays : after.prepareReplays = before.prepareReplays
  operations : after.operations = before.operations
  items : after.items = before.items
  generations : after.generations = before.generations
  head : after.head = before.head

/-- A call whose transaction can or cannot be carried through, or something else. -/
inductive Turn where
  | call (call : Call) (available : Bool)
  | elsewhere

def Step [Sha256] : Turn → ProjectionTables → ProjectionTables → Prop
  | .call call available, before, after => (Transaction.run available call.operation before).1 = after
  | .elsewhere, before, after => Elsewhere before after

/-- Calls one after another, none of them interrupted. -/
def runCalls [Sha256] (calls : List Call) (tables : ProjectionTables) : ProjectionTables :=
  calls.foldl (fun tables call => (Transaction.run true call.operation tables).1) tables

theorem evolves_runCalls [Sha256] (calls : List Call) (tables : ProjectionTables) :
    Run.Evolves Step tables (calls.map fun call => .call call true) (runCalls calls tables) := by
  induction calls generalizing tables with
  | nil => exact .start
  | cons call rest onwards => exact (Run.Evolves.single (.inr rfl)).trans (onwards _)

end MissionControl.Projections

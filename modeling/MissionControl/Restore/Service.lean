import MissionControl.Restore.World

/-! The steps of a restore, as programs over its atomic actions. Audits are left out;
none of these decides anything by them. -/

namespace MissionControl.Restore
open Program

abbrev Restoring (α : Type) := Program Op α

def andThen (first rest : Restoring Bool) : Restoring Bool := do
  if ← first then rest else pure false

structure CheckedArchive where
  archiveId : String
  containerSha256 : String
  createdAt : String
  schemaVersion : Nat
  ledgerRevision : Nat
  recordCount : Nat
  snapshotSha256 : String
  settingsMemberSha256 : String
  inventoryMemberSha256 : String

/-- What was made to keep the current workspace. -/
structure Kept where
  current : CurrentSourceBinding
  unopenedReason : Option UnopenedReason
  recovery : RecoveryEvidence

def currentSchemaVersion : Nat := 48

def saturatingAdd (instant duration : Int) : Int := max (-2 ^ 63) (min (2 ^ 63 - 1) (instant + duration))

section
variable [Sha256]

def fileSha256 (files : Files) (name : FileName) : Option String := (files name).map sha256Bytes

def checkArchive (checked : Except RestoreError CheckedArchive) : Restoring (Except RestoreError CheckedArchive) := do
  match ← perform (.update .dropPrepared) with
  | .error cause => pure (.error cause)
  | .ok () => if ← perform .clearWorkArea then pure checked else pure (.error .workArea)

structure Preparation where
  preparedIntentId : String
  nowMillis : Int
  /-- The archive's date in the settings' time zone. -/
  confirmationDate : Option String
  validForMillis : Int

def preparedOf (checked : CheckedArchive) (settings : SettingsDocument) (kept : Kept) (preparation : Preparation)
    (confirmationDate : String) : PreparedRestore :=
  let unsigned : PreparedRestore :=
    { preparedIntentId := preparation.preparedIntentId
      payloadSha256 := ""
      archiveId := checked.archiveId
      archiveContainerSha256 := checked.containerSha256
      archiveCreatedAt := checked.createdAt
      archiveSchemaVersion := checked.schemaVersion
      archiveLedgerRevision := checked.ledgerRevision
      archiveRecordCount := checked.recordCount
      snapshotSha256 := checked.snapshotSha256
      settingsMemberSha256 := checked.settingsMemberSha256
      inventoryMemberSha256 := checked.inventoryMemberSha256
      current := kept.current
      unopenedReason := kept.unopenedReason
      settingsRevision := settings.revision
      recovery := kept.recovery
      confirmationDate
      confirmationTimezone := settings.display.timezone
      preparedAtMillis := preparation.nowMillis
      expiresAtMillis := saturatingAdd preparation.nowMillis preparation.validForMillis }
  { unsigned with payloadSha256 := sha256Bytes (asBytes (previewPayload unsigned)) }

variable [RestoreHost]

def finishPrepare (checked : CheckedArchive) (settings : SettingsDocument) (kept : Kept) (preparation : Preparation) :
    Restoring (Except RestoreError PreparedRestore) := do
  if ← perform (.writeSynced .settingsPreimage (RestoreHost.settingsBytes settings)) then
    match preparation.confirmationDate with
    | none => pure (.error .damaged)
    | some confirmationDate =>
      let prepared := preparedOf checked settings kept preparation confirmationDate
      match ← perform (.update (.place prepared)) with
      | .error cause => pure (.error cause)
      | .ok () => pure (.ok prepared)
  else pure (.error .workArea)

/-- The preparations differ in what they keep of the current workspace, and how. -/
def prepareKeeping (checked : CheckedArchive) (settings : SettingsDocument) (keep : Except RestoreError Kept)
    (preparation : Preparation) : Restoring (Except RestoreError PreparedRestore) := do
  match ← perform .load with
  | .error cause => pure (.error cause)
  | .ok control =>
    if control.executing.isSome then pure (.error .anotherRestoreActive)
    else
      let unchanged ← perform (.look (fun world =>
        fileSha256 world.files (.archive .settings) == some checked.settingsMemberSha256 &&
          fileSha256 world.files (.archive .inventory) == some checked.inventoryMemberSha256) false)
      if unchanged then
        match keep with
        | .error cause => pure (.error cause)
        | .ok kept => finishPrepare checked settings kept preparation
      else pure (.error .damaged)

def prepareRestore (checked : CheckedArchive) (settings : SettingsDocument)
    (backedUp : Except RestoreError (LedgerBinding × String)) (preparation : Preparation) :
    Restoring (Except RestoreError PreparedRestore) :=
  prepareKeeping checked settings
    (backedUp.map fun (binding, archiveId) => ⟨.inspectable binding, none, .operationalBackup archiveId⟩) preparation

def prepareRestoreClosed (checked : CheckedArchive) (settings : SettingsDocument)
    (backedUp : Except RestoreError (LedgerBinding × String)) (preparation : Preparation) :
    Restoring (Except RestoreError PreparedRestore) :=
  prepareKeeping checked settings
    (backedUp.map fun (binding, archiveId) =>
      ⟨.inspectable binding, some .upgradeRequired, .operationalBackup archiveId⟩) preparation

def prepareRestorePreserved (checked : CheckedArchive) (settings : SettingsDocument) (reason : UnopenedReason)
    (preserved : Except RestoreError (String × String × FileSetBinding)) (preparation : Preparation) :
    Restoring (Except RestoreError PreparedRestore) :=
  if reason = .upgradeRequired then pure (.error .currentNotInspectable)
  else
    prepareKeeping checked settings
      (preserved.map fun (preservationId, fileName, files) =>
        ⟨.opaqueFiles files, some reason, .preservationCopy preservationId fileName files⟩) preparation

omit [Sha256] [RestoreHost]

def rejectRestore (preparedIntentId : String) : Restoring (Except RestoreError Unit) := do
  match ← perform (.update (.reject preparedIntentId)) with
  | .error cause => pure (.error cause)
  | .ok () =>
    let _ ← perform .clearWorkArea
    pure (.ok ())

def approveRestore (approval : RestoreApproval) : Restoring (Except RestoreError (Option RestoreOutcome)) :=
  perform (.update (.approve approval))

def advance (source target : RestorePhase) (onward : target ≠ .approved := by decide) :
    Restoring (Except RestoreError Unit) :=
  perform (.update (.advance source target onward))

def advanced (source target : RestorePhase) (onward : target ≠ .approved := by decide) : Restoring Bool := do
  match ← advance source target onward with
  | .ok () => pure true
  | .error _ => pure false

def finish (outcome : RestoreOutcome) (projectionsPendingFor : Option String) (nowMillis : Int) :
    Restoring (Except RestoreError RestoreOutcome) := do
  match ← perform (.update (.finish outcome projectionsPendingFor nowMillis)) with
  | .error cause => pure (.error cause)
  | .ok () =>
    if outcome = .recoveryFailed then pure (.ok outcome)
    else
      let _ ← perform .clearWorkArea
      pure (.ok outcome)

def opaqueFiles : CurrentSourceBinding → Option FileSetBinding
  | .opaqueFiles files => some files
  | .inspectable _ => none

def removeRollbackSet (preparedIntentId : String) (moved : Option FileSetBinding) : Restoring Unit := do
  let _ ← perform (.removeFile (.previous preparedIntentId .ledger))
  ((moved.map (·.members)).getD []).forM fun bound => do
    if bound.member ≠ .ledger then
      let _ ← perform (.removeFile (.previous preparedIntentId bound.member))

/-- A log with content means the Ledger was not closed cleanly. -/
def clearStaleSidecars : Restoring Bool :=
  andThen
    (do
      match ← perform (.look (fun world => world.files (.live .wal)) none) with
      | none => pure true
      | some (_ :: _) => pure false
      | some [] => perform (.removeFile (.live .wal)))
    (do
      if ← perform (.exists (.live .shm)) then perform (.removeFile (.live .shm)) else pure true)

def moveSidecars (preparedIntentId : String) : List FileMemberBinding → Restoring Bool
  | [] => pure true
  | bound :: rest =>
    if bound.member = .ledger then moveSidecars preparedIntentId rest
    else
      andThen (perform (.rename (.live bound.member) (.previous preparedIntentId bound.member)))
        (moveSidecars preparedIntentId rest)

end

variable [Sha256] [RestoreHost]

/-- Afterwards exactly the bound set is at the rollback names, and nothing at the live ones. -/
def moveSidecarsAside (preparedIntentId : String) (files : FileSetBinding) : Restoring Bool :=
  andThen (moveSidecars preparedIntentId files.members)
    (perform (.look (fun world => bindMemberPaths world.files (.previous preparedIntentId) == some files &&
      LedgerFileMember.all.all fun member => (world.files (.live member)).isNone) false))

/-- The sidecars of an opaque set: a moved one goes back over what is there, one that
never moved stays, and one that was not bound goes. -/
def putSidecarsBack (preparedIntentId : String) (files : FileSetBinding) :
    List LedgerFileMember → Restoring Bool
  | [] => pure true
  | member :: rest => do
    let aside ← perform (.exists (.previous preparedIntentId member))
    let live ← perform (.exists (.live member))
    let bound := files.members.any fun bound => bound.member = member
    let removed ← if live && (aside || !bound) then perform (.removeFile (.live member)) else pure true
    if removed then
      let restored ←
        if aside then perform (.rename (.previous preparedIntentId member) (.live member)) else pure true
      if restored then putSidecarsBack preparedIntentId files rest else pure false
    else pure false

/-- The sidecars at the live names of an inspectable Ledger are the installed copy's. -/
def clearInstalledSidecars (preparedIntentId : String) (current : CurrentSourceBinding) : Restoring Bool :=
  match opaqueFiles current with
  | none => do
    let _ ← perform (.removeFile (.live .wal))
    let _ ← perform (.removeFile (.live .shm))
    pure true
  | some files => putSidecarsBack preparedIntentId files [.wal, .shm]

def putSettingsBack : Restoring Bool := do
  let preimage ← perform (.look (fun world => (world.files .settingsPreimage).bind RestoreHost.settingsOf) none)
  match preimage with
  | none => pure false
  | some preimage =>
    match ← perform (.look (fun world => some world.settings) none) with
    | none => pure false
    | some now =>
      if now.sameParts preimage then pure true else perform (.putBack now.revision preimage)

def rollBack (prepared : PreparedRestore) : Restoring RestoreOutcome := do
  let _ ← perform (.update .startRollingBack)
  if ← perform (.exists (.previous prepared.preparedIntentId .ledger)) then
    let cleared ← do
      if ← perform (.exists (.live .ledger)) then perform (.removeFile (.live .ledger)) else pure true
    if cleared then
      if ← clearInstalledSidecars prepared.preparedIntentId prepared.current then
        if ← perform (.rename (.previous prepared.preparedIntentId .ledger) (.live .ledger)) then
          let _ ← perform (.removeFile (.staged prepared.preparedIntentId))
          let settingsBack ← putSettingsBack
          let bound ← if settingsBack then perform (.look (fun world => stillBound world.files prepared.current) false)
            else pure false
          pure (if bound then .recoveryPutBack else .recoveryFailed)
        else pure .recoveryFailed
      else pure .recoveryFailed
    else pure .recoveryFailed
  else
    let _ ← perform (.removeFile (.staged prepared.preparedIntentId))
    let bound ← perform (.look (fun world => stillBound world.files prepared.current) false)
    pure (if bound then .failedBeforeReplacement else .recoveryFailed)

structure ExecutedRestore where
  outcome : RestoreOutcome
  sourceChanged : Bool

def executed (sourceChanged : Bool) (finished : Except RestoreError RestoreOutcome) :
    Except RestoreError ExecutedRestore :=
  finished.map fun outcome => ⟨outcome, sourceChanged⟩

def PreparedRestore.claimed (prepared : PreparedRestore) : LedgerSnapshotManifest :=
  ⟨prepared.archiveSchemaVersion, prepared.archiveLedgerRevision, prepared.snapshotSha256⟩

def applySettings (settings : BackupSettings) : Restoring Bool := do
  match ← perform (.look (fun world => some world.settings) none) with
  | none => pure false
  | some document => perform (.applyRestoreExport document.revision settings)

def isArchived (prepared : PreparedRestore) (files : Files) : Bool :=
  match currentBinding files with
  | none => false
  | some binding =>
    binding.ledgerRevision == prepared.archiveLedgerRevision &&
      binding.schemaVersion == prepared.archiveSchemaVersion &&
      binding.inventorySha256 == prepared.inventoryMemberSha256

def install (prepared : PreparedRestore) (settings : BackupSettings) : Restoring Bool :=
  andThen
    (match opaqueFiles prepared.current with
      | some files => moveSidecarsAside prepared.preparedIntentId files
      | none => pure true) <|
  andThen (advanced .movingLiveAside .installing) <|
  andThen (perform (.rename (.staged prepared.preparedIntentId) (.live .ledger))) <|
  andThen (advanced .installing .applyingSettings) <|
  andThen (applySettings settings) <|
  andThen (advanced .applyingSettings .verifying) <|
    perform (.look (fun world => isArchived prepared world.files) false)

def PreparedRestore.needsUpgrade (prepared : PreparedRestore) : Bool :=
  prepared.archiveSchemaVersion < currentSchemaVersion

/-- An older Ledger's projections are marked once the upgrade has made it openable. -/
def markRestored (prepared : PreparedRestore) (nowMillis : Int) : Restoring Bool :=
  if prepared.needsUpgrade then pure true else perform (.markProjectionsOutOfSync nowMillis)

/-- Recorded first; only then is the rollback copy removed. -/
def finishRestored (prepared : PreparedRestore) (nowMillis : Int) : Restoring (Except RestoreError RestoreOutcome) := do
  let pendingFor ←
    if prepared.needsUpgrade then
      perform (.look (fun world => (currentBinding world.files).map (·.inventorySha256)) none)
    else pure none
  match ← finish .restored pendingFor nowMillis with
  | .error cause => pure (.error cause)
  | .ok outcome =>
    removeRollbackSet prepared.preparedIntentId (opaqueFiles prepared.current)
    pure (.ok outcome)

def replaceLedger (prepared : PreparedRestore) (settings : BackupSettings) (nowMillis : Int) :
    Restoring (Except RestoreError ExecutedRestore) := do
  match ← advance .staging .movingLiveAside with
  | .error cause => pure (.error cause)
  | .ok () =>
    if ← perform (.rename (.live .ledger) (.previous prepared.preparedIntentId .ledger)) then
      if ← andThen (install prepared settings) (markRestored prepared nowMillis) then
        executed false <$> finishRestored prepared nowMillis
      else
        let outcome ← rollBack prepared
        executed false <$> finish outcome none nowMillis
    else
      let _ ← perform (.removeFile (.staged prepared.preparedIntentId))
      executed false <$> finish .failedBeforeReplacement none nowMillis

def stage (prepared : PreparedRestore) : Restoring Bool := do
  let _ ← perform (.removeFile (.staged prepared.preparedIntentId))
  andThen (perform (.copy (.archive .ledger) (.staged prepared.preparedIntentId))) <|
  andThen (perform (.look (fun _ => true) false)) <|
    perform (.look (fun world =>
      inspectStandaloneSnapshot world.files (.staged prepared.preparedIntentId) prepared.claimed) false)

def checkedSettings (prepared : PreparedRestore) (files : Files) : Option BackupSettings :=
  ((files (.archive .settings)).filter fun bytes => sha256Bytes bytes == prepared.settingsMemberSha256).bind
    RestoreHost.backupSettingsOf

def executeClaimed (prepared : PreparedRestore) (nowMillis : Int) : Restoring (Except RestoreError ExecutedRestore) := do
  let settings ← perform (.look (fun world => checkedSettings prepared world.files) none)
  let inventoryOk ← perform (.look (fun world =>
    fileSha256 world.files (.archive .inventory) == some prepared.inventoryMemberSha256) false)
  let settingsUnchanged ← perform (.look (fun world => world.settings.revision == prepared.settingsRevision) false)
  let sourceBound ← perform (.look (fun world => stillBound world.files prepared.current) false)
  let ready ←
    if settingsUnchanged && sourceBound then
      andThen (if (opaqueFiles prepared.current).isSome then pure true else clearStaleSidecars)
        (perform (.look (fun world =>
          inspectStandaloneSnapshot world.files (.archive .ledger) prepared.claimed && inventoryOk) false))
    else pure false
  match settings, ready with
  | some settings, true =>
    if ← stage prepared then replaceLedger prepared settings nowMillis
    else
      let _ ← perform (.removeFile (.staged prepared.preparedIntentId))
      executed false <$> finish .failedBeforeReplacement none nowMillis
  | _, _ => executed (!sourceBound) <$> finish .failedBeforeReplacement none nowMillis

def executeRestoreExplained (nowMillis : Int) : Restoring (Except RestoreError ExecutedRestore) := do
  match ← advance .approved .staging with
  | .error cause => pure (.error cause)
  | .ok () =>
    match ← perform .load with
    | .error cause => pure (.error cause)
    | .ok control =>
      match control.executing with
      | some approved => executeClaimed approved.prepared nowMillis
      | none => pure (.error .notPrepared)

def executeRestore (nowMillis : Int) : Restoring (Except RestoreError RestoreOutcome) := do
  return (← executeRestoreExplained nowMillis).map (·.outcome)

def removeFinishedRollbackSets (finished : List RestoreTerminal) : Restoring Unit :=
  finished.forM fun terminal => do
    if terminal.outcome = .restored then
      removeRollbackSet terminal.preparedIntentId
        (match terminal.recovery with
        | .preservationCopy _ _ files => some files
        | .operationalBackup _ => none)

def reconcileRestore (nowMillis : Int) : Restoring (Except RestoreError (Option RestoreOutcome)) := do
  match ← perform .load with
  | .error cause => pure (.error cause)
  | .ok control =>
    match control.active with
    | none =>
      removeFinishedRollbackSets control.finished
      pure (.ok none)
    | some (.prepared _) =>
      match ← perform (.update .discard) with
      | .error cause => pure (.error cause)
      | .ok () =>
        let _ ← perform .clearWorkArea
        pure (.ok none)
    | some (.executing approved phase) =>
      let outcome ←
        if phase = .approved ∨ phase = .staging then do
          let _ ← perform (.removeFile (.staged approved.prepared.preparedIntentId))
          pure .failedBeforeReplacement
        else rollBack approved.prepared
      Except.map some <$> finish outcome none nowMillis

end MissionControl.Restore

import MissionControl.Domain.PreviewDigest

/-! The control record of an Operational Restore: at most one operation, prepared and
then executing, and the outcomes of finished ones. It changes only by the decisions
listed here, each taken under the record's lock. -/

namespace MissionControl.Restore

def sha256Bytes [Sha256] (bytes : List UInt8) : String := (Sha256.finalize bytes).asStr

structure LedgerBinding where
  schemaVersion : Nat
  ledgerRevision : Nat
  inventorySha256 : String
  contentSha256 : String
  deriving DecidableEq

inductive LedgerFileMember where
  | ledger | wal | shm
  deriving DecidableEq

def LedgerFileMember.all : List LedgerFileMember := [.ledger, .wal, .shm]

def LedgerFileMember.name : LedgerFileMember → String
  | .ledger => "ledger"
  | .wal => "wal"
  | .shm => "shm"

/-- The fixed order members are bound and moved in. -/
def LedgerFileMember.rank : LedgerFileMember → Nat
  | .ledger => 0
  | .wal => 1
  | .shm => 2

structure FileMemberBinding where
  member : LedgerFileMember
  length : Nat
  sha256 : String
  deriving DecidableEq

/-- A Ledger's files bound by content, with one digest over all of it. -/
structure FileSetBinding where
  format : String
  members : List FileMemberBinding
  aggregateSha256 : String
  deriving DecidableEq

def line (fields : List String) : String := "\t".intercalate fields ++ "\n"

def fileSetFormat : String := "pmc-ledger-file-set/v1"

def aggregate [Sha256] (members : List FileMemberBinding) : String :=
  sha256Bytes (asBytes (line [fileSetFormat] ++
    String.join (members.map fun bound => line [bound.member.name, toString bound.length, bound.sha256])))

def FileSetBinding.new [Sha256] (members : List FileMemberBinding) : Option FileSetBinding :=
  let sorted := members.insertionSort fun first second => first.member.rank ≤ second.member.rank
  if sorted.head?.map (·.member) = some .ledger ∧ (sorted.map (·.member)).Nodup then
    some ⟨fileSetFormat, sorted, aggregate sorted⟩
  else none

inductive CurrentSourceBinding where
  | inspectable (binding : LedgerBinding)
  | opaqueFiles (files : FileSetBinding)
  deriving DecidableEq

inductive UnopenedReason where
  | upgradeRequired | unsupportedOld | openFailed | restoreRecoveryRequired
  deriving DecidableEq

inductive RecoveryEvidence where
  | operationalBackup (archiveId : String)
  | preservationCopy (preservationId : String) (fileName : String) (files : FileSetBinding)
  deriving DecidableEq

structure PreparedRestore where
  preparedIntentId : String
  payloadSha256 : String
  archiveId : String
  archiveContainerSha256 : String
  archiveCreatedAt : String
  archiveSchemaVersion : Nat
  archiveLedgerRevision : Nat
  archiveRecordCount : Nat
  snapshotSha256 : String
  settingsMemberSha256 : String
  inventoryMemberSha256 : String
  current : CurrentSourceBinding
  unopenedReason : Option UnopenedReason
  settingsRevision : Nat
  recovery : RecoveryEvidence
  confirmationDate : String
  confirmationTimezone : String
  preparedAtMillis : Int
  expiresAtMillis : Int
  deriving DecidableEq

inductive RestorePhase where
  | approved | staging | movingLiveAside | installing | applyingSettings | verifying | rollingBack
  deriving DecidableEq

/-- An approved restore. Only its phase changes while it executes. -/
structure ApprovedRestore where
  prepared : PreparedRestore
  idempotencyId : String
  receiptId : String
  approvedAtMillis : Int
  deriving DecidableEq

inductive RestoreOperation where
  | prepared (prepared : PreparedRestore)
  | executing (approved : ApprovedRestore) (phase : RestorePhase)
  deriving DecidableEq

inductive RestoreOutcome where
  | restored | failedBeforeReplacement | recoveryPutBack | recoveryFailed
  deriving DecidableEq

structure RestoreTerminal where
  idempotencyId : String
  preparedIntentId : String
  outcome : RestoreOutcome
  recovery : RecoveryEvidence
  completedAtMillis : Int
  projectionsPendingFor : Option String
  resolvedRecoveryFailure : Option String
  deriving DecidableEq

structure RestoreControl where
  active : Option RestoreOperation
  finished : List RestoreTerminal
  deriving DecidableEq

def RestoreControl.default : RestoreControl := ⟨none, []⟩

inductive RestoreError where
  | unreadable | wrongPassphrase | damaged | newerVersion | unsupportedOld | recoveryBackupFailed
  | currentNotInspectable | preservationFailed | anotherRestoreActive | notPrepared | digestMismatch
  | confirmationMismatch | control | workArea

def currentLine : CurrentSourceBinding → List String
  | .inspectable binding =>
    ["inspectable", toString binding.schemaVersion, toString binding.ledgerRevision, binding.inventorySha256,
      binding.contentSha256]
  | .opaqueFiles files => ["opaque", files.aggregateSha256]

def recoveryLine : RecoveryEvidence → List String
  | .operationalBackup archiveId => ["operational_backup", archiveId]
  | .preservationCopy preservationId _ files => ["preservation_copy", preservationId, files.aggregateSha256]

def unopenedName : Option UnopenedReason → String
  | none => "open"
  | some .upgradeRequired => "upgrade_required"
  | some .unsupportedOld => "unsupported_old"
  | some .openFailed => "open_failed"
  | some .restoreRecoveryRequired => "restore_recovery_required"

/-- The canonical text the person approves. -/
def previewPayload (prepared : PreparedRestore) : String :=
  String.join
    [line ["pmc-restore-preview/v2"],
      line ["intent", prepared.preparedIntentId],
      line ["archive", prepared.archiveId, prepared.archiveContainerSha256, prepared.archiveCreatedAt,
        toString prepared.archiveSchemaVersion, toString prepared.archiveLedgerRevision,
        toString prepared.archiveRecordCount],
      line ["snapshot", prepared.snapshotSha256],
      line ["members", prepared.settingsMemberSha256, prepared.inventoryMemberSha256],
      line ("current" :: currentLine prepared.current),
      line ["unopened", unopenedName prepared.unopenedReason],
      line ["settings_revision", toString prepared.settingsRevision],
      line ("recovery" :: recoveryLine prepared.recovery),
      line ["confirm", prepared.confirmationDate, prepared.confirmationTimezone],
      line ["expires", toString prepared.expiresAtMillis]]

def unresolvedRecoveryFailure (control : RestoreControl) : Option RestoreTerminal :=
  let newestFirst := control.finished.reverse
  let later := newestFirst.takeWhile (·.outcome ≠ .recoveryFailed)
  (newestFirst.find? (·.outcome = .recoveryFailed)).filter fun failed =>
    later.all (·.resolvedRecoveryFailure ≠ some failed.idempotencyId)

def RestoreControl.executing (control : RestoreControl) : Option ApprovedRestore :=
  match control.active with
  | some (.executing approved _) => some approved
  | _ => none

structure RestoreApproval where
  preparedIntentId : String
  acknowledgedPayloadSha256 : String
  typedDate : String
  idempotencyId : String
  receiptId : String
  nowMillis : Int

/-- The decisions taken under the lock, each with what it answers. No phase change
leads back to an approval that nobody has claimed. -/
inductive ControlChange : Type → Type where
  | dropPrepared : ControlChange Unit
  | place (prepared : PreparedRestore) : ControlChange Unit
  | reject (preparedIntentId : String) : ControlChange Unit
  | approve (approval : RestoreApproval) : ControlChange (Option RestoreOutcome)
  | advance (source target : RestorePhase) (onward : target ≠ .approved) : ControlChange Unit
  | startRollingBack : ControlChange Unit
  | finish (outcome : RestoreOutcome) (projectionsPendingFor : Option String) (nowMillis : Int) : ControlChange Unit
  | discard : ControlChange Unit

def RestorePhase.rollsBack : RestorePhase → Bool
  | .approved | .staging => false
  | _ => true

def resolvedFailure (control : RestoreControl) (prepared : PreparedRestore) (outcome : RestoreOutcome) :
    Option String :=
  if outcome = .restored ∧ prepared.unopenedReason = some .restoreRecoveryRequired then
    (unresolvedRecoveryFailure control).map (·.idempotencyId)
  else none

def approve [Sha256] (control : RestoreControl) (approval : RestoreApproval) :
    Except RestoreError (Option RestoreOutcome × RestoreControl) :=
  match control.finished.find? (·.idempotencyId = approval.idempotencyId) with
  | some finished => .ok (some finished.outcome, control)
  | none =>
    match control.active with
    | some (.prepared prepared) =>
      if prepared.preparedIntentId ≠ approval.preparedIntentId ∨ approval.nowMillis > prepared.expiresAtMillis then
        .error .notPrepared
      else if prepared.payloadSha256 ≠ approval.acknowledgedPayloadSha256 ∨
          sha256Bytes (asBytes (previewPayload prepared)) ≠ prepared.payloadSha256 then .error .digestMismatch
      else if approval.typedDate ≠ prepared.confirmationDate then .error .confirmationMismatch
      else
        .ok (none, { control with
          active := some (.executing
            ⟨prepared, approval.idempotencyId, approval.receiptId, approval.nowMillis⟩ .approved) })
    | _ => .error .notPrepared

/-- A refused change writes nothing. -/
def ControlChange.decide [Sha256] (control : RestoreControl) :
    {R : Type} → ControlChange R → Except RestoreError (R × RestoreControl)
  | _, .dropPrepared =>
    match control.active with
    | some (.executing ..) => .error .anotherRestoreActive
    | _ => .ok ((), { control with active := none })
  | _, .place prepared =>
    match control.active with
    | some (.executing ..) => .error .anotherRestoreActive
    | _ => .ok ((), { control with active := some (.prepared prepared) })
  | _, .reject preparedIntentId =>
    match control.active with
    | some (.prepared prepared) =>
      if prepared.preparedIntentId = preparedIntentId then .ok ((), { control with active := none })
      else .error .notPrepared
    | _ => .error .notPrepared
  | _, .approve approval => Restore.approve control approval
  | _, .advance source target _ =>
    match control.active with
    | some (.executing approved phase) =>
      if phase = source then .ok ((), { control with active := some (.executing approved target) })
      else .error .notPrepared
    | _ => .error .notPrepared
  | _, .startRollingBack =>
    match control.active with
    | some (.executing approved phase) =>
      if phase.rollsBack then .ok ((), { control with active := some (.executing approved .rollingBack) })
      else .error .notPrepared
    | _ => .error .notPrepared
  | _, .finish outcome projectionsPendingFor nowMillis =>
    match control.active with
    | some (.executing approved _) =>
      .ok ((),
        { active := none
          finished := control.finished ++
            [{ idempotencyId := approved.idempotencyId
               preparedIntentId := approved.prepared.preparedIntentId
               outcome
               recovery := approved.prepared.recovery
               completedAtMillis := nowMillis
               projectionsPendingFor
               resolvedRecoveryFailure := resolvedFailure control approved.prepared outcome }] })
    | _ => .error .notPrepared
  | _, .discard => .ok ((), { control with active := none })

end MissionControl.Restore

import MissionControl.Restore.Control
import MissionControl.Lib.Program

/-! What a restore works on: the control record, the Ledger's files under their live,
staged and rollback names, the work area, and the settings. Each action is atomic. -/

namespace MissionControl.Restore

abbrev Bytes := List UInt8

inductive ArchiveMember where
  | ledger | settings | inventory
  deriving DecidableEq

/-- The names a restore uses. The staged and rollback names carry the id of the
prepared intent. -/
inductive FileName where
  | live (member : LedgerFileMember)
  | staged (preparedIntentId : String)
  | previous (preparedIntentId : String) (member : LedgerFileMember)
  | archive (member : ArchiveMember)
  | settingsPreimage
  deriving DecidableEq

abbrev Files := FileName → Option Bytes

def Files.put (files : Files) (name : FileName) (content : Option Bytes) : Files := Function.update files name content

def FileName.inWorkArea : FileName → Bool
  | .archive _ | .settingsPreimage => true
  | _ => false

inductive Theme where
  | light | dark | system
  deriving DecidableEq

inductive LogLevel where
  | error | warn | info | debug
  deriving DecidableEq

inductive SelectedWorkspace where
  | live | training
  deriving DecidableEq

structure DisplaySettings where
  locale : String
  timezone : String
  theme : Theme
  deriving DecidableEq

structure OperationalSettings where
  authorityRoot : Option String
  backupDestination : Option String
  liveVaultRoot : Option String
  selectedWorkspace : Option SelectedWorkspace
  retentionDays : Nat
  externalAiEnabled : Bool
  logLevel : LogLevel
  deriving DecidableEq

structure SettingsDocument where
  revision : Nat
  display : DisplaySettings
  operational : OperationalSettings
  deriving DecidableEq

structure BackupSettings where
  locale : String
  timezone : String
  theme : Theme
  retentionDays : Nat
  externalAiEnabled : Bool
  logLevel : LogLevel

def BackupSettings.applyTo (settings : BackupSettings) (document : SettingsDocument) : SettingsDocument :=
  { document with
    display := { locale := settings.locale, timezone := settings.timezone, theme := settings.theme }
    operational := { document.operational with
      retentionDays := settings.retentionDays
      externalAiEnabled := settings.externalAiEnabled
      logLevel := settings.logLevel } }

def SettingsDocument.putBack (preimage document : SettingsDocument) : SettingsDocument :=
  { preimage with
    revision := document.revision
    operational := { preimage.operational with selectedWorkspace := document.operational.selectedWorkspace } }

def SettingsDocument.sameParts (first second : SettingsDocument) : Prop :=
  first.display = second.display ∧ first.operational = second.operational

instance (first second : SettingsDocument) : Decidable (first.sameParts second) :=
  inferInstanceAs (Decidable (_ ∧ _))

inductive LedgerCompatibility where
  | absent | notALedger | corrupt | uncleanShutdown
  | future (found : Nat)
  | unsupportedOld (found : Nat)
  | current (inspection : LedgerBinding)
  | upgradeableFrom (inspection : LedgerBinding)

/-- What SQLite and the JSON documents make of bytes. -/
class RestoreHost where
  classify : Bytes → LedgerCompatibility
  settingsBytes : SettingsDocument → Bytes
  settingsOf : Bytes → Option SettingsDocument
  backupSettingsOf : Bytes → Option BackupSettings
  /-- The Ledger with its projections marked out of sync. -/
  markOutOfSync : Int → Bytes → Bytes
  /-- The write-ahead log that a marking leaves when it fails. -/
  interruptedLog : Bytes → Option Bytes

structure World where
  control : RestoreControl
  files : Files
  settings : SettingsDocument

section
variable [RestoreHost]

def inspectLedger (files : Files) : LedgerCompatibility :=
  match files (.live .ledger) with
  | none | some [] => .absent
  | some content =>
    match files (.live .wal) with
    | some (_ :: _) => .uncleanShutdown
    | _ => RestoreHost.classify content

def currentBinding (files : Files) : Option LedgerBinding :=
  match inspectLedger files with
  | .current inspection | .upgradeableFrom inspection => some inspection
  | _ => none

variable [Sha256]

def memberBinding (member : LedgerFileMember) (content : Bytes) : FileMemberBinding :=
  ⟨member, content.length, sha256Bytes content⟩

def bindMemberPaths (files : Files) (path : LedgerFileMember → FileName) : Option FileSetBinding :=
  if (files (path .ledger)).isSome then
    FileSetBinding.new (LedgerFileMember.all.filterMap fun member => (files (path member)).map (memberBinding member))
  else none

def stillBound (files : Files) : CurrentSourceBinding → Bool
  | .inspectable binding => currentBinding files == some binding
  | .opaqueFiles bound => bindMemberPaths files .live == some bound

structure LedgerSnapshotManifest where
  schemaVersion : Nat
  ledgerRevision : Nat
  sha256 : String

def inspectStandaloneSnapshot (files : Files) (name : FileName) (manifest : LedgerSnapshotManifest) : Bool :=
  match files name with
  | none => false
  | some content =>
    sha256Bytes content == manifest.sha256 &&
      match RestoreHost.classify content with
      | .current inspection | .upgradeableFrom inspection =>
        inspection.schemaVersion == manifest.schemaVersion && inspection.ledgerRevision == manifest.ledgerRevision
      | _ => false

end

inductive Op : Type → Type 1 where
  | update {R : Type} (change : ControlChange R) : Op (Except RestoreError R)
  | load : Op (Except RestoreError RestoreControl)
  | look {R : Type} (reading : World → R) (failed : R) : Op R
  | exists (name : FileName) : Op Bool
  | rename (source target : FileName) : Op Bool
  | removeFile (name : FileName) : Op Bool
  | copy (source target : FileName) : Op Bool
  | writeSynced (name : FileName) (content : Bytes) : Op Bool
  | clearWorkArea : Op Bool
  | applyRestoreExport (expectedRevision : Nat) (settings : BackupSettings) : Op Bool
  | putBack (expectedRevision : Nat) (preimage : SettingsDocument) : Op Bool
  | markProjectionsOutOfSync (nowMillis : Int) : Op Bool

def changeDocument (world : World) (expectedRevision : Nat) (change : SettingsDocument → SettingsDocument) :
    Bool × World :=
  if world.settings.revision = expectedRevision ∧ expectedRevision + 1 < 2 ^ 64 then
    (true, { world with settings := { change world.settings with revision := expectedRevision + 1 } })
  else (false, world)

variable [Sha256] [RestoreHost]

def markProjections (world : World) (works : Bool) (nowMillis : Int) : Bool × World :=
  match world.files (.live .ledger) with
  | none => (false, world)
  | some content =>
    if works then
      (true, { world with
        files := world.files.put (.live .ledger) (some (RestoreHost.markOutOfSync nowMillis content)) })
    else
      match RestoreHost.interruptedLog content with
      | none => (false, world)
      | some log => (false, { world with files := world.files.put (.live .wal) (some log) })

def Op.effect : Effect Op World
  | _, .update change, works, world =>
    if works then
      match change.decide world.control with
      | .ok (answer, control) => (.ok answer, { world with control })
      | .error cause => (.error cause, world)
    else (.error .control, world)
  | _, .load, works, world => (if works then .ok world.control else .error .control, world)
  | _, .look reading failed, works, world => (if works then reading world else failed, world)
  | _, .exists name, _, world => ((world.files name).isSome, world)
  | _, .rename source target, works, world =>
    match world.files source with
    | some content =>
      if works then (true, { world with files := (world.files.put source none).put target (some content) })
      else (false, world)
    | none => (false, world)
  | _, .removeFile name, works, world =>
    if works ∧ (world.files name).isSome then (true, { world with files := world.files.put name none })
    else (false, world)
  | _, .copy source target, works, world =>
    match world.files source with
    | some content =>
      if works then (true, { world with files := world.files.put target (some content) }) else (false, world)
    | none => (false, world)
  | _, .writeSynced name content, works, world =>
    if works then (true, { world with files := world.files.put name (some content) }) else (false, world)
  | _, .clearWorkArea, works, world =>
    if works then
      (true, { world with files := fun name => if name.inWorkArea then none else world.files name })
    else (false, world)
  | _, .applyRestoreExport expectedRevision settings, works, world =>
    if works then changeDocument world expectedRevision settings.applyTo else (false, world)
  | _, .putBack expectedRevision preimage, works, world =>
    if works then changeDocument world expectedRevision preimage.putBack else (false, world)
  | _, .markProjectionsOutOfSync nowMillis, works, world => markProjections world works nowMillis

end MissionControl.Restore

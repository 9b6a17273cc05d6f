import MissionControl.Domain.Value
import MissionControl.Lib.Program

/-! What a backup works with: its private work area, the files of the destination folders
and the registry of verified archives. Every operation is one action on them. -/

namespace MissionControl.Backup

abbrev Contents := List UInt8

structure AuthorityInventory where
  bytes : Contents
  sha256 : String
  recordCount : Nat
  deriving DecidableEq

structure LedgerSnapshotManifest where
  schemaVersion : Nat
  ledgerRevision : Nat
  sha256 : String

structure LedgerSnapshot where
  contents : Contents
  manifest : LedgerSnapshotManifest
  inventory : AuthorityInventory

abbrev Passphrase := String

structure Member where
  name : String
  contents : Contents
  deriving DecidableEq

structure ManifestMember where
  name : String
  size : Nat
  sha256 : String
  deriving DecidableEq

structure ManifestInput where
  archiveId : String
  createdAt : String
  ledgerSchemaVersion : Nat
  ledgerRevision : Nat
  snapshotChecksum : String

structure ArchiveManifest where
  archiveId : String
  createdAt : String
  ledgerSchemaVersion : Nat
  ledgerRevision : Nat
  snapshotChecksum : String
  members : List ManifestMember
  deriving DecidableEq

/-- What stands in a file of a destination folder. -/
inductive Container where
  | unfinished
  | sealed (passphrase : Passphrase) (manifest : ArchiveManifest) (members : List Member)
  deriving DecidableEq

/-- Hashes and sizes of files, and the inspection of a Ledger by SQLite. -/
class Storage where
  sha256 : Contents → String
  containerSha256 : Container → String
  containerBytes : Container → Nat
  inspectStandaloneSnapshot : Contents → LedgerSnapshotManifest → Option AuthorityInventory

structure WrittenArchive where
  manifest : ArchiveManifest
  containerSha256 : String
  containerBytes : Nat

structure BackupRecord where
  archiveId : String
  fileName : String
  destination : String
  createdAtMillis : Int
  verifiedAtMillis : Int
  ledgerSchemaVersion : Nat
  ledgerRevision : Nat
  containerSha256 : String
  containerBytes : Nat
  snapshotSha256 : String
  authorityInventorySha256 : String
  authorityRecordCount : Nat

structure BackupRegistry where
  revision : Nat
  records : List BackupRecord

def BackupRegistry.default : BackupRegistry := ⟨0, []⟩

inductive RegistryError where
  | unreadable | conflict | busy | io

inductive IoError where
  | notFound | alreadyExists | other
  deriving DecidableEq

structure Path where
  folder : String
  name : String
  deriving DecidableEq

/-- The folder that a backup works in: the snapshot's folder with its Ledger, the two other
members, and what was extracted to verify the archive. A folder that is removed counts as
an empty one. -/
structure WorkArea where
  snapshot : Option (Option Contents)
  settings : Option Contents
  inventory : Option Contents
  verify : Option (List Member)

def WorkArea.empty : WorkArea := ⟨none, none, none, none⟩

inductive WorkFile where
  | settings | inventory

inductive HandleStep where
  | flush | sync | rewind

def ledgerMember : String := "ledger.sqlite3"
def settingsMember : String := "settings.json"
def inventoryMember : String := "authority-inventory.txt"

inductive ClockReading where
  | creation | verification

structure BackupInput where
  work : String
  snapshot : LedgerSnapshot
  settingsJson : Contents
  destination : String
  passphrase : Passphrase
  archiveId : String
  clock : ClockReading → UtcTimestamp
  verifyLedger : Contents → LedgerSnapshotManifest → Bool

/-- An archive that was renamed into place for a backup. -/
structure Publication where
  input : BackupInput
  container : Container

structure World where
  work : String → WorkArea
  files : Path → Option Container
  registry : BackupRegistry
  published : List Publication

inductive Op : Type → Type where
  | removeDirAll (work : String) : Op (Except IoError Unit)
  | createDirAll (work : String) : Op (Except IoError Unit)
  | createSnapshotDir (work : String) : Op (Except IoError Unit)
  | createVerifiedSnapshot (work : String) (snapshot : LedgerSnapshot) : Op Bool
  | exists (path : Path) : Op Bool
  | write (work : String) (file : WorkFile) (contents : Contents) : Op (Except IoError Unit)
  | createPartial (path : Path) : Op (Except IoError Unit)
  | writeArchive (work : String) (path : Path) (passphrase : Passphrase) (manifest : ManifestInput) :
      Op (Except IoError WrittenArchive)
  | handle (step : HandleStep) (path : Path) : Op (Except IoError Unit)
  | readerSha256 (path : Path) : Op (Except IoError String)
  | createVerifyDir (work : String) : Op (Except IoError Unit)
  | readArchive (path : Path) (passphrase : Passphrase) (work : String) : Op (Option ArchiveManifest)
  | readExtracted (work : String) (name : String) : Op (Option Contents)
  | rename (input : BackupInput) (source target : Path) : Op (Except IoError Unit)
  | removeFile (path : Path) : Op (Except IoError Unit)
  | loadRegistry : Op (Except RegistryError BackupRegistry)
  | saveRegistry (registry : BackupRegistry) : Op (Except RegistryError Unit)

def World.setWork (world : World) (work : String) (area : WorkArea) : World :=
  { world with work := fun other => if other = work then area else world.work other }

def World.setFile (world : World) (path : Path) (container : Option Container) : World :=
  { world with files := fun other => if other = path then container else world.files other }

variable [Storage]

def manifestMembers (members : List Member) : List ManifestMember :=
  members.map fun member => ⟨member.name, member.contents.length, Storage.sha256 member.contents⟩

def manifestFor (input : ManifestInput) (members : List Member) : ArchiveManifest where
  archiveId := input.archiveId
  createdAt := input.createdAt
  ledgerSchemaVersion := input.ledgerSchemaVersion
  ledgerRevision := input.ledgerRevision
  snapshotChecksum := input.snapshotChecksum
  members := manifestMembers members

def WorkArea.members (area : WorkArea) : Option (List Member) := do
  let inventory ← area.inventory
  let ledger ← area.snapshot.join
  let settings ← area.settings
  return [⟨inventoryMember, inventory⟩, ⟨ledgerMember, ledger⟩, ⟨settingsMember, settings⟩]

def writtenArchive (world : World) (work : String) (path : Path) (passphrase : Passphrase) (manifest : ManifestInput) :
    Except IoError WrittenArchive × World :=
  match (world.work work).members with
  | none => (.error .notFound, world)
  | some members =>
    let container := .sealed passphrase (manifestFor manifest members) members
    (.ok ⟨manifestFor manifest members, Storage.containerSha256 container, Storage.containerBytes container⟩,
      world.setFile path (some container))

def extractedArchive (world : World) (path : Path) (passphrase : Passphrase) (work : String) :
    Option ArchiveManifest × World :=
  match world.files path, (world.work work).verify with
  | some (.sealed secret manifest members), some [] =>
    if secret ≠ passphrase then (none, world)
    else
      let later := world.setWork work { world.work work with verify := some members }
      (if manifest.members = manifestMembers members then some manifest else none, later)
  | _, _ => (none, world)

def renamed (world : World) (input : BackupInput) (source target : Path) : Except IoError Unit × World :=
  match world.files source with
  | none => (.error .notFound, world)
  | some container =>
    (.ok (), { (world.setFile source none).setFile target (some container) with
      published := world.published ++ [⟨input, container⟩] })

/-- The document is replaced as a whole, unless it is not the one that was loaded any more. -/
def saved (world : World) (registry : BackupRegistry) : Except RegistryError Unit × World :=
  if world.registry.revision ≠ registry.revision then (.error .conflict, world)
  else (.ok (), { world with registry := { registry with revision := registry.revision + 1 } })

def effect : Effect Op World
  | _, .removeDirAll work, works, world =>
    if works then (.ok (), world.setWork work .empty) else (.error .other, world)
  | _, .createDirAll _, works, world => (if works then .ok () else .error .other, world)
  | _, .createSnapshotDir work, works, world =>
    if !works then (.error .other, world)
    else if (world.work work).snapshot ≠ none then (.error .alreadyExists, world)
    else (.ok (), world.setWork work { world.work work with snapshot := some none })
  | _, .createVerifiedSnapshot work snapshot, works, world =>
    if !works || (world.work work).snapshot ≠ some none then (false, world)
    else (true, world.setWork work { world.work work with snapshot := some (some snapshot.contents) })
  | _, .exists path, works, world => (works && (world.files path).isSome, world)
  | _, .write work .settings contents, works, world =>
    if works then (.ok (), world.setWork work { world.work work with settings := some contents }) else (.error .other, world)
  | _, .write work .inventory contents, works, world =>
    if works then (.ok (), world.setWork work { world.work work with inventory := some contents }) else (.error .other, world)
  | _, .createPartial path, works, world =>
    if !works then (.error .other, world)
    else if (world.files path).isSome then (.error .alreadyExists, world)
    else (.ok (), world.setFile path (some .unfinished))
  | _, .writeArchive work path passphrase manifest, works, world =>
    if works then writtenArchive world work path passphrase manifest else (.error .other, world)
  | _, .handle _ _, works, world => (if works then .ok () else .error .other, world)
  | _, .readerSha256 path, works, world =>
    (match world.files path with
      | some container => if works then .ok (Storage.containerSha256 container) else .error .other
      | none => .error .notFound, world)
  | _, .createVerifyDir work, works, world =>
    if !works then (.error .other, world)
    else if (world.work work).verify ≠ none then (.error .alreadyExists, world)
    else (.ok (), world.setWork work { world.work work with verify := some [] })
  | _, .readArchive path passphrase work, works, world =>
    if works then extractedArchive world path passphrase work else (none, world)
  | _, .readExtracted work name, works, world =>
    (if works then ((world.work work).verify.getD []).find? (·.name = name) |>.map (·.contents) else none, world)
  | _, .rename input source target, works, world =>
    if works then renamed world input source target else (.error .other, world)
  | _, .removeFile path, works, world =>
    match world.files path with
    | none => (.error .notFound, world)
    | some _ => if works then (.ok (), world.setFile path none) else (.error .other, world)
  | _, .loadRegistry, works, world => (if works then .ok world.registry else .error .io, world)
  | _, .saveRegistry registry, works, world => if works then saved world registry else (.error .io, world)

end MissionControl.Backup

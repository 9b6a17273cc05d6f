import MissionControl.Backup.World

/-! One backup, from the snapshot of the Ledger to the record in the registry. -/

namespace MissionControl.Backup
open Program

inductive BackupError where
  | invalidArchiveId | workArea | snapshot | write | verificationFailed | publication | residue

def archivePrefix : String := "pmc-operational-"
def archiveSuffix : String := "-v1.tar.zst.age"

def civilFromDays (days : Int) : Int × Int × Int :=
  let z := days + 719468
  let era := (if z ≥ 0 then z else z - 146096).tdiv 146097
  let dayOfEra := z - era * 146097
  let yearOfEra := (dayOfEra - dayOfEra.tdiv 1460 + dayOfEra.tdiv 36524 - dayOfEra.tdiv 146096).tdiv 365
  let dayOfYear := dayOfEra - (365 * yearOfEra + yearOfEra.tdiv 4 - yearOfEra.tdiv 100)
  let monthPrime := (5 * dayOfYear + 2).tdiv 153
  let day := dayOfYear - (153 * monthPrime + 2).tdiv 5 + 1
  let month := if monthPrime < 10 then monthPrime + 3 else monthPrime - 9
  let year := yearOfEra + era * 400
  (if month ≤ 2 then year + 1 else year, month, day)

def padded (width : Nat) (number : Int) : String :=
  let digits := number.natAbs.repr
  let shown := if number < 0 then "-" else ""
  shown ++ String.ofList (List.replicate (width - shown.length - digits.length) '0') ++ digits

def toRfc3339Utc (now : UtcTimestamp) : String :=
  let millisOfDay := now.unixMillis % 86400000
  let (year, month, day) := civilFromDays ((now.unixMillis - millisOfDay).tdiv 86400000)
  padded 4 year ++ "-" ++ padded 2 month ++ "-" ++ padded 2 day ++ "T" ++ padded 2 (millisOfDay / 3600000) ++ ":" ++
    padded 2 (millisOfDay / 60000 % 60) ++ ":" ++ padded 2 (millisOfDay / 1000 % 60) ++ "." ++
    padded 3 (millisOfDay % 1000) ++ "Z"

def isValidArchiveId (archiveId : String) : Bool :=
  8 ≤ archiveId.length && archiveId.length ≤ 64 && archiveId.toList.all fun character => character.isDigit || character.isLower

def archiveFileName (now : UtcTimestamp) (archiveId : String) : String :=
  let time := String.ofList ((toRfc3339Utc now).toList.filter Char.isAlphanum)
  let id := String.ofList ((archiveId.toList.filter Char.isAlphanum).map Char.toLower)
  archivePrefix ++ time ++ "-" ++ id ++ archiveSuffix

def relabelled {ε α : Type} (cause : BackupError) (program : Program Op (Except ε α)) : Program Op (Except BackupError α) :=
  program >>= fun
    | .ok value => pure (.ok value)
    | .error _ => pure (.error cause)

def clearWorkArea (work : String) : Program Op (Except IoError Unit) :=
  perform (.removeDirAll work) >>= fun
    | .ok () | .error .notFound => perform (.createDirAll work)
    | .error cause => pure (.error cause)

def clearing {α : Type} (work : String) (cause : BackupError) : Program Op (Except BackupError α) :=
  clearWorkArea work >>= fun
    | .ok () => pure (.error cause)
    | .error _ => pure (.error .residue)

def snapshotLedger (input : BackupInput) : Program Op (Except BackupError Unit) :=
  (relabelled .workArea (clearWorkArea input.work)).onward fun _ =>
  (relabelled .workArea (perform (.createSnapshotDir input.work))).onward fun _ =>
  perform (.createVerifiedSnapshot input.work input.snapshot) >>= fun taken =>
  if taken then pure (.ok ()) else clearing input.work .snapshot

variable [Storage]

/-- The checks on what was extracted from the archive. -/
def verifies (input : BackupInput) (ledger carried : Option Contents) : Bool :=
  match ledger, carried with
  | some ledger, some carried => decide (Storage.inspectStandaloneSnapshot ledger input.snapshot.manifest =
      some input.snapshot.inventory ∧ carried = input.snapshot.inventory.bytes)
  | _, _ => false

def BackupInput.createdAt (input : BackupInput) : UtcTimestamp := input.clock .creation
def BackupInput.fileName (input : BackupInput) : String := archiveFileName input.createdAt input.archiveId
def BackupInput.finalPath (input : BackupInput) : Path := ⟨input.destination, input.fileName⟩
def BackupInput.partialPath (input : BackupInput) : Path := ⟨input.destination, "." ++ input.fileName ++ ".partial"⟩

def BackupInput.manifestInput (input : BackupInput) : ManifestInput where
  archiveId := input.archiveId
  createdAt := toRfc3339Utc input.createdAt
  ledgerSchemaVersion := input.snapshot.manifest.schemaVersion
  ledgerRevision := input.snapshot.manifest.ledgerRevision
  snapshotChecksum := input.snapshot.manifest.sha256

def recordOf (input : BackupInput) (written : WrittenArchive) : BackupRecord where
  archiveId := input.archiveId
  fileName := input.fileName
  destination := input.destination
  createdAtMillis := input.createdAt.unixMillis
  verifiedAtMillis := (input.clock .verification).unixMillis
  ledgerSchemaVersion := input.snapshot.manifest.schemaVersion
  ledgerRevision := input.snapshot.manifest.ledgerRevision
  containerSha256 := written.containerSha256
  containerBytes := written.containerBytes
  snapshotSha256 := input.snapshot.manifest.sha256
  authorityInventorySha256 := input.snapshot.inventory.sha256
  authorityRecordCount := input.snapshot.inventory.recordCount

def putInPlace (input : BackupInput) (written : WrittenArchive) : Program Op (Except BackupError BackupRecord) :=
  (relabelled .publication (perform (.rename input input.partialPath input.finalPath))).onward fun _ =>
  perform (.readerSha256 input.finalPath) >>= fun digest =>
  if digest = .ok written.containerSha256 then pure (.ok (recordOf input written))
  else perform (.removeFile input.finalPath) >>= fun
    | .ok () | .error .notFound => pure (.error .verificationFailed)
    | .error _ => pure (.error .residue)

/-- The archive is read back and taken apart again. -/
def verifyArchive (input : BackupInput) (written : WrittenArchive) : Program Op (Except BackupError Unit) :=
  (relabelled .write (perform (.handle .rewind input.partialPath))).onward fun _ =>
  (relabelled .write (perform (.readerSha256 input.partialPath))).onward fun onDisk =>
  if onDisk ≠ written.containerSha256 then pure (.error .verificationFailed) else
  (relabelled .workArea (perform (.createVerifyDir input.work))).onward fun _ =>
  (relabelled .write (perform (.handle .rewind input.partialPath))).onward fun _ =>
  perform (.readArchive input.partialPath input.passphrase input.work) >>= fun verified =>
  if verified ≠ some written.manifest then pure (.error .verificationFailed) else
  perform (.readExtracted input.work ledgerMember) >>= fun extracted =>
  if !extracted.any (input.verifyLedger · input.snapshot.manifest) then pure (.error .verificationFailed) else
  perform (.readExtracted input.work inventoryMember) >>= fun carried =>
  perform (.readExtracted input.work ledgerMember) >>= fun again =>
  if verifies input again carried then pure (.ok ()) else pure (.error .verificationFailed)

def writeAndVerify (input : BackupInput) : Program Op (Except BackupError BackupRecord) :=
  perform (.exists input.finalPath) >>= fun there =>
  if there then pure (.error .write) else
  (relabelled .workArea (perform (.write input.work .settings input.settingsJson))).onward fun _ =>
  (relabelled .workArea (perform (.write input.work .inventory input.snapshot.inventory.bytes))).onward fun _ =>
  (relabelled .write (perform (.createPartial input.partialPath))).onward fun _ =>
  (relabelled .write (perform (.writeArchive input.work input.partialPath input.passphrase input.manifestInput))).onward
    fun written =>
  (relabelled .write (perform (.handle .flush input.partialPath))).onward fun _ =>
  (relabelled .write (perform (.handle .sync input.partialPath))).onward fun _ =>
  (verifyArchive input written).onward fun _ => putInPlace input written

/-- Nothing half made stays in the destination, and nothing in the work area. -/
def publishBackup (input : BackupInput) : Program Op (Except BackupError BackupRecord) :=
  if !isValidArchiveId input.archiveId then clearing input.work .invalidArchiveId else
  writeAndVerify input >>= fun outcome =>
  match outcome with
  | .ok record => (relabelled .residue (clearWorkArea input.work)).onward fun _ => pure (.ok record)
  | .error cause => perform (.removeFile input.partialPath) >>= fun
    | .ok () | .error .notFound => clearing input.work cause
    | .error _ => clearWorkArea input.work >>= fun _ => pure (.error .residue)

def registrySaveAttempts : Nat := 3

omit [Storage] in
def BackupRegistry.including (registry : BackupRegistry) (record : BackupRecord) : BackupRegistry :=
  if registry.records.any (·.archiveId = record.archiveId) then registry
  else { registry with records := registry.records ++ [record] }

def registerWithin : Nat → BackupRecord → Program Op (Except RegistryError Unit)
  | 0, _ => pure (.error .conflict)
  | attempts + 1, record =>
    (perform .loadRegistry).onward fun registry =>
    perform (.saveRegistry (registry.including record)) >>= fun
      | .ok () => pure (.ok ())
      | .error .conflict => registerWithin attempts record
      | .error cause => pure (.error cause)

def register (record : BackupRecord) : Program Op (Except RegistryError Unit) := registerWithin registrySaveAttempts record

inductive Ended where
  | unsnapped (cause : BackupError)
  | unpublished (cause : BackupError)
  | published (record : BackupRecord) (registered : Except RegistryError Unit)

def backUp (input : BackupInput) : Program Op Ended :=
  snapshotLedger input >>= fun
    | .error cause => pure (.unsnapped cause)
    | .ok () => publishBackup input >>= fun
      | .error cause => pure (.unpublished cause)
      | .ok record => register record >>= fun registered => pure (.published record registered)

end MissionControl.Backup

import MissionControl.VaultRoot.Control

/-! Changing the folder the Live workspace reads Evidence from. The settings document is
the committed pointer; the control record beside it says what must survive a crash
around that one write. The two are written one after the other, and a process may stop
between any two actions. -/

namespace MissionControl.VaultRoot
open Program
open Restore (SettingsDocument sha256Bytes line)

structure EvidenceFingerprint where
  algorithm : String
  digest : String

structure EvidenceVaultEntry where
  id : String
  version : Nat
  vaultPath : String
  fingerprint : Option EvidenceFingerprint

structure Ledger where
  revision : Nat
  entries : List EvidenceVaultEntry

/-- What was seen and done, in the order of a run. Nothing of it is stored. -/
inductive Sighting where
  | claimed (idempotencyId : String) (prepared : PreparedVaultRootChange)
  | settingsRevision (revision : Nat)
  | ledgerRevision (revision : Nat)
  | entries (entries : List EvidenceVaultEntry)
  | resolved (root : String) (entry : EvidenceVaultEntry)
  | wrote (root : String) (expectedRevision : Nat)
  | recorded (terminal : VaultRootChangeTerminal) (liveVaultRoot : Option String)

/-- The last field remembers a run, its latest sighting first. -/
structure World where
  control : AuthorityControl
  settings : SettingsDocument
  ledger : Ledger
  sightings : List Sighting

def World.liveVaultRoot (world : World) : Option String := world.settings.operational.liveVaultRoot

inductive PatchOutcome where
  | committed (revision : Nat)
  | stale (currentRevision : Nat)

inductive AuditOutcome where
  | succeeded | failed | refused

structure HostAuditEvent where
  code : String
  outcome : AuditOutcome
  facts : List (String × String)

/-- The atomic actions. What the file system answers about a folder is up to it. -/
inductive Op : Type → Type 1 where
  | load : Op (Except VaultRootChangeError AuthorityControl)
  | update {R : Type} (change : ControlChange R) : Op (Except VaultRootChangeError R)
  | readSettings : Op (Except VaultRootChangeError SettingsDocument)
  | ledgerRevision : Op (Except VaultRootChangeError Nat)
  | listEvidenceVaultEntries : Op (Except VaultRootChangeError (List EvidenceVaultEntry))
  | usable (root : String) : Op (Except VaultRootChangeError Unit)
  | observeEvidence (root : String) (entry : EvidenceVaultEntry) : Op Bool
  | applyDurable (expectedRevision : Nat) (folder : String) : Op (Except VaultRootChangeError PatchOutcome)
  | record (event : HostAuditEvent) : Op Bool

def ControlChange.sighting {R : Type} : ControlChange R → R → Option String → List Sighting
  | .claim input _, .now prepared, _ => [.claimed input.idempotencyId prepared]
  | .finish terminal, (), liveVaultRoot => [.recorded terminal liveVaultRoot]
  | _, _, _ => []

def World.see (world : World) (sighting : Sighting) : World :=
  { world with sightings := sighting :: world.sightings }

/-- A document replaced at its expected revision moves one revision forward. -/
def applyDurable (world : World) (expectedRevision : Nat) (folder : String) :
    Except VaultRootChangeError PatchOutcome × World :=
  if world.settings.revision ≠ expectedRevision then (.ok (.stale world.settings.revision), world)
  else if expectedRevision + 1 < 2 ^ 64 then
    (.ok (.committed (expectedRevision + 1)),
      { world with
        settings := { world.settings with
          revision := expectedRevision + 1
          operational := { world.settings.operational with liveVaultRoot := some folder } }
        sightings := .wrote folder expectedRevision :: world.sightings })
  else (.error .settings, world)

def Op.effect : Effect Op World
  | _, .load, works, world => (if works then .ok world.control else .error .control, world)
  | _, .update change, works, world =>
    if works then
      match change.decide world.control with
      | .ok (answer, control) =>
        (.ok answer, { world with
          control, sightings := change.sighting answer world.liveVaultRoot ++ world.sightings })
      | .error cause => (.error cause, world)
    else (.error .control, world)
  | _, .readSettings, works, world =>
    if works then (.ok world.settings, world.see (.settingsRevision world.settings.revision))
    else (.error .settings, world)
  | _, .ledgerRevision, works, world =>
    if works then (.ok world.ledger.revision, world.see (.ledgerRevision world.ledger.revision))
    else (.error .ledger, world)
  | _, .listEvidenceVaultEntries, works, world =>
    if works then (.ok world.ledger.entries, world.see (.entries world.ledger.entries)) else (.error .ledger, world)
  | _, .usable _, works, world => (if works then .ok () else .error .proposedRootUnusable, world)
  | _, .observeEvidence root entry, works, world =>
    if works then (true, world.see (.resolved root entry)) else (false, world)
  | _, .applyDurable expectedRevision folder, works, world =>
    if works then VaultRoot.applyDurable world expectedRevision folder else (.error .settings, world)
  | _, .record _, works, world => (works, world)

abbrev Changing := Program Op

def resolves (root : String) (entry : EvidenceVaultEntry) : Changing Bool :=
  match entry.fingerprint with
  | none => pure false
  | some _ => perform (.observeEvidence root entry)

def countUnresolved (root : String) : List EvidenceVaultEntry → Changing Nat
  | [] => pure 0
  | entry :: rest => do
    let served ← resolves root entry
    let unresolved ← countUnresolved root rest
    return if served then unresolved else unresolved + 1

def bind (entry : EvidenceVaultEntry) : BoundEvidence where
  evidenceId := entry.id
  version := entry.version
  fingerprintAlgorithm := (entry.fingerprint.map (·.algorithm)).getD ""
  fingerprintDigest := (entry.fingerprint.map (·.digest)).getD ""

/-- The last component of a path, if it has one. -/
class PathHost where
  fileName : String → Option String

def trimSeparators (path : String) : String :=
  String.ofList (path.toList.reverse.dropWhile fun char => char = '\\' || char = '/').reverse

def folderName [PathHost] (path : String) : String := (PathHost.fileName path).getD (trimSeparators path)

def payloadDigest [Sha256] (preparedIntentId proposedFolderName : String) (previousFolderName : Option String)
    (settingsRevision ledgerRevision : Nat) (bound : List BoundEvidence) (recoveryArchiveId : String) : String :=
  sha256Bytes (asBytes (String.join
    (["pmc-vault-root-change/v1\nintent=", preparedIntentId, "\nproposed=", proposedFolderName, "\nprevious=",
      previousFolderName.getD "", "\nsettings_revision=", toString settingsRevision, "\nledger_revision=",
      toString ledgerRevision, "\nrecovery=", recoveryArchiveId, "\ncount=", toString bound.length, "\n"] ++
      bound.map fun entry =>
        line [entry.evidenceId, toString entry.version, entry.fingerprintAlgorithm, entry.fingerprintDigest])))

structure BackupRecord where
  archiveId : String
  ledgerRevision : Nat
  verifiedAtMillis : Int

structure PrepareVaultRootChange where
  live : Bool
  proposedRoot : String
  recovery : BackupRecord
  recoveryNotBeforeMillis : Int
  recoverySettingsRevision : Nat
  preparedIntentId : String
  confirmationCode : String
  validForMillis : Int

structure VaultRootPreview where
  preparedIntentId : String
  payloadSha256 : String
  proposedFolderName : String
  previousFolderName : Option String
  evidenceCount : Nat
  resolvedCount : Nat
  recoveryArchiveId : String
  recoveryVerifiedAtMillis : Int
  confirmationCode : String
  expiresAtMillis : Int

section
variable [Sha256] [PathHost]

def preparedOf (input : PrepareVaultRootChange) (document : SettingsDocument) (ledgerRevision : Nat)
    (bound : List BoundEvidence) (nowMillis : Int) : PreparedVaultRootChange :=
  let proposedFolderName := folderName input.proposedRoot
  let previousFolderName := document.operational.liveVaultRoot.map folderName
  { preparedIntentId := input.preparedIntentId
    payloadSha256 := payloadDigest input.preparedIntentId proposedFolderName previousFolderName document.revision
      ledgerRevision bound input.recovery.archiveId
    proposedRoot := input.proposedRoot
    proposedFolderName
    previousRoot := document.operational.liveVaultRoot
    previousFolderName
    settingsRevision := document.revision
    ledgerRevision
    boundEvidence := bound
    recoveryArchiveId := input.recovery.archiveId
    recoveryVerifiedAtMillis := input.recovery.verifiedAtMillis
    confirmationCode := input.confirmationCode
    preparedAtMillis := nowMillis
    expiresAtMillis := nowMillis + input.validForMillis }

def previewOf (prepared : PreparedVaultRootChange) : VaultRootPreview where
  preparedIntentId := prepared.preparedIntentId
  payloadSha256 := prepared.payloadSha256
  proposedFolderName := prepared.proposedFolderName
  previousFolderName := prepared.previousFolderName
  evidenceCount := prepared.boundEvidence.length
  resolvedCount := prepared.boundEvidence.length
  recoveryArchiveId := prepared.recoveryArchiveId
  recoveryVerifiedAtMillis := prepared.recoveryVerifiedAtMillis
  confirmationCode := prepared.confirmationCode
  expiresAtMillis := prepared.expiresAtMillis

def placePreview (prepared : PreparedVaultRootChange) : Changing (Except VaultRootChangeError VaultRootPreview) :=
  (perform (.update (.place prepared))).onward fun _ => do
    let noted ← perform (.record ⟨"VAULT_ROOT_PREPARED", .succeeded,
      [("prepared_intent_id", prepared.preparedIntentId), ("evidence_count", toString prepared.boundEvidence.length),
        ("recovery_archive_id", prepared.recoveryArchiveId)]⟩)
    if noted then return .ok (previewOf prepared)
    else
      let _ ← perform (.update (.takeOut prepared.preparedIntentId))
      return .error .notRecorded

/-- Binds what was read. Nothing is changed. -/
def prepare (input : PrepareVaultRootChange) (document : SettingsDocument) (nowMillis : Int) :
    Changing (Except VaultRootChangeError VaultRootPreview) :=
  if input.live = false then pure (.error .notLiveWorkspace)
  else if document.operational.liveVaultRoot = some input.proposedRoot then pure (.error .proposedRootUnchanged)
  else
    (perform .ledgerRevision).onward fun ledgerRevision =>
    if input.recovery.ledgerRevision ≠ ledgerRevision ∨ input.recoverySettingsRevision ≠ document.revision ∨
        input.recovery.verifiedAtMillis < input.recoveryNotBeforeMillis then
      pure (.error .recoveryBackupStale)
    else
      (perform .listEvidenceVaultEntries).onward fun entries =>
      let unpinned := entries.countP (·.fingerprint.isNone)
      if unpinned > 0 then pure (.error (.unpinnedEvidence unpinned))
      else
        (perform (.usable input.proposedRoot)).onward fun _ => do
          let unresolved ← countUnresolved input.proposedRoot entries
          if unresolved > 0 then return .error (.unresolvedEvidence unresolved)
          else placePreview (preparedOf input document ledgerRevision (entries.map bind) nowMillis)

/-- The caller reads the settings and prepares under one hold of the Ledger, which an
approval also needs. -/
def prepareVaultRootChange (input : PrepareVaultRootChange) (nowMillis : Int) :
    Changing (Except VaultRootChangeError VaultRootPreview) :=
  (perform .readSettings).onward fun document => prepare input document nowMillis

end

def reject (preparedIntentId : String) : Changing (Except VaultRootChangeError Unit) :=
  (perform (.update (.reject preparedIntentId))).onward fun _ => do
    let noted ← perform (.record ⟨"VAULT_ROOT_REJECTED", .refused, [("prepared_intent_id", preparedIntentId)]⟩)
    return if noted then .ok () else .error .notRecorded

/-- The whole set again, not a count, and every file under the proposed folder. -/
def reproveLedger (prepared : PreparedVaultRootChange) : Changing (Except VaultRootChangeError Unit) :=
  (perform .ledgerRevision).onward fun revision =>
  if revision = prepared.ledgerRevision then
    (perform .listEvidenceVaultEntries).onward fun entries =>
    if entries.map bind = prepared.boundEvidence then
      (perform (.usable prepared.proposedRoot)).onward fun _ => do
        let unresolved ← countUnresolved prepared.proposedRoot entries
        return if unresolved > 0 then .error (.unresolvedEvidence unresolved) else .ok ()
    else pure (.error .stale)
  else pure (.error .stale)

/-- The preview is proved again, then the setting is written: once, last. The proposed
root is canonical, so making it canonical again leaves it as it is. -/
def commit (prepared : PreparedVaultRootChange) : Changing (Except VaultRootChangeError VaultRootChangeOutcome) :=
  (perform .readSettings).onward fun document =>
  if document.revision = prepared.settingsRevision then
    (reproveLedger prepared).onward fun _ =>
    (perform (.update .committing)).onward fun _ =>
    (perform (.usable prepared.proposedRoot)).onward fun _ =>
    (perform (.applyDurable document.revision prepared.proposedRoot)).onward fun outcome =>
    match outcome with
    | .committed _ => pure (.ok .changed)
    | .stale _ => pure (.error .stale)
  else pure (.error .stale)

def terminalOf (prepared : PreparedVaultRootChange) (idempotencyId : String) (outcome : VaultRootChangeOutcome)
    (nowMillis : Int) : VaultRootChangeTerminal where
  idempotencyId
  preparedIntentId := prepared.preparedIntentId
  outcome
  previousFolderName := prepared.previousFolderName
  folderName := prepared.proposedFolderName
  recoveryArchiveId := prepared.recoveryArchiveId
  completedAtMillis := nowMillis

def VaultRootChangeOutcome.auditCode : VaultRootChangeOutcome → String × AuditOutcome
  | .changed => ("VAULT_ROOT_CHANGED", .succeeded)
  | .notChanged => ("VAULT_ROOT_NOT_CHANGED", .failed)

def VaultRootChangeOutcome.unrecorded : VaultRootChangeOutcome → VaultRootChangeError
  | .changed => .changedButNotRecorded
  | .notChanged => .notRecorded

/-- A change that was made but could not be noted is reported as exactly that. -/
def finish (prepared : PreparedVaultRootChange) (idempotencyId receiptId : String) (outcome : VaultRootChangeOutcome)
    (nowMillis : Int) : Changing (Except VaultRootChangeError Unit) :=
  (perform (.update (.finish (terminalOf prepared idempotencyId outcome nowMillis)))).onward fun _ => do
    let noted ← perform (.record ⟨outcome.auditCode.1, outcome.auditCode.2,
      [("prepared_intent_id", prepared.preparedIntentId), ("receipt_id", receiptId),
        ("evidence_count", toString prepared.boundEvidence.length),
        ("recovery_archive_id", prepared.recoveryArchiveId)]⟩)
    return if noted then .ok () else .error outcome.unrecorded

def approve (input : ApproveVaultRootChange) (nowMillis : Int) :
    Changing (Except VaultRootChangeError VaultRootChangeOutcome) :=
  (perform (.update (.claim input nowMillis))).onward fun claimed =>
  match claimed with
  | .already outcome => pure (.ok outcome)
  | .now prepared =>
    commit prepared >>= fun outcome =>
    match outcome with
    | .ok outcome => (finish prepared input.idempotencyId input.receiptId outcome nowMillis).onward fun _ =>
      pure (.ok outcome)
    | .error cause => (finish prepared input.idempotencyId input.receiptId .notChanged nowMillis).onward fun _ =>
      pure (.error cause)

/-- Whether the settings, as far as they could be read, name the folder. -/
def settingsName (proposedRoot : String) : Except VaultRootChangeError SettingsDocument → Bool
  | .ok document => document.operational.liveVaultRoot = some proposedRoot
  | .error _ => false

/-- A change still only prepared is discarded; an approved one is resolved by reading
the settings. -/
def reconcileActive (nowMillis : Int) :
    Option AuthorityOperation → Changing (Except VaultRootChangeError (Option VaultRootChangeOutcome))
  | none => pure (.ok none)
  | some (.prepared _) => (perform (.update .discard)).onward fun _ => pure (.ok none)
  | some (.executing approved _) =>
    perform .readSettings >>= fun read =>
    let outcome := if settingsName approved.prepared.proposedRoot read then
      VaultRootChangeOutcome.changed else .notChanged
    (finish approved.prepared approved.idempotencyId approved.receiptId outcome nowMillis).onward fun _ =>
      pure (.ok (some outcome))

def reconcile (nowMillis : Int) : Changing (Except VaultRootChangeError (Option VaultRootChangeOutcome)) :=
  (perform .load).onward fun control => reconcileActive nowMillis control.active

inductive Call where
  | prepare (input : PrepareVaultRootChange) (nowMillis : Int)
  | reject (preparedIntentId : String)
  | approve (input : ApproveVaultRootChange) (nowMillis : Int)

/-- A call or a start-up, of which the schedule says where it fails and where the process
stops, or a change of the Ledger or of other settings. -/
inductive Event where
  | call (call : Call) (schedule : List Bool)
  | start (nowMillis : Int) (schedule : List Bool)
  | elsewhere

/-- Others never give the settings another Vault folder; at most the document is lost. -/
structure Elsewhere (before after : World) : Prop where
  control : after.control = before.control
  sightings : after.sightings = before.sightings
  root : after.liveVaultRoot = before.liveVaultRoot ∨ after.liveVaultRoot = none

section
variable [Sha256] [PathHost]

def Call.after : Call → List Bool → World → World
  | .prepare input nowMillis, schedule, world =>
    ((prepareVaultRootChange input nowMillis).attempt Op.effect schedule world).1
  | .reject preparedIntentId, schedule, world => ((VaultRoot.reject preparedIntentId).attempt Op.effect schedule world).1
  | .approve input nowMillis, schedule, world => ((VaultRoot.approve input nowMillis).attempt Op.effect schedule world).1

def Step : Event → World → World → Prop
  | .call call schedule, before, after => call.after schedule before = after
  | .start nowMillis schedule, before, after => ((reconcile nowMillis).attempt Op.effect schedule before).1 = after
  | .elsewhere, before, after => Elsewhere before after

end

def World.initial (settings : SettingsDocument) (ledger : Ledger) : World := ⟨.default, settings, ledger, []⟩

end MissionControl.VaultRoot

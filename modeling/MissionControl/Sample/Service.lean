import MissionControl.Lib.Program
import MissionControl.Sample.Control

/-! Resetting the sample: a fresh one is built beside the current one, which is renamed
aside; the fresh one is renamed into place, and only then is the old one removed. A
start finishes or rolls back what was interrupted, from what is on disk. -/

namespace MissionControl.Sample
open Program

structure VaultFileEntry where
  relativePath : String
  sha256 : String
  deriving DecidableEq

structure SeedManifest where
  seedId : String
  seedVersion : Nat
  schemaVersion : Nat
  seedClockMillis : Int
  generatorVersion : String
  ledgerRevision : Nat
  counts : List (String × Nat)
  vaultFiles : List VaultFileEntry
  logicalSnapshotSha256 : String
  deriving DecidableEq

inductive SampleState where
  | absent
  | current (manifest : SeedManifest)
  | outdated (what : String)
  | foreign (what : String)
  deriving DecidableEq

/-- What seeding writes into a folder, and what is read off a folder's contents. -/
class SampleHost (Contents : Type) where
  empty : Contents
  seed : Contents
  seedManifest : SeedManifest
  /-- What a seeding that fails leaves. -/
  unfinished : Contents
  /-- What a removal that fails leaves. -/
  remains : Contents → Contents
  inspect : Contents → SampleState
  readManifest : Contents → Option SeedManifest
  manifestDigest : SeedManifest → String

/-- The last two fields are not on disk: which folder it is, whatever its name, and
whether it is the service's to remove. -/
structure Folder (Contents : Type) where
  contents : Contents
  serial : Nat
  owned : Bool
  deriving DecidableEq

/-- What a reset found in the sample's place, and the sample it verified. -/
structure Episode (Contents : Type) where
  previous : Option (Folder Contents)
  fresh : Option (Folder Contents)

structure Recorded (Contents : Type) where
  outcome : SampleOutcome
  canonical : Option (Folder Contents)
  episode : Episode Contents

/-- Only the first two fields are stored; the others remember the run. -/
structure World (Contents : Type) where
  control : SampleControl
  folders : FolderName → Option (Folder Contents)
  serial : Nat
  episode : Episode Contents
  recorded : List (Recorded Contents)
  removals : List (Folder Contents)

inductive AuditOutcome where
  | succeeded | failed | refused

structure HostAuditEvent where
  code : String
  outcome : AuditOutcome
  facts : List (String × String)

inductive Op : Type → Type where
  | load : Op (Except SampleError SampleControl)
  | update (change : ControlChange) : Op (Except SampleError Unit)
  | layout : Op (FolderName → Bool)
  | inspect (name : FolderName) : Op (Except SampleError SampleState)
  | readManifest (name : FolderName) : Op (Except SampleError SeedManifest)
  | createDir (name : FolderName) : Op (Except SampleError Unit)
  | writeSeed (name : FolderName) : Op (Except SampleError SeedManifest)
  | rename (source target : FolderName) : Op (Except SampleError Unit)
  | removeTree (name : FolderName) : Op Bool
  | record (event : HostAuditEvent) : Op Bool

section
variable {Contents : Type}

def World.at_ (world : World Contents) (kind : SiblingKind) (operationId : String) : Option (Folder Contents) :=
  world.folders (.sibling kind operationId)

def World.put (world : World Contents) (name : FolderName) (folder : Option (Folder Contents)) : World Contents :=
  { world with folders := Function.update world.folders name folder }

/-- What a change of the record is remembered by. The sample that a recorded reset
replaced is the service's to remove from then on. -/
def ControlChange.note (world : World Contents) : ControlChange → World Contents
  | .begin _ _ => { world with episode := ⟨world.folders .canonical, none⟩ }
  | .recordBuilt operationId _ => { world with episode := { world.episode with fresh := world.at_ .staging operationId } }
  | .finish terminal =>
    let noted := { world with recorded := ⟨terminal.outcome, world.folders .canonical, world.episode⟩ :: world.recorded }
    match terminal.outcome with
    | .reset =>
      noted.put (.sibling .retired terminal.operationId)
        ((world.at_ .retired terminal.operationId).map fun folder => { folder with owned := true })
    | _ => noted
  | _ => world

variable [SampleHost Contents]

def stateOf (folder : Option (Folder Contents)) : SampleState :=
  match folder with
  | none => .absent
  | some folder => SampleHost.inspect folder.contents

/-- A rename never replaces a folder. A removal that fails may have removed a part. -/
def Op.effect : Effect Op (World Contents)
  | _, .load, works, world => (if works then .ok world.control else .error .control, world)
  | _, .update change, works, world =>
    if works then
      match change.decide world.control with
      | .ok control => (.ok (), { change.note world with control })
      | .error cause => (.error cause, world)
    else (.error .control, world)
  | _, .layout, _, world => (fun name => (world.folders name).isSome, world)
  | _, .inspect name, works, world =>
    (if works then .ok (stateOf (world.folders name)) else .error (.seed .io), world)
  | _, .readManifest name, works, world =>
    (match (world.folders name).bind fun folder => SampleHost.readManifest folder.contents with
      | some manifest => if works then .ok manifest else .error (.seed .io)
      | none => .error (.seed (.manifest "the reset sample has no manifest")), world)
  | _, .createDir name, works, world =>
    if works ∧ (world.folders name).isNone then
      (.ok (), { world.put name (some ⟨SampleHost.empty, world.serial, true⟩) with serial := world.serial + 1 })
    else (.error (.seed .io), world)
  | _, .writeSeed name, works, world =>
    match world.folders name with
    | none => (.error (.seed .io), world)
    | some folder =>
      if works then (.ok (SampleHost.seedManifest Contents), world.put name (some { folder with contents := SampleHost.seed }))
      else (.error (.seed .io), world.put name (some { folder with contents := SampleHost.unfinished }))
  | _, .rename source target, works, world =>
    match world.folders source with
    | none => (.error (.seed .io), world)
    | some folder =>
      if works ∧ (world.folders target).isNone then (.ok (), (world.put source none).put target (some folder))
      else (.error (.seed .io), world)
  | _, .removeTree name, works, world =>
    match world.folders name with
    | none => (works, world)
    | some folder =>
      let removing := { world with removals := folder :: world.removals }
      if works then (true, removing.put name none)
      else (false, removing.put name (some { folder with contents := SampleHost.remains folder.contents }))
  | _, .record _, works, world => (works, world)

end

abbrev Sampling := Program Op

def staging (operationId : String) : FolderName := .sibling .staging operationId

def retired (operationId : String) : FolderName := .sibling .retired operationId

def isPlain (character : Char) : Bool := character.isAlphanum || character = '-'

def checkToken (token : String) : Bool :=
  token ≠ "" && token.utf8ByteSize ≤ 64 && token.toList.all isPlain

/-- A sibling that cannot be removed now is written down for the next start. -/
def cleanup (name : FolderName) : Sampling Unit := do
  let removed ← perform (.removeTree name)
  let layout ← perform .layout
  if !removed && layout name then
    let _ ← perform (.update (.pend name))
    return ()
  else return ()

/-- Something that PMC did not write and that got into the old sample is kept. -/
def cleanupRetired (operationId : String) : Sampling Unit := do
  match ← perform (.inspect (retired operationId)) with
  | .ok (.foreign _) => return ()
  | _ => cleanup (retired operationId)

def SampleOutcome.auditCode : SampleOutcome → String × AuditOutcome
  | .reset => ("SAMPLE_RESET", .succeeded)
  | .resetRolledBack => ("SAMPLE_RESET_ROLLED_BACK", .failed)
  | .deleted => ("SAMPLE_DELETED", .succeeded)
  | .notDeleted => ("SAMPLE_NOT_DELETED", .failed)

def record (event : HostAuditEvent) : Sampling (Except SampleError Unit) := do
  let noted ← perform (.record event)
  return if noted then .ok () else .error .notRecorded

def finish (operationId : String) (preparedIntentId receiptId : Option String) (outcome : SampleOutcome)
    (nowMillis : Int) : Sampling (Except SampleError Unit) :=
  (perform (.update (.finish ⟨operationId, preparedIntentId, receiptId, outcome, nowMillis⟩))).onward fun _ =>
  record ⟨outcome.auditCode.1, outcome.auditCode.2,
    ("operation_id", operationId) :: (preparedIntentId.map fun intent => ("prepared_intent_id", intent)).toList⟩

/-- A delete preview that ended without deleting. -/
def recordRefusal (preparedIntentId reason : String) : Sampling (Except SampleError Unit) :=
  record ⟨"SAMPLE_DELETE_REJECTED", .refused, [("prepared_intent_id", preparedIntentId), ("reason", reason)]⟩

/-- Only once the second rename may have happened can the folder in place be the fresh
copy; before it, the folder in place is never moved. -/
def reclaimFresh (operationId : String) (swapped hadSample : Bool) : Sampling (Except SampleError Unit) := do
  let layout ← perform .layout
  if swapped && layout .canonical && !layout (staging operationId) && (layout (retired operationId) || !hadSample) then
    perform (.rename .canonical (staging operationId))
  else return .ok ()

def putPreviousBack (operationId : String) : Sampling (Except SampleError Unit) := do
  let layout ← perform .layout
  if !layout .canonical && layout (retired operationId) then perform (.rename (retired operationId) .canonical)
  else return .ok ()

def rollBackInstall (operationId : String) (swapped hadSample : Bool) : Sampling (Except SampleError Unit) :=
  (reclaimFresh operationId swapped hadSample).onward fun _ =>
  (putPreviousBack operationId).onward fun _ => do
    cleanup (staging operationId)
    return .ok ()

def giveUp {α : Type} (operationId : String) (cause : SampleError) (nowMillis : Int) : Sampling (Except SampleError α) :=
  (finish operationId none none .resetRolledBack nowMillis).onward fun _ => pure (.error cause)

def cleanGiveUp {α : Type} (operationId : String) (cause : SampleError) (nowMillis : Int) :
    Sampling (Except SampleError α) := do
  cleanup (staging operationId)
  giveUp operationId cause nowMillis

def buildStaging (operationId : String) : Sampling (Except SampleError SeedManifest) :=
  (perform (.writeSeed (staging operationId))).onward fun reported =>
  (perform (.inspect (staging operationId))).onward fun state =>
  pure (if state = .current reported then .ok reported
    else .error (.seed (.manifest "the sample built beside the current one did not verify")))

def install (operationId : String) (manifest : SeedManifest) : Sampling (Except SampleError Unit) :=
  (perform (.rename (staging operationId) .canonical)).onward fun _ =>
  (perform (.inspect .canonical)).onward fun state =>
  pure (if state = .current manifest then .ok ()
    else .error (.seed (.manifest "the reset sample did not verify in place")))

def swapIn (operationId : String) (manifest : SeedManifest) (hadSample : Bool) (nowMillis : Int) :
    Sampling (Except SampleError SeedManifest) :=
  (perform (.update (.setResetPhase operationId .swappedAside))).onward fun _ =>
  install operationId manifest >>= fun installed =>
  match installed with
  | .error cause => (rollBackInstall operationId true hadSample).onward fun _ => giveUp operationId cause nowMillis
  | .ok () =>
    (finish operationId none none .reset nowMillis).onward fun _ => do
      if hadSample then cleanupRetired operationId
      return .ok manifest

/-- The current sample is looked at again right before it moves. -/
def moveAside (operationId : String) (manifest : SeedManifest) (nowMillis : Int) :
    Sampling (Except SampleError SeedManifest) :=
  (perform (.inspect .canonical)).onward fun state =>
  match state with
  | .foreign what => cleanGiveUp operationId (.seed (.foreignContents what)) nowMillis
  | _ =>
    perform (.rename .canonical (retired operationId)) >>= fun moved =>
    match moved with
    | .error cause => cleanGiveUp operationId cause nowMillis
    | .ok () => swapIn operationId manifest true nowMillis

section
variable (Contents : Type) [SampleHost Contents]

/-- After the reset is on record: built, recorded as built, and swapped in. -/
def rebuild (operationId : String) (nowMillis : Int) : Sampling (Except SampleError SeedManifest) :=
  perform (.createDir (staging operationId)) >>= fun created =>
  match created with
  | .error cause => giveUp operationId cause nowMillis
  | .ok () =>
    buildStaging operationId >>= fun built =>
    match built with
    | .error cause => cleanGiveUp operationId cause nowMillis
    | .ok manifest =>
      (perform (.update (.recordBuilt operationId (SampleHost.manifestDigest Contents manifest)))).onward fun _ => do
        let layout ← perform .layout
        if layout .canonical then moveAside operationId manifest nowMillis
        else swapIn operationId manifest false nowMillis

/-- A repeated request after a finished reset is answered with the sample it left. -/
def replace (operationId : String) (nowMillis : Int) : Sampling (Except SampleError SeedManifest) :=
  if checkToken operationId then
    (perform .load).onward fun control =>
    match control.terminalOf operationId with
    | some terminal =>
      if terminal.outcome = .reset ∧ terminal.preparedIntentId = none then perform (.readManifest .canonical)
      else pure (.error .invalidIdentifier)
    | none =>
      (perform (.update (.begin operationId nowMillis))).onward fun _ => rebuild Contents operationId nowMillis
  else pure (.error .invalidIdentifier)

inductive WorkspaceKind where
  | live | training
  deriving DecidableEq

inductive PreparedSample where
  | reused (manifest : SeedManifest)
  | built (manifest : SeedManifest)

def prepare (opened : Option WorkspaceKind) (operationId : String) (nowMillis : Int) :
    Sampling (Except SampleError PreparedSample) :=
  if opened = some .training then pure (.error .sampleIsOpen)
  else
    (perform .load).onward fun control =>
    if control.active.isSome then pure (.error .operationInProgress)
    else
      (perform (.inspect .canonical)).onward fun state =>
      match state with
      | .current manifest => pure (.ok (.reused manifest))
      | .foreign what => pure (.error (.seed (.foreignContents what)))
      | .absent | .outdated _ =>
        (replace Contents operationId nowMillis).onward fun manifest => pure (.ok (.built manifest))

def reset (opened : WorkspaceKind) (operationId : String) (nowMillis : Int) :
    Sampling (Except SampleError SeedManifest) :=
  if opened ≠ .live then pure (.error .sampleIsOpen)
  else
    (perform (.inspect .canonical)).onward fun state =>
    match state with
    | .foreign what => pure (.error (.seed (.foreignContents what)))
    | _ => replace Contents operationId nowMillis

def sweepAll : List FolderName → Sampling Unit
  | [] => pure ()
  | name :: rest => do
    let removed ← perform (.removeTree name)
    if removed then
      let _ ← perform (.update (.swept name))
      sweepAll rest
    else sweepAll rest

/-- Removes exactly the folders that were written down. -/
def sweep : Sampling Unit := do
  match ← perform .load with
  | .ok control => sweepAll control.pendingCleanup
  | .error _ => return ()

def isBuilt (builtManifestSha256 : Option String) : SampleState → Bool
  | .current manifest => builtManifestSha256 = some (SampleHost.manifestDigest Contents manifest)
  | _ => false

/-- The fresh sample is in place exactly when the last phase was reached, the staging
folder is gone, and the sample there verifies. -/
def installedFresh (active : ResetOperation) : Sampling (Except SampleError Bool) := do
  let layout ← perform .layout
  if active.phase = .swappedAside ∧ layout (staging active.operationId) = false then
    (perform (.inspect .canonical)).onward fun state => pure (.ok (isBuilt Contents active.builtManifestSha256 state))
  else return .ok false

def resolveReset (active : ResetOperation) (nowMillis : Int) : Sampling (Except SampleError SampleOutcome) :=
  (installedFresh Contents active).onward fun installed =>
  if installed then
    (finish active.operationId none none .reset nowMillis).onward fun _ => do
      cleanupRetired active.operationId
      return .ok .reset
  else do
    let layout ← perform .layout
    (rollBackInstall active.operationId (active.phase = .swappedAside) (layout (retired active.operationId))).onward fun _ =>
    (finish active.operationId none none .resetRolledBack nowMillis).onward fun _ =>
    pure (.ok .resetRolledBack)

/-- Gone once the rename landed, whether or not the tree could be removed. -/
def resolveDelete (prepared : PreparedSampleDelete) (idempotencyId receiptId : String) (nowMillis : Int) :
    Sampling (Except SampleError SampleOutcome) := do
  let layout ← perform .layout
  let renamed := layout (.sibling .deleted idempotencyId) || !layout .canonical
  let outcome := if renamed then SampleOutcome.deleted else .notDeleted
  (finish idempotencyId (some prepared.preparedIntentId) (some receiptId) outcome nowMillis).onward fun _ => do
    if renamed then cleanup (.sibling .deleted idempotencyId)
    return .ok outcome

def resolveActive (nowMillis : Int) : Option SampleOperation → Sampling (Except SampleError (Option SampleOutcome))
  | none => pure (.ok none)
  | some (.deletePrepared prepared) =>
    (perform (.update (.discard prepared.preparedIntentId))).onward fun _ =>
    (recordRefusal prepared.preparedIntentId "discarded_at_startup").onward fun _ => pure (.ok none)
  | some (.reset active) => (resolveReset Contents active nowMillis).onward fun outcome => pure (.ok (some outcome))
  | some (.deleting prepared idempotencyId receiptId _) =>
    (resolveDelete prepared idempotencyId receiptId nowMillis).onward fun outcome => pure (.ok (some outcome))

def reconcile (nowMillis : Int) : Sampling (Except SampleError (Option SampleOutcome)) :=
  (perform .load).onward fun control =>
  (resolveActive Contents nowMillis control.active).onward fun outcome => do
    sweep
    return .ok outcome

inductive Call where
  | prepare (opened : Option WorkspaceKind) (operationId : String) (nowMillis : Int)
  | reset (opened : WorkspaceKind) (operationId : String) (nowMillis : Int)

/-- A call or a start, of which the schedule says where it fails and where the process
stops, or the use of the sample and of the disk by others. -/
inductive Event where
  | call (call : Call) (schedule : List Bool)
  | start (nowMillis : Int) (schedule : List Bool)
  | elsewhere

end

variable {Contents : Type} [SampleHost Contents]

/-- While a reset is not resolved, nobody else writes. Every folder is one of its own. -/
structure Elsewhere (before after : World Contents) : Prop where
  idle : before.control.active = none
  control : after.control = before.control
  episode : after.episode = before.episode
  recorded : after.recorded = before.recorded
  removals : after.removals = before.removals
  numbered : ∀ name folder, after.folders name = some folder → folder.serial < after.serial

def Call.after : Call → List Bool → World Contents → World Contents
  | .prepare opened operationId nowMillis, schedule, world =>
    ((Sample.prepare Contents opened operationId nowMillis).attempt Op.effect schedule world).1
  | .reset opened operationId nowMillis, schedule, world =>
    ((Sample.reset Contents opened operationId nowMillis).attempt Op.effect schedule world).1

def Step : Event → World Contents → World Contents → Prop
  | .call call schedule, before, after => call.after schedule before = after
  | .start nowMillis schedule, before, after => ((reconcile Contents nowMillis).attempt Op.effect schedule before).1 = after
  | .elsewhere, before, after => Elsewhere before after

structure Initial (world : World Contents) : Prop where
  control : world.control = .default
  recorded : world.recorded = []
  removals : world.removals = []
  numbered : ∀ name folder, world.folders name = some folder → folder.serial < world.serial

end MissionControl.Sample

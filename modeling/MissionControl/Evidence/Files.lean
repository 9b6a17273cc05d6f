import MissionControl.Evidence.Ledger
import MissionControl.Lib.Interleaving

/-! Evidence and the files it names. A file is read in one step and what was seen of it is
written in another, and the Vault as well as the Ledger may move in between. -/

namespace MissionControl.Evidence
open Checked Program Transaction Sorting

inductive ReservationError where
  | conflict | corrupt | mint | incompatibleLedger | storage

def mintAttempts : Nat := 8

def identifierInUse (tables : EvidenceTables) (id : String) : Bool :=
  tables.reservations.rows.any (fun row => row.generatedId = id) || (tables.registry.find id).isSome

def mintFresh (tables : EvidenceTables) :
    List (Except DomainValueError EvidenceReferenceId) → Except ReservationError EvidenceReferenceId
  | [] => .error .mint
  | .error _ :: _ => .error .mint
  | .ok candidate :: rest =>
    if identifierInUse tables candidate.asStr then mintFresh tables rest else .ok candidate

def parseReserved (text : String) : Option EvidenceReferenceId :=
  if valid : (validateToken text IdKind.evidenceReference.maximum ['-', '_']).isOk = true then some ⟨text, valid⟩ else none

structure Reservation where
  reserved : ReservedId
  replayed : Bool

/-- `minted` is what the host offers, one candidate after another. -/
def reserveOrGetRecordId (idempotencyId : IdempotencyId) (request : ReservationRequest)
    (minted : List (Except DomainValueError EvidenceReferenceId)) (tables : EvidenceTables) :
    Except ReservationError (EvidenceTables × Reservation) := do
  match tables.reservations.find idempotencyId with
  | some existing =>
    ensure (existing.request = request) .conflict
    let id ← require .corrupt (parseReserved existing.generatedId)
    return (tables, ⟨⟨idempotencyId, request, id⟩, true⟩)
  | none =>
    ensure (idempotencyId ∉ tables.idempotencyClaims) .conflict
    let id ← mintFresh tables (minted.take mintAttempts)
    let reservations ← require .storage (tables.reservations.insert ⟨idempotencyId, request, id.asStr⟩)
    ensure (fitsInteger (tables.ledgerRevision + 1)) .storage
    return ({ tables with reservations, ledgerRevision := tables.ledgerRevision + 1 },
      ⟨⟨idempotencyId, request, id⟩, false⟩)

def getEvidenceReference (tables : EvidenceTables) (context : OperationContext) (id : EvidenceReferenceId) :
    Except DomainError (Option EvidenceReferenceRecord) :=
  match tables.aggregate id.asStr .evidenceReference with
  | none => .ok none
  | some _ => (loadEvidenceReferenceRecord context tables id).map some

structure EvidenceMatch where
  id : EvidenceReferenceId
  version : AggregateVersion

def findEvidenceAtVaultPath (tables : EvidenceTables) (path : VaultRelativePath) (sameName : String → String → Bool) :
    List EvidenceMatch :=
  let named := tables.references.rows.filter fun row => row.vaultPath = path || sameName row.vaultPath.asStr path.asStr
  sortBy (fun one other => compare one.id.asStr other.id.asStr) (named.filterMap fun row =>
    (tables.aggregate row.id.asStr .evidenceReference).map fun registered => ⟨row.id, registered.version⟩)

inductive VaultUnavailable where
  | notConfigured | invalidRoot | changeUnresolved

structure VaultRoot where
  path : String
  deriving DecidableEq

/-- What a path below the Vault root leads to. -/
inductive Source where
  | escapes
  | unreadable
  | file (contents : List UInt8)

def Source.contents : Source → Option (List UInt8)
  | .file contents => some contents
  | .escapes | .unreadable => none

def fileDigest [Sha256] (contents : List UInt8) : IntegrityDigest :=
  ⟨(Sha256.finalize contents).asStr, (Sha256.finalize contents).valid⟩

structure Reading where
  path : VaultRelativePath
  observedAt : UtcTimestamp
  found : Option (List UInt8)

/-- The readings are not stored; they remember what was read when. -/
structure World where
  tables : EvidenceTables
  root : Except VaultUnavailable VaultRoot
  files : VaultRoot → VaultRelativePath → Source
  readings : List Reading

inductive Op : Type → Type where
  | vaultRoot : Op (Except VaultUnavailable VaultRoot)
  | resolve (root : VaultRoot) (path : VaultRelativePath) : Op (Except Unit Unit)
  | read (root : VaultRoot) (path : VaultRelativePath) (now : UtcTimestamp) : Op (Option IntegrityDigest)
  | get (context : OperationContext) (id : EvidenceReferenceId) : Op (Except DomainError (Option EvidenceReferenceRecord))
  | find (path : VaultRelativePath) (sameName : String → String → Bool) : Op (Except Unit (List EvidenceMatch))
  | reserve (idempotencyId : IdempotencyId) (request : ReservationRequest)
    (minted : List (Except DomainValueError EvidenceReferenceId)) : Op (Except ReservationError Reservation)
  | create (reserved : ReservedId) (observation : FileObservation) (context : OperationContext)
    (sameName : String → String → Bool) (arguments : Arguments) :
    Op (Except (Failure DomainError) (MutationOutcome EvidenceReferenceRecord))
  | update (command : UpdateEvidenceVerification) (arguments : Arguments) :
    Op (Except (Failure DomainError) (MutationOutcome EvidenceReferenceRecord))
  | pin (command : PinEvidenceFingerprint) (arguments : Arguments) :
    Op (Except (Failure DomainError) (MutationOutcome EvidenceReferenceRecord))
  | relocate (command : RelocateEvidenceReference) (arguments : Arguments) :
    Op (Except (Failure DomainError) (MutationOutcome EvidenceReferenceRecord))

/-- One call of the repository. -/
def transact {α : Type} (works : Bool) (operation : EvidenceTables → Except DomainError (EvidenceTables × α)) (world : World) :
    Except (Failure DomainError) α × World :=
  let ran := Transaction.run works operation world.tables
  (ran.2, { world with tables := ran.1 })

def Op.effect [Sha256] : Effect Op World
  | _, .vaultRoot, works, world => (if works then world.root else .error .invalidRoot, world)
  | _, .resolve root path, works, world =>
    (match world.files root path with
      | .escapes => .error ()
      | _ => if works then .ok () else .error (), world)
  | _, .read root path now, works, world =>
    let found := if works then (world.files root path).contents else none
    (found.map fileDigest, { world with readings := world.readings ++ [⟨path, now, found⟩] })
  | _, .get context id, works, world =>
    (if works then getEvidenceReference world.tables context id else .error (storageError context), world)
  | _, .find path sameName, works, world =>
    (if works then .ok (findEvidenceAtVaultPath world.tables path sameName) else .error (), world)
  | _, .reserve idempotencyId request minted, works, world =>
    match reserveOrGetRecordId idempotencyId request minted world.tables with
    | .ok (tables, reservation) => if works then (.ok reservation, { world with tables }) else (.error .storage, world)
    | .error cause => (.error (if works then cause else .storage), world)
  | _, .create reserved observation context sameName arguments, works, world =>
    transact works (createEvidenceReferenceFromReservation reserved observation context sameName arguments) world
  | _, .update command arguments, works, world => transact works (updateEvidenceVerification command arguments) world
  | _, .pin command arguments, works, world => transact works (pinEvidenceFingerprint command arguments) world
  | _, .relocate command arguments, works, world => transact works (relocateEvidenceReference command arguments) world

abbrev Observing := Program Op

/-- Passes an answer on under another name for its failures. -/
def asking {ε δ α : Type} (change : ε → δ) (op : Op (Except ε α)) : Observing (Except δ α) :=
  perform op >>= fun answer => pure (relabel change answer)

def degrade : EvidenceVerification → EvidenceVerification
  | .verified verifiedAt integrityDigest => .degradedLastVerified verifiedAt integrityDigest
  | .degradedLastVerified lastVerifiedAt integrityDigest => .degradedLastVerified lastVerifiedAt integrityDigest
  -- an unpinned observation has no verified baseline to degrade to
  | .unverified | .integrityMismatch | .observedUnpinned _ _ => .unverified

/-- What a digest just read makes of a reference. -/
def compared (expectedFingerprint : Option IntegrityDigest) (now : UtcTimestamp) (digest : IntegrityDigest) :
    EvidenceVerification :=
  match expectedFingerprint with
  | none => .observedUnpinned now digest
  | some expected => if expected = digest then .verified now digest else .integrityMismatch

def observeEvidence (root : VaultRoot) (path : VaultRelativePath) (expectedFingerprint : Option IntegrityDigest)
    (previous : EvidenceVerification) (now : UtcTimestamp) : Observing (Except Unit EvidenceVerification) :=
  (perform (.resolve root path)).onward fun _ => do
    match ← perform (.read root path now) with
    | some digest => return .ok (compared expectedFingerprint now digest)
    | none => return .ok (degrade previous)

inductive EvidenceWriteError where
  | vault (reason : VaultUnavailable)
  | notFound
  | versionConflict (current : AggregateVersion)
  | alreadyPinned
  | sourceNotObservable (observed : EvidenceVerification)
  | containment
  | read (error : DomainError)
  | write (failure : Failure DomainError)
  | id (error : DomainValueError)

def readCurrent (id : EvidenceReferenceId) (expectedVersion : AggregateVersion) (context : OperationContext) :
    Observing (Except EvidenceWriteError EvidenceReferenceRecord) :=
  (asking .read (.get context id)).onward fun found =>
  match found with
  | none => pure (.error .notFound)
  | some current =>
    if current.version = expectedVersion then pure (.ok current) else pure (.error (.versionConflict current.version))

def reobserveEvidenceVerification (root : VaultRoot) (id : EvidenceReferenceId) (expectedVersion : AggregateVersion)
    (context : OperationContext) (arguments : Arguments) : Observing (Except EvidenceWriteError EvidenceReferenceRecord) :=
  (readCurrent id expectedVersion context).onward fun current =>
  observeEvidence root current.vaultPath (current.fingerprint.map (·.digest)) current.verification arguments.occurredAt >>=
  fun observation =>
  match observation with
  | .error () => pure (.error .containment)
  | .ok observed =>
    if observed = current.verification then pure (.ok current)
    else (asking .write (.update ⟨id, current.version, observed, context⟩ arguments)).onward fun outcome =>
      pure (.ok outcome.record)

def pinFromVault (root : VaultRoot) (id : EvidenceReferenceId) (expectedVersion : AggregateVersion)
    (context : OperationContext) (arguments : Arguments) : Observing (Except EvidenceWriteError EvidenceReferenceRecord) :=
  (readCurrent id expectedVersion context).onward fun current =>
  if current.fingerprint.isSome then pure (.error .alreadyPinned)
  else observeEvidence root current.vaultPath none current.verification arguments.occurredAt >>= fun observation =>
    match observation with
    | .error () => pure (.error .containment)
    | .ok (.observedUnpinned observedAt integrityDigest) =>
      (asking .write (.pin
        { id
          expectedVersion := current.version
          expectedCurrentPath := current.vaultPath
          observedFingerprint := ⟨.sha256, integrityDigest⟩
          observedAt
          context } arguments)).onward fun outcome => pure (.ok outcome.record)
    | .ok observed => pure (.error (.sourceNotObservable observed))

def relocateTo (root : VaultRoot) (id : EvidenceReferenceId) (expectedVersion : AggregateVersion)
    (expectedCurrentPath newVaultPath : VaultRelativePath) (context : OperationContext) (arguments : Arguments) :
    Observing (Except EvidenceWriteError EvidenceReferenceRecord) :=
  observeEvidence root newVaultPath none .unverified arguments.occurredAt >>= fun observation =>
  match observation with
  | .error () => pure (.error .containment)
  | .ok (.observedUnpinned observedAt integrityDigest) =>
    (asking .write (.relocate
      { id
        expectedVersion
        expectedCurrentPath
        newVaultPath
        observedFingerprint := ⟨.sha256, integrityDigest⟩
        observedAt
        context } arguments)).onward fun outcome => pure (.ok outcome.record)
  | .ok observed => pure (.error (.sourceNotObservable observed))

structure ChosenEvidenceFile where
  root : VaultRoot
  vaultPath : VaultRelativePath
  fingerprint : EvidenceFingerprint
  observedAt : UtcTimestamp

inductive RecordEntryError where
  | requestReused | reservationCorrupt
  | id (error : DomainValueError)
  | domain (error : DomainError)
  | ledger (failure : Failure DomainError)
  | incompatibleLedger | storage

def ReservationError.entry : ReservationError → RecordEntryError
  | .conflict => .requestReused
  | .corrupt => .reservationCorrupt
  | .mint => .id ⟨.invalidCharacter⟩
  | .incompatibleLedger => .incompatibleLedger
  | .storage => .storage

inductive EvidenceFromFileError where
  | vault (reason : VaultUnavailable)
  | outsideVault | unreadable | vaultChanged
  | fileChanged (chosen : ChosenEvidenceFile)
  | alreadyReferenced (existing : EvidenceMatch)
  | read
  | entry (error : RecordEntryError)

structure CreateEvidenceFromFile where
  chosen : ChosenEvidenceFile
  classification : DataClassification
  context : OperationContext
  minted : List (Except DomainValueError EvidenceReferenceId)
  arguments : Except DomainValueError Arguments
  now : UtcTimestamp
  sameName : String → String → Bool

/-- The file is read again, and must still be what was shown. -/
def observeChosen (chosen : ChosenEvidenceFile) (now : UtcTimestamp) :
    Observing (Except EvidenceFromFileError IntegrityDigest) :=
  (asking (fun _ => .outsideVault) (.resolve chosen.root chosen.vaultPath)).onward fun _ => do
    match ← perform (.read chosen.root chosen.vaultPath now) with
    | none => return .error .unreadable
    | some digest =>
      if (⟨.sha256, digest⟩ : EvidenceFingerprint) = chosen.fingerprint then return .ok digest
      else return .error (.fileChanged { chosen with fingerprint := ⟨.sha256, digest⟩, observedAt := now })

def createObserved (request : CreateEvidenceFromFile) (reserved : ReservedId) :
    Observing (Except EvidenceFromFileError EvidenceReferenceRecord) :=
  (observeChosen request.chosen request.now).onward fun digest =>
  (asking (fun _ => .read) (.find request.chosen.vaultPath request.sameName)).onward fun found =>
  match found, request.arguments with
  | existing :: _, _ => pure (.error (.alreadyReferenced existing))
  | [], .error error => pure (.error (.entry (.id error)))
  | [], .ok arguments =>
    (asking (fun failure => .entry (.ledger failure)) (.create reserved
      ⟨request.chosen.vaultPath, ⟨.sha256, digest⟩, request.now, request.classification⟩ request.context request.sameName
      { arguments with occurredAt := request.now })).onward fun outcome => pure (.ok outcome.record)

/-- The identifier comes first: a retry must find what its first attempt created before it
reads the file again. -/
def createEvidenceFromFile (request : CreateEvidenceFromFile) :
    Observing (Except EvidenceFromFileError EvidenceReferenceRecord) :=
  (asking .vault .vaultRoot).onward fun root =>
  if root ≠ request.chosen.root then pure (.error .vaultChanged)
  else
    (asking (fun cause => .entry cause.entry)
      (.reserve request.context.idempotencyId evidenceReservation request.minted)).onward fun reservation =>
    if reservation.replayed then
      (asking (fun error => .entry (.domain error)) (.get request.context reservation.reserved.id)).onward fun created =>
      match created with
      | some record =>
        if record.vaultPath = request.chosen.vaultPath then pure (.ok record) else pure (.error (.entry .requestReused))
      | none => createObserved request reservation.reserved
    else createObserved request reservation.reserved

inductive Request where
  | createFromFile (request : CreateEvidenceFromFile)
  | reobserve (id : EvidenceReferenceId) (expectedVersion : AggregateVersion) (context : OperationContext)
    (arguments : Except DomainValueError Arguments)
  | pin (id : EvidenceReferenceId) (expectedVersion : AggregateVersion) (context : OperationContext)
    (arguments : Except DomainValueError Arguments)
  | relocate (id : EvidenceReferenceId) (expectedVersion : AggregateVersion)
    (expectedCurrentPath newVaultPath : VaultRelativePath) (context : OperationContext)
    (arguments : Except DomainValueError Arguments)

inductive RequestError where
  | file (error : EvidenceFromFileError)
  | write (error : EvidenceWriteError)

def withVault (arguments : Except DomainValueError Arguments)
    (flow : VaultRoot → Arguments → Observing (Except EvidenceWriteError EvidenceReferenceRecord)) :
    Observing (Except EvidenceWriteError EvidenceReferenceRecord) :=
  (asking .vault .vaultRoot).onward fun root =>
  match arguments with
  | .error error => pure (.error (.id error))
  | .ok arguments => flow root arguments

def Request.flow : Request → Observing (Except RequestError EvidenceReferenceRecord)
  | .createFromFile request => createEvidenceFromFile request >>= fun answer => pure (relabel .file answer)
  | .reobserve id expectedVersion context arguments =>
    withVault arguments (fun root arguments => reobserveEvidenceVerification root id expectedVersion context arguments) >>=
      fun answer => pure (relabel .write answer)
  | .pin id expectedVersion context arguments =>
    withVault arguments (fun root arguments => pinFromVault root id expectedVersion context arguments) >>=
      fun answer => pure (relabel .write answer)
  | .relocate id expectedVersion expectedCurrentPath newVaultPath context arguments =>
    withVault arguments (fun root arguments =>
      relocateTo root id expectedVersion expectedCurrentPath newVaultPath context arguments) >>=
      fun answer => pure (relabel .write answer)

/-- Others move the files and the Vault folder as they like, and the rest of the Ledger. -/
structure Outside (before after : World) : Prop where
  tables : Elsewhere before.tables after.tables
  readings : after.readings = before.readings

structure Begun (world : World) : Prop where
  tables : Initial world.tables
  readings : world.readings = []

end MissionControl.Evidence

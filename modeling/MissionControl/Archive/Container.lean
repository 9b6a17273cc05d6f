import MissionControl.Archive.Record

/-! Writing an archive and reading one back. The reader accepts nothing before the stream
is read to its end. -/

namespace MissionControl.Archive
open Checked Streaming

section

def checkNames (seen : List String) : List ArchiveMemberSource → Except ArchiveError Unit
  | [] => return ()
  | member :: rest => do
    ensure (isPlainName member.name = true ∧ member.name ≠ manifestName ∧ member.name ∉ seen) .invalidMember
    checkNames (member.name :: seen) rest

def totalSize : Nat → List ArchiveMemberSource → Except ArchiveError Nat
  | total, [] => return total
  | total, member :: rest => do
    let content ← require .io member.content
    totalSize (saturatingAdd total content.length) rest

variable [Sha256]

def listMember (member : ArchiveMemberSource) : Except ArchiveError ManifestMember := do
  let content ← require .io member.content
  return { name := member.name, size := content.length, sha256 := hexDigest content }

/-- What stands in for a member before its content is read. -/
def placeholderMember (member : ArchiveMemberSource) : ManifestMember :=
  { name := member.name, size := 2 ^ 64 - 1, sha256 := String.ofList (List.replicate 64 '0') }

variable [ArchiveHost]

def memberFiles (members : List ArchiveMemberSource) : List TarFile :=
  members.map fun member => ⟨member.name, member.content.getD []⟩

def archived (members : List ArchiveMemberSource) (manifest : ArchiveManifest) : List TarFile :=
  memberFiles members ++ [⟨manifestName, ArchiveHost.manifestJson manifest⟩]

def writeProfiled (writes : Bool) (passphrase : String) (workFactor : Nat) (profile : String) (input : ManifestInput)
    (members : List ArchiveMemberSource) : Except ArchiveError (WrittenArchive × Bytes) := do
  checkNames [] members
  ensure (members.length ≤ maxMembers ∧ input.archiveId.utf8ByteSize ≤ maxManifestFieldBytes ∧
    input.createdAt.utf8ByteSize ≤ maxManifestFieldBytes ∧
    input.snapshotChecksum.utf8ByteSize ≤ maxManifestFieldBytes) .tooLarge
  let total ← totalSize 0 members
  ensure (total ≤ maxArchivePlaintextBytes) .tooLarge
  let placeholder := manifestFor input profile (members.map placeholderMember)
  ensure ((ArchiveHost.manifestJson placeholder).length ≤ maxManifestBytes) .tooLarge
  let manifestMembers ← members.mapM listMember
  let manifest := manifestFor input profile manifestMembers
  ensure ((ArchiveHost.manifestJson manifest).length ≤ maxManifestBytes) .tooLarge
  let container := ArchiveHost.encrypt passphrase workFactor
    (ArchiveHost.compress (ArchiveHost.tar (archived members manifest)))
  ensure (writes = true) .io
  return ({ manifest, containerSha256 := hexDigest container, containerBytes := container.length }, container)

end

section
variable {State : Type}

/-- A read through the ceiling: the reader behind it and what may still come through. -/
def cappedRead (inner : Read State UInt8 StreamFailure) : Read (State × Nat) UInt8 StreamFailure
  | 0, state => (.ok [], state)
  | _ + 1, (state, 0) =>
    -- at the ceiling one more byte means that the stream is over it
    match inner 1 state with
    | (.ok [], later) => (.ok [], (later, 0))
    | (.ok _, later) => (.error .capExceeded, (later, 0))
    | (.error failure, later) => (.error failure, (later, 0))
  | size + 1, (state, remaining) =>
    match inner (min remaining (size + 1)) state with
    | (.ok bytes, later) => (.ok bytes, (later, remaining - bytes.length))
    | (.error failure, later) => (.error failure, (later, remaining))

end

structure Directory where
  held : String → Option Bytes
  takes : String → Bool

structure Reading where
  declaredTotal : Nat
  computed : List ManifestMember
  manifest : Option ArchiveManifest
  directory : Option Directory

def streamError : StreamFailure → ArchiveError
  | .capExceeded => .tooLarge
  | .damaged => .corrupt

def copyMember (contents : Contents UInt8 StreamFailure) : Except ArchiveError Bytes :=
  relabel streamError contents.all

def extractMember (name : String) (contents : Contents UInt8 StreamFailure) :
    Option Directory → Except ArchiveError (Bytes × Option Directory)
  | some directory => do
    ensure (directory.held name = none ∧ directory.takes name = true) .io
    let bytes ← copyMember contents
    return (bytes, some { directory with held := Function.update directory.held name (some bytes) })
  | none => do
    let bytes ← copyMember contents
    return (bytes, none)

variable [Sha256] [ArchiveHost]

def openDecryptor (input : Bytes) (passphrase : String) (maxWorkFactor : Nat) :
    Except ArchiveError (Contents UInt8 StreamFailure) := do
  let isScrypt ← relabel (fun | .io => .corrupt | _ => .notAnArchive) (ArchiveHost.isScrypt input)
  ensure (isScrypt = true) .notAnArchive
  relabel
    (fun
      | .excessiveWork => .workFactorTooHigh
      | .decryptionFailed | .keyDecryptionFailed | .noMatchingKeys => .cannotDecrypt
      | _ => .corrupt)
    (ArchiveHost.decrypt passphrase maxWorkFactor input)

def readEntry (reading : Reading) (entry : RawEntry) : Except ArchiveError Reading := do
  ensure (reading.manifest = none) .unexpectedEntry
  ensure (entry.entryType = .regular) .unexpectedEntry
  let name ← require .unexpectedEntry (fromUtf8 entry.pathBytes)
  ensure (isPlainName name = true ∧ name ∉ reading.computed.map ManifestMember.name) .unexpectedEntry
  let declaredTotal := saturatingAdd reading.declaredTotal entry.size
  ensure (declaredTotal ≤ maxArchivePlaintextBytes + maxManifestBytes ∧
    (name = manifestName ∨ reading.computed.length < maxMembers)) .tooLarge
  if name = manifestName then
    ensure (entry.size ≤ maxManifestBytes) .tooLarge
    let bytes ← copyMember entry.contents
    let manifest ← require .manifestMismatch (ArchiveHost.parseManifest bytes)
    return { reading with declaredTotal, manifest := some manifest }
  else
    let extracted ← extractMember name entry.contents reading.directory
    ensure (extracted.1.length = entry.size) .corrupt
    return { reading with
      declaredTotal
      directory := extracted.2
      computed := reading.computed ++ [⟨name, entry.size, hexDigest extracted.1⟩] }

def readEntries : List (Except StreamFailure RawEntry) → Reading → Except ArchiveError Reading
  | [], reading => return reading
  | next :: rest, reading => do
    let entry ← relabel streamError next
    let reading ← readEntry reading entry
    readEntries rest reading

def readProfiled (input : Bytes) (passphrase : String) (maxWorkFactor : Nat) (extractTo : Option Directory)
    (ceiling : Nat) (profile : String) : Except ArchiveError (VerifiedArchive × Option Directory) := do
  let decrypted ← openDecryptor input passphrase (min maxWorkFactor maxAcceptedWorkFactor)
  let decoded ← relabel streamError (ArchiveHost.decompress decrypted)
  let capped := decoded.capped .capExceeded ceiling
  let reading ← readEntries (ArchiveHost.entries capped) ⟨0, [], none, extractTo⟩
  -- what the tar reader left is read to the authenticated end
  let _ ← relabel streamError capped.all
  let manifest ← require .manifestMismatch reading.manifest
  ensure (manifest.format = archiveFormat ∧ manifest.manifestFormat = manifestFormat ∧ manifest.profile = profile ∧
    manifest.members = reading.computed) .manifestMismatch
  return (⟨manifest⟩, reading.directory)

end MissionControl.Archive

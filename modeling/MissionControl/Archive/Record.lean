import MissionControl.Domain.PreviewDigest
import MissionControl.Lib.Streaming
import MissionControl.Lib.Checked

/-! The encrypted backup archive: a tar stream, compressed and encrypted, that holds its
members in order and then a manifest of them. -/

namespace MissionControl.Archive
open Streaming

abbrev Bytes := List UInt8

inductive ArchiveError where
  | invalidMember | notAnArchive | cannotDecrypt | workFactorTooHigh | corrupt | unexpectedEntry
  | manifestMismatch | tooLarge | io
  deriving DecidableEq

/-- Why reading the decrypted, decompressed stream stopped. -/
inductive StreamFailure where
  | capExceeded | damaged

inductive DecryptError where
  | io | excessiveWork | decryptionFailed | keyDecryptionFailed | noMatchingKeys | invalidHeader

structure ArchiveMemberSource where
  name : String
  /-- What the file holds, if it can be read. -/
  content : Option Bytes

structure ManifestInput where
  archiveId : String
  createdAt : String
  ledgerSchemaVersion : Nat
  ledgerRevision : Nat
  snapshotChecksum : String

structure ManifestMember where
  name : String
  size : Nat
  sha256 : String
  deriving DecidableEq

structure ArchiveManifest where
  format : String
  manifestFormat : String
  profile : String
  archiveId : String
  createdAt : String
  ledgerSchemaVersion : Nat
  ledgerRevision : Nat
  snapshotChecksum : String
  members : List ManifestMember

structure WrittenArchive where
  manifest : ArchiveManifest
  containerSha256 : String
  containerBytes : Nat

structure VerifiedArchive where
  manifest : ArchiveManifest

def productionWorkFactor : Nat := 18
def maxAcceptedWorkFactor : Nat := 20
def archiveFormat : String := "pmc-backup/v1"
def manifestFormat : String := "pmc-backup-manifest/v1"
def operationalProfile : String := "operational/v1"
def preservationProfile : String := "preservation/v1"
def manifestName : String := "manifest.json"
def maxMemberName : Nat := 64
def maxManifestBytes : Nat := 64 * 1024
def maxMembers : Nat := 16
def maxArchivePlaintextBytes : Nat := 16 * 1024 * 1024 * 1024
def tarOverheadBytes : Nat := 1024 * 1024
def maxManifestFieldBytes : Nat := 128

/-- The ceiling the public readers put on the decompressed stream. -/
def streamCeiling : Nat := maxArchivePlaintextBytes + maxManifestBytes + tarOverheadBytes

def isPlainByte (byte : UInt8) : Bool :=
  (0x61 ≤ byte && byte ≤ 0x7A) || (0x30 ≤ byte && byte ≤ 0x39) || (asBytes "._-").contains byte

def isPlainName (name : String) : Bool :=
  name ≠ "" && name.utf8ByteSize ≤ maxMemberName && name ≠ "." && name ≠ ".." && (asBytes name).all isPlainByte

def saturatingAdd (first second : Nat) : Nat := min (first + second) (2 ^ 64 - 1)

structure TarFile where
  name : String
  content : Bytes

inductive EntryType where
  | regular | other
  deriving DecidableEq

/-- An entry as the tar reader gives it, extensions not applied. -/
structure RawEntry where
  entryType : EntryType
  pathBytes : Bytes
  size : Nat
  contents : Contents UInt8 StreamFailure

/-- How the tar reader sees a file that the tar writer wrote. -/
def TarFile.entry (file : TarFile) : RawEntry :=
  ⟨.regular, asBytes file.name, file.content.length, ⟨file.content, none⟩⟩

def paddedLength (size : Nat) : Nat := (size + 511) / 512 * 512

def framedLength (files : List TarFile) : Nat :=
  (files.map fun file => 512 + paddedLength file.content.length).sum + 1024

/-- The encryption, the compression, the tar format and JSON. -/
class ArchiveHost where
  encrypt : String → Nat → Bytes → Bytes
  /-- The header read: whether a passphrase unwraps the key. -/
  isScrypt : Bytes → Except DecryptError Bool
  decrypt : String → Nat → Bytes → Except DecryptError (Contents UInt8 StreamFailure)
  compress : Bytes → Bytes
  decompress : Contents UInt8 StreamFailure → Except StreamFailure (Contents UInt8 StreamFailure)
  tar : List TarFile → Bytes
  entries : Contents UInt8 StreamFailure → List (Except StreamFailure RawEntry)
  manifestJson : ArchiveManifest → Bytes
  parseManifest : Bytes → Option ArchiveManifest

def fromUtf8 (bytes : Bytes) : Option String := String.fromUTF8? ⟨bytes.toArray⟩

theorem fromUtf8_asBytes (name : String) : fromUtf8 (asBytes name) = some name := by
  unfold fromUtf8 asBytes String.fromUTF8?
  simp only [Array.toArray_toList, Option.dite_none_right_eq_some, Option.some.injEq]
  exact ⟨name.isValidUTF8, rfl⟩

def hexDigest [Sha256] (bytes : Bytes) : String := (Sha256.finalize bytes).asStr

def manifestFor (input : ManifestInput) (profile : String) (members : List ManifestMember) : ArchiveManifest where
  format := archiveFormat
  manifestFormat := manifestFormat
  profile := profile
  archiveId := input.archiveId
  createdAt := input.createdAt
  ledgerSchemaVersion := input.ledgerSchemaVersion
  ledgerRevision := input.ledgerRevision
  snapshotChecksum := input.snapshotChecksum
  members := members

end MissionControl.Archive

import MissionControl.Lib.Checked

/-! Canonical roots and the paths below them. A path is the names of its components; the text
of one is a Vault-relative path's, which has no prefix and no backslash. -/

namespace MissionControl.Paths
open Checked

abbrev Name := List Char

inductive PathValidationError where
  | rootIsLinkOrReparsePoint | rootIsNotADirectory | rootUnavailable | rootNotCanonical
  | pathIsEmpty | pathEscapesRoot | pathContainsLinkOrReparsePoint | pathOccupiedByNonDirectory
  | pathUnavailable | pathIsNotAFile
  deriving DecidableEq

inductive Entry where
  | link | directory | file | other
  deriving DecidableEq

/-- An answer of `symlink_metadata`. -/
inductive Metadata where
  | found (entry : Entry) | notFound | failed

def Metadata.entry (failure : PathValidationError) : Metadata → Except PathValidationError Entry
  | .found entry => .ok entry
  | .notFound | .failed => .error failure

/-- The file system as it stands. What is there lies in a directory, or behind a link, and a
canonical path is spelled with the names of real entries. -/
structure Disk where
  symlinkMetadata : List Name → Metadata
  canonicalize : List Name → Option (List Name)
  nested : ∀ path name entry, symlinkMetadata (path ++ [name]) = .found entry →
    symlinkMetadata path = .found .directory ∨ symlinkMetadata path = .found .link
  spelled : ∀ path canonical, canonicalize path = some canonical → ∀ name ∈ canonical,
    name ≠ [] ∧ name ≠ ['.'] ∧ name ≠ ['.', '.'] ∧ '/' ∉ name

inductive Component where
  | rootDir | curDir | parentDir | normal (name : Name)

def component (piece : List Char) : Option Component :=
  if piece = [] ∨ piece = ['.'] then none else if piece = ['.', '.'] then some .parentDir else some (.normal piece)

/-- `Path::components`. A `.` is a component at the start of a relative path only. -/
def components (text : List Char) : List Component :=
  let pieces := text.splitOn '/'
  (if text.head? = some '/' then [.rootDir] else if pieces.head? = some ['.'] then [.curDir] else []) ++
    pieces.filterMap component

def normalName : Component → Except PathValidationError Name
  | .normal name => .ok name
  | _ => .error .pathEscapesRoot

def validateCanonicalRoot (disk : Disk) (root : List Name) : Except PathValidationError (List Name) := do
  let entry ← (disk.symlinkMetadata root).entry .rootUnavailable
  ensure (entry ≠ .link) .rootIsLinkOrReparsePoint
  ensure (entry = .directory) .rootIsNotADirectory
  let canonical ← require .rootUnavailable (disk.canonicalize root)
  ensure (canonical = root) .rootNotCanonical
  return canonical

/-- The loop over the names, with what `missing` holds. -/
def descend (disk : Disk) (current : List Name) (missing : Bool) : List Name → Except PathValidationError (List Name)
  | [] => .ok current
  | name :: rest =>
    if missing then descend disk (current ++ [name]) true rest
    else match disk.symlinkMetadata (current ++ [name]) with
      | .found entry => do
        ensure (entry ≠ .link) .pathContainsLinkOrReparsePoint
        ensure (rest = [] ∨ entry = .directory) .pathOccupiedByNonDirectory
        descend disk (current ++ [name]) false rest
      | .notFound => descend disk (current ++ [name]) true rest
      | .failed => .error .pathUnavailable

def resolveContainedPath (disk : Disk) (canonicalRoot : List Name) (relative : List Char) :
    Except PathValidationError (List Name) := do
  let names ← (components relative).mapM normalName
  ensure (names ≠ []) .pathIsEmpty
  let current ← descend disk canonicalRoot false names
  ensure (canonicalRoot <+: current) .pathEscapesRoot
  return current

/-- The walk from the root down to the file, over entries that are there. -/
def unlinked (disk : Disk) (current : List Name) : List Name → Except PathValidationError Unit
  | [] => .ok ()
  | name :: rest => do
    let entry ← (disk.symlinkMetadata (current ++ [name])).entry .pathUnavailable
    ensure (entry ≠ .link) .pathContainsLinkOrReparsePoint
    unlinked disk (current ++ [name]) rest

def vaultRelativeFile (disk : Disk) (canonicalRoot chosen : List Name) : Except PathValidationError (List Char) := do
  let root ← validateCanonicalRoot disk canonicalRoot
  let entry ← (disk.symlinkMetadata chosen).entry .pathUnavailable
  ensure (entry ≠ .link) .pathContainsLinkOrReparsePoint
  ensure (entry = .file) .pathIsNotAFile
  let canonical ← require .pathUnavailable (disk.canonicalize chosen)
  ensure (root <+: canonical) .pathEscapesRoot
  let names := canonical.drop root.length
  unlinked disk root names
  ensure (names ≠ []) .pathIsEmpty
  return ['/'].intercalate names

end MissionControl.Paths

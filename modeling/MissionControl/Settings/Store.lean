import MissionControl.Settings.Record

/-! The settings store. A call holds its writer's lock from the reading of the document to
the end; the writer also holds a presentation patch that is not written yet. -/

namespace MissionControl.Settings
open Checked

structure PendingPresentation where
  baseRevision : Nat
  patch : PresentationPatch

structure WriterState where
  pendingPresentation : Option PendingPresentation

def WriterState.default : WriterState := ⟨none⟩

/-- What the machine grants one call. A file whose folder is out of reach seems not to
exist, but cannot be written either. -/
structure Access where
  locks : Bool
  reaches : Bool
  reads : Bool
  /-- The folders that are there, reached through no link. -/
  directory : CanonicalDirectoryPath → Bool
  writes : Bool

/-- What the body of a call works on. -/
structure Held where
  file : Option SettingsDocument
  writer : WriterState

abbrev Body := EStateM SettingsError Held

inductive PatchOutcome where
  | committed (revision : Nat)
  | stale (currentRevision : Nat)
  deriving DecidableEq

inductive InitializeOutcome where
  | alreadyInitialized (currentRevision : Nat)
  | initialized (revision : Nat)
  deriving DecidableEq

inductive QueueOutcome where
  | queued (baseRevision : Nat)
  | stale (currentRevision : Nat)
  deriving DecidableEq

inductive FlushOutcome where
  | committed (revision : Nat)
  | noPending
  | staleDiscarded (currentRevision : Nat)
  deriving DecidableEq

inductive CancelOutcome where
  | cancelled (baseRevision : Nat)
  | noPending
  | revisionMismatch (pendingBaseRevision : Nat)
  deriving DecidableEq

section
variable [SettingsHost] (access : Access)

def attempt {α : Type} (result : Except SettingsError α) : Body α := fun held =>
  match result with
  | .ok value => .ok value held
  | .error failure => .error failure held

def lock : Body Unit := attempt (ensure (access.locks = true) .writerPoisoned)

/-- The file as the JSON reader and the checks see it: an authority root that is gone does
not read back. -/
def decodeFile (file : Option SettingsDocument) : Except SettingsError SettingsDocument := do
  let document ← require .io (if access.reaches && access.reads then file else none)
  ensure (∀ root ∈ document.operational.authorityRoot, access.directory root = true) .invalidJson
  validateDocument document
  return document

def readDocument : Body SettingsDocument := do
  attempt (decodeFile access (← get).file)

def writeAtomic (document : SettingsDocument) : Body Unit := do
  attempt (ensure ((access.reaches && access.writes) = true) .io)
  modify fun held => { held with file := some document }

def setPending (pending : Option PendingPresentation) : Body Unit :=
  modify fun held => { held with writer := ⟨pending⟩ }

/-- The next revision, as `u64` holds it. -/
def checkedAdd (revision : Nat) : Except SettingsError Nat :=
  if revision + 1 < 2 ^ 64 then .ok (revision + 1) else .error .revisionExhausted

def commitDocument (document : SettingsDocument) : Body SettingsDocument := do
  attempt (validateDocument document)
  let revision ← attempt (checkedAdd document.revision)
  let document := { document with revision }
  writeAtomic access document
  return document

def initializeDocument (document : SettingsDocument) : Body InitializeOutcome := do
  attempt (validateDocument document)
  lock access
  if access.reaches && (← get).file.isSome then
    let current ← readDocument access
    return .alreadyInitialized current.revision
  writeAtomic access document
  return .initialized document.revision

def initializeDefault : Body InitializeOutcome := initializeDocument access .default

def initializeFirstRun (locale : String) (selectedWorkspace : Option SelectedWorkspace) : Body InitializeOutcome :=
  let document := SettingsDocument.default
  initializeDocument access { document with
    display := { document.display with locale }
    operational := { document.operational with selectedWorkspace } }

def initializeWithLocale (locale : String) : Body InitializeOutcome :=
  let document := SettingsDocument.default
  initializeDocument access { document with display := { document.display with locale } }

def changeDocument (expectedRevision : Nat) (change : SettingsDocument → SettingsDocument) : Body PatchOutcome := do
  lock access
  let document ← readDocument access
  if document.revision ≠ expectedRevision then
    return .stale document.revision
  let document ← commitDocument access (change document)
  setPending none
  return .committed document.revision

def selectWorkspace (expectedRevision : Nat) (selected : SelectedWorkspace) : Body PatchOutcome :=
  changeDocument access expectedRevision fun document => document.selecting selected

def applyRestoreExport (expectedRevision : Nat) (settings : BackupSettings) : Body PatchOutcome :=
  changeDocument access expectedRevision settings.applyTo

def putBack (expectedRevision : Nat) (preimage : SettingsDocument) : Body PatchOutcome :=
  changeDocument access expectedRevision fun document => preimage.putBack document

/-- The patch still waits on top of the revision that a patch of its own revision made. -/
def rebase (expectedRevision revision : Nat) (pending : PendingPresentation) : Option PendingPresentation :=
  if pending.baseRevision = expectedRevision then some { pending with baseRevision := revision } else none

def applyDurable (expectedRevision : Nat) (patch : SettingsPatch) : Body PatchOutcome := do
  lock access
  let document ← readDocument access
  if document.revision ≠ expectedRevision then
    return .stale document.revision
  let document ← commitDocument access (applyPatch document patch)
  setPending ((← get).writer.pendingPresentation.bind (rebase expectedRevision document.revision))
  return .committed document.revision

def queued (expectedRevision : Nat) (patch : PresentationPatch) (pending : Option PendingPresentation) :
    PendingPresentation :=
  match pending with
  | some pending =>
    if pending.baseRevision = expectedRevision then { pending with patch := mergePresentationPatch pending.patch patch }
    else ⟨expectedRevision, patch⟩
  | none => ⟨expectedRevision, patch⟩

def queuePresentation (expectedRevision : Nat) (patch : PresentationPatch) : Body QueueOutcome := do
  lock access
  let document ← readDocument access
  if document.revision ≠ expectedRevision then
    return .stale document.revision
  setPending (some (queued expectedRevision patch (← get).writer.pendingPresentation))
  return .queued expectedRevision

def flushed (pending : PendingPresentation) (document : SettingsDocument) : SettingsDocument :=
  { document with presentation := applyPresentationPatch document.presentation pending.patch }

def flushPendingPresentation : Body FlushOutcome := do
  lock access
  match (← get).writer.pendingPresentation with
  | none => return .noPending
  | some pending =>
    let document ← readDocument access
    if document.revision ≠ pending.baseRevision then
      setPending none
      return .staleDiscarded document.revision
    let document ← commitDocument access (flushed pending document)
    setPending none
    return .committed document.revision

def cancelPendingPresentation (expectedBaseRevision : Nat) : Body CancelOutcome := do
  lock access
  match (← get).writer.pendingPresentation with
  | none => return .noPending
  | some pending =>
    if pending.baseRevision ≠ expectedBaseRevision then
      return .revisionMismatch pending.baseRevision
    setPending none
    return .cancelled pending.baseRevision

end

variable [SettingsHost] {access : Access} {document : SettingsDocument} {expectedRevision : Nat} {held : Held}

omit [SettingsHost] in
theorem run_attempt {α β : Type} (result : Except SettingsError α) (rest : α → Body β) (held : Held) :
    (attempt result >>= rest) held =
      match result with
      | .ok value => rest value held
      | .error failure => .error failure held := by
  cases result <;> rfl

variable {α : Type}

omit [SettingsHost] in
theorem run_get (rest : Held → Body α) (held : Held) : ((get : Body Held) >>= rest) held = rest held held := rfl

theorem decodeFile_ok {file : Option SettingsDocument} (read : decodeFile access file = .ok document) :
    file = some document ∧ validateDocument document = .ok () := by
  obtain ⟨stored, there, read⟩ := bind_ok.mp read
  obtain ⟨_, _, read⟩ := bind_ok.mp read
  obtain ⟨_, valid, same⟩ := bind_ok.mp read
  obtain rfl := pure_ok.mp same
  split at there
  · exact ⟨require_ok.mp there, valid⟩
  · cases require_ok.mp there

omit [SettingsHost] in
theorem run_lock (rest : Unit → Body α) (held : Held) :
    (∃ failure, (lock access >>= rest) held = .error failure held) ∨
      (lock access >>= rest) held = rest () held := by
  rw [lock, run_attempt]
  cases ensure (access.locks = true) SettingsError.writerPoisoned with
  | error failure => exact .inl ⟨failure, rfl⟩
  | ok _ => exact .inr rfl

theorem run_readDocument (rest : SettingsDocument → Body α) (held : Held) :
    (∃ failure, (readDocument access >>= rest) held = .error failure held) ∨
      ∃ document, held.file = some document ∧ validateDocument document = .ok () ∧
        (readDocument access >>= rest) held = rest document held := by
  have unfolded : (readDocument access >>= rest) held = (attempt (decodeFile access held.file) >>= rest) held := rfl
  rw [unfolded, run_attempt]
  cases read : decodeFile access held.file with
  | error failure => exact .inl ⟨failure, rfl⟩
  | ok document => exact .inr ⟨document, (decodeFile_ok read).1, (decodeFile_ok read).2, rfl⟩

omit [SettingsHost] in
theorem run_writeAtomic (rest : Unit → Body α) (held : Held) :
    (∃ failure, (writeAtomic access document >>= rest) held = .error failure held) ∨
      access.reaches = true ∧
        (writeAtomic access document >>= rest) held = rest () { held with file := some document } := by
  unfold writeAtomic
  cases written : ensure ((access.reaches && access.writes) = true) SettingsError.io with
  | error failure => exact .inl ⟨failure, rfl⟩
  | ok _ => exact .inr ⟨(Bool.and_eq_true_iff.mp (ensure_ok.mp written)).1, rfl⟩

omit [SettingsHost] in
theorem checkedAdd_ok {revision later : Nat} (risen : checkedAdd revision = .ok later) : later = revision + 1 := by
  unfold checkedAdd at risen
  split at risen
  · exact (Except.ok.inj risen).symm
  · cases risen

def SettingsDocument.next (document : SettingsDocument) : SettingsDocument :=
  { document with revision := document.revision + 1 }

theorem run_commitDocument (rest : SettingsDocument → Body α) (held : Held) :
    (∃ failure, (commitDocument access document >>= rest) held = .error failure held) ∨
      validateDocument document = .ok () ∧ (commitDocument access document >>= rest) held =
        rest document.next { held with file := some document.next } := by
  unfold commitDocument
  simp only [bind_assoc, pure_bind]
  rw [run_attempt]
  cases valid : validateDocument document with
  | error failure => exact .inl ⟨failure, rfl⟩
  | ok _ =>
    simp only [run_attempt]
    cases risen : checkedAdd document.revision with
    | error failure => exact .inl ⟨failure, rfl⟩
    | ok revision =>
      obtain rfl := checkedAdd_ok risen
      obtain ⟨failure, failed⟩ | ⟨_, wrote⟩ := run_writeAtomic
        (fun _ => rest document.next) held
      · exact .inl ⟨failure, failed⟩
      · exact .inr ⟨trivial, wrote⟩

end MissionControl.Settings

import MissionControl.Settings.Store

/-! The calls on the handles of one root. Handles opened while another one lives share its
writer, which a registry knows without keeping it alive. -/

namespace MissionControl.Settings

inductive Call where
  | initializeDefault
  | initializeWithLocale (locale : String)
  | initializeFirstRun (locale : String) (selectedWorkspace : Option SelectedWorkspace)
  | selectWorkspace (expectedRevision : Nat) (selected : SelectedWorkspace)
  | applyDurable (expectedRevision : Nat) (patch : SettingsPatch)
  | applyRestoreExport (expectedRevision : Nat) (settings : BackupSettings)
  | putBack (expectedRevision : Nat) (preimage : SettingsDocument)
  | queuePresentation (expectedRevision : Nat) (patch : PresentationPatch)
  | flushPendingPresentation
  | cancelPendingPresentation (expectedBaseRevision : Nat)

inductive Outcome where
  | started (outcome : InitializeOutcome)
  | patched (outcome : PatchOutcome)
  | queued (outcome : QueueOutcome)
  | flushed (outcome : FlushOutcome)
  | cancelled (outcome : CancelOutcome)
  | failed (failure : SettingsError)
  deriving DecidableEq

def Outcome.committed : Outcome → Option Nat
  | .patched (.committed revision) | .flushed (.committed revision) => some revision
  | _ => none

/-- The outcomes that say nothing was written. -/
def Outcome.refused : Outcome → Bool
  | .started (.alreadyInitialized _) | .patched (.stale _) | .queued (.stale _) | .flushed .noPending
  | .flushed (.staleDiscarded _) | .cancelled .noPending | .failed _ => true
  | _ => false

variable [SettingsHost]

def Call.body (access : Access) : Call → Body Outcome
  | .initializeDefault => .started <$> Settings.initializeDefault access
  | .initializeWithLocale locale => .started <$> Settings.initializeWithLocale access locale
  | .initializeFirstRun locale selected => .started <$> Settings.initializeFirstRun access locale selected
  | .selectWorkspace expected selected => .patched <$> Settings.selectWorkspace access expected selected
  | .applyDurable expected patch => .patched <$> Settings.applyDurable access expected patch
  | .applyRestoreExport expected settings => .patched <$> Settings.applyRestoreExport access expected settings
  | .putBack expected preimage => .patched <$> Settings.putBack access expected preimage
  | .queuePresentation expected patch => .queued <$> Settings.queuePresentation access expected patch
  | .flushPendingPresentation => .flushed <$> Settings.flushPendingPresentation access
  | .cancelPendingPresentation expected => .cancelled <$> Settings.cancelPendingPresentation access expected

def Call.run (call : Call) (access : Access) (held : Held) : Outcome × Held :=
  match call.body access held with
  | .ok outcome later => (outcome, later)
  | .error failure later => (.failed failure, later)

structure System where
  file : Option SettingsDocument
  /-- Every writer made so far, by its address. -/
  writers : List WriterState
  registry : Option Nat
  /-- The writer of every handle made so far, until the handle is dropped. -/
  handles : List (Option Nat)

/-- The weak entry of the registry, while a handle keeps its writer alive. -/
def System.upgrade (system : System) : Option Nat := system.registry.filter fun writer => some writer ∈ system.handles

def System.held (system : System) (writer : Nat) : Held := ⟨system.file, system.writers.getD writer .default⟩

inductive Event where
  /-- An opening that did not set the document aside. -/
  | opened
  | dropped (handle : Nat)
  | called (handle : Nat) (call : Call) (access : Access)

def System.opened (system : System) : System :=
  match system.upgrade with
  | some writer => { system with handles := system.handles ++ [some writer] }
  | none =>
    { system with
      writers := system.writers ++ [.default]
      registry := some system.writers.length
      handles := system.handles ++ [some system.writers.length] }

def System.called (system : System) (writer : Nat) (call : Call) (access : Access) : System :=
  let later := (call.run access (system.held writer)).2
  { system with file := later.file, writers := system.writers.set writer later.writer }

def System.writerOf (system : System) (handle : Nat) : Option Nat := system.handles[handle]?.join

def System.take (system : System) : Event → System
  | .opened => system.opened
  | .dropped handle => { system with handles := system.handles.set handle none }
  | .called handle call access =>
    match system.writerOf handle with
    | some writer => system.called writer call access
    | none => system

/-- What the caller is told. -/
def System.outcome (system : System) : Event → Option Outcome
  | .called handle call access =>
    (system.writerOf handle).map fun writer => (call.run access (system.held writer)).1
  | _ => none

/-- What happens on a root: an opening may also find the document damaged and set it aside. -/
inductive Happening where
  | event (event : Event)
  | setAside

def System.undergo (system : System) : Happening → System
  | .event event => system.take event
  | .setAside => { system.opened with file := none }

def Call.queues : Call → Outcome → Option PresentationPatch
  | .queuePresentation _ patch, .queued (.queued _) => some patch
  | _, _ => none

def System.queues (system : System) : Happening → Option PresentationPatch
  | .event (.called handle call access) => (system.outcome (.called handle call access)).bind call.queues
  | _ => none

end MissionControl.Settings

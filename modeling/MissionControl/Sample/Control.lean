import Mathlib.Data.List.Basic

/-! The operation record of the sample workspace, kept outside the sample folder: at most
one reset or deletion, the outcomes of finished ones, and folders still to remove. -/

namespace MissionControl.Sample

inductive ResetPhase where
  | building | built | swappedAside
  deriving DecidableEq

inductive DeletePhase where
  | approved | renamedAside
  deriving DecidableEq

inductive SampleOutcome where
  | reset | resetRolledBack | deleted | notDeleted
  deriving DecidableEq

structure ResetOperation where
  operationId : String
  phase : ResetPhase
  startedAtMillis : Int
  builtManifestSha256 : Option String
  deriving DecidableEq

structure SampleDeleteBinding where
  operation : String
  workspaceIdentitySha256 : String
  effect : String
  seedId : String
  seedVersion : Nat
  inventorySha256 : String
  hasLedger : Bool
  hasVault : Bool
  hasGeneratedFiles : Bool
  settingsRevision : Nat
  deriving DecidableEq

structure PreparedSampleDelete where
  preparedIntentId : String
  payloadSha256 : String
  binding : SampleDeleteBinding
  preparedAtMillis : Int
  expiresAtMillis : Int
  deriving DecidableEq

inductive SampleOperation where
  | reset (operation : ResetOperation)
  | deletePrepared (prepared : PreparedSampleDelete)
  | deleting (prepared : PreparedSampleDelete) (idempotencyId receiptId : String) (phase : DeletePhase)
  deriving DecidableEq

structure SampleTerminal where
  operationId : String
  preparedIntentId : Option String
  receiptId : Option String
  outcome : SampleOutcome
  completedAtMillis : Int

inductive SiblingKind where
  | staging | retired | deleted
  deriving DecidableEq

inductive FolderName where
  | canonical
  | sibling (kind : SiblingKind) (token : String)
  deriving DecidableEq

structure SampleControl where
  active : Option SampleOperation
  finished : List SampleTerminal
  pendingCleanup : List FolderName

def SampleControl.default : SampleControl := ⟨none, [], []⟩

def finishedKept : Nat := 16

/-- Enough history to answer a repeated request; older outcomes are dropped. -/
def SampleControl.finish (control : SampleControl) (terminal : SampleTerminal) : SampleControl :=
  let finished := control.finished ++ [terminal]
  { control with active := none, finished := finished.drop (finished.length - finishedKept) }

def SampleControl.terminalOf (control : SampleControl) (operationId : String) : Option SampleTerminal :=
  control.finished.reverse.find? (·.operationId == operationId)

inductive SeedError where
  | foreignContents (what : String)
  | manifest (what : String)
  | linkInWorkspace | io

inductive SampleError where
  | seed (cause : SeedError)
  | control | sampleIsOpen | operationInProgress | invalidIdentifier | notRecorded

inductive ControlChange where
  | begin (operationId : String) (nowMillis : Int)
  | recordBuilt (operationId digest : String)
  | setResetPhase (operationId : String) (next : ResetPhase)
  | finish (terminal : SampleTerminal)
  | discard (preparedIntentId : String)
  | pend (name : FolderName)
  | swept (name : FolderName)

def SampleControl.changeReset (control : SampleControl) (operationId : String)
    (change : ResetOperation → ResetOperation) : SampleControl :=
  match control.active with
  | some (.reset operation) =>
    if operation.operationId = operationId then { control with active := some (.reset (change operation)) } else control
  | _ => control

def SampleControl.discard (control : SampleControl) (preparedIntentId : String) : SampleControl :=
  match control.active with
  | some (.deletePrepared prepared) =>
    if prepared.preparedIntentId = preparedIntentId then { control with active := none } else control
  | _ => control

def ControlChange.decide : ControlChange → SampleControl → Except SampleError SampleControl
  | .begin operationId nowMillis, control =>
    match control.active with
    | some _ => .error .operationInProgress
    | none => .ok { control with active := some (.reset ⟨operationId, .building, nowMillis, none⟩) }
  | .recordBuilt operationId digest, control =>
    .ok (control.changeReset operationId fun operation =>
      { operation with phase := .built, builtManifestSha256 := some digest })
  | .setResetPhase operationId next, control =>
    .ok (control.changeReset operationId fun operation => { operation with phase := next })
  | .finish terminal, control => .ok (control.finish terminal)
  | .discard preparedIntentId, control => .ok (control.discard preparedIntentId)
  | .pend name, control =>
    .ok (if name ∈ control.pendingCleanup then control
      else { control with pendingCleanup := control.pendingCleanup ++ [name] })
  | .swept name, control => .ok { control with pendingCleanup := control.pendingCleanup.filter (· ≠ name) }

end MissionControl.Sample

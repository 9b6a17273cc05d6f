import MissionControl.Restore.World

/-! The control record of a change of the Product Vault's folder: at most one change,
prepared and then executing, and the outcomes of finished ones. -/

namespace MissionControl.VaultRoot

structure BoundEvidence where
  evidenceId : String
  version : Nat
  fingerprintAlgorithm : String
  fingerprintDigest : String
  deriving DecidableEq

structure PreparedVaultRootChange where
  preparedIntentId : String
  payloadSha256 : String
  proposedRoot : String
  proposedFolderName : String
  previousRoot : Option String
  previousFolderName : Option String
  settingsRevision : Nat
  ledgerRevision : Nat
  boundEvidence : List BoundEvidence
  recoveryArchiveId : String
  recoveryVerifiedAtMillis : Int
  confirmationCode : String
  preparedAtMillis : Int
  expiresAtMillis : Int

inductive VaultRootChangePhase where
  | approved | committing

/-- An approved change. Only its phase moves while it executes. -/
structure ApprovedChange where
  prepared : PreparedVaultRootChange
  idempotencyId : String
  receiptId : String
  approvedAtMillis : Int

inductive AuthorityOperation where
  | prepared (prepared : PreparedVaultRootChange)
  | executing (approved : ApprovedChange) (phase : VaultRootChangePhase)

inductive VaultRootChangeOutcome where
  | changed | notChanged
  deriving DecidableEq

structure VaultRootChangeTerminal where
  idempotencyId : String
  preparedIntentId : String
  outcome : VaultRootChangeOutcome
  previousFolderName : Option String
  folderName : String
  recoveryArchiveId : String
  completedAtMillis : Int
  deriving DecidableEq

structure AuthorityControl where
  active : Option AuthorityOperation
  finished : List VaultRootChangeTerminal

def AuthorityControl.default : AuthorityControl := ⟨none, []⟩

def AuthorityControl.executing (control : AuthorityControl) : Option ApprovedChange :=
  match control.active with
  | some (.executing approved _) => some approved
  | _ => none

def AuthorityControl.finishedIds (control : AuthorityControl) : List String :=
  control.finished.map (·.idempotencyId)

inductive VaultRootChangeError where
  | anotherChangeActive | notLiveWorkspace | proposedRootUnusable | proposedRootUnchanged | recoveryBackupStale
  | changedButNotRecorded | notRecorded
  | unpinnedEvidence (count : Nat)
  | unresolvedEvidence (count : Nat)
  | notPrepared | payloadMismatch | confirmationMismatch | expired | stale | settings | ledger | control

structure ApproveVaultRootChange where
  preparedIntentId : String
  payloadSha256 : String
  typedCode : String
  idempotencyId : String
  receiptId : String

inductive Claimed where
  | now (prepared : PreparedVaultRootChange)
  | already (outcome : VaultRootChangeOutcome)

/-- One approval may proceed; a repeated request gets the outcome the first reached. -/
def claim (input : ApproveVaultRootChange) (nowMillis : Int) (control : AuthorityControl) :
    Except VaultRootChangeError (Claimed × AuthorityControl) :=
  match control.finished.find? (·.idempotencyId == input.idempotencyId) with
  | some finished => .ok (.already finished.outcome, control)
  | none =>
    match control.active with
    | some (.executing approved _) =>
      if approved.prepared.preparedIntentId = input.preparedIntentId then .error .anotherChangeActive
      else .error .notPrepared
    | some (.prepared prepared) =>
      if prepared.preparedIntentId = input.preparedIntentId then
        if prepared.payloadSha256 ≠ input.payloadSha256 then .error .payloadMismatch
        else if prepared.confirmationCode ≠ input.typedCode then .error .confirmationMismatch
        else if nowMillis > prepared.expiresAtMillis then .error .expired
        else .ok (.now prepared, { control with
          active := some (.executing ⟨prepared, input.idempotencyId, input.receiptId, nowMillis⟩ .approved) })
      else .error .notPrepared
    | none => .error .notPrepared

inductive ControlChange : Type → Type where
  | place (prepared : PreparedVaultRootChange) : ControlChange Unit
  | takeOut (preparedIntentId : String) : ControlChange Unit
  | reject (preparedIntentId : String) : ControlChange Unit
  | claim (input : ApproveVaultRootChange) (nowMillis : Int) : ControlChange Claimed
  | committing : ControlChange Unit
  | finish (terminal : VaultRootChangeTerminal) : ControlChange Unit
  | discard : ControlChange Unit

def ControlChange.decide {R : Type} :
    ControlChange R → AuthorityControl → Except VaultRootChangeError (R × AuthorityControl)
  | .place prepared, control =>
    match control.active with
    | some _ => .error .anotherChangeActive
    | none => .ok ((), { control with active := some (.prepared prepared) })
  | .takeOut preparedIntentId, control =>
    match control.active with
    | some (.prepared prepared) =>
      .ok ((), if prepared.preparedIntentId = preparedIntentId then { control with active := none } else control)
    | _ => .ok ((), control)
  | .reject preparedIntentId, control =>
    match control.active with
    | some (.prepared prepared) =>
      if prepared.preparedIntentId = preparedIntentId then .ok ((), { control with active := none })
      else .error .notPrepared
    | _ => .error .notPrepared
  | .claim input nowMillis, control => VaultRoot.claim input nowMillis control
  | .committing, control =>
    match control.active with
    | some (.executing approved _) => .ok ((), { control with active := some (.executing approved .committing) })
    | _ => .ok ((), control)
  | .finish terminal, control => .ok ((), ⟨none, control.finished ++ [terminal]⟩)
  | .discard, control => .ok ((), { control with active := none })

end MissionControl.VaultRoot

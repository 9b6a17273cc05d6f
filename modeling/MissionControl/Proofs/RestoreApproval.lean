import Mathlib.Data.List.Induction
import MissionControl.Restore.Callers
import MissionControl.Lib.Run

/-! A restore approval is used once, however the callers' actions interleave, as long
as no reconciliation discards what was approved after it looked. -/

namespace MissionControl.RestoreApproval
open Restore Run Program

inductive ControlEffect [Sha256] (control : RestoreControl) (decided : Decision) : RestoreControl → Prop where
  | same : ControlEffect control decided control
  | cleared : control.executing = none ∨ decided = ⟨_, .discard⟩ →
      ControlEffect control decided { control with active := none }
  | placed {prepared : PreparedRestore} : decided = ⟨_, .place prepared⟩ → control.executing = none →
      ControlEffect control decided { control with active := some (.prepared prepared) }
  | approved {approval : RestoreApproval} {prepared : PreparedRestore} : decided = ⟨_, .approve approval⟩ →
      control.active = some (.prepared prepared) →
      approval.idempotencyId ∉ control.finished.map (·.idempotencyId) →
      prepared.preparedIntentId = approval.preparedIntentId → approval.nowMillis ≤ prepared.expiresAtMillis →
      prepared.payloadSha256 = approval.acknowledgedPayloadSha256 →
      sha256Bytes (asBytes (previewPayload prepared)) = prepared.payloadSha256 →
      approval.typedDate = prepared.confirmationDate →
      ControlEffect control decided { control with
        active := some (.executing
          ⟨prepared, approval.idempotencyId, approval.receiptId, approval.nowMillis⟩ .approved) }
  | advanced {approved : ApprovedRestore} {phase target : RestorePhase} :
      control.active = some (.executing approved phase) → target ≠ .approved →
      ControlEffect control decided { control with active := some (.executing approved target) }
  | finished {approved : ApprovedRestore} {phase : RestorePhase} {terminal : RestoreTerminal}
      {pendingFor : Option String} {now : Int} : decided = ⟨_, .finish terminal.outcome pendingFor now⟩ →
      control.active = some (.executing approved phase) → terminal.idempotencyId = approved.idempotencyId →
      ControlEffect control decided { active := none, finished := control.finished ++ [terminal] }

section
variable [Sha256] {control : RestoreControl} {decided : Decision}

theorem approve_effect (approval : RestoreApproval) :
    ControlEffect control ⟨_, .approve approval⟩ (Decision.apply ⟨_, .approve approval⟩ control) := by
  simp only [Decision.apply, ControlChange.decide, approve]
  split
  next known decide =>
    split at decide
    · cases decide
      exact .same
    next unknown =>
      split at decide
      next prepared pending =>
        split at decide
        · cases decide
        next named =>
          split at decide
          · cases decide
          next digest =>
            split at decide
            · cases decide
            next dated =>
              cases decide
              simp only [not_or, not_not, not_lt] at named digest dated
              refine .approved rfl pending ?_ named.1 (by omega) digest.1 digest.2 dated
              simpa using unknown
      · cases decide
  · exact .same

theorem apply_effect : ControlEffect control decided (decided.apply control) := by
  obtain ⟨R, change⟩ := decided
  cases change with
  | approve approval => exact approve_effect approval
  | dropPrepared =>
    rcases control with ⟨_ | _ | _, finished⟩
    · exact .cleared (.inl rfl)
    · exact .cleared (.inl rfl)
    · exact .same
  | place prepared =>
    rcases control with ⟨_ | _ | _, finished⟩
    · exact .placed rfl rfl
    · exact .placed rfl rfl
    · exact .same
  | reject id =>
    rcases control with ⟨_ | ⟨prepared⟩ | _, finished⟩
    · exact .same
    · simp only [Decision.apply, ControlChange.decide]
      split
      next accepted =>
        split at accepted <;> cases accepted
        exact .cleared (.inl rfl)
      · exact .same
    · exact .same
  | advance source target onward =>
    rcases control with ⟨_ | _ | ⟨approved, phase⟩, finished⟩
    · exact .same
    · exact .same
    · simp only [Decision.apply, ControlChange.decide]
      split
      next accepted =>
        split at accepted <;> cases accepted
        exact .advanced rfl onward
      · exact .same
  | startRollingBack =>
    rcases control with ⟨_ | _ | ⟨approved, phase⟩, finished⟩
    · exact .same
    · exact .same
    · simp only [Decision.apply, ControlChange.decide]
      split
      next accepted =>
        split at accepted <;> cases accepted
        exact .advanced rfl (by decide)
      · exact .same
  | finish outcome pendingFor now =>
    rcases control with ⟨_ | _ | ⟨approved, phase⟩, finished⟩
    · exact .same
    · exact .same
    · exact .finished rfl rfl rfl
  | discard => exact .cleared (.inr rfl)

end

structure Sound (control : RestoreControl) : Prop where
  distinct : (control.finished.map (·.idempotencyId)).Nodup
  unfinished : ∀ {approved phase}, control.active = some (.executing approved phase) →
    approved.idempotencyId ∉ control.finished.map (·.idempotencyId)

def placedIds : Decision → List String
  | ⟨_, .place prepared⟩ => [prepared.preparedIntentId]
  | _ => []

def Placed (seen : List Decision) : Option RestoreOperation → Prop
  | some (.prepared prepared) => prepared.preparedIntentId ∈ seen.flatMap placedIds
  | some (.executing approved _) => approved.prepared.preparedIntentId ∈ seen.flatMap placedIds
  | none => True

def Pending (id : String) (control : RestoreControl) : Prop :=
  ∃ prepared, control.active = some (.prepared prepared) ∧ prepared.preparedIntentId = id

def Unclaimed (id : String) (control : RestoreControl) : Prop :=
  ∃ approved, control.active = some (.executing approved .approved) ∧ approved.prepared.preparedIntentId = id

/-- A reconciliation finds nothing executing when it discards, and no approval comes
at the very instant its preview expires. -/
def Orderly (control : RestoreControl) : Decision → Prop
  | ⟨_, .discard⟩ => control.executing = none
  | ⟨_, .approve approval⟩ => ∀ prepared, control.active = some (.prepared prepared) →
      approval.nowMillis ≠ prepared.expiresAtMillis
  | _ => True

instance (control : RestoreControl) : (decided : Decision) → Decidable (Orderly control decided)
  | ⟨_, .discard⟩ => inferInstanceAs (Decidable (control.executing = none))
  | ⟨_, .approve approval⟩ =>
    match control with
    | ⟨some (.prepared prepared), _⟩ =>
      decidable_of_iff (approval.nowMillis ≠ prepared.expiresAtMillis)
        ⟨fun timely _ same => by cases same; exact timely, fun timely => timely prepared rfl⟩
    | ⟨some (.executing ..), _⟩ | ⟨none, _⟩ => isTrue fun _ same => nomatch same
  | ⟨_, .dropPrepared⟩ | ⟨_, .place _⟩ | ⟨_, .reject _⟩ | ⟨_, .advance ..⟩ | ⟨_, .startRollingBack⟩
  | ⟨_, .finish ..⟩ => isTrue trivial

section
variable [Sha256] {control after : RestoreControl} {decided : Decision} {seen : List Decision} {id : String}

theorem Sound.effect (sound : Sound control) (effect : ControlEffect control decided after) : Sound after := by
  cases effect with
  | same => exact sound
  | cleared => exact ⟨sound.distinct, nofun⟩
  | placed => exact ⟨sound.distinct, nofun⟩
  | approved _ _ unknown =>
    refine ⟨sound.distinct, fun same => ?_⟩
    cases same
    exact unknown
  | advanced active _ =>
    refine ⟨sound.distinct, fun same => ?_⟩
    cases same
    exact sound.unfinished active
  | finished _ active named =>
    refine ⟨?_, nofun⟩
    rw [List.map_append, List.map_singleton]
    refine List.nodup_append.mpr ⟨sound.distinct, by simp, ?_⟩
    rintro earlier member last listed rfl
    rw [List.mem_singleton.mp listed, named] at member
    exact sound.unfinished active member

theorem Placed.effect (placed : Placed seen control.active) (effect : ControlEffect control decided after) :
    Placed (seen ++ [decided]) after.active := by
  have kept : Placed (seen ++ [decided]) control.active := by
    rcases control with ⟨_ | _ | _, _⟩
    · trivial
    · exact mem_drawn placed
    · exact mem_drawn placed
  cases effect with
  | same => exact kept
  | cleared => trivial
  | placed names =>
    subst names
    exact drawn_last (List.mem_singleton_self _)
  | approved _ active =>
    rw [active] at kept
    exact kept
  | advanced active =>
    rw [active] at kept
    exact kept
  | finished => trivial

theorem not_pending_effect (effect : ControlEffect control decided after) (placed : id ∈ seen.flatMap placedIds)
    (fresh : Distinct placedIds (seen ++ [decided])) (gone : ¬ Pending id control) : ¬ Pending id after := by
  rintro ⟨prepared, active, rfl⟩
  cases effect with
  | same => exact gone ⟨prepared, active, rfl⟩
  | cleared => cases active
  | placed names =>
    subst names
    cases active
    exact fresh.fresh (List.mem_singleton_self _) placed
  | approved => cases active
  | advanced => cases active
  | finished => cases active

theorem not_unclaimed_effect (effect : ControlEffect control decided after) (gone : ¬ Pending id control)
    (claimed : ¬ Unclaimed id control) : ¬ Unclaimed id after := by
  rintro ⟨approved, active, rfl⟩
  cases effect with
  | same => exact claimed ⟨approved, active, rfl⟩
  | cleared => cases active
  | placed => cases active
  | approved _ pending =>
    cases active
    exact gone ⟨_, pending, rfl⟩
  | advanced _ onward =>
    cases active
    exact onward rfl
  | finished => cases active

theorem executing_effect {approved : ApprovedRestore} (effect : ControlEffect control decided after)
    (orderly : Orderly control decided) (executing : control.executing = some approved) :
    (after.executing = some approved ∧ after.finished = control.finished) ∨
    ∃ terminal pendingFor now, decided = ⟨_, .finish terminal.outcome pendingFor now⟩ ∧ after.active = none ∧
      after.finished = control.finished ++ [terminal] ∧ terminal.idempotencyId = approved.idempotencyId := by
  cases effect with
  | same => exact .inl ⟨executing, rfl⟩
  | cleared idle =>
    rcases idle with idle | rfl
    · rw [idle] at executing
      cases executing
    · rw [show control.executing = none from orderly] at executing
      cases executing
  | placed _ idle =>
    rw [idle] at executing
    cases executing
  | approved _ active =>
    simp only [RestoreControl.executing, active, reduceCtorEq] at executing
  | advanced active =>
    simp only [RestoreControl.executing, active, Option.some.injEq] at executing
    subst executing
    exact .inl ⟨rfl, rfl⟩
  | finished names active named =>
    simp only [RestoreControl.executing, active, Option.some.injEq] at executing
    subst executing
    exact .inr ⟨_, _, _, names, rfl, rfl, named⟩

end

section
variable [Sha256] [RestoreHost] {files : Files} {settings : SettingsDocument} {events : List Event} {event : Event}

theorem controlAfter_effect : controlAfter files settings (events ++ [event]) = controlAfter files settings events ∨
    ∃ decided, decision (reached files settings events) event = some decided ∧
      decisions files settings (events ++ [event]) = decisions files settings events ++ [decided] ∧
      ControlEffect (controlAfter files settings events) decided (controlAfter files settings (events ++ [event])) := by
  rw [controlAfter_snoc, decisions_snoc]
  cases decision (reached files settings events) event with
  | none => exact .inl rfl
  | some decided => exact .inr ⟨decided, rfl, rfl, apply_effect⟩

theorem sound_of_run (events : List Event) : Sound (controlAfter files settings events) := by
  induction events using List.reverseRecOn with
  | nil => exact ⟨List.nodup_nil, nofun⟩
  | append_singleton events event sound =>
    rcases @controlAfter_effect _ _ files settings events event with same | ⟨decided, _, _, effect⟩
    · rwa [same]
    · exact sound.effect effect

theorem placed_of_run (events : List Event) :
    Placed (decisions files settings events) (controlAfter files settings events).active := by
  induction events using List.reverseRecOn with
  | nil => trivial
  | append_singleton events event placed =>
    rcases @controlAfter_effect _ _ files settings events event with same | ⟨decided, _, seen, effect⟩
    · rw [same, decisions_snoc]
      revert placed
      rcases (controlAfter files settings events).active with _ | _ | _
      · exact fun _ => trivial
      all_goals
        intro placed
        rw [Placed, List.flatMap_append]
        exact List.mem_append_left _ placed
    · rw [seen]
      exact placed.effect effect

def IdsNeverReused (files : Files) (settings : SettingsDocument) (events : List Event) : Prop :=
  Distinct placedIds (decisions files settings events)

theorem IdsNeverReused.earlier {later : List Event} (fresh : IdsNeverReused files settings (events ++ later)) :
    IdsNeverReused files settings events := by
  induction later using List.reverseRecOn with
  | nil => simpa using fresh
  | append_singleton later event rest =>
    refine rest ?_
    rw [← List.append_assoc, IdsNeverReused, decisions_snoc] at fresh
    exact fresh.left

theorem stays_claimed {id : String} (later : List Event) (fresh : IdsNeverReused files settings (events ++ later))
    (placed : id ∈ (decisions files settings events).flatMap placedIds)
    (gone : ¬ Pending id (controlAfter files settings events)) :
    id ∈ (decisions files settings (events ++ later)).flatMap placedIds ∧
      ¬ Pending id (controlAfter files settings (events ++ later)) ∧
      (¬ Unclaimed id (controlAfter files settings events) →
        ¬ Unclaimed id (controlAfter files settings (events ++ later))) := by
  induction later using List.reverseRecOn with
  | nil =>
    rw [List.append_nil]
    exact ⟨placed, gone, fun free => free⟩
  | append_singleton later event rest =>
    rw [← List.append_assoc] at fresh ⊢
    obtain ⟨placed, gone, unclaimed⟩ := rest fresh.earlier
    rcases @controlAfter_effect _ _ files settings (events ++ later) event with same | ⟨decided, _, seen, effect⟩
    · rw [same, decisions_snoc, List.flatMap_append]
      exact ⟨List.mem_append_left _ placed, gone, unclaimed⟩
    · refine ⟨?_, ?_, fun free => not_unclaimed_effect effect gone (unclaimed free)⟩
      · rw [seen]
        exact mem_drawn placed
      · rw [IdsNeverReused, seen] at fresh
        exact not_pending_effect effect placed fresh gone

def EachOrderly (files : Files) (settings : SettingsDocument) (events : List Event) : Prop :=
  ∀ place (before : place < events.length),
    ∀ decided ∈ decision (reached files settings (events.take place)) events[place],
      Orderly (controlAfter files settings (events.take place)) decided

instance : Decidable (EachOrderly files settings events) := inferInstanceAs (Decidable (∀ _ _, _))

theorem EachOrderly.at {earlier later : List Event} (orderly : EachOrderly files settings events)
    (split : events = earlier ++ event :: later) {decided : Decision}
    (decides : decision (reached files settings earlier) event = some decided) :
    Orderly (controlAfter files settings earlier) decided := by
  subst split
  have here := orderly earlier.length (by simp) decided
  rw [List.take_left, List.getElem_append_right le_rfl] at here
  simpa using here (by simpa using decides)

def ReachesExecuting (files : Files) (settings : SettingsDocument) (earlier : List Event) (event : Event)
    (approved : ApprovedRestore) : Prop :=
  (controlAfter files settings earlier).executing = none ∧
    (controlAfter files settings (earlier ++ [event])).executing = some approved

def Claims (files : Files) (settings : SettingsDocument) (earlier : List Event) (event : Event)
    (approved : ApprovedRestore) : Prop :=
  (controlAfter files settings earlier).active = some (.executing approved .approved) ∧
    (controlAfter files settings (earlier ++ [event])).active = some (.executing approved .staging)

def RightlyApproved (approval : RestoreApproval) (prepared : PreparedRestore) : Prop :=
  prepared.preparedIntentId = approval.preparedIntentId ∧
  prepared.payloadSha256 = approval.acknowledgedPayloadSha256 ∧
  sha256Bytes (asBytes (previewPayload prepared)) = prepared.payloadSha256 ∧
  approval.typedDate = prepared.confirmationDate ∧ approval.nowMillis < prepared.expiresAtMillis

structure UsedOnce (files : Files) (settings : SettingsDocument) (events : List Event) : Prop where
  executing_kept : ∀ {earlier later event}, events = earlier ++ event :: later →
    ∀ {approved}, (controlAfter files settings earlier).executing = some approved →
      ((controlAfter files settings (earlier ++ [event])).executing = some approved ∧
        (controlAfter files settings (earlier ++ [event])).finished = (controlAfter files settings earlier).finished) ∨
      ∃ terminal pendingFor now,
        decision (reached files settings earlier) event = some ⟨_, .finish terminal.outcome pendingFor now⟩ ∧
        (controlAfter files settings (earlier ++ [event])).active = none ∧
        (controlAfter files settings (earlier ++ [event])).finished =
          (controlAfter files settings earlier).finished ++ [terminal] ∧
        terminal.idempotencyId = approved.idempotencyId
  finished_distinct : ((controlAfter files settings events).finished.map (·.idempotencyId)).Nodup
  claimed_once : ∀ {earlier following first later event other} {approved : ApprovedRestore},
    events = earlier ++ event :: following → events = first ++ other :: later →
    Claims files settings earlier event approved → Claims files settings first other approved → earlier = first
  executing_once : ∀ {earlier following first later event other} {approved again : ApprovedRestore},
    events = earlier ++ event :: following → events = first ++ other :: later →
    ReachesExecuting files settings earlier event approved → ReachesExecuting files settings first other again →
    approved.prepared.preparedIntentId = again.prepared.preparedIntentId → earlier = first
  executing_rightly : ∀ {earlier later event approved}, events = earlier ++ event :: later →
    ReachesExecuting files settings earlier event approved →
    ∃ approval, decision (reached files settings earlier) event = some ⟨_, .approve approval⟩ ∧
      (controlAfter files settings earlier).active = some (.prepared approved.prepared) ∧
      RightlyApproved approval approved.prepared
  replayed : ∀ {terminal approval}, terminal ∈ (controlAfter files settings events).finished →
    approval.idempotencyId = terminal.idempotencyId → ∀ works,
    (approveRestore approval).attempt Op.effect [works] (reached files settings events).world =
      ((reached files settings events).world, some (if works then .ok (some terminal.outcome) else .error .control))

variable {approved : ApprovedRestore}

theorem reaching_effect {earlier : List Event} (reaches : ReachesExecuting files settings earlier event approved) :
    ∃ approval, decision (reached files settings earlier) event = some ⟨_, .approve approval⟩ ∧
      (controlAfter files settings earlier).active = some (.prepared approved.prepared) ∧
      (controlAfter files settings (earlier ++ [event])).active = some (.executing approved .approved) ∧
      approved.prepared.preparedIntentId = approval.preparedIntentId ∧
      approved.prepared.payloadSha256 = approval.acknowledgedPayloadSha256 ∧
      sha256Bytes (asBytes (previewPayload approved.prepared)) = approved.prepared.payloadSha256 ∧
      approval.typedDate = approved.prepared.confirmationDate ∧
      approval.nowMillis ≤ approved.prepared.expiresAtMillis := by
  obtain ⟨idle, executing⟩ := reaches
  rcases @controlAfter_effect _ _ files settings earlier event with same | ⟨decided, decides, _, effect⟩
  · rw [same, idle] at executing
    cases executing
  · generalize controlAfter files settings (earlier ++ [event]) = after at effect executing
    cases effect with
    | same =>
      rw [idle] at executing
      cases executing
    | cleared => cases executing
    | placed => cases executing
    | approved names pending _ named expires digest remade dated =>
      subst names
      cases executing
      exact ⟨_, decides, pending, rfl, named, digest, remade, dated, expires⟩
    | advanced active =>
      simp only [RestoreControl.executing, active, reduceCtorEq] at idle
    | finished => cases executing

theorem approved_gone {earlier : List Event} (reaches : ReachesExecuting files settings earlier event approved) :
    approved.prepared.preparedIntentId ∈ (decisions files settings (earlier ++ [event])).flatMap placedIds ∧
      ¬ Pending approved.prepared.preparedIntentId (controlAfter files settings (earlier ++ [event])) := by
  obtain ⟨_, _, _, active, _⟩ := reaching_effect reaches
  have placed := @placed_of_run _ _ files settings (earlier ++ [event])
  rw [active] at placed
  refine ⟨placed, ?_⟩
  rintro ⟨_, pending, _⟩
  rw [active] at pending
  cases pending

theorem not_reached_again {earlier middle : List Event} {other : Event} {approved again : ApprovedRestore}
    (fresh : IdsNeverReused files settings (earlier ++ event :: middle))
    (reaches : ReachesExecuting files settings earlier event approved)
    (same : approved.prepared.preparedIntentId = again.prepared.preparedIntentId) :
    ¬ ReachesExecuting files settings (earlier ++ event :: middle) other again := by
  intro reachesAgain
  rw [← List.singleton_append, ← List.append_assoc] at fresh reachesAgain
  obtain ⟨placed, gone⟩ := approved_gone reaches
  obtain ⟨_, _, pending, _⟩ := reaching_effect reachesAgain
  exact (stays_claimed middle fresh placed gone).2.1 ⟨_, pending, same.symm⟩

theorem not_claimed_again {earlier middle : List Event} {other : Event}
    (fresh : IdsNeverReused files settings (earlier ++ event :: middle))
    (claims : Claims files settings earlier event approved) :
    ¬ Claims files settings (earlier ++ event :: middle) other approved := by
  intro claimsAgain
  rw [← List.singleton_append, ← List.append_assoc] at fresh claimsAgain
  have placed := @placed_of_run _ _ files settings (earlier ++ [event])
  rw [claims.2] at placed
  have gone : ¬ Pending approved.prepared.preparedIntentId (controlAfter files settings (earlier ++ [event])) := by
    rintro ⟨_, pending, _⟩
    rw [claims.2] at pending
    cases pending
  have claimed : ¬ Unclaimed approved.prepared.preparedIntentId (controlAfter files settings (earlier ++ [event])) := by
    rintro ⟨_, free, _⟩
    rw [claims.2] at free
    cases free
  exact (stays_claimed middle fresh placed gone).2.2 claimed ⟨approved, claimsAgain.1, rfl⟩

omit [RestoreHost] in
theorem replays_finished {control : RestoreControl} (sound : Sound control) {terminal : RestoreTerminal}
    {approval : RestoreApproval} (finished : terminal ∈ control.finished)
    (same : approval.idempotencyId = terminal.idempotencyId) :
    approve control approval = .ok (some terminal.outcome, control) := by
  unfold approve
  split
  next found known =>
    have named : found.idempotencyId = approval.idempotencyId := by simpa using List.find?_some known
    have member := List.mem_of_find?_eq_some known
    rw [List.inj_on_of_nodup_map sound.distinct member finished (named.trans same)]
  next unknown => exact absurd same.symm (by simpa using List.find?_eq_none.mp unknown terminal finished)

end

/-! A workspace whose Ledger is to be replaced by an archived one. -/

namespace Replacement

def settings : SettingsDocument where
  revision := 3
  display := ⟨"zh-TW", "Asia/Taipei", .system⟩
  operational := ⟨none, none, none, some .live, 30, false, .info⟩

def settingsText : String :=
  "\x7b\"format_version\":3,\"revision\":3,\"display\":\x7b\"locale\":\"zh-TW\",\"timezone\":\"Asia/Taipei\"," ++
  "\"theme\":\"system\"\x7d,\"operational\":\x7b\"authority_root\":null,\"backup_destination\":null," ++
  "\"live_vault_root\":null,\"selected_workspace\":\"live\",\"retention_days\":30," ++
  "\"external_ai_enabled\":false,\"log_level\":\"info\"\x7d,\"presentation\":\x7b\"last_route\":null," ++
  "\"sidebar_width\":null,\"window\":null,\"table_preferences\":[]\x7d\x7d"

def archivedSettings : BackupSettings := ⟨"en-GB", "Europe/London", .dark, 60, false, .warn⟩

def archivedSettingsText : String :=
  "\x7b\"format\":\"pmc-backup-settings/v1\",\"locale\":\"en-GB\",\"timezone\":\"Europe/London\"," ++
  "\"theme\":\"dark\",\"retention_days\":60,\"external_ai_enabled\":false,\"log_level\":\"warn\"\x7d"

def files : Files
  | .live .ledger => asBytes "previous ledger."
  | .archive .ledger => asBytes "archived ledger"
  | .archive .settings => asBytes archivedSettingsText
  | .archive .inventory => asBytes "product\t1\n"
  | _ => none

def settingsDigest : WorkManagementPayloadDigest :=
  ⟨"b2afdab3430e58f5889c1f90733dfcf941745b63ea1cad3726d5e795ca812c48", by decide⟩

def inventoryDigest : WorkManagementPayloadDigest :=
  ⟨"c514aff6d8c90bc8b18fdd3449a89fe780e14cfe85cce7165480886e2317f154", by decide⟩

def snapshotDigest : WorkManagementPayloadDigest :=
  ⟨"d5776184380890b810b443a61caf980c31ecd9f832ec16d5a20861c0c9c4e9cb", by decide⟩

def previousDigest : WorkManagementPayloadDigest :=
  ⟨"e32a1efa62b3862139912c0a93494464a8a0144cf69e2b0b8e56c11c03d1c5e0", by decide⟩

def payloadDigest : WorkManagementPayloadDigest :=
  ⟨"8d5f2d71cdfd4a8c1663e6533824daec88923bbf64e616c46081fc0f1f702e35", by decide⟩

/-- SHA-256 on the texts here, told apart by their lengths. -/
scoped instance : Sha256 where
  finalize bytes := match bytes.length with
    | 10 => inventoryDigest
    | 15 => snapshotDigest
    | 161 => settingsDigest
    | 635 => payloadDigest
    | _ => previousDigest

def previousBinding : LedgerBinding :=
  ⟨48, 7, "c3730951b71d77b4a4076884a6938a9d237dda83df771c6f094b0128460e802e",
    "48065fd9b10387e03d2343b5e93a41ccd17ed07fa6583edbfbb571e3e684e1ca"⟩

def archivedBinding : LedgerBinding := ⟨48, 5, inventoryDigest.asStr, snapshotDigest.asStr⟩

scoped instance : RestoreHost where
  classify bytes :=
    if bytes = asBytes "previous ledger." then .current previousBinding
    else if bytes = asBytes "archived ledger" then .current archivedBinding
    else .notALedger
  settingsBytes document := if document = settings then asBytes settingsText else []
  settingsOf bytes := if bytes = asBytes settingsText then some settings else none
  backupSettingsOf bytes := if bytes = asBytes archivedSettingsText then some archivedSettings else none
  markOutOfSync _ bytes := bytes
  interruptedLog _ := none

def checked : CheckedArchive where
  archiveId := "archive-1"
  containerSha256 := "a42d519714d616e9411dbceec4b52808bd6b1ee53e6f6497a281d655357d8b71"
  createdAt := "2026-09-22T00:00:00Z"
  schemaVersion := 48
  ledgerRevision := 5
  recordCount := 1
  snapshotSha256 := snapshotDigest.asStr
  settingsMemberSha256 := settingsDigest.asStr
  inventoryMemberSha256 := inventoryDigest.asStr

def preparation : Preparation := ⟨"intent-1", 0, some "2026-09-22", 600000⟩

def approval : RestoreApproval :=
  ⟨"intent-1", payloadDigest.asStr, "2026-09-22", "restore-1", "receipt-1", 1000⟩

def prepared : List Event :=
  .call (.prepareRestore checked settings (.ok (previousBinding, "archive-2")) preparation) ::
    List.replicate 4 (.act 0 true)

def claimed : List Event :=
  prepared ++ [.call (.approveRestore approval), .act 1 true, .call (.executeRestore 2000), .act 2 true]

def raced : List Event :=
  prepared ++ [.call (.reconcileRestore 500), .act 1 true, .call (.approveRestore approval), .act 2 true]

def discarding : List Event := raced ++ [.act 1 true]

end Replacement

open Replacement

end MissionControl.RestoreApproval

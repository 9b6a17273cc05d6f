import MissionControl.Lib.Run
import MissionControl.VaultRoot.Service

/-! Whether a change of the Vault folder reports the truth, over runs of calls that may
fail or stop at any action, each stop followed by a start. -/

namespace MissionControl.VaultRoot
open Run Program
open Restore (SettingsDocument)

/-- Between the claim of an approval and its write of the settings, everything its
preview bound was seen as the preview has it. -/
structure Reproved (sightings : List Sighting) (idempotencyId : String) (prepared : PreparedVaultRootChange) : Prop where
  seen : ∃ later checks earlier entries, sightings = later ++ .wrote prepared.proposedRoot prepared.settingsRevision ::
      (checks ++ .claimed idempotencyId prepared :: earlier) ∧
    .settingsRevision prepared.settingsRevision ∈ checks ∧ .ledgerRevision prepared.ledgerRevision ∈ checks ∧
    .entries entries ∈ checks ∧ entries.map bind = prepared.boundEvidence ∧
    ∀ entry ∈ entries, entry.fingerprint.isSome = true ∧ .resolved prepared.proposedRoot entry ∈ checks

structure Told (sightings : List Sighting) (terminal : VaultRootChangeTerminal) (prepared : PreparedVaultRootChange)
    (liveVaultRoot : Option String) : Prop where
  claimed : .claimed terminal.idempotencyId prepared ∈ sightings
  named : terminal.preparedIntentId = prepared.preparedIntentId
  recorded : .recorded terminal liveVaultRoot ∈ sightings
  truthful : terminal.outcome = .changed ↔ liveVaultRoot = some prepared.proposedRoot
  reproved : terminal.outcome = .changed → Reproved sightings terminal.idempotencyId prepared

structure Truthful (world : World) : Prop where
  told : ∀ terminal ∈ world.control.finished, ∃ prepared liveVaultRoot, Told world.sightings terminal prepared liveVaultRoot
  once : world.control.finishedIds.Nodup
  kept : ∀ idempotencyId prepared, .claimed idempotencyId prepared ∈ world.sightings →
    (∃ approved, world.control.executing = some approved ∧ approved.idempotencyId = idempotencyId ∧
      approved.prepared = prepared) ∨ idempotencyId ∈ world.control.finishedIds

/-- What the settings are known to say while a change is under way. -/
def Standing (world : World) : AuthorityOperation → Prop
  | .prepared prepared => world.liveVaultRoot ≠ some prepared.proposedRoot
  | .executing approved _ =>
    approved.idempotencyId ∉ world.control.finishedIds ∧
      .claimed approved.idempotencyId approved.prepared ∈ world.sightings ∧
      (world.liveVaultRoot = some approved.prepared.proposedRoot →
        Reproved world.sightings approved.idempotencyId approved.prepared)

structure Sound (world : World) : Prop where
  truthful : Truthful world
  standing : ∀ operation, world.control.active = some operation → Standing world operation

section
variable {sightings more : List Sighting} {idempotencyId : String} {prepared : PreparedVaultRootChange}
  {terminal : VaultRootChangeTerminal} {liveVaultRoot : Option String} {world : World}

theorem Reproved.grow (reproved : Reproved sightings idempotencyId prepared) (more : List Sighting) :
    Reproved (more ++ sightings) idempotencyId prepared := by
  obtain ⟨later, checks, earlier, entries, rfl, rest⟩ := reproved.seen
  exact ⟨more ++ later, checks, earlier, entries, by simp, rest⟩

theorem Told.grow (told : Told sightings terminal prepared liveVaultRoot) (more : List Sighting) :
    Told (more ++ sightings) terminal prepared liveVaultRoot where
  claimed := List.mem_append_right _ told.claimed
  named := told.named
  recorded := List.mem_append_right _ told.recorded
  truthful := told.truthful
  reproved changed := (told.reproved changed).grow more

def Sighting.isReading : Sighting → Bool
  | .claimed .. | .recorded .. => false
  | _ => true

def World.seeAll (world : World) (more : List Sighting) : World := { world with sightings := more ++ world.sightings }

theorem Sound.seeAll (sound : Sound world) (readings : ∀ sighting ∈ more, sighting.isReading = true) :
    Sound (world.seeAll more) where
  truthful :=
    { told := by
        intro terminal finished
        obtain ⟨prepared, liveVaultRoot, told⟩ := sound.truthful.told terminal finished
        exact ⟨prepared, liveVaultRoot, told.grow more⟩
      once := sound.truthful.once
      kept := by
        intro idempotencyId prepared member
        rcases List.mem_append.mp member with member | member
        · cases readings _ member
        · exact sound.truthful.kept _ _ member }
  standing := by
    intro operation active
    have standing := sound.standing operation active
    cases operation with
    | prepared prepared => exact standing
    | executing approved phase =>
      obtain ⟨unfinished, claimed, supported⟩ := standing
      exact ⟨unfinished, List.mem_append_right _ claimed, fun named => (supported named).grow more⟩

end

section
variable {world : World} {prepared : PreparedVaultRootChange} {approved : ApprovedChange} {phase : VaultRootChangePhase}
  {idempotencyId : String} {checks more : List Sighting}

/-- A change is approved and under way, and nothing is written yet. -/
structure Claim (idempotencyId : String) (prepared : PreparedVaultRootChange) (checks : List Sighting) (world : World) :
    Prop where
  sound : Sound world
  executing : ∃ approved, world.control.executing = some approved ∧ approved.idempotencyId = idempotencyId ∧
    approved.prepared = prepared
  unmoved : world.liveVaultRoot ≠ some prepared.proposedRoot
  seen : ∃ earlier, world.sightings = checks ++ .claimed idempotencyId prepared :: earlier

theorem Claim.seeAll (claim : Claim idempotencyId prepared checks world)
    (readings : ∀ sighting ∈ more, sighting.isReading = true) :
    Claim idempotencyId prepared (more ++ checks) (world.seeAll more) where
  sound := claim.sound.seeAll readings
  executing := claim.executing
  unmoved := claim.unmoved
  seen := by
    obtain ⟨earlier, same⟩ := claim.seen
    exact ⟨earlier, by simp [World.seeAll, same]⟩

theorem executing_active (executing : world.control.executing = some approved) :
    ∃ phase, world.control.active = some (.executing approved phase) := by
  unfold AuthorityControl.executing at executing
  split at executing
  next found phase active =>
    cases executing
    exact ⟨phase, active⟩
  next => cases executing

theorem executing_of_prepared (active : world.control.active = some (.prepared prepared)) :
    world.control.executing = none := by
  unfold AuthorityControl.executing
  rw [active]

theorem Truthful.finished_of_idle (truthful : Truthful world) (idle : world.control.executing = none)
    (claimed : .claimed idempotencyId prepared ∈ world.sightings) : idempotencyId ∈ world.control.finishedIds := by
  rcases truthful.kept _ _ claimed with ⟨approved, executing, _⟩ | finished
  · rw [idle] at executing
    cases executing
  · exact finished

theorem Sound.clear (sound : Sound world) (idle : world.control.executing = none) :
    Sound { world with control := { world.control with active := none } } where
  truthful :=
    { told := sound.truthful.told
      once := sound.truthful.once
      kept := fun _ _ claimed => .inr (sound.truthful.finished_of_idle idle claimed) }
  standing := fun _ active => nomatch active

theorem Sound.place (sound : Sound world) (idle : world.control.active = none)
    (other : world.liveVaultRoot ≠ some prepared.proposedRoot) :
    Sound { world with control := { world.control with active := some (.prepared prepared) } } where
  truthful :=
    { told := sound.truthful.told
      once := sound.truthful.once
      kept := by
        intro idempotencyId prepared claimed
        refine .inr (sound.truthful.finished_of_idle ?_ claimed)
        simp [AuthorityControl.executing, idle] }
  standing := by
    intro operation active
    cases active
    exact other

theorem Sound.claim (sound : Sound world) (active : world.control.active = some (.prepared approved.prepared))
    (fresh : approved.idempotencyId ∉ world.control.finishedIds) :
    Claim approved.idempotencyId approved.prepared []
      { world with
        control := { world.control with active := some (.executing approved .approved) }
        sightings := .claimed approved.idempotencyId approved.prepared :: world.sightings } := by
  have unmoved : world.liveVaultRoot ≠ some approved.prepared.proposedRoot := sound.standing _ active
  refine ⟨⟨⟨?_, sound.truthful.once, ?_⟩, ?_⟩, ⟨approved, rfl, rfl, rfl⟩, unmoved, world.sightings, rfl⟩
  · intro terminal finished
    obtain ⟨prepared, liveVaultRoot, told⟩ := sound.truthful.told terminal finished
    exact ⟨prepared, liveVaultRoot, told.grow [_]⟩
  · intro idempotencyId prepared member
    rcases List.mem_cons.mp member with same | member
    · cases same
      exact .inl ⟨approved, rfl, rfl, rfl⟩
    · exact .inr (sound.truthful.finished_of_idle (executing_of_prepared active) member)
  · intro operation same
    cases same
    exact ⟨fresh, List.mem_cons_self, fun named => absurd named unmoved⟩

theorem Sound.committing (sound : Sound world) (active : world.control.active = some (.executing approved phase)) :
    Sound { world with control := { world.control with active := some (.executing approved .committing) } } where
  truthful :=
    { told := sound.truthful.told
      once := sound.truthful.once
      kept := by
        intro idempotencyId prepared claimed
        rcases sound.truthful.kept _ _ claimed with ⟨found, executing, named⟩ | finished
        · simp only [AuthorityControl.executing, active, Option.some.injEq] at executing
          subst executing
          exact .inl ⟨approved, rfl, named⟩
        · exact .inr finished }
  standing := by
    intro operation same
    cases same
    exact sound.standing _ active

theorem Sound.finish (sound : Sound world) (executing : world.control.executing = some approved)
    (outcome : VaultRootChangeOutcome) (nowMillis : Int)
    (truthful : outcome = .changed ↔ world.liveVaultRoot = some approved.prepared.proposedRoot) :
    Sound { world with
      control := ⟨none, world.control.finished ++ [terminalOf approved.prepared approved.idempotencyId outcome nowMillis]⟩
      sightings := .recorded (terminalOf approved.prepared approved.idempotencyId outcome nowMillis) world.liveVaultRoot ::
        world.sightings } := by
  obtain ⟨phase, active⟩ := executing_active executing
  obtain ⟨unfinished, claimed, supported⟩ := sound.standing _ active
  refine ⟨⟨?_, ?_, ?_⟩, fun _ active => nomatch active⟩
  · intro terminal finished
    rcases List.mem_append.mp finished with finished | last
    · obtain ⟨prepared, liveVaultRoot, told⟩ := sound.truthful.told terminal finished
      exact ⟨prepared, liveVaultRoot, told.grow [_]⟩
    · cases List.mem_singleton.mp last
      refine ⟨approved.prepared, world.liveVaultRoot, List.mem_cons_of_mem _ claimed, rfl, List.mem_cons_self, truthful, ?_⟩
      exact fun changed => (supported (truthful.mp changed)).grow [_]
  · rw [AuthorityControl.finishedIds, List.map_append, List.map_singleton]
    refine List.nodup_append.mpr ⟨sound.truthful.once, by simp, ?_⟩
    intro earlier member last listed same
    rw [List.mem_singleton.mp listed] at same
    subst same
    exact unfinished member
  · intro idempotencyId prepared member
    rw [AuthorityControl.finishedIds, List.map_append, List.map_singleton, List.mem_append]
    rcases List.mem_cons.mp member with same | member
    · cases same
    · rcases sound.truthful.kept _ _ member with ⟨found, same, rfl, _⟩ | finished
      · cases executing.symm.trans same
        exact .inr (.inr (List.mem_singleton_self _))
      · exact .inr (.inl finished)

end

section
variable {world : World} {α β : Type}

def Reads (world : World) (found : α → List Sighting → Prop) (answer : Except VaultRootChangeError α) (later : World) :
    Prop :=
  ∃ more, (∀ sighting ∈ more, sighting.isReading = true) ∧ later = world.seeAll more ∧
    ∀ value, answer = .ok value → found value more

variable {found : α → List Sighting → Prop}

theorem reads_nothing (cause : VaultRootChangeError) : Reads world found (.error cause) world :=
  ⟨[], List.forall_mem_nil _, rfl, nofun⟩

theorem reads_onward {last : β → List Sighting → Prop} {program : Changing (Except VaultRootChangeError α)}
    {rest : α → Changing (Except VaultRootChangeError β)}
    (first : Safe Op.effect Sound (Reads world found) program world)
    (second : ∀ value more, found value more → Sound (world.seeAll more) → Safe Op.effect Sound
      (Reads (world.seeAll more) fun answer later => last answer (later ++ more)) (rest value) (world.seeAll more))
    (sound : Sound world) : Safe Op.effect Sound (Reads world last) (program.onward rest) world := by
  apply first.onward
  · rintro cause later ⟨more, readings, same, _⟩
    exact ⟨more, readings, same, nofun⟩
  · rintro value later ⟨more, readings, rfl, holds⟩
    apply (second value more (holds value rfl) (sound.seeAll readings)).weaken (fun _ stopped => stopped)
    rintro answer last ⟨further, others, rfl, ends⟩
    refine ⟨further ++ more, ?_, by simp [World.seeAll], ends⟩
    intro sighting member
    rcases List.mem_append.mp member with member | member
    · exact others sighting member
    · exact readings sighting member

theorem readSettings_safe (sound : Sound world) : Safe Op.effect Sound
    (Reads world fun document more => document = world.settings ∧ .settingsRevision document.revision ∈ more)
    (perform .readSettings) world := by
  apply Safe.perform sound
  intro works
  cases works with
  | false => exact reads_nothing _
  | true =>
    refine ⟨[.settingsRevision world.settings.revision], by simp [Sighting.isReading], rfl, ?_⟩
    intro document answer
    cases answer
    exact ⟨rfl, List.mem_singleton_self _⟩

theorem ledgerRevision_safe (sound : Sound world) : Safe Op.effect Sound
    (Reads world fun revision more => .ledgerRevision revision ∈ more) (perform .ledgerRevision) world := by
  apply Safe.perform sound
  intro works
  cases works with
  | false => exact reads_nothing _
  | true =>
    refine ⟨[.ledgerRevision world.ledger.revision], by simp [Sighting.isReading], rfl, ?_⟩
    intro revision answer
    cases answer
    exact List.mem_singleton_self _

theorem listEvidenceVaultEntries_safe (sound : Sound world) : Safe Op.effect Sound
    (Reads world fun entries more => .entries entries ∈ more) (perform .listEvidenceVaultEntries) world := by
  apply Safe.perform sound
  intro works
  cases works with
  | false => exact reads_nothing _
  | true =>
    refine ⟨[.entries world.ledger.entries], by simp [Sighting.isReading], rfl, ?_⟩
    intro entries answer
    cases answer
    exact List.mem_singleton_self _

theorem usable_safe (root : String) (sound : Sound world) : Safe Op.effect Sound
    (Reads world fun _ _ => True) (perform (.usable root)) world := by
  apply Safe.perform sound
  intro works
  cases works with
  | false => exact reads_nothing _
  | true => exact ⟨[], List.forall_mem_nil _, rfl, fun _ _ => trivial⟩

def Resolved (root : String) (more : List Sighting) (entry : EvidenceVaultEntry) : Prop :=
  entry.fingerprint.isSome = true ∧ .resolved root entry ∈ more

def Counted (world : World) (root : String) (entries : List EvidenceVaultEntry) (unresolved : Nat) (later : World) : Prop :=
  ∃ more, (∀ sighting ∈ more, sighting.isReading = true) ∧ later = world.seeAll more ∧
    (unresolved = 0 → ∀ entry ∈ entries, Resolved root more entry)

theorem resolves_safe (root : String) (entry : EvidenceVaultEntry) (sound : Sound world) : Safe Op.effect Sound
    (fun served later => ∃ more, (∀ sighting ∈ more, sighting.isReading = true) ∧ later = world.seeAll more ∧
      (served = true → Resolved root more entry)) (resolves root entry) world := by
  unfold resolves
  split
  next => exact ⟨[], List.forall_mem_nil _, rfl, nofun⟩
  next fingerprint pinned =>
    apply Safe.perform sound
    intro works
    cases works with
    | false => exact ⟨[], List.forall_mem_nil _, rfl, nofun⟩
    | true =>
      refine ⟨[.resolved root entry], by simp [Sighting.isReading], rfl, fun _ => ⟨?_, List.mem_singleton_self _⟩⟩
      rw [pinned]
      rfl

theorem countUnresolved_safe (root : String) (entries : List EvidenceVaultEntry) (sound : Sound world) :
    Safe Op.effect Sound (Counted world root entries) (countUnresolved root entries) world := by
  induction entries generalizing world with
  | nil => exact ⟨[], List.forall_mem_nil _, rfl, fun _ => nofun⟩
  | cons entry rest counted =>
    apply (resolves_safe root entry sound).bind
    rintro served middle ⟨more, readings, rfl, holds⟩
    apply (counted (sound.seeAll readings)).bind
    rintro unresolved later ⟨further, others, rfl, all⟩
    refine ⟨further ++ more, ?_, by simp [World.seeAll], ?_⟩
    · intro sighting member
      rcases List.mem_append.mp member with member | member
      · exact others sighting member
      · exact readings sighting member
    · intro none
      cases served with
      | false => simp at none
      | true =>
        intro found member
        rcases List.mem_cons.mp member with rfl | member
        · exact ⟨(holds rfl).1, List.mem_append_right _ (holds rfl).2⟩
        · obtain ⟨pinned, seen⟩ := all (by simpa using none) found member
          exact ⟨pinned, List.mem_append_left _ seen⟩

/-- Everything of the Ledger that a preview bound was seen again. -/
def LedgerProved (prepared : PreparedVaultRootChange) (more : List Sighting) : Prop :=
  .ledgerRevision prepared.ledgerRevision ∈ more ∧ ∃ entries, .entries entries ∈ more ∧
    entries.map bind = prepared.boundEvidence ∧ ∀ entry ∈ entries, Resolved prepared.proposedRoot more entry

theorem reproveLedger_safe (prepared : PreparedVaultRootChange) (sound : Sound world) :
    Safe Op.effect Sound (Reads world fun _ more => LedgerProved prepared more) (reproveLedger prepared) world := by
  apply reads_onward (ledgerRevision_safe sound) _ sound
  intro revision first sawRevision sound
  split
  next sameRevision =>
    apply reads_onward (listEvidenceVaultEntries_safe sound) _ sound
    intro entries second sawEntries sound
    split
    next bound =>
      apply reads_onward (usable_safe prepared.proposedRoot sound) _ sound
      intro _ third _ sound
      apply (countUnresolved_safe prepared.proposedRoot entries sound).bind
      rintro unresolved later ⟨more, readings, rfl, all⟩
      refine ⟨more, readings, rfl, ?_⟩
      intro _ answer
      split at answer
      · cases answer
      next none =>
        refine ⟨?_, entries, ?_, bound, ?_⟩
        · simp [← sameRevision, sawRevision]
        · simp [sawEntries]
        · intro entry member
          obtain ⟨pinned, seen⟩ := all (by omega) entry member
          exact ⟨pinned, by simp [seen]⟩
    next => exact reads_nothing _
  next => exact reads_nothing _

end

section
variable {world : World} {idempotencyId : String} {prepared : PreparedVaultRootChange} {checks : List Sighting}
  {outcome : VaultRootChangeOutcome}

/-- An approved change that is about to be finished with what the settings say. -/
structure Ended (idempotencyId : String) (prepared : PreparedVaultRootChange) (outcome : VaultRootChangeOutcome)
    (world : World) : Prop where
  sound : Sound world
  executing : ∃ approved, world.control.executing = some approved ∧ approved.idempotencyId = idempotencyId ∧
    approved.prepared = prepared
  truthful : outcome = .changed ↔ world.liveVaultRoot = some prepared.proposedRoot

def concluded : Except VaultRootChangeError VaultRootChangeOutcome → VaultRootChangeOutcome
  | .ok outcome => outcome
  | .error _ => .notChanged

theorem Claim.failed (claim : Claim idempotencyId prepared checks world) : Ended idempotencyId prepared .notChanged world where
  sound := claim.sound
  executing := claim.executing
  truthful := ⟨nofun, fun named => absurd named claim.unmoved⟩

theorem Claim.committing (claim : Claim idempotencyId prepared checks world) (works : Bool) :
    Claim idempotencyId prepared checks (Op.effect _ (.update .committing) works world).2 := by
  cases works with
  | false => exact claim
  | true =>
    obtain ⟨approved, executing, named⟩ := claim.executing
    obtain ⟨phase, active⟩ := executing_active executing
    have moved : (Op.effect _ (.update .committing) true world).2 =
        { world with control := { world.control with active := some (.executing approved .committing) } } := by
      simp only [Op.effect, if_true, ControlChange.decide, active]
      rfl
    rw [moved]
    exact ⟨claim.sound.committing active, ⟨approved, rfl, named⟩, claim.unmoved, claim.seen⟩

theorem Claim.wrote (claim : Claim idempotencyId prepared checks world) (proved : LedgerProved prepared checks)
    (sawRevision : .settingsRevision prepared.settingsRevision ∈ checks)
    (settings : SettingsDocument) (named : settings.operational.liveVaultRoot = some prepared.proposedRoot) :
    Ended idempotencyId prepared .changed { world with
      settings, sightings := .wrote prepared.proposedRoot prepared.settingsRevision :: world.sightings } := by
  obtain ⟨approved, executing, rfl, rfl⟩ := claim.executing
  obtain ⟨phase, active⟩ := executing_active executing
  obtain ⟨unfinished, claimed, _⟩ := claim.sound.standing _ active
  obtain ⟨earlier, same⟩ := claim.seen
  obtain ⟨sawLedger, entries, sawEntries, bound, resolved⟩ := proved
  have reproved : Reproved (.wrote approved.prepared.proposedRoot approved.prepared.settingsRevision :: world.sightings)
      approved.idempotencyId approved.prepared :=
    ⟨[], checks, earlier, entries, by rw [same]; rfl, sawRevision, sawLedger, sawEntries, bound, resolved⟩
  refine ⟨⟨⟨?_, claim.sound.truthful.once, ?_⟩, ?_⟩, ⟨approved, executing, rfl, rfl⟩, fun _ => named, fun _ => rfl⟩
  · intro terminal finished
    obtain ⟨prepared, liveVaultRoot, told⟩ := claim.sound.truthful.told terminal finished
    exact ⟨prepared, liveVaultRoot, told.grow [_]⟩
  · intro idempotencyId prepared member
    rcases List.mem_cons.mp member with same | member
    · cases same
    · exact claim.sound.truthful.kept _ _ member
  · intro operation same
    cases active.symm.trans same
    exact ⟨unfinished, List.mem_cons_of_mem _ claimed, fun _ => reproved⟩

theorem committing_safe (claim : Claim idempotencyId prepared checks world) : Safe Op.effect Sound
    (fun _ => Claim idempotencyId prepared checks) (perform (.update .committing)) world :=
  Safe.perform claim.sound fun works => claim.committing works

def patchedTo : Except VaultRootChangeError PatchOutcome → VaultRootChangeOutcome
  | .ok (.committed _) => .changed
  | _ => .notChanged

theorem applyDurable_safe {expectedRevision : Nat} (claim : Claim idempotencyId prepared checks world)
    (proved : LedgerProved prepared checks) (sawRevision : .settingsRevision prepared.settingsRevision ∈ checks)
    (expected : expectedRevision = prepared.settingsRevision) : Safe Op.effect Sound
    (fun answer => Ended idempotencyId prepared (patchedTo answer))
    (perform (.applyDurable expectedRevision prepared.proposedRoot)) world := by
  subst expected
  apply Safe.perform claim.sound
  intro works
  cases works with
  | false => exact claim.failed
  | true =>
    simp only [Op.effect, if_true, applyDurable]
    split
    next => exact claim.failed
    next =>
      split
      next => exact claim.wrote proved sawRevision _ rfl
      next => exact claim.failed

theorem LedgerProved.before (proved : LedgerProved prepared checks) (earlier : List Sighting) :
    LedgerProved prepared (checks ++ earlier) := by
  obtain ⟨sawLedger, entries, sawEntries, bound, resolved⟩ := proved
  refine ⟨List.mem_append_left _ sawLedger, entries, List.mem_append_left _ sawEntries, bound, ?_⟩
  intro entry member
  exact ⟨(resolved entry member).1, List.mem_append_left _ (resolved entry member).2⟩

theorem LedgerProved.grow (proved : LedgerProved prepared checks) (more : List Sighting) :
    LedgerProved prepared (more ++ checks) := by
  obtain ⟨sawLedger, entries, sawEntries, bound, resolved⟩ := proved
  refine ⟨List.mem_append_right _ sawLedger, entries, List.mem_append_right _ sawEntries, bound, ?_⟩
  intro entry member
  exact ⟨(resolved entry member).1, List.mem_append_right _ (resolved entry member).2⟩

theorem commit_safe (claim : Claim idempotencyId prepared [] world) : Safe Op.effect Sound
    (fun answer => Ended idempotencyId prepared (concluded answer)) (commit prepared) world := by
  apply (readSettings_safe claim.sound).onward
  · rintro cause later ⟨more, readings, rfl, _⟩
    exact (claim.seeAll readings).failed
  · rintro document later ⟨first, readings, rfl, found⟩
    obtain ⟨_, sawRevision⟩ := found document rfl
    have claim := claim.seeAll readings
    split
    next sameRevision =>
      apply (reproveLedger_safe prepared claim.sound).onward
      · rintro cause later ⟨more, readings, rfl, _⟩
        exact (claim.seeAll readings).failed
      · rintro _ later ⟨more, readings, rfl, found⟩
        have proved := (found _ rfl).before (first ++ [])
        have claim := claim.seeAll readings
        apply (committing_safe claim).onward
        · intro cause later claim
          exact claim.failed
        · intro _ later claim
          apply (usable_safe prepared.proposedRoot claim.sound).onward
          · rintro cause last ⟨more, readings, rfl, _⟩
            exact (claim.seeAll readings).failed
          · rintro _ last ⟨more, readings, rfl, _⟩
            have claim := claim.seeAll readings
            apply (applyDurable_safe claim (proved.grow more) (by simp [← sameRevision, sawRevision]) sameRevision).onward
            · intro cause last ended
              exact ended
            · intro patched last ended
              cases patched with
              | committed revision => exact ended
              | stale current => exact ended
    next => exact claim.failed

theorem claim_ok {input : ApproveVaultRootChange} {nowMillis : Int} {control after : AuthorityControl} {answer : Claimed}
    (success : claim input nowMillis control = .ok (answer, after)) :
    (∃ outcome, answer = .already outcome ∧ after = control) ∨
    ∃ prepared, answer = .now prepared ∧ control.active = some (.prepared prepared) ∧
      input.idempotencyId ∉ control.finishedIds ∧
      after = { control with
        active := some (.executing ⟨prepared, input.idempotencyId, input.receiptId, nowMillis⟩ .approved) } := by
  unfold claim at success
  split at success
  next finished _ =>
    cases success
    exact .inl ⟨finished.outcome, rfl, rfl⟩
  next unknown =>
    split at success
    next => split at success <;> cases success
    next prepared active =>
      split at success
      next named =>
        split at success
        · cases success
        split at success
        · cases success
        split at success
        · cases success
        cases success
        refine .inr ⟨prepared, rfl, active, ?_, rfl⟩
        intro member
        obtain ⟨terminal, among, same⟩ := List.mem_map.mp member
        have absent := List.find?_eq_none.mp unknown terminal among
        simp [same] at absent
      next => cases success
    next => cases success

theorem finish_safe (receiptId : String) (nowMillis : Int) (ended : Ended idempotencyId prepared outcome world) :
    Safe Op.effect Sound (fun _ => Sound) (finish prepared idempotencyId receiptId outcome nowMillis) world := by
  obtain ⟨approved, executing, rfl, rfl⟩ := ended.executing
  refine ⟨ended.sound, fun works => ?_⟩
  cases works with
  | false => exact ended.sound
  | true =>
    have finished := ended.sound.finish executing outcome nowMillis ended.truthful
    exact ⟨finished, fun _ => finished⟩

theorem approve_safe (input : ApproveVaultRootChange) (nowMillis : Int) (sound : Sound world) :
    Safe Op.effect Sound (fun _ => Sound) (approve input nowMillis) world := by
  refine ⟨sound, fun works => ?_⟩
  cases works with
  | false => exact sound
  | true =>
    simp only [Op.effect, if_true]
    cases decide : ControlChange.decide (.claim input nowMillis) world.control with
    | error cause => exact sound
    | ok changed =>
      obtain ⟨answer, control⟩ := changed
      obtain ⟨outcome, rfl, rfl⟩ | ⟨prepared, rfl, active, fresh, rfl⟩ := claim_ok decide
      · exact sound
      · have claim := @Sound.claim world ⟨prepared, input.idempotencyId, input.receiptId, nowMillis⟩ sound active fresh
        apply (commit_safe claim).bind
        intro answer later ended
        cases answer with
        | ok outcome =>
          apply (finish_safe input.receiptId nowMillis ended).onward
          · exact fun _ _ sound => sound
          · exact fun _ _ sound => sound
        | error cause =>
          apply (finish_safe input.receiptId nowMillis ended).onward
          · exact fun _ _ sound => sound
          · exact fun _ _ sound => sound

theorem reject_safe (preparedIntentId : String) (sound : Sound world) :
    Safe Op.effect Sound (fun _ => Sound) (reject preparedIntentId) world := by
  refine ⟨sound, fun works => ?_⟩
  cases works with
  | false => exact sound
  | true =>
    simp only [Op.effect, if_true]
    cases decide : ControlChange.decide (.reject preparedIntentId) world.control with
    | error cause => exact sound
    | ok changed =>
      obtain ⟨answer, control⟩ := changed
      simp only [ControlChange.decide] at decide
      split at decide
      next prepared active =>
        split at decide
        · cases decide
          exact ⟨sound.clear (executing_of_prepared active), fun _ => sound.clear (executing_of_prepared active)⟩
        · cases decide
      next => cases decide

theorem takeOut_safe (preparedIntentId : String) (sound : Sound world) :
    Safe Op.effect Sound (fun _ => Sound) (perform (.update (.takeOut preparedIntentId))) world := by
  apply Safe.perform sound
  intro works
  cases works with
  | false => exact sound
  | true =>
    simp only [Op.effect, if_true, ControlChange.decide]
    split
    next answer control decide =>
      split at decide
      next prepared active =>
        cases decide
        split
        · exact sound.clear (executing_of_prepared active)
        · exact sound
      next =>
        cases decide
        exact sound
    next cause decide => exact sound

theorem placePreview_safe (sound : Sound world) (other : world.liveVaultRoot ≠ some prepared.proposedRoot) :
    Safe Op.effect Sound (fun _ => Sound) (placePreview prepared) world := by
  refine ⟨sound, fun works => ?_⟩
  cases works with
  | false => exact sound
  | true =>
    simp only [Op.effect, if_true]
    cases decide : ControlChange.decide (.place prepared) world.control with
    | error cause => exact sound
    | ok changed =>
      obtain ⟨answer, control⟩ := changed
      simp only [ControlChange.decide] at decide
      split at decide
      next => cases decide
      next idle =>
        cases decide
        have placed := sound.place idle other
        refine ⟨placed, fun noted => ?_⟩
        cases noted with
        | true => exact placed
        | false =>
          apply (takeOut_safe prepared.preparedIntentId placed).bind
          exact fun _ _ sound => sound

theorem prepareVaultRootChange_safe [Sha256] [PathHost] (input : PrepareVaultRootChange) (nowMillis : Int) (sound : Sound world) :
    Safe Op.effect Sound (fun _ => Sound) (prepareVaultRootChange input nowMillis) world := by
  apply (readSettings_safe sound).onward
  · rintro cause later ⟨more, readings, rfl, _⟩
    exact sound.seeAll readings
  · rintro document later ⟨more, readings, rfl, found⟩
    obtain ⟨rfl, _⟩ := found document rfl
    have sound := sound.seeAll readings
    unfold prepare
    split
    · exact sound
    split
    · exact sound
    next other =>
      apply (ledgerRevision_safe sound).onward
      · rintro cause later ⟨more, readings, rfl, _⟩
        exact sound.seeAll readings
      · rintro revision later ⟨more, readings, rfl, _⟩
        have sound := sound.seeAll readings
        split
        · exact sound
        apply (listEvidenceVaultEntries_safe sound).onward
        · rintro cause later ⟨more, readings, rfl, _⟩
          exact sound.seeAll readings
        · rintro entries later ⟨more, readings, rfl, _⟩
          have sound := sound.seeAll readings
          dsimp only
          split
          · exact sound
          apply (usable_safe input.proposedRoot sound).onward
          · rintro cause later ⟨more, readings, rfl, _⟩
            exact sound.seeAll readings
          · rintro _ later ⟨more, readings, rfl, _⟩
            apply (countUnresolved_safe input.proposedRoot entries (sound.seeAll readings)).bind
            rintro unresolved later ⟨further, others, rfl, _⟩
            have sound := (sound.seeAll readings).seeAll others
            split
            · exact sound
            · exact placePreview_safe sound other

end

section
variable {world : World} {approved : ApprovedChange} {phase : VaultRootChangePhase}

/-- A start that finds an approved change in the settings can read them: its second
action, the reading of the settings, does not fail. -/
def SettingsReadable : Event → World → Prop
  | .start _ schedule, world => ∀ approved, world.control.executing = some approved →
      world.liveVaultRoot = some approved.prepared.proposedRoot → schedule[1]? ≠ some false
  | _, _ => True

theorem resolved_ended (sound : Sound world) (executing : world.control.executing = some approved) (works : Bool)
    (readable : world.liveVaultRoot = some approved.prepared.proposedRoot → works = true) :
    Ended approved.idempotencyId approved.prepared
      (if settingsName approved.prepared.proposedRoot (Op.effect _ .readSettings works world).1 then
        .changed else .notChanged) (Op.effect _ .readSettings works world).2 := by
  cases works with
  | false =>
    refine ⟨sound, ⟨approved, executing, rfl, rfl⟩, nofun, fun named => ?_⟩
    cases readable named
  | true =>
    have read : Sound (world.seeAll [.settingsRevision world.settings.revision]) := sound.seeAll (by simp [Sighting.isReading])
    refine ⟨read, ⟨approved, executing, rfl, rfl⟩, ?_⟩
    simp only [Op.effect, if_true, settingsName, World.liveVaultRoot, World.see, decide_eq_true_eq]
    split
    next named => exact ⟨fun _ => named, fun _ => rfl⟩
    next other => exact ⟨nofun, fun named => absurd named other⟩

theorem resume_safe {idempotencyId : String} {prepared : PreparedVaultRootChange} {outcome : VaultRootChangeOutcome}
    (receiptId : String) (nowMillis : Int) (ended : Ended idempotencyId prepared outcome world) :
    Safe Op.effect Sound (fun _ => Sound)
      ((finish prepared idempotencyId receiptId outcome nowMillis).onward fun _ => pure (.ok (some outcome))) world := by
  apply (finish_safe receiptId nowMillis ended).onward
  · exact fun _ _ sound => sound
  · exact fun _ _ sound => sound

theorem reconcileActive_sound (nowMillis : Int) (schedule : List Bool) (sound : Sound world)
    (readable : ∀ approved, world.control.executing = some approved →
      world.liveVaultRoot = some approved.prepared.proposedRoot → schedule[0]? ≠ some false) :
    Sound ((reconcileActive nowMillis world.control.active).attempt Op.effect schedule world).1 := by
  rcases active : world.control.active with _ | prepared | ⟨approved, phase⟩
  · apply Safe.keeps
    exact sound
  · apply Safe.keeps
    refine ⟨sound, fun works => ?_⟩
    cases works with
    | false => exact sound
    | true => exact sound.clear (executing_of_prepared active)
  · have executing : world.control.executing = some approved := by
      unfold AuthorityControl.executing
      rw [active]
    cases schedule with
    | nil => exact sound
    | cons reads schedule =>
      have named : world.liveVaultRoot = some approved.prepared.proposedRoot → reads = true := by
        intro named
        simpa using readable approved executing named
      have ended := resolved_ended sound executing reads named
      exact (resume_safe approved.receiptId nowMillis ended).keeps schedule

theorem reconcile_sound (nowMillis : Int) (schedule : List Bool) (sound : Sound world)
    (readable : SettingsReadable (.start nowMillis schedule) world) :
    Sound ((reconcile nowMillis).attempt Op.effect schedule world).1 := by
  cases schedule with
  | nil => exact sound
  | cons loads schedule =>
    cases loads with
    | false =>
      have stayed : Safe Op.effect Sound (fun _ => Sound) (pure (.error .control) :
        Changing (Except VaultRootChangeError (Option VaultRootChangeOutcome))) world := sound
      exact stayed.keeps schedule
    | true => exact reconcileActive_sound nowMillis schedule sound readable

end

section
variable [Sha256] [PathHost] {before after : World} {event : Event}

omit [Sha256] [PathHost] in
theorem Sound.elsewhere (sound : Sound before) (elsewhere : Elsewhere before after) : Sound after := by
  obtain ⟨sameControl, sameSightings, root⟩ := elsewhere
  obtain ⟨control, settings, ledger, sightings⟩ := after
  subst sameControl sameSightings
  have narrower : ∀ folder, World.liveVaultRoot ⟨before.control, settings, ledger, before.sightings⟩ = some folder →
      before.liveVaultRoot = some folder := by
    intro folder named
    rcases root with same | lost
    · rwa [same] at named
    · rw [lost] at named
      cases named
  refine ⟨⟨sound.truthful.told, sound.truthful.once, sound.truthful.kept⟩, ?_⟩
  intro operation active
  have standing := sound.standing operation active
  cases operation with
  | prepared prepared => exact fun named => standing (narrower _ named)
  | executing approved phase => exact ⟨standing.1, standing.2.1, fun named => standing.2.2 (narrower _ named)⟩

theorem Sound.step (sound : Sound before) (readable : SettingsReadable event before) (step : Step event before after) :
    Sound after := by
  cases event with
  | call call schedule =>
    cases step
    cases call with
    | prepare input nowMillis => exact (prepareVaultRootChange_safe input nowMillis sound).keeps schedule
    | reject preparedIntentId => exact (reject_safe preparedIntentId sound).keeps schedule
    | approve input nowMillis => exact (approve_safe input nowMillis sound).keeps schedule
  | start nowMillis schedule =>
    cases step
    exact reconcile_sound nowMillis schedule sound readable
  | elsewhere => exact sound.elsewhere step

/-- A step whose start, if it is one, can read what an approval wrote. -/
def ReadableStep (event : Event) (before after : World) : Prop := SettingsReadable event before ∧ Step event before after

/-- As long as no start fails to read settings that already name the folder of an
approved change, every outcome recorded is the true one. -/
theorem vault_change_truthful {settings : SettingsDocument} {ledger : Ledger} {events : List Event} {later : World}
    (run : Evolves ReadableStep (World.initial settings ledger) events later) : Truthful later := by
  have sound : Sound later := by
    apply run.invariant Sound
    · exact fun event before after step sound => sound.step step.1 step.2
    · exact ⟨⟨List.forall_mem_nil _, List.nodup_nil, fun _ _ among => nomatch among⟩, fun _ active => nomatch active⟩
  exact sound.truthful

end

namespace Approval

scoped instance : Sha256 where
  finalize _ := ⟨"a76334386d615980d6a9aabc643c85c2b8298ac69279f5d9e0ac6fbfb232fc52", .refl true⟩

scoped instance : PathHost where
  fileName path := if path = "D:\\Vault" then some "Vault" else none

def settings : SettingsDocument where
  revision := 7
  display := ⟨"en", "UTC", .system⟩
  operational := ⟨none, none, none, none, 30, false, .info⟩

def entry : EvidenceVaultEntry :=
  ⟨"evidence-1", 1, "notes/plan.md", some ⟨"sha256", "64879f7d6b960a01909762d911a32d4582c20010c5641ee90278b644a9e3b525"⟩⟩

def ledger : Ledger := ⟨4, [entry]⟩

def input : PrepareVaultRootChange where
  live := true
  proposedRoot := "D:\\Vault"
  recovery := ⟨"archive-1", 4, 1000⟩
  recoveryNotBeforeMillis := 900
  recoverySettingsRevision := 7
  preparedIntentId := "intent-1"
  confirmationCode := "K7QX2M"
  validForMillis := 900000

def approval : ApproveVaultRootChange :=
  ⟨"intent-1", "a76334386d615980d6a9aabc643c85c2b8298ac69279f5d9e0ac6fbfb232fc52", "K7QX2M", "change-1", "receipt-1"⟩

def previewing : Event := .call (.prepare input 1000) (List.replicate 7 true)

/-- An approval stopped right after its write of the settings. -/
def approving : Event := .call (.approve approval 2000) (List.replicate 9 true)

def starting (reads : Bool) : Event := .start 3000 [true, reads, true, true]

def previewed : World := Call.after (.prepare input 1000) (List.replicate 7 true) (.initial settings ledger)

def stopped : World := Call.after (.approve approval 2000) (List.replicate 9 true) previewed

def started (reads : Bool) : World := ((reconcile 3000).attempt Op.effect [true, reads, true, true] stopped).1

theorem runs (reads : Bool) :
    Evolves Step (World.initial settings ledger) [previewing, approving, starting reads] (started reads) :=
  .move (starting reads) (.move approving (.move previewing .start rfl) rfl) rfl

end Approval

open Approval

/-- The folder was changed, and the start that could read the settings said so. -/
theorem change_told : Truthful (started true) ∧
    (started true).control.finished.map (·.outcome) = [.changed] ∧ (started true).liveVaultRoot = some "D:\\Vault" :=
  ⟨@vault_change_truthful _ _ _ _ [previewing, approving, starting true] _
    (.move (starting true) (.move approving (.move previewing .start ⟨trivial, rfl⟩) ⟨trivial, rfl⟩)
      ⟨fun _ _ _ => by decide, rfl⟩), by decide +kernel, by decide +kernel⟩

/-- The settings name the new folder, and the change is on record as not made. -/
theorem change_denied : Evolves Step (World.initial settings ledger) [previewing, approving, starting false] (started false) ∧
    ¬ Truthful (started false) := by
  refine ⟨runs false, fun truthful => ?_⟩
  have finished : (started false).control.finished = [terminalOf (preparedOf input settings 4 [bind entry] 1000) "change-1"
      .notChanged 3000] := by decide +kernel
  have named : (started false).sightings.all (fun
      | .claimed _ prepared => prepared.proposedRoot = "D:\\Vault"
      | .recorded _ liveVaultRoot => liveVaultRoot = some "D:\\Vault"
      | _ => true) = true := by decide +kernel
  rw [List.all_eq_true] at named
  obtain ⟨prepared, liveVaultRoot, told⟩ := truthful.told _ (by rw [finished]; exact List.mem_singleton_self _)
  have proposed := of_decide_eq_true (named _ told.claimed)
  have recorded := of_decide_eq_true (named _ told.recorded)
  have changed := told.truthful.mpr (by rw [recorded, proposed])
  cases changed

end MissionControl.VaultRoot

import MissionControl.Lib.Run
import MissionControl.Sample.Service

/-! Whether a reset of the sample keeps the previous one until the fresh one is in its
place, over runs in which any action may fail and the process may stop before any. -/

namespace MissionControl.Sample
open Run Program

variable {Contents : Type}

/-- A recorded outcome says what stood in the sample's place at that moment. -/
structure Recorded.Truthful (entry : Recorded Contents) : Prop where
  fresh : entry.outcome = .reset ↔ entry.episode.fresh.isSome = true ∧ entry.canonical = entry.episode.fresh
  previous : entry.outcome = .resetRolledBack → entry.canonical = entry.episode.previous

structure CrashSafe (world : World Contents) : Prop where
  kept : ∀ operation previous, world.control.active = some (.reset operation) → world.episode.previous = some previous →
    world.folders .canonical = some previous ∨ world.at_ .retired operation.operationId = some previous
  recorded : ∀ entry ∈ world.recorded, entry.Truthful
  removals : ∀ folder ∈ world.removals, folder.owned = true

section
variable {world : World Contents}

def Owned (folder : Option (Folder Contents)) : Prop := ∀ found, folder = some found → found.owned = true

/-- The folders written down for removal are the service's. -/
structure Listed (world : World Contents) : Prop where
  siblings : .canonical ∉ world.control.pendingCleanup
  owned : ∀ name ∈ world.control.pendingCleanup, Owned (world.folders name)

structure Sane (world : World Contents) : Prop where
  numbered : ∀ name folder, world.folders name = some folder → folder.serial < world.serial
  recorded : ∀ entry ∈ world.recorded, entry.Truthful
  removals : ∀ folder ∈ world.removals, folder.owned = true
  listed : Listed world

theorem Sane.put (sane : Sane world) (name : FolderName) (folder : Option (Folder Contents))
    (numbered : ∀ found, folder = some found → found.serial < world.serial)
    (owned : name ∈ world.control.pendingCleanup → Owned folder) : Sane (world.put name folder) where
  recorded := sane.recorded
  removals := sane.removals
  listed :=
    { siblings := sane.listed.siblings
      owned := by
        intro other member found same
        by_cases here : other = name
        · subst here
          simp only [World.put, Function.update_self] at same
          exact owned member found same
        · simp only [World.put, Function.update_of_ne here] at same
          exact sane.listed.owned other member found same }
  numbered := by
    intro other found same
    by_cases here : other = name
    · subst here
      simp only [World.put, Function.update_self] at same
      exact numbered found same
    · simp only [World.put, Function.update_of_ne here] at same
      exact sane.numbered other found same

@[simp] theorem put_here (name : FolderName) (folder : Option (Folder Contents)) :
    (world.put name folder).folders name = folder := Function.update_self ..

theorem put_there {name other : FolderName} (folder : Option (Folder Contents)) (different : other ≠ name) :
    (world.put name folder).folders other = world.folders other := Function.update_of_ne different ..

structure Cleaned (name : FolderName) (world later : World Contents) : Prop where
  active : later.control.active = world.control.active
  elsewhere : ∀ other, other ≠ name → later.folders other = world.folders other
  owned : Owned (later.folders name)
  episode : later.episode = world.episode
  pending : ∀ other, other ≠ name → other ∈ later.control.pendingCleanup → other ∈ world.control.pendingCleanup
  sane : Sane later

theorem Cleaned.refl {name : FolderName} (sane : Sane world) (owned : Owned (world.folders name)) :
    Cleaned name world world := ⟨rfl, fun _ _ => rfl, owned, rfl, fun _ _ member => member, sane⟩

end

section
variable [SampleHost Contents]

structure Verified (episode : Episode Contents) (digest : Option String) (fresh : Folder Contents) : Prop where
  kept : episode.fresh = some fresh
  owned : fresh.owned = true
  current : ∃ manifest, SampleHost.inspect fresh.contents = .current manifest ∧
    digest = some (SampleHost.manifestDigest Contents manifest)
  other : episode.previous ≠ some fresh

/-- How far the building has come. -/
def Progress (world : World Contents) (operation : ResetOperation) : Prop :=
  operation.phase = .building ∧ world.episode.fresh = none ∨
  operation.phase ≠ .building ∧ (∃ fresh, Verified world.episode operation.builtManifestSha256 fresh) ∧
    Owned (world.at_ .staging operation.operationId)

structure Back (world : World Contents) (operation : ResetOperation) : Prop where
  progress : Progress world operation
  canonical : world.folders .canonical = world.episode.previous
  retired : world.episode.previous = none ∨ operation.phase = .swappedAside →
    world.at_ .retired operation.operationId = none

structure Out (world : World Contents) (operation : ResetOperation) (fresh : Folder Contents) : Prop where
  verified : Verified world.episode operation.builtManifestSha256 fresh
  phase : operation.phase ≠ .building
  canonical : world.folders .canonical = none
  staging : world.at_ .staging operation.operationId = some fresh
  retired : world.at_ .retired operation.operationId = world.episode.previous

structure In (world : World Contents) (operation : ResetOperation) (fresh : Folder Contents) : Prop where
  verified : Verified world.episode operation.builtManifestSha256 fresh
  phase : operation.phase = .swappedAside
  canonical : world.folders .canonical = some fresh
  staging : world.at_ .staging operation.operationId = none
  retired : world.at_ .retired operation.operationId = world.episode.previous

inductive Standing (world : World Contents) (operation : ResetOperation) : Prop where
  | back : Back world operation → Standing world operation
  | out (fresh : Folder Contents) : Out world operation fresh → Standing world operation
  | installed (fresh : Folder Contents) : In world operation fresh → Standing world operation

structure Sound (world : World Contents) : Prop where
  sane : Sane world
  standing : ∀ active, world.control.active = some active → ∃ operation, active = .reset operation ∧ Standing world operation
  unlisted : ∀ {operation}, world.control.active = some (.reset operation) →
    retired operation.operationId ∉ world.control.pendingCleanup

structure Held (world : World Contents) (operation : ResetOperation) : Prop where
  sane : Sane world
  active : world.control.active = some (.reset operation)
  unlisted : retired operation.operationId ∉ world.control.pendingCleanup

variable {world later : World Contents} {operation : ResetOperation} {fresh : Folder Contents}

theorem Held.sound (held : Held world operation) (standing : Standing world operation) : Sound world where
  sane := held.sane
  standing := by
    intro active same
    cases held.active.symm.trans same
    exact ⟨operation, rfl, standing⟩
  unlisted same := by
    cases held.active.symm.trans same
    exact held.unlisted

theorem Sane.idle (sane : Sane world) (idle : world.control.active = none) : Sound world where
  sane := sane
  standing := by
    intro active same
    rw [idle] at same
    cases same
  unlisted same := by
    rw [idle] at same
    cases same

theorem Sound.crashSafe (sound : Sound world) : CrashSafe world where
  recorded := sound.sane.recorded
  removals := sound.sane.removals
  kept := by
    intro operation previous active had
    obtain ⟨_, same, standing⟩ := sound.standing _ active
    cases same
    cases standing with
    | back back => exact .inl (back.canonical.trans had)
    | out _ out => exact .inr (out.retired.trans had)
    | installed _ inside => exact .inr (inside.retired.trans had)

theorem rename_cases (source target : FolderName) (works : Bool) (world : World Contents) :
    (∃ cause, Op.effect _ (.rename source target) works world = (.error cause, world)) ∨
    ∃ folder, world.folders source = some folder ∧ world.folders target = none ∧
      Op.effect _ (.rename source target) works world = (.ok (), (world.put source none).put target (some folder)) := by
  simp only [Op.effect]
  split
  next => exact .inl ⟨_, rfl⟩
  next folder found =>
    split
    next free => exact .inr ⟨folder, found, by simpa using free.2, rfl⟩
    next => exact .inl ⟨_, rfl⟩

omit [SampleHost Contents] in
theorem Held.homeless (held : Held world operation) {owned : Prop} (member : .canonical ∈ world.control.pendingCleanup) :
    owned := absurd member held.sane.listed.siblings

variable {folder : Folder Contents}

omit [SampleHost Contents] in
theorem Held.rename (held : Held world operation) {source target : FolderName}
    (found : world.folders source = some folder) (owned : target ∈ world.control.pendingCleanup → folder.owned = true) :
    Held ((world.put source none).put target (some folder)) operation where
  active := held.active
  unlisted := held.unlisted
  sane := by
    apply (held.sane.put source none nofun fun _ => nofun).put
    · intro same equal
      cases equal
      exact held.sane.numbered source folder found
    · intro member same equal
      cases equal
      exact owned member

theorem staging_ne (operationId : String) : staging operationId ≠ .canonical := nofun

theorem retired_ne (operationId : String) : retired operationId ≠ .canonical := nofun

variable {name : FolderName}

theorem removeTree_cleaned (sane : Sane world) (owned : Owned (world.folders name)) (works : Bool) :
    Cleaned name world (Op.effect _ (.removeTree name) works world).2 := by
  simp only [Op.effect]
  split
  next absent => exact .refl sane owned
  next folder found =>
    have removing : Sane { world with removals := folder :: world.removals } :=
      { numbered := sane.numbered
        recorded := sane.recorded
        listed := ⟨sane.listed.siblings, sane.listed.owned⟩
        removals := by
          intro removed member
          rcases List.mem_cons.mp member with rfl | member
          · exact owned _ found
          · exact sane.removals removed member }
    split
    next =>
      refine ⟨rfl, fun other different => put_there none different, ?_, rfl, fun _ _ member => member, removing.put name none nofun fun _ => nofun⟩
      intro left same
      rw [put_here] at same
      cases same
    next =>
      have left : Owned (some { folder with contents := SampleHost.remains folder.contents }) := by
        intro left same
        cases same
        exact owned folder found
      refine ⟨rfl, fun other different => put_there _ different, ?_, rfl, fun _ _ member => member, removing.put name _ ?_ fun _ => left⟩
      · intro found same
        rw [put_here] at same
        exact left found same
      · intro left same
        cases same
        exact sane.numbered name folder found

theorem pend_cleaned (sibling : name ≠ .canonical) (cleaned : Cleaned name world later) (works : Bool) :
    Cleaned name world (Op.effect _ (.update (.pend name)) works later).2 := by
  cases works with
  | false => exact cleaned
  | true =>
    refine ⟨?_, cleaned.elsewhere, cleaned.owned, cleaned.episode, ?_,
      ⟨cleaned.sane.numbered, cleaned.sane.recorded, cleaned.sane.removals, ?_⟩⟩
    · rw [← cleaned.active]
      simp only [Op.effect, if_true, ControlChange.decide]
      split <;> rfl
    · intro other different member
      apply cleaned.pending other different
      simp only [Op.effect, if_true, ControlChange.decide] at member
      split at member
      next => exact member
      next =>
        rcases List.mem_append.mp member with member | last
        · exact member
        · exact absurd (List.mem_singleton.mp last) different
    · simp only [Op.effect, if_true, ControlChange.decide]
      split
      next => exact cleaned.sane.listed
      next =>
        refine ⟨?_, ?_⟩
        · intro member
          rcases List.mem_append.mp member with member | last
          · exact cleaned.sane.listed.siblings member
          · exact sibling (List.mem_singleton.mp last).symm
        · intro other member
          rcases List.mem_append.mp member with member | last
          · exact cleaned.sane.listed.owned other member
          · cases List.mem_singleton.mp last
            exact cleaned.owned

theorem layout_safe {α : Type} {post : α → World Contents → Prop} {rest : (FolderName → Bool) → Sampling α}
    (sound : Sound world) (onwards : Safe Op.effect Sound post (rest fun name => (world.folders name).isSome) world) :
    Safe Op.effect Sound post (perform .layout >>= rest) world := ⟨sound, fun _ => onwards⟩

theorem inspect_safe (name : FolderName) (sound : Sound world) : Safe Op.effect Sound
    (fun answer later => later = world ∧ ∀ state, answer = .ok state → state = stateOf (world.folders name))
    (perform (.inspect name)) world := by
  apply Safe.perform sound
  intro works
  refine ⟨rfl, fun state answer => ?_⟩
  cases works with
  | false => cases answer
  | true =>
    cases answer
    rfl

theorem cleanup_safe (sibling : name ≠ .canonical) (sane : Sane world) (owned : Owned (world.folders name))
    (stops : ∀ later, Cleaned name world later → Sound later) :
    Safe Op.effect Sound (fun _ => Cleaned name world) (cleanup name) world := by
  refine ⟨stops _ (.refl sane owned), fun works => ?_⟩
  have cleaned := removeTree_cleaned sane owned works
  refine layout_safe (stops _ cleaned) ?_
  split
  next => exact ⟨stops _ cleaned, fun works => pend_cleaned sibling cleaned works⟩
  next => exact cleaned

omit [SampleHost Contents] in
theorem Held.cleaned (held : Held world operation) (cleaned : Cleaned (staging operation.operationId) world later) :
    Held later operation where
  sane := cleaned.sane
  active := cleaned.active.trans held.active
  unlisted member := held.unlisted (cleaned.pending _ (by simp [staging, retired]) member)

theorem Back.cleaned (back : Back world operation) (cleaned : Cleaned (staging operation.operationId) world later) :
    Back later operation where
  canonical := by
    rw [cleaned.elsewhere _ (by simp [staging]), cleaned.episode]
    exact back.canonical
  retired := by
    intro either
    rw [cleaned.episode] at either
    rw [World.at_, cleaned.elsewhere _ (by simp [staging])]
    exact back.retired either
  progress := by
    unfold Progress
    rw [cleaned.episode]
    rcases back.progress with unbuilt | ⟨phase, verified, _⟩
    · exact .inl unbuilt
    · exact .inr ⟨phase, verified, cleaned.owned⟩

theorem Back.distinct (back : Back world operation) : ¬ (world.episode.fresh.isSome = true ∧
    world.folders .canonical = world.episode.fresh) := by
  intro ⟨built, same⟩
  rcases back.progress with ⟨_, unbuilt⟩ | ⟨_, ⟨fresh, verified⟩, _⟩
  · rw [unbuilt] at built
    cases built
  · rw [back.canonical, verified.kept] at same
    exact verified.other same

theorem record_safe (event : HostAuditEvent) (sound : Sound world) :
    Safe Op.effect Sound (fun _ later => later = world) (record event) world :=
  ⟨sound, fun _ => rfl⟩

theorem finish_back_safe (nowMillis : Int) (held : Held world operation) (back : Back world operation) :
    Safe Op.effect Sound (fun answer later => Sound later ∧ (answer = .ok () → later.control.active = none))
      (finish operation.operationId none none .resetRolledBack nowMillis) world := by
  refine ⟨held.sound (.back back), fun works => ?_⟩
  cases works with
  | false => exact ⟨held.sound (.back back), nofun⟩
  | true =>
    have entry : Recorded.Truthful ⟨.resetRolledBack, world.folders .canonical, world.episode⟩ :=
      ⟨⟨nofun, fun fresh => absurd fresh back.distinct⟩, fun _ => back.canonical⟩
    have finished : Sound (Op.effect _
        (.update (.finish ⟨operation.operationId, none, none, .resetRolledBack, nowMillis⟩)) true world).2 := by
      apply Sane.idle
      · refine ⟨held.sane.numbered, ?_, held.sane.removals,
        ⟨held.sane.listed.siblings, held.sane.listed.owned⟩⟩
        intro recorded member
        rcases List.mem_cons.mp member with rfl | member
        · exact entry
        · exact held.sane.recorded recorded member
      · rfl
    apply (record_safe _ finished).weaken (fun _ sound => sound)
    rintro answer later rfl
    exact ⟨finished, fun _ => rfl⟩

/-- After a recorded reset the folder that was moved aside is the service's. -/
structure Replaced (operationId : String) (world : World Contents) : Prop where
  sane : Sane world
  idle : world.control.active = none
  owned : Owned (world.folders (retired operationId))

theorem finish_in_safe (nowMillis : Int) (held : Held world operation) (inside : In world operation fresh) :
    Safe Op.effect Sound
      (fun answer later => Sound later ∧ (answer = .ok () → Replaced operation.operationId later))
      (finish operation.operationId none none .reset nowMillis) world := by
  have sound := held.sound (.installed fresh inside)
  refine ⟨sound, fun works => ?_⟩
  cases works with
  | false => exact ⟨sound, nofun⟩
  | true =>
    have entry : Recorded.Truthful ⟨.reset, world.folders .canonical, world.episode⟩ := by
      refine ⟨⟨fun _ => ?_, fun _ => rfl⟩, nofun⟩
      rw [inside.canonical, inside.verified.kept]
      exact ⟨rfl, rfl⟩
    have replaced : Replaced operation.operationId (Op.effect _
        (.update (.finish ⟨operation.operationId, none, none, .reset, nowMillis⟩)) true world).2 := by
      refine ⟨?_, rfl, ?_⟩
      · have noted : Sane { world with
            recorded := ⟨.reset, world.folders .canonical, world.episode⟩ :: world.recorded } := by
          refine ⟨held.sane.numbered, ?_, held.sane.removals,
        ⟨held.sane.listed.siblings, held.sane.listed.owned⟩⟩
          intro recorded member
          rcases List.mem_cons.mp member with rfl | member
          · exact entry
          · exact held.sane.recorded recorded member
        have put := noted.put (retired operation.operationId)
          ((world.at_ .retired operation.operationId).map fun folder => { folder with owned := true }) ?_ ?_
        · exact ⟨put.numbered, put.recorded, put.removals, ⟨put.listed.siblings, put.listed.owned⟩⟩
        · intro found same
          obtain ⟨folder, here, rfl⟩ := Option.map_eq_some_iff.mp same
          exact held.sane.numbered _ folder here
        · exact fun member => absurd member held.unlisted
      · intro found same
        have here : (world.at_ .retired operation.operationId).map (fun folder => { folder with owned := true }) = some found :=
          (put_here _ _).symm.trans same
        obtain ⟨folder, _, rfl⟩ := Option.map_eq_some_iff.mp here
        rfl
    have finished := replaced.sane.idle replaced.idle
    apply (record_safe _ finished).weaken (fun _ sound => sound)
    rintro answer later rfl
    exact ⟨finished, fun _ => replaced⟩

variable {operationId : String}

theorem cleanupRetired_safe (replaced : Replaced operationId world) :
    Safe Op.effect Sound (fun _ later => Sound later ∧ later.control.active = none) (cleanupRetired operationId) world := by
  have sound := replaced.sane.idle replaced.idle
  have cleaning : Safe Op.effect Sound (fun _ later => Sound later ∧ later.control.active = none)
      (cleanup (retired operationId)) world := by
    have stops : ∀ later, Cleaned (retired operationId) world later → Sound later ∧ later.control.active = none := by
      intro later cleaned
      have idle := cleaned.active.trans replaced.idle
      exact ⟨cleaned.sane.idle idle, idle⟩
    apply (cleanup_safe (retired_ne operationId) replaced.sane replaced.owned fun later cleaned =>
      (stops later cleaned).1).weaken (fun _ sound => sound)
    exact fun _ later cleaned => stops later cleaned
  apply (inspect_safe (retired operationId) sound).bind
  rintro state later ⟨rfl, _⟩
  split
  · exact ⟨sound, replaced.idle⟩
  · exact cleaning

theorem giveUp_safe {α : Type} (cause : SampleError) (nowMillis : Int) (held : Held world operation)
    (back : Back world operation) :
    Safe Op.effect Sound (fun _ => Sound) (giveUp operation.operationId cause nowMillis : Sampling (Except SampleError α)) world := by
  apply (finish_back_safe nowMillis held back).onward
  · exact fun _ _ finished => finished.1
  · exact fun _ _ finished => finished.1

theorem cleanGiveUp_safe {α : Type} (cause : SampleError) (nowMillis : Int) (held : Held world operation)
    (back : Back world operation) (owned : Owned (world.at_ .staging operation.operationId)) :
    Safe Op.effect Sound (fun _ => Sound) (cleanGiveUp operation.operationId cause nowMillis : Sampling (Except SampleError α)) world := by
  apply (cleanup_safe (staging_ne operation.operationId) held.sane owned fun later cleaned =>
    (held.cleaned cleaned).sound (.back (back.cleaned cleaned))).bind
  intro _ later cleaned
  exact giveUp_safe cause nowMillis (held.cleaned cleaned) (back.cleaned cleaned)

theorem In.reclaim (inside : In world operation fresh) :
    Out ((world.put .canonical none).put (Sample.staging operation.operationId) (some fresh)) operation fresh where
  verified := inside.verified
  phase := by
    rw [inside.phase]
    decide
  canonical := by
    rw [put_there _ (by simp [Sample.staging]), put_here]
  staging := put_here _ _
  retired := by
    rw [World.at_, put_there _ (by simp [Sample.staging]), put_there _ (by simp)]
    exact inside.retired

theorem Out.putBack (out : Out world operation fresh) {previous : Folder Contents}
    (had : world.episode.previous = some previous) :
    Back ((world.put (Sample.retired operation.operationId) none).put .canonical (some previous)) operation where
  canonical := (put_here _ _).trans had.symm
  retired := by
    intro _
    rw [World.at_, put_there _ (by simp)]
    exact put_here _ _
  progress := by
    refine .inr ⟨out.phase, ⟨fresh, out.verified⟩, ?_⟩
    intro found same
    rw [World.at_, put_there _ (by simp), put_there _ (by simp [Sample.retired])] at same
    cases out.staging.symm.trans same
    exact out.verified.owned

theorem Out.back (out : Out world operation fresh) (had : world.episode.previous = none) : Back world operation where
  canonical := out.canonical.trans had.symm
  retired := fun _ => out.retired.trans had
  progress := by
    refine .inr ⟨out.phase, ⟨fresh, out.verified⟩, ?_⟩
    intro found same
    cases out.staging.symm.trans same
    exact out.verified.owned

theorem Out.install (out : Out world operation fresh) (phase : operation.phase = .swappedAside) :
    In ((world.put (Sample.staging operation.operationId) none).put .canonical (some fresh)) operation fresh where
  verified := out.verified
  phase := phase
  canonical := put_here _ _
  staging := by
    rw [World.at_, put_there _ (by simp)]
    exact put_here _ _
  retired := by
    rw [World.at_, put_there _ (by simp), put_there _ (by simp [Sample.staging])]
    exact out.retired

theorem Back.aside (back : Back world operation) (phase : operation.phase ≠ .building)
    (verified : Verified world.episode operation.builtManifestSha256 fresh)
    (ready : world.at_ .staging operation.operationId = some fresh) (found : world.folders .canonical = some folder) :
    Out ((world.put .canonical none).put (Sample.retired operation.operationId) (some folder)) operation fresh where
  verified := verified
  phase := phase
  canonical := by
    rw [put_there _ (by simp [Sample.retired]), put_here]
  staging := by
    rw [World.at_, put_there _ (by simp [Sample.retired]), put_there _ (by simp)]
    exact ready
  retired := (put_here _ _).trans (found.symm.trans back.canonical)

/-- What is known while an interrupted installation is undone. -/
structure Undoing (world : World Contents) (operation : ResetOperation) : Prop where
  held : Held world operation
  standing : Standing world operation
  owned : Owned (world.at_ .staging operation.operationId)

theorem Undoing.sound (undoing : Undoing world operation) : Sound world := undoing.held.sound undoing.standing

theorem Undoing.out (held : Held world operation) (out : Out world operation fresh) : Undoing world operation where
  held := held
  standing := .out fresh out
  owned := by
    intro found same
    cases out.staging.symm.trans same
    exact out.verified.owned

theorem Undoing.installed (held : Held world operation) (inside : In world operation fresh) : Undoing world operation where
  held := held
  standing := .installed fresh inside
  owned := by
    intro found same
    rw [inside.staging] at same
    cases same

def AlreadyBack (world : World Contents) (operation : ResetOperation) : Prop :=
  operation.phase = .swappedAside ∧ world.at_ .staging operation.operationId = none ∧
    world.at_ .retired operation.operationId = none ∧ world.episode.previous.isSome = true

theorem reclaimFresh_safe {swapped hadSample : Bool} (undoing : Undoing world operation)
    (phase : swapped = true ↔ operation.phase = .swappedAside)
    (had : world.episode.previous = none → world.at_ .retired operation.operationId = none → hadSample = false)
    (clear : ¬ AlreadyBack world operation) : Safe Op.effect Sound
    (fun answer later => Undoing later operation ∧
      (answer = .ok () → Back later operation ∨ ∃ fresh, Out later operation fresh))
    (reclaimFresh operation.operationId swapped hadSample) world := by
  apply layout_safe undoing.sound
  cases undoing.standing with
  | back back =>
    have still : (swapped && (world.folders .canonical).isSome && !(world.folders (staging operation.operationId)).isSome &&
        ((world.folders (retired operation.operationId)).isSome || !hadSample)) = false := by
      by_contra moving
      simp only [Bool.not_eq_false, Bool.and_eq_true, Bool.not_eq_true', Option.isSome_eq_false_iff,
        Option.isNone_iff_eq_none] at moving
      obtain ⟨⟨⟨isSwapped, here⟩, gone⟩, _⟩ := moving
      rw [back.canonical] at here
      exact clear ⟨phase.mp isSwapped, gone, back.retired (.inr (phase.mp isSwapped)), here⟩
    rw [if_neg (by rw [still]; decide)]
    exact ⟨undoing, fun _ => .inl back⟩
  | out fresh out =>
    rw [if_neg (by simp [out.canonical])]
    exact ⟨undoing, fun _ => .inr ⟨fresh, out⟩⟩
  | installed fresh inside =>
    have gone : world.folders (staging operation.operationId) = none := inside.staging
    have moving : (swapped && (world.folders .canonical).isSome && !(world.folders (staging operation.operationId)).isSome &&
        ((world.folders (retired operation.operationId)).isSome || !hadSample)) = true := by
      have isSwapped := phase.mpr inside.phase
      rw [isSwapped, inside.canonical, gone]
      cases previous : world.episode.previous with
      | none =>
        have absent := inside.retired.trans previous
        simp [had previous absent]
      | some folder =>
        have present : world.folders (retired operation.operationId) = some folder := inside.retired.trans previous
        simp [present]
    rw [if_pos moving]
    apply Safe.perform undoing.sound
    intro works
    obtain ⟨cause, failed⟩ | ⟨folder, found, _, moved⟩ :=
      rename_cases .canonical (staging operation.operationId) works world
    · rw [failed]
      exact ⟨undoing, nofun⟩
    · rw [moved]
      cases inside.canonical.symm.trans found
      have out := inside.reclaim
      exact ⟨.out (undoing.held.rename found fun _ => inside.verified.owned) out, fun _ => .inr ⟨fresh, out⟩⟩

theorem putPreviousBack_safe (undoing : Undoing world operation)
    (either : Back world operation ∨ ∃ fresh, Out world operation fresh) : Safe Op.effect Sound
    (fun answer later => Undoing later operation ∧ (answer = .ok () → Back later operation))
    (putPreviousBack operation.operationId) world := by
  apply layout_safe undoing.sound
  rcases either with back | ⟨fresh, out⟩
  · have still : (!(world.folders .canonical).isSome && (world.folders (retired operation.operationId)).isSome) = false := by
      cases previous : world.episode.previous with
      | none =>
        have absent : world.folders (retired operation.operationId) = none := back.retired (.inl previous)
        simp [absent]
      | some folder => simp [back.canonical, previous]
    rw [if_neg (by rw [still]; decide)]
    exact ⟨undoing, fun _ => back⟩
  · cases previous : world.episode.previous with
    | none =>
      have absent : world.folders (retired operation.operationId) = none := out.retired.trans previous
      rw [if_neg (by simp [absent])]
      exact ⟨undoing, fun _ => out.back previous⟩
    | some folder =>
      have present : world.folders (retired operation.operationId) = some folder := out.retired.trans previous
      rw [if_pos (by simp [out.canonical, present])]
      apply Safe.perform undoing.sound
      intro works
      obtain ⟨cause, failed⟩ | ⟨found, same, _, moved⟩ :=
        rename_cases (retired operation.operationId) .canonical works world
      · rw [failed]
        exact ⟨undoing, nofun⟩
      · rw [moved]
        cases present.symm.trans same
        have back := out.putBack previous
        refine ⟨⟨undoing.held.rename present undoing.held.homeless, .back back, ?_⟩, fun _ => back⟩
        intro staged at_
        rw [World.at_, put_there _ (by simp), put_there _ (by simp [retired])] at at_
        exact undoing.owned staged at_

theorem rollBackInstall_safe {swapped hadSample : Bool} (undoing : Undoing world operation)
    (phase : swapped = true ↔ operation.phase = .swappedAside)
    (had : world.episode.previous = none → world.at_ .retired operation.operationId = none → hadSample = false)
    (clear : ¬ AlreadyBack world operation) : Safe Op.effect Sound
    (fun answer later => Sound later ∧ (answer = .ok () → Held later operation ∧ Back later operation))
    (rollBackInstall operation.operationId swapped hadSample) world := by
  apply (reclaimFresh_safe undoing phase had clear).onward
  · rintro cause later ⟨undoing, _⟩
    exact ⟨undoing.sound, nofun⟩
  · rintro _ later ⟨undoing, reached⟩
    apply (putPreviousBack_safe undoing (reached rfl)).onward
    · rintro cause later ⟨undoing, _⟩
      exact ⟨undoing.sound, nofun⟩
    · rintro _ later ⟨undoing, reached⟩
      have back := reached rfl
      have stops : ∀ last, Cleaned (staging operation.operationId) later last → Held last operation ∧ Back last operation :=
        fun last cleaned => ⟨undoing.held.cleaned cleaned, back.cleaned cleaned⟩
      apply (cleanup_safe (staging_ne operation.operationId) undoing.held.sane undoing.owned fun last cleaned =>
        (stops last cleaned).1.sound (.back (stops last cleaned).2)).bind
      intro _ last cleaned
      exact ⟨(stops last cleaned).1.sound (.back (stops last cleaned).2), fun _ => stops last cleaned⟩

theorem install_safe (manifest : SeedManifest) (held : Held world operation) (out : Out world operation fresh)
    (phase : operation.phase = .swappedAside) : Safe Op.effect Sound
    (fun answer later => Undoing later operation ∧ ¬ AlreadyBack later operation ∧ later.episode = world.episode ∧
      (answer = .ok () → In later operation fresh)) (install operation.operationId manifest) world := by
  have waiting : ¬ AlreadyBack world operation := by
    rintro ⟨_, gone, _⟩
    rw [out.staging] at gone
    cases gone
  refine ⟨held.sound (.out fresh out), fun works => ?_⟩
  obtain ⟨cause, failed⟩ | ⟨folder, found, _, moved⟩ := rename_cases (staging operation.operationId) .canonical works world
  · rw [failed]
    exact ⟨.out held out, waiting, rfl, nofun⟩
  · rw [moved]
    cases out.staging.symm.trans found
    have inside := out.install phase
    have moving : Held ((world.put (staging operation.operationId) none).put .canonical (some fresh)) operation :=
      held.rename found held.homeless
    have undoing := Undoing.installed moving inside
    have aside : ¬ AlreadyBack ((world.put (staging operation.operationId) none).put .canonical (some fresh)) operation := by
      rintro ⟨_, _, gone, had⟩
      rw [inside.retired] at gone
      rw [gone] at had
      cases had
    apply (inspect_safe .canonical undoing.sound).onward
    · rintro cause later ⟨rfl, _⟩
      exact ⟨undoing, aside, rfl, nofun⟩
    · rintro state later ⟨rfl, _⟩
      exact ⟨undoing, aside, rfl, fun _ => inside⟩

theorem Out.swapping (held : Held world operation) (out : Out world operation fresh) :
    let operation' := { operation with phase := .swappedAside }
    let later := (Op.effect _ (.update (.setResetPhase operation.operationId .swappedAside)) true world).2
    Held later operation' ∧ Out later operation' fresh ∧ later.episode = world.episode := by
  have changed : (Op.effect _ (.update (.setResetPhase operation.operationId .swappedAside)) true world).2 =
      { world with control := { world.control with active := some (.reset { operation with phase := .swappedAside }) } } := by
    simp only [Op.effect, if_true, ControlChange.decide, SampleControl.changeReset, held.active]
    rfl
  dsimp only
  rw [changed]
  exact ⟨⟨⟨held.sane.numbered, held.sane.recorded, held.sane.removals, ⟨held.sane.listed.siblings,
      held.sane.listed.owned⟩⟩, rfl, held.unlisted⟩,
    ⟨⟨out.verified.kept, out.verified.owned, out.verified.current, out.verified.other⟩, nofun, out.canonical,
      out.staging, out.retired⟩, rfl⟩

theorem swapIn_safe (manifest : SeedManifest) (nowMillis : Int) {hadSample : Bool} (held : Held world operation)
    (out : Out world operation fresh) (had : world.episode.previous = none → hadSample = false) :
    Safe Op.effect Sound (fun _ => Sound) (swapIn operation.operationId manifest hadSample nowMillis) world := by
  refine ⟨held.sound (.out fresh out), fun works => ?_⟩
  cases works with
  | false => exact held.sound (.out fresh out)
  | true =>
    obtain ⟨held, out, episode⟩ := out.swapping held
    apply (install_safe manifest held out rfl).bind
    rintro installed later ⟨undoing, clear, same, inside⟩
    cases installed with
    | error cause =>
      apply (rollBackInstall_safe undoing (by simp) (fun absent _ => had (by rw [← episode, ← same, absent])) clear).onward
      · exact fun _ _ rolled => rolled.1
      · rintro _ last ⟨_, rolled⟩
        obtain ⟨held, back⟩ := rolled rfl
        have safe := @giveUp_safe Contents _ last _ SeedManifest cause nowMillis held back
        exact safe
    | ok _ =>
      apply (finish_in_safe nowMillis undoing.held (inside rfl)).onward
      · exact fun _ _ finished => finished.1
      · rintro _ last ⟨sound, replaced⟩
        dsimp only
        split
        · apply (cleanupRetired_safe (replaced rfl)).bind
          exact fun _ _ cleaned => cleaned.1
        · exact sound

structure Ready (world : World Contents) (operation : ResetOperation) (fresh : Folder Contents) : Prop where
  held : Held world operation
  back : Back world operation
  phase : operation.phase ≠ .building
  verified : Verified world.episode operation.builtManifestSha256 fresh
  staged : world.at_ .staging operation.operationId = some fresh

theorem Ready.owned (ready : Ready world operation fresh) : Owned (world.at_ .staging operation.operationId) := by
  intro found same
  cases ready.staged.symm.trans same
  exact ready.verified.owned

theorem Ready.out (ready : Ready world operation fresh) (empty : world.folders .canonical = none) :
    Out world operation fresh where
  verified := ready.verified
  phase := ready.phase
  canonical := empty
  staging := ready.staged
  retired := by
    have absent := ready.back.canonical.symm.trans empty
    exact (ready.back.retired (.inl absent)).trans absent.symm

theorem moveAside_safe (manifest : SeedManifest) (nowMillis : Int) (ready : Ready world operation fresh) :
    Safe Op.effect Sound (fun _ => Sound) (moveAside operation.operationId manifest nowMillis) world := by
  have sound := ready.held.sound (.back ready.back)
  apply (inspect_safe .canonical sound).onward
  · rintro cause later ⟨rfl, _⟩
    exact sound
  · rintro state later ⟨rfl, _⟩
    split
    · exact cleanGiveUp_safe _ nowMillis ready.held ready.back ready.owned
    · refine ⟨sound, fun works => ?_⟩
      obtain ⟨cause, failed⟩ | ⟨folder, found, _, moved⟩ :=
        rename_cases .canonical (retired operation.operationId) works later
      · rw [failed]
        exact cleanGiveUp_safe cause nowMillis ready.held ready.back ready.owned
      · rw [moved]
        have out := ready.back.aside ready.phase ready.verified ready.staged found
        refine swapIn_safe manifest nowMillis (ready.held.rename found fun member => absurd member ready.held.unlisted) out ?_
        intro absent
        rw [ready.back.canonical.trans absent] at found
        cases found

/-- A folder of the service's own is being filled. -/
structure Building (world : World Contents) (operation : ResetOperation) (folder : Folder Contents) : Prop where
  held : Held world operation
  back : Back world operation
  phase : operation.phase = .building
  staged : world.at_ .staging operation.operationId = some folder
  owned : folder.owned = true
  other : ∀ previous, world.episode.previous = some previous → previous.serial ≠ folder.serial

theorem Building.isOwned (building : Building world operation folder) :
    Owned (world.at_ .staging operation.operationId) := by
  intro found same
  cases building.staged.symm.trans same
  exact building.owned

theorem Building.write (building : Building world operation folder) (contents : Contents) :
    Building (world.put (staging operation.operationId) (some { folder with contents })) operation { folder with contents } where
  held :=
    { active := building.held.active
      unlisted := building.held.unlisted
      sane := by
        apply building.held.sane.put
        · intro found same
          cases same
          exact building.held.sane.numbered _ folder building.staged
        · intro _ found same
          cases same
          exact building.owned }
  back :=
    { canonical := (put_there _ (by simp [staging])).trans building.back.canonical
      retired := by
        intro either
        rw [World.at_, put_there _ (by simp [staging])]
        exact building.back.retired either
      progress := by
        rcases building.back.progress with unbuilt | ⟨phase, _⟩
        · exact .inl unbuilt
        · exact absurd building.phase phase }
  phase := building.phase
  staged := put_here _ _
  owned := building.owned
  other := building.other

theorem buildStaging_safe (building : Building world operation folder) : Safe Op.effect Sound
    (fun answer later => ∃ folder, Building later operation folder ∧
      ∀ manifest, answer = .ok manifest → SampleHost.inspect folder.contents = .current manifest)
    (buildStaging operation.operationId) world := by
  refine ⟨building.held.sound (.back building.back), fun works => ?_⟩
  have found : world.folders (staging operation.operationId) = some folder := building.staged
  cases works with
  | false =>
    simp only [Op.effect, found]
    exact ⟨_, building.write SampleHost.unfinished, nofun⟩
  | true =>
    simp only [Op.effect, found, if_true]
    have written := building.write SampleHost.seed
    apply (inspect_safe (staging operation.operationId) (written.held.sound (.back written.back))).onward
    · rintro cause later ⟨rfl, _⟩
      exact ⟨_, written, nofun⟩
    · rintro state later ⟨rfl, seen⟩
      refine ⟨_, written, ?_⟩
      intro manifest answer
      split at answer
      next same =>
        cases answer
        rw [← same, seen state rfl, put_here]
        rfl
      next => cases answer

theorem Building.ready (building : Building world operation folder) {manifest : SeedManifest}
    (current : SampleHost.inspect folder.contents = .current manifest) :
    Ready (Op.effect _ (.update (.recordBuilt operation.operationId
        (SampleHost.manifestDigest Contents manifest))) true world).2
      { operation with
        phase := .built, builtManifestSha256 := some (SampleHost.manifestDigest Contents manifest) } folder := by
  have changed : (Op.effect _ (.update (.recordBuilt operation.operationId
      (SampleHost.manifestDigest Contents manifest))) true world).2 =
      { world with
        control := { world.control with active := some (.reset { operation with
          phase := .built, builtManifestSha256 := some (SampleHost.manifestDigest Contents manifest) }) }
        episode := { world.episode with fresh := some folder } } := by
    simp only [Op.effect, if_true, ControlChange.decide, SampleControl.changeReset, building.held.active,
      ControlChange.note, building.staged]
  rw [changed]
  have verified : Verified { world.episode with fresh := some folder }
      (some (SampleHost.manifestDigest Contents manifest)) folder := by
    refine ⟨rfl, building.owned, ⟨manifest, current, rfl⟩, ?_⟩
    intro same
    exact building.other folder same rfl
  refine ⟨⟨⟨building.held.sane.numbered, building.held.sane.recorded, building.held.sane.removals,
      ⟨building.held.sane.listed.siblings, building.held.sane.listed.owned⟩⟩, rfl, building.held.unlisted⟩, ⟨?_, ?_, ?_⟩,
    nofun, verified, building.staged⟩
  · exact .inr ⟨nofun, ⟨folder, verified⟩, building.isOwned⟩
  · exact building.back.canonical
  · rintro (absent | swapped)
    · exact building.back.retired (.inl absent)
    · cases swapped

theorem rebuild_safe (nowMillis : Int) (held : Held world operation) (back : Back world operation)
    (phase : operation.phase = .building) :
    Safe Op.effect Sound (fun _ => Sound) (rebuild Contents operation.operationId nowMillis) world := by
  refine ⟨held.sound (.back back), fun works => ?_⟩
  simp only [Op.effect]
  split
  next free =>
    have kept : ∀ other, other ≠ staging operation.operationId →
        (world.put (staging operation.operationId) (some ⟨SampleHost.empty, world.serial, true⟩)).folders other =
          world.folders other := fun other different => put_there _ different
    have building : Building
        { world.put (staging operation.operationId) (some ⟨SampleHost.empty, world.serial, true⟩) with
          serial := world.serial + 1 } operation ⟨SampleHost.empty, world.serial, true⟩ := by
      have listed : Listed (world.put (staging operation.operationId) (some ⟨SampleHost.empty, world.serial, true⟩)) := by
        refine ⟨held.sane.listed.siblings, fun name member found same => ?_⟩
        by_cases here : name = staging operation.operationId
        · subst here
          cases (put_here _ _).symm.trans same
          rfl
        · exact held.sane.listed.owned name member found ((kept name here).symm.trans same)
      refine ⟨⟨⟨?_, held.sane.recorded, held.sane.removals, ⟨listed.siblings, listed.owned⟩⟩, held.active, held.unlisted⟩,
        ⟨?_, ?_, ?_⟩, phase, put_here _ _, rfl, ?_⟩
      · intro name folder found
        by_cases here : name = staging operation.operationId
        · subst here
          cases (put_here _ _).symm.trans found
          exact Nat.lt_succ_self _
        · have numbered := held.sane.numbered name folder ((kept name here).symm.trans found)
          dsimp only
          omega
      · rcases back.progress with unbuilt | ⟨built, _⟩
        · exact .inl unbuilt
        · exact absurd phase built
      · exact (kept .canonical (by simp [staging])).trans back.canonical
      · intro either
        have there := back.retired either
        exact (kept (retired operation.operationId) (by simp [staging, retired])).trans there
      · intro previous had
        have numbered := held.sane.numbered .canonical previous (back.canonical.trans had)
        dsimp only
        omega
    apply (buildStaging_safe building).bind
    rintro built later ⟨folder, building, verified⟩
    cases built with
    | error cause => exact cleanGiveUp_safe cause nowMillis building.held building.back building.isOwned
    | ok manifest =>
      refine ⟨building.held.sound (.back building.back), fun works => ?_⟩
      cases works with
      | false => exact building.held.sound (.back building.back)
      | true =>
        have ready := building.ready (verified manifest rfl)
        apply layout_safe (ready.held.sound (.back ready.back))
        split
        next =>
          have safe := moveAside_safe manifest nowMillis ready
          exact safe
        next empty =>
          have out := ready.out (by simpa using empty)
          have safe := swapIn_safe manifest nowMillis ready.held out fun _ => rfl
          exact safe
  next => exact giveUp_safe _ nowMillis held back

theorem begun (nowMillis : Int) (sane : Sane world) (idle : world.control.active = none)
    (free : world.folders .canonical = none → world.folders (retired operationId) = none)
    (unlisted : retired operationId ∉ world.control.pendingCleanup) :
    let operation : ResetOperation := ⟨operationId, .building, nowMillis, none⟩
    let later := (Op.effect _ (.update (.begin operationId nowMillis)) true world).2
    Held later operation ∧ Back later operation := by
  have changed : (Op.effect _ (.update (.begin operationId nowMillis)) true world).2 =
      { world with
        control := { world.control with active := some (.reset ⟨operationId, .building, nowMillis, none⟩) }
        episode := ⟨world.folders .canonical, none⟩ } := by
    simp only [Op.effect, if_true, ControlChange.decide, idle]
    rfl
  dsimp only
  rw [changed]
  refine ⟨⟨⟨sane.numbered, sane.recorded, sane.removals, ⟨sane.listed.siblings, sane.listed.owned⟩⟩, rfl, unlisted⟩,
    ⟨.inl ⟨rfl, rfl⟩, rfl, ?_⟩⟩
  rintro (absent | swapped)
  · exact free absent
  · cases swapped

/-- Where the operation's own names stand before it begins. -/
structure Unused (operationId : String) (world : World Contents) : Prop where
  free : world.folders .canonical = none → world.folders (retired operationId) = none
  unlisted : retired operationId ∉ world.control.pendingCleanup

theorem replace_safe (nowMillis : Int) (sound : Sound world) (unused : Unused operationId world) :
    Safe Op.effect Sound (fun _ => Sound) (replace Contents operationId nowMillis) world := by
  unfold replace
  split
  next =>
    refine ⟨sound, fun works => ?_⟩
    cases works with
    | false => exact sound
    | true =>
      simp only [Op.effect, if_true]
      dsimp only [Program.bind]
      split
      next terminal _ =>
        split
        · exact ⟨sound, fun _ => sound⟩
        · exact sound
      next =>
        refine ⟨sound, fun works => ?_⟩
        cases works with
        | false => exact sound
        | true =>
          cases active : world.control.active with
          | some operation =>
            simp only [Op.effect, if_true, ControlChange.decide, active]
            exact sound
          | none =>
            obtain ⟨held, back⟩ := begun nowMillis sound.sane active unused.free unused.unlisted
            have safe := rebuild_safe nowMillis held back rfl
            simp only [Op.effect, if_true, ControlChange.decide, active] at safe ⊢
            exact safe
  next => exact sound

theorem prepare_safe (opened : Option WorkspaceKind) (nowMillis : Int) (sound : Sound world)
    (unused : Unused operationId world) :
    Safe Op.effect Sound (fun _ => Sound) (prepare Contents opened operationId nowMillis) world := by
  unfold prepare
  split
  · exact sound
  refine ⟨sound, fun works => ?_⟩
  cases works with
  | false => exact sound
  | true =>
    show Safe Op.effect Sound (fun _ => Sound) (if world.control.active.isSome then _ else _) world
    split
    · exact sound
    apply (inspect_safe .canonical sound).onward
    · rintro cause later ⟨rfl, _⟩
      exact sound
    · rintro state later ⟨rfl, _⟩
      have replacing : Safe Op.effect Sound (fun _ => Sound)
          ((replace Contents operationId nowMillis).onward fun manifest => pure (.ok (PreparedSample.built manifest))) later := by
        apply (replace_safe nowMillis sound unused).onward
        · exact fun _ _ sound => sound
        · exact fun _ _ sound => sound
      cases state with
      | current manifest => exact sound
      | foreign what => exact sound
      | absent => exact replacing
      | outdated what => exact replacing

theorem reset_safe (opened : WorkspaceKind) (nowMillis : Int) (sound : Sound world) (unused : Unused operationId world) :
    Safe Op.effect Sound (fun _ => Sound) (reset Contents opened operationId nowMillis) world := by
  unfold reset
  split
  · exact sound
  apply (inspect_safe .canonical sound).onward
  · rintro cause later ⟨rfl, _⟩
    exact sound
  · rintro state later ⟨rfl, _⟩
    split
    · exact sound
    · exact replace_safe nowMillis sound unused

theorem sweepAll_safe (names : List FolderName) (sane : Sane world) (idle : world.control.active = none)
    (owned : ∀ name ∈ names, Owned (world.folders name)) :
    Safe Op.effect Sound (fun _ => Sound) (sweepAll names) world := by
  induction names generalizing world with
  | nil => exact sane.idle idle
  | cons name rest swept =>
    refine ⟨sane.idle idle, fun works => ?_⟩
    have cleaned := removeTree_cleaned sane (owned name List.mem_cons_self) works
    have idle' := cleaned.active.trans idle
    have others : ∀ other ∈ rest, Owned ((Op.effect _ (.removeTree name) works world).2.folders other) := by
      intro other member
      by_cases here : other = name
      · subst here
        exact cleaned.owned
      · rw [cleaned.elsewhere other here]
        exact owned other (List.mem_cons_of_mem _ member)
    have onwards := swept cleaned.sane idle' others
    show Safe Op.effect Sound (fun _ => Sound) (if (Op.effect _ (.removeTree name) works world).1 = true then _ else _) _
    split
    · refine ⟨cleaned.sane.idle idle', fun works => ?_⟩
      cases works with
      | false => exact onwards
      | true =>
        refine swept ⟨cleaned.sane.numbered, cleaned.sane.recorded, cleaned.sane.removals, ?_⟩ idle' others
        refine ⟨fun member => ?_, fun other member => ?_⟩
        · exact cleaned.sane.listed.siblings (List.mem_filter.mp member).1
        · exact cleaned.sane.listed.owned other (List.mem_filter.mp member).1
    · exact onwards

theorem sweep_safe (sane : Sane world) (idle : world.control.active = none) :
    Safe Op.effect Sound (fun _ => Sound) sweep world := by
  refine ⟨sane.idle idle, fun works => ?_⟩
  cases works with
  | false => exact sane.idle idle
  | true => exact sweepAll_safe world.control.pendingCleanup sane idle sane.listed.owned

theorem installedFresh_safe (undoing : Undoing world operation) (clear : ¬ AlreadyBack world operation) :
    Safe Op.effect Sound
      (fun answer later => later = world ∧ (answer = .ok true → ∃ fresh, In world operation fresh))
      (installedFresh Contents operation) world := by
  apply layout_safe undoing.sound
  split
  next last =>
    obtain ⟨phase, gone⟩ := last
    have empty : world.folders (staging operation.operationId) = none := by simpa using gone
    have gone : world.at_ .staging operation.operationId = none := empty
    apply (inspect_safe .canonical undoing.sound).onward
    · rintro cause later ⟨rfl, _⟩
      exact ⟨rfl, nofun⟩
    · rintro state later ⟨rfl, seen⟩
      refine ⟨rfl, fun answer => ?_⟩
      cases undoing.standing with
      | installed fresh inside => exact ⟨fresh, inside⟩
      | out fresh out =>
        rw [out.staging] at gone
        cases gone
      | back back =>
        have absent : later.episode.previous = none := by
          by_contra had
          exact clear ⟨phase, gone, back.retired (.inr phase), Option.isSome_iff_ne_none.mpr had⟩
        have empty := back.canonical.trans absent
        rw [seen state rfl, empty] at answer
        cases answer
  next => exact ⟨rfl, nofun⟩

theorem resolveReset_safe (nowMillis : Int) (undoing : Undoing world operation) (clear : ¬ AlreadyBack world operation) :
    Safe Op.effect Sound (fun answer later => Sound later ∧ ∀ outcome, answer = .ok outcome → later.control.active = none)
      (resolveReset Contents operation nowMillis) world := by
  apply (installedFresh_safe undoing clear).onward
  · rintro cause later ⟨rfl, _⟩
    exact ⟨undoing.sound, nofun⟩
  · rintro installed later ⟨rfl, inside⟩
    cases installed with
    | true =>
      obtain ⟨fresh, inside⟩ := inside rfl
      apply (finish_in_safe nowMillis undoing.held inside).onward
      · exact fun cause _ finished => ⟨finished.1, nofun⟩
      · rintro _ last ⟨_, replaced⟩
        apply (cleanupRetired_safe (replaced rfl)).bind
        rintro _ final ⟨sound, idle⟩
        exact ⟨sound, fun _ _ => idle⟩
    | false =>
      apply layout_safe undoing.sound
      have hadSample : later.at_ .retired operation.operationId = none →
          (later.folders (retired operation.operationId)).isSome = false := by
        intro gone
        exact Option.isSome_eq_false_iff.mpr (Option.isNone_iff_eq_none.mpr gone)
      apply (rollBackInstall_safe undoing (by simp) (fun _ => hadSample) clear).onward
      · exact fun cause _ rolled => ⟨rolled.1, nofun⟩
      · rintro _ last ⟨_, rolled⟩
        obtain ⟨held, back⟩ := rolled rfl
        apply (finish_back_safe nowMillis held back).onward
        · exact fun cause _ finished => ⟨finished.1, nofun⟩
        · exact fun _ final finished => ⟨finished.1, fun _ _ => finished.2 rfl⟩

/-- A start finds nothing of others under the staging name, and no previous sample that
was put back already without a record of it. -/
def StartClear (world : World Contents) : Prop :=
  ∀ operation, world.control.active = some (.reset operation) →
    Owned (world.at_ .staging operation.operationId) ∧ ¬ AlreadyBack world operation

theorem reconcile_safe (nowMillis : Int) (sound : Sound world) (clear : StartClear world) :
    Safe Op.effect Sound (fun _ => Sound) (reconcile Contents nowMillis) world := by
  refine ⟨sound, fun works => ?_⟩
  cases works with
  | false => exact sound
  | true =>
    have resolved : Safe Op.effect Sound
        (fun answer later => Sound later ∧ ∀ outcome, answer = .ok outcome → later.control.active = none)
        (resolveActive Contents nowMillis world.control.active) world := by
      cases active : world.control.active with
      | none => exact ⟨sound, fun _ _ => active⟩
      | some found =>
        obtain ⟨operation, rfl, standing⟩ := sound.standing found active
        obtain ⟨owned, notBack⟩ := clear operation active
        have unlisted := sound.unlisted active
        apply (resolveReset_safe nowMillis ⟨⟨sound.sane, active, unlisted⟩, standing, owned⟩ notBack).onward
        · exact fun cause _ done => ⟨done.1, nofun⟩
        · exact fun outcome _ done => ⟨done.1, fun _ _ => done.2 outcome rfl⟩
    apply resolved.onward
    · exact fun _ _ done => done.1
    · rintro outcome later ⟨sound, idle⟩
      apply (sweep_safe sound.sane (idle outcome rfl)).bind
      exact fun _ _ sound => sound

end

section
variable [SampleHost Contents] {before after : World Contents} {event : Event}

def Call.operationId : Call → String
  | .prepare _ operationId _ | .reset _ operationId _ => operationId

/-- A reset's own names are unused when it is asked for, a start can tell what it finds,
and nobody else takes a name that is written down for removal. -/
def Orderly : Event → World Contents → World Contents → Prop
  | .call call _, before, _ => Unused call.operationId before
  | .start _ _, before, _ => StartClear before
  | .elsewhere, _, after => ∀ name ∈ after.control.pendingCleanup, Owned (after.folders name)

theorem Sound.elsewhere (sound : Sound before) (elsewhere : Elsewhere before after)
    (owned : ∀ name ∈ after.control.pendingCleanup, Owned (after.folders name)) : Sound after := by
  apply Sane.idle
  · refine ⟨elsewhere.numbered, ?_, ?_, ?_, owned⟩
    · rw [elsewhere.recorded]
      exact sound.sane.recorded
    · rw [elsewhere.removals]
      exact sound.sane.removals
    · rw [elsewhere.control]
      exact sound.sane.listed.siblings
  · rw [elsewhere.control]
    exact elsewhere.idle

theorem Sound.step (sound : Sound before) (orderly : Orderly event before after) (step : Step event before after) :
    Sound after := by
  cases event with
  | call call schedule =>
    cases step
    cases call with
    | prepare opened operationId nowMillis => exact (prepare_safe opened nowMillis sound orderly).keeps schedule
    | reset opened operationId nowMillis => exact (reset_safe opened nowMillis sound orderly).keeps schedule
  | start nowMillis schedule =>
    cases step
    exact (reconcile_safe nowMillis sound orderly).keeps schedule
  | elsewhere => exact sound.elsewhere step orderly

theorem Initial.sound (initial : Initial before) : Sound before := by
  apply Sane.idle
  · refine ⟨initial.numbered, ?_, ?_, ?_, ?_⟩
    · rw [initial.recorded]
      exact nofun
    · rw [initial.removals]
      exact nofun
    · rw [initial.control]
      exact nofun
    · rw [initial.control]
      exact nofun
  · rw [initial.control]
    rfl

def OrderlyStep (event : Event) (before after : World Contents) : Prop :=
  Orderly event before after ∧ Step event before after

/-- As long as every start can tell what it finds, the previous sample is never lost
before a reset is recorded, and every outcome recorded is the true one. -/
theorem sample_crash_safe {start later : World Contents} {events : List Event} (initial : Initial start)
    (run : Evolves OrderlyStep start events later) : CrashSafe later := by
  have sound : Sound later := by
    apply run.invariant Sound
    · exact fun event before after step sound => sound.step step.1 step.2
    · exact initial.sound
  exact sound.crashSafe

end

namespace Interrupted

def manifest : SeedManifest where
  seedId := "pmc-demo"
  seedVersion := 2
  schemaVersion := 48
  seedClockMillis := 1790000000000
  generatorVersion := "1.0.0"
  ledgerRevision := 40
  counts := []
  vaultFiles := []
  logicalSnapshotSha256 := "5d1c"

scoped instance : SampleHost String where
  empty := ""
  seed := "second seed"
  seedManifest := manifest
  unfinished := "second"
  remains contents := contents
  inspect contents :=
    if contents = "" then .absent
    else if contents = "second seed" then .current manifest
    else .outdated "an older seed or schema"
  readManifest contents := if contents = "second seed" then some manifest else none
  manifestDigest manifest := manifest.logicalSnapshotSha256

def initial : World String where
  control := .default
  folders name := if name = .canonical then some ⟨"first seed", 0, false⟩ else none
  serial := 1
  episode := ⟨none, none⟩
  recorded := []
  removals := []

theorem initially : Initial initial where
  control := rfl
  recorded := rfl
  removals := rfl
  numbered := by
    intro name folder found
    unfold initial at found
    dsimp only at found
    split at found
    · cases found
      exact Nat.one_pos
    · cases found

def resetting (schedule : List Bool) : Event := .call (.reset .live "reset-1" 1000) schedule

def starting : Event := .start 2000 (List.replicate 20 true)

def stopped (schedule : List Bool) : World String := Call.after (.reset .live "reset-1" 1000) schedule initial

def started (schedule : List Bool) : World String :=
  ((reconcile String 2000).attempt Op.effect (List.replicate 20 true) (stopped schedule)).1

/-- The process stops when the previous sample has been moved aside. -/
def aside : List Bool := List.replicate 10 true

/-- The fresh sample cannot be installed, the previous one is put back, and the process
stops before that is recorded. -/
def putBack : List Bool := List.replicate 11 true ++ false :: List.replicate 5 true

end Interrupted

open Interrupted

theorem sample_put_back : CrashSafe (started aside) ∧
    (started aside).folders .canonical = some ⟨"first seed", 0, false⟩ := by
  have active : (stopped aside).control.active = some (.reset ⟨"reset-1", .built, 1000, some "5d1c"⟩) := by decide +kernel
  have staged : (stopped aside).at_ .staging "reset-1" = some ⟨"second seed", 1, true⟩ := by decide +kernel
  have clear : StartClear (stopped aside) := by
    intro operation same
    cases active.symm.trans same
    refine ⟨fun found here => ?_, fun back => ?_⟩
    · cases staged.symm.trans here
      rfl
    · cases back.1
  have run : Evolves OrderlyStep initial [resetting aside, starting] (started aside) :=
    .move starting (.move (resetting aside) .start ⟨⟨nofun, nofun⟩, rfl⟩) ⟨clear, rfl⟩
  exact ⟨sample_crash_safe initially run, by decide +kernel⟩

/-- The next start takes the previous sample for the fresh one, and removes it. -/
theorem sample_lost : Initial initial ∧ Evolves Step initial [resetting putBack, starting] (started putBack) ∧
    ¬ CrashSafe (started putBack) := by
  refine ⟨initially, .move starting (.move (resetting putBack) .start rfl) rfl, fun safe => ?_⟩
  have lost : (started putBack).recorded.any (fun entry => entry.outcome = .resetRolledBack &&
      entry.canonical.isNone && entry.episode.previous.isSome) = true := by decide +kernel
  obtain ⟨entry, member, said⟩ := List.any_eq_true.mp lost
  simp only [Bool.and_eq_true, decide_eq_true_eq, Option.isNone_iff_eq_none] at said
  obtain ⟨⟨outcome, gone⟩, had⟩ := said
  rw [← (safe.recorded entry member).previous outcome, gone] at had
  cases had

end MissionControl.Sample

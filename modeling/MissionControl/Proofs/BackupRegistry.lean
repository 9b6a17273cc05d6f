import MissionControl.Backup.Service
import MissionControl.Lib.Interleaving
import Mathlib.Algebra.GroupWithZero.Nat
import Mathlib.Data.List.Nodup

/-! Backups that take turns: what the registry lists was verified, and what was verified and
registered stays. Only one backup at a time runs in a work area. -/

namespace MissionControl.Backup
open Program Interleaving

section
variable [Storage]

/-- The files in a destination that are a backup's own. -/
def BackupInput.owns (input : BackupInput) (path : Path) : Prop :=
  isValidArchiveId input.archiveId = true ∧ (path = input.finalPath ∨ path = input.partialPath)

/-- An archive of exactly what the backup was given. -/
def Publication.Faithful (publication : Publication) : Prop :=
  publication.container = .sealed publication.input.passphrase
    (manifestFor publication.input.manifestInput
      [⟨inventoryMember, publication.input.snapshot.inventory.bytes⟩, ⟨ledgerMember, publication.input.snapshot.contents⟩,
        ⟨settingsMember, publication.input.settingsJson⟩])
    [⟨inventoryMember, publication.input.snapshot.inventory.bytes⟩, ⟨ledgerMember, publication.input.snapshot.contents⟩,
      ⟨settingsMember, publication.input.settingsJson⟩]

structure Describes (record : BackupRecord) (publication : Publication) : Prop where
  archive : record.archiveId = publication.input.archiveId
  place : Path.mk record.destination record.fileName = publication.input.finalPath
  digest : record.containerSha256 = Storage.containerSha256 publication.container
  bytes : record.containerBytes = Storage.containerBytes publication.container

/-- Every record of the registry describes a faithful archive that was renamed into place, and
no archive is listed twice. -/
structure Registered (world : World) : Prop where
  described : ∀ record ∈ world.registry.records, ∃ publication ∈ world.published,
    Describes record publication ∧ publication.Faithful
  once : (world.registry.records.map BackupRecord.archiveId).Nodup

abbrev Backups := Call Op World BackupInput Ended

def Lasting (input : BackupInput) : Ended → World → Prop
  | .published record (.ok ()), world => record ∈ world.registry.records ∧ record.archiveId = input.archiveId
  | .unpublished cause, world => cause ≠ .residue → ∀ path, input.owns path → world.files path = none
  | _, _ => True

structure Truthful (world : World) (calls : String → Option Backups) (left : List Backups) : Prop where
  registered : Registered world
  lasting : ∀ call, call ∈ left ∨ (∃ work, calls work = some call) → ∀ ended, call.rest = .done ended →
    Lasting call.request ended world
  cleaned : ∀ work call cause, calls work = some call → call.rest = .done (.unpublished cause) → cause ≠ .residue →
    world.work call.request.work = .empty
  apart : ∀ call, call ∈ left ∨ (∃ work, calls work = some call) → ∀ action ∈ call.actions,
    (∀ path, ¬ call.request.owns path → action.after.files path = action.before.files path) ∧
    ∀ other : BackupInput, other.archiveId ≠ call.request.archiveId → ∀ path, other.owns path → ¬ call.request.owns path

structure Initial (start : World) : Prop where
  registry : start.registry = .default
  published : start.published = []
  files : ∀ (input : BackupInput) path, input.owns path → start.files path = none

def Distinct (one other : BackupInput) : Prop := one.archiveId ≠ other.archiveId

end

theorem archiveCharacter {character : Char} (valid : character.isDigit = true ∨ character.isLower = true) :
    character.isAlphanum = true ∧ character.toLower = character := by
  constructor
  · rcases valid with digit | lower
    · simp [Char.isAlphanum, digit]
    · change (character.isUpper || character.isLower || character.isDigit) = true
      simp [lower]
  · have low : ¬(character.val ≥ 'A'.val ∧ character.val ≤ 'Z'.val) := by
      rintro ⟨above, upper⟩
      rcases valid with digit | lower
      · simp only [Char.isDigit, Bool.and_eq_true, decide_eq_true_eq] at digit
        exact absurd (Nat.le_trans above digit.2) (by decide)
      · change (decide (character.val ≥ 'a'.val) && decide (character.val ≤ 'z'.val)) = true at lower
        simp only [Bool.and_eq_true, decide_eq_true_eq] at lower
        exact absurd (Nat.le_trans lower.1 upper) (by decide)
    exact dif_neg low

theorem validArchiveId_name {archiveId : String} (valid : isValidArchiveId archiveId = true) :
    (archiveId.toList.filter Char.isAlphanum).map Char.toLower = archiveId.toList := by
  simp only [isValidArchiveId, Bool.and_eq_true, List.all_eq_true, Bool.or_eq_true] at valid
  rw [List.filter_eq_self.mpr fun character member => (archiveCharacter (valid.2 character member)).1]
  exact (List.map_congr_left fun character member => (archiveCharacter (valid.2 character member)).2).trans (List.map_id _)

theorem separated {time time' rest rest' : List Char} (unused : '-' ∉ time) (unused' : '-' ∉ time')
    (same : time ++ '-' :: rest = time' ++ '-' :: rest') : rest = rest' := by
  induction time generalizing time' with
  | nil =>
    cases time' with
    | nil => exact (List.cons.inj same).2
    | cons head tail => exact absurd ((List.cons.inj same).1 ▸ List.mem_cons_self) unused'
  | cons head tail onwards =>
    cases time' with
    | nil => exact absurd ((List.cons.inj same).1 ▸ List.mem_cons_self) unused
    | cons head' tail' =>
      exact onwards (fun member => unused (List.mem_cons_of_mem _ member))
        (fun member => unused' (List.mem_cons_of_mem _ member)) (List.cons.inj same).2

def shownTime (now : UtcTimestamp) : List Char := (toRfc3339Utc now).toList.filter Char.isAlphanum

theorem shownTime_unseparated (now : UtcTimestamp) : '-' ∉ shownTime now :=
  fun member => absurd (List.mem_filter.mp member).2 (by decide)

theorem archiveFileName_toList {archiveId : String} (now : UtcTimestamp) (valid : isValidArchiveId archiveId = true) :
    (archiveFileName now archiveId).toList =
      archivePrefix.toList ++ (shownTime now ++ '-' :: (archiveId.toList ++ archiveSuffix.toList)) := by
  unfold archiveFileName shownTime
  rw [String.toList_append, String.toList_append, String.toList_append, String.toList_append, String.toList_ofList,
    validArchiveId_name valid, String.toList_ofList, String.toList_ofList, List.append_assoc, List.append_assoc, List.append_assoc]
  rfl

theorem archiveFileName_inj {now now' : UtcTimestamp} {archiveId archiveId' : String} (valid : isValidArchiveId archiveId = true)
    (valid' : isValidArchiveId archiveId' = true) (same : archiveFileName now archiveId = archiveFileName now' archiveId') :
    archiveId = archiveId' := by
  have characters := congrArg String.toList same
  rw [archiveFileName_toList now valid, archiveFileName_toList now' valid'] at characters
  exact String.toList_injective (List.append_cancel_right
    (separated (shownTime_unseparated now) (shownTime_unseparated now') (List.append_cancel_left characters)))

theorem partial_ne_final {one other : BackupInput} (valid : isValidArchiveId other.archiveId = true) :
    one.partialPath ≠ other.finalPath := by
  intro same
  have heads := congrArg (fun path => path.name.toList.head?) same
  simp only [BackupInput.partialPath, BackupInput.finalPath, BackupInput.fileName, archiveFileName_toList _ valid,
    String.toList_append, List.append_assoc, List.head?_append] at heads
  have dot : ".".toList.head? = some '.' := by decide
  have letter : archivePrefix.toList.head? = some 'p' := by decide
  rw [dot, letter] at heads
  exact absurd (Option.some.inj heads) (by decide)

theorem owns_apart {one other : BackupInput} (distinct : Distinct one other) {path : Path} (owned : other.owns path) :
    ¬ one.owns path := by
  rintro ⟨valid, mine⟩
  obtain ⟨valid', theirs⟩ := owned
  have names : one.fileName ≠ other.fileName := fun same => distinct (archiveFileName_inj valid valid' same)
  rcases mine with rfl | rfl
  · rcases theirs with same | same
    · exact names (congrArg Path.name same)
    · exact partial_ne_final valid same.symm
  · rcases theirs with same | same
    · exact partial_ne_final valid' same
    · have characters := congrArg (fun path => path.name.toList) same
      simp only [BackupInput.partialPath, String.toList_append, List.append_cancel_left_eq, List.append_cancel_right_eq]
        at characters
      exact names (String.toList_injective characters)

section

/-- What a backup counts on while others work: nobody touches its work area, its files and its
record, and the registry changes only under a new revision. -/
structure Relies (input : BackupInput) (before after : World) : Prop where
  work : after.work input.work = before.work input.work
  files : ∀ path, input.owns path → after.files path = before.files path
  records : ∀ record : BackupRecord, record.archiveId = input.archiveId →
    (record ∈ after.registry.records ↔ record ∈ before.registry.records)
  revision : before.registry.revision ≤ after.registry.revision
  unchanged : after.registry.revision = before.registry.revision → after.registry = before.registry
  published : ∀ publication ∈ before.published, publication ∈ after.published

structure Guarantees (input : BackupInput) (before after : World) : Prop where
  work : ∀ work, work ≠ input.work → after.work work = before.work work
  files : ∀ path, ¬ input.owns path → after.files path = before.files path
  records : ∀ record : BackupRecord, record.archiveId ≠ input.archiveId →
    (record ∈ after.registry.records ↔ record ∈ before.registry.records)
  revision : before.registry.revision ≤ after.registry.revision
  unchanged : after.registry.revision = before.registry.revision → after.registry = before.registry
  published : ∀ publication ∈ before.published, publication ∈ after.published

/-- What a backup finds when no other had its identifier. -/
structure Fresh (input : BackupInput) (world : World) : Prop where
  files : ∀ path, input.owns path → world.files path = none
  unlisted : ∀ record ∈ world.registry.records, record.archiveId ≠ input.archiveId

variable {input one other : BackupInput} {world before after last : World}

theorem Relies.refl (input : BackupInput) (world : World) : Relies input world world :=
  ⟨rfl, fun _ _ => rfl, fun _ _ => .rfl, le_rfl, fun _ => rfl, fun _ held => held⟩

theorem Relies.trans (first : Relies input before after) (second : Relies input after last) : Relies input before last where
  work := second.work.trans first.work
  files path owned := (second.files path owned).trans (first.files path owned)
  records record own := (second.records record own).trans (first.records record own)
  revision := first.revision.trans second.revision
  unchanged same := by
    have revision := first.revision
    have later := second.revision
    rw [second.unchanged (by omega), first.unchanged (by omega)]
  published publication held := second.published publication (first.published publication held)

theorem Guarantees.refl (input : BackupInput) (world : World) : Guarantees input world world :=
  ⟨fun _ _ => rfl, fun _ _ => rfl, fun _ _ => .rfl, le_rfl, fun _ => rfl, fun _ held => held⟩

theorem Guarantees.relied (elsewhere : one.work ≠ other.work) (distinct : Distinct one other)
    (guarantees : Guarantees one before after) : Relies other before after where
  work := guarantees.work other.work elsewhere.symm
  files path owned := guarantees.files path (owns_apart distinct owned)
  records record own := guarantees.records record (own ▸ distinct.symm)
  revision := guarantees.revision
  unchanged := guarantees.unchanged
  published := guarantees.published

theorem Fresh.later (distinct : Distinct one other) (guarantees : Guarantees one before after) (fresh : Fresh other before) :
    Fresh other after where
  files path owned := (guarantees.files path (owns_apart distinct owned)).trans (fresh.files path owned)
  unlisted record held own :=
    fresh.unlisted record ((guarantees.records record (own ▸ distinct.symm)).mp held) own

theorem Lasting.kept {ended : Ended}
    (files : ∀ path, input.owns path → after.files path = before.files path)
    (records : ∀ record : BackupRecord, record.archiveId = input.archiveId → record ∈ before.registry.records →
      record ∈ after.registry.records) (lasting : Lasting input ended before) : Lasting input ended after := by
  cases ended with
  | unsnapped cause => trivial
  | unpublished cause => exact fun cleaned path owned => (files path owned).trans (lasting cleaned path owned)
  | published record registered =>
    cases registered with
    | error cause => trivial
    | ok _ => exact ⟨records record lasting.2 lasting.1, lasting.2⟩

theorem Lasting.later {ended : Ended} (distinct : Distinct one other) (guarantees : Guarantees one before after)
    (lasting : Lasting other ended before) : Lasting other ended after :=
  lasting.kept (fun path owned => guarantees.files path (owns_apart distinct owned))
    fun record own held => (guarantees.records record (own ▸ distinct.symm)).mpr held

theorem Guarantees.setWork (area : WorkArea) : Guarantees input world (world.setWork input.work area) where
  work _ elsewhere := if_neg elsewhere
  files _ _ := rfl
  records _ _ := .rfl
  revision := le_rfl
  unchanged _ := rfl
  published _ held := held

theorem Guarantees.setFile {path : Path} (owned : input.owns path) (container : Option Container) :
    Guarantees input world (world.setFile path container) where
  work _ _ := rfl
  files other foreign := if_neg fun (same : other = path) => foreign (same ▸ owned)
  records _ _ := .rfl
  revision := le_rfl
  unchanged _ := rfl
  published _ held := held

theorem Registered.of_same [Storage] (registered : Registered before) (registry : after.registry = before.registry)
    (published : ∀ publication ∈ before.published, publication ∈ after.published) : Registered after := by
  constructor
  · intro record held
    rw [registry] at held
    obtain ⟨publication, member, describes⟩ := registered.described record held
    exact ⟨publication, published publication member, describes⟩
  · rw [registry]
    exact registered.once

/-- Where a backup stands: what its work area and its two files hold, while the registry does
not list it. -/
structure Stands (input : BackupInput) (area : WorkArea) (unfinished finished : Option Container) (world : World) : Prop where
  work : world.work input.work = area
  unfinished : isValidArchiveId input.archiveId = true → world.files input.partialPath = unfinished
  finished : isValidArchiveId input.archiveId = true → world.files input.finalPath = finished
  unlisted : ∀ record ∈ world.registry.records, record.archiveId ≠ input.archiveId

variable {area : WorkArea} {unfinished finished : Option Container}

theorem Stands.later (relied : Relies input before after) (stands : Stands input area unfinished finished before) :
    Stands input area unfinished finished after where
  work := relied.work.trans stands.work
  unfinished valid := (relied.files _ ⟨valid, .inr rfl⟩).trans (stands.unfinished valid)
  finished valid := (relied.files _ ⟨valid, .inl rfl⟩).trans (stands.finished valid)
  unlisted record held own := stands.unlisted record ((relied.records record own).mp held) own

theorem Stands.setWork (stands : Stands input area unfinished finished world) (area' : WorkArea) :
    Stands input area' unfinished finished (world.setWork input.work area') where
  work := if_pos rfl
  unfinished := stands.unfinished
  finished := stands.finished
  unlisted := stands.unlisted

theorem Stands.setPartial (stands : Stands input area unfinished finished world)
    (valid : isValidArchiveId input.archiveId = true) (container : Option Container) :
    Stands input area container finished (world.setFile input.partialPath container) where
  work := stands.work
  unfinished _ := if_pos rfl
  finished _ := (if_neg (partial_ne_final valid).symm).trans (stands.finished valid)
  unlisted := stands.unlisted

theorem Stands.setFinal (stands : Stands input area unfinished finished world)
    (valid : isValidArchiveId input.archiveId = true) (container : Option Container) :
    Stands input area unfinished container (world.setFile input.finalPath container) where
  work := stands.work
  unfinished _ := (if_neg (partial_ne_final valid)).trans (stands.unfinished valid)
  finished _ := if_pos rfl
  unlisted := stands.unlisted

theorem Fresh.stands (fresh : Fresh input world) : Stands input (world.work input.work) none none world :=
  ⟨rfl, fun valid => fresh.files _ ⟨valid, .inr rfl⟩, fun valid => fresh.files _ ⟨valid, .inl rfl⟩, fresh.unlisted⟩

end

section
variable [Storage] {input : BackupInput} {α β ε : Type} {world : World} {actions : List (Action World)}
  {area : WorkArea} {unfinished finished : Option Container}

abbrev Met (input : BackupInput) (post : α → World → Prop) (program : Program Op α) (actions : List (Action World))
    (world : World) : Prop :=
  Meets effect Registered (Relies input) (Guarantees input) (fun _ => post) program actions world

structure Behaves (input : BackupInput) (before after : World) : Prop where
  registered : Registered before → Registered after
  guarantees : Guarantees input before after

theorem Behaves.refl (input : BackupInput) (world : World) : Behaves input world world := ⟨id, .refl input world⟩

theorem Behaves.setWork (area : WorkArea) : Behaves input world (world.setWork input.work area) :=
  ⟨fun registered => registered.of_same rfl fun _ held => held, .setWork area⟩

theorem Behaves.setFile {path : Path} (owned : input.owns path) (container : Option Container) :
    Behaves input world (world.setFile path container) :=
  ⟨fun registered => registered.of_same rfl fun _ held => held, .setFile owned container⟩

theorem acting {op : Op β} {rest : β → Program Op α} {post : α → World → Prop}
    (stands : Stands input area unfinished finished world)
    (steps : ∀ actions world works, Stands input area unfinished finished world →
      Behaves input world (effect _ op works world).2 ∧
      Met input post (rest (effect _ op works world).1) actions (effect _ op works world).2) :
    Met input post (perform op >>= rest) actions world := by
  apply Meets.act
  intro later relied registered works
  obtain ⟨behaves, onwards⟩ := steps _ later works (stands.later relied)
  exact ⟨behaves.registered registered, behaves.guarantees, onwards⟩

theorem asking {op : Op β} {rest : β → Program Op α} {post : α → World → Prop}
    (quiet : ∀ works world, (effect _ op works world).2 = world) (stands : Stands input area unfinished finished world)
    (onwards : ∀ actions answer world, Stands input area unfinished finished world → Met input post (rest answer) actions world) :
    Met input post (perform op >>= rest) actions world := by
  apply acting stands
  intro actions world works standing
  rw [quiet]
  exact ⟨.refl input world, onwards actions _ world standing⟩

variable {cause : BackupError} {rest : β → Program Op (Except BackupError α)}
  {post : Except BackupError α → World → Prop}

theorem trying {op : Op (Except ε β)} (quiet : ∀ works world, (effect _ op works world).2 = world)
    (stands : Stands input area unfinished finished world)
    (failed : ∀ world, Stands input area unfinished finished world → post (.error cause) world)
    (onwards : ∀ actions value world, Stands input area unfinished finished world → Met input post (rest value) actions world) :
    Met input post ((relabelled cause (perform op)).onward rest) actions world := by
  apply asking quiet stands
  intro actions answer world standing
  cases answer with
  | ok value => exact onwards actions value world standing
  | error => exact Meets.pure (failed world standing)

theorem moving {op : Op (Except ε β)} (stands : Stands input area unfinished finished world)
    (failed : ∀ world, Stands input area unfinished finished world → post (.error cause) world)
    (steps : ∀ actions world works, Stands input area unfinished finished world →
      (∃ error, effect _ op works world = (.error error, world)) ∨
      ∃ value later, effect _ op works world = (.ok value, later) ∧ Behaves input world later ∧
        Met input post (rest value) actions later) :
    Met input post ((relabelled cause (perform op)).onward rest) actions world := by
  apply acting stands
  intro actions world works standing
  rcases steps actions world works standing with ⟨error, same⟩ | ⟨value, later, same, behaves, onwards⟩
  · rw [same]
    exact ⟨.refl input world, Meets.pure (failed world standing)⟩
  · rw [same]
    exact ⟨behaves, onwards⟩

theorem clearWorkArea_meets (stands : Stands input area unfinished finished world) :
    Met input (fun answer later => ∃ area', Stands input area' unfinished finished later ∧ (answer = .ok () → area' = .empty))
      (clearWorkArea input.work) actions world := by
  apply acting stands
  intro actions world works standing
  cases works with
  | false => exact ⟨.refl input world, Meets.pure ⟨area, standing, fun same => by cases same⟩⟩
  | true =>
    refine ⟨.setWork .empty, ?_⟩
    change Met input _ (perform (.createDirAll input.work) >>= pure) actions _
    apply asking (fun _ _ => rfl) (standing.setWork .empty)
    exact fun actions answer world cleared => Meets.pure ⟨.empty, cleared, fun _ => rfl⟩

theorem clearing_meets (stands : Stands input area unfinished finished world) :
    Met input (fun (answer : Except BackupError α) later => ∃ given, answer = .error given ∧
        (given ≠ .residue → Stands input .empty unfinished finished later))
      (clearing input.work cause) actions world := by
  apply (clearWorkArea_meets stands).bind
  rintro actions answer later ⟨area', standing, cleared⟩
  cases answer with
  | error => exact Meets.pure ⟨.residue, rfl, fun different => absurd rfl different⟩
  | ok =>
    obtain rfl := cleared rfl
    exact Meets.pure ⟨cause, rfl, fun _ => standing⟩

def snapped (input : BackupInput) : WorkArea := ⟨some (some input.snapshot.contents), none, none, none⟩

theorem snapshotLedger_meets (stands : Stands input area unfinished finished world) :
    Met input (fun answer later => answer = .ok () → Stands input (snapped input) unfinished finished later)
      (snapshotLedger input) actions world := by
  have clears : Met input (fun answer later => answer = .ok () → Stands input .empty unfinished finished later)
      (relabelled .workArea (clearWorkArea input.work)) actions world := by
    apply (clearWorkArea_meets stands).bind
    rintro actions answer later ⟨area', standing, cleared⟩
    cases answer with
    | error => exact Meets.pure fun same => by cases same
    | ok =>
      obtain rfl := cleared rfl
      exact Meets.pure fun _ => standing
  apply clears.onward (fun _ _ _ _ same => by cases same)
  intro actions _ world cleared
  apply moving (cleared rfl) (fun _ _ same => by cases same)
  intro actions world works empty
  have vacant : (world.work input.work).snapshot = none := congrArg WorkArea.snapshot empty.work
  cases works with
  | false => exact .inl ⟨.other, rfl⟩
  | true =>
    refine .inr ⟨(), world.setWork input.work { world.work input.work with snapshot := some none }, ?_, .setWork _, ?_⟩
    · simp [effect, vacant]
    apply acting (empty.setWork _)
    intro actions world works made
    have folder : (world.work input.work).snapshot = some none := congrArg WorkArea.snapshot made.work
    cases works with
    | false =>
      refine ⟨.refl input world, (clearing_meets made).weaken ?_⟩
      rintro _ answer later ⟨given, rfl, _⟩ same
      cases same
    | true =>
      have taken : effect _ (.createVerifiedSnapshot input.work input.snapshot) true world =
          (true, world.setWork input.work { world.work input.work with snapshot := some (some input.snapshot.contents) }) := by
        simp [effect, folder]
      rw [taken]
      refine ⟨.setWork _, Meets.pure fun _ => ?_⟩
      have area : { world.work input.work with snapshot := some (some input.snapshot.contents) } = snapped input := by
        rw [made.work, empty.work]
        rfl
      rw [area]
      exact made.setWork (snapped input)

/-- What a part of the publication leads to: a failure leaves no finished archive, unless what
is left could not be removed. -/
def Attempted (done : α → World → Prop) (input : BackupInput) : Except BackupError α → World → Prop
  | .ok value, world => done value world
  | .error cause, world => ∃ area unfinished finished, Stands input area unfinished finished world ∧
      (cause ≠ .residue → finished = none)

omit [Storage] in
theorem Stands.failed {done : α → World → Prop} (cause : BackupError) (stands : Stands input area unfinished none world) :
    Attempted done input (.error cause) world := ⟨area, unfinished, none, stands, fun _ => rfl⟩

theorem extractedArchive_moves (world : World) (path : Path) (passphrase : Passphrase) (work : String) :
    (extractedArchive world path passphrase work).2 = world ∨
      ∃ area, (extractedArchive world path passphrase work).2 = world.setWork work area := by
  unfold extractedArchive
  split
  next => split
          · exact .inl rfl
          · exact .inr ⟨_, rfl⟩
  next => exact .inl rfl

variable {written : WrittenArchive}

theorem verifyArchive_meets (stands : Stands input area unfinished none world) :
    Met input (Attempted (fun _ later => ∃ area, Stands input area unfinished none later) input)
      (verifyArchive input written) actions world := by
  apply trying (fun _ _ => rfl) stands (fun _ standing => standing.failed .write)
  intro actions _ world stands
  apply trying (fun _ _ => rfl) stands (fun _ standing => standing.failed .write)
  intro actions onDisk world stands
  split
  · exact Meets.pure (stands.failed .verificationFailed)
  apply moving stands (fun _ standing => standing.failed .workArea)
  intro actions world works stands
  cases works with
  | false => exact .inl ⟨.other, rfl⟩
  | true =>
    by_cases taken : (world.work input.work).verify = none
    case neg => exact .inl ⟨.alreadyExists, by simp [effect, taken]⟩
    refine .inr ⟨(), world.setWork input.work { world.work input.work with verify := some [] }, by simp [effect, taken],
      .setWork _, ?_⟩
    apply trying (fun _ _ => rfl) (stands.setWork _) (fun _ standing => standing.failed .write)
    intro actions _ world stands
    apply acting stands
    intro actions world works stands
    have extracts : Behaves input world (effect _ (.readArchive input.partialPath input.passphrase input.work) works world).2 ∧
        ∃ area, Stands input area unfinished none
          (effect _ (.readArchive input.partialPath input.passphrase input.work) works world).2 := by
      cases works with
      | false => exact ⟨.refl input world, _, stands⟩
      | true =>
        change Behaves input world (extractedArchive _ _ _ _).2 ∧ ∃ area, Stands input area unfinished none (extractedArchive _ _ _ _).2
        rcases extractedArchive_moves world input.partialPath input.passphrase input.work with same | ⟨area, same⟩
        · rw [same]
          exact ⟨.refl input world, _, stands⟩
        · rw [same]
          exact ⟨.setWork area, area, stands.setWork area⟩
    obtain ⟨behaves, area, stands⟩ := extracts
    refine ⟨behaves, ?_⟩
    split
    · exact Meets.pure (stands.failed .verificationFailed)
    apply asking (fun _ _ => rfl) stands
    intro actions extracted world stands
    split
    · exact Meets.pure (stands.failed .verificationFailed)
    apply asking (fun _ _ => rfl) stands
    intro actions carried world stands
    apply asking (fun _ _ => rfl) stands
    intro actions again world stands
    split
    · exact Meets.pure ⟨area, stands⟩
    · exact Meets.pure (stands.failed .verificationFailed)

structure Attests (input : BackupInput) (record : BackupRecord) (world : World) : Prop where
  own : record.archiveId = input.archiveId
  described : ∃ publication ∈ world.published, Describes record publication ∧ publication.Faithful

variable {record : BackupRecord}

theorem Attests.later {later : World} (published : ∀ publication ∈ world.published, publication ∈ later.published)
    (attests : Attests input record world) : Attests input record later := by
  obtain ⟨publication, held, describes⟩ := attests.described
  exact ⟨attests.own, publication, published publication held, describes⟩

def archiveOf (input : BackupInput) : Container :=
  let members := [⟨inventoryMember, input.snapshot.inventory.bytes⟩, ⟨ledgerMember, input.snapshot.contents⟩,
    ⟨settingsMember, input.settingsJson⟩]
  .sealed input.passphrase (manifestFor input.manifestInput members) members

def Published (input : BackupInput) (record : BackupRecord) (world : World) : Prop :=
  (∃ area finished, Stands input area none finished world) ∧ Attests input record world

theorem removing (path : Path) (owned : input.owns path) (works : Bool) (world : World) :
    Behaves input world (effect _ (.removeFile path) works world).2 ∧
      ((effect _ (.removeFile path) works world).2 = world ∧
          (world.files path = none ∧ (effect _ (.removeFile path) works world).1 = .error .notFound ∨
            (effect _ (.removeFile path) works world).1 = .error .other) ∨
        effect _ (.removeFile path) works world = (.ok (), world.setFile path none)) := by
  cases there : world.files path with
  | none =>
    have same : effect _ (.removeFile path) works world = (.error .notFound, world) := by simp [effect, there]
    rw [same]
    exact ⟨.refl input world, .inl ⟨rfl, .inl ⟨rfl, rfl⟩⟩⟩
  | some container =>
    cases works with
    | false =>
      have same : effect _ (.removeFile path) false world = (.error .other, world) := by simp [effect, there]
      rw [same]
      exact ⟨.refl input world, .inl ⟨rfl, .inr rfl⟩⟩
    | true =>
      have same : effect _ (.removeFile path) true world = (.ok (), world.setFile path none) := by simp [effect, there]
      rw [same]
      exact ⟨.setFile owned none, .inr rfl⟩

theorem rehashed_meets (valid : isValidArchiveId input.archiveId = true) (written : WrittenArchive)
    (stands : Stands input area unfinished finished world) :
    Met input (Attempted (fun record later => record = recordOf input written ∧
        ∃ area finished, Stands input area unfinished finished later) input)
      (perform (.readerSha256 input.finalPath) >>= fun digest =>
        if digest = .ok written.containerSha256 then pure (.ok (recordOf input written))
        else perform (.removeFile input.finalPath) >>= fun
          | .ok () | .error .notFound => pure (.error .verificationFailed)
          | .error _ => pure (.error .residue)) actions world := by
  apply asking (fun _ _ => rfl) stands
  intro actions digest world stands
  split
  · exact Meets.pure ⟨rfl, area, finished, stands⟩
  apply acting stands
  intro actions world works stands
  obtain ⟨behaves, ⟨same, ⟨gone, answer⟩ | answer⟩ | removed⟩ := removing input.finalPath ⟨valid, .inl rfl⟩ works world
  · refine ⟨behaves, ?_⟩
    rw [same, answer]
    exact Meets.pure ⟨area, unfinished, finished, stands, fun _ => (stands.finished valid).symm.trans gone⟩
  · refine ⟨behaves, ?_⟩
    rw [same, answer]
    exact Meets.pure ⟨area, unfinished, finished, stands, fun different => absurd rfl different⟩
  · refine ⟨behaves, ?_⟩
    rw [removed]
    exact Meets.pure ((stands.setFinal valid none).failed .verificationFailed)

theorem putInPlace_meets (valid : isValidArchiveId input.archiveId = true)
    (digest : written.containerSha256 = Storage.containerSha256 (archiveOf input))
    (bytes : written.containerBytes = Storage.containerBytes (archiveOf input))
    (stands : Stands input area (some (archiveOf input)) none world) :
    Met input (Attempted (Published input) input) (putInPlace input written) actions world := by
  apply moving stands (fun _ standing => standing.failed .publication)
  intro actions world works stands
  cases works with
  | false => exact .inl ⟨.other, rfl⟩
  | true =>
    let moved := (world.setFile input.partialPath none).setFile input.finalPath (some (archiveOf input))
    let later : World := { moved with published := world.published ++ [⟨input, archiveOf input⟩] }
    have behaves : Behaves input world later := by
      constructor
      · exact fun registered => registered.of_same rfl fun _ held => List.mem_append_left _ held
      · have first : Guarantees input world (world.setFile input.partialPath none) := .setFile ⟨valid, .inr rfl⟩ none
        have second : Guarantees input (world.setFile input.partialPath none) moved := .setFile ⟨valid, .inl rfl⟩ _
        exact ⟨fun work elsewhere => rfl, fun path foreign => (second.files path foreign).trans (first.files path foreign),
          fun _ _ => .rfl, le_rfl, fun _ => rfl, fun _ held => List.mem_append_left _ held⟩
    have standing : Stands input area none (some (archiveOf input)) later :=
      let placed := (stands.setPartial valid none).setFinal valid (some (archiveOf input))
      ⟨placed.work, placed.unfinished, placed.finished, placed.unlisted⟩
    have attests : Attests input (recordOf input written) later :=
      ⟨rfl, ⟨input, archiveOf input⟩, List.mem_append_right _ (List.mem_singleton_self _), ⟨rfl, rfl, digest, bytes⟩, rfl⟩
    refine .inr ⟨(), later, ?_, behaves, ?_⟩
    · change renamed world input input.partialPath input.finalPath = _
      simp [renamed, stands.unfinished valid, later, moved]
    apply ((rehashed_meets valid written standing).framing
      (fun relied attests => attests.later relied.published) (fun kept attests => attests.later kept.published) attests).weaken
    rintro _ answer world ⟨ended, attests⟩
    cases answer with
    | error cause => exact ended
    | ok record =>
      obtain ⟨rfl, standing⟩ := ended
      exact ⟨standing, attests⟩

theorem writtenArchive_sealed {later : World}
    (area : (world.work input.work).members = some [⟨inventoryMember, input.snapshot.inventory.bytes⟩,
      ⟨ledgerMember, input.snapshot.contents⟩, ⟨settingsMember, input.settingsJson⟩])
    (same : writtenArchive world input.work input.partialPath input.passphrase input.manifestInput = (.ok written, later))
    :
    written.containerSha256 = Storage.containerSha256 (archiveOf input) ∧
      written.containerBytes = Storage.containerBytes (archiveOf input) ∧
      later = world.setFile input.partialPath (some (archiveOf input)) := by
  simp only [writtenArchive, area, Prod.mk.injEq, Except.ok.injEq] at same
  obtain ⟨rfl, rfl⟩ := same
  exact ⟨rfl, rfl, rfl⟩

theorem writeAndVerify_meets (valid : isValidArchiveId input.archiveId = true)
    (stands : Stands input (snapped input) none none world) :
    Met input (Attempted (Published input) input) (writeAndVerify input) actions world := by
  apply asking (fun _ _ => rfl) stands
  intro actions there world stands
  split
  · exact Meets.pure (stands.failed .write)
  apply moving stands (fun _ standing => standing.failed .workArea)
  intro actions world works stands
  cases works with
  | false => exact .inl ⟨.other, rfl⟩
  | true =>
  refine .inr ⟨(), _, rfl, .setWork _, ?_⟩
  rw [stands.work]
  replace stands := stands.setWork ⟨some (some input.snapshot.contents), some input.settingsJson, none, none⟩
  apply moving stands (fun _ standing => standing.failed .workArea)
  intro actions world works stands
  cases works with
  | false => exact .inl ⟨.other, rfl⟩
  | true =>
  refine .inr ⟨(), _, rfl, .setWork _, ?_⟩
  rw [stands.work]
  replace stands := stands.setWork
    ⟨some (some input.snapshot.contents), some input.settingsJson, some input.snapshot.inventory.bytes, none⟩
  apply moving stands (fun _ standing => standing.failed .write)
  intro actions world works stands
  cases works with
  | false => exact .inl ⟨.other, rfl⟩
  | true =>
  refine .inr ⟨(), world.setFile input.partialPath (some .unfinished), by simp [effect, stands.unfinished valid],
    .setFile ⟨valid, .inr rfl⟩ _, ?_⟩
  apply moving (stands.setPartial valid _) (fun _ standing => standing.failed .write)
  intro actions world works stands
  cases works with
  | false => exact .inl ⟨.other, rfl⟩
  | true =>
  have members : (world.work input.work).members = some [⟨inventoryMember, input.snapshot.inventory.bytes⟩,
      ⟨ledgerMember, input.snapshot.contents⟩, ⟨settingsMember, input.settingsJson⟩] := by
    rw [stands.work]
    rfl
  rcases same : writtenArchive world input.work input.partialPath input.passphrase input.manifestInput with ⟨_ | written, later⟩
  · simp [writtenArchive, members] at same
  obtain ⟨digest, bytes, rfl⟩ := writtenArchive_sealed members same
  refine .inr ⟨written, _, same, .setFile ⟨valid, .inr rfl⟩ _, ?_⟩
  apply trying (fun _ _ => rfl) (stands.setPartial valid _) (fun _ standing => standing.failed .write)
  intro actions _ world stands
  apply trying (fun _ _ => rfl) stands (fun _ standing => standing.failed .write)
  intro actions _ world stands
  refine Meets.onward (verifyArchive_meets stands) (fun _ _ _ failed => failed) ?_
  rintro actions _ world ⟨area, stands⟩
  exact putInPlace_meets valid digest bytes stands

def Concluded (input : BackupInput) : Except BackupError BackupRecord → World → Prop
  | .ok record, world => Published input record world
  | .error cause, world => cause ≠ .residue → Stands input .empty none none world

theorem removed_meets (valid : isValidArchiveId input.archiveId = true) (kept : cause ≠ .residue → finished = none)
    (stands : Stands input area unfinished finished world) :
    Met input (Concluded input) (perform (.removeFile input.partialPath) >>= fun
      | .ok () | .error .notFound => clearing input.work cause
      | .error _ => clearWorkArea input.work >>= fun _ => pure (.error .residue)) actions world := by
  have cleared {actions : List (Action World)} {world : World} (stands : Stands input area none finished world) :
      Met input (Concluded input) (clearing input.work cause) actions world := by
    apply (clearWorkArea_meets stands).bind
    rintro actions answer later ⟨area', standing, cleared⟩
    cases answer with
    | error => exact Meets.pure fun different => absurd rfl different
    | ok =>
      obtain rfl := cleared rfl
      refine Meets.pure fun different => ?_
      rw [kept different] at standing
      exact standing
  apply acting stands
  intro actions world works stands
  obtain ⟨behaves, ⟨same, ⟨gone, answer⟩ | answer⟩ | removed⟩ := removing input.partialPath ⟨valid, .inr rfl⟩ works world
  · refine ⟨behaves, ?_⟩
    rw [same, answer]
    obtain rfl := (stands.unfinished valid).symm.trans gone
    exact cleared stands
  · refine ⟨behaves, ?_⟩
    rw [same, answer]
    apply (clearWorkArea_meets stands).bind
    exact fun actions _ world _ => Meets.pure fun different => absurd rfl different
  · refine ⟨behaves, ?_⟩
    rw [removed]
    exact cleared (stands.setPartial valid none)

theorem publishBackup_meets (stands : Stands input (snapped input) none none world) :
    Met input (Concluded input) (publishBackup input) actions world := by
  unfold publishBackup
  split
  next =>
    apply (clearing_meets stands).weaken
    rintro _ answer later ⟨given, rfl, cleared⟩
    exact cleared
  next valid =>
    rw [Bool.not_eq_true', Bool.not_eq_false] at valid
    apply (writeAndVerify_meets valid stands).bind
    intro actions outcome world attempted
    cases outcome with
    | error cause =>
      obtain ⟨area, unfinished, finished, stands, kept⟩ := attempted
      exact removed_meets valid kept stands
    | ok record =>
      obtain ⟨⟨area, finished, stands⟩, attests⟩ := attempted
      have clears : Met input (fun answer => Concluded input (answer.map fun _ => record))
          (relabelled .residue (clearWorkArea input.work)) actions world := by
        apply ((clearWorkArea_meets stands).framing (fun relied attests => attests.later relied.published)
          (fun kept attests => attests.later kept.published) attests).bind
        rintro actions answer world ⟨⟨area', standing, _⟩, attests⟩
        cases answer with
        | error => exact Meets.pure fun different => absurd rfl different
        | ok => exact Meets.pure ⟨⟨area', finished, standing⟩, attests⟩
      exact clears.onward (fun _ _ _ failed => failed) fun _ _ _ done => Meets.pure done

omit [Storage] in
theorem including_unlisted {registry : BackupRegistry}
    (unlisted : ∀ listed ∈ registry.records, listed.archiveId ≠ record.archiveId) :
    registry.including record = { registry with records := registry.records ++ [record] } := by
  have absent : registry.records.any (·.archiveId = record.archiveId) = false := by
    rw [List.any_eq_false]
    exact fun listed held => by simpa using unlisted listed held
  unfold BackupRegistry.including
  rw [absent]
  rfl

omit [Storage] in
theorem including_revision (registry : BackupRegistry) (record : BackupRecord) :
    (registry.including record).revision = registry.revision := by
  unfold BackupRegistry.including
  split <;> rfl

def enlisted (world : World) (record : BackupRecord) : World :=
  { world with registry := ⟨world.registry.revision + 1, world.registry.records ++ [record]⟩ }

theorem Behaves.enlisted (attests : Attests input record world)
    (unlisted : ∀ listed ∈ world.registry.records, listed.archiveId ≠ input.archiveId) :
    Behaves input world (enlisted world record) := by
  constructor
  · intro registered
    constructor
    · intro listed held
      rcases List.mem_append.mp held with old | new
      · exact registered.described listed old
      · obtain rfl := List.mem_singleton.mp new
        exact attests.described
    · change ((world.registry.records ++ [record]).map BackupRecord.archiveId).Nodup
      rw [List.map_append, List.nodup_append]
      refine ⟨registered.once, List.nodup_singleton _, ?_⟩
      intro id old other new
      obtain ⟨listed, held, rfl⟩ := List.mem_map.mp old
      rw [List.mem_singleton.mp new]
      exact fun same => unlisted listed held (same.trans attests.own)
  · refine ⟨fun _ _ => rfl, fun _ _ => rfl, fun listed foreign => ?_, Nat.le_succ _, fun same => ?_, fun _ held => held⟩
    · constructor
      · intro held
        rcases List.mem_append.mp held with old | new
        · exact old
        · exact absurd (List.mem_singleton.mp new ▸ attests.own) foreign
      · exact fun held => List.mem_append_left _ held
    · exact absurd same (Nat.succ_ne_self _)

theorem saved_cases {loaded : BackupRegistry} (attests : Attests input record world)
    (unlisted : ∀ listed ∈ world.registry.records, listed.archiveId ≠ input.archiveId)
    (unchanged : world.registry.revision = loaded.revision → world.registry = loaded) :
    effect _ (.saveRegistry (loaded.including record)) true world = (.error .conflict, world) ∨
      effect _ (.saveRegistry (loaded.including record)) true world = (.ok (), enlisted world record) := by
  change saved world _ = _ ∨ saved world _ = _
  unfold saved
  rw [including_revision]
  split
  next => exact .inl rfl
  next same =>
    obtain rfl := unchanged (not_not.mp same)
    rw [including_unlisted fun listed held => attests.own ▸ unlisted listed held]
    exact .inr rfl

theorem registerWithin_meets (attempts : Nat) (stands : Stands input area unfinished finished world)
    (attests : Attests input record world) :
    Met input (fun answer later => answer = .ok () → record ∈ later.registry.records) (registerWithin attempts record)
      actions world := by
  induction attempts generalizing actions world with
  | zero => exact Meets.pure fun same => by cases same
  | succ attempts onwards =>
    apply Meets.act
    intro world relied registered works
    replace stands := stands.later relied
    replace attests := attests.later relied.published
    cases works with
    | false => exact ⟨registered, .refl input world, Meets.pure fun same => by cases same⟩
    | true =>
      refine ⟨registered, .refl input world, ?_⟩
      apply Meets.act
      intro last (relied : Relies input world last) registered works
      replace stands := stands.later relied
      replace attests := attests.later relied.published
      cases works with
      | false => exact ⟨registered, .refl input last, Meets.pure fun same => by cases same⟩
      | true =>
        rcases saved_cases attests stands.unlisted relied.unchanged with same | same
        · rw [same]
          exact ⟨registered, .refl input last, onwards stands attests⟩
        · rw [same]
          have behaves := Behaves.enlisted attests stands.unlisted
          refine ⟨behaves.registered registered, behaves.guarantees, Meets.pure fun _ => ?_⟩
          exact List.mem_append_right _ (List.mem_singleton_self _)

def Finished (input : BackupInput) (ended : Ended) (world : World) : Prop :=
  Lasting input ended world ∧ ∀ cause, ended = .unpublished cause → cause ≠ .residue → world.work input.work = .empty

theorem backUp_meets (fresh : Fresh input world) : Met input (Finished input) (backUp input) actions world := by
  apply (snapshotLedger_meets fresh.stands).bind
  intro actions answer world snapped
  cases answer with
  | error cause => exact Meets.pure ⟨trivial, fun _ same => by cases same⟩
  | ok =>
    apply (publishBackup_meets (snapped rfl)).bind
    intro actions answer world concluded
    cases answer with
    | error cause =>
      refine Meets.pure ⟨fun different path owned => ?_, fun given same different => ?_⟩
      · have stands : Stands input .empty none none world := concluded different
        rcases owned.2 with rfl | rfl
        · exact stands.finished owned.1
        · exact stands.unfinished owned.1
      · cases same
        exact (concluded different).work
    | ok record =>
      obtain ⟨⟨area, finished, stands⟩, attests⟩ := concluded
      apply (registerWithin_meets registrySaveAttempts stands attests).bind
      intro actions registered world listed
      refine Meets.pure ⟨?_, fun _ same => by cases same⟩
      cases registered with
      | error => trivial
      | ok => exact ⟨listed rfl, attests.own⟩

end

section
variable [Storage] {start world : World} {calls : String → Option Backups} {left : List Backups}

theorem backups_disciplined :
    Discipline effect backUp BackupInput.work Distinct Registered Fresh Relies Guarantees (fun input _ => Finished input) Lasting where
  reflexive := .refl
  transitive := .trans
  stable relied finished := by
    refine ⟨finished.1.kept (fun path owned => relied.files path owned)
      (fun record own held => (relied.records record own).mpr held), ?_⟩
    exact fun cause same different => relied.work.trans (finished.2 cause same different)
  apart := Guarantees.relied
  untouched := Fresh.later
  lasts := Lasting.later
  ends finished := finished.1
  meets _ _ _ fresh := backUp_meets fresh

theorem Initial.registered (initial : Initial start) : Registered start := by
  constructor
  · rw [initial.registry]
    exact fun _ held => absurd held List.not_mem_nil
  · rw [initial.registry]
    exact List.nodup_nil

omit [Storage] in
theorem Initial.fresh (initial : Initial start) (input : BackupInput) : Fresh input start := by
  refine ⟨initial.files input, ?_⟩
  rw [initial.registry]
  exact fun _ held => absurd held List.not_mem_nil

/-- Backups that share no work area at the same time and have identifiers of their own keep
the registry true, and none that is registered is lost. -/
theorem backups_truthful (initial : Initial start)
    (visits : Visits effect backUp BackupInput.work Distinct start world calls left) : Truthful world calls left := by
  have orderly := visits.orderly backups_disciplined initial.registered initial.fresh
  have finished {work : String} {call : Backups} {ended : Ended} (stands : calls work = some call)
      (done : call.rest = .done ended) : Finished call.request ended world := by
    have met := orderly.met work call stands
    rw [done] at met
    exact met
  refine ⟨orderly.now, ?_, ?_, ?_⟩
  · rintro call (gone | ⟨work, stands⟩) ended done
    · exact orderly.lasting call gone ended done
    · exact (finished stands done).1
  · exact fun work call cause stands done different => (finished stands done).2 cause rfl different
  · intro call known action taken
    have keeps : Guarantees call.request action.before action.after := by
      rcases known with gone | ⟨work, stands⟩
      · exact orderly.acting call gone action taken
      · exact orderly.acted work call stands action taken
    exact ⟨keeps.files, fun other distinct path owned => owns_apart distinct.symm owned⟩

end

namespace Nightly

/-- Hashes that only count, and inspections that always succeed. -/
scoped instance : Storage where
  sha256 contents := contents.length.repr
  containerSha256
    | .unfinished => "unfinished"
    | .sealed _ _ members => (members.map fun (member : Member) => member.contents.length).sum.repr
  containerBytes _ := 512
  inspectStandaloneSnapshot _ _ := some ⟨[9], "inventory", 1⟩

def backup (archiveId : String) (settingsJson : Contents) : BackupInput where
  work := "work"
  snapshot := ⟨[1, 2], ⟨7, 3, "snapshot"⟩, ⟨[9], "inventory", 1⟩⟩
  settingsJson := settingsJson
  destination := "destination"
  passphrase := "correct horse"
  archiveId := archiveId
  clock _ := ⟨1750000000000, by decide, by decide⟩
  verifyLedger _ _ := true

def empty : World := ⟨fun _ => .empty, fun _ => none, .default, []⟩

theorem initially : Initial empty := ⟨rfl, rfl, fun _ _ _ => rfl⟩

def first : BackupInput := backup "firstbackup1" [1]
def second : BackupInput := backup "secondbackup2" [2]

abbrev alone := advance effect 40 (backUp first) [] empty

theorem visited : Visits effect backUp BackupInput.work Distinct empty alone.2.2
    (Function.update (fun _ => none) "work" (some ⟨first, alone.1, alone.2.1⟩)) [] := by
  have begins : Visits effect backUp BackupInput.work Distinct empty empty
      (Function.update (fun _ => none) first.work (some ⟨first, backUp first, []⟩)) [] :=
    .begin first rfl (fun _ _ stands => by cases stands) (fun _ held => absurd held List.not_mem_nil) .start
  exact begins.advance 40

/-- The first backup has made its file, but the archive is not written yet. -/
abbrev halfway := advance effect 8 (backUp first) [] empty

/-- The second one takes its snapshot and writes its settings, in the same work area. -/
abbrev meddled := advance effect 7 (backUp second) [] halfway.2.2

abbrev overtaken := advance effect 40 halfway.1 halfway.2.1 meddled.2.2

theorem overlapped : Reaches effect backUp Distinct (fun _ _ => False) empty overtaken.2.2
    [⟨first, overtaken.1, overtaken.2.1⟩, ⟨second, meddled.1, meddled.2.1⟩] := by
  have begins : Reaches effect backUp Distinct (fun _ _ => False) empty empty ([] ++ ⟨first, backUp first, []⟩ :: []) :=
    .begin first (fun _ held => absurd held List.not_mem_nil) .start
  have follows : Reaches effect backUp Distinct (fun _ _ => False) empty halfway.2.2
      ([⟨first, halfway.1, halfway.2.1⟩] ++ ⟨second, backUp second, []⟩ :: []) := by
    refine .begin second (fun call held => ?_) (begins.advance 8)
    obtain rfl := List.mem_singleton.mp held
    have apart : Distinct first second := by
      change "firstbackup1" ≠ "secondbackup2"
      decide
    exact ⟨apart, apart.symm⟩
  have meddles : Reaches effect backUp Distinct (fun _ _ => False) empty meddled.2.2
      ([] ++ ⟨first, halfway.1, halfway.2.1⟩ :: [⟨second, meddled.1, meddled.2.1⟩]) := follows.advance 7
  exact meddles.advance 40

instance (publication : Publication) : Decidable publication.Faithful :=
  inferInstanceAs (Decidable (publication.container = _))

end Nightly

open Nightly

/-- A backup that has its way is registered. -/
theorem backup_registered : alone.2.2.registry.records.length = 1 ∧
    Truthful alone.2.2 (Function.update (fun _ => none) "work" (some ⟨first, alone.1, alone.2.1⟩)) [] :=
  ⟨by decide +kernel, backups_truthful initially visited⟩

/-- Two backups in one work area: an archive may carry the settings of the other. -/
theorem settings_mixed : ¬ ∀ world calls, Reaches effect backUp Distinct (fun _ _ => False) empty world calls →
    Registered world := by
  intro registers
  have registered := registers _ _ overlapped
  have listed : overtaken.2.2.registry.records.length = 1 := by decide +kernel
  have unfaithful : ∀ publication ∈ overtaken.2.2.published, ¬ publication.Faithful := by decide +kernel
  obtain ⟨record, same⟩ := List.length_eq_one_iff.mp listed
  obtain ⟨publication, published, _, faithful⟩ := registered.described record (same ▸ List.mem_singleton_self _)
  exact unfaithful publication published faithful

end MissionControl.Backup

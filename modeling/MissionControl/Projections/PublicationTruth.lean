import MissionControl.Projections.Publication
import MissionControl.Projections.PublicationLedger

/-! Whether a verified head tells the truth about the managed files, over runs of
publication cycles that may be cancelled, fail or stop anywhere. -/

namespace MissionControl.Projections
open Checked

section
variable [Sha256]

structure OnDisk (entries : List ManagedProjectionManifestEntry) (disk : Disk) : Prop where
  paths : ∀ path, (disk path).isSome = true ↔ path ∈ entries.map (·.relativePath)
  hashes : ∀ entry ∈ entries, ∃ contents, disk entry.relativePath = some contents ∧
    sha256Hex contents = entry.finalFileSha256

def HeadTruthful (world : PublicationWorld) : Prop :=
  ∀ manifestId updatedAt, world.tables.head = some ⟨.verified manifestId, updatedAt⟩ →
    ∃ row, world.tables.generations.find manifestId = some row ∧ OnDisk row.manifest.entries world.disk

/-- Every file ever written has the hash its change set named for its path. -/
def WritesAuthorised (world : PublicationWorld) : Prop :=
  ∀ written ∈ world.written, ∃ entry ∈ written.authorised, entry.relativePath = written.path ∧
    entry.expectedFinalFileSha256 = some (sha256Hex written.contents)

structure Honest (world : PublicationWorld) : Prop where
  sound : Sound world.tables
  truthful : HeadTruthful world
  authorised : WritesAuthorised world

end

/-- The manifest a call would make the head's. -/
def Call.manifest : Call → Option ManagedProjectionManifestGeneration
  | .completeRebuild _ report _ => report.manifest
  | _ => none

section
variable [Sha256] {tables later : ProjectionTables} {call : Call}

/-- A call leaves the head and the generations, or puts the head out of sync, or puts it
on the manifest it was given. -/
theorem Moved.head (moved : Moved tables later call) :
    later.head = tables.head ∧ later.generations = tables.generations ∨ projectionHeadIsVerified later = false ∨
    ∃ manifest row updatedAt, call.manifest = some manifest ∧ later.head = some ⟨.verified manifest.manifestId, updatedAt⟩ ∧
      later.generations.find manifest.manifestId = some row ∧ row.manifest = manifest := by
  cases moved with
  | unmoved same => exact .inl ⟨same ▸ rfl, same ▸ rfl⟩
  | prepared intent preparedIntents prepareReplays claims inserted planned same =>
    subst same
    exact .inl ⟨rfl, rfl⟩
  | approved row payload spent opened =>
    obtain ⟨updatedAt, head⟩ := opened.head
    exact .inr (.inl (not_verified head))
  | automated planned opened =>
    obtain ⟨updatedAt, head⟩ := opened.head
    exact .inr (.inl (not_verified head))
  | cancelling row found publishing same =>
    subst same
    exact .inl ⟨rfl, rfl⟩
  | @completed context report now completed =>
    have head := completed.head
    cases given : report.manifest with
    | none =>
      rw [given] at head
      obtain ⟨_, updatedAt, head⟩ := head
      exact .inr (.inl (not_verified head))
    | some manifest =>
      rw [given] at head
      refine .inr (.inr ⟨manifest, ⟨manifest, now, context.idempotencyId⟩, now, given, head.2, ?_, rfl⟩)
      rw [Relation.find_insert head.1]
      exact if_pos rfl
  | unsynchronized updatedAt same =>
    subst same
    exact .inr (.inl (not_verified rfl))

variable {world : PublicationWorld}

theorem not_truthful_vacuous (unverified : projectionHeadIsVerified world.tables = false) : HeadTruthful world := by
  intro manifestId updatedAt head
  have verified : projectionHeadIsVerified world.tables = true :=
    projectionHeadIsVerified_iff.mpr ⟨manifestId, updatedAt, head⟩
  rw [unverified] at verified
  cases verified

theorem callEffect_cases (call : Call) (works : Bool) (world : PublicationWorld) :
    (∃ failure, callEffect call works world = (.error failure, world)) ∨
    ∃ later answer, call.operation world.tables = .ok (later, answer) ∧
      callEffect call works world = (.ok answer, { world with
        tables := later
        authorised := match answer with
          | .opened effects => effects.changes
          | _ => world.authorised }) := by
  unfold callEffect
  obtain ⟨failure, ran⟩ | ⟨later, answer, success, ran⟩ := Transaction.run_cases works call.operation world.tables
  · rw [ran]
    exact .inl ⟨failure, rfl⟩
  · rw [ran]
    refine .inr ⟨later, answer, success, ?_⟩
    cases answer <;> rfl

theorem Honest.moved (honest : Honest world) (moved : Moved world.tables later call)
    (supported : ∀ manifest, call.manifest = some manifest → OnDisk manifest.entries world.disk)
    (authorised : List ManagedProjectionRebuildChangeEntry) :
    Honest { world with tables := later, authorised } where
  sound := honest.sound.moved moved
  authorised := honest.authorised
  truthful := by
    obtain ⟨head, generations⟩ | unverified | ⟨manifest, row, updatedAt, given, head, found, same⟩ := moved.head
    · intro manifestId updatedAt
      simp only [head, generations]
      exact honest.truthful manifestId updatedAt
    · exact not_truthful_vacuous unverified
    · intro manifestId at_ verified
      cases head.symm.trans verified
      exact ⟨row, found, same ▸ supported manifest given⟩

theorem Honest.called (honest : Honest world)
    (supported : ∀ manifest, call.manifest = some manifest → OnDisk manifest.entries world.disk) (works : Bool) :
    Honest (callEffect call works world).2 := by
  obtain ⟨_, ran⟩ | ⟨later, answer, success, ran⟩ := callEffect_cases call works world
  · rw [ran]
    exact honest
  · rw [ran]
    exact honest.moved (Call.moved success) supported _

end

section
variable {tables later : ProjectionTables} {context : OperationContext} {now : UtcTimestamp}

theorem Opened.inFlight {authorization : Authorization} {changes : List ManagedProjectionRebuildChangeEntry}
    (opened : Opened context authorization changes now tables later) : publicationInFlight later = true := by
  unfold publicationInFlight
  rw [List.any_eq_true]
  exact ⟨_, (Relation.mem_insert opened.operations).mpr (.inr rfl), rfl⟩

theorem inFlight_of_cancelled (running : publicationInFlight tables = true)
    (success : requestRebuildManagedProjectionsCancellation context tables = .ok later) :
    publicationInFlight later = true := by
  obtain rfl | ⟨row, found, _, rfl⟩ := requestRebuildManagedProjectionsCancellation_ok success
  · exact running
  · unfold publicationInFlight
    rw [List.any_eq_true]
    refine ⟨{ row with status := .cancelling }, ?_, rfl⟩
    rw [Relation.mem_update]
    exact .inl ⟨row, Relation.mem_of_find found, Relation.find_key found, rfl⟩

theorem Sound.unverified (sound : Sound tables) (running : publicationInFlight tables = true) :
    projectionHeadIsVerified tables = false := by
  by_contra verified
  rw [Bool.not_eq_false] at verified
  rw [sound.synchronized verified] at running
  cases running

end

section
variable {fresh : ProjectionArtifactSet} {published : List ManagedProjectionManifestEntry}

def freshPaths (fresh : ProjectionArtifactSet) : List String := fresh.artifacts.map (·.relativePath)

variable {entry : ManagedProjectionRebuildChangeEntry}

theorem h2aChangeEntry_some {change : ProjectionChangeSetEntry} (converted : h2aChangeEntry fresh change = some entry) :
    entry.relativePath = change.relativePath ∧ entry.change = change.change := by
  obtain ⟨_, _, rfl⟩ := Option.map_eq_some_iff.mp converted
  exact ⟨rfl, rfl⟩

theorem removed_not_fresh (member : entry ∈ h2aChangeEntries (diffAgainstPublished fresh published) fresh)
    (removed : entry.change = .removed) : entry.relativePath ∉ freshPaths fresh := by
  obtain ⟨change, among, converted⟩ := List.mem_filterMap.mp member
  obtain ⟨path, kind⟩ := h2aChangeEntry_some converted
  rw [diffAgainstPublished, Sorting.mem_sortBy, List.mem_append, List.mem_filterMap, List.mem_filterMap] at among
  rcases among with ⟨artifact, _, made⟩ | ⟨baseline, _, made⟩
  · simp only [writtenChange] at made
    split at made
    · cases made
      cases kind.symm.trans removed
    · split at made
      · cases made
        cases kind.symm.trans removed
      · cases made
  · unfold removedChange at made
    split at made
    · cases made
    next absent =>
      cases made
      rw [path]
      exact absent

theorem published_removed {path : String} (among : path ∈ published.map (·.relativePath)) (gone : path ∉ freshPaths fresh) :
    ∃ entry ∈ h2aChangeEntries (diffAgainstPublished fresh published) fresh,
      entry.relativePath = path ∧ entry.change = .removed := by
  obtain ⟨baseline, member, rfl⟩ := List.mem_map.mp among
  have made : removedChange fresh baseline = some
      ⟨baseline.relativePath, baseline.recordKind, baseline.recordId, .removed, baseline.classification⟩ := by
    unfold removedChange
    exact if_neg gone
  refine ⟨⟨baseline.relativePath, baseline.recordKind, baseline.recordId, .removed, baseline.classification, none⟩, ?_, rfl, rfl⟩
  rw [h2aChangeEntries, List.mem_filterMap]
  refine ⟨⟨baseline.relativePath, baseline.recordKind, baseline.recordId, .removed, baseline.classification⟩, ?_, rfl⟩
  rw [diffAgainstPublished, Sorting.mem_sortBy, List.mem_append, List.mem_filterMap, List.mem_filterMap]
  exact .inr ⟨baseline, member, made⟩

theorem artifactFor_some {path : String} {artifact : ProjectionArtifact} (found : artifactFor fresh path = some artifact) :
    artifact ∈ fresh.artifacts ∧ artifact.relativePath = path :=
  ⟨List.mem_of_find?_eq_some found, by simpa using List.find?_some found⟩

theorem verified_hash [Sha256] (verified : verifyStagedArtifactSet fresh = true) {artifact : ProjectionArtifact}
    (member : artifact ∈ fresh.artifacts) : sha256Hex artifact.content = artifact.finalFileSha256 := by
  have checked := List.all_eq_true.mp verified artifact member
  unfold ProjectionArtifact.verified at checked
  obtain ⟨_, _, final, content⟩ := of_decide_eq_true checked
  rw [← final, ← content]
  rfl

/-- No file appears at a path that was not generated. -/
def Grown (fresh : ProjectionArtifactSet) (before after : Disk) : Prop :=
  ∀ path, path ∉ freshPaths fresh → before path = none → after path = none

theorem Grown.refl (disk : Disk) : Grown fresh disk disk := fun _ _ absent => absent

theorem Grown.trans {before middle after : Disk} (first : Grown fresh before middle) (second : Grown fresh middle after) :
    Grown fresh before after :=
  fun path stale absent => second path stale (first path stale absent)

theorem Grown.remove (disk : Disk) (path : String) : Grown fresh disk (Function.update disk path none) := by
  intro other _ absent
  by_cases same : other = path
  · subst same
    exact Function.update_self ..
  · exact (Function.update_of_ne same ..).trans absent

theorem Grown.put (disk : Disk) {path : String} (contents : Bytes) (generated : path ∈ freshPaths fresh) :
    Grown fresh disk (Function.update disk path (some contents)) := by
  intro other stale absent
  by_cases same : other = path
  · exact absurd (same ▸ generated) stale
  · exact (Function.update_of_ne same ..).trans absent

end

section
variable [Sha256] {fresh : ProjectionArtifactSet} {changes : List ManagedProjectionRebuildChangeEntry}
  {context : OperationContext} {world later last : PublicationWorld}

structure Flying (changes : List ManagedProjectionRebuildChangeEntry) (world : PublicationWorld) : Prop where
  honest : Honest world
  running : publicationInFlight world.tables = true
  admitted : world.authorised = changes

theorem Flying.write (flying : Flying changes world) (disk : Disk) (written : List Written)
    (authorised : ∀ file ∈ written, ∃ entry ∈ file.authorised, entry.relativePath = file.path ∧
      entry.expectedFinalFileSha256 = some (sha256Hex file.contents)) :
    Flying changes { world with disk, written } where
  honest :=
    { sound := flying.honest.sound
      truthful := not_truthful_vacuous (flying.honest.sound.unverified flying.running)
      authorised := authorised }
  running := flying.running
  admitted := flying.admitted

theorem Flying.poll (flying : Flying changes world) :
    Flying changes (callEffect (.requestCancellation context) true world).2 ∧
      (callEffect (.requestCancellation context) true world).2.disk = world.disk := by
  obtain ⟨_, ran⟩ | ⟨tables, answer, success, ran⟩ := callEffect_cases (.requestCancellation context) true world
  · rw [ran]
    exact ⟨flying, rfl⟩
  · obtain ⟨after, cancelled, made⟩ := bind_ok.mp success
    have moved := Call.moved success
    cases pure_ok.mp made
    rw [ran]
    refine ⟨⟨?_, inFlight_of_cancelled flying.running (relabel_ok.mp cancelled), flying.admitted⟩, rfl⟩
    exact flying.honest.moved moved (fun _ given => nomatch given) _

structure EntryDone (fresh : ProjectionArtifactSet) (changes : List ManagedProjectionRebuildChangeEntry)
    (entry : ManagedProjectionRebuildChangeEntry) (disk : Disk) (outcome : Bool) (later : PublicationWorld) : Prop where
  flying : Flying changes later
  grown : Grown fresh disk later.disk
  removed : entry.change = .removed → outcome = true → later.disk entry.relativePath = none

theorem publishEntry_safe (verified : verifyStagedArtifactSet fresh = true) {entry : ManagedProjectionRebuildChangeEntry}
    (member : entry ∈ changes) (flying : Flying changes world) :
    Program.Safe publicationEffect Honest (EntryDone fresh changes entry world.disk) (publishEntry fresh entry) world := by
  have refused : EntryDone fresh changes entry world.disk false world := ⟨flying, .refl _, fun _ failed => absurd failed Bool.false_ne_true⟩
  have writing (kept : entry.change ≠ .removed) (program : PublicationProgram Bool)
      (missing : artifactFor fresh entry.relativePath = none → program = pure false)
      (found : ∀ artifact, artifactFor fresh entry.relativePath = some artifact → program =
        if entry.expectedFinalFileSha256 = some artifact.finalFileSha256 then
          Program.perform (.publishManagedFile entry.relativePath artifact.content)
        else pure false) :
      Program.Safe publicationEffect Honest (EntryDone fresh changes entry world.disk) program world := by
    cases looked : artifactFor fresh entry.relativePath with
    | some artifact =>
      rw [found artifact looked]
      obtain ⟨generated, named⟩ := artifactFor_some looked
      split
      next approved =>
        apply Program.Safe.perform flying.honest
        intro works
        cases works with
        | false => exact refused
        | true =>
          refine ⟨flying.write _ _ ?_, ?_, fun removed => absurd removed kept⟩
          · intro file among
            rcases List.mem_cons.mp among with rfl | among
            · refine ⟨entry, flying.admitted ▸ member, rfl, ?_⟩
              rw [approved, verified_hash verified generated]
            · exact flying.honest.authorised file among
          · exact .put world.disk artifact.content (named ▸ List.mem_map_of_mem generated)
      next => exact refused
    | none =>
      rw [missing looked]
      exact refused
  unfold publishEntry
  split
  next removed =>
    apply Program.Safe.perform flying.honest
    intro works
    cases works with
    | false => exact refused
    | true =>
      exact ⟨flying.write _ world.written flying.honest.authorised, .remove world.disk entry.relativePath,
        fun _ _ => Function.update_self ..⟩
  next created => exact writing (by simp [created]) _ (fun none => by rw [none]) fun _ some => by rw [some]
  next updated => exact writing (by simp [updated]) _ (fun none => by rw [none]) fun _ some => by rw [some]

theorem pollCancellation_safe (failed cancelled : Bool) (flying : Flying changes world) :
    Program.Safe publicationEffect Honest (fun _ later => Flying changes later ∧ later.disk = world.disk)
      (pollCancellation context failed cancelled) world := by
  unfold pollCancellation
  split
  · exact ⟨flying, rfl⟩
  · apply Program.Safe.perform flying.honest
    intro works
    cases works with
    | false => exact ⟨flying, rfl⟩
    | true => exact flying.poll

/-- What is so after a list of paths: where all of them are committed, what was to be
removed is gone. -/
structure EntriesDone (fresh : ProjectionArtifactSet) (changes entries : List ManagedProjectionRebuildChangeEntry)
    (disk : Disk) (items : List ManagedProjectionPublishItem) (later : PublicationWorld) : Prop where
  flying : Flying changes later
  grown : Grown fresh disk later.disk
  removed : allCommitted items = true → ∀ entry ∈ entries, entry.change = .removed →
    later.disk entry.relativePath = none

theorem publishEntries_safe (verified : verifyStagedArtifactSet fresh = true)
    (stale : ∀ entry ∈ changes, entry.change = .removed → entry.relativePath ∉ freshPaths fresh)
    (entries : List ManagedProjectionRebuildChangeEntry) (within : entries ⊆ changes) (failed cancelled : Bool)
    (flying : Flying changes world) :
    Program.Safe publicationEffect Honest (fun result => EntriesDone fresh changes entries world.disk result.1)
      (publishEntries context fresh failed cancelled entries) world := by
  induction entries generalizing world failed cancelled with
  | nil => exact ⟨flying, .refl _, fun _ _ held => absurd held List.not_mem_nil⟩
  | cons entry rest onwards =>
    have member : entry ∈ changes := within List.mem_cons_self
    have others : rest ⊆ changes := fun _ held => within (List.mem_cons_of_mem _ held)
    unfold publishEntries
    apply Program.Safe.bind (pollCancellation_safe failed cancelled flying)
    intro cancelled later polled
    obtain ⟨flying, same⟩ := polled
    rw [← same]
    split
    · apply Program.Safe.bind (onwards others failed cancelled flying)
      intro result last done
      exact ⟨done.flying, done.grown, fun all => nomatch all⟩
    · apply Program.Safe.bind (publishEntry_safe verified member flying)
      intro outcome middle done
      apply Program.Safe.bind (onwards others (!outcome) cancelled done.flying)
      intro result last following
      refine ⟨following.flying, done.grown.trans following.grown, fun all => ?_⟩
      rw [allCommitted, List.all_cons, Bool.and_eq_true, decide_eq_true_iff] at all
      intro other held removed
      rcases List.mem_cons.mp held with rfl | held
      · apply following.grown _ (stale other member removed)
        apply done.removed removed
        cases outcome with
        | true => rfl
        | false => cases all.1
      · exact following.removed all.2 other held removed

def ReadBack (artifacts : List ProjectionArtifact) (disk : Disk) : Prop :=
  ∀ artifact ∈ artifacts, ∃ contents, disk artifact.relativePath = some contents ∧
    sha256Hex contents = artifact.finalFileSha256

theorem artifactsMatch_safe (honest : Honest world) (artifacts : List ProjectionArtifact) :
    Program.Safe publicationEffect Honest (fun agrees later => later = world ∧ (agrees = true → ReadBack artifacts world.disk))
      (artifactsMatch artifacts) world := by
  induction artifacts with
  | nil => exact ⟨rfl, fun _ _ held => absurd held List.not_mem_nil⟩
  | cons artifact rest onwards =>
    have read : Program.Safe publicationEffect Honest (fun digest later => later = world ∧
        (digest = some artifact.finalFileSha256 → ∃ contents, world.disk artifact.relativePath = some contents ∧
          sha256Hex contents = artifact.finalFileSha256))
        (Program.perform (.fingerprint artifact.relativePath)) world := by
      apply Program.Safe.perform honest
      intro works
      refine ⟨rfl, fun same => ?_⟩
      cases works with
      | false => cases same
      | true => exact Option.map_eq_some_iff.mp same
    unfold artifactsMatch
    apply Program.Safe.bind read
    intro digest later found
    obtain ⟨rfl, agrees⟩ := found
    split
    next same =>
      apply onwards.weaken (fun _ honest => honest)
      intro answer last rest
      refine ⟨rest.1, fun all other held => ?_⟩
      rcases List.mem_cons.mp held with rfl | held
      · exact agrees same
      · exact rest.2 all other held
    next => exact ⟨rfl, fun failed => nomatch failed⟩

theorem publishedSetMatches_safe (honest : Honest world) :
    Program.Safe publicationEffect Honest (fun agrees later => later = world ∧ (agrees = true → ReadBack fresh.artifacts world.disk))
      (publishedSetMatches fresh) world := by
  have root : Program.Safe publicationEffect Honest (fun _ later => later = world)
      (Program.perform .validateCanonicalRoot) world := by
    apply Program.Safe.perform honest
    exact fun _ => rfl
  unfold publishedSetMatches
  apply Program.Safe.bind root
  intro valid later same
  subst same
  split
  · exact artifactsMatch_safe honest fresh.artifacts
  · exact ⟨rfl, fun failed => nomatch failed⟩

theorem attachVerifiedManifest_safe (honest : Honest world) (report : ManagedProjectionPublishReport) (manifestId : String) :
    Program.Safe publicationEffect Honest (fun verified later => later = world ∧ ∀ manifest, verified.manifest = some manifest →
      manifest.entries = manifestEntriesOf fresh ∧ (report.status = .succeeded ∧ allCommitted report.items = true) ∧
      ReadBack fresh.artifacts world.disk)
      (attachVerifiedManifest fresh report manifestId) world := by
  unfold attachVerifiedManifest
  split
  next committed =>
    apply Program.Safe.bind (publishedSetMatches_safe honest)
    intro agrees later matched
    obtain ⟨rfl, readBack⟩ := matched
    split
    next same =>
      refine ⟨rfl, fun manifest given => ?_⟩
      cases given
      exact ⟨rfl, committed, readBack same⟩
    next => exact ⟨rfl, fun _ given => nomatch given⟩
  next => exact ⟨rfl, fun _ given => nomatch given⟩

end

section
variable [Sha256] {world : PublicationWorld} {publication : Publication}
  {changes : List ManagedProjectionRebuildChangeEntry}

def Unended (tables : ProjectionTables) (key : IdempotencyId) : Prop :=
  ∀ row, tables.operations.find key = some row → row.status.inFlight = true

variable {tables later : ProjectionTables} {intent : ManagedProjectionRebuildPreparedIntent}
  {command : PrepareRebuildManagedProjections} {now : UtcTimestamp}

theorem prepared_loads {id : PreparedIntentId}
    (success : prepareRebuildManagedProjections command id now tables = .ok (later, intent)) :
    loadChanges later intent.preview.preparedIntentId = command.changes := by
  obtain ⟨row, payload, found, kind, _, _, _, _, _, changes⟩ := preparesExactly tables command id now later intent success
  rw [loadChanges, found, Option.bind_some, kind]
  exact changes

omit [Sha256] in
/-- An approval of the changes at hand, under a key that has not ended, leaves a
publication of exactly these changes in flight. -/
theorem approved_flies {command : ApproveAndExecuteRebuildManagedProjections} {receipt : ApprovalReceiptId}
    {baseline : String} {effects : ManagedProjectionRebuildEffects}
    (unended : Unended tables command.context.idempotencyId)
    (loads : loadChanges tables command.approval.preparedId = changes)
    (success : approveAndExecuteRebuildManagedProjections command receipt baseline changes now tables =
      .ok (later, effects)) : publicationInFlight later = true ∧ effects.changes = changes := by
  obtain ⟨existing, found, rfl, told⟩ | ⟨row, payload, spent, told, opened⟩ :=
    approveAndExecuteRebuildManagedProjections_ok success
  · refine ⟨?_, told.trans loads⟩
    unfold publicationInFlight
    rw [List.any_eq_true]
    exact ⟨existing, Relation.mem_of_find found, unended existing found⟩
  · exact ⟨opened.inFlight, told.trans spent.changes.symm⟩

theorem prepare_keeps_operations {id : PreparedIntentId}
    (success : prepareRebuildManagedProjections command id now tables = .ok (later, intent)) :
    later.operations = tables.operations := by
  obtain rfl | ⟨_, _, _, _, _, rfl⟩ := prepareRebuildManagedProjections_ok success <;> rfl

theorem call_safe (honest : Honest world) {call : Call} (plain : call.manifest = none) :
    Program.Safe publicationEffect Honest (fun answer later => Honest later ∧ later.disk = world.disk ∧
      ∀ given, answer = .ok given → call.operation world.tables = .ok (later.tables, given) ∧
        ∀ effects, given = .opened effects → later.authorised = effects.changes)
      (Program.perform (.call call)) world := by
  apply Program.Safe.perform honest
  intro works
  refine ⟨honest.called (fun _ given => nomatch plain.symm.trans given) works, ?_⟩
  rw [publicationEffect]
  obtain ⟨_, ran⟩ | ⟨later, answer, success, ran⟩ := callEffect_cases call works world
  · rw [ran]
    exact ⟨rfl, fun _ given => nomatch given⟩
  · rw [ran]
    refine ⟨rfl, fun given same => ?_⟩
    cases same
    refine ⟨success, fun effects opened => ?_⟩
    subst opened
    rfl

/-- An admitted publication is in flight for the changes of its own diff; nothing on disk
has moved yet. -/
def Admitted (changes : List ManagedProjectionRebuildChangeEntry) (disk : Disk)
    (answer : Option ManagedProjectionRebuildEffects) (later : PublicationWorld) : Prop :=
  Honest later ∧ later.disk = disk ∧ ∀ effects, answer = some effects → Flying changes later ∧ effects.changes = changes

theorem admit_safe (honest : Honest world) (unended : Unended world.tables publication.context.idempotencyId) :
    Program.Safe publicationEffect Honest (Admitted changes world.disk) (admitPublication publication changes) world := by
  unfold admitPublication
  split
  next =>
    apply Program.Safe.bind (call_safe honest rfl)
    intro answer later prepared
    obtain ⟨honest, disk, stored⟩ := prepared
    split
    next intent =>
      obtain ⟨success, _⟩ := stored _ rfl
      obtain ⟨⟨after, made⟩, call, ready⟩ := bind_ok.mp success
      cases pure_ok.mp ready
      have prepared := relabel_ok.mp call
      have loads := prepared_loads prepared
      have still : Unended later.tables publication.context.idempotencyId := by
        unfold Unended
        rw [prepare_keeps_operations prepared]
        exact unended
      apply Program.Safe.bind (call_safe honest rfl)
      intro answer last approved
      obtain ⟨honest, same, opened⟩ := approved
      split
      next effects =>
        obtain ⟨success, admitted⟩ := opened _ rfl
        obtain ⟨⟨after, allowed⟩, call, ready⟩ := bind_ok.mp success
        cases pure_ok.mp ready
        obtain ⟨running, told⟩ := approved_flies (by exact still) (by exact loads) (relabel_ok.mp call)
        refine ⟨honest, same.trans disk, fun given equal => ?_⟩
        cases equal
        exact ⟨⟨honest, running, (admitted _ rfl).trans told⟩, told⟩
      next => exact ⟨honest, same.trans disk, fun _ given => nomatch given⟩
    next => exact ⟨honest, disk, fun _ given => nomatch given⟩
  next =>
    split
    next => exact ⟨honest, rfl, fun _ given => nomatch given⟩
    next authorization _ =>
      apply Program.Safe.bind (call_safe honest rfl)
      intro answer last begun
      obtain ⟨honest, disk, opened⟩ := begun
      split
      next effects =>
        obtain ⟨success, admitted⟩ := opened _ rfl
        obtain ⟨⟨after, allowed⟩, call, ready⟩ := bind_ok.mp success
        cases pure_ok.mp ready
        obtain ⟨_, _, _, told, running⟩ := beginH1AutoRebuildManagedProjections_ok (relabel_ok.mp call)
        refine ⟨honest, disk, fun given equal => ?_⟩
        cases equal
        exact ⟨⟨honest, running.inFlight, (admitted _ rfl).trans told⟩, told⟩
      next => exact ⟨honest, disk, fun _ given => nomatch given⟩

end

section
variable [Sha256] {world : PublicationWorld} {publication : Publication}

/-- Every file on disk is one that is generated now or one the head's manifest lists. -/
def Covered (publication : Publication) (world : PublicationWorld) : Prop :=
  ∀ path, (world.disk path).isSome = true →
    path ∈ freshPaths publication.fresh ∨ path ∈ world.tables.publishedManifest.map (·.relativePath)

omit [Sha256] in
theorem manifestPaths (fresh : ProjectionArtifactSet) :
    (manifestEntriesOf fresh).map (·.relativePath) = freshPaths fresh := by
  rw [manifestEntriesOf, List.map_map]
  rfl

theorem onDisk_of_readBack {disk : Disk} {later : PublicationWorld} {items : List ManagedProjectionPublishItem}
    (covered : ∀ path, (disk path).isSome = true →
      path ∈ freshPaths publication.fresh ∨ path ∈ world.tables.publishedManifest.map (·.relativePath))
    (done : EntriesDone publication.fresh (publication.changes world.tables.publishedManifest)
      (publication.changes world.tables.publishedManifest) disk items later)
    (committed : allCommitted items = true) (readBack : ReadBack publication.fresh.artifacts later.disk) :
    OnDisk (manifestEntriesOf publication.fresh) later.disk where
  paths := by
    intro path
    rw [manifestPaths]
    constructor
    · intro present
      by_contra stale
      cases before : disk path with
      | none =>
        rw [done.grown path stale before] at present
        cases present
      | some contents =>
        rcases covered path (by rw [before]; rfl) with generated | published
        · exact stale generated
        · obtain ⟨entry, member, rfl, removed⟩ := published_removed published stale
          rw [done.removed committed entry member removed] at present
          cases present
    · intro generated
      obtain ⟨artifact, member, rfl⟩ := List.mem_map.mp generated
      obtain ⟨contents, present, _⟩ := readBack artifact member
      rw [present]
      rfl
  hashes := by
    intro entry member
    obtain ⟨artifact, generated, rfl⟩ := List.mem_map.mp member
    exact readBack artifact generated

theorem publishChangeSet_safe {context : OperationContext} {published : List ManagedProjectionManifestEntry}
    (flying : Flying (publication.changes published) world) :
    Program.Safe publicationEffect Honest (fun report later => Honest later ∧
      (report.status = .succeeded → EntriesDone publication.fresh (publication.changes published)
        (publication.changes published) world.disk report.items later))
      (publishChangeSet context publication.fresh (publication.changes published)) world := by
  unfold publishChangeSet
  split
  next verified =>
    apply Program.Safe.bind (publishEntries_safe verified (fun entry member removed => removed_not_fresh member removed)
      _ (List.Subset.refl _) false false flying)
    intro result later done
    exact ⟨done.flying.honest, fun _ => done⟩
  next => exact ⟨flying.honest, fun given => nomatch given⟩

theorem publicationCycle_safe (honest : Honest world) (covered : Covered publication world)
    (unended : Unended world.tables publication.context.idempotencyId) :
    Program.Safe publicationEffect Honest (fun _ later => Honest later) (publicationCycle publication) world := by
  have read : Program.Safe publicationEffect Honest (fun manifest later => later = world ∧
      ∀ published, manifest = some published → published = world.tables.publishedManifest)
      (Program.perform .publishedManifest) world := by
    apply Program.Safe.perform honest
    intro works
    cases works with
    | false => exact ⟨rfl, fun _ given => nomatch given⟩
    | true => exact ⟨rfl, fun _ given => (Option.some.inj given).symm⟩
  unfold publicationCycle
  apply Program.Safe.bind read
  intro manifest later answered
  obtain ⟨rfl, same⟩ := answered
  split
  next => exact honest
  next published =>
    obtain rfl := same published rfl
    apply Program.Safe.bind (admit_safe honest unended)
    intro answer opened admitted
    obtain ⟨honest, disk, flies⟩ := admitted
    split
    next => exact honest
    next effects =>
      obtain ⟨flying, told⟩ := flies effects rfl
      rw [told]
      apply Program.Safe.bind (publishChangeSet_safe flying)
      intro report written done
      obtain ⟨honest, complete⟩ := done
      apply Program.Safe.bind (attachVerifiedManifest_safe honest report publication.manifestId)
      intro verified last attached
      obtain ⟨rfl, attached⟩ := attached
      have finish : Program.Safe publicationEffect Honest (fun _ last => Honest last)
          (Program.perform (.call (.completeRebuild publication.context verified publication.completedAt))) last := by
        apply Program.Safe.perform honest
        intro works
        apply honest.called
        intro manifest given
        obtain ⟨entries, ⟨succeeded, committed⟩, readBack⟩ := attached manifest given
        rw [entries]
        exact onDisk_of_readBack (disk ▸ covered) (complete succeeded) committed readBack
      exact finish.bind fun _ _ honest => honest

/-- The steps that keep to what a head can tell: a cycle starts where every file present
is generated now or listed by the head's manifest, and under a key no ended publication
has. -/
def Tracked : PublicationEvent → PublicationWorld → PublicationWorld → Prop
  | .cycle publication schedule, before, after =>
    PublicationStep (.cycle publication schedule) before after ∧ Covered publication before ∧
      Unended before.tables publication.context.idempotencyId
  | .elsewhere, before, after => PublicationStep .elsewhere before after

theorem Honest.step {event : PublicationEvent} {later : PublicationWorld} (honest : Honest world)
    (step : Tracked event world later) : Honest later := by
  cases event with
  | cycle publication schedule =>
    obtain ⟨ran, covered, unended⟩ := step
    have ended := (publicationCycle_safe honest covered unended).attempt schedule
    rw [PublicationStep] at ran
    rw [← ran]
    rcases ended with stopped | ⟨_, returned⟩
    · exact stopped
    · exact returned
  | elsewhere =>
    obtain ⟨tables, other, rfl⟩ := step
    refine ⟨honest.sound.elsewhere other, ?_, honest.authorised⟩
    intro manifestId updatedAt head
    rw [other.generations]
    exact honest.truthful manifestId updatedAt (other.head ▸ head)

theorem Honest.initial (schemaVersion ledgerRevision : Nat) (claims : List IdempotencyId) :
    Honest (.initial schemaVersion ledgerRevision claims) where
  sound := .migrated schemaVersion ledgerRevision claims
  truthful := by
    intro manifestId updatedAt head
    cases head
  authorised := fun _ held => absurd held List.not_mem_nil

end

/-- In runs of cycles that start on tracked files, a verified head lists the files on disk
with their hashes, and no file was written that its change set did not name. -/
theorem verified_head_truthful [Sha256] {schemaVersion ledgerRevision : Nat} {claims : List IdempotencyId}
    {events : List PublicationEvent} {world : PublicationWorld}
    (run : Run.Evolves Tracked (.initial schemaVersion ledgerRevision claims) events world) :
    HeadTruthful world ∧ WritesAuthorised world := by
  have honest := run.invariant Honest (fun _ _ _ step honest => honest.step step) (.initial _ _ _)
  exact ⟨honest.truthful, honest.authorised⟩

namespace Leftover
open Vault (name instant contextOf)

/-- SHA-256 on the texts here, told apart by their lengths. -/
def digestOf (length : Nat) : String :=
  match length with
  | 35 => "450c2ea11c5d153b38bf821820b0acd053cedd80acd5250b3576e745db03ab19"
  | 40 => "1d1f1418e31393f773dfa44bf475c04313f9bb12e731f1033be912948c4d91ea"
  | 473 => "bafdc5928ac3881be2c05658a1384417f01d267afbf2d3ec5f3cfbf6e75ec888"
  | 568 => "2109f53cd1d1f7256c442d6ea3f822172865422f43df81b1ab9ef29adc47db88"
  | 461 => "d172618f2c458b6dd015c8a3e498281efec3182a9430d65d585d22ba4926e0ae"
  | 479 => "1a63180cfab86d52b18dab782a04593fa62258dd71929d36e21e7685cf1276f3"
  | 574 => "2634a1b0152cb2b529dc6b3521ccb9530d9d6b0ff877c44c2f2e581886a09789"
  | 471 => "ba2385893f4b3dc5f6d650ec598a762f9a383e8fe99f25aa511a4c07c6f28bce"
  | _ => "337c739bccf32b55d33c062ddd5e4e5febf10e3d54b86de1f02db8f4a5c6c657"

theorem digestOf_valid (length : Nat) : isHexDigest (digestOf length) = true := by
  unfold digestOf
  split <;> decide +kernel

scoped instance : Sha256 where
  finalize bytes := ⟨digestOf bytes.length, digestOf_valid _⟩

def product (id : String) (valid : (validateToken id IdKind.product.maximum ['-', '_']).isOk = true := by decide) :
    PlainProjectionSource .product :=
  ⟨⟨id, valid⟩, .internal, .initial⟩

def snapshot (ledgerRevision : Nat) (products : List (PlainProjectionSource .product)) : LedgerProjectionSnapshot where
  schemaVersion := 48
  ledgerRevision
  ledgerAsOfUtc := instant 1700000000000
  products
  projects := []
  actions := []
  decisions := []
  risks := []
  kpis := []

/-- The digest of no manifest entries. -/
def noBaseline : String := "e3b0c44298fc1c149afbf4c8996fb92427ae41e4649b934ca495991b7852b855"

def route (prepareKey : IdempotencyId) (intent : PreparedIntentId) (receipt : ApprovalReceiptId) (preparedAt : UtcTimestamp) :
    Route :=
  .h2a (contextOf prepareKey) intent preparedAt noBaseline 5 ⟨"Publish", .refl true⟩ receipt noBaseline

def first : Publication where
  snapshot := snapshot 7 [product "desk" (.refl true)]
  context := contextOf (name .idempotency "execute-1" (.refl true))
  route := route (name .idempotency "prepare-1" (.refl true)) (name .preparedIntent "intent-1" (.refl true))
    (name .approvalReceipt "receipt-1" (.refl true)) (instant 1000)
  openedAt := instant 2000
  manifestId := "manifest-1"
  completedAt := instant 3000

/-- Later the Ledger holds another product in its place. -/
def second : Publication where
  snapshot := snapshot 10 [product "product-1" (.refl true)]
  context := contextOf (name .idempotency "execute-2" (.refl true))
  route := route (name .idempotency "prepare-2" (.refl true)) (name .preparedIntent "intent-2" (.refl true))
    (name .approvalReceipt "receipt-2" (.refl true)) (instant 5000)
  openedAt := instant 6000
  manifestId := "manifest-2"
  completedAt := instant 7000

/-- The file is written, and then cannot be read back. -/
def unverified : List Bool := [true, true, true, false, true, true, false, true]

def uninterrupted : List Bool := [true, true, true, false, true, true, true, true]

def start : PublicationWorld := .initial 48 7 []

def cycled (publication : Publication) (schedule : List Bool) (world : PublicationWorld) : PublicationWorld :=
  ((publicationCycle publication).attempt publicationEffect schedule world).1

def afterFirst : PublicationWorld := cycled first unverified start

def raise (world : PublicationWorld) (ledgerRevision : Nat) : PublicationWorld :=
  { world with tables := { world.tables with ledgerRevision } }

def between : PublicationWorld := raise afterFirst 10

def afterSecond : PublicationWorld := cycled second uninterrupted between

def deskPath : String := "Products/desk--450c2ea11c5d153b38bf821820b0acd0.md"

theorem ran (publication : Publication) (schedule : List Bool) (world : PublicationWorld) :
    PublicationStep (.cycle publication schedule) world (cycled publication schedule world) := rfl

theorem raised (world : PublicationWorld) (ledgerRevision : Nat) :
    PublicationStep .elsewhere world (raise world ledgerRevision) :=
  ⟨(raise world ledgerRevision).tables, ⟨rfl, fun _ _ _ => Iff.rfl, rfl, rfl, rfl, rfl, rfl⟩, rfl⟩

theorem reached : Run.Evolves PublicationStep start
    [.cycle first unverified, .elsewhere, .cycle second uninterrupted] afterSecond := by
  have one : Run.Evolves PublicationStep start [.cycle first unverified] afterFirst :=
    .single (.inr (ran first unverified start))
  have two : Run.Evolves PublicationStep afterFirst [.elsewhere] between := .single (.inr (raised afterFirst 10))
  have three : Run.Evolves PublicationStep between [.cycle second uninterrupted] afterSecond :=
    .single (.inr (ran second uninterrupted between))
  exact one.trans (two.trans three)

def stray (path : String) : PublicationWorld → Bool
  | ⟨tables, disk, _, _⟩ =>
    match tables.head with
    | some ⟨.verified manifestId, _⟩ =>
      match tables.generations.find manifestId with
      | some row => decide (path ∉ row.manifest.entries.map (·.relativePath)) && (disk path).isSome
      | none => false
    | _ => false

theorem untold_of_stray {path : String} {world : PublicationWorld} (found : stray path world = true) :
    ¬HeadTruthful world := by
  intro truthful
  unfold stray at found
  split at found
  next tables disk _ _ =>
    split at found
    next manifestId updatedAt head =>
      obtain ⟨row, stored, onDisk⟩ := truthful manifestId updatedAt head
      rw [stored] at found
      rw [Bool.and_eq_true, decide_eq_true_iff] at found
      exact found.1 ((onDisk.paths path).mp found.2)
    · cases found

def alone : PublicationWorld := cycled second uninterrupted (.initial 48 10 [])

theorem tracked : Tracked (.cycle second uninterrupted) (.initial 48 10 []) alone := by
  have covered : Covered second (.initial 48 10 []) := fun _ present => nomatch present
  have unended : Unended (.migrated 48 10 []) second.context.idempotencyId := fun _ found => nomatch found
  exact ⟨ran second uninterrupted _, covered, unended⟩

end Leftover

open Leftover

theorem published_truthful : HeadTruthful alone ∧ WritesAuthorised alone :=
  verified_head_truthful (.single (.inr tracked))

/-- The file of a publication that was not verified stays behind when the next one neither
generates it nor knows of it. -/
theorem leftover_untold :
    ¬∀ (schemaVersion ledgerRevision : Nat) (claims : List IdempotencyId) (events : List PublicationEvent)
      (world : PublicationWorld),
      Run.Evolves PublicationStep (.initial schemaVersion ledgerRevision claims) events world →
        HeadTruthful world ∧ WritesAuthorised world := by
  intro always
  have found : stray deskPath afterSecond = true := by decide +kernel
  exact untold_of_stray found (always 48 7 [] _ afterSecond reached).1

end MissionControl.Projections

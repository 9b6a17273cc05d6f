import MissionControl.Proofs.SettingsWrites

/-! A queued presentation value lands on the value it was queued over, unless a durable
presentation patch wrote the same field in between: the queued patch is rebased onto that
write as onto any other. -/

namespace MissionControl.QueuedPresentation
open Settings SettingsWrites

section

inductive PresentationField where
  | lastRoute | sidebarWidth | window | tablePreferences

def PresentationField.agrees (one other : PresentationSettings) : PresentationField → Prop
  | .lastRoute => one.lastRoute = other.lastRoute
  | .sidebarWidth => one.sidebarWidth = other.sidebarWidth
  | .window => one.window = other.window
  | .tablePreferences => one.tablePreferences = other.tablePreferences

def PresentationField.sets (patch : PresentationPatch) : PresentationField → Prop
  | .lastRoute => patch.lastRoute ≠ .unchanged
  | .sidebarWidth => patch.sidebarWidth ≠ .unchanged
  | .window => patch.window ≠ .unchanged
  | .tablePreferences => patch.tablePreferences.isSome = true

instance (patch : PresentationPatch) (field : PresentationField) : Decidable (field.sets patch) := by
  unfold PresentationField.sets
  split <;> infer_instance

variable {one other third : PresentationSettings} {patch current newer : PresentationPatch} {field : PresentationField}

@[simp] theorem agrees_refl : field.agrees one one := by
  cases field <;> rfl

theorem agrees_trans (first : field.agrees one other) (second : field.agrees other third) : field.agrees one third := by
  cases field <;> exact Eq.trans first second

theorem applyValuePatch_set {α : Type} {patch : ValuePatch α} (set : patch ≠ .unchanged) (target other : Option α) :
    applyValuePatch target patch = applyValuePatch other patch := by
  cases patch with
  | unchanged => exact absurd rfl set
  | _ => rfl

theorem agrees_apply (unset : ¬ field.sets patch) : field.agrees (applyPresentationPatch one patch) one := by
  cases field <;>
    simp_all [PresentationField.sets, PresentationField.agrees, applyPresentationPatch, applyValuePatch]

theorem agrees_set (set : field.sets patch) :
    field.agrees (applyPresentationPatch one patch) (applyPresentationPatch other patch) := by
  cases field with
  | lastRoute | sidebarWidth | window => exact applyValuePatch_set set _ _
  | tablePreferences =>
    obtain ⟨tables, same⟩ := Option.isSome_iff_exists.mp set
    simp [PresentationField.agrees, applyPresentationPatch, same]

theorem sets_merge (unset : ¬ field.sets newer) (set : field.sets (mergePresentationPatch current newer)) :
    field.sets current := by
  cases field <;> simp_all [PresentationField.sets, mergePresentationPatch]

theorem agrees_merge_newer (set : field.sets newer) :
    field.agrees (applyPresentationPatch one (mergePresentationPatch current newer))
      (applyPresentationPatch other newer) := by
  rw [applyPresentationPatch_merge]
  exact agrees_set set

theorem agrees_merge_current (unset : ¬ field.sets newer) :
    field.agrees (applyPresentationPatch one (mergePresentationPatch current newer))
      (applyPresentationPatch one current) := by
  rw [applyPresentationPatch_merge]
  exact agrees_apply unset

end

/-- What is known of the patch that last set a field when it was queued. -/
structure Queued where
  patch : PresentationPatch
  accepted : SettingsDocument
  /-- The documents on disk after each happening since. -/
  since : List SettingsDocument

structure Watch where
  system : System
  queued : PresentationField → Option Queued

section
variable [SettingsHost]

def note (notes : PresentationField → Option Queued) (taken : Option PresentationPatch)
    (before after : Option SettingsDocument) (field : PresentationField) : Option Queued :=
  let later := (notes field).map fun queued => { queued with since := queued.since ++ after.toList }
  match taken with
  | some patch => if field.sets patch then before.map (⟨patch, ·, []⟩) else later
  | none => later

def Watch.take (watch : Watch) (happening : Happening) : Watch where
  system := watch.system.undergo happening
  queued := note watch.queued (watch.system.queues happening) watch.system.file (watch.system.undergo happening).file

def Watch.run (start : System) (happenings : List Happening) : Watch := happenings.foldl Watch.take ⟨start, fun _ => none⟩

/-- Every field that the flush changes stands as it stood when the value was queued, and
stood so ever since. -/
def Watch.landing (watch : Watch) (handle : Nat) (access : Access) : Prop :=
  ∀ revision, watch.system.outcome (.called handle .flushPendingPresentation access) =
      some (.flushed (.committed revision)) →
    ∃ old new, watch.system.file = some old ∧
      (watch.system.take (.called handle .flushPendingPresentation access)).file = some new ∧
      ∀ field : PresentationField, ¬ field.agrees new.presentation old.presentation →
        ∃ queued, watch.queued field = some queued ∧
          field.agrees new.presentation (applyPresentationPatch old.presentation queued.patch) ∧
          field.agrees old.presentation queued.accepted.presentation ∧
          ∀ document ∈ queued.since, field.agrees document.presentation queued.accepted.presentation

/-- A durable presentation patch that passes the checks at the revision a queued patch waits
on changes no field that the queued patch sets. -/
def Spares (system : System) : Happening → Prop
  | .event (.called handle (.applyDurable expected (.presentation patch)) _) =>
    ∀ writer pending document, system.writerOf handle = some writer →
      (system.held writer).writer.pendingPresentation = some pending → pending.baseRevision = expected →
      system.file = some document → document.revision = expected →
      validateDocument (applyPatch document (.presentation patch)) = .ok () →
        ∀ field : PresentationField, field.sets pending.patch →
          field.agrees (applyPresentationPatch document.presentation patch) document.presentation
  | _ => True

/-- No handle is open yet, and revision 0 is what an initialisation wrote. -/
structure Unopened (start : System) : Prop where
  handles : start.handles = []
  first : ∀ document, start.file = some document → document.revision = 0 →
    document.presentation = SettingsDocument.default.presentation

variable {access : Access} {held : Held} {call : Call}

inductive Passed (held : Held) : Call → Option PresentationPatch → Held → Prop where
  | kept {call : Call} : Passed held call none held
  | created {call : Call} {document : SettingsDocument} (absent : held.file = none) (first : document.revision = 0)
      (shown : document.presentation = SettingsDocument.default.presentation) :
      Passed held call none { held with file := some document }
  | queued {document : SettingsDocument} (patch : PresentationPatch) (there : held.file = some document) :
      Passed held (.queuePresentation document.revision patch) (some patch)
        { held with writer := ⟨some (queued document.revision patch held.writer.pendingPresentation)⟩ }
  | cleared {call : Call} {file : Option SettingsDocument}
      (risen : file = held.file ∨ ∃ document, file = some document ∧ document.revision ≠ 0) :
      Passed held call none ⟨file, ⟨none⟩⟩
  | rebased {document : SettingsDocument} (patch : SettingsPatch) (there : held.file = some document)
      (valid : validateDocument (applyPatch document patch) = .ok ()) :
      Passed held (.applyDurable document.revision patch) none ⟨some (applyPatch document patch).next,
        ⟨held.writer.pendingPresentation.bind (rebase document.revision (applyPatch document patch).next.revision)⟩⟩

theorem passed_initialize {document : SettingsDocument}
    (shape : call.body access = .started <$> initializeDocument access document)
    (unqueued : ∀ outcome, call.queues outcome = none) (first : document.revision = 0)
    (shown : document.presentation = SettingsDocument.default.presentation) :
    Passed held call (call.queues (call.run access held).1) (call.run access held).2 := by
  rw [unqueued]
  obtain ⟨failure, failed⟩ | ⟨revision, done⟩ | ⟨absent, _, done⟩ :=
    initializeDocument_cases access held document
  · rw [run_failed shape failed]
    exact .kept
  · rw [run_told shape done]
    exact .kept
  · rw [run_told shape done]
    exact .created absent first shown

theorem passed_change {alter : SettingsDocument → SettingsDocument} {expectedRevision : Nat}
    (unqueued : ∀ outcome, call.queues outcome = none)
    (shape : call.body access = .patched <$> changeDocument access expectedRevision alter) :
    Passed held call (call.queues (call.run access held).1) (call.run access held).2 := by
  rw [unqueued]
  obtain ⟨failure, failed⟩ | ⟨revision, done⟩ | ⟨old, _, _, _, done⟩ :=
    changeDocument_cases access expectedRevision held alter
  · rw [run_failed shape failed]
    exact .kept
  · rw [run_told shape done]
    exact .kept
  · rw [run_told shape done]
    exact .cleared (.inr ⟨_, rfl, Nat.succ_ne_zero _⟩)

theorem call_passed (call : Call) :
    Passed held call (call.queues (call.run access held).1) (call.run access held).2 := by
  cases call with
  | initializeDefault => exact passed_initialize rfl (fun _ => rfl) rfl rfl
  | initializeWithLocale locale => exact passed_initialize rfl (fun _ => rfl) rfl rfl
  | initializeFirstRun locale selected => exact passed_initialize rfl (fun _ => rfl) rfl rfl
  | selectWorkspace expected selected => exact passed_change (fun _ => rfl) rfl
  | applyRestoreExport expected settings => exact passed_change (fun _ => rfl) rfl
  | putBack expected preimage => exact passed_change (fun _ => rfl) rfl
  | applyDurable expected patch =>
    obtain ⟨failure, failed⟩ | ⟨revision, done⟩ | ⟨old, there, rfl, valid, done⟩ :=
      applyDurable_cases access expected held patch
    · rw [run_failed rfl failed]
      exact .kept
    · rw [run_told rfl done]
      exact .kept
    · rw [run_told rfl done]
      exact .rebased patch there valid
  | queuePresentation expected patch =>
    obtain ⟨failure, failed⟩ | ⟨revision, done⟩ | ⟨old, there, rfl, done⟩ :=
      queuePresentation_cases access expected held patch
    · rw [run_failed rfl failed]
      exact .kept
    · rw [run_told rfl done]
      exact .kept
    · rw [run_told rfl done]
      exact .queued patch there
  | flushPendingPresentation =>
    obtain ⟨failure, failed⟩ | ⟨_, done⟩ | ⟨revision, done⟩ | ⟨pending, old, _, _, _, _, done⟩ :=
      flushPendingPresentation_cases access held
    · rw [run_failed rfl failed]
      exact .kept
    · rw [run_told rfl done]
      exact .kept
    · rw [run_told rfl done]
      exact .cleared (.inl rfl)
    · rw [run_told rfl done]
      exact .cleared (.inr ⟨_, rfl, Nat.succ_ne_zero _⟩)
  | cancelPendingPresentation expected =>
    obtain ⟨failure, failed⟩ | ⟨outcome, writer, same, done⟩ :=
      cancelPendingPresentation_cases access expected held
    · rw [run_failed rfl failed]
      exact .kept
    · rw [run_told rfl done]
      rcases same with rfl | rfl
      · exact .kept
      · exact .cleared (.inl rfl)

end

section

/-- What an opening shows. -/
def onDisk (file : Option SettingsDocument) : SettingsDocument := file.getD .default

/-- The noted patch holds the value that waits, and the disk still shows what it showed. -/
structure Follows (shown : PresentationSettings) (field : PresentationField) (patch : PresentationPatch) (queued : Queued) :
    Prop where
  value : ∀ presentation,
    field.agrees (applyPresentationPatch presentation patch) (applyPresentationPatch presentation queued.patch)
  shown : field.agrees shown queued.accepted.presentation
  since : ∀ document ∈ queued.since, field.agrees document.presentation queued.accepted.presentation

structure Waits (notes : PresentationField → Option Queued) (file : Option SettingsDocument)
    (pending : PendingPresentation) : Prop where
  grounded : pending.baseRevision = 0 → (onDisk file).revision = 0
  follows : pending.baseRevision = (onDisk file).revision → ∀ field : PresentationField, field.sets pending.patch →
    ∃ queued, notes field = some queued ∧ Follows (onDisk file).presentation field pending.patch queued

variable {notes : PresentationField → Option Queued} {before after : Option SettingsDocument}
  {field : PresentationField} {patch : PresentationPatch} {pending : PendingPresentation}

theorem Follows.on {shown : PresentationSettings} {queued : Queued} (follows : Follows shown field patch queued)
    (same : field.agrees (onDisk after).presentation shown) :
    Follows (onDisk after).presentation field patch { queued with since := queued.since ++ after.toList } where
  value := follows.value
  shown := agrees_trans same follows.shown
  since document among := by
    rcases List.mem_append.mp among with earlier | now
    · exact follows.since document earlier
    · cases Option.mem_toList.mp now
      exact agrees_trans same follows.shown

theorem Waits.still (waits : Waits notes before pending) (revision : (onDisk after).revision = (onDisk before).revision)
    (shown : (onDisk after).presentation = (onDisk before).presentation) :
    Waits (note notes none before after) after pending where
  grounded based := revision.trans (waits.grounded based)
  follows based field set := by
    obtain ⟨queued, noted, follows⟩ := waits.follows (based.trans revision) field set
    refine ⟨_, by rw [note, noted, Option.map_some], follows.on ?_⟩
    rw [shown]
    exact agrees_refl

theorem Waits.setAside (waits : Waits notes before pending) (first : ∀ document, before = some document →
    document.revision = 0 → document.presentation = SettingsDocument.default.presentation) :
    Waits (note notes none before none) none pending := by
  by_cases based : pending.baseRevision = 0
  · have grounded : (onDisk before).revision = 0 := waits.grounded based
    refine waits.still grounded.symm ?_
    cases before with
    | none => rfl
    | some document => exact (first document rfl grounded).symm
  · exact ⟨fun now => absurd now based, fun now => absurd now based⟩

theorem waits_queued {document : SettingsDocument} {waiting : Option PendingPresentation}
    (waits : ∀ pending ∈ waiting, Waits notes (some document) pending) :
    Waits (note notes (some patch) (some document) (some document)) (some document)
      (queued document.revision patch waiting) := by
  have based : (queued document.revision patch waiting).baseRevision = document.revision := by
    unfold queued
    split
    · split
      · assumption
      · rfl
    · rfl
  refine ⟨fun first => based.symm.trans first, fun _ field set => ?_⟩
  by_cases newer : field.sets patch
  · refine ⟨⟨patch, document, []⟩, if_pos newer, fun presentation => ?_, agrees_refl, fun _ among => nomatch among⟩
    unfold queued
    split
    · split
      · exact agrees_merge_newer newer
      · exact agrees_refl
    · exact agrees_refl
  · -- the value waited before, and its patch was merged
    cases waiting with
    | none => exact absurd set newer
    | some pending =>
      unfold queued at set ⊢
      simp only [] at set ⊢
      split at set
      next current =>
        obtain ⟨earlier, noted, follows⟩ := (waits pending rfl).follows current field (sets_merge newer set)
        refine ⟨{ earlier with since := earlier.since ++ [document] }, ?_, ?_⟩
        · simp [note, newer, noted]
        · have on : Follows (onDisk (some document)).presentation field pending.patch
              { earlier with since := earlier.since ++ (some document).toList } :=
            follows.on agrees_refl
          rw [if_pos current]
          exact { on with value := fun presentation => agrees_trans (agrees_merge_current newer) (on.value presentation) }
      next => exact absurd set newer

theorem waits_rebased [SettingsHost] {document : SettingsDocument} {patch : SettingsPatch}
    (waits : Waits notes (some document) pending)
    (spares : ∀ presented, patch = .presentation presented → pending.baseRevision = document.revision →
      ∀ field : PresentationField, field.sets pending.patch →
        field.agrees (applyPresentationPatch document.presentation presented) document.presentation)
    {rebased : PendingPresentation}
    (moved : rebase document.revision (applyPatch document patch).next.revision pending = some rebased) :
    Waits (note notes none (some document) (some (applyPatch document patch).next))
      (some (applyPatch document patch).next) rebased := by
  unfold rebase at moved
  split at moved
  next current =>
    cases moved
    refine ⟨fun first => absurd first (Nat.succ_ne_zero _), fun _ field set => ?_⟩
    obtain ⟨queued, noted, follows⟩ := waits.follows current field set
    refine ⟨_, by rw [note, noted, Option.map_some], follows.on ?_⟩
    cases patch with
    | display patch => exact agrees_refl
    | operational patch => exact agrees_refl
    | presentation patch => exact spares patch rfl current field set
  next => cases moved

end

section
variable [SettingsHost] {start : System} {watch : Watch} {happenings : List Happening}

def First (file : Option SettingsDocument) : Prop :=
  ∀ document, file = some document → document.revision = 0 →
    document.presentation = SettingsDocument.default.presentation

structure Guarded (watch : Watch) : Prop where
  shared : Shared watch.system
  first : First watch.system.file
  waits : ∀ writer, some writer ∈ watch.system.handles →
    ∀ pending ∈ (watch.system.held writer).writer.pendingPresentation, Waits watch.queued watch.system.file pending

theorem first_passed {held later : Held} {call : Call} {taken : Option PresentationPatch}
    (passed : Passed held call taken later) (first : First held.file) : First later.file := by
  cases passed with
  | kept => exact first
  | created _ _ shown =>
    intro document there _
    exact Option.some.inj there ▸ shown
  | queued => exact first
  | cleared risen =>
    rcases risen with same | ⟨document, there, above⟩
    · rw [same]
      exact first
    · intro other same zero
      cases Option.some.inj (there.symm.trans same)
      exact absurd zero above
  | rebased =>
    intro document there zero
    cases Option.some.inj there
    exact absurd zero (Nat.succ_ne_zero _)

theorem waits_passed {notes : PresentationField → Option Queued} {held later : Held} {call : Call}
    {taken : Option PresentationPatch} (passed : Passed held call taken later)
    (waits : ∀ pending ∈ held.writer.pendingPresentation, Waits notes held.file pending)
    (spares : ∀ expected patch, call = .applyDurable expected (.presentation patch) →
      ∀ pending ∈ held.writer.pendingPresentation, pending.baseRevision = expected →
        ∀ document, held.file = some document → document.revision = expected →
          validateDocument (applyPatch document (.presentation patch)) = .ok () →
          ∀ field : PresentationField, field.sets pending.patch →
            field.agrees (applyPresentationPatch document.presentation patch) document.presentation) :
    ∀ pending ∈ later.writer.pendingPresentation, Waits (note notes taken held.file later.file) later.file pending := by
  intro pending waiting
  cases passed with
  | kept => exact (waits pending waiting).still rfl rfl
  | created absent first shown =>
    refine (waits pending waiting).still ?_ ?_
    · rw [absent]
      exact first
    · rw [absent]
      exact shown
  | queued patch there =>
    cases waiting
    rw [there] at waits ⊢
    exact waits_queued waits
  | cleared => cases waiting
  | rebased patch there valid =>
    obtain ⟨before, waited, moved⟩ := Option.bind_eq_some_iff.mp waiting
    have follows := waits before waited
    rw [there] at follows ⊢
    refine waits_rebased follows (fun presented same current => ?_) moved
    subst same
    exact spares _ presented rfl before waited current _ there rfl valid

omit [SettingsHost] in
theorem opened_waits {system : System} (shared : Shared system) {writer : Nat}
    (live : some writer ∈ system.opened.handles) {pending : PendingPresentation}
    (waiting : (system.opened.held writer).writer.pendingPresentation = some pending) :
    some writer ∈ system.handles ∧ (system.held writer).writer.pendingPresentation = some pending := by
  unfold System.opened at live waiting
  cases alive : system.upgrade with
  | some known =>
    rw [alive] at live waiting
    rcases List.mem_append.mp live with earlier | same
    · exact ⟨earlier, waiting⟩
    · cases List.mem_singleton.mp same
      exact ⟨(upgrade_some alive).2, waiting⟩
  | none =>
    rw [alive] at live waiting
    rcases List.mem_append.mp live with earlier | same
    · have bound : writer < system.writers.length := (shared writer earlier).2
      have same : (system.writers ++ [WriterState.default]).getD writer WriterState.default =
          system.writers.getD writer WriterState.default := by
        simp [List.getD_eq_getElem?_getD, List.getElem?_append_left bound]
      refine ⟨earlier, ?_⟩
      rw [System.held, ← same]
      exact waiting
    · cases List.mem_singleton.mp same
      simp [System.held, WriterState.default] at waiting

omit [SettingsHost] in
theorem opened_file (system : System) : system.opened.file = system.file := by
  unfold System.opened
  split <;> rfl

omit [SettingsHost] in
theorem guarded_opened {file : Option SettingsDocument} (guarded : Guarded watch)
    (later : watch.system.file = file ∨ file = none) :
    Guarded ⟨{ watch.system.opened with file }, note watch.queued none watch.system.file file⟩ where
  shared := shared_opened guarded.shared
  first document there := by
    rcases later with same | rfl
    · exact guarded.first document (same.trans there)
    · cases there
  waits writer live pending waiting := by
    obtain ⟨earlier, waited⟩ := opened_waits guarded.shared live waiting
    have before : Waits watch.queued watch.system.file pending := guarded.waits writer earlier pending waited
    rcases later with same | rfl
    · rw [← same]
      exact before.still rfl rfl
    · exact before.setAside guarded.first

theorem guarded_dropped (guarded : Guarded watch) (handle : Nat) :
    Guarded (watch.take (.event (.dropped handle))) where
  shared := shared_step (.dropped handle) rfl guarded.shared
  first := guarded.first
  waits writer live pending waiting := by
    rcases List.mem_or_eq_of_mem_set live with earlier | gone
    · exact (guarded.waits writer earlier pending waiting).still rfl rfl
    · cases gone

omit [SettingsHost] in
theorem guarded_idle (guarded : Guarded watch) :
    Guarded ⟨watch.system, note watch.queued none watch.system.file watch.system.file⟩ where
  shared := guarded.shared
  first := guarded.first
  waits writer live pending waiting := (guarded.waits writer live pending waiting).still rfl rfl

theorem guarded_called (guarded : Guarded watch) {handle : Nat} {call : Call} {access : Access}
    (spares : Spares watch.system (.event (.called handle call access))) :
    Guarded (watch.take (.event (.called handle call access))) := by
  cases known : watch.system.writerOf handle with
  | none =>
    have same : watch.take (.event (.called handle call access)) =
        ⟨watch.system, note watch.queued none watch.system.file watch.system.file⟩ := by
      simp [Watch.take, System.undergo, System.take, System.queues, System.outcome, known]
    rw [same]
    exact guarded_idle guarded
  | some writer =>
    have live : some writer ∈ watch.system.handles := List.mem_of_getElem? (Option.join_eq_some_iff.mp known)
    have bound : writer < watch.system.writers.length := (guarded.shared writer live).2
    have passed : Passed (watch.system.held writer) call (call.queues (call.run access (watch.system.held writer)).1)
        (call.run access (watch.system.held writer)).2 := call_passed call
    have same : watch.take (.event (.called handle call access)) =
        ⟨watch.system.called writer call access,
          note watch.queued (call.queues (call.run access (watch.system.held writer)).1) watch.system.file
            (call.run access (watch.system.held writer)).2.file⟩ := by
      simp [Watch.take, System.undergo, System.take, System.queues, System.outcome, System.called, known]
    rw [same]
    refine ⟨?_, first_passed passed guarded.first, fun other held pending waiting => ?_⟩
    · have step := shared_step (.called handle call access) rfl guarded.shared
      simpa only [System.take, known] using step
    · -- the writer that works is the one every live handle holds
      have only : other = writer :=
        Option.some.inj ((guarded.shared other held).1.symm.trans (guarded.shared writer live).1)
      subst only
      refine waits_passed passed (guarded.waits other live) (fun expected patch called => ?_) pending ?_
      · subst called
        intro earlier waited current document there revision valid
        exact spares other earlier document known waited current there revision valid
      · simpa [System.held, System.called, List.getD_eq_getElem?_getD, bound] using waiting

theorem guarded_step (guarded : Guarded watch) (happening : Happening) (spares : Spares watch.system happening) :
    Guarded (watch.take happening) := by
  cases happening with
  | event event =>
    cases event with
    | opened =>
      have opened := guarded_opened guarded (.inl rfl)
      rw [← opened_file watch.system] at opened
      exact opened
    | dropped handle => exact guarded_dropped guarded handle
    | called handle call access => exact guarded_called guarded spares
  | setAside => exact guarded_opened guarded (.inr rfl)

/-- No happening of the run is a durable patch over a field that waits. -/
def Spared (start : System) (happenings : List Happening) : Prop :=
  ∀ earlier happening later, happenings = earlier ++ happening :: later →
    Spares (Watch.run start earlier).system happening

theorem guarded_run (unopened : Unopened start) (spared : Spared start happenings) :
    Guarded (Watch.run start happenings) := by
  induction happenings using List.reverseRecOn with
  | nil =>
    refine ⟨fun writer held => ?_, unopened.first, fun writer held => ?_⟩
    · rw [Watch.run, List.foldl_nil, unopened.handles] at held
      cases held
    · rw [Watch.run, List.foldl_nil, unopened.handles] at held
      cases held
  | append_singleton earlier happening before =>
    have spares : Spares (Watch.run start earlier).system happening := spared earlier happening [] rfl
    rw [Watch.run, List.foldl_append]
    refine guarded_step (before fun first other rest same => spared first other (rest ++ [happening]) ?_) happening spares
    rw [same, List.append_assoc, List.cons_append]

theorem guarded_landing (guarded : Guarded watch) (handle : Nat) (access : Access) : watch.landing handle access := by
  intro revision told
  simp only [System.outcome] at told
  cases known : watch.system.writerOf handle with
  | none =>
    rw [known] at told
    cases told
  | some writer =>
    have live : some writer ∈ watch.system.handles := List.mem_of_getElem? (Option.join_eq_some_iff.mp known)
    rw [known, Option.map_some] at told
    obtain ⟨failure, failed⟩ | ⟨_, done⟩ | ⟨_, done⟩ | ⟨pending, old, waiting, there, current, _, done⟩ :=
      flushPendingPresentation_cases access (watch.system.held writer)
    · rw [run_failed rfl failed] at told
      cases told
    · rw [run_told rfl done] at told
      cases told
    · rw [run_told rfl done] at told
      cases told
    · have ran : Call.flushPendingPresentation.run access (watch.system.held writer) =
          (.flushed (.committed (flushed pending old).next.revision), ⟨some (flushed pending old).next, ⟨none⟩⟩) :=
        run_told rfl done
      refine ⟨old, (flushed pending old).next, there, ?_, fun field changed => ?_⟩
      · simp [System.take, known, System.called, ran]
      · have waits : Waits watch.queued watch.system.file pending := guarded.waits writer live pending waiting
        have disk : onDisk watch.system.file = old := by
          have file : watch.system.file = some old := there
          rw [file]
          rfl
        have set : field.sets pending.patch := by
          by_contra unset
          exact changed (agrees_apply unset)
        rw [← disk] at current
        obtain ⟨queued, noted, follows⟩ := waits.follows current.symm field set
        rw [disk] at follows
        exact ⟨queued, noted, follows.value old.presentation, follows.shown, follows.since⟩

/-- In every run without a durable patch over a field that waits, a flush lands on what was
there when its values were queued. -/
theorem queued_value_lands (unopened : Unopened start) (spared : Spared start happenings) (handle : Nat) (access : Access) :
    (Watch.run start happenings).landing handle access :=
  guarded_landing (guarded_run unopened spared) handle access

end

/-- A queued sidebar width waits while the retention changes, and is then written. -/
def widened : List Happening := [.event .opened, .event (.called 0 .initializeDefault granted),
  .event (.called 0 (.queuePresentation 0 ⟨.unchanged, .set 320, .unchanged, none⟩) granted), .event (retain 45)]

theorem widened_lands : letI := host
    (Watch.run unopened widened).system.outcome (.called 0 .flushPendingPresentation granted) =
        some (.flushed (.committed 2)) ∧ (Watch.run unopened widened).landing 0 granted :=
  letI := host
  ⟨by decide, queued_value_lands ⟨rfl, fun _ there => by cases there⟩ (by
    intro earlier happening later same
    have among : happening ∈ widened := by
      rw [same]
      exact List.mem_append_right _ List.mem_cons_self
    simp only [widened, retain, List.mem_cons, List.not_mem_nil, or_false] at among
    obtain rfl | rfl | rfl | rfl := among <;> trivial) 0 granted⟩

def routed : List Happening := [.event .opened, .event (.called 0 .initializeDefault granted),
  .event (.called 0 (.queuePresentation 0 ⟨.set "/a", .unchanged, .unchanged, none⟩) granted),
  .event (.called 0 (.applyDurable 0 (.presentation ⟨.set "/b", .unchanged, .unchanged, none⟩)) granted)]

theorem routed_overwritten : letI := host
    ¬ (Watch.run unopened routed).landing 0 granted := by
  let _ := host
  intro landing
  obtain ⟨old, new, there, written, changed⟩ := landing 2 (by decide)
  have before : (Watch.run unopened routed).system.file.map (·.presentation.lastRoute) = some (some "/b") := by decide
  have after : ((Watch.run unopened routed).system.take (.called 0 .flushPendingPresentation granted)).file.map
      (·.presentation.lastRoute) = some (some "/a") := by decide
  have accepted : ((Watch.run unopened routed).queued .lastRoute).map (·.accepted.presentation.lastRoute) =
      some none := by decide
  rw [there] at before
  rw [written] at after
  have shown : old.presentation.lastRoute = some "/b" := Option.some.inj before
  have flushed : new.presentation.lastRoute = some "/a" := Option.some.inj after
  have differs : ¬ PresentationField.lastRoute.agrees new.presentation old.presentation := by
    intro same
    exact absurd (flushed.symm.trans (same.trans shown)) (by decide)
  obtain ⟨queued, noted, _, stood, _⟩ := changed .lastRoute differs
  rw [noted] at accepted
  have absent : queued.accepted.presentation.lastRoute = none := Option.some.inj accepted
  exact absurd (shown.symm.trans (stood.trans absent)) (by decide)

end MissionControl.QueuedPresentation

import MissionControl.Settings.Calls
import MissionControl.Lib.Run
import Mathlib.Data.List.Induction

/-! Settings writes are checked against the revision and touch only what they name: a call
leaves the file, creates it, or makes its own change and the next revision. -/

namespace MissionControl.SettingsWrites
open Settings Run

section
variable [SettingsHost] (access : Access) (expectedRevision : Nat) (held : Held)

theorem changeDocument_cases (alter : SettingsDocument → SettingsDocument) :
    (∃ failure, changeDocument access expectedRevision alter held = .error failure held) ∨
      (∃ revision, changeDocument access expectedRevision alter held = .ok (.stale revision) held) ∨
      ∃ old, held.file = some old ∧ old.revision = expectedRevision ∧ validateDocument (alter old) = .ok () ∧
        changeDocument access expectedRevision alter held =
          .ok (.committed (alter old).next.revision) ⟨some (alter old).next, ⟨none⟩⟩ := by
  unfold changeDocument
  obtain ⟨failure, failed⟩ | locked := run_lock _ held
  · exact .inl ⟨failure, failed⟩
  rw [locked]
  obtain ⟨failure, failed⟩ | ⟨old, there, _, read⟩ := run_readDocument _ held
  · exact .inl ⟨failure, failed⟩
  rw [read]
  split
  next => exact .inr (.inl ⟨old.revision, rfl⟩)
  next current =>
    obtain ⟨failure, failed⟩ | ⟨valid, committed⟩ := run_commitDocument _ held
    · exact .inl ⟨failure, failed⟩
    · exact .inr (.inr ⟨old, there, not_not.mp current, valid, committed⟩)

theorem applyDurable_cases (patch : SettingsPatch) :
    (∃ failure, applyDurable access expectedRevision patch held = .error failure held) ∨
      (∃ revision, applyDurable access expectedRevision patch held = .ok (.stale revision) held) ∨
      ∃ old, held.file = some old ∧ old.revision = expectedRevision ∧
        validateDocument (applyPatch old patch) = .ok () ∧
        applyDurable access expectedRevision patch held =
          .ok (.committed (applyPatch old patch).next.revision) ⟨some (applyPatch old patch).next,
            ⟨held.writer.pendingPresentation.bind (rebase expectedRevision (applyPatch old patch).next.revision)⟩⟩ := by
  unfold applyDurable
  obtain ⟨failure, failed⟩ | locked := run_lock _ held
  · exact .inl ⟨failure, failed⟩
  rw [locked]
  obtain ⟨failure, failed⟩ | ⟨old, there, _, read⟩ := run_readDocument _ held
  · exact .inl ⟨failure, failed⟩
  rw [read]
  split
  next => exact .inr (.inl ⟨old.revision, rfl⟩)
  next current =>
    obtain ⟨failure, failed⟩ | ⟨valid, committed⟩ := run_commitDocument _ held
    · exact .inl ⟨failure, failed⟩
    · exact .inr (.inr ⟨old, there, not_not.mp current, valid, committed⟩)

theorem initializeDocument_cases (document : SettingsDocument) :
    (∃ failure, initializeDocument access document held = .error failure held) ∨
      (∃ revision, initializeDocument access document held = .ok (.alreadyInitialized revision) held) ∨
      held.file = none ∧ validateDocument document = .ok () ∧
        initializeDocument access document held =
          .ok (.initialized document.revision) { held with file := some document } := by
  unfold initializeDocument
  rw [run_attempt]
  cases valid : validateDocument document with
  | error failure => exact .inl ⟨failure, rfl⟩
  | ok _ =>
    obtain ⟨failure, failed⟩ | locked := run_lock _ held
    · exact .inl ⟨failure, failed⟩
    simp only [locked, run_get]
    split
    next =>
      obtain ⟨failure, failed⟩ | ⟨current, _, _, read⟩ := run_readDocument _ held
      · exact .inl ⟨failure, failed⟩
      · exact .inr (.inl ⟨current.revision, read⟩)
    next missing =>
      obtain ⟨failure, failed⟩ | ⟨reached, written⟩ := run_writeAtomic _ held
      · exact .inl ⟨failure, failed⟩
      · exact .inr (.inr ⟨by simpa [reached] using missing, trivial, written⟩)

theorem queuePresentation_cases (patch : PresentationPatch) :
    (∃ failure, queuePresentation access expectedRevision patch held = .error failure held) ∨
      (∃ revision, queuePresentation access expectedRevision patch held = .ok (.stale revision) held) ∨
      ∃ old, held.file = some old ∧ old.revision = expectedRevision ∧
        queuePresentation access expectedRevision patch held = .ok (.queued expectedRevision)
          { held with writer := ⟨some (queued expectedRevision patch held.writer.pendingPresentation)⟩ } := by
  unfold queuePresentation
  obtain ⟨failure, failed⟩ | locked := run_lock _ held
  · exact .inl ⟨failure, failed⟩
  rw [locked]
  obtain ⟨failure, failed⟩ | ⟨old, there, _, read⟩ := run_readDocument _ held
  · exact .inl ⟨failure, failed⟩
  rw [read]
  split
  next => exact .inr (.inl ⟨old.revision, rfl⟩)
  next current => exact .inr (.inr ⟨old, there, not_not.mp current, rfl⟩)

theorem flushPendingPresentation_cases :
    (∃ failure, flushPendingPresentation access held = .error failure held) ∨
      held.writer.pendingPresentation = none ∧ flushPendingPresentation access held = .ok .noPending held ∨
      (∃ revision, flushPendingPresentation access held =
        .ok (.staleDiscarded revision) { held with writer := ⟨none⟩ }) ∨
      ∃ pending old, held.writer.pendingPresentation = some pending ∧ held.file = some old ∧
        old.revision = pending.baseRevision ∧ validateDocument (flushed pending old) = .ok () ∧
        flushPendingPresentation access held =
          .ok (.committed (flushed pending old).next.revision) ⟨some (flushed pending old).next, ⟨none⟩⟩ := by
  unfold flushPendingPresentation
  obtain ⟨failure, failed⟩ | locked := run_lock _ held
  · exact .inl ⟨failure, failed⟩
  rw [locked, run_get]
  cases waiting : held.writer.pendingPresentation with
  | none => exact .inr (.inl ⟨rfl, rfl⟩)
  | some pending =>
    obtain ⟨failure, failed⟩ | ⟨old, there, _, read⟩ := run_readDocument _ held
    · exact .inl ⟨failure, failed⟩
    simp only [read]
    split
    next => exact .inr (.inr (.inl ⟨old.revision, rfl⟩))
    next current =>
      obtain ⟨failure, failed⟩ | ⟨valid, committed⟩ := run_commitDocument _ held
      · exact .inl ⟨failure, failed⟩
      · exact .inr (.inr (.inr ⟨pending, old, rfl, there, not_not.mp current, valid, committed⟩))

omit [SettingsHost] in
theorem cancelPendingPresentation_cases :
    (∃ failure, cancelPendingPresentation access expectedRevision held = .error failure held) ∨
      ∃ outcome writer, (writer = held.writer ∨ writer = ⟨none⟩) ∧
        cancelPendingPresentation access expectedRevision held = .ok outcome { held with writer } := by
  unfold cancelPendingPresentation
  obtain ⟨failure, failed⟩ | locked := run_lock _ held
  · exact .inl ⟨failure, failed⟩
  rw [locked, run_get]
  cases held.writer.pendingPresentation with
  | none => exact .inr ⟨_, held.writer, .inl rfl, rfl⟩
  | some pending =>
    simp only []
    split
    next => exact .inr ⟨_, held.writer, .inl rfl, rfl⟩
    next => exact .inr ⟨_, ⟨none⟩, .inr rfl, rfl⟩

end

section
variable [SettingsHost] {access : Access} {held : Held} {call : Call}

def change (writer : WriterState) (document : SettingsDocument) : Call → SettingsDocument
  | .selectWorkspace _ selected => document.selecting selected
  | .applyDurable _ patch => applyPatch document patch
  | .applyRestoreExport _ settings => settings.applyTo document
  | .putBack _ preimage => preimage.putBack document
  | .flushPendingPresentation => (writer.pendingPresentation.map fun pending => flushed pending document).getD document
  | _ => document

def initializes : Call → Bool
  | .initializeDefault | .initializeWithLocale _ | .initializeFirstRun _ _ => true
  | _ => false

inductive Did (call : Call) (before : Held) : Outcome → Option SettingsDocument → Prop where
  | kept {outcome : Outcome} (untold : outcome.committed = none) : Did call before outcome before.file
  | created {document : SettingsDocument} (first : initializes call = true) (absent : before.file = none)
      (valid : validateDocument document = .ok ()) :
      Did call before (.started (.initialized document.revision)) (some document)
  | changed {outcome : Outcome} {old : SettingsDocument} (later : initializes call = false) (there : before.file = some old)
      (valid : validateDocument (change before.writer old call) = .ok ())
      (told : outcome.committed = some (change before.writer old call).next.revision) :
      Did call before outcome (some (change before.writer old call).next)

theorem run_failed {α : Type} {tell : α → Outcome} {body : Body α} {failure : SettingsError}
    (shape : call.body access = tell <$> body) (failed : body held = .error failure held) :
    call.run access held = (.failed failure, held) := by
  simp [Call.run, shape, Functor.map, EStateM.map, failed]

theorem run_told {α : Type} {tell : α → Outcome} {body : Body α} {value : α} {later : Held}
    (shape : call.body access = tell <$> body) (done : body held = .ok value later) :
    call.run access held = (tell value, later) := by
  simp [Call.run, shape, Functor.map, EStateM.map, done]

theorem did_initialize {document : SettingsDocument} (first : initializes call = true)
    (shape : call.body access = .started <$> initializeDocument access document) :
    Did call held (call.run access held).1 (call.run access held).2.file := by
  obtain ⟨failure, failed⟩ | ⟨revision, done⟩ | ⟨absent, valid, done⟩ :=
    initializeDocument_cases access held document
  · rw [run_failed shape failed]
    exact .kept rfl
  · rw [run_told shape done]
    exact .kept rfl
  · rw [run_told shape done]
    exact .created first absent valid

theorem did_change {alter : SettingsDocument → SettingsDocument} {expectedRevision : Nat}
    (later : initializes call = false) (same : ∀ document, change held.writer document call = alter document)
    (shape : call.body access = .patched <$> changeDocument access expectedRevision alter) :
    Did call held (call.run access held).1 (call.run access held).2.file := by
  obtain ⟨failure, failed⟩ | ⟨revision, done⟩ | ⟨old, there, _, valid, done⟩ :=
    changeDocument_cases access expectedRevision held alter
  · rw [run_failed shape failed]
    exact .kept rfl
  · rw [run_told shape done]
    exact .kept rfl
  · rw [run_told shape done]
    rw [← same] at valid ⊢
    exact .changed later there valid rfl

theorem call_did (call : Call) : Did call held (call.run access held).1 (call.run access held).2.file := by
  cases call with
  | initializeDefault => exact did_initialize rfl rfl
  | initializeWithLocale locale => exact did_initialize rfl rfl
  | initializeFirstRun locale selected => exact did_initialize rfl rfl
  | selectWorkspace expected selected => exact did_change rfl (fun _ => rfl) rfl
  | applyRestoreExport expected settings => exact did_change rfl (fun _ => rfl) rfl
  | putBack expected preimage => exact did_change rfl (fun _ => rfl) rfl
  | applyDurable expected patch =>
    obtain ⟨failure, failed⟩ | ⟨revision, done⟩ | ⟨old, there, _, valid, done⟩ :=
      applyDurable_cases access expected held patch
    · rw [run_failed rfl failed]
      exact .kept rfl
    · rw [run_told rfl done]
      exact .kept rfl
    · rw [run_told rfl done]
      exact .changed rfl there valid rfl
  | queuePresentation expected patch =>
    obtain ⟨failure, failed⟩ | ⟨revision, done⟩ | ⟨_, _, _, done⟩ :=
      queuePresentation_cases access expected held patch
    · rw [run_failed rfl failed]
      exact .kept rfl
    · rw [run_told rfl done]
      exact .kept rfl
    · rw [run_told rfl done]
      exact .kept rfl
  | flushPendingPresentation =>
    obtain ⟨failure, failed⟩ | ⟨_, done⟩ | ⟨revision, done⟩ | ⟨pending, old, waiting, there, _, valid, done⟩ :=
      flushPendingPresentation_cases access held
    · rw [run_failed rfl failed]
      exact .kept rfl
    · rw [run_told rfl done]
      exact .kept rfl
    · rw [run_told rfl done]
      exact .kept rfl
    · rw [run_told rfl done]
      have same : change held.writer old .flushPendingPresentation = flushed pending old := by
        simp [change, waiting]
      rw [← same] at valid ⊢
      exact .changed rfl there valid rfl
  | cancelPendingPresentation expected =>
    obtain ⟨failure, failed⟩ | ⟨outcome, writer, _, done⟩ :=
      cancelPendingPresentation_cases access expected held
    · rw [run_failed rfl failed]
      exact .kept rfl
    · rw [run_told rfl done]
      exact .kept rfl

omit [SettingsHost] in
theorem change_revision (writer : WriterState) (document : SettingsDocument) :
    (change writer document call).revision = document.revision := by
  cases call with
  | applyDurable _ patch => cases patch <;> rfl
  | flushPendingPresentation =>
    cases waiting : writer.pendingPresentation <;> simp [change, waiting, flushed]
  | _ => rfl

def leavesPresentation : Call → Bool
  | .applyDurable _ (.display _) | .applyDurable _ (.operational _) | .applyRestoreExport _ _ => true
  | _ => false

def flushes : Call → Bool
  | .flushPendingPresentation => true
  | _ => false

def leavesSelection : Call → Bool
  | .applyDurable _ _ | .applyRestoreExport _ _ | .putBack _ _ => true
  | _ => false

/-- What a flush does not name. -/
def outsidePresentation (document : SettingsDocument) : Nat × DisplaySettings × OperationalSettings :=
  (document.formatVersion, document.display, document.operational)

omit [SettingsHost] in
theorem change_presentation (writer : WriterState) (document : SettingsDocument)
    (leaves : leavesPresentation call = true) :
    (change writer document call).presentation = document.presentation := by
  cases call with
  | applyDurable _ patch =>
    cases patch with
    | presentation patch => cases leaves
    | _ => rfl
  | applyRestoreExport => rfl
  | _ => cases leaves

omit [SettingsHost] in
theorem change_outside (writer : WriterState) (document : SettingsDocument) (flush : flushes call = true) :
    outsidePresentation (change writer document call) = outsidePresentation document := by
  cases call with
  | flushPendingPresentation =>
    cases waiting : writer.pendingPresentation <;> simp [change, waiting, flushed, outsidePresentation]
  | _ => cases flush

omit [SettingsHost] in
theorem change_selection (writer : WriterState) (document : SettingsDocument) (leaves : leavesSelection call = true) :
    (change writer document call).operational.selectedWorkspace = document.operational.selectedWorkspace := by
  cases call with
  | applyDurable _ patch => cases patch <;> rfl
  | applyRestoreExport => rfl
  | putBack => rfl
  | _ => cases leaves

omit [SettingsHost] in
theorem leavesPresentation_later (leaves : leavesPresentation call = true) : initializes call = false := by
  unfold leavesPresentation at leaves
  split at leaves <;> first | rfl | cases leaves

omit [SettingsHost] in
theorem flushes_later (flush : flushes call = true) : initializes call = false := by
  unfold flushes at flush
  split at flush <;> first | rfl | cases flush

omit [SettingsHost] in
theorem leavesSelection_later (leaves : leavesSelection call = true) : initializes call = false := by
  unfold leavesSelection at leaves
  split at leaves <;> first | rfl | cases leaves

theorem Did.valid {outcome : Outcome} {after : Option SettingsDocument} (did : Did call held outcome after)
    (before : ∀ document, held.file = some document → validateDocument document = .ok ()) {document : SettingsDocument}
    (there : after = some document) : validateDocument document = .ok () := by
  cases did with
  | kept => exact before _ there
  | created _ _ valid => exact Option.some.inj there ▸ valid
  | changed _ _ valid => exact Option.some.inj there ▸ valid

theorem Did.keeps {α : Type} (part : SettingsDocument → α) {outcome : Outcome} {after : Option SettingsDocument}
    (did : Did call held outcome after) (later : initializes call = false)
    (unrevised : ∀ document : SettingsDocument, part document.next = part document)
    (same : ∀ document, part (change held.writer document call) = part document) :
    after.map part = held.file.map part := by
  cases did with
  | kept => rfl
  | created first => rw [first] at later; cases later
  | changed _ there => rw [there, Option.map_some, Option.map_some, unrevised, same]

end

section
variable [SettingsHost] {start now : System} {events : List Event}

def Event.call? : Event → Option Call
  | .called _ call _ => some call
  | _ => none

def Took (event : Event) (before after : System) : Prop := before.take event = after

structure Fresh (start : System) : Prop where
  unopened : start.handles = []
  valid : ∀ document, start.file = some document → validateDocument document = .ok ()

theorem reaches (events : List Event) : Evolves Took start events (events.foldl System.take start) := by
  induction events using List.reverseRecOn with
  | nil => exact .start
  | append_singleton events event earlier =>
    rw [List.foldl_append]
    exact .move event earlier rfl

structure Careful (event : Event) (outcome : Option Outcome) (before after : Option SettingsDocument) : Prop where
  counted : ∀ revision, outcome.bind Outcome.committed = some revision →
    ∃ old new, before = some old ∧ after = some new ∧ new.revision = old.revision + 1 ∧ new.revision = revision
  otherwise : outcome.bind Outcome.committed = none →
    after = before ∨ before = none ∧ ∃ revision, outcome = some (.started (.initialized revision))
  refused : ∀ told, outcome = some told → told.refused = true → after = before
  valid : ∀ document, after = some document → validateDocument document = .ok ()
  presentation : ∀ call, Event.call? event = some call → leavesPresentation call = true →
    after.map SettingsDocument.presentation = before.map SettingsDocument.presentation
  flush : ∀ call, Event.call? event = some call → flushes call = true →
    after.map outsidePresentation = before.map outsidePresentation
  selection : ∀ call, Event.call? event = some call → leavesSelection call = true →
    after.map (·.operational.selectedWorkspace) = before.map (·.operational.selectedWorkspace)

theorem careful_same {event : Event} {outcome : Option Outcome} {file : Option SettingsDocument}
    (untold : outcome.bind Outcome.committed = none)
    (valid : ∀ document, file = some document → validateDocument document = .ok ()) : Careful event outcome file file where
  counted revision told := by rw [untold] at told; cases told
  otherwise _ := .inl rfl
  refused _ _ _ := rfl
  valid := valid
  presentation _ _ _ := rfl
  flush _ _ _ := rfl
  selection _ _ _ := rfl

omit [SettingsHost] in
theorem committed_unrefused {outcome : Outcome} {revision : Nat} (told : outcome.committed = some revision) :
    outcome.refused = false := by
  unfold Outcome.committed at told
  split at told
  · rfl
  · rfl
  · cases told

theorem careful_call {handle : Nat} {call : Call} {access : Access} {held : Held}
    (valid : ∀ document, held.file = some document → validateDocument document = .ok ()) :
    Careful (.called handle call access) (some (call.run access held).1) held.file (call.run access held).2.file := by
  have did : Did call held (call.run access held).1 (call.run access held).2.file := call_did call
  generalize (call.run access held).1 = outcome, (call.run access held).2.file = after at did ⊢
  exact {
    counted := fun revision told => by
      cases did with
      | kept untold => cases untold.symm.trans told
      | created => cases told
      | changed _ there _ announced =>
        exact ⟨_, _, there, rfl, congrArg (· + 1) (change_revision _ _), Option.some.inj (announced.symm.trans told)⟩
    otherwise := fun untold => by
      cases did with
      | kept => exact .inl rfl
      | created _ absent => exact .inr ⟨absent, _, rfl⟩
      | changed _ _ _ announced => cases untold.symm.trans announced
    refused := fun told same refused => by
      cases same
      cases did with
      | kept => rfl
      | created => cases refused
      | changed _ _ _ announced => rw [committed_unrefused announced] at refused; cases refused
    valid := fun document there => did.valid valid there
    presentation := fun other same leaves => by
      cases same
      exact did.keeps _ (leavesPresentation_later leaves) (fun _ => rfl) (fun _ => change_presentation _ _ leaves)
    flush := fun other same leaves => by
      cases same
      exact did.keeps _ (flushes_later leaves) (fun _ => rfl) (fun _ => change_outside _ _ leaves)
    selection := fun other same leaves => by
      cases same
      exact did.keeps _ (leavesSelection_later leaves) (fun _ => rfl) (fun _ => change_selection _ _ leaves) }

theorem careful_step {system : System}
    (valid : ∀ document, system.file = some document → validateDocument document = .ok ()) (event : Event) :
    Careful event (system.outcome event) system.file (system.take event).file := by
  cases event with
  | opened =>
    have same : (system.take .opened).file = system.file := by
      simp only [System.take, System.opened]
      split <;> rfl
    rw [same]
    exact careful_same rfl valid
  | dropped handle => exact careful_same rfl valid
  | called handle call access =>
    simp only [System.take, System.outcome]
    cases system.writerOf handle with
    | none => exact careful_same rfl valid
    | some writer => exact careful_call valid

theorem file_valid (fresh : Fresh start) (reached : Evolves Took start events now) :
    ∀ document, now.file = some document → validateDocument document = .ok () :=
  reached.invariant (fun system => ∀ document, system.file = some document → validateDocument document = .ok ())
    (fun event _ _ took valid => took ▸ (careful_step valid event).valid) fresh.valid

theorem settings_careful (fresh : Fresh start) (reached : Evolves Took start events now) (event : Event) :
    Careful event (now.outcome event) now.file (now.take event).file :=
  careful_step (file_valid fresh reached) event

def Shared (system : System) : Prop :=
  ∀ writer, some writer ∈ system.handles → system.registry = some writer ∧ writer < system.writers.length

omit [SettingsHost] in
theorem upgrade_some {system : System} {writer : Nat} (alive : system.upgrade = some writer) :
    system.registry = some writer ∧ some writer ∈ system.handles := by
  obtain ⟨known, held⟩ := Option.filter_eq_some_iff.mp alive
  exact ⟨known, by simpa using held⟩

omit [SettingsHost] in
theorem shared_opened {system : System} (shared : Shared system) : Shared system.opened := by
  intro writer held
  unfold System.opened at held ⊢
  cases alive : system.upgrade with
  | some known =>
    rw [alive] at held
    rcases List.mem_append.mp held with held | held
    · exact shared writer held
    · cases List.mem_singleton.mp held
      exact shared _ (upgrade_some alive).2
  | none =>
    rw [alive] at held
    rcases List.mem_append.mp held with held | held
    · -- a live handle would have kept the registry's writer alive
      have known : system.upgrade = some writer :=
        Option.filter_eq_some_iff.mpr ⟨(shared writer held).1, by simpa using held⟩
      rw [alive] at known
      cases known
    · cases List.mem_singleton.mp held
      exact ⟨rfl, by simp⟩

theorem shared_step {before after : System} (event : Event) (took : Took event before after) (shared : Shared before) :
    Shared after := by
  subst took
  cases event with
  | opened => exact shared_opened shared
  | dropped handle =>
    intro writer held
    rcases List.mem_or_eq_of_mem_set held with held | held
    · exact shared writer held
    · cases held
  | called handle call access =>
    simp only [System.take]
    cases before.writerOf handle with
    | none => exact shared
    | some writer =>
      intro other held
      obtain ⟨known, bound⟩ := shared other held
      exact ⟨known, by simpa [System.called] using bound⟩

end

@[reducible] def host : SettingsHost := ⟨fun locale => locale = "zh-TW", fun timezone => timezone = "Asia/Taipei"⟩

def granted : Access := ⟨true, true, true, fun _ => true, true⟩

def unopened : System := ⟨none, [], none, []⟩

def firstRun : List Event := [.opened, .called 0 .initializeDefault granted, .opened,
  .called 1 (.queuePresentation 0 ⟨.unchanged, .set 320, .unchanged, none⟩) granted]

def retain (days : Nat) : Event :=
  .called 0 (.applyDurable 0 (.operational ⟨.unchanged, .unchanged, .unchanged, some days, none, none⟩)) granted

theorem retain_careful : letI := host
    let now := firstRun.foldl System.take unopened
    now.outcome (retain 45) = some (.patched (.committed 1)) ∧
      Careful (retain 45) (now.outcome (retain 45)) now.file (now.take (retain 45)).file :=
  letI := host
  ⟨by decide, settings_careful ⟨rfl, fun _ there => by cases there⟩ (reaches firstRun) (retain 45)⟩

end MissionControl.SettingsWrites

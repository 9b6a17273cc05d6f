import MissionControl.Issues.Steps
import MissionControl.Lib.Lineage
import MissionControl.Risks.Composition
import MissionControl.Risks.Steps
import Mathlib.Data.List.Induction

/-! The life of an Issue: what its lists and its version count, what each state
promises, and that only a lowering makes it less restricted. The runs are those of
the composition, so an Issue may come from `create_issue` or from a Risk. -/

namespace MissionControl.IssueLifecycle
open Risks Lineage
open Issues (IssueStore IssueRecord Transitioned Lowered)

def stage : IssueState → Nat
  | .open => 0
  | .resolved => 1
  | .closed => 2

structure Lived (issue : IssueRecord) (lowerings : Nat) : Prop where
  supported : issue.supportHistory.length = 2 * issue.reopenRationales.length + stage issue.state
  versioned : issue.version.get = 1 + issue.supportHistory.length + lowerings
  resolution : issue.state ≠ .open → issue.resolutionType.isSome = true ∧ issue.resolutionRationale.isSome = true ∧
    issue.resolutionEvidence ≠ []
  closure : issue.state = .closed → issue.closureVerificationEvidence ≠ [] ∧
    ∀ id ∈ issue.closureVerificationEvidence, id ∉ issue.resolutionEvidence

theorem Lived.new (id : IssueId) (title : IssueTitle) (details : IssueDetails) (classification : DataClassification)
    (source : Option RiskId) (recurrence : Option IssueId) :
    Lived (.new id title details classification source recurrence) 0 where
  supported := rfl
  versioned := rfl
  resolution := fun advanced => absurd rfl advanced
  closure := nofun

variable {before after : IssueRecord}

theorem Lived.transitioned {lowerings : Nat} (lived : Lived before lowerings) (transitioned : Transitioned before after) :
    Lived after lowerings := by
  obtain ⟨supported, versioned, resolution, _⟩ := lived
  have counted {state : IssueState} {witness : SupportWitness} {ids : List EvidenceReferenceId}
      (step : Issues.Supported before state witness ids after) :
      after.supportHistory.length = before.supportHistory.length + 1 ∧
        after.version.get = before.version.get + 1 := by
    rw [step.witnessed, List.length_append, AggregateVersion.next_get step.advances]
    exact ⟨rfl, rfl⟩
  cases transitioned with
  | resolved witness ids resolutionType rationale step required resolved reopens =>
    obtain ⟨longer, later⟩ := counted step
    rw [required] at supported
    refine ⟨?_, by omega, ?_, ?_⟩
    · rw [longer, supported, reopens, step.moves]
      rfl
    · intro _
      rw [resolved.1, resolved.2.1, resolved.2.2]
      exact ⟨rfl, rfl, step.shown⟩
    · intro closed
      cases step.moves.symm.trans closed
  | closed witness ids step required resolved verified separate reopens =>
    obtain ⟨longer, later⟩ := counted step
    rw [required] at supported
    have advanced : before.state ≠ .open := by rw [required]; exact nofun
    refine ⟨?_, by omega, ?_, ?_⟩
    · rw [longer, supported, reopens, step.moves]
      rfl
    · intro _
      rw [resolved.1, resolved.2.1, resolved.2.2]
      exact resolution advanced
    · intro _
      rw [verified, resolved.2.2]
      exact ⟨step.shown, separate⟩
  | reopened witness ids rationale step required reopens =>
    obtain ⟨longer, later⟩ := counted step
    rw [required] at supported
    refine ⟨?_, by omega, ?_, ?_⟩
    · rw [longer, supported, reopens, step.moves, List.length_append, List.length_singleton]
      simp only [stage]
      omega
    · intro advanced
      exact absurd step.moves advanced
    · intro closed
      cases step.moves.symm.trans closed

theorem Lived.lowered {lowerings : Nat} (lived : Lived before lowerings) (lowered : Lowered before after) :
    Lived after (lowerings + 1) := by
  obtain ⟨classification, later, advances, rfl⟩ := lowered
  refine ⟨lived.supported, ?_, lived.resolution, lived.closure⟩
  have versioned := lived.versioned
  have advanced := AggregateVersion.next_get advances
  simp only
  omega

theorem transitioned_state (transitioned : Transitioned before after) : before.state ≠ .closed := by
  cases transitioned with
  | resolved _ _ _ _ _ required => rw [required]; exact nofun
  | closed _ _ _ required => rw [required]; exact nofun
  | reopened _ _ _ _ required => rw [required]; exact nofun

theorem lowered_ne (lowered : Lowered before after) : after ≠ before := by
  rintro rfl
  obtain ⟨_, later, advances, same⟩ := lowered
  have advanced := AggregateVersion.next_get advances
  have equal : after.version.get = later.get := congrArg (·.version.get) same
  omega

def Born (authority : IssueStore) (id : IssueId) (issue : IssueRecord) : Prop :=
  ∃ title details classification source recurrence,
    issue = .new id title details classification source recurrence ∧
      ∀ old, recurrence = some old → ∃ target, authority.get old = some target ∧ target.state = .closed

section
variable [Sha256]

def lowers (composition : WorkManagementRuntimeComposition) (event : Event) (id : IssueId) : Bool :=
  match event with
  | .issue _ (.approveAndExecuteLowerIssueClassification _) =>
    composition.authority.get id ≠ (act composition event).1.authority.get id
  | _ => false

/-- How often an Issue was lowered along a run. -/
def lowerings (id : IssueId) (composition : WorkManagementRuntimeComposition) : List Event → Nat
  | [] => 0
  | event :: rest => (lowers composition event id).toNat + lowerings id (act composition event).1 rest

theorem lowerings_snoc (id : IssueId) (composition : WorkManagementRuntimeComposition) (script : List Event)
    (event : Event) : lowerings id composition (script ++ [event]) =
      lowerings id composition script + (lowers (runFrom composition script) event id).toNat := by
  induction script generalizing composition with
  | nil => simp [lowerings, runFrom]
  | cons head tail ih => simp only [List.cons_append, lowerings, ih, runFrom, List.foldl_cons, Nat.add_assoc]

inductive Follows (composition : WorkManagementRuntimeComposition) (event : Event) (id : IssueId) : Prop where
  | absent (before : composition.authority.get id = none) (after : (act composition event).1.authority.get id = none)
      (unlowered : lowers composition event id = false)
  | born (issue : IssueRecord) (before : composition.authority.get id = none)
      (after : (act composition event).1.authority.get id = some issue) (born : Born composition.authority id issue)
      (unlowered : lowers composition event id = false)
  | kept (issue : IssueRecord) (before : composition.authority.get id = some issue)
      (after : (act composition event).1.authority.get id = some issue)
      (unlowered : lowers composition event id = false)
  | transitioned (issue later : IssueRecord) (before : composition.authority.get id = some issue)
      (after : (act composition event).1.authority.get id = some later) (transitioned : Transitioned issue later)
      (unlowered : lowers composition event id = false)
  | lowered (issue later : IssueRecord) (before : composition.authority.get id = some issue)
      (after : (act composition event).1.authority.get id = some later) (lowered : Lowered issue later)
      (counted : lowers composition event id = true)

theorem follows_same {composition : WorkManagementRuntimeComposition} {event : Event} {id : IssueId}
    (same : (act composition event).1.authority.get id = composition.authority.get id) :
    Follows composition event id := by
  have unlowered : lowers composition event id = false := by
    unfold lowers
    split
    · simp [same]
    · rfl
  cases found : composition.authority.get id with
  | none => exact .absent found (same.trans found) unlowered
  | some issue => exact .kept issue found (same.trans found) unlowered

theorem risk_follows (composition : WorkManagementRuntimeComposition) (ports : Ports) (operation : Operation)
    (id : IssueId) : Follows composition (.risk ports operation) id := by
  obtain ⟨moves, _⟩ := step_acts composition.risks ports operation
  have shared : composition.risks.state.authority = composition.authority := composition.shared
  rcases moves with unmoved | ⟨_, effect⟩
  · exact follows_same (congrArg (·.get id) (unmoved.authority.trans shared))
  have unchanged (same : (step composition.risks ports operation).1.state.authority =
      composition.risks.state.authority) : Follows composition (.risk ports operation) id :=
    follows_same (congrArg (·.get id) (same.trans shared))
  cases effect with
  | kept _ _ _ authority => exact unchanged authority
  | created _ _ _ _ _ authority => exact unchanged authority
  | responded _ _ _ _ _ _ _ authority => exact unchanged authority
  | closed _ _ _ _ _ _ _ _ authority => exact unchanged authority
  | lowered _ _ _ _ _ _ _ authority => exact unchanged authority
  | occurred command target current later approved required absent risks links authority =>
    rw [shared] at absent authority
    have after : (act composition (.risk ports (.approveAndExecuteRecordRiskOccurrence command))).1.authority =
        composition.authority.insertFromRisk (.fromRisk target.issueId target.riskId current.title current.details
          current.classification) := authority
    by_cases named : target.issueId = id
    · subst named
      refine .born _ absent ?_ ⟨current.title, current.details, current.classification, some target.riskId, none, rfl,
        fun _ named => nomatch named⟩ rfl
      rw [after, IssueStore.get_insertFromRisk]
      exact if_pos rfl
    · refine follows_same ?_
      rw [after, IssueStore.get_insertFromRisk]
      exact if_neg named

theorem issue_follows (composition : WorkManagementRuntimeComposition) (ports : Issues.Ports)
    (operation : Issues.Operation) (id : IssueId) : Follows composition (.issue ports operation) id := by
  rcases Issues.step_effect composition.issues ports operation with kept | ⟨_, effect⟩
  · exact follows_same (congrArg (·.get id) kept)
  generalize stored : (Issues.step composition.issues ports operation).1.state.authority = after at effect
  have becomes : (act composition (.issue ports operation)).1.authority = after := stored
  have elsewhere {record : IssueRecord} (same : after = composition.authority.insertFromRisk record)
      (different : record.id ≠ id) : Follows composition (.issue ports operation) id := by
    refine follows_same ?_
    rw [becomes, same, IssueStore.get_insertFromRisk]
    exact if_neg different
  have here {record : IssueRecord} (same : after = composition.authority.insertFromRisk record)
      (named : record.id = id) : (act composition (.issue ports operation)).1.authority.get id = some record := by
    rw [becomes, same, IssueStore.get_insertFromRisk]
    exact if_pos named
  cases effect with
  | kept => exact follows_same (congrArg (·.get id) becomes)
  | created command record created =>
    obtain ⟨classification, same⟩ := created.becomes
    subst same
    by_cases named : command.id = id
    · subst named
      exact .born _ created.absent (here rfl rfl) ⟨_, _, _, _, _, rfl, created.recurs⟩ rfl
    · exact elsewhere rfl named
  | transitioned _ lowers issue record found transitioned =>
    obtain ⟨_, _, _, supported⟩ := transitioned.supported
    by_cases named : record.id = id
    · have same : issue.id = id := supported.same.1.symm.trans named
      refine .transitioned issue record (same ▸ found) (here rfl named) transitioned ?_
      unfold IssueLifecycle.lowers
      split
      next equal => cases equal; exact absurd rfl (lowers _)
      next => rfl
    · exact elsewhere rfl named
  | lowered command issue record found lowered =>
    by_cases named : record.id = id
    · have same : issue.id = id := by
        obtain ⟨_, _, _, rfl⟩ := lowered
        exact named
      have before : composition.authority.get id = some issue := same ▸ found
      refine .lowered issue record before (here rfl named) lowered ?_
      simp only [lowers, before, here rfl named, decide_eq_true_eq]
      intro equal
      exact lowered_ne lowered (Option.some.inj equal).symm
    · exact elsewhere rfl named

theorem act_follows (composition : WorkManagementRuntimeComposition) (event : Event) (id : IssueId) :
    Follows composition event id := by
  cases event with
  | risk ports operation => exact risk_follows composition ports operation id
  | issue ports operation => exact issue_follows composition ports operation id

theorem lived_of_run (script : List Event) (id : IssueId) :
    match (run script).authority.get id with
    | none => lowerings id .new script = 0
    | some issue => Lived issue (lowerings id .new script) := by
  induction script using List.reverseRecOn with
  | nil => exact rfl
  | append_singleton earlier event ih =>
    rw [run_snoc, lowerings_snoc]
    change match (act (run earlier) event).1.authority.get id with
      | none => lowerings id .new earlier + (lowers (run earlier) event id).toNat = 0
      | some issue => Lived issue (lowerings id .new earlier + (lowers (run earlier) event id).toNat)
    cases act_follows (run earlier) event id with
    | absent before after unlowered =>
      rw [before] at ih
      rw [after, unlowered]
      exact ih
    | born issue before after born unlowered =>
      obtain ⟨title, details, classification, source, recurrence, rfl, _⟩ := born
      rw [before] at ih
      rw [after, unlowered, show lowerings id .new earlier = 0 from ih]
      exact .new id title details classification source recurrence
    | kept issue before after unlowered =>
      rw [before] at ih
      rw [after, unlowered]
      exact ih
    | transitioned issue later before after transitioned unlowered =>
      rw [before] at ih
      rw [after, unlowered]
      exact Lived.transitioned ih transitioned
    | lowered issue later before after lowered counted =>
      rw [before] at ih
      rw [after, counted]
      exact Lived.lowered ih lowered

theorem act_kept (composition : WorkManagementRuntimeComposition) (event : Event) {id : IssueId} {issue : IssueRecord}
    (found : composition.authority.get id = some issue) :
    ∃ later, (act composition event).1.authority.get id = some later ∧ later.recurrenceOf = issue.recurrenceOf ∧
      (issue.state = .closed → later.state = .closed) ∧
      (issue.classification ≤ later.classification ∨ lowers composition event id = true) := by
  cases act_follows composition event id with
  | absent before => cases found.symm.trans before
  | born _ before => cases found.symm.trans before
  | kept held before after =>
    cases found.symm.trans before
    exact ⟨issue, after, rfl, fun closed => closed, .inl le_rfl⟩
  | transitioned held later before after transitioned =>
    cases found.symm.trans before
    obtain ⟨_, _, _, supported⟩ := transitioned.supported
    exact ⟨later, after, supported.same.2.2, fun closed => absurd closed (transitioned_state transitioned),
      .inl supported.restricts⟩
  | lowered held later before after lowered counted =>
    cases found.symm.trans before
    obtain ⟨_, _, _, rfl⟩ := lowered
    exact ⟨_, after, rfl, fun closed => closed, .inr counted⟩

theorem closed_stays (composition : WorkManagementRuntimeComposition) (script : List Event) {id : IssueId}
    {issue : IssueRecord} (found : composition.authority.get id = some issue) (closed : issue.state = .closed) :
    ∃ later, (runFrom composition script).authority.get id = some later ∧ later.state = .closed := by
  induction script generalizing composition issue with
  | nil => exact ⟨issue, found, closed⟩
  | cons event rest ih =>
    obtain ⟨later, stored, _, stays, _⟩ := act_kept composition event found
    exact ih (act composition event).1 stored (stays closed)

end

def recurs (authority : IssueStore) (id : IssueId) : Option IssueId := (authority.get id).bind (·.recurrenceOf)

structure Recurring (authority : IssueStore) : Prop where
  closed : ∀ id old, recurs authority id = some old →
    ∃ target, authority.get old = some target ∧ target.state = .closed
  ends : Ends (recurs authority)

section
variable [Sha256]

theorem recurs_act (composition : WorkManagementRuntimeComposition) (event : Event) (id : IssueId)
    {issue : IssueRecord} (found : composition.authority.get id = some issue) :
    recurs (act composition event).1.authority id = recurs composition.authority id := by
  obtain ⟨later, stored, same, _⟩ := act_kept composition event found
  simp only [recurs, stored, found, Option.bind_some, same]

theorem recurs_cases (composition : WorkManagementRuntimeComposition) (event : Event) {id old : IssueId}
    (named : recurs (act composition event).1.authority id = some old) :
    recurs composition.authority id = some old ∨
    composition.authority.get id = none ∧ ∃ target, composition.authority.get old = some target ∧
      target.state = .closed := by
  cases found : composition.authority.get id with
  | some issue => exact .inl ((recurs_act composition event id found).symm.trans named)
  | none =>
    refine .inr ⟨rfl, ?_⟩
    cases act_follows composition event id with
    | absent _ after =>
      simp only [recurs, after] at named
      cases named
    | born issue _ after born =>
      obtain ⟨_, _, _, _, recurrence, rfl, continues⟩ := born
      simp only [recurs, after] at named
      exact continues old named
    | kept _ before => cases found.symm.trans before
    | transitioned _ _ before => cases found.symm.trans before
    | lowered _ _ before => cases found.symm.trans before

theorem Recurring.act {composition : WorkManagementRuntimeComposition} (recurring : Recurring composition.authority)
    (event : Event) : Recurring (act composition event).1.authority := by
  have target (id old : IssueId) (named : recurs (Risks.act composition event).1.authority id = some old) :
      ∃ held, composition.authority.get old = some held ∧ held.state = .closed := by
    rcases recurs_cases composition event named with earlier | ⟨_, closed⟩
    · exact recurring.closed id old earlier
    · exact closed
  refine ⟨?_, ?_⟩
  · intro id old named
    obtain ⟨held, found, closed⟩ := target id old named
    obtain ⟨later, stored, _, stays, _⟩ := act_kept composition event found
    exact ⟨later, stored, stays closed⟩
  · apply @Ends.extend _ _ _ (fun id => ∃ issue, composition.authority.get id = some issue) recurring.ends
    · rintro id ⟨issue, found⟩
      exact recurs_act composition event id found
    · intro id old named
      obtain ⟨held, found, _⟩ := target id old named
      exact ⟨held, found⟩

theorem recurring_of_run (script : List Event) : Recurring (run script).authority := by
  induction script using List.reverseRecOn with
  | nil =>
    have nothing : recurs IssueStore.empty = fun _ => none := by
      funext id
      simp [recurs]
    refine ⟨?_, ?_⟩
    · intro id old named
      cases (congrFun nothing id).symm.trans named
    · change Ends (recurs IssueStore.empty)
      rw [nothing]
      exact ends_empty
  | append_singleton earlier event ih =>
    rw [run_snoc]
    exact ih.act event

end

/-- After every run of the composition, for every Issue: its support history and its
version count its reopenings, its state and its lowerings; a Resolved or Closed Issue
has its resolution, a Closed one its separate verification; Closed is final. A
recurrence continues a Closed Issue, and following recurrences ends. Whatever comes
next, only an approved lowering makes the Issue less restricted. -/
theorem issue_lifecycle [Sha256] (script : List Event) :
    (∀ id issue, (run script).authority.get id = some issue →
      issue.supportHistory.length = 2 * issue.reopenRationales.length + stage issue.state ∧
      issue.version.get = 1 + issue.supportHistory.length + lowerings id .new script ∧
      (issue.state ≠ .open → issue.resolutionType.isSome = true ∧ issue.resolutionRationale.isSome = true ∧
        issue.resolutionEvidence ≠ []) ∧
      (issue.state = .closed → issue.closureVerificationEvidence ≠ [] ∧
        ∀ evidence ∈ issue.closureVerificationEvidence, evidence ∉ issue.resolutionEvidence) ∧
      (issue.state = .closed → ∀ later : List Event, ∃ held,
        (run (script ++ later)).authority.get id = some held ∧ held.state = .closed) ∧
      (∀ event, ∃ later, (act (run script) event).1.authority.get id = some later ∧
        (issue.classification ≤ later.classification ∨ lowers (run script) event id = true)) ∧
      ∀ old, issue.recurrenceOf = some old →
        ∃ target, (run script).authority.get old = some target ∧ target.state = .closed) ∧
    Ends (recurs (run script).authority) := by
  have recurring := recurring_of_run script
  refine ⟨?_, recurring.ends⟩
  intro id issue found
  have lived : Lived issue (lowerings id .new script) := by
    have history := lived_of_run script id
    rw [found] at history
    exact history
  refine ⟨lived.supported, lived.versioned, lived.resolution, lived.closure, ?_, ?_, ?_⟩
  · intro closed later
    rw [run_append]
    exact closed_stays (run script) later found closed
  · intro event
    obtain ⟨later, stored, _, _, restricts⟩ := act_kept (run script) event found
    exact ⟨later, stored, restricts⟩
  · intro old continues
    refine recurring.closed id old ?_
    rw [recurs, found]
    exact continues

end MissionControl.IssueLifecycle

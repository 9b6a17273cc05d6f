import MissionControl.Delivery.Service

/-! What the commands of the Delivery service do to the records, said once, and how a
record is seen from outside: by its version and its classification. -/

namespace MissionControl.Delivery
open Checked Staging Sorting

structure SameRecords (before after : DeliveryState) : Prop where
  initiatives : after.initiatives = before.initiatives
  projects : after.projects = before.projects
  milestones : after.milestones = before.milestones

theorem SameRecords.refl (state : DeliveryState) : SameRecords state state := ⟨rfl, rfl, rfl⟩

theorem SameRecords.trans {first middle last : DeliveryState} (one : SameRecords first middle)
    (two : SameRecords middle last) : SameRecords first last :=
  ⟨two.initiatives.trans one.initiatives, two.projects.trans one.projects, two.milestones.trans one.milestones⟩

/-- A record by the name it has in the audit. -/
def DeliveryState.view (state : DeliveryState) : AuditTarget → Option (AggregateVersion × DataClassification)
  | .initiative id => state.initiatives[id]?.map fun value => (value.version, value.classification)
  | .project id => state.projects[id]?.map fun value => (value.version, value.classification)
  | .milestone id => state.milestones[id]?.map fun value => (value.version, value.classification)
  | _ => none

theorem SameRecords.view {before after : DeliveryState} (same : SameRecords before after) (target : AuditTarget) :
    after.view target = before.view target := by
  unfold DeliveryState.view
  rw [same.initiatives, same.projects, same.milestones]

/-- What the service relies on of a kind of record. -/
structure Family.Viewed {Id Record : Type} [LinearOrder Id] (family : Family Id Record) : Prop where
  found : ∀ state id, state.view (family.auditTarget id) =
    (family.records state)[id]?.map fun value => (family.version value, family.classification value)
  placed : ∀ state value target, (family.place state value).view target =
    if target = family.auditTarget (family.id value) then some (family.version value, family.classification value)
    else state.view target
  lowered : ∀ value classification version now, family.id (family.lowered value classification version now) = family.id value ∧
    family.version (family.lowered value classification version now) = version ∧
    family.classification (family.lowered value classification version now) = classification
  plain : ∀ id version classification proposed rationale,
    canonicalOperation (family.operation id version classification proposed rationale) =
      .ok (family.operation id version classification proposed rationale)

theorem initiatives_viewed : initiatives.Viewed where
  found := fun _ _ => rfl
  placed := by
    intro state value target
    cases target with
    | initiative id =>
      simp only [DeliveryState.view, initiatives, KeyMap.get_insert, AuditTarget.initiative.injEq, eq_comm]
      split <;> rfl
    | _ => rfl
  lowered := fun _ _ _ _ => ⟨rfl, rfl, rfl⟩
  plain := fun _ _ _ _ _ => rfl

theorem projects_viewed : projects.Viewed where
  found := fun _ _ => rfl
  placed := by
    intro state value target
    cases target with
    | project id =>
      simp only [DeliveryState.view, projects, KeyMap.get_insert, AuditTarget.project.injEq, eq_comm]
      split <;> rfl
    | _ => rfl
  lowered := fun _ _ _ _ => ⟨rfl, rfl, rfl⟩
  plain := fun _ _ _ _ _ => rfl

theorem milestones_viewed : milestones.Viewed where
  found := fun _ _ => rfl
  placed := by
    intro state value target
    cases target with
    | milestone id =>
      simp only [DeliveryState.view, milestones, KeyMap.get_insert, AuditTarget.milestone.injEq, eq_comm]
      split <;> rfl
    | _ => rfl
  lowered := fun _ _ _ _ => ⟨rfl, rfl, rfl⟩
  plain := fun _ _ _ _ _ => rfl

def Fresh (state : DeliveryState) (context : OperationContext) : Prop :=
  state.idempotency[context.idempotencyId]? = none

section
variable [Sha256] {Id Record : Type} [LinearOrder Id]

structure Lowered (family : Family Id Record) (before : Service) (ports : Ports) (intent : ApproveAndExecuteLowerClassification)
    (prepared : WorkManagementPreparedIntent) (target : LoweringTarget Id) (current : Record) (version : AggregateVersion) :
    Prop where
  fresh : Fresh before.state intent.context
  pending : before.preparedLowerings[intent.approval.preparedId]? = some prepared
  aimed : family.target prepared.operation = some target
  found : (family.records before.state)[target.id]? = some current
  standing : family.version current = target.version
  approved : ∃ snapshot, ReceiptMinted prepared intent.approval snapshot (ports.now .minting) ports.authorize
  previewed : prepared.operation = family.operation target.id (family.version current) (family.classification current)
    target.proposedClassification target.rationale
  next : (family.version current).next = some version

end

inductive Effect [Sha256] (before : Service) (ports : Ports) (after : DeliveryState) : Operation → Prop where
  | initiativeCreated (command : CreateInitiative) (value : Initiative) (fresh : Fresh before.state command.context)
      (made : SameRecords (initiatives.place before.state value) after)
      (absent : before.state.initiatives[command.id]? = none) (named : value.id = command.id) :
      Effect before ports after (.createInitiative command)
  | initiativeUpdated (command : UpdateInitiative) (current value : Initiative) (fresh : Fresh before.state command.context)
      (made : SameRecords (initiatives.place before.state value) after)
      (found : before.state.initiatives[command.id]? = some current) (named : value.id = current.id)
      (next : current.version.next = some value.version) (rises : current.classification ≤ value.classification) :
      Effect before ports after (.updateInitiative command)
  | projectCreated (command : CreateProject) (value : Project) (fresh : Fresh before.state command.context)
      (made : SameRecords (projects.place before.state value) after)
      (absent : before.state.projects[command.id]? = none) (named : value.id = command.id)
      (period : value.startAt ≤ value.endAt) :
      Effect before ports after (.createProject command)
  | projectUpdated (command : UpdateProject) (current value : Project) (raised : List Milestone)
      (fresh : Fresh before.state command.context)
      (made : SameRecords (raised.foldl milestones.place (projects.place before.state value)) after)
      (found : before.state.projects[command.id]? = some current) (named : value.id = current.id)
      (next : current.version.next = some value.version) (rises : current.classification ≤ value.classification)
      (period : value.startAt ≤ value.endAt)
      (classified : value.classification = command.classification.getD current.classification)
      (inherits : List.Forall₂ (fun milestone later =>
        inherited command.context value (ports.now .recording) milestone = .ok later) (outranked value before.state) raised) :
      Effect before ports after (.updateProject command)
  | milestoneCreated (command : CreateMilestone) (project : Project) (value : Milestone)
      (fresh : Fresh before.state command.context) (made : SameRecords (milestones.place before.state value) after)
      (absent : before.state.milestones[command.id]? = none)
      (parent : before.state.projects[value.projectId]? = some project) (named : value.id = command.id)
      (bound : project.classification ≤ value.classification) :
      Effect before ports after (.createMilestone command)
  | milestoneUpdated (command : UpdateMilestone) (project : Project) (current value : Milestone)
      (fresh : Fresh before.state command.context) (made : SameRecords (milestones.place before.state value) after)
      (found : before.state.milestones[command.id]? = some current)
      (parent : before.state.projects[value.projectId]? = some project) (named : value.id = current.id)
      (next : current.version.next = some value.version) (rises : current.classification ≤ value.classification)
      (bound : project.classification ≤ value.classification) :
      Effect before ports after (.updateMilestone command)
  | initiativeLowered (intent : ApproveAndExecuteLowerClassification) (prepared : WorkManagementPreparedIntent)
      (target : LoweringTarget InitiativeId) (current : Initiative) (version : AggregateVersion)
      (lowered : Lowered initiatives before ports intent prepared target current version)
      (made : SameRecords (initiatives.place before.state
        (initiatives.lowered current target.proposedClassification version (ports.now .recording))) after) :
      Effect before ports after (.approveAndExecuteLowerInitiativeClassification intent)
  | projectLowered (intent : ApproveAndExecuteLowerClassification) (prepared : WorkManagementPreparedIntent)
      (target : LoweringTarget ProjectId) (current : Project) (version : AggregateVersion)
      (lowered : Lowered projects before ports intent prepared target current version)
      (made : SameRecords (projects.place before.state
        (projects.lowered current target.proposedClassification version (ports.now .recording))) after) :
      Effect before ports after (.approveAndExecuteLowerProjectClassification intent)
  | milestoneLowered (intent : ApproveAndExecuteLowerClassification) (prepared : WorkManagementPreparedIntent)
      (target : LoweringTarget MilestoneId) (current : Milestone) (version : AggregateVersion)
      (lowered : Lowered milestones before ports intent prepared target current version)
      (made : SameRecords (milestones.place before.state
        (milestones.lowered current target.proposedClassification version (ports.now .recording))) after) :
      Effect before ports after (.approveAndExecuteLowerMilestoneClassification intent)

section
variable {context : OperationContext} {ports : Ports} {state next : DeliveryState}

variable {now : UtcTimestamp}

theorem appendAudit_same {draw : Nat} {target : AuditTarget} {code : AuditEventCode} {id : AuditEventId}
    (success : appendAudit context ports draw target code now state = .ok (next, id)) : SameRecords state next := by
  unfold appendAudit at success
  obtain ⟨_, _, success⟩ := bind_ok.mp success
  obtain ⟨_, _, success⟩ := bind_ok.mp success
  obtain ⟨_, _, success⟩ := bind_ok.mp success
  cases pure_ok.mp success
  exact ⟨rfl, rfl, rfl⟩

variable {identity : CommandIdentity} {derived : List DerivedMilestoneMutation}

theorem remember_same {result : StoredResult} {auditEventIds : List AuditEventId}
    (success : remember context identity result auditEventIds derived state = .ok next) : SameRecords state next := by
  unfold remember takeOperationOrdinal at success
  obtain ⟨_, taken, success⟩ := bind_ok.mp success
  obtain ⟨_, _, taken⟩ := bind_ok.mp taken
  cases pure_ok.mp taken
  cases pure_ok.mp success
  exact ⟨rfl, rfl, rfl⟩

theorem auditInherited_same {draw : Nat} {raised : List (Milestone × Milestone)}
    (success : auditInherited context ports now draw raised state = .ok (next, derived)) : SameRecords state next := by
  induction raised generalizing draw state derived with
  | nil => cases success; exact .refl _
  | cons pair rest following =>
    obtain ⟨previous, resulting⟩ := pair
    unfold auditInherited at success
    obtain ⟨_, audited, success⟩ := bind_ok.mp success
    obtain ⟨⟨later, _⟩, onwards, success⟩ := bind_ok.mp success
    cases pure_ok.mp success
    exact (appendAudit_same audited).trans (following onwards)

variable {Id Record : Type} [LinearOrder Id] {family : Family Id Record}

variable {staged : Staged DeliveryState Record}

theorem placed_ok {code : AuditEventCode} {value : Record}
    (success : placed context family ports identity code now value state = .ok staged)
    (wanted : staged.target = some next) :
    staged = .committed value next ∧ SameRecords (family.place state value) next := by
  unfold placed at success
  obtain ⟨_, audited, success⟩ := bind_ok.mp success
  obtain ⟨_, remembered, success⟩ := bind_ok.mp success
  cases pure_ok.mp success
  cases wanted
  exact ⟨rfl, (appendAudit_same audited).trans (remember_same remembered)⟩

theorem orReplayed_ok {fresh : Except DomainError (Staged DeliveryState Record)}
    (success : orReplayed context family state identity fresh = .ok staged) (wanted : staged.target = some next) :
    Fresh state context ∧ fresh = .ok staged := by
  rcases orConflict_ok success with ⟨_, rfl⟩ | ⟨replayed, same⟩
  · cases wanted
  · refine ⟨?_, same⟩
    unfold replay at replayed
    split at replayed
    next absent => exact absent
    next => split at replayed <;> cases replayed

theorem monotonicClassification_ok {current result : DataClassification} {requested : Option DataClassification}
    (success : monotonicClassification context current requested = .ok result) :
    result = requested.getD current ∧ current ≤ result := by
  cases requested with
  | none => cases success; exact ⟨rfl, le_rfl⟩
  | some value =>
    unfold monotonicClassification at success
    dsimp only at success
    split at success
    next rises => cases success; exact ⟨rfl, DataClassification.combine_eq_right.mp rises⟩
    next => cases success

theorem nextVersion_ok {current version : AggregateVersion} (success : nextVersion context current = .ok version) :
    current.next = some version := require_ok.mp success

theorem validatePeriod_ok {start finish : UtcTimestamp} {result : Unit}
    (success : validatePeriod context start finish = .ok result) : start ≤ finish := ensure_ok.mp success

end

section
variable [Sha256] {service : Service} {ports : Ports} {next : DeliveryState}

variable {staged : Staged DeliveryState Initiative}

theorem stageCreateInitiative_effect {command : CreateInitiative}
    (success : stageCreateInitiative service.state ports command = .ok staged) (wanted : staged.target = some next) :
    Effect service ports next (.createInitiative command) := by
  obtain ⟨fresh, success⟩ := orReplayed_ok success wanted
  obtain ⟨_, absent, success⟩ := bind_ok.mp success
  obtain ⟨_, made⟩ := placed_ok success wanted
  exact .initiativeCreated command _ fresh made (ensure_ok.mp absent) rfl

theorem stageUpdateInitiative_effect {command : UpdateInitiative}
    (success : stageUpdateInitiative service.state ports command = .ok staged) (wanted : staged.target = some next) :
    Effect service ports next (.updateInitiative command) := by
  obtain ⟨fresh, success⟩ := orReplayed_ok success wanted
  obtain ⟨current, found, success⟩ := bind_ok.mp success
  obtain ⟨_, _, success⟩ := bind_ok.mp success
  obtain ⟨classification, raised, success⟩ := bind_ok.mp success
  obtain ⟨version, advanced, success⟩ := bind_ok.mp success
  obtain ⟨_, made⟩ := placed_ok success wanted
  exact .initiativeUpdated command current _ fresh made (require_ok.mp found) rfl (nextVersion_ok advanced)
    (monotonicClassification_ok raised).2

theorem stageCreateProject_effect {command : CreateProject} {staged : Staged DeliveryState Project}
    (success : stageCreateProject service.state ports command = .ok staged) (wanted : staged.target = some next) :
    Effect service ports next (.createProject command) := by
  obtain ⟨fresh, success⟩ := orReplayed_ok success wanted
  obtain ⟨_, period, success⟩ := bind_ok.mp success
  obtain ⟨_, absent, success⟩ := bind_ok.mp success
  obtain ⟨_, made⟩ := placed_ok success wanted
  exact .projectCreated command _ fresh made (ensure_ok.mp absent) rfl (validatePeriod_ok period)

theorem stageUpdateProject_effect {command : UpdateProject} {staged : Staged DeliveryState Project}
    (success : stageUpdateProject service.state ports command = .ok staged) (wanted : staged.target = some next) :
    Effect service ports next (.updateProject command) := by
  obtain ⟨fresh, success⟩ := orReplayed_ok success wanted
  obtain ⟨_, period, success⟩ := bind_ok.mp success
  obtain ⟨current, found, success⟩ := bind_ok.mp success
  obtain ⟨_, _, success⟩ := bind_ok.mp success
  obtain ⟨classification, raised, success⟩ := bind_ok.mp success
  obtain ⟨version, advanced, success⟩ := bind_ok.mp success
  obtain ⟨later, inherits, success⟩ := bind_ok.mp success
  obtain ⟨_, audited, success⟩ := bind_ok.mp success
  obtain ⟨_, derived, success⟩ := bind_ok.mp success
  obtain ⟨_, remembered, success⟩ := bind_ok.mp success
  cases pure_ok.mp success
  cases wanted
  obtain ⟨classified, rises⟩ := monotonicClassification_ok raised
  have made := ((appendAudit_same audited).trans (auditInherited_same derived)).trans (remember_same remembered)
  exact .projectUpdated command current _ later fresh made (require_ok.mp found) rfl (nextVersion_ok advanced) rises
    (validatePeriod_ok period) classified (mapM_ok.mp inherits)

theorem stageCreateMilestone_effect {command : CreateMilestone} {staged : Staged DeliveryState Milestone}
    (success : stageCreateMilestone service.state ports command = .ok staged) (wanted : staged.target = some next) :
    Effect service ports next (.createMilestone command) := by
  obtain ⟨fresh, success⟩ := orReplayed_ok success wanted
  obtain ⟨_, absent, success⟩ := bind_ok.mp success
  obtain ⟨project, found, success⟩ := bind_ok.mp success
  obtain ⟨_, made⟩ := placed_ok success wanted
  refine .milestoneCreated command project _ fresh made (ensure_ok.mp absent) (require_ok.mp found) rfl ?_
  dsimp only
  split
  · exact le_rfl
  · exact DataClassification.le_combine_left _ _

theorem stageUpdateMilestone_effect {command : UpdateMilestone} {staged : Staged DeliveryState Milestone}
    (success : stageUpdateMilestone service.state ports command = .ok staged) (wanted : staged.target = some next) :
    Effect service ports next (.updateMilestone command) := by
  obtain ⟨fresh, success⟩ := orReplayed_ok success wanted
  obtain ⟨current, found, success⟩ := bind_ok.mp success
  obtain ⟨_, _, success⟩ := bind_ok.mp success
  obtain ⟨requested, raised, success⟩ := bind_ok.mp success
  obtain ⟨project, parent, success⟩ := bind_ok.mp success
  obtain ⟨version, advanced, success⟩ := bind_ok.mp success
  obtain ⟨_, made⟩ := placed_ok success wanted
  exact .milestoneUpdated command project current _ fresh made (require_ok.mp found) (require_ok.mp parent) rfl
    (nextVersion_ok advanced) ((monotonicClassification_ok raised).2.trans (DataClassification.le_combine_right _ _))
    (DataClassification.le_combine_left _ _)

theorem stageLowerClassification_lowered {Id Record : Type} [LinearOrder Id] {family : Family Id Record}
    {intent : ApproveAndExecuteLowerClassification} {staged : Staged DeliveryState Record}
    (success : stageLowerClassification family service ports intent = .ok staged) (wanted : staged.target = some next) :
    ∃ prepared target current version, (∃ value, staged = .committed value next) ∧ Lowered family service ports intent prepared target current version ∧
      SameRecords (family.place service.state
        (family.lowered current target.proposedClassification version (ports.now .recording))) next := by
  obtain ⟨_, _, success⟩ := bind_ok.mp success
  obtain ⟨fresh, success⟩ := orReplayed_ok success wanted
  obtain ⟨prepared, pending, success⟩ := bind_ok.mp success
  obtain ⟨target, aimed, success⟩ := bind_ok.mp success
  obtain ⟨current, found, success⟩ := bind_ok.mp success
  obtain ⟨_, standing, success⟩ := bind_ok.mp success
  obtain ⟨receipt, minted, success⟩ := bind_ok.mp success
  obtain ⟨version, advanced, success⟩ := bind_ok.mp success
  obtain ⟨committed, made⟩ := placed_ok success wanted
  obtain ⟨_, _, minted⟩ := bind_ok.mp minted
  obtain ⟨_, _, minted⟩ := bind_ok.mp minted
  exact ⟨prepared, target, current, version, ⟨_, committed⟩,
    { fresh
      pending := require_ok.mp pending
      aimed := require_ok.mp aimed
      found := require_ok.mp found
      standing := ensure_ok.mp standing
      approved := ⟨_, (validateAndMint_ok (relabel_ok.mp minted)).1⟩
      previewed := (congrArg WorkManagementAuthoritativeSnapshot.operation
        (validateAndMint_ok (relabel_ok.mp minted)).1.unchanged).symm
      next := nextVersion_ok advanced }, made⟩

/-- An approval that passes all its checks. -/
def Admits {Id Record : Type} [LinearOrder Id] (family : Family Id Record) (service : Service) (ports : Ports)
    (intent : ApproveAndExecuteLowerClassification) : Prop :=
  ∃ value next, stageLowerClassification family service ports intent = .ok (.committed value next)

end

section
variable (service : Service) (ports : Ports) {Id Record : Type} [LinearOrder Id] {family : Family Id Record}

theorem prepareLowerClassification_cases (viewed : family.Viewed) (intent : PrepareLowerClassification Id) :
    (prepareLowerClassification family service ports intent).1.state = service.state ∧
    (((prepareLowerClassification family service ports intent).1.preparedLowerings = service.preparedLowerings ∧
      (prepareLowerClassification family service ports intent).1.preparedLoweringRequests =
        service.preparedLoweringRequests) ∨
      ∃ prepared record, (prepareLowerClassification family service ports intent).2 = .ok prepared ∧
        (prepareLowerClassification family service ports intent).1.preparedLowerings =
          service.preparedLowerings.insert prepared.id prepared ∧
        prepared.operation = family.operation (family.id record) (family.version record) (family.classification record)
          intent.proposedClassification intent.rationale ∧
        intent.proposedClassification < family.classification record) := by
  unfold prepareLowerClassification
  dsimp only
  split
  · exact ⟨rfl, .inl ⟨rfl, rfl⟩⟩
  split
  · exact ⟨rfl, .inl ⟨rfl, rfl⟩⟩
  next record checked =>
    split
    · exact ⟨rfl, .inl ⟨rfl, rfl⟩⟩
    split
    · exact ⟨rfl, .inl ⟨rfl, rfl⟩⟩
    next prepared made =>
      obtain ⟨_, _, checked⟩ := bind_ok.mp checked
      obtain ⟨_, _, checked⟩ := bind_ok.mp checked
      obtain ⟨_, genuine, checked⟩ := bind_ok.mp checked
      cases pure_ok.mp checked
      obtain ⟨id, _, made⟩ := bind_ok.mp made
      obtain ⟨canonical, expiresAt, sorted, _, _, preview⟩ :=
        preparePreview_ok (WorkManagementPreparedIntent.prepare_preview (relabel_ok.mp made))
      rw [viewed.plain] at sorted
      cases sorted
      refine ⟨rfl, .inr ⟨prepared, record, rfl, rfl, ?_, ?_⟩⟩
      · exact congrArg WorkManagementPreview.operation preview
      · exact not_le.mp fun above => ensure_ok.mp genuine
          ((DataClassification.combine_comm _ _).trans (DataClassification.combine_eq_right.mpr above))

end

variable [Sha256] {service : Service} {ports : Ports} {operation : Operation}

/-- A command that stages anything at all when it is not a replay. -/
def Commits {Outcome : Type} (decided : Except DomainError (Staged DeliveryState Outcome)) : Prop :=
  ∀ staged, decided = .ok staged → ∃ value next, staged = .committed value next

omit [Sha256] in
theorem Commits.bind {Outcome α : Type} {first : Except DomainError α}
    {rest : α → Except DomainError (Staged DeliveryState Outcome)} (commits : ∀ value, Commits (rest value)) :
    Commits (first >>= rest) := by
  intro staged success
  obtain ⟨value, _, success⟩ := bind_ok.mp success
  exact commits value staged success

variable {context : OperationContext}

omit [Sha256] in
theorem Commits.placed {Id Record : Type} [LinearOrder Id] {family : Family Id Record} {identity : CommandIdentity}
    {code : AuditEventCode} {now : UtcTimestamp} {value : Record} {state : DeliveryState} :
    Commits (placed context family ports identity code now value state) := by
  refine .bind fun _ => .bind fun _ staged success => ?_
  cases pure_ok.mp success
  exact ⟨_, _, rfl⟩

omit [Sha256] in
theorem Commits.orReplayed {Id Record : Type} [LinearOrder Id] {family : Family Id Record} {identity : CommandIdentity}
    {state : DeliveryState} {decided : Except DomainError (Staged DeliveryState Record)} (commits : Commits decided)
    (fresh : Fresh state context) : Commits (orReplayed context family state identity decided) := by
  intro staged success
  unfold Delivery.orReplayed replay at success
  rw [fresh] at success
  exact commits staged success

theorem ordinary_cases {Outcome : Type} {decided : Except DomainError (Staged DeliveryState Outcome)}
    (commits : Fresh service.state context → Commits decided)
    (effects : ∀ staged next, decided = .ok staged → staged.target = some next → Effect service ports next operation) :
    (ordinary service context decided).1.preparedLowerings = service.preparedLowerings ∧
    (ordinary service context decided).1.preparedLoweringRequests = service.preparedLoweringRequests ∧
    (((ordinary service context decided).1.state = service.state ∧
        ¬ (Fresh service.state context ∧ ∃ outcome, (ordinary service context decided).2 = .ok outcome)) ∨
      (∃ outcome, (ordinary service context decided).2 = .ok outcome) ∧
        Effect service ports (ordinary service context decided).1.state operation) := by
  refine ⟨rfl, rfl, ?_⟩
  unfold ordinary settle
  cases success : decided with
  | error cause => exact .inl ⟨rfl, fun ⟨_, _, same⟩ => by cases same⟩
  | ok staged =>
    cases staged with
    | replayed outcome =>
      refine .inl ⟨rfl, fun ⟨fresh, _⟩ => ?_⟩
      obtain ⟨_, _, same⟩ := commits fresh _ success
      cases same
    | placed outcome next => exact .inr ⟨⟨outcome, rfl⟩, effects _ next success rfl⟩
    | committed outcome next =>
      cases failing : service.failNextCommit with
      | true => exact .inl ⟨rfl, fun ⟨_, _, same⟩ => by cases same⟩
      | false => exact .inr ⟨⟨outcome, rfl⟩, effects _ next success rfl⟩

variable {Id Record : Type} [LinearOrder Id] {family : Family Id Record}

theorem stageLowerClassification_commits {intent : ApproveAndExecuteLowerClassification}
    (fresh : Fresh service.state intent.context) : Commits (stageLowerClassification family service ports intent) :=
  .bind fun _ => .orReplayed (.bind fun _ => .bind fun _ => .bind fun _ => .bind fun _ => .bind fun _ => .bind fun _ => .placed)
    fresh

variable (service ports family) in
/-- What an approval does: nothing, or it removes the preview, and then it lowers the record
unless the commit fails. -/
theorem approveAndExecute_cases (intent : ApproveAndExecuteLowerClassification) :
    ((approveAndExecuteLowerClassification family service ports intent).1 = service ∧
      ¬ (Fresh service.state intent.context ∧
        ∃ value, (approveAndExecuteLowerClassification family service ports intent).2 = .ok value)) ∨
    (Admits family service ports intent ∧
      (approveAndExecuteLowerClassification family service ports intent).1.preparedLowerings =
        service.preparedLowerings.erase intent.approval.preparedId ∧
      ((service.failNextCommit = true ∧
          (approveAndExecuteLowerClassification family service ports intent).1.state = service.state ∧
          ∃ cause, (approveAndExecuteLowerClassification family service ports intent).2 = .error cause) ∨
        ∃ value prepared target current version,
          (approveAndExecuteLowerClassification family service ports intent).2 = .ok value ∧
          Lowered family service ports intent prepared target current version ∧
          SameRecords (family.place service.state
            (family.lowered current target.proposedClassification version (ports.now .recording)))
            (approveAndExecuteLowerClassification family service ports intent).1.state)) := by
  unfold approveAndExecuteLowerClassification
  dsimp only
  cases decided : stageLowerClassification family service ports intent with
  | error cause => exact .inl ⟨rfl, fun ⟨_, _, same⟩ => by cases same⟩
  | ok staged =>
    cases staged with
    | replayed outcome =>
      refine .inl ⟨rfl, fun ⟨fresh, _⟩ => ?_⟩
      obtain ⟨_, _, same⟩ := stageLowerClassification_commits fresh _ decided
      cases same
    | placed outcome next =>
      obtain ⟨_, _, _, _, ⟨_, same⟩, _⟩ := stageLowerClassification_lowered decided rfl
      cases same
    | committed value next =>
      refine .inr ⟨⟨value, next, decided⟩, ?_⟩
      unfold settle
      dsimp only
      cases failing : service.failNextCommit with
      | true => exact ⟨rfl, .inl ⟨rfl, rfl, _, rfl⟩⟩
      | false =>
        obtain ⟨prepared, target, current, version, _, lowered, made⟩ := stageLowerClassification_lowered decided rfl
        exact ⟨rfl, .inr ⟨value, prepared, target, current, version, rfl, lowered, made⟩⟩

end MissionControl.Delivery

import MissionControl.Delivery.Steps
import MissionControl.Lib.Run

/-! What holds of the Delivery records wherever a run of commands leads, and what a single
command may do to them. -/

namespace MissionControl.Delivery
open Checked Staging Run

structure Sound (state : DeliveryState) : Prop where
  parents : ∀ (id : MilestoneId) milestone, state.milestones[id]? = some milestone →
    ∃ project : Project, state.projects[milestone.projectId]? = some project ∧
      project.classification ≤ milestone.classification
  periods : ∀ (id : ProjectId) (project : Project), state.projects[id]? = some project → project.startAt ≤ project.endAt

def aim : WorkManagementOperation → Option (AuditTarget × AggregateVersion)
  | .lowerInitiativeClassification id version .. => some (.initiative id, version)
  | .lowerProjectClassification id version .. => some (.project id, version)
  | .lowerMilestoneClassification id version .. => some (.milestone id, version)
  | _ => none

section
variable [Sha256]

inductive Lowers (before : Service) (ports : Ports) : Operation → AuditTarget → WorkManagementPreparedIntent → Prop where
  | initiative {intent : ApproveAndExecuteLowerClassification} {prepared : WorkManagementPreparedIntent}
      {goal : LoweringTarget InitiativeId} {current : Initiative} {version : AggregateVersion}
      (lowered : Lowered initiatives before ports intent prepared goal current version) :
      Lowers before ports (.approveAndExecuteLowerInitiativeClassification intent) (.initiative goal.id) prepared
  | project {intent : ApproveAndExecuteLowerClassification} {prepared : WorkManagementPreparedIntent}
      {goal : LoweringTarget ProjectId} {current : Project} {version : AggregateVersion}
      (lowered : Lowered projects before ports intent prepared goal current version) :
      Lowers before ports (.approveAndExecuteLowerProjectClassification intent) (.project goal.id) prepared
  | milestone {intent : ApproveAndExecuteLowerClassification} {prepared : WorkManagementPreparedIntent}
      {goal : LoweringTarget MilestoneId} {current : Milestone} {version : AggregateVersion}
      (lowered : Lowered milestones before ports intent prepared goal current version) :
      Lowers before ports (.approveAndExecuteLowerMilestoneClassification intent) (.milestone goal.id) prepared

/-- The records that an operation gives a new version when it succeeds. -/
inductive Revises (before : Service) (ports : Ports) : Operation → AuditTarget → Prop where
  | initiative (command : UpdateInitiative) (fresh : Fresh before.state command.context) :
      Revises before ports (.updateInitiative command) (.initiative command.id)
  | project (command : UpdateProject) (fresh : Fresh before.state command.context) :
      Revises before ports (.updateProject command) (.project command.id)
  | milestone (command : UpdateMilestone) (fresh : Fresh before.state command.context) :
      Revises before ports (.updateMilestone command) (.milestone command.id)
  | inherited (command : UpdateProject) (project : Project) (id : MilestoneId) (milestone : Milestone)
      (fresh : Fresh before.state command.context) (found : before.state.projects[command.id]? = some project)
      (stored : before.state.milestones[id]? = some milestone) (belongs : milestone.projectId = command.id)
      (outranked : milestone.classification < command.classification.getD project.classification) :
      Revises before ports (.updateProject command) (.milestone id)
  | lowered {operation : Operation} {target : AuditTarget} {prepared : WorkManagementPreparedIntent}
      (lowers : Lowers before ports operation target prepared) : Revises before ports operation target

def Accepted (before : Service) (ports : Ports) (operation : Operation) : Prop :=
  (step before ports operation).2.refused = false

def Executes (before : Service) (ports : Ports) (operation : Operation) (prepared : WorkManagementPreparedIntent) : Prop :=
  Accepted before ports operation ∧ ∃ target, Lowers before ports operation target prepared

structure Honest (before : Service) (ports : Ports) (operation : Operation) : Prop where
  revised : ∀ target version classification, before.state.view target = some (version, classification) →
    Accepted before ports operation → Revises before ports operation target →
    ∃ version' classification', (step before ports operation).1.state.view target = some (version', classification') ∧
      version.next = some version'
  others : ∀ target, before.state.view target ≠ none →
    ¬ (Accepted before ports operation ∧ Revises before ports operation target) →
    (step before ports operation).1.state.view target = before.state.view target
  lowering : ∀ target version classification version' classification',
    before.state.view target = some (version, classification) →
    (step before ports operation).1.state.view target = some (version', classification') → classification' < classification →
    Accepted before ports operation ∧ ∃ prepared, Lowers before ports operation target prepared
  executed : ∀ prepared, Executes before ports operation prepared →
    ports.now .minting < prepared.preview.expiresAt ∧ before.preparedLowerings[prepared.id]? = some prepared ∧
      (step before ports operation).1.preparedLowerings[prepared.id]? = none ∧
      ∃ target version classification, aim prepared.operation = some (target, version) ∧
        before.state.view target = some (version, classification)
  refused : ¬ Accepted before ports operation → (step before ports operation).1.state = before.state ∧
    (step before ports operation).1.preparedLowerings = before.preparedLowerings ∧
    (step before ports operation).1.preparedLoweringRequests = before.preparedLoweringRequests

/-- An approval that passes all its checks. -/
def Admitted (before : Service) (ports : Ports) : Operation → Prop
  | .approveAndExecuteLowerInitiativeClassification intent => Admits initiatives before ports intent
  | .approveAndExecuteLowerProjectClassification intent => Admits projects before ports intent
  | .approveAndExecuteLowerMilestoneClassification intent => Admits milestones before ports intent
  | _ => False

/-- No commit failure is outstanding when an approval passes all its checks, and no Milestone
is then lowered below its Project. -/
def Careful (before : Service) (ports : Ports) (operation : Operation) : Prop :=
  Admitted before ports operation → before.failNextCommit = false ∧
    ∀ intent prepared goal milestone project, operation = .approveAndExecuteLowerMilestoneClassification intent →
      before.preparedLowerings[intent.approval.preparedId]? = some prepared →
      milestones.target prepared.operation = some goal → before.state.milestones[goal.id]? = some milestone →
      before.state.projects[milestone.projectId]? = some project → project.classification ≤ goal.proposedClassification

abbrev Label := Ports × Operation

def Step (label : Label) (before after : Service) : Prop :=
  Careful before label.1 label.2 ∧ (step before label.1 label.2).1 = after

end

def Family.Keyed {Id Record : Type} [LinearOrder Id] (family : Family Id Record) (state : DeliveryState) : Prop :=
  ∀ id value, (family.records state)[id]? = some value → family.id value = id

/-- Every record is stored under its own id. -/
structure Keyed (state : DeliveryState) : Prop where
  initiatives : initiatives.Keyed state
  projects : projects.Keyed state
  milestones : milestones.Keyed state

section
variable {state after : DeliveryState}

theorem Keyed.same (keyed : Keyed state) (same : SameRecords state after) : Keyed after where
  initiatives id value found := keyed.initiatives id value (by rw [← found]; exact congrArg (·[id]?) same.initiatives.symm)
  projects id value found := keyed.projects id value (by rw [← found]; exact congrArg (·[id]?) same.projects.symm)
  milestones id value found := keyed.milestones id value (by rw [← found]; exact congrArg (·[id]?) same.milestones.symm)

theorem keyed_placeInitiative (keyed : Keyed state) (value : Initiative) : Keyed (initiatives.place state value) :=
  ⟨KeyMap.named_insert keyed.initiatives value, keyed.projects, keyed.milestones⟩

theorem keyed_placeProject (keyed : Keyed state) (value : Project) : Keyed (projects.place state value) :=
  ⟨keyed.initiatives, KeyMap.named_insert keyed.projects value, keyed.milestones⟩

theorem keyed_placeMilestone (keyed : Keyed state) (value : Milestone) : Keyed (milestones.place state value) :=
  ⟨keyed.initiatives, keyed.projects, KeyMap.named_insert keyed.milestones value⟩

theorem keyed_placeAll (keyed : Keyed state) (raised : List Milestone) : Keyed (raised.foldl milestones.place state) := by
  induction raised generalizing state with
  | nil => exact keyed
  | cons head _ rest => exact rest (keyed_placeMilestone keyed head)

theorem Keyed.effect [Sha256] {before : Service} {ports : Ports} {operation : Operation} (keyed : Keyed before.state)
    (effect : Effect before ports after operation) : Keyed after := by
  cases effect with
  | initiativeCreated _ value _ made => exact (keyed_placeInitiative keyed value).same made
  | initiativeUpdated _ _ value _ made => exact (keyed_placeInitiative keyed value).same made
  | projectCreated _ value _ made => exact (keyed_placeProject keyed value).same made
  | projectUpdated _ _ value raised _ made => exact (keyed_placeAll (keyed_placeProject keyed value) raised).same made
  | milestoneCreated _ _ value _ made => exact (keyed_placeMilestone keyed value).same made
  | milestoneUpdated _ _ _ value _ made => exact (keyed_placeMilestone keyed value).same made
  | initiativeLowered _ _ _ _ _ _ made => exact (keyed_placeInitiative keyed _).same made
  | projectLowered _ _ _ _ _ _ made => exact (keyed_placeProject keyed _).same made
  | milestoneLowered _ _ _ _ _ _ made => exact (keyed_placeMilestone keyed _).same made

variable {Id Record : Type} [LinearOrder Id] {family : Family Id Record}

theorem Family.Viewed.self (viewed : family.Viewed) {value : Record} (made : SameRecords (family.place state value) after) :
    after.view (family.auditTarget (family.id value)) = some (family.version value, family.classification value) := by
  rw [made.view, viewed.placed, if_pos rfl]

theorem Family.Viewed.other (viewed : family.Viewed) {value : Record} (made : SameRecords (family.place state value) after)
    {target : AuditTarget} (different : target ≠ family.auditTarget (family.id value)) :
    after.view target = state.view target := by
  rw [made.view, viewed.placed, if_neg different]

end

section
variable {context : OperationContext} {value : Project} {now : UtcTimestamp} {raised : List Milestone} {state : DeliveryState}

theorem placeAll_found (raised : List Milestone) (state : DeliveryState) :
    (raised.foldl milestones.place state).initiatives = state.initiatives ∧
    (raised.foldl milestones.place state).projects = state.projects ∧
    ∀ id : MilestoneId, (raised.foldl milestones.place state).milestones[id]? =
      (raised.reverse.find? (·.id = id)).or state.milestones[id]? := by
  induction raised generalizing state with
  | nil => exact ⟨rfl, rfl, fun _ => rfl⟩
  | cons head tail rest =>
    obtain ⟨initiatives, projects, found⟩ := rest (milestones.place state head)
    refine ⟨initiatives, projects, fun id => ?_⟩
    rw [List.foldl_cons, found, List.reverse_cons, List.find?_append, Option.or_assoc]
    congr 1
    have placed : (milestones.place state head).milestones[id]? = if head.id = id then some head else state.milestones[id]? :=
      KeyMap.get_insert _ _ _ _
    rw [placed, List.find?_cons]
    by_cases same : head.id = id
    · simp [same]
    · simp [same]

theorem inherited_ok {milestone later : Milestone} (success : inherited context value now milestone = .ok later) :
    later.id = milestone.id ∧ later.projectId = milestone.projectId ∧ milestone.version.next = some later.version ∧
      later.classification = value.classification.combine milestone.classification := by
  unfold inherited at success
  obtain ⟨version, advanced, success⟩ := bind_ok.mp success
  cases pure_ok.mp success
  exact ⟨rfl, rfl, nextVersion_ok advanced, rfl⟩

theorem placeAll_view (raised : List Milestone) (state : DeliveryState) {target : AuditTarget}
    (other : ∀ id, target ≠ .milestone id) : (raised.foldl milestones.place state).view target = state.view target := by
  obtain ⟨initiatives, projects, _⟩ := placeAll_found raised state
  cases target with
  | initiative id => rw [DeliveryState.view, initiatives, DeliveryState.view]
  | project id => rw [DeliveryState.view, projects, DeliveryState.view]
  | milestone id => exact absurd rfl (other id)
  | _ => rfl

def Outranked (project : Project) (milestone : Milestone) : Prop :=
  milestone.projectId = project.id ∧ milestone.classification < project.classification

theorem mem_outranked {milestone : Milestone} : milestone ∈ outranked value state ↔
    (∃ id : MilestoneId, state.milestones[id]? = some milestone) ∧ Outranked value milestone := by
  unfold outranked Outranked
  rw [Sorting.mem_sortBy, List.mem_filter, KeyMap.mem_held, decide_eq_true_iff, ne_eq, DataClassification.combine_eq_right,
    not_le]

theorem raised_milestone (keyed : Keyed state)
    (inherits : List.Forall₂ (fun milestone later => inherited context value now milestone = .ok later)
      (outranked value state) raised) (id : MilestoneId) :
    (∃ milestone later, state.milestones[id]? = some milestone ∧ Outranked value milestone ∧
      inherited context value now milestone = .ok later ∧
      (raised.foldl milestones.place (projects.place state value)).milestones[id]? = some later) ∨
    (∀ milestone, state.milestones[id]? = some milestone → ¬ Outranked value milestone) ∧
      (raised.foldl milestones.place (projects.place state value)).milestones[id]? = state.milestones[id]? := by
  obtain ⟨forth, back⟩ := mem_matched inherits
  have placed := (placeAll_found raised (projects.place state value)).2.2 id
  cases last : raised.reverse.find? (·.id = id) with
  | none =>
    refine .inr ⟨fun milestone found outranks => ?_, by rw [placed, last]; rfl⟩
    obtain ⟨later, held, raises⟩ := forth milestone (mem_outranked.mpr ⟨⟨id, found⟩, outranks⟩)
    have named : later.id = id := (inherited_ok raises).1.trans (keyed.milestones id milestone found)
    exact List.find?_eq_none.mp last later (List.mem_reverse.mpr held) (decide_eq_true named)
  | some later =>
    have named : later.id = id := by simpa using List.find?_some last
    obtain ⟨milestone, listed, raises⟩ := back later (List.mem_reverse.mp (List.mem_of_find?_eq_some last))
    obtain ⟨⟨key, found⟩, outranks⟩ := mem_outranked.mp listed
    have same : key = id := (keyed.milestones key milestone found).symm.trans ((inherited_ok raises).1.symm.trans named)
    cases same
    exact .inl ⟨milestone, later, found, outranks, raises, by rw [placed, last]; rfl⟩

end

section
variable [Sha256] {before : Service} {ports : Ports} {after : DeliveryState} {operation : Operation}

/-- A record that an operation revises: its version is the next one, and it is less restricted
than before only if it was lowered. -/
def Advanced (before : Service) (ports : Ports) (after : DeliveryState) (operation : Operation) (target : AuditTarget)
    (version : AggregateVersion) (classification : DataClassification) : Prop :=
  Revises before ports operation target ∧
    ∃ version' classification', after.view target = some (version', classification') ∧ version.next = some version' ∧
      (classification ≤ classification' ∨ ∃ prepared, Lowers before ports operation target prepared)

variable {target : AuditTarget} {version : AggregateVersion} {classification : DataClassification}

section
variable {Id Record : Type} [LinearOrder Id] {family : Family Id Record}

omit [Sha256] in
theorem created_view (viewed : family.Viewed) {value : Record} (made : SameRecords (family.place before.state value) after)
    (absent : (family.records before.state)[family.id value]? = none)
    (seen : before.state.view target = some (version, classification)) : after.view target = before.state.view target := by
  refine viewed.other made fun same => ?_
  rw [same, viewed.found, absent] at seen
  cases seen

theorem updated_view (viewed : family.Viewed) {id : Id} {current value : Record}
    (made : after.view target = (family.place before.state value).view target) (named : family.id value = id)
    (found : (family.records before.state)[id]? = some current)
    (next : (family.version current).next = some (family.version value))
    (rises : family.classification current ≤ family.classification value)
    (revises : Revises before ports operation (family.auditTarget id))
    (only : Revises before ports operation target → target = family.auditTarget id)
    (seen : before.state.view target = some (version, classification)) :
    Advanced before ports after operation target version classification ∨
      ¬ Revises before ports operation target ∧ after.view target = before.state.view target := by
  subst named
  by_cases same : target = family.auditTarget (family.id value)
  · subst same
    rw [viewed.found, found] at seen
    cases seen
    rw [viewed.placed, if_pos rfl] at made
    exact .inl ⟨revises, _, _, made, next, .inl rises⟩
  · rw [viewed.placed, if_neg same] at made
    exact .inr ⟨fun revises => same (only revises), made⟩

variable {intent : ApproveAndExecuteLowerClassification}

theorem Lowered.same {prepared prepared' : WorkManagementPreparedIntent} {goal goal' : LoweringTarget Id}
    {current current' : Record} {later later' : AggregateVersion}
    (one : Lowered family before ports intent prepared goal current later)
    (other : Lowered family before ports intent prepared' goal' current' later') :
    prepared' = prepared ∧ goal' = goal := by
  have pending := other.pending
  rw [one.pending] at pending
  cases pending
  have aimed := other.aimed
  rw [one.aimed] at aimed
  cases aimed
  exact ⟨rfl, rfl⟩

theorem lowered_view (viewed : family.Viewed) (keyed : family.Keyed before.state)
    {prepared : WorkManagementPreparedIntent} {goal : LoweringTarget Id} {current : Record} {later : AggregateVersion}
    {now : UtcTimestamp} (lowered : Lowered family before ports intent prepared goal current later)
    (made : SameRecords (family.place before.state (family.lowered current goal.proposedClassification later now)) after)
    (lowers : Lowers before ports operation (family.auditTarget goal.id) prepared)
    (only : Revises before ports operation target → target = family.auditTarget goal.id)
    (seen : before.state.view target = some (version, classification)) :
    Advanced before ports after operation target version classification ∨
      ¬ Revises before ports operation target ∧ after.view target = before.state.view target := by
  obtain ⟨kept, versioned, classified⟩ := viewed.lowered current goal.proposedClassification later now
  have named : family.id (family.lowered current goal.proposedClassification later now) = goal.id :=
    kept.trans (keyed goal.id current lowered.found)
  by_cases same : target = family.auditTarget goal.id
  · subst same
    rw [viewed.found, lowered.found] at seen
    cases seen
    have self := viewed.self made
    rw [named, versioned] at self
    exact .inl ⟨.lowered lowers, _, _, self, lowered.next, .inr ⟨prepared, lowers⟩⟩
  · refine .inr ⟨fun revises => same (only revises), viewed.other made ?_⟩
    rw [named]
    exact same

end

theorem Effect.view (effect : Effect before ports after operation) (keyed : Keyed before.state)
    (seen : before.state.view target = some (version, classification)) :
    Advanced before ports after operation target version classification ∨
      ¬ Revises before ports operation target ∧ after.view target = before.state.view target := by
  cases effect with
  | initiativeCreated command value _ made absent named =>
    rw [← named] at absent
    refine .inr ⟨fun revises => ?_, created_view initiatives_viewed made absent seen⟩
    cases revises with
    | lowered lowers => cases lowers
  | initiativeUpdated command current value fresh made found named next rises =>
    refine updated_view initiatives_viewed (made.view _) (named.trans (keyed.initiatives _ current found)) found next rises
      (.initiative command fresh) (fun revises => ?_) seen
    cases revises with
    | initiative => rfl
    | lowered lowers => cases lowers
  | projectCreated command value _ made absent named =>
    rw [← named] at absent
    refine .inr ⟨fun revises => ?_, created_view projects_viewed made absent seen⟩
    cases revises with
    | lowered lowers => cases lowers
  | projectUpdated command current value raised fresh made found named next rises period classified inherits =>
    have same : value.id = command.id := named.trans (keyed.projects _ current found)
    by_cases milestone : ∃ id, target = .milestone id
    · obtain ⟨id, rfl⟩ := milestone
      rcases raised_milestone keyed inherits id with
        ⟨milestone, later, stored, ⟨belongs, outranked⟩, raises, placed⟩ | ⟨standing, placed⟩
      · obtain ⟨_, _, advanced, combined⟩ := inherited_ok raises
        replace seen := (congrArg (Option.map _) stored).symm.trans seen
        cases seen
        refine .inl ⟨.inherited command current id milestone fresh found stored (belongs.trans same) (classified ▸ outranked),
          later.version, later.classification, ?_, advanced, .inl (combined ▸ DataClassification.le_combine_right _ _)⟩
        rw [made.view]
        exact congrArg (Option.map _) placed
      · refine .inr ⟨fun revises => ?_, by rw [made.view]; exact congrArg (Option.map _) placed⟩
        cases revises with
        | inherited _ project _ milestone _ found' stored belongs outranked =>
          rw [found] at found'
          cases found'
          exact standing milestone stored ⟨belongs.trans same.symm, classified ▸ outranked⟩
        | lowered lowers => cases lowers
    · have elsewhere : ∀ id, target ≠ .milestone id := not_exists.mp milestone
      refine updated_view projects_viewed ((made.view _).trans (placeAll_view _ _ elsewhere)) same found next rises
        (.project command fresh) (fun revises => ?_) seen
      cases revises with
      | project => rfl
      | inherited _ _ id => exact absurd rfl (elsewhere id)
      | lowered lowers => cases lowers
  | milestoneCreated command project value _ made absent parent named =>
    rw [← named] at absent
    refine .inr ⟨fun revises => ?_, created_view milestones_viewed made absent seen⟩
    cases revises with
    | lowered lowers => cases lowers
  | milestoneUpdated command project current value fresh made found parent named next rises =>
    refine updated_view milestones_viewed (made.view _) (named.trans (keyed.milestones _ current found)) found next rises
      (.milestone command fresh) (fun revises => ?_) seen
    cases revises with
    | milestone => rfl
    | lowered lowers => cases lowers
  | initiativeLowered intent prepared goal current later lowered made =>
    refine lowered_view initiatives_viewed keyed.initiatives lowered made (.initiative lowered) (fun revises => ?_) seen
    cases revises with
    | lowered lowers =>
      cases lowers with
      | initiative again => rw [(lowered.same again).2]; rfl
  | projectLowered intent prepared goal current later lowered made =>
    refine lowered_view projects_viewed keyed.projects lowered made (.project lowered) (fun revises => ?_) seen
    cases revises with
    | lowered lowers =>
      cases lowers with
      | project again => rw [(lowered.same again).2]; rfl
  | milestoneLowered intent prepared goal current later lowered made =>
    refine lowered_view milestones_viewed keyed.milestones lowered made (.milestone lowered) (fun revises => ?_) seen
    cases revises with
    | lowered lowers =>
      cases lowers with
      | milestone again => rw [(lowered.same again).2]; rfl

end

/-- A lowering that makes its record less restricted than it was. -/
def Genuine : WorkManagementOperation → Prop
  | .lowerInitiativeClassification _ _ current proposed _ | .lowerProjectClassification _ _ current proposed _
  | .lowerMilestoneClassification _ _ current proposed _ => proposed < current
  | _ => True

structure Invariant (service : Service) : Prop where
  keyed : Keyed service.state
  sound : Sound service.state
  genuine : ∀ (id : PreparedIntentId) (prepared : WorkManagementPreparedIntent),
    service.preparedLowerings[id]? = some prepared → Genuine prepared.operation

section
variable {state after : DeliveryState}

theorem Sound.same (sound : Sound state) (milestones : after.milestones = state.milestones)
    (projects : after.projects = state.projects) : Sound after where
  parents id milestone found := by
    rw [milestones] at found
    rw [projects]
    exact sound.parents id milestone found
  periods id project found := by
    rw [projects] at found
    exact sound.periods id project found

theorem Sound.placeProject (sound : Sound state) {value : Project}
    (projects : after.projects = state.projects.insert value.id value) (period : value.startAt ≤ value.endAt)
    (bound : ∀ (id : MilestoneId) milestone, after.milestones[id]? = some milestone →
      (milestone.projectId = value.id → value.classification ≤ milestone.classification) ∧
        ∃ former : Milestone, state.milestones[id]? = some former ∧ milestone.projectId = former.projectId ∧
          former.classification ≤ milestone.classification) : Sound after where
  parents id milestone found := by
    obtain ⟨own, former, stored, belongs, raised⟩ := bound id milestone found
    obtain ⟨project, parent, above⟩ := sound.parents id former stored
    rw [projects, KeyMap.get_insert]
    split
    next same => exact ⟨value, rfl, own same.symm⟩
    next => exact ⟨project, belongs ▸ parent, above.trans raised⟩
  periods id project found := by
    rw [projects, KeyMap.get_insert] at found
    split at found
    · cases found; exact period
    · exact sound.periods id project found

theorem Sound.placeMilestone (sound : Sound state) {value : Milestone} {project : Project}
    (made : SameRecords (milestones.place state value) after) (parent : state.projects[value.projectId]? = some project)
    (bound : project.classification ≤ value.classification) : Sound after where
  parents id milestone found := by
    rw [made.milestones] at found
    rw [made.projects]
    replace found := (KeyMap.get_insert _ _ _ _).symm.trans found
    split at found
    · cases found; exact ⟨project, parent, bound⟩
    · exact sound.parents id milestone found
  periods id project found := by
    rw [made.projects] at found
    exact sound.periods id project found

variable [Sha256] {before : Service} {ports : Ports} {operation : Operation}

theorem Invariant.effect (invariant : Invariant before) (careful : Careful before ports operation)
    (admitted : ∀ intent, operation = .approveAndExecuteLowerMilestoneClassification intent → Admitted before ports operation)
    (effect : Effect before ports after operation) : Sound after := by
  obtain ⟨keyed, sound, genuine⟩ := invariant
  cases effect with
  | initiativeCreated _ value _ made => exact sound.same made.milestones made.projects
  | initiativeUpdated _ _ value _ made => exact sound.same made.milestones made.projects
  | initiativeLowered _ _ _ _ _ _ made => exact sound.same made.milestones made.projects
  | projectCreated command value _ made absent named period =>
    refine sound.placeProject made.projects period fun id milestone stored => ?_
    rw [made.milestones] at stored
    refine ⟨fun belongs => ?_, milestone, stored, rfl, le_rfl⟩
    obtain ⟨project, parent, _⟩ := sound.parents id milestone stored
    rw [belongs, named, absent] at parent
    cases parent
  | projectUpdated command current value raised _ made found named next rises period _ inherits =>
    refine sound.placeProject (made.projects.trans (placeAll_found _ _).2.1) period fun id milestone placed => ?_
    rw [made.milestones] at placed
    rcases raised_milestone keyed inherits id with ⟨former, later, stored, _, raises, found⟩ | ⟨standing, found⟩
    · obtain ⟨_, belongs, _, combined⟩ := inherited_ok raises
      cases found.symm.trans placed
      exact ⟨fun _ => combined ▸ DataClassification.le_combine_left _ _, former, stored, belongs,
        combined ▸ DataClassification.le_combine_right _ _⟩
    · have stored := found.symm.trans placed
      exact ⟨fun belongs => not_lt.mp fun below => standing milestone stored ⟨belongs, below⟩, milestone, stored, rfl, le_rfl⟩
  | projectLowered intent prepared goal current version lowered made =>
    refine sound.placeProject made.projects (sound.periods _ current lowered.found) fun id milestone stored => ?_
    rw [made.milestones] at stored
    refine ⟨fun belongs => ?_, milestone, stored, rfl, le_rfl⟩
    obtain ⟨project, parent, above⟩ := sound.parents id milestone stored
    have same : milestone.projectId = goal.id := belongs.trans (keyed.projects _ current lowered.found)
    rw [same] at parent
    cases lowered.found.symm.trans parent
    have below : Genuine prepared.operation := genuine _ prepared lowered.pending
    rw [lowered.previewed] at below
    exact (le_of_lt below).trans above
  | milestoneCreated command project value _ made _ parent named bound => exact sound.placeMilestone made parent bound
  | milestoneUpdated command project current value _ made _ parent _ _ _ bound => exact sound.placeMilestone made parent bound
  | milestoneLowered intent prepared goal current version lowered made =>
    obtain ⟨project, parent, _⟩ := sound.parents _ current lowered.found
    exact sound.placeMilestone made parent
      ((careful (admitted intent rfl)).2 intent prepared goal current project rfl lowered.pending lowered.aimed lowered.found parent)

end

theorem initiative_answers (answer : Except DomainError Initiative) (accepted : (Response.initiative answer).refused = false) :
    ∃ outcome, answer = .ok outcome := by
  cases answer with
  | ok outcome => exact ⟨outcome, rfl⟩
  | error cause => cases accepted

theorem project_answers (answer : Except DomainError Project) (accepted : (Response.project answer).refused = false) :
    ∃ outcome, answer = .ok outcome := by
  cases answer with
  | ok outcome => exact ⟨outcome, rfl⟩
  | error cause => cases accepted

theorem milestone_answers (answer : Except DomainError Milestone) (accepted : (Response.milestone answer).refused = false) :
    ∃ outcome, answer = .ok outcome := by
  cases answer with
  | ok outcome => exact ⟨outcome, rfl⟩
  | error cause => cases accepted

section
variable [Sha256] {before : Service} {ports : Ports} {operation : Operation}

structure Acts (before : Service) (ports : Ports) (operation : Operation) (after : Service) (refused : Bool) : Prop where
  records : (after.state = before.state ∧ (refused = false → ∀ target, ¬ Revises before ports operation target)) ∨
    refused = false ∧ Effect before ports after.state operation ∧
      ∀ intent, operation = .approveAndExecuteLowerMilestoneClassification intent → Admitted before ports operation
  previews : (after.preparedLowerings = before.preparedLowerings ∧
      after.preparedLoweringRequests = before.preparedLoweringRequests) ∨
    (Admitted before ports operation ∧ (before.failNextCommit = false → refused = false) ∧
      ∃ id, after.preparedLowerings = before.preparedLowerings.erase id) ∨
    refused = false ∧ ∃ prepared, Genuine prepared.operation ∧
      after.preparedLowerings = before.preparedLowerings.insert prepared.id prepared
  executed : refused = false → ∀ target prepared, Lowers before ports operation target prepared →
    after.preparedLowerings[prepared.id]? = none

theorem ordinary_acts {Outcome : Type} (wrap : Except DomainError Outcome → Response) {context : OperationContext}
    {decided : Except DomainError (Staged DeliveryState Outcome)}
    (answers : ∀ answer, (wrap answer).refused = false → ∃ outcome, answer = .ok outcome)
    (accepts : ∀ outcome, (wrap (.ok outcome)).refused = false)
    (commits : Fresh before.state context → Commits decided)
    (effects : ∀ staged next, decided = .ok staged → staged.target = some next → Effect before ports next operation)
    (fresh : ∀ target, Revises before ports operation target → Fresh before.state context)
    (unapproved : ∀ intent, operation ≠ .approveAndExecuteLowerMilestoneClassification intent)
    (unlowered : ∀ target prepared, ¬ Lowers before ports operation target prepared) :
    Acts before ports operation (ordinary before context decided).1 (wrap (ordinary before context decided).2).refused := by
  obtain ⟨lowerings, requests, records⟩ := ordinary_cases commits effects
  refine ⟨?_, .inl ⟨lowerings, requests⟩, fun _ target prepared lowers => absurd lowers (unlowered target prepared)⟩
  rcases records with ⟨same, unchanged⟩ | ⟨⟨outcome, accepted⟩, effect⟩
  · exact .inl ⟨same, fun accepted target revises => unchanged ⟨fresh target revises, answers _ accepted⟩⟩
  · exact .inr ⟨accepted ▸ accepts outcome, effect, fun intent same => absurd same (unapproved intent)⟩

variable {Id Record : Type} [LinearOrder Id] {family : Family Id Record}

theorem prepare_acts (viewed : family.Viewed)
    (genuine : ∀ id version current proposed rationale, proposed < current →
      Genuine (family.operation id version current proposed rationale))
    (intent : PrepareLowerClassification Id) (unrevised : ∀ target, ¬ Revises before ports operation target) :
    Acts before ports operation (prepareLowerClassification family before ports intent).1
      (Response.prepared (prepareLowerClassification family before ports intent).2).refused := by
  obtain ⟨same, previews⟩ := prepareLowerClassification_cases before ports viewed intent
  refine ⟨.inl ⟨same, fun _ => unrevised⟩, ?_, fun _ target _ lowers => absurd (.lowered lowers) (unrevised target)⟩
  rcases previews with kept | ⟨prepared, record, accepted, added, made, below⟩
  · exact .inl kept
  · refine .inr (.inr ⟨?_, prepared, ?_, added⟩)
    · rw [accepted]
      rfl
    · rw [made]
      exact genuine _ _ _ _ _ below

variable (family) in
theorem approve_acts {wrap : Except DomainError Record → Response} (intent : ApproveAndExecuteLowerClassification)
    (answers : ∀ answer, (wrap answer).refused = false → ∃ outcome, answer = .ok outcome)
    (accepts : ∀ outcome, (wrap (.ok outcome)).refused = false)
    (admitted : Admits family before ports intent → Admitted before ports operation)
    (effects : ∀ prepared goal current version after, Lowered family before ports intent prepared goal current version →
      SameRecords (family.place before.state
        (family.lowered current goal.proposedClassification version (ports.now .recording))) after →
      Effect before ports after operation)
    (revises : ∀ target, Revises before ports operation target → ∃ prepared, Lowers before ports operation target prepared)
    (lowers : ∀ target prepared, Lowers before ports operation target prepared →
      ∃ goal current version, Lowered family before ports intent prepared goal current version) :
    Acts before ports operation (approveAndExecuteLowerClassification family before ports intent).1
      (wrap (approveAndExecuteLowerClassification family before ports intent).2).refused := by
  rcases approveAndExecute_cases before ports family intent with
    ⟨same, unchanged⟩ | ⟨passes, removed, result⟩
  · rw [same]
    have answered : (wrap (approveAndExecuteLowerClassification family before ports intent).2).refused = false →
        ∀ target prepared, ¬ Lowers before ports operation target prepared := by
      intro accepted target prepared lowering
      obtain ⟨_, _, _, lowered⟩ := lowers target prepared lowering
      exact unchanged ⟨lowered.fresh, answers _ accepted⟩
    refine ⟨.inl ⟨rfl, fun accepted target revised => ?_⟩, .inl ⟨rfl, rfl⟩,
      fun accepted target prepared lowering => absurd lowering (answered accepted target prepared)⟩
    obtain ⟨prepared, lowering⟩ := revises target revised
    exact answered accepted target prepared lowering
  · have consumed : ∀ target prepared, Lowers before ports operation target prepared →
        (approveAndExecuteLowerClassification family before ports intent).1.preparedLowerings[prepared.id]? = none := by
      intro target prepared lowering
      obtain ⟨_, _, _, lowered⟩ := lowers target prepared lowering
      obtain ⟨_, minted⟩ := lowered.approved
      rw [removed, minted.named]
      exact KeyMap.get_erase_self ..
    rcases result with ⟨failing, same, cause, refused⟩ | ⟨value, prepared, goal, current, version, accepted, lowered, made⟩
    · have denied : (wrap (approveAndExecuteLowerClassification family before ports intent).2).refused ≠ false := by
        intro accepted
        obtain ⟨_, same⟩ := answers _ accepted
        cases refused.symm.trans same
      refine ⟨.inl ⟨same, fun accepted => absurd accepted denied⟩,
        .inr (.inl ⟨admitted passes, fun clear => ?_, intent.approval.preparedId, removed⟩), fun _ => consumed⟩
      rw [failing] at clear
      cases clear
    · have granted : (wrap (approveAndExecuteLowerClassification family before ports intent).2).refused = false :=
        accepted ▸ accepts value
      exact ⟨.inr ⟨granted, effects prepared goal current version _ lowered made, fun _ _ => admitted passes⟩,
        .inr (.inl ⟨admitted passes, fun _ => granted, intent.approval.preparedId, removed⟩), fun _ => consumed⟩

theorem step_acts (before : Service) (ports : Ports) (operation : Operation) :
    Acts before ports operation (step before ports operation).1 (step before ports operation).2.refused := by
  cases operation with
  | createInitiative command =>
    refine ordinary_acts .initiative initiative_answers (fun _ => rfl) (fun fresh => .orReplayed ?_ fresh)
      (fun _ _ => stageCreateInitiative_effect) (fun _ revises => ?_) (fun _ same => by cases same)
      (fun _ _ lowers => by cases lowers)
    · exact .bind fun _ => .placed
    · cases revises with
      | lowered lowers => cases lowers
  | updateInitiative command =>
    refine ordinary_acts .initiative initiative_answers (fun _ => rfl) (fun fresh => .orReplayed ?_ fresh)
      (fun _ _ => stageUpdateInitiative_effect) (fun _ revises => ?_) (fun _ same => by cases same)
      (fun _ _ lowers => by cases lowers)
    · exact .bind fun _ => .bind fun _ => .bind fun _ => .bind fun _ => .placed
    · cases revises with
      | initiative _ fresh => exact fresh
      | lowered lowers => cases lowers
  | createProject command =>
    refine ordinary_acts .project project_answers (fun _ => rfl) (fun fresh => .orReplayed ?_ fresh)
      (fun _ _ => stageCreateProject_effect) (fun _ revises => ?_) (fun _ same => by cases same)
      (fun _ _ lowers => by cases lowers)
    · exact .bind fun _ => .bind fun _ => .placed
    · cases revises with
      | lowered lowers => cases lowers
  | updateProject command =>
    refine ordinary_acts .project project_answers (fun _ => rfl) (fun fresh => .orReplayed ?_ fresh)
      (fun _ _ => stageUpdateProject_effect) (fun _ revises => ?_) (fun _ same => by cases same)
      (fun _ _ lowers => by cases lowers)
    · refine .bind fun _ => .bind fun _ => .bind fun _ => .bind fun _ => .bind fun _ => .bind fun _ => .bind fun _ =>
        .bind fun _ => .bind fun _ staged success => ?_
      cases pure_ok.mp success
      exact ⟨_, _, rfl⟩
    · cases revises with
      | project _ fresh => exact fresh
      | inherited _ _ _ _ fresh => exact fresh
      | lowered lowers => cases lowers
  | createMilestone command =>
    refine ordinary_acts .milestone milestone_answers (fun _ => rfl) (fun fresh => .orReplayed ?_ fresh)
      (fun _ _ => stageCreateMilestone_effect) (fun _ revises => ?_) (fun _ same => by cases same)
      (fun _ _ lowers => by cases lowers)
    · exact .bind fun _ => .bind fun _ => .placed
    · cases revises with
      | lowered lowers => cases lowers
  | updateMilestone command =>
    refine ordinary_acts .milestone milestone_answers (fun _ => rfl) (fun fresh => .orReplayed ?_ fresh)
      (fun _ _ => stageUpdateMilestone_effect) (fun _ revises => ?_) (fun _ same => by cases same)
      (fun _ _ lowers => by cases lowers)
    · exact .bind fun _ => .bind fun _ => .bind fun _ => .bind fun _ => .bind fun _ => .placed
    · cases revises with
      | milestone _ fresh => exact fresh
      | lowered lowers => cases lowers
  | prepareLowerInitiativeClassification intent =>
    refine prepare_acts initiatives_viewed (fun _ _ _ _ _ below => below) intent fun _ revises => ?_
    cases revises with
    | lowered lowers => cases lowers
  | prepareLowerProjectClassification intent =>
    refine prepare_acts projects_viewed (fun _ _ _ _ _ below => below) intent fun _ revises => ?_
    cases revises with
    | lowered lowers => cases lowers
  | prepareLowerMilestoneClassification intent =>
    refine prepare_acts milestones_viewed (fun _ _ _ _ _ below => below) intent fun _ revises => ?_
    cases revises with
    | lowered lowers => cases lowers
  | approveAndExecuteLowerInitiativeClassification intent =>
    refine approve_acts initiatives intent initiative_answers (fun _ => rfl) id
      (fun prepared goal current version _ => .initiativeLowered intent prepared goal current version) (fun _ revises => ?_)
      (fun _ _ lowers => ?_)
    · cases revises with
      | lowered lowers => exact ⟨_, lowers⟩
    · cases lowers with
      | initiative lowered => exact ⟨_, _, _, lowered⟩
  | approveAndExecuteLowerProjectClassification intent =>
    refine approve_acts projects intent project_answers (fun _ => rfl) id
      (fun prepared goal current version _ => .projectLowered intent prepared goal current version) (fun _ revises => ?_)
      (fun _ _ lowers => ?_)
    · cases revises with
      | lowered lowers => exact ⟨_, lowers⟩
    · cases lowers with
      | project lowered => exact ⟨_, _, _, lowered⟩
  | approveAndExecuteLowerMilestoneClassification intent =>
    refine approve_acts milestones intent milestone_answers (fun _ => rfl) id
      (fun prepared goal current version _ => .milestoneLowered intent prepared goal current version) (fun _ revises => ?_)
      (fun _ _ lowers => ?_)
    · cases revises with
      | lowered lowers => exact ⟨_, lowers⟩
    · cases lowers with
      | milestone lowered => exact ⟨_, _, _, lowered⟩
  | injectNextCommitFailure =>
    refine ⟨.inl ⟨rfl, fun _ _ revises => ?_⟩, .inl ⟨rfl, rfl⟩, fun _ _ _ lowers => by cases lowers⟩
    cases revises with
    | lowered lowers => cases lowers

end

section
variable [Sha256] {before later : Service} {ports : Ports} {operation : Operation}

omit [Sha256] in
theorem not_found_empty {Id Record : Type} [LinearOrder Id] {id : Id} {value : Record} :
    ¬ (∅ : KeyMap Id Record)[id]? = some value := by simp

omit [Sha256] in
theorem Invariant.new : Invariant .new where
  keyed := ⟨fun _ _ => (absurd · not_found_empty), fun _ _ => (absurd · not_found_empty), fun _ _ => (absurd · not_found_empty)⟩
  sound := ⟨fun _ _ => (absurd · not_found_empty), fun _ _ => (absurd · not_found_empty)⟩
  genuine := fun _ _ => (absurd · not_found_empty)

theorem Invariant.step (invariant : Invariant before) (careful : Careful before ports operation) :
    Invariant (step before ports operation).1 := by
  obtain ⟨records, previews, _⟩ := step_acts before ports operation
  have kept : Keyed (Delivery.step before ports operation).1.state ∧ Sound (Delivery.step before ports operation).1.state := by
    rcases records with ⟨same, _⟩ | ⟨_, effect, admitted⟩
    · rw [same]
      exact ⟨invariant.keyed, invariant.sound⟩
    · exact ⟨invariant.keyed.effect effect, invariant.effect careful admitted effect⟩
  refine ⟨kept.1, kept.2, fun id prepared pending => ?_⟩
  rcases previews with ⟨same, _⟩ | ⟨_, _, erased, removed⟩ | ⟨_, added, genuine, inserted⟩
  · exact invariant.genuine id prepared (same ▸ pending)
  · rw [removed] at pending
    exact invariant.genuine id prepared (KeyMap.get_of_erase pending).2
  · rw [inserted, KeyMap.get_insert] at pending
    split at pending
    · cases pending; exact genuine
    · exact invariant.genuine id prepared pending

variable {prepared : WorkManagementPreparedIntent}

variable {target : AuditTarget}

theorem Lowers.aimed (lowers : Lowers before ports operation target prepared) :
    ∃ version classification, aim prepared.operation = some (target, version) ∧
      before.state.view target = some (version, classification) := by
  cases lowers with
  | initiative lowered | project lowered | milestone lowered => exact ⟨_, _, congrArg aim lowered.previewed, congrArg (Option.map _) lowered.found⟩

theorem Lowered.approvedInTime {Id Record : Type} [LinearOrder Id] {family : Family Id Record}
    {intent : ApproveAndExecuteLowerClassification} {goal : LoweringTarget Id} {current : Record}
    {version : AggregateVersion} (lowered : Lowered family before ports intent prepared goal current version) :
    ports.now .minting < prepared.preview.expiresAt ∧ before.preparedLowerings[prepared.id]? = some prepared := by
  obtain ⟨_, minted⟩ := lowered.approved
  refine ⟨minted.inTime, ?_⟩
  rw [WorkManagementPreparedIntent.id, ← minted.named]
  exact lowered.pending

theorem Lowers.approvedInTime (lowers : Lowers before ports operation target prepared) :
    ports.now .minting < prepared.preview.expiresAt ∧ before.preparedLowerings[prepared.id]? = some prepared := by
  cases lowers with
  | initiative lowered | project lowered | milestone lowered => exact lowered.approvedInTime

theorem Invariant.honest (invariant : Invariant before) (careful : Careful before ports operation) :
    Honest before ports operation := by
  obtain ⟨records, previews, executed⟩ := step_acts before ports operation
  constructor
  case revised =>
    intro target version classification seen accepted revises
    rcases records with ⟨_, unrevised⟩ | ⟨_, effect, _⟩
    · exact absurd revises (unrevised accepted target)
    rcases effect.view invariant.keyed seen with ⟨_, version', classification', viewed, next, _⟩ | ⟨unrevised, _⟩
    · exact ⟨version', classification', viewed, next⟩
    · exact absurd revises unrevised
  case others =>
    intro target seen unrevised
    obtain ⟨⟨version, classification⟩, seen⟩ := Option.ne_none_iff_exists'.mp seen
    rcases records with ⟨same, _⟩ | ⟨accepted, effect, _⟩
    · rw [same]
    rcases effect.view invariant.keyed seen with ⟨revises, _⟩ | ⟨_, same⟩
    · exact absurd ⟨accepted, revises⟩ unrevised
    · exact same
  case lowering =>
    intro target version classification version' classification' seen later below
    rcases records with ⟨same, _⟩ | ⟨accepted, effect, _⟩
    · rw [same, seen] at later
      cases later
      exact absurd below (lt_irrefl _)
    rcases effect.view invariant.keyed seen with ⟨_, _, _, viewed, _, rises | lowers⟩ | ⟨_, same⟩
    · cases viewed.symm.trans later
      exact absurd below (not_lt.mpr rises)
    · exact ⟨accepted, lowers⟩
    · rw [same, seen] at later
      cases later
      exact absurd below (lt_irrefl _)
  case executed =>
    rintro prepared ⟨accepted, target, lowers⟩
    obtain ⟨inTime, pending⟩ := lowers.approvedInTime
    exact ⟨inTime, pending, executed accepted target prepared lowers, target, lowers.aimed⟩
  case refused =>
    intro refused
    have same : (Delivery.step before ports operation).1.state = before.state := by
      rcases records with ⟨same, _⟩ | ⟨accepted, _⟩
      · exact same
      · exact absurd accepted refused
    rcases previews with ⟨lowerings, requests⟩ | ⟨admitted, accepts, _⟩ | ⟨accepted, _⟩
    · exact ⟨same, lowerings, requests⟩
    · exact absurd (accepts (careful admitted).1) refused
    · exact absurd accepted refused

def Past (target : AuditTarget) (version : AggregateVersion) (service : Service) : Prop :=
  ∃ version' classification, service.state.view target = some (version', classification) ∧ version.get < version'.get

theorem Past.step {version : AggregateVersion} (past : Past target version before)
    (honest : Honest before ports operation) : Past target version (step before ports operation).1 := by
  obtain ⟨version', classification, seen, ahead⟩ := past
  by_cases revised : Accepted before ports operation ∧ Revises before ports operation target
  · obtain ⟨version'', classification', seen, next⟩ := honest.revised target version' classification seen revised.1 revised.2
    refine ⟨version'', classification', seen, ?_⟩
    have := AggregateVersion.next_get next
    omega
  · exact ⟨version', classification, (honest.others target (by simp [seen]) revised).trans seen, ahead⟩

end

/-- Wherever a run of careful commands leads the Milestones stand under their Projects, the
next command does to the records what it says, and no preview is executed twice. -/
theorem delivery_store_kept [Sha256] {labels : List Label} {service : Service}
    (run : Evolves Step .new labels service) : Sound service.state ∧
    (∀ ports operation, Careful service ports operation → Honest service ports operation) ∧
    ∀ ports operation prepared, Careful service ports operation → Executes service ports operation prepared →
      ∀ following later, Evolves Step (step service ports operation).1 following later →
        ∀ ports' operation', ¬ Executes later ports' operation' prepared := by
  have invariant : Invariant service := by
    refine run.invariant Invariant (fun label before after step holds => ?_) .new
    obtain ⟨careful, rfl⟩ := step
    exact holds.step careful
  refine ⟨invariant.sound, fun _ _ careful => invariant.honest careful, ?_⟩
  rintro ports operation prepared careful ⟨accepted, target, lowers⟩ following later onwards ports' operation'
    ⟨_, again, lowers'⟩
  obtain ⟨version, classification, aimed, seen⟩ := lowers.aimed
  obtain ⟨later', classification', seen', next⟩ :=
    (invariant.honest careful).revised target version classification seen accepted (.lowered lowers)
  have ahead := AggregateVersion.next_get next
  have past : Invariant later ∧ Past target version later := by
    refine onwards.invariant (fun service => Invariant service ∧ Past target version service)
      (fun label before after step holds => ?_) ⟨invariant.step careful, later', classification', seen', by omega⟩
    obtain ⟨stepped, rfl⟩ := step
    exact ⟨holds.1.step stepped, holds.2.step (holds.1.honest stepped)⟩
  obtain ⟨_, _, aimed', standing⟩ := lowers'.aimed
  cases aimed.symm.trans aimed'
  obtain ⟨_, _, moved, beyond⟩ := past.2
  cases standing.symm.trans moved
  exact lt_irrefl _ beyond

namespace Lowering

scoped instance : Sha256 where
  finalize _ := ⟨"0b7d2f6c1e9a4835d0c8b6f2a1e7934c5d8f0a2b6c4e1793f5a8d0c2b4e6f719", by decide⟩

def ports (auditEventId : AuditEventId) : Ports where
  now _ := ⟨100, by decide, by decide⟩
  nextAuditEventId draw := if draw = 0 then some auditEventId else none
  nextPreparedIntentId := some ⟨"intent-1", by decide⟩
  nextApprovalReceiptId := some ⟨"receipt-1", by decide⟩
  authorize _ := true

def context (idempotencyId : IdempotencyId) : OperationContext := ⟨⟨"correlation-1", by decide⟩, idempotencyId⟩

def launch : ProjectId := ⟨"project-1", by decide⟩
def review : MilestoneId := ⟨"milestone-1", by decide⟩

def creating : Operation := .createProject
  { context := context ⟨"create-1", by decide⟩
    id := launch
    name := ⟨"Launch", by decide⟩
    startAt := ⟨100, by decide, by decide⟩
    endAt := ⟨200, by decide, by decide⟩
    classification := some .restricted
    provenance := .userEntered }

def adding : Operation := .createMilestone
  { context := context ⟨"create-2", by decide⟩
    id := review
    projectId := launch
    name := ⟨"Review", by decide⟩
    verificationCriteria := ⟨"The review is signed.", by decide⟩
    dueAt := ⟨150, by decide, by decide⟩
    classification := none
    provenance := .userEntered }

def rationale : WorkManagementRationale := ⟨"It was announced.", by decide⟩

def preparingProject : Operation := .prepareLowerProjectClassification
  ⟨launch, .initial, .internal, rationale, context ⟨"prepare-1", by decide⟩⟩

def preparingMilestone : Operation := .prepareLowerMilestoneClassification
  ⟨review, .initial, .«public», rationale, context ⟨"prepare-1", by decide⟩⟩

def approval : ApproveAndExecuteLowerClassification where
  approval := ⟨⟨"intent-1", by decide⟩, .headOfProducts,
    ⟨"0b7d2f6c1e9a4835d0c8b6f2a1e7934c5d8f0a2b6c4e1793f5a8d0c2b4e6f719", by decide⟩, ⟨"approve-1", by decide⟩, rfl⟩
  context := context ⟨"approve-1", by decide⟩

def approvingProject : Operation := .approveAndExecuteLowerProjectClassification approval
def approvingMilestone : Operation := .approveAndExecuteLowerMilestoneClassification approval

def first : Ports := ports ⟨"audit-1", by decide⟩
def second : Ports := ports ⟨"audit-2", by decide⟩
def third : Ports := ports ⟨"audit-3", by decide⟩

def created : Service := (step .new first creating).1
def added : Service := (step created second adding).1
def previewed : Service := (step added second preparingProject).1
def exposed : Service := (step (step added second preparingMilestone).1 third approvingMilestone).1

theorem creates : Step (first, creating) .new created := ⟨fun admitted => absurd admitted id, rfl⟩
theorem adds : Step (second, adding) created added := ⟨fun admitted => absurd admitted id, rfl⟩
theorem previews : Step (second, preparingProject) added previewed := ⟨fun admitted => absurd admitted id, rfl⟩

end Lowering

open Lowering

/-- A Project with a Milestone is lowered: the Milestone stays as restricted as it was. -/
theorem project_lowered : Sound previewed.state ∧ Honest previewed third approvingProject ∧
    (step previewed third approvingProject).1.state.view (.project launch) = some (⟨2, by decide, by decide⟩, .internal) ∧
    (step previewed third approvingProject).1.state.view (.milestone review) = some (.initial, .restricted) := by
  obtain ⟨sound, honest, _⟩ := delivery_store_kept (.move _ (.move _ (.move _ .start creates) adds) previews)
  exact ⟨sound, honest _ _ fun _ => ⟨rfl, fun _ _ _ _ _ same => by cases same⟩, by decide +kernel, by decide +kernel⟩

/-- A Milestone is lowered below its Project. -/
theorem milestone_exposed : ∃ labels service,
    Evolves (fun (label : Label) before after => (step before label.1 label.2).1 = after) .new labels service ∧
      ¬ Sound service.state := by
  refine ⟨[(first, creating), (second, adding), (second, preparingMilestone), (third, approvingMilestone)], exposed,
    .move _ (.move _ (.move _ (.move _ .start rfl) rfl) rfl) rfl, fun sound => ?_⟩
  have lowered : exposed.state.milestones[review]?.map (fun milestone => (milestone.projectId, milestone.classification)) =
      some (launch, .«public») := by decide +kernel
  obtain ⟨milestone, found, same⟩ := Option.map_eq_some_iff.mp lowered
  obtain ⟨parent, classified⟩ := Prod.mk.inj same
  obtain ⟨project, stands, above⟩ := sound.parents review milestone found
  have restricted : exposed.state.projects[launch]?.map (·.classification) = some .restricted := by decide +kernel
  rw [parent] at stands
  rw [stands] at restricted
  have strict : project.classification = .restricted := Option.some.inj restricted
  rw [classified, strict] at above
  exact absurd above (by decide)

end MissionControl.Delivery

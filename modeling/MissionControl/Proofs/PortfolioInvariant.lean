import MissionControl.Portfolio.Steps
import MissionControl.Lib.Run

/-! What holds of the Portfolio records wherever a run of commands leads, and what a single
command may do to them. -/

namespace MissionControl.Portfolio
open Checked Run
open Delivery (OperationContext Ports LoweringTarget PrepareLowerClassification
  ApproveAndExecuteLowerClassification)

def Sound (state : PortfolioState) : Prop :=
  ∀ (id : KpiObservationId) observation, state.observations[id]? = some observation →
    ∃ definition : KpiDefinitionRecord, state.kpis[observation.kpiId]? = some definition ∧
      definition.classification ≤ observation.classification

section
variable [Sha256]

structure Approved (before : Service) (ports : Ports) (intent : ApproveAndExecuteLowerClassification)
    (prepared : WorkManagementPreparedIntent) : Prop where
  fresh : Fresh before.state intent.context
  pending : before.preparedLowerings[intent.approval.preparedId]? = some prepared
  minted : ∃ snapshot, ReceiptMinted prepared intent.approval snapshot (ports.now .minting) ports.authorize

structure Lowers (before : Service) (ports : Ports) (operation : Operation) (target : AuditTarget)
    (prepared : WorkManagementPreparedIntent) : Prop where
  approves : ∃ intent, operation.approves = some intent ∧ Approved before ports intent prepared
  aimed : ∃ version classification, aim prepared.operation = some (target, version) ∧
    before.state.view target = some (version, classification)

/-- The records that an operation gives a new version when it succeeds and leads to a state. -/
inductive Revises (before : Service) (ports : Ports) (operation : Operation) (after : PortfolioState) : AuditTarget → Prop where
  | updated (context : OperationContext) (target : AuditTarget) (names : operation.updates = some (context, target))
      (fresh : Fresh before.state context) : Revises before ports operation after target
  | inherited (id : KpiObservationId) (observation : KpiObservationRecord) (definition : KpiDefinitionRecord)
      (stored : before.state.observations[id]? = some observation)
      (raised : after.kpis[observation.kpiId]? = some definition)
      (outranked : observation.classification < definition.classification) :
      Revises before ports operation after (.kpiObservation id)
  | lowered (target : AuditTarget) (prepared : WorkManagementPreparedIntent)
      (lowers : Lowers before ports operation target prepared) : Revises before ports operation after target

def Accepted (before : Service) (ports : Ports) (operation : Operation) : Prop :=
  (step before ports operation).2.refused = false

def Executes (before : Service) (ports : Ports) (operation : Operation) (prepared : WorkManagementPreparedIntent) : Prop :=
  Accepted before ports operation ∧ ∃ target, Lowers before ports operation target prepared

structure Honest (before : Service) (ports : Ports) (operation : Operation) : Prop where
  revised : ∀ target version classification, before.state.view target = some (version, classification) →
    Accepted before ports operation → Revises before ports operation (step before ports operation).1.state target →
    ∃ version' classification', (step before ports operation).1.state.view target = some (version', classification') ∧
      version.next = some version'
  others : ∀ target, before.state.view target ≠ none →
    ¬ (Accepted before ports operation ∧ Revises before ports operation (step before ports operation).1.state target) →
    (step before ports operation).1.state.view target = before.state.view target
  lowering : ∀ target version classification version' classification',
    before.state.view target = some (version, classification) →
    (step before ports operation).1.state.view target = some (version', classification') → classification' < classification →
    Accepted before ports operation ∧ ∃ prepared, Lowers before ports operation target prepared
  stamped : ∀ (id : KpiObservationId) (former later : KpiObservationRecord), before.state.observations[id]? = some former →
    (step before ports operation).1.state.observations[id]? = some later → former.updatedAt ≤ later.updatedAt
  refused : ¬ Accepted before ports operation → (step before ports operation).1.state = before.state

def Careful (before : Service) (ports : Ports) (operation : Operation) : Prop :=
  ∀ intent prepared goal current version definition, operation = .approveAndExecuteLowerKpiObservationClassification intent →
    before.failNextCommit = false → before.state.nextOperationOrdinal + 1 < 2 ^ 64 →
    Lowered observations before ports intent prepared goal current version →
    before.state.kpis[current.kpiId]? = some definition → definition.classification ≤ goal.proposedClassification

abbrev Label := Ports × Operation

def Step (label : Label) (before after : Service) : Prop :=
  Careful before label.1 label.2 ∧ (step before label.1 label.2).1 = after

end

/-- Every record is stored under its own id. -/
structure Keyed (state : PortfolioState) : Prop where
  portfolios : portfolios.Keyed state
  products : products.Keyed state
  roadmaps : roadmaps.Keyed state
  kpis : kpis.Keyed state
  observations : observations.Keyed state

section
variable {state after : PortfolioState}

theorem Keyed.same (keyed : Keyed state) (same : SameRecords state after) : Keyed after where
  portfolios id value found := keyed.portfolios id value (by rw [← found]; exact congrArg (·[id]?) same.portfolios.symm)
  products id value found := keyed.products id value (by rw [← found]; exact congrArg (·[id]?) same.products.symm)
  roadmaps id value found := keyed.roadmaps id value (by rw [← found]; exact congrArg (·[id]?) same.roadmaps.symm)
  kpis id value found := keyed.kpis id value (by rw [← found]; exact congrArg (·[id]?) same.kpis.symm)
  observations id value found := keyed.observations id value (by rw [← found]; exact congrArg (·[id]?) same.observations.symm)

theorem keyed_placePortfolio (keyed : Keyed state) (value : PortfolioRecord) :
    Keyed (Portfolio.portfolios.place state value) :=
  ⟨KeyMap.named_insert keyed.portfolios value, keyed.products, keyed.roadmaps, keyed.kpis, keyed.observations⟩

theorem keyed_placeProduct (keyed : Keyed state) (value : ProductRecord) : Keyed (Portfolio.products.place state value) :=
  ⟨keyed.portfolios, KeyMap.named_insert keyed.products value, keyed.roadmaps, keyed.kpis, keyed.observations⟩

theorem keyed_placeRoadmap (keyed : Keyed state) (value : RoadmapRecord) : Keyed (Portfolio.roadmaps.place state value) :=
  ⟨keyed.portfolios, keyed.products, KeyMap.named_insert keyed.roadmaps value, keyed.kpis, keyed.observations⟩

theorem keyed_placeKpi (keyed : Keyed state) (value : KpiDefinitionRecord) : Keyed (Portfolio.kpis.place state value) :=
  ⟨keyed.portfolios, keyed.products, keyed.roadmaps, KeyMap.named_insert keyed.kpis value, keyed.observations⟩

theorem keyed_placeObservation (keyed : Keyed state) (value : KpiObservationRecord) :
    Keyed (Portfolio.observations.place state value) :=
  ⟨keyed.portfolios, keyed.products, keyed.roadmaps, keyed.kpis, KeyMap.named_insert keyed.observations value⟩

theorem keyed_placeAll (keyed : Keyed state) (raised : List KpiObservationRecord) :
    Keyed (raised.foldl Portfolio.observations.place state) := by
  induction raised generalizing state with
  | nil => exact keyed
  | cons head _ rest => exact rest (keyed_placeObservation keyed head)

theorem Keyed.effect [Sha256] {before : Service} {ports : Ports} {operation : Operation} (keyed : Keyed before.state)
    (effect : Effect before ports after operation) : Keyed after := by
  cases effect with
  | portfolio value _ made => exact (keyed_placePortfolio keyed value).same made
  | product value _ made => exact (keyed_placeProduct keyed value).same made
  | roadmap value _ made => exact (keyed_placeRoadmap keyed value).same made
  | kpi value raised _ _ made => exact (keyed_placeAll (keyed_placeKpi keyed value) raised).same made
  | observation value _ _ _ _ _ made => exact (keyed_placeObservation keyed value).same made
  | observationLowered _ _ _ _ _ _ made => exact (keyed_placeObservation keyed _).same made

end

section
variable {value : KpiDefinitionRecord} {raised : List KpiObservationRecord} {state : PortfolioState}

theorem placeAll_found (raised : List KpiObservationRecord) (state : PortfolioState) :
    (raised.foldl observations.place state).kpis = state.kpis ∧
    (∀ target, (∀ id, target ≠ .kpiObservation id) → (raised.foldl observations.place state).view target = state.view target) ∧
    ∀ id : KpiObservationId, (raised.foldl observations.place state).observations[id]? =
      (raised.reverse.find? (·.id = id)).or state.observations[id]? := by
  induction raised generalizing state with
  | nil => exact ⟨rfl, fun _ _ => rfl, fun _ => rfl⟩
  | cons head tail rest =>
    obtain ⟨kpis, viewed, found⟩ := rest (observations.place state head)
    refine ⟨kpis, fun target other => ?_, fun id => ?_⟩
    · exact (viewed target other).trans ((observations_viewed.placed state head target).trans (if_neg (other head.id)))
    rw [List.foldl_cons, found, List.reverse_cons, List.find?_append, Option.or_assoc]
    congr 1
    have placed : (observations.place state head).observations[id]? =
        if head.id = id then some head else state.observations[id]? := KeyMap.get_insert _ _ _ _
    rw [placed, List.find?_cons]
    by_cases same : head.id = id
    · simp [same]
    · simp [same]

def Outranked (definition : KpiDefinitionRecord) (observation : KpiObservationRecord) : Prop :=
  observation.kpiId = definition.id ∧ observation.classification < definition.classification

theorem mem_affected {observation : KpiObservationRecord} : observation ∈ affected value state ↔
    (∃ id : KpiObservationId, state.observations[id]? = some observation) ∧ Outranked value observation := by
  unfold affected Outranked
  rw [Sorting.mem_sortBy, List.mem_filter, KeyMap.mem_held, decide_eq_true_iff, ne_eq, DataClassification.combine_eq_right,
    not_le]

theorem raised_observation (keyed : Keyed state)
    (raises : List.Forall₂ (Raises value) (affected value state) raised) (id : KpiObservationId) :
    (∃ observation later, state.observations[id]? = some observation ∧ Outranked value observation ∧
      Raises value observation later ∧
      (raised.foldl observations.place (kpis.place state value)).observations[id]? = some later) ∨
    (∀ observation, state.observations[id]? = some observation → ¬ Outranked value observation) ∧
      (raised.foldl observations.place (kpis.place state value)).observations[id]? = state.observations[id]? := by
  obtain ⟨forth, back⟩ := mem_matched raises
  have placed := (placeAll_found raised (kpis.place state value)).2.2 id
  cases last : raised.reverse.find? (·.id = id) with
  | none =>
    refine .inr ⟨fun observation found outranks => ?_, by rw [placed, last]; rfl⟩
    obtain ⟨later, held, raises⟩ := forth observation (mem_affected.mpr ⟨⟨id, found⟩, outranks⟩)
    have named : later.id = id := raises.named.trans (keyed.observations id observation found)
    exact List.find?_eq_none.mp last later (List.mem_reverse.mpr held) (decide_eq_true named)
  | some later =>
    have named : later.id = id := by simpa using List.find?_some last
    obtain ⟨observation, listed, raises⟩ := back later (List.mem_reverse.mp (List.mem_of_find?_eq_some last))
    obtain ⟨⟨key, found⟩, outranks⟩ := mem_affected.mp listed
    have same : key = id := (keyed.observations key observation found).symm.trans (raises.named.symm.trans named)
    cases same
    exact .inl ⟨observation, later, found, outranks, raises, by rw [placed, last]; rfl⟩

end

section
variable [Sha256] {before : Service} {ports : Ports} {after : PortfolioState} {operation : Operation}
  {target : AuditTarget} {version : AggregateVersion} {classification : DataClassification}

/-- A record that an operation revises: its version is the next one, and it is less restricted
than before only if it was lowered. -/
def Advanced (before : Service) (ports : Ports) (after : PortfolioState) (operation : Operation) (target : AuditTarget)
    (version : AggregateVersion) (classification : DataClassification) : Prop :=
  Revises before ports operation after target ∧
    ∃ version' classification', after.view target = some (version', classification') ∧ version.next = some version' ∧
      (classification ≤ classification' ∨ ∃ prepared, Lowers before ports operation target prepared)

omit [Sha256] in
theorem Sound.standing {state : PortfolioState} (sound : Sound state) (kpis : after.kpis = state.kpis) {id : KpiObservationId}
    {observation : KpiObservationRecord} {definition : KpiDefinitionRecord}
    (stored : state.observations[id]? = some observation) (found : after.kpis[observation.kpiId]? = some definition) :
    ¬ observation.classification < definition.classification := by
  obtain ⟨parent, stands, above⟩ := sound id observation stored
  rw [kpis] at found
  cases stands.symm.trans found
  exact not_lt.mpr above

section
variable {Id Record : Type} [LinearOrder Id] {family : Family Id Record} {value : Record}

theorem Lowered.lowers (viewed : family.Viewed) {intent : ApproveAndExecuteLowerClassification}
    {prepared : WorkManagementPreparedIntent} {goal : LoweringTarget Id} {current : Record} {later : AggregateVersion}
    (names : operation.approves = some intent) (lowered : Lowered family before ports intent prepared goal current later) :
    Lowers before ports operation (family.auditTarget goal.id) prepared where
  approves := ⟨intent, names, lowered.fresh, lowered.pending, lowered.approved⟩
  aimed := by
    refine ⟨family.version current, family.classification current, ?_, ?_⟩
    · rw [lowered.previewed, viewed.aimed]
    · rw [viewed.found, lowered.found]
      rfl

theorem Writes.only (viewed : family.Viewed) (keyed : family.Keyed before.state)
    (writes : Writes family before ports operation value)
    (meant : (∃ context, operation.updates = some (context, target)) ∨
      ∃ prepared, Lowers before ports operation target prepared) :
    target = family.auditTarget (family.id value) := by
  cases writes with
  | created unnamed =>
    rcases meant with ⟨_, names⟩ | ⟨_, ⟨_, approves, _⟩, _⟩
    · cases unnamed.1.symm.trans names
    · cases unnamed.2.symm.trans approves
  | updated context id current _ names unapproved found named =>
    rcases meant with ⟨_, names'⟩ | ⟨_, ⟨_, approves, _⟩, _⟩
    · cases names.symm.trans names'
      rw [named, keyed id current found]
    · cases unapproved.symm.trans approves
  | lowered intent prepared goal current names unnamed lowered named =>
    rcases meant with ⟨_, names'⟩ | ⟨_, ⟨_, approves, approved⟩, _, _, aimed, _⟩
    · cases unnamed.symm.trans names'
    · cases names.symm.trans approves
      cases lowered.pending.symm.trans approved.pending
      rw [lowered.previewed, viewed.aimed] at aimed
      cases aimed
      rw [named, keyed goal.id current lowered.found]

theorem Writes.view (viewed : family.Viewed) (keyed : family.Keyed before.state)
    (writes : Writes family before ports operation value)
    (made : after.view target = (family.place before.state value).view target)
    (seen : before.state.view target = some (version, classification)) :
    Advanced before ports after operation target version classification ∨
      target ≠ family.auditTarget (family.id value) ∧ after.view target = before.state.view target := by
  by_cases same : target = family.auditTarget (family.id value)
  · rw [viewed.placed, if_pos same] at made
    subst same
    rw [viewed.found] at seen
    cases writes with
    | created _ absent =>
      rw [absent] at seen
      cases seen
    | updated context id current fresh names _ found named next rises =>
      have own : family.id value = id := named.trans (keyed id current found)
      rw [own, found] at seen
      cases seen
      exact .inl ⟨.updated context _ (own ▸ names) fresh, _, _, made, next, .inl rises⟩
    | lowered intent prepared goal current names _ lowered named =>
      have own : family.id value = goal.id := named.trans (keyed goal.id current lowered.found)
      rw [own, lowered.found] at seen
      cases seen
      have lowers := own ▸ lowered.lowers viewed names
      exact .inl ⟨.lowered _ prepared lowers, _, _, made, lowered.next, .inr ⟨prepared, lowers⟩⟩
  · rw [viewed.placed, if_neg same] at made
    exact .inr ⟨same, made⟩

theorem Writes.alone (viewed : family.Viewed) (keyed : family.Keyed before.state) (sound : Sound before.state)
    (writes : Writes family before ports operation value) (made : SameRecords (family.place before.state value) after)
    (kpis : after.kpis = before.state.kpis) (seen : before.state.view target = some (version, classification)) :
    Advanced before ports after operation target version classification ∨
      ¬ Revises before ports operation after target ∧ after.view target = before.state.view target := by
  rcases writes.view viewed keyed (made.view target) seen with advanced | ⟨different, same⟩
  · exact .inl advanced
  refine .inr ⟨fun revises => ?_, same⟩
  cases revises with
  | updated context _ names => exact different (writes.only viewed keyed (.inl ⟨context, names⟩))
  | inherited id observation definition stored raised outranked => exact sound.standing kpis stored raised outranked
  | lowered _ prepared lowers => exact different (writes.only viewed keyed (.inr ⟨prepared, lowers⟩))

end

theorem Lowered.writes {intent : ApproveAndExecuteLowerClassification} {prepared : WorkManagementPreparedIntent}
    {goal : LoweringTarget KpiObservationId} {current : KpiObservationRecord} {later : AggregateVersion}
    (lowered : Lowered observations before ports intent prepared goal current later) (now : UtcTimestamp) :
    Writes observations before ports (.approveAndExecuteLowerKpiObservationClassification intent)
      (observations.lowered current goal.proposedClassification later now) :=
  .lowered intent prepared goal current rfl rfl lowered rfl

theorem Effect.view (effect : Effect before ports after operation) (keyed : Keyed before.state) (sound : Sound before.state)
    (seen : before.state.view target = some (version, classification)) :
    Advanced before ports after operation target version classification ∨
      ¬ Revises before ports operation after target ∧ after.view target = before.state.view target := by
  cases effect with
  | portfolio value writes made => exact writes.alone portfolios_viewed keyed.portfolios sound made made.kpis seen
  | product value writes made => exact writes.alone products_viewed keyed.products sound made made.kpis seen
  | roadmap value writes made => exact writes.alone roadmaps_viewed keyed.roadmaps sound made made.kpis seen
  | observation value _ writes _ _ _ made =>
    exact writes.alone observations_viewed keyed.observations sound made made.kpis seen
  | observationLowered intent prepared goal current later lowered made =>
    exact (lowered.writes (ports.now .recording)).alone observations_viewed keyed.observations sound made made.kpis seen
  | kpi value raised writes raises made =>
    have placed : after.kpis = before.state.kpis.insert value.id value := made.kpis.trans (placeAll_found _ _).1
    by_cases observed : ∃ id, target = .kpiObservation id
    · obtain ⟨id, rfl⟩ := observed
      rcases raised_observation keyed raises id with
        ⟨observation, later, stored, ⟨belongs, outranked⟩, raises, found⟩ | ⟨standing, found⟩
      · replace seen := (congrArg (Option.map _) stored).symm.trans seen
        cases seen
        refine .inl ⟨.inherited id observation value stored ?_ outranked, later.version, later.classification, ?_,
          raises.next, .inl (raises.combined ▸ DataClassification.le_combine_right _ _)⟩
        · rw [placed, belongs, KeyMap.get_insert_self]
        · rw [made.view]
          exact congrArg (Option.map _) found
      · refine .inr ⟨fun revises => ?_, by rw [made.view]; exact congrArg (Option.map _) found⟩
        cases revises with
        | updated context _ names => cases writes.only kpis_viewed keyed.kpis (.inl ⟨context, names⟩)
        | lowered _ prepared lowers => cases writes.only kpis_viewed keyed.kpis (.inr ⟨prepared, lowers⟩)
        | inherited _ observation definition stored raised outranked =>
          rw [placed, KeyMap.get_insert] at raised
          split at raised
          next same => cases raised; exact standing observation stored ⟨same.symm, outranked⟩
          next => exact sound.standing rfl stored raised outranked
    · have elsewhere : ∀ id, target ≠ .kpiObservation id := not_exists.mp observed
      rcases writes.view kpis_viewed keyed.kpis ((made.view _).trans ((placeAll_found _ _).2.1 _ elsewhere)) seen with
        advanced | ⟨different, same⟩
      · exact .inl advanced
      refine .inr ⟨fun revises => ?_, same⟩
      cases revises with
      | updated context _ names => exact different (writes.only kpis_viewed keyed.kpis (.inl ⟨context, names⟩))
      | inherited id => exact elsewhere id rfl
      | lowered _ prepared lowers => exact different (writes.only kpis_viewed keyed.kpis (.inr ⟨prepared, lowers⟩))

theorem Effect.stamps (effect : Effect before ports after operation) (keyed : Keyed before.state) {id : KpiObservationId}
    {former later : KpiObservationRecord} (stored : before.state.observations[id]? = some former)
    (found : after.observations[id]? = some later) : former.updatedAt ≤ later.updatedAt := by
  have same (untouched : after.observations = before.state.observations) : former.updatedAt ≤ later.updatedAt := by
    rw [untouched] at found
    cases stored.symm.trans found
    exact le_rfl
  have placed (value : KpiObservationRecord) (made : SameRecords (observations.place before.state value) after)
      (stamped : ∀ former : KpiObservationRecord, before.state.observations[value.id]? = some former →
        former.updatedAt ≤ value.updatedAt) : former.updatedAt ≤ later.updatedAt := by
    rw [made.observations] at found
    replace found := (KeyMap.get_insert _ _ _ _).symm.trans found
    split at found
    next own => cases found; exact stamped former (own ▸ stored)
    next => cases stored.symm.trans found; exact le_rfl
  cases effect with
  | portfolio _ _ made | product _ _ made | roadmap _ _ made => exact same made.observations
  | observation value _ _ _ _ stamped made => exact placed value made stamped
  | observationLowered intent prepared goal current version lowered made =>
    refine placed _ made fun former stored => ?_
    have own : current.id = goal.id := keyed.observations goal.id current lowered.found
    cases lowered.found.symm.trans (own ▸ stored)
    exact le_max_right _ _
  | kpi value raised _ raises made =>
    rw [made.observations] at found
    rcases raised_observation keyed raises id with ⟨observation, resulting, stored', _, raises, placed⟩ | ⟨_, placed⟩
    · cases stored.symm.trans stored'
      cases placed.symm.trans found
      exact raises.stamped
    · cases (placed.symm.trans found).symm.trans stored
      exact le_rfl

end

structure Invariant (service : Service) : Prop where
  keyed : Keyed service.state
  sound : Sound service.state

section
variable {state after : PortfolioState}

theorem Sound.same (sound : Sound state) (observations : after.observations = state.observations)
    (kpis : after.kpis = state.kpis) : Sound after := by
  intro id observation found
  rw [observations] at found
  rw [kpis]
  exact sound id observation found

theorem Sound.placeObservation (sound : Sound state) {value : KpiObservationRecord} {definition : KpiDefinitionRecord}
    (made : SameRecords (observations.place state value) after) (parent : state.kpis[value.kpiId]? = some definition)
    (bound : definition.classification ≤ value.classification) : Sound after := by
  intro id observation found
  rw [made.observations] at found
  rw [made.kpis]
  replace found := (KeyMap.get_insert _ _ _ _).symm.trans found
  split at found
  · cases found
    exact ⟨definition, parent, bound⟩
  · exact sound id observation found

theorem Sound.placeKpi (keyed : Keyed state) (sound : Sound state) {value : KpiDefinitionRecord}
    {raised : List KpiObservationRecord} (raises : List.Forall₂ (Raises value) (affected value state) raised)
    (made : SameRecords (raised.foldl observations.place (kpis.place state value)) after) : Sound after := by
  intro id observation found
  have placed : after.kpis = state.kpis.insert value.id value := made.kpis.trans (placeAll_found _ _).1
  rw [made.observations] at found
  rw [placed, KeyMap.get_insert]
  rcases raised_observation keyed raises id with ⟨former, later, _, ⟨belongs, _⟩, raises, resulting⟩ | ⟨standing, same⟩
  · cases resulting.symm.trans found
    rw [if_pos (raises.belongs.trans belongs).symm]
    exact ⟨value, rfl, raises.combined ▸ DataClassification.le_combine_left _ _⟩
  · have stored := same.symm.trans found
    split
    next own => exact ⟨value, rfl, not_lt.mp fun below => standing observation stored ⟨own.symm, below⟩⟩
    next => exact sound id observation stored

variable [Sha256] {before : Service} {ports : Ports} {operation : Operation}

theorem Invariant.effect (invariant : Invariant before)
    (bounded : ∀ intent prepared goal current version (definition : KpiDefinitionRecord),
      operation = .approveAndExecuteLowerKpiObservationClassification intent →
      Lowered observations before ports intent prepared goal current version →
      before.state.kpis[current.kpiId]? = some definition → definition.classification ≤ goal.proposedClassification)
    (effect : Effect before ports after operation) : Sound after := by
  obtain ⟨keyed, sound⟩ := invariant
  cases effect with
  | portfolio value _ made | product value _ made | roadmap value _ made => exact sound.same made.observations made.kpis
  | kpi value raised _ raises made => exact sound.placeKpi keyed raises made
  | observation value definition _ parent bound _ made => exact sound.placeObservation made parent bound
  | observationLowered intent prepared goal current version lowered made =>
    obtain ⟨definition, parent, _⟩ := sound goal.id current lowered.found
    exact sound.placeObservation made parent (bounded intent prepared goal current version definition rfl lowered parent)

end

section
variable [Sha256] {before : Service} {ports : Ports} {operation : Operation}

/-- An operation leaves the state alone, and then a fresh one that would change a record is
refused; or it has its effect. -/
def Acts (before : Service) (ports : Ports) (operation : Operation) (after : Service) (refused : Bool) : Prop :=
  (after.state = before.state ∧
    (refused = false → ∀ context, operation.changes = some context → ¬ Fresh before.state context)) ∨
  refused = false ∧ before.failNextCommit = false ∧ before.state.nextOperationOrdinal + 1 < 2 ^ 64 ∧
    Effect before ports after.state operation

theorem settle_acts {Record : Type} (wrap : Except DomainError (MutationOutcome Record) → Response) {context : OperationContext}
    {decided : Except DomainError (Decision Record)} (refuses : ∀ cause, (wrap (.error cause)).refused = true)
    (accepts : ∀ outcome, (wrap (.ok outcome)).refused = false) (stages : Stages before ports operation context decided)
    (names : ∀ other, operation.changes = some other → other = context) :
    Acts before ports operation (settle context before decided).1 (wrap (settle context before decided).2).refused := by
  have denied (cause : DomainError) (accepted : (wrap (.error cause)).refused = false) : False := by
    rw [refuses] at accepted
    cases accepted
  cases success : decided with
  | error cause => exact .inl ⟨rfl, fun accepted => (denied cause accepted).elim⟩
  | ok decision =>
    rcases stages decision success with ⟨stale, outcome, rfl⟩ | ⟨outcome, next, rfl, effects⟩
    · exact .inl ⟨rfl, fun _ other changes => names other changes ▸ stale⟩
    unfold settle
    dsimp only
    split
    next failing => exact .inl ⟨rfl, fun accepted => (denied _ accepted).elim⟩
    next clear =>
      split
      next room => exact .inr ⟨accepts outcome, Bool.eq_false_iff.mpr clear, room, effects _⟩
      next => exact .inl ⟨rfl, fun accepted => (denied _ accepted).elim⟩

variable {Id Record : Type} [LinearOrder Id] (family : Family Id Record)

theorem prepare_acts (intent : PrepareLowerClassification Id) (unchanging : operation.changes = none) :
    Acts before ports operation (prepareLowerClassification family before ports intent).1
      (Response.prepared (prepareLowerClassification family before ports intent).2).refused := by
  refine .inl ⟨prepareLowerClassification_state family before ports intent, fun _ context changes => ?_⟩
  cases unchanging.symm.trans changes

theorem approve_acts {wrap : Except DomainError (MutationOutcome Record) → Response}
    (intent : ApproveAndExecuteLowerClassification) (viewed : family.Viewed)
    (refuses : ∀ cause, (wrap (.error cause)).refused = true) (accepts : ∀ outcome, (wrap (.ok outcome)).refused = false)
    (names : operation.approves = some intent)
    (effect : ∀ value after, Writes family before ports operation value → SameRecords (family.place before.state value) after →
      Effect before ports after operation) :
    Acts before ports operation
      (approveAndExecuteLowerClassification family (fun context => commit context family) before ports intent).1
      (wrap (approveAndExecuteLowerClassification family (fun context => commit context family) before ports
        intent).2).refused := by
  have unnamed := Operation.updates_of_approves names
  refine settle_acts wrap refuses accepts
    (stageLowerClassification_stages (fun _ _ _ value => commit_commits family value)
      fun prepared goal current version after lowered made => effect _ _ ?_ made) fun other changes => ?_
  · obtain ⟨named, versioned⟩ := viewed.lowered current goal.proposedClassification version (ports.now .recording)
    exact .lowered intent prepared goal current names unnamed (versioned.symm ▸ lowered) named
  · rw [Operation.changes, unnamed, names] at changes
    cases changes
    rfl

theorem step_acts (keyed : observations.Keyed before.state) (ports : Ports) (operation : Operation) :
    Acts before ports operation (step before ports operation).1 (step before ports operation).2.refused := by
  cases operation with
  | createPortfolio intent =>
    exact settle_acts .portfolio (fun _ => rfl) (fun _ => rfl)
      (stageCreate_stages (fun _ _ _ value => commit_commits portfolios value) ⟨rfl, rfl⟩ fun value _ => .portfolio value)
      fun _ changes => by cases changes
  | createProduct intent =>
    exact settle_acts .product (fun _ => rfl) (fun _ => rfl)
      (stageCreate_stages (fun _ _ _ value => commit_commits products value) ⟨rfl, rfl⟩ fun value _ => .product value)
      fun _ changes => by cases changes
  | createRoadmap intent =>
    exact settle_acts .roadmap (fun _ => rfl) (fun _ => rfl)
      (stageCreate_stages (fun _ _ _ value => commit_commits roadmaps value) ⟨rfl, rfl⟩ fun value _ => .roadmap value)
      fun _ changes => by cases changes
  | updatePortfolioDetails intent =>
    exact settle_acts .portfolio (fun _ => rfl) (fun _ => rfl)
      (stageUpdate_stages (fun _ _ _ value => commit_commits portfolios value) rfl rfl (fun _ _ _ => ⟨rfl, rfl, rfl⟩)
        fun value _ => .portfolio value) fun _ changes => by cases changes; rfl
  | updateProductDetails intent =>
    exact settle_acts .product (fun _ => rfl) (fun _ => rfl)
      (stageUpdate_stages (fun _ _ _ value => commit_commits products value) rfl rfl (fun _ _ _ => ⟨rfl, rfl, rfl⟩)
        fun value _ => .product value) fun _ changes => by cases changes; rfl
  | updateRoadmapDetails intent =>
    exact settle_acts .roadmap (fun _ => rfl) (fun _ => rfl)
      (stageUpdate_stages (fun _ _ _ value => commit_commits roadmaps value) rfl rfl (fun _ _ _ => ⟨rfl, rfl, rfl⟩)
        fun value _ => .roadmap value) fun _ changes => by cases changes; rfl
  | createKpiDefinition intent =>
    exact settle_acts .kpi (fun _ => rfl) (fun _ => rfl)
      (stageCreate_stages (fun _ _ _ value => commitKpi_commits value) ⟨rfl, rfl⟩
        fun value _ writes ⟨raised, raises, made⟩ => .kpi value raised writes raises made) fun _ changes => by cases changes
  | updateKpiDefinitionDetails intent =>
    exact settle_acts .kpi (fun _ => rfl) (fun _ => rfl)
      (stageUpdate_stages (fun _ _ _ value => commitKpi_commits value) rfl rfl (fun _ _ _ => ⟨rfl, rfl, rfl⟩)
        fun value _ writes ⟨raised, raises, made⟩ => .kpi value raised writes raises made) fun _ changes => by cases changes; rfl
  | createKpiObservation intent =>
    exact settle_acts .observation (fun _ => rfl) (fun _ => rfl) (stageCreateKpiObservation_stages intent)
      fun _ changes => by cases changes
  | updateKpiObservationDetails intent =>
    exact settle_acts .observation (fun _ => rfl) (fun _ => rfl) (stageUpdateKpiObservationDetails_stages keyed intent)
      fun _ changes => by cases changes; rfl
  | prepareLowerPortfolioClassification intent => exact prepare_acts portfolios intent rfl
  | prepareLowerProductClassification intent => exact prepare_acts products intent rfl
  | prepareLowerRoadmapClassification intent => exact prepare_acts roadmaps intent rfl
  | prepareLowerKpiClassification intent => exact prepare_acts kpis intent rfl
  | prepareLowerKpiObservationClassification intent => exact prepare_acts observations intent rfl
  | approveAndExecuteLowerPortfolioClassification intent =>
    exact approve_acts portfolios intent portfolios_viewed (fun _ => rfl) (fun _ => rfl) rfl fun value _ => .portfolio value
  | approveAndExecuteLowerProductClassification intent =>
    exact approve_acts products intent products_viewed (fun _ => rfl) (fun _ => rfl) rfl fun value _ => .product value
  | approveAndExecuteLowerRoadmapClassification intent =>
    exact approve_acts roadmaps intent roadmaps_viewed (fun _ => rfl) (fun _ => rfl) rfl fun value _ => .roadmap value
  | approveAndExecuteLowerKpiClassification intent =>
    exact settle_acts .kpi (fun _ => rfl) (fun _ => rfl)
      (stageLowerClassification_stages (fun _ _ _ value => commitKpi_commits value)
        fun prepared goal current version after lowered ⟨raised, raises, made⟩ =>
          .kpi (kpis.lowered current goal.proposedClassification version (ports.now .recording)) raised
            (.lowered intent prepared goal current rfl rfl lowered rfl) raises made)
      fun _ changes => by cases changes; rfl
  | approveAndExecuteLowerKpiObservationClassification intent =>
    exact settle_acts .observation (fun _ => rfl) (fun _ => rfl)
      (stageLowerClassification_stages (fun _ _ _ value => commit_commits observations value)
        fun prepared goal current version after => .observationLowered intent prepared goal current version)
      fun _ changes => by cases changes; rfl
  | injectNextCommitFailure => exact .inl ⟨rfl, fun _ _ changes => by cases changes⟩

end

section
variable [Sha256] {before later : Service} {ports : Ports} {operation : Operation}

omit [Sha256] in
theorem Invariant.new : Invariant .new where
  keyed := by constructor <;> intro id value found <;> simp [Service.new, PortfolioState.new, portfolios, products, roadmaps,
    kpis, observations] at found
  sound := fun _ _ found => by simp [Service.new, PortfolioState.new] at found

theorem Invariant.step (invariant : Invariant before) (careful : Careful before ports operation) :
    Invariant (step before ports operation).1 := by
  rcases step_acts invariant.keyed.observations ports operation with ⟨same, _⟩ | ⟨_, clear, room, effect⟩
  · constructor
    · exact same ▸ invariant.keyed
    · exact same ▸ invariant.sound
  · refine ⟨invariant.keyed.effect effect, invariant.effect ?_ effect⟩
    exact fun intent prepared goal current version definition same => careful intent prepared goal current version definition
      same clear room

theorem Sound.unrevised (sound : Sound before.state) {after : PortfolioState} (same : after = before.state)
    (stale : ∀ context, operation.changes = some context → ¬ Fresh before.state context) (target : AuditTarget) :
    ¬ Revises before ports operation after target := by
  intro revises
  cases revises with
  | updated context target names fresh =>
    refine stale context ?_ fresh
    rw [Operation.changes, names]
    rfl
  | inherited id observation definition stored raised outranked =>
    exact sound.standing (congrArg PortfolioState.kpis same) stored raised outranked
  | lowered target prepared lowers =>
    obtain ⟨⟨intent, names, approved⟩, _⟩ := lowers
    refine stale intent.context ?_ approved.fresh
    rw [Operation.changes, Operation.updates_of_approves names, names]
    rfl

theorem Invariant.honest (invariant : Invariant before) : Honest before ports operation := by
  have acts := step_acts invariant.keyed.observations ports operation
  constructor
  case revised =>
    intro target version classification seen accepted revises
    rcases acts with ⟨same, stale⟩ | ⟨_, _, _, effect⟩
    · exact absurd revises (invariant.sound.unrevised same (stale accepted) target)
    rcases effect.view invariant.keyed invariant.sound seen with ⟨_, version', classification', viewed, next, _⟩ | ⟨unrevised, _⟩
    · exact ⟨version', classification', viewed, next⟩
    · exact absurd revises unrevised
  case others =>
    intro target seen unrevised
    obtain ⟨⟨version, classification⟩, seen⟩ := Option.ne_none_iff_exists'.mp seen
    rcases acts with ⟨same, _⟩ | ⟨accepted, _, _, effect⟩
    · rw [same]
    rcases effect.view invariant.keyed invariant.sound seen with ⟨revises, _⟩ | ⟨_, same⟩
    · exact absurd ⟨accepted, revises⟩ unrevised
    · exact same
  case lowering =>
    intro target version classification version' classification' seen later below
    have strict (same : (Portfolio.step before ports operation).1.state.view target = before.state.view target) : False := by
      rw [same, seen] at later
      cases later
      exact lt_irrefl _ below
    rcases acts with ⟨same, _⟩ | ⟨accepted, _, _, effect⟩
    · exact (strict (by rw [same])).elim
    rcases effect.view invariant.keyed invariant.sound seen with ⟨_, _, _, viewed, _, rises | lowers⟩ | ⟨_, same⟩
    · cases viewed.symm.trans later
      exact absurd below (not_lt.mpr rises)
    · exact ⟨accepted, lowers⟩
    · exact (strict same).elim
  case stamped =>
    intro id former later stored found
    rcases acts with ⟨same, _⟩ | ⟨_, _, _, effect⟩
    · rw [same] at found
      cases stored.symm.trans found
      exact le_rfl
    · exact effect.stamps invariant.keyed stored found
  case refused =>
    intro refused
    rcases acts with ⟨same, _⟩ | ⟨accepted, _⟩
    · exact same
    · exact absurd accepted refused

def Past (target : AuditTarget) (version : AggregateVersion) (service : Service) : Prop :=
  ∃ version' classification, service.state.view target = some (version', classification) ∧ version.get < version'.get

theorem Past.step {target : AuditTarget} {version : AggregateVersion} (past : Past target version before)
    (honest : Honest before ports operation) : Past target version (step before ports operation).1 := by
  obtain ⟨version', classification, seen, ahead⟩ := past
  by_cases revised : Accepted before ports operation ∧
      Revises before ports operation (Portfolio.step before ports operation).1.state target
  · obtain ⟨version'', classification', seen, next⟩ := honest.revised target version' classification seen revised.1 revised.2
    refine ⟨version'', classification', seen, ?_⟩
    have := AggregateVersion.next_get next
    omega
  · exact ⟨version', classification, (honest.others target (by simp [seen]) revised).trans seen, ahead⟩

end

/-- Wherever a run of careful commands leads the observations stand under their KPI
definitions, the next command does to the records what it says, and no preview is executed
twice. -/
theorem portfolio_store_kept [Sha256] {labels : List Label} {service : Service}
    (run : Evolves Step .new labels service) : Sound service.state ∧
    (∀ ports operation, Honest service ports operation) ∧
    ∀ ports operation prepared, Careful service ports operation → Executes service ports operation prepared →
      ∀ following later, Evolves Step (step service ports operation).1 following later →
        ∀ ports' operation', ¬ Executes later ports' operation' prepared := by
  have invariant : Invariant service := by
    refine run.invariant Invariant (fun label before after step holds => ?_) .new
    obtain ⟨careful, rfl⟩ := step
    exact holds.step careful
  refine ⟨invariant.sound, fun _ _ => invariant.honest, ?_⟩
  rintro ports operation prepared careful ⟨accepted, target, lowers⟩ following later onwards ports' operation'
    ⟨_, target', lowers'⟩
  obtain ⟨version, classification, aimed, seen⟩ := lowers.aimed
  obtain ⟨later', classification', seen', next⟩ :=
    invariant.honest.revised target version classification seen accepted (.lowered target prepared lowers)
  have ahead := AggregateVersion.next_get next
  have past : Invariant later ∧ Past target version later := by
    refine onwards.invariant (fun service => Invariant service ∧ Past target version service)
      (fun label before after step holds => ?_) ⟨invariant.step careful, later', classification', seen', by omega⟩
    obtain ⟨stepped, rfl⟩ := step
    exact ⟨holds.1.step stepped, holds.2.step holds.1.honest⟩
  obtain ⟨_, _, aimed', standing⟩ := lowers'.aimed
  cases aimed.symm.trans aimed'
  obtain ⟨_, _, moved, beyond⟩ := past.2
  cases standing.symm.trans moved
  exact lt_irrefl _ beyond

namespace Lowering

scoped instance : Sha256 where
  finalize _ := ⟨"0b7d2f6c1e9a4835d0c8b6f2a1e7934c5d8f0a2b6c4e1793f5a8d0c2b4e6f719", .refl true⟩

theorem now_lower : -2 ^ 63 ≤ (100 : Int) := by decide

theorem now_upper : (100 : Int) < 2 ^ 63 := by decide

def ports (auditEventId : AuditEventId) : Ports where
  now _ := ⟨100, now_lower, now_upper⟩
  nextAuditEventId draw := if draw = 0 then some auditEventId else none
  nextPreparedIntentId := some ⟨"intent-1", .refl true⟩
  nextApprovalReceiptId := some ⟨"receipt-1", .refl true⟩
  authorize _ := true

def context (idempotencyId : IdempotencyId) : OperationContext := ⟨⟨"correlation-1", .refl true⟩, idempotencyId⟩

def retention : KpiId := ⟨"kpi-1", by decide⟩
def june : KpiObservationId := ⟨"observation-1", by decide⟩

def defining (classification : DataClassification) : Operation := .createKpiDefinition
  { context := context ⟨"create-1", .refl true⟩
    id := retention
    name := ⟨"Retention", .refl true⟩
    definition := ⟨"Customers who renew.", .refl true⟩
    owner := ⟨"Product", .refl true⟩
    target := ⟨"90%", .refl true⟩
    cadence := ⟨"Monthly", .refl true⟩
    source := ⟨"Billing", .refl true⟩
    classification := some classification
    provenance := .userEntered }

def observing : Operation := .createKpiObservation
  { context := context ⟨"create-2", .refl true⟩
    id := june
    kpiId := retention
    value := ⟨"87%", .refl true⟩
    observedAt := ⟨90, by decide, by decide⟩
    source := ⟨"Billing", .refl true⟩
    classification := some .restricted
    provenance := .userEntered }

def preparing : Operation := .prepareLowerKpiObservationClassification
  ⟨june, .initial, .internal, ⟨"It was announced.", .refl true⟩, context ⟨"prepare-1", .refl true⟩⟩

def approving : Operation := .approveAndExecuteLowerKpiObservationClassification
  { approval := ⟨⟨"intent-1", .refl true⟩, .headOfProducts,
      ⟨"0b7d2f6c1e9a4835d0c8b6f2a1e7934c5d8f0a2b6c4e1793f5a8d0c2b4e6f719", .refl true⟩, ⟨"approve-1", .refl true⟩, rfl⟩
    context := context ⟨"approve-1", .refl true⟩ }

def first : Ports := ports ⟨"audit-1", .refl true⟩
def second : Ports := ports ⟨"audit-2", .refl true⟩
def third : Ports := ports ⟨"audit-3", .refl true⟩

def previewed (classification : DataClassification) : Service :=
  (step (step (step .new first (defining classification)).1 second observing).1 second preparing).1

def lowered (classification : DataClassification) : Service := (step (previewed classification) third approving).1

def compared (service : Service) : Option (DataClassification × DataClassification) :=
  service.preparedLowerings[(⟨"intent-1", .refl true⟩ : PreparedIntentId)]?.bind fun prepared =>
    (observations.target prepared.operation).bind fun goal =>
      ((observations.records service.state)[goal.id]?).bind fun current =>
        service.state.kpis[current.kpiId]?.bind fun definition =>
          some (definition.classification, goal.proposedClassification)

theorem approves : Careful (previewed .internal) third approving := by
  intro intent prepared goal current version definition same _ _ lowered parent
  cases same
  have seen : compared (previewed .internal) = some (.internal, .internal) := by decide +kernel
  have found : compared (previewed .internal) = some (definition.classification, goal.proposedClassification) := by
    unfold compared
    refine Option.bind_eq_some_iff.mpr ⟨prepared, lowered.pending, ?_⟩
    refine Option.bind_eq_some_iff.mpr ⟨goal, lowered.aimed, ?_⟩
    refine Option.bind_eq_some_iff.mpr ⟨current, lowered.found, ?_⟩
    exact Option.bind_eq_some_iff.mpr ⟨definition, parent, rfl⟩
  obtain ⟨above, below⟩ := Prod.mk.inj (Option.some.inj (found.symm.trans seen))
  rw [above, below]

theorem leads : Evolves Step .new [(first, defining .internal), (second, observing), (second, preparing)]
    (previewed .internal) :=
  .move _ (.move _ (.move _ .start ⟨fun _ _ _ _ _ _ same => (by cases same), rfl⟩)
    ⟨fun _ _ _ _ _ _ same => (by cases same), rfl⟩) ⟨fun _ _ _ _ _ _ same => (by cases same), rfl⟩

end Lowering

open Lowering

/-- An observation is lowered as far as its KPI definition allows. -/
theorem observation_lowered : Sound (previewed .internal).state ∧ Honest (previewed .internal) third approving ∧
    Sound (lowered .internal).state ∧
    (lowered .internal).state.view (.kpiObservation june) = some (⟨2, by decide, by decide⟩, .internal) := by
  obtain ⟨sound, honest, _⟩ := portfolio_store_kept leads
  obtain ⟨kept, _⟩ := portfolio_store_kept (.move (third, approving) leads ⟨approves, rfl⟩)
  exact ⟨sound, honest _ _, kept, by decide +kernel⟩

/-- An observation is lowered below its KPI definition. -/
theorem observation_exposed : ∃ labels service,
    Evolves (fun (label : Label) before after => (step before label.1 label.2).1 = after) .new labels service ∧
      ¬ Sound service.state := by
  refine ⟨[(first, defining .restricted), (second, observing), (second, preparing), (third, approving)], lowered .restricted,
    .move _ (.move _ (.move _ (.move _ .start rfl) rfl) rfl) rfl, fun sound => ?_⟩
  have exposed : (lowered .restricted).state.observations[june]?.map (fun observation =>
      (observation.kpiId, observation.classification)) = some (retention, .internal) := by decide +kernel
  obtain ⟨observation, found, same⟩ := Option.map_eq_some_iff.mp exposed
  obtain ⟨parent, classified⟩ := Prod.mk.inj same
  obtain ⟨definition, stands, above⟩ := sound june observation found
  have restricted : (lowered .restricted).state.kpis[retention]?.map (·.classification) = some .restricted := by
    decide +kernel
  rw [parent] at stands
  rw [stands] at restricted
  have strict : definition.classification = .restricted := Option.some.inj restricted
  rw [classified, strict] at above
  exact absurd above (by decide)

end MissionControl.Portfolio

import MissionControl.Portfolio.Service

/-! What the commands of the Portfolio service do to the records. A command puts one record
in place, and a KPI definition brings its observations along. -/

namespace MissionControl.Portfolio
open Checked
open Delivery (OperationContext Ports LoweringTarget PrepareLowerClassification
  ApproveAndExecuteLowerClassification)

structure SameRecords (before after : PortfolioState) : Prop where
  portfolios : after.portfolios = before.portfolios
  products : after.products = before.products
  roadmaps : after.roadmaps = before.roadmaps
  kpis : after.kpis = before.kpis
  observations : after.observations = before.observations

/-- A record by the name it has in the audit. -/
def PortfolioState.view (state : PortfolioState) : AuditTarget → Option (AggregateVersion × DataClassification)
  | .portfolio id => state.portfolios[id]?.map fun value => (value.version, value.classification)
  | .product id => state.products[id]?.map fun value => (value.version, value.classification)
  | .roadmap id => state.roadmaps[id]?.map fun value => (value.version, value.classification)
  | .kpi id => state.kpis[id]?.map fun value => (value.version, value.classification)
  | .kpiObservation id => state.observations[id]?.map fun value => (value.version, value.classification)
  | _ => none

theorem SameRecords.view {before after : PortfolioState} (same : SameRecords before after) (target : AuditTarget) :
    after.view target = before.view target := by
  unfold PortfolioState.view
  rw [same.portfolios, same.products, same.roadmaps, same.kpis, same.observations]

def aim : WorkManagementOperation → Option (AuditTarget × AggregateVersion)
  | .lowerPortfolioClassification id version .. => some (.portfolio id, version)
  | .lowerProductClassification id version .. => some (.product id, version)
  | .lowerRoadmapClassification id version .. => some (.roadmap id, version)
  | .lowerKpiClassification id version .. => some (.kpi id, version)
  | .lowerKpiObservationClassification id version .. => some (.kpiObservation id, version)
  | _ => none

/-- What the service relies on of a kind of record. -/
structure Family.Viewed {Id Record : Type} [LinearOrder Id] (family : Family Id Record) : Prop where
  found : ∀ state id, state.view (family.auditTarget id) =
    (family.records state)[id]?.map fun value => (family.version value, family.classification value)
  placed : ∀ state value target, (family.place state value).view target =
    if target = family.auditTarget (family.id value) then some (family.version value, family.classification value)
    else state.view target
  lowered : ∀ value classification version now, family.id (family.lowered value classification version now) = family.id value ∧
    family.version (family.lowered value classification version now) = version
  aimed : ∀ id version current proposed rationale,
    aim (family.operation id version current proposed rationale) = some (family.auditTarget id, version)

theorem portfolios_viewed : portfolios.Viewed where
  found := fun _ _ => rfl
  placed := by
    intro state value target
    cases target with
    | portfolio id =>
      simp only [PortfolioState.view, portfolios, KeyMap.get_insert, AuditTarget.portfolio.injEq, eq_comm]
      split <;> rfl
    | _ => rfl
  lowered := fun _ _ _ _ => ⟨rfl, rfl⟩
  aimed := fun _ _ _ _ _ => rfl

theorem products_viewed : products.Viewed where
  found := fun _ _ => rfl
  placed := by
    intro state value target
    cases target with
    | product id =>
      simp only [PortfolioState.view, products, KeyMap.get_insert, AuditTarget.product.injEq, eq_comm]
      split <;> rfl
    | _ => rfl
  lowered := fun _ _ _ _ => ⟨rfl, rfl⟩
  aimed := fun _ _ _ _ _ => rfl

theorem roadmaps_viewed : roadmaps.Viewed where
  found := fun _ _ => rfl
  placed := by
    intro state value target
    cases target with
    | roadmap id =>
      simp only [PortfolioState.view, roadmaps, KeyMap.get_insert, AuditTarget.roadmap.injEq, eq_comm]
      split <;> rfl
    | _ => rfl
  lowered := fun _ _ _ _ => ⟨rfl, rfl⟩
  aimed := fun _ _ _ _ _ => rfl

theorem kpis_viewed : kpis.Viewed where
  found := fun _ _ => rfl
  placed := by
    intro state value target
    cases target with
    | kpi id =>
      simp only [PortfolioState.view, kpis, KeyMap.get_insert, AuditTarget.kpi.injEq, eq_comm]
      split <;> rfl
    | _ => rfl
  lowered := fun _ _ _ _ => ⟨rfl, rfl⟩
  aimed := fun _ _ _ _ _ => rfl

theorem observations_viewed : observations.Viewed where
  found := fun _ _ => rfl
  placed := by
    intro state value target
    cases target with
    | kpiObservation id =>
      simp only [PortfolioState.view, observations, KeyMap.get_insert, AuditTarget.kpiObservation.injEq, eq_comm]
      split <;> rfl
    | _ => rfl
  lowered := fun _ _ _ _ => ⟨rfl, rfl⟩
  aimed := fun _ _ _ _ _ => rfl

def Family.Keyed {Id Record : Type} [LinearOrder Id] (family : Family Id Record) (state : PortfolioState) : Prop :=
  ∀ id value, (family.records state)[id]? = some value → family.id value = id

def Fresh (state : PortfolioState) (context : OperationContext) : Prop :=
  state.outcomes[context.idempotencyId]? = none

def Operation.updates : Operation → Option (OperationContext × AuditTarget)
  | .updatePortfolioDetails intent => some (intent.context, .portfolio intent.id)
  | .updateProductDetails intent => some (intent.context, .product intent.id)
  | .updateRoadmapDetails intent => some (intent.context, .roadmap intent.id)
  | .updateKpiDefinitionDetails intent => some (intent.context, .kpi intent.id)
  | .updateKpiObservationDetails intent => some (intent.context, .kpiObservation intent.id)
  | _ => none

def Operation.approves : Operation → Option ApproveAndExecuteLowerClassification
  | .approveAndExecuteLowerPortfolioClassification intent | .approveAndExecuteLowerProductClassification intent
  | .approveAndExecuteLowerRoadmapClassification intent | .approveAndExecuteLowerKpiClassification intent
  | .approveAndExecuteLowerKpiObservationClassification intent => some intent
  | _ => none

/-- The context of an operation that gives a record that is there a new version. -/
def Operation.changes (operation : Operation) : Option OperationContext :=
  (operation.updates.map Prod.fst).or (operation.approves.map (·.context))

theorem Operation.updates_of_approves {operation : Operation} {intent : ApproveAndExecuteLowerClassification}
    (approves : operation.approves = some intent) : operation.updates = none := by
  cases operation <;> first | rfl | cases approves

section
variable [Sha256] {Id Record : Type} [LinearOrder Id]

structure Lowered (family : Family Id Record) (before : Service) (ports : Ports) (intent : ApproveAndExecuteLowerClassification)
    (prepared : WorkManagementPreparedIntent) (goal : LoweringTarget Id) (current : Record) (version : AggregateVersion) :
    Prop where
  fresh : Fresh before.state intent.context
  pending : before.preparedLowerings[intent.approval.preparedId]? = some prepared
  aimed : family.target prepared.operation = some goal
  found : (family.records before.state)[goal.id]? = some current
  standing : family.version current = goal.version
  approved : ∃ snapshot, ReceiptMinted prepared intent.approval snapshot (ports.now .minting) ports.authorize
  previewed : prepared.operation = family.operation goal.id (family.version current) (family.classification current)
    goal.proposedClassification goal.rationale
  next : (family.version current).next = some version
  identified : ports.nextAuditEventId 0 ≠ none ∧ ports.nextApprovalReceiptId ≠ none

/-- How a command comes to put a record in place. -/
inductive Writes (family : Family Id Record) (before : Service) (ports : Ports) (operation : Operation) (value : Record) :
    Prop where
  | created (unnamed : operation.updates = none ∧ operation.approves = none)
      (absent : (family.records before.state)[family.id value]? = none) : Writes family before ports operation value
  | updated (context : OperationContext) (id : Id) (current : Record) (fresh : Fresh before.state context)
      (names : operation.updates = some (context, family.auditTarget id)) (unapproved : operation.approves = none)
      (found : (family.records before.state)[id]? = some current) (named : family.id value = family.id current)
      (next : (family.version current).next = some (family.version value))
      (rises : family.classification current ≤ family.classification value) : Writes family before ports operation value
  | lowered (intent : ApproveAndExecuteLowerClassification) (prepared : WorkManagementPreparedIntent)
      (goal : LoweringTarget Id) (current : Record) (names : operation.approves = some intent)
      (unnamed : operation.updates = none)
      (lowered : Lowered family before ports intent prepared goal current (family.version value))
      (named : family.id value = family.id current) : Writes family before ports operation value

end

structure Raises (definition : KpiDefinitionRecord) (observation later : KpiObservationRecord) : Prop where
  named : later.id = observation.id
  belongs : later.kpiId = observation.kpiId
  next : observation.version.next = some later.version
  combined : later.classification = definition.classification.combine observation.classification
  stamped : observation.updatedAt ≤ later.updatedAt

inductive Effect [Sha256] (before : Service) (ports : Ports) (after : PortfolioState) : Operation → Prop where
  | portfolio {operation : Operation} (value : PortfolioRecord) (writes : Writes portfolios before ports operation value)
      (made : SameRecords (portfolios.place before.state value) after) : Effect before ports after operation
  | product {operation : Operation} (value : ProductRecord) (writes : Writes products before ports operation value)
      (made : SameRecords (products.place before.state value) after) : Effect before ports after operation
  | roadmap {operation : Operation} (value : RoadmapRecord) (writes : Writes roadmaps before ports operation value)
      (made : SameRecords (roadmaps.place before.state value) after) : Effect before ports after operation
  | kpi {operation : Operation} (value : KpiDefinitionRecord) (raised : List KpiObservationRecord)
      (writes : Writes kpis before ports operation value)
      (raises : List.Forall₂ (Raises value) (affected value before.state) raised)
      (made : SameRecords (raised.foldl observations.place (kpis.place before.state value)) after) :
      Effect before ports after operation
  | observation {operation : Operation} (value : KpiObservationRecord) (definition : KpiDefinitionRecord)
      (writes : Writes observations before ports operation value)
      (parent : before.state.kpis[value.kpiId]? = some definition) (bound : definition.classification ≤ value.classification)
      (stamped : ∀ former : KpiObservationRecord, before.state.observations[value.id]? = some former →
        former.updatedAt ≤ value.updatedAt)
      (made : SameRecords (observations.place before.state value) after) : Effect before ports after operation
  | observationLowered (intent : ApproveAndExecuteLowerClassification) (prepared : WorkManagementPreparedIntent)
      (goal : LoweringTarget KpiObservationId) (current : KpiObservationRecord) (version : AggregateVersion)
      (lowered : Lowered observations before ports intent prepared goal current version)
      (made : SameRecords (observations.place before.state
        (observations.lowered current goal.proposedClassification version (ports.now .recording))) after) :
      Effect before ports after (.approveAndExecuteLowerKpiObservationClassification intent)

section
variable {context : OperationContext} {ports : Ports} {state : PortfolioState} {command : CommandIdentity}
  {code : AuditEventCode} {now : UtcTimestamp}

theorem prepareAudit_ok {draw : Nat} {target : AuditTarget} {event : AuditEvent}
    (success : prepareAudit context ports draw target code now = .ok event) : ports.nextAuditEventId draw ≠ none := by
  obtain ⟨id, drawn, _⟩ := bind_ok.mp success
  rw [require_ok.mp drawn]
  exact Option.some_ne_none id

theorem remember_same {result : StoredResult} {events : List AuditEvent} {derived : List DerivedKpiObservationMutation}
    (ordinal : Nat) : SameRecords state (remember context command result events derived state ordinal) :=
  ⟨rfl, rfl, rfl, rfl, rfl⟩

def Commits {Record : Type} (ports : Ports) (places : PortfolioState → Prop) (decided : Except DomainError (Decision Record)) :
    Prop :=
  ∀ decision, decided = .ok decision → ports.nextAuditEventId 0 ≠ none ∧
    ∃ outcome next, decision = .committed outcome next ∧ ∀ ordinal, places (next ordinal)

theorem commit_commits {Id Record : Type} [LinearOrder Id] (family : Family Id Record) (value : Record) :
    Commits ports (SameRecords (family.place state value)) (commit context family ports command code now value state) := by
  intro decision success
  obtain ⟨audit, audited, success⟩ := bind_ok.mp success
  cases pure_ok.mp success
  exact ⟨prepareAudit_ok audited, _, _, rfl, remember_same⟩

theorem nextVersion_ok {current version : AggregateVersion} (success : nextVersion context current = .ok version) :
    current.next = some version := require_ok.mp success

theorem inherited_raises {value : KpiDefinitionRecord} {draw : Nat} {observation : KpiObservationRecord}
    {result : KpiObservationRecord × AuditEvent × DerivedKpiObservationMutation}
    (success : inherited context ports value now draw observation = .ok result) : Raises value observation result.1 := by
  obtain ⟨version, advanced, success⟩ := bind_ok.mp success
  obtain ⟨_, _, success⟩ := bind_ok.mp success
  cases pure_ok.mp success
  exact ⟨rfl, rfl, nextVersion_ok advanced, rfl, le_max_right _ _⟩

theorem inheritAll_raises {value : KpiDefinitionRecord} {draw : Nat} {items : List KpiObservationRecord}
    {results : List (KpiObservationRecord × AuditEvent × DerivedKpiObservationMutation)}
    (success : inheritAll context ports value now draw items = .ok results) :
    List.Forall₂ (Raises value) items (results.map Prod.fst) := by
  induction items generalizing draw results with
  | nil => cases success; exact .nil
  | cons head rest following =>
    obtain ⟨raised, first, success⟩ := bind_ok.mp success
    obtain ⟨others, onwards, success⟩ := bind_ok.mp success
    cases pure_ok.mp success
    exact .cons (inherited_raises first) (following onwards)

theorem commitKpi_commits (value : KpiDefinitionRecord) :
    Commits ports (fun after => ∃ raised, List.Forall₂ (Raises value) (affected value state) raised ∧
      SameRecords (raised.foldl observations.place (kpis.place state value)) after)
      (commitKpi context ports command code now value state) := by
  intro decision success
  obtain ⟨audit, audited, success⟩ := bind_ok.mp success
  obtain ⟨raised, inherits, success⟩ := bind_ok.mp success
  cases pure_ok.mp success
  exact ⟨prepareAudit_ok audited, _, _, rfl, fun ordinal => ⟨_, inheritAll_raises inherits, remember_same ordinal⟩⟩

theorem requestedClassification_ok {current result : DataClassification} {requested : Option DataClassification}
    (success : requestedClassification context current requested = .ok result) :
    result = requested.getD current ∧ current ≤ result := by
  cases requested with
  | none => cases success; exact ⟨rfl, le_rfl⟩
  | some value =>
    obtain ⟨_, rises, success⟩ := bind_ok.mp success
    cases pure_ok.mp success
    exact ⟨rfl, DataClassification.combine_eq_left.mp (ensure_ok.mp rises)⟩

theorem orReplayed_ok {Id Record : Type} [LinearOrder Id] {family : Family Id Record}
    {fresh : Except DomainError (Decision Record)} {decision : Decision Record}
    (success : orReplayed context family state command fresh = .ok decision) :
    (¬ Fresh state context ∧ ∃ outcome, decision = .replayed outcome) ∨ Fresh state context ∧ fresh = .ok decision := by
  obtain ⟨replayed, found, success⟩ := bind_ok.mp success
  unfold replay at found
  cases replayed with
  | none =>
    refine .inr ⟨?_, success⟩
    unfold Fresh
    split at found
    next absent => exact absent
    next => split at found <;> cases found
  | some stored =>
    refine .inl ⟨fun absent => ?_, ?_⟩
    · rw [absent] at found
      cases found
    · dsimp only at success
      cases known : family.result? stored with
      | none => rw [known] at success; cases success
      | some outcome => rw [known] at success; cases success; exact ⟨outcome, rfl⟩

end

section
variable {Id Record : Type} [LinearOrder Id] (family : Family Id Record)

theorem prepareLowerClassification_state (service : Service) (ports : Ports) (intent : PrepareLowerClassification Id) :
    (prepareLowerClassification family service ports intent).1.state = service.state := by
  unfold prepareLowerClassification
  dsimp only
  split
  · rfl
  split
  · rfl
  split
  · rfl
  split <;> rfl

end

variable [Sha256] {before : Service} {ports : Ports} {operation : Operation} {context : OperationContext}
  {command : CommandIdentity} {code : AuditEventCode}

/-- A command is answered as before, or it commits what it stands for. -/
def Stages {Record : Type} (before : Service) (ports : Ports) (operation : Operation) (context : OperationContext)
    (decided : Except DomainError (Decision Record)) : Prop :=
  ∀ decision, decided = .ok decision →
    (¬ Fresh before.state context ∧ ∃ outcome, decision = .replayed outcome) ∨
    ∃ outcome next, decision = .committed outcome next ∧ ∀ ordinal, Effect before ports (next ordinal) operation

variable {Id Record : Type} [LinearOrder Id] {family : Family Id Record}

theorem Stages.orReplayed {fresh : Except DomainError (Decision Record)}
    (commits : Fresh before.state context → ∀ decision, fresh = .ok decision →
      ∃ outcome next, decision = .committed outcome next ∧ ∀ ordinal, Effect before ports (next ordinal) operation) :
    Stages before ports operation context (orReplayed context family before.state command fresh) := by
  intro decision success
  rcases orReplayed_ok success with replayed | ⟨unanswered, same⟩
  · exact .inl replayed
  · exact .inr (commits unanswered decision same)

variable {write : Write Record} {Places : Record → PortfolioState → Prop}
  (commits : ∀ command code now value, Commits ports (Places value) (write ports command code now value before.state))
include commits

theorem stageCreate_stages {value : Record} (unnamed : operation.updates = none ∧ operation.approves = none)
    (effect : ∀ value after, Writes family before ports operation value → Places value after →
      Effect before ports after operation) :
    Stages before ports operation context (stageCreate family write context command code value before.state ports) := by
  refine .orReplayed fun _ decision success => ?_
  obtain ⟨_, absent, success⟩ := bind_ok.mp success
  obtain ⟨_, outcome, next, same, places⟩ := commits _ _ _ _ decision success
  exact ⟨outcome, next, same, fun ordinal => effect value _ (.created unnamed (ensure_ok.mp absent)) (places ordinal)⟩

theorem stageUpdate_stages {id : Id} {expectedVersion : AggregateVersion} {requested : Option DataClassification}
    {change : Record → AggregateVersion → DataClassification → Record}
    (names : operation.updates = some (context, family.auditTarget id)) (unapproved : operation.approves = none)
    (changed : ∀ current version classification, family.id (change current version classification) = family.id current ∧
      family.version (change current version classification) = version ∧
      family.classification (change current version classification) = classification)
    (effect : ∀ value after, Writes family before ports operation value → Places value after →
      Effect before ports after operation) :
    Stages before ports operation context
      (stageUpdate family write context command code id expectedVersion requested change before.state ports) := by
  refine .orReplayed fun fresh decision success => ?_
  obtain ⟨current, found, success⟩ := bind_ok.mp success
  obtain ⟨_, _, success⟩ := bind_ok.mp success
  obtain ⟨version, advanced, success⟩ := bind_ok.mp success
  obtain ⟨classification, raised, success⟩ := bind_ok.mp success
  obtain ⟨_, outcome, next, same, places⟩ := commits _ _ _ _ decision success
  obtain ⟨named, versioned, classified⟩ := changed current version classification
  refine ⟨outcome, next, same, fun ordinal => effect _ _ ?_ (places ordinal)⟩
  refine .updated context id current fresh names unapproved (require_ok.mp found) named ?_ ?_
  · rw [versioned]
    exact nextVersion_ok advanced
  · rw [classified]
    exact (requestedClassification_ok raised).2

omit commits in
theorem stageLowerClassification_stages {write : OperationContext → Write Record}
    {intent : ApproveAndExecuteLowerClassification} (commits : ∀ command code now value,
      Commits ports (Places value) (write intent.context ports command code now value before.state))
    (effect : ∀ prepared goal current version after, Lowered family before ports intent prepared goal current version →
      Places (family.lowered current goal.proposedClassification version (ports.now .recording)) after →
      Effect before ports after operation) :
    Stages before ports operation intent.context (stageLowerClassification family write before ports intent) := by
  intro decision success
  obtain ⟨_, _, success⟩ := bind_ok.mp success
  refine Stages.orReplayed (fun fresh decision success => ?_) decision success
  obtain ⟨prepared, pending, success⟩ := bind_ok.mp success
  obtain ⟨goal, aimed, success⟩ := bind_ok.mp success
  obtain ⟨current, found, success⟩ := bind_ok.mp success
  obtain ⟨_, standing, success⟩ := bind_ok.mp success
  obtain ⟨receipt, minted, success⟩ := bind_ok.mp success
  obtain ⟨version, advanced, success⟩ := bind_ok.mp success
  obtain ⟨audited, outcome, next, same, places⟩ := commits _ _ _ _ decision success
  obtain ⟨_, _, minted⟩ := bind_ok.mp minted
  obtain ⟨receiptId, drawn, minted⟩ := bind_ok.mp minted
  have approved := (validateAndMint_ok (relabel_ok.mp minted)).1
  refine ⟨outcome, next, same, fun ordinal => effect prepared goal current version _ ?_ (places ordinal)⟩
  exact {
    fresh
    pending := require_ok.mp pending
    aimed := require_ok.mp aimed
    found := require_ok.mp found
    standing := ensure_ok.mp standing
    approved := ⟨_, approved⟩
    previewed := (congrArg WorkManagementAuthoritativeSnapshot.operation approved.unchanged).symm
    next := nextVersion_ok advanced
    identified := ⟨audited, by rw [require_ok.mp drawn]; exact Option.some_ne_none _⟩ }

omit commits in
theorem stageCreateKpiObservation_stages (intent : CreateKpiObservation) :
    Stages before ports (.createKpiObservation intent) intent.context (stageCreateKpiObservation intent before.state ports) := by
  refine .orReplayed fun _ decision success => ?_
  obtain ⟨_, absent, success⟩ := bind_ok.mp success
  obtain ⟨definition, parent, success⟩ := bind_ok.mp success
  obtain ⟨_, outcome, next, same, places⟩ := commit_commits observations _ decision success
  replace absent := ensure_ok.mp absent
  refine ⟨outcome, next, same, fun ordinal => .observation _ definition ?_ ?_ ?_ ?_ (places ordinal)⟩
  · exact .created ⟨rfl, rfl⟩ absent
  · exact require_ok.mp parent
  · dsimp only
    split
    · exact le_rfl
    · exact DataClassification.le_combine_right _ _
  · intro former stored
    cases absent.symm.trans stored

omit commits in
theorem stageUpdateKpiObservationDetails_stages (keyed : observations.Keyed before.state)
    (intent : UpdateKpiObservationDetails) : Stages before ports (.updateKpiObservationDetails intent) intent.context
      (stageUpdateKpiObservationDetails intent before.state ports) := by
  refine .orReplayed fun fresh decision success => ?_
  obtain ⟨current, found, success⟩ := bind_ok.mp success
  obtain ⟨_, _, success⟩ := bind_ok.mp success
  obtain ⟨version, advanced, success⟩ := bind_ok.mp success
  obtain ⟨requested, raised, success⟩ := bind_ok.mp success
  obtain ⟨definition, parent, success⟩ := bind_ok.mp success
  obtain ⟨_, outcome, next, same, places⟩ := commit_commits observations _ decision success
  replace found := require_ok.mp found
  refine ⟨outcome, next, same, fun ordinal => .observation _ definition ?_ ?_ ?_ ?_ (places ordinal)⟩
  · refine .updated intent.context intent.id current fresh rfl rfl found rfl (nextVersion_ok advanced) ?_
    exact (requestedClassification_ok raised).2.trans (DataClassification.le_combine_left _ _)
  · exact require_ok.mp parent
  · exact DataClassification.le_combine_right _ _
  · intro former stored
    have own : current.id = intent.id := keyed intent.id current found
    cases found.symm.trans (own ▸ stored)
    exact le_max_right _ _

end MissionControl.Portfolio

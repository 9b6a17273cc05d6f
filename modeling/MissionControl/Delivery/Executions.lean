import MissionControl.Delivery.Steps
import MissionControl.Delivery.Writes

/-! The lowering on the throwaway service, which remembers nothing but how it was seeded,
and what the repository keeps of it. -/

namespace MissionControl.Delivery
open Checked Staging

def CommandIdentity.executes : CommandIdentity → Bool
  | .approveAndExecuteLowerInitiativeClassification .. | .approveAndExecuteLowerProjectClassification ..
  | .approveAndExecuteLowerMilestoneClassification .. => true
  | _ => false

/-- No approval is remembered. -/
def DeliveryState.Unapproved (state : DeliveryState) : Prop :=
  ∀ (id : IdempotencyId) (outcome : StoredOutcome), state.idempotency[id]? = some outcome → outcome.command.executes = false

/-- What the repository relies on of a kind of record. -/
structure Family.Stored {Id Record : Type} [LinearOrder Id] (family : Family Id Record) : Prop where
  viewed : family.Viewed
  remembered : ∀ state value, (family.place state value).idempotency = state.idempotency
  audited : ∀ state value, (family.place state value).auditEvents = state.auditEvents
  answered : ∀ value, family.result? (family.result value) = some value
  aimed : ∀ id, isDeliveryTarget (family.auditTarget id) = true
  executes : ∀ preparedId actor digest, (family.executeIdentity preparedId actor digest).executes = true

theorem initiatives_stored : initiatives.Stored :=
  ⟨initiatives_viewed, fun _ _ => rfl, fun _ _ => rfl, fun _ => rfl, fun _ => rfl, fun _ _ _ => rfl⟩

theorem projects_stored : projects.Stored :=
  ⟨projects_viewed, fun _ _ => rfl, fun _ _ => rfl, fun _ => rfl, fun _ => rfl, fun _ _ _ => rfl⟩

theorem milestones_stored : milestones.Stored :=
  ⟨milestones_viewed, fun _ _ => rfl, fun _ _ => rfl, fun _ => rfl, fun _ => rfl, fun _ _ _ => rfl⟩

section
variable {context : OperationContext} {ports : Ports} {state next : DeliveryState}

theorem appendAudit_ok {draw : Nat} {target : AuditTarget} {code : AuditEventCode} {now : UtcTimestamp} {id : AuditEventId}
    (success : appendAudit context ports draw target code now state = .ok (next, id)) :
    ports.nextAuditEventId draw = some id ∧ (∀ event ∈ state.auditEvents, event.id ≠ id) ∧
      next = { state with
        auditEvents := state.auditEvents ++ [buildDeliveryAudit id now target code context.correlationId] } := by
  obtain ⟨_, drawn, success⟩ := bind_ok.mp success
  obtain ⟨_, fresh, success⟩ := bind_ok.mp success
  obtain ⟨_, made, success⟩ := bind_ok.mp success
  cases pure_ok.mp success
  cases relabel_ok.mp made
  exact ⟨require_ok.mp drawn, by simpa using ensure_ok.mp fresh, rfl⟩

theorem remember_ok {identity : CommandIdentity} {result : StoredResult} {ids : List AuditEventId}
    {derived : List DerivedMilestoneMutation}
    (success : remember context identity result ids derived state = .ok next) :
    next.auditEvents = state.auditEvents ∧
      ∃ outcome : StoredOutcome, outcome.command = identity ∧
        next.idempotency = state.idempotency.insert context.idempotencyId outcome := by
  obtain ⟨_, taken, success⟩ := bind_ok.mp success
  obtain ⟨_, _, taken⟩ := bind_ok.mp taken
  cases pure_ok.mp taken
  cases pure_ok.mp success
  exact ⟨rfl, _, rfl, rfl⟩

theorem DeliveryState.Unapproved.insert {key : IdempotencyId} {outcome : StoredOutcome} (unapproved : state.Unapproved)
    (same : next.idempotency = state.idempotency.insert key outcome) (plain : outcome.command.executes = false) :
    next.Unapproved := by
  intro id found there
  rw [same, KeyMap.get_insert] at there
  split at there
  · cases there; exact plain
  · exact unapproved id found there

variable {identity : CommandIdentity} {now : UtcTimestamp} {Id Record : Type}

theorem placed_audit [LinearOrder Id] {family : Family Id Record} (stored : family.Stored) {code : AuditEventCode}
    {value : Record} {staged : Staged DeliveryState Record}
    (success : placed context family ports identity code now value state = .ok staged) :
    ∃ next id, staged = .committed value next ∧ ports.nextAuditEventId 0 = some id ∧
      (∀ event ∈ state.auditEvents, event.id ≠ id) ∧
      next.auditEvents = state.auditEvents ++
        [buildDeliveryAudit id now (family.auditTarget (family.id value)) code context.correlationId] := by
  obtain ⟨⟨audited, id⟩, appended, success⟩ := bind_ok.mp success
  obtain ⟨remembering, remembered, success⟩ := bind_ok.mp success
  cases pure_ok.mp success
  obtain ⟨drawn, fresh, rfl⟩ := appendAudit_ok appended
  rw [stored.audited] at fresh
  refine ⟨remembering, id, rfl, drawn, fresh, (remember_ok remembered).1.trans ?_⟩
  rw [stored.audited]

theorem placed_unapproved [LinearOrder Id] {family : Family Id Record} (stored : family.Stored) {code : AuditEventCode}
    {value : Record} {staged : Staged DeliveryState Record} (plain : identity.executes = false)
    (success : placed context family ports identity code now value state = .ok staged)
    (wanted : staged.target = some next) (unapproved : state.Unapproved) : next.Unapproved := by
  obtain ⟨⟨audited, id⟩, appended, success⟩ := bind_ok.mp success
  obtain ⟨remembering, remembered, success⟩ := bind_ok.mp success
  cases pure_ok.mp success
  cases wanted
  obtain ⟨_, _, rfl⟩ := appendAudit_ok appended
  obtain ⟨_, outcome, same, inserted⟩ := remember_ok remembered
  exact unapproved.insert (inserted.trans (by rw [stored.remembered])) (same ▸ plain)

theorem orReplayed_unapproved [LinearOrder Id] {family : Family Id Record}
    {fresh : Except DomainError (Staged DeliveryState Record)} {staged : Staged DeliveryState Record}
    (unapproved : state.Unapproved) (executes : identity.executes = true)
    (success : orReplayed context family state identity fresh = .ok staged) : fresh = .ok staged := by
  unfold orReplayed replay at success
  split at success
  next => exact success
  next outcome found =>
    have plain := unapproved _ outcome found
    split at success
    next same => rw [same, executes] at plain; cases plain
    next => cases success

theorem ordinary_unapproved {Outcome : Type} {service : Service} {decided : Except DomainError (Staged DeliveryState Outcome)}
    (stages : ∀ staged next, decided = .ok staged → staged.target = some next → next.Unapproved)
    (unapproved : service.state.Unapproved) : (ordinary service context decided).1.state.Unapproved := by
  obtain same | ⟨staged, next, success, wanted, same⟩ := settle_cases (internal context) service.toCommitting decided
  · exact same ▸ unapproved
  · have there : (ordinary service context decided).1.state = next := congrArg (fun settled => settled.1.state) same
    exact there ▸ stages staged next success wanted

theorem auditInherited_idempotency {draw : Nat} {raised : List (Milestone × Milestone)}
    {derived : List DerivedMilestoneMutation}
    (success : auditInherited context ports now draw raised state = .ok (next, derived)) :
    next.idempotency = state.idempotency := by
  induction raised generalizing draw state derived with
  | nil => cases success; rfl
  | cons pair rest following =>
    obtain ⟨previous, resulting⟩ := pair
    obtain ⟨_, appended, success⟩ := bind_ok.mp success
    obtain ⟨⟨later, _⟩, onwards, success⟩ := bind_ok.mp success
    cases pure_ok.mp success
    obtain ⟨_, _, same⟩ := appendAudit_ok appended
    rw [following onwards, same]

theorem placeAll_idempotency (raised : List Milestone) (state : DeliveryState) :
    (raised.foldl milestones.place state).idempotency = state.idempotency := by
  induction raised generalizing state with
  | nil => rfl
  | cons first rest following => exact following _

end

section
variable {ports : Ports} {service : Service}

theorem createInitiative_unapproved {command : CreateInitiative} (unapproved : service.state.Unapproved) :
    (createInitiative service ports command).1.state.Unapproved := by
  refine ordinary_unapproved (fun staged next success wanted => ?_) unapproved
  obtain ⟨_, success⟩ := orReplayed_ok success wanted
  obtain ⟨_, _, success⟩ := bind_ok.mp success
  exact placed_unapproved initiatives_stored rfl success wanted unapproved

theorem updateInitiative_unapproved {command : UpdateInitiative} (unapproved : service.state.Unapproved) :
    (updateInitiative service ports command).1.state.Unapproved := by
  refine ordinary_unapproved (fun staged next success wanted => ?_) unapproved
  obtain ⟨_, success⟩ := orReplayed_ok success wanted
  obtain ⟨_, _, success⟩ := bind_ok.mp success
  obtain ⟨_, _, success⟩ := bind_ok.mp success
  obtain ⟨_, _, success⟩ := bind_ok.mp success
  obtain ⟨_, _, success⟩ := bind_ok.mp success
  exact placed_unapproved initiatives_stored rfl success wanted unapproved

theorem createProject_unapproved {command : CreateProject} (unapproved : service.state.Unapproved) :
    (createProject service ports command).1.state.Unapproved := by
  refine ordinary_unapproved (fun staged next success wanted => ?_) unapproved
  obtain ⟨_, success⟩ := orReplayed_ok success wanted
  obtain ⟨_, _, success⟩ := bind_ok.mp success
  obtain ⟨_, _, success⟩ := bind_ok.mp success
  exact placed_unapproved projects_stored rfl success wanted unapproved

theorem updateProject_unapproved {command : UpdateProject} (unapproved : service.state.Unapproved) :
    (updateProject service ports command).1.state.Unapproved := by
  refine ordinary_unapproved (fun staged next success wanted => ?_) unapproved
  obtain ⟨_, success⟩ := orReplayed_ok success wanted
  obtain ⟨_, _, success⟩ := bind_ok.mp success
  obtain ⟨_, _, success⟩ := bind_ok.mp success
  obtain ⟨_, _, success⟩ := bind_ok.mp success
  obtain ⟨_, _, success⟩ := bind_ok.mp success
  obtain ⟨_, _, success⟩ := bind_ok.mp success
  obtain ⟨raised, _, success⟩ := bind_ok.mp success
  obtain ⟨_, appended, success⟩ := bind_ok.mp success
  obtain ⟨_, inherited, success⟩ := bind_ok.mp success
  obtain ⟨_, remembered, success⟩ := bind_ok.mp success
  cases pure_ok.mp success
  cases wanted
  obtain ⟨_, _, same⟩ := appendAudit_ok appended
  obtain ⟨_, outcome, answers, inserted⟩ := remember_ok remembered
  have kept := ((auditInherited_idempotency inherited).trans (congrArg DeliveryState.idempotency same)).trans
    ((placeAll_idempotency raised _).trans (projects_stored.remembered _ _))
  rw [kept] at inserted
  exact unapproved.insert inserted (by rw [answers]; rfl)

theorem createMilestone_unapproved {command : CreateMilestone} (unapproved : service.state.Unapproved) :
    (createMilestone service ports command).1.state.Unapproved := by
  refine ordinary_unapproved (fun staged next success wanted => ?_) unapproved
  obtain ⟨_, success⟩ := orReplayed_ok success wanted
  obtain ⟨_, _, success⟩ := bind_ok.mp success
  obtain ⟨_, _, success⟩ := bind_ok.mp success
  exact placed_unapproved milestones_stored rfl success wanted unapproved

theorem updateMilestone_unapproved {command : UpdateMilestone} (unapproved : service.state.Unapproved) :
    (updateMilestone service ports command).1.state.Unapproved := by
  refine ordinary_unapproved (fun staged next success wanted => ?_) unapproved
  obtain ⟨_, success⟩ := orReplayed_ok success wanted
  obtain ⟨_, _, success⟩ := bind_ok.mp success
  obtain ⟨_, _, success⟩ := bind_ok.mp success
  obtain ⟨_, _, success⟩ := bind_ok.mp success
  obtain ⟨_, _, success⟩ := bind_ok.mp success
  obtain ⟨_, _, success⟩ := bind_ok.mp success
  exact placed_unapproved milestones_stored rfl success wanted unapproved

variable {context : OperationContext} {now : UtcTimestamp} {tables : DeliveryTables} {later : Service}

theorem new_unapproved : Service.new.state.Unapproved := by
  intro id outcome found
  simp [Service.new, DeliveryState.default] at found

theorem seeded_ok {Record : Type} {attempt : Service × Except DomainError Record}
    (success : seeded context attempt = .ok later) : later = attempt.1 := by
  obtain ⟨_, _, success⟩ := bind_ok.mp success
  exact (pure_ok.mp success).symm

theorem seedUpdates_unapproved {Record : Type} {id : String} {auditEventIds : List AuditEventId} {steps : List Nat}
    {update : OperationContext → AggregateVersion → Ports → Service → Service × Except DomainError Record}
    (keeps : ∀ again version ports service, service.state.Unapproved → (update again version ports service).1.state.Unapproved)
    (success : seedUpdates context now id auditEventIds update steps service = .ok later)
    (unapproved : service.state.Unapproved) : later.state.Unapproved := by
  induction steps generalizing service with
  | nil => cases pure_ok.mp success; exact unapproved
  | cons step rest following =>
    obtain ⟨_, _, success⟩ := bind_ok.mp success
    obtain ⟨_, _, success⟩ := bind_ok.mp success
    obtain ⟨updated, made, success⟩ := bind_ok.mp success
    exact following success (seeded_ok made ▸ keeps _ _ _ _ unapproved)

theorem seedInitiative_unapproved {id : InitiativeId}
    (success : seedInitiativeServiceForLowering context now id tables = .ok later) : later.state.Unapproved := by
  obtain ⟨⟨registered, row⟩, _, success⟩ := bind_ok.mp success
  obtain ⟨_, _, success⟩ := bind_ok.mp success
  obtain ⟨_, _, success⟩ := bind_ok.mp success
  obtain ⟨_, created, success⟩ := bind_ok.mp success
  refine seedUpdates_unapproved (fun _ _ _ _ => updateInitiative_unapproved) success ?_
  exact seeded_ok created ▸ createInitiative_unapproved new_unapproved

theorem seedProject_unapproved {id : ProjectId}
    (success : seedProjectServiceForLowering context now id tables = .ok later) : later.state.Unapproved := by
  obtain ⟨⟨registered, row⟩, _, success⟩ := bind_ok.mp success
  obtain ⟨_, _, success⟩ := bind_ok.mp success
  obtain ⟨_, _, success⟩ := bind_ok.mp success
  obtain ⟨_, created, success⟩ := bind_ok.mp success
  refine seedUpdates_unapproved (fun _ _ _ _ => updateProject_unapproved) success ?_
  exact seeded_ok created ▸ createProject_unapproved new_unapproved

theorem seedMilestone_unapproved {id : MilestoneId}
    (success : seedMilestoneServiceForLowering context now id tables = .ok later) : later.state.Unapproved := by
  obtain ⟨⟨registered, row⟩, _, success⟩ := bind_ok.mp success
  obtain ⟨_, _, success⟩ := bind_ok.mp success
  obtain ⟨_, _, success⟩ := bind_ok.mp success
  obtain ⟨_, _, success⟩ := bind_ok.mp success
  obtain ⟨_, _, success⟩ := bind_ok.mp success
  obtain ⟨_, placed, success⟩ := bind_ok.mp success
  obtain ⟨_, _, success⟩ := bind_ok.mp success
  obtain ⟨_, created, success⟩ := bind_ok.mp success
  refine seedUpdates_unapproved (fun _ _ _ _ => updateMilestone_unapproved) success ?_
  exact seeded_ok created ▸ createMilestone_unapproved (seeded_ok placed ▸ createProject_unapproved new_unapproved)

end

variable [Sha256] {Id Record : Type} [LinearOrder Id] {family : Family Id Record}

/-- What the throwaway service does for an approval: no earlier one answers it, so it is bound to its
key, approved by the right actor, and audited under the identifier drawn for it. -/
theorem approved_seeded {service : Service} {ports : Ports} {intent : ApproveAndExecuteLowerClassification} {record : Record}
    (stored : family.Stored) (unapproved : service.state.Unapproved)
    (success : (approveAndExecuteLowerClassification family service ports intent).2 = .ok record) :
    intent.approval.idempotencyId = intent.context.idempotencyId ∧ ports.authorize intent.approval.actor = true ∧
      ∃ id, ports.nextAuditEventId 0 = some id ∧ (∀ event ∈ service.state.auditEvents, event.id ≠ id) ∧
        (approveAndExecuteLowerClassification family service ports intent).1.state.auditEvents = service.state.auditEvents ++
          [buildDeliveryAudit id (ports.now .recording) (family.auditTarget (family.id record)) family.loweredCode
            intent.context.correlationId] := by
  unfold approveAndExecuteLowerClassification at success ⊢
  dsimp only at success ⊢
  cases decided : stageLowerClassification family service ports intent with
  | error cause => rw [decided] at success; cases success
  | ok staged =>
    obtain ⟨_, bound, staging⟩ := bind_ok.mp decided
    have staging := orReplayed_unapproved unapproved (stored.executes ..) staging
    obtain ⟨prepared, _, staging⟩ := bind_ok.mp staging
    obtain ⟨target, _, staging⟩ := bind_ok.mp staging
    obtain ⟨current, _, staging⟩ := bind_ok.mp staging
    obtain ⟨_, _, staging⟩ := bind_ok.mp staging
    obtain ⟨_, minted, staging⟩ := bind_ok.mp staging
    obtain ⟨version, _, staging⟩ := bind_ok.mp staging
    obtain ⟨_, _, minted⟩ := bind_ok.mp minted
    obtain ⟨_, _, minted⟩ := bind_ok.mp minted
    have authorized := (validateAndMint_ok (relabel_ok.mp minted)).1.authorized
    obtain ⟨next, id, rfl, drawn, fresh, audited⟩ := placed_audit stored staging
    rw [decided] at success
    unfold settle at success ⊢
    dsimp only at success ⊢
    cases failing : service.failNextCommit with
    | true => rw [failing] at success; cases success
    | false =>
      rw [failing] at success
      cases success
      exact ⟨ensure_ok.mp bound, authorized, id, drawn, fresh, audited⟩

omit [Sha256] in
theorem find_appended {events : List AuditEvent} {event : AuditEvent} {id : AuditEventId}
    (fresh : ∀ other ∈ events, other.id ≠ id) (named : event.id = id) :
    (events ++ [event]).find? (fun other => other.id = id) = some event := by
  have absent : events.find? (fun other => other.id = id) = none :=
    List.find?_eq_none.mpr fun other held => by simpa using fresh other held
  rw [List.find?_append, absent]
  simp [named]

variable {stored : StoredFamily Id Record} {command : ApproveAndExecuteLowerClassification}

variable {arguments : Arguments}

theorem executeSeeded_ok {row : CommandPrepareRow} {intent : PreparedIntentRow} {id : Id} {service : Service}
    {record : Record} {audit : AuditEvent} (kind : stored.family.Stored) (unapproved : service.state.Unapproved)
    (success : executeSeeded stored command arguments row intent id service = .ok (record, audit)) :
    command.approval.idempotencyId = command.context.idempotencyId ∧ command.approval.actor = .headOfProducts ∧
      audit = buildDeliveryAudit arguments.auditEventId arguments.occurredAt
        (stored.family.auditTarget (stored.family.id record)) stored.family.loweredCode command.context.correlationId := by
  obtain ⟨again, _, success⟩ := bind_ok.mp success
  obtain ⟨_, _, success⟩ := bind_ok.mp success
  obtain ⟨_, answer, success⟩ := bind_ok.mp success
  obtain ⟨_, found, success⟩ := bind_ok.mp success
  cases pure_ok.mp success
  rw [← (prepareLowerClassification_cases service _ kind.viewed _).1] at unapproved
  obtain ⟨bound, authorized, drawn, same, fresh, audited⟩ := approved_seeded kind unapproved answer
  cases same
  have found := require_ok.mp found
  rw [audited, find_appended fresh rfl] at found
  cases found
  exact ⟨bound, of_decide_eq_true authorized, rfl⟩

structure CommandExecuteRow.Tells (row : CommandExecuteRow) (command : ApproveAndExecuteLowerClassification)
    (result : StoredResult) : Prop where
  idempotencyId : row.idempotencyId = command.context.idempotencyId
  preparedId : row.preparedId = command.approval.preparedId
  actor : row.actor = .headOfProducts
  acknowledgedDigest : row.acknowledgedDigest = command.approval.acknowledgedPayloadDigest
  result : row.result = result

variable {before after : DeliveryTables}

omit [Sha256] in
theorem persistLoweredDeliveryBundle_ok {registered : Evidence.RegistryRow} {record : Record}
    {occurredAt : UtcTimestamp} {id : AuditEventId} {operationOrdinal : Nat} (kind : stored.family.Stored)
    (success : persistLoweredDeliveryBundle stored command arguments registered record
      (buildDeliveryAudit id occurredAt (stored.family.auditTarget (stored.family.id record)) stored.family.loweredCode
        command.context.correlationId) operationOrdinal before = .ok after) :
    ∃ row, row.Tells command (stored.family.result record) ∧
      Executed row (buildDeliveryAudit id occurredAt (stored.family.auditTarget (stored.family.id record))
        stored.family.loweredCode command.context.correlationId) before after := by
  obtain ⟨_, revised, success⟩ := bind_ok.mp success
  obtain ⟨audited, persisted, success⟩ := bind_ok.mp success
  obtain ⟨_, _, success⟩ := bind_ok.mp success
  obtain ⟨_, _, success⟩ := bind_ok.mp success
  obtain ⟨_, _, success⟩ := bind_ok.mp success
  obtain ⟨_, _, success⟩ := bind_ok.mp success
  obtain ⟨claiming, claimed, success⟩ := bind_ok.mp success
  obtain ⟨_, _, success⟩ := bind_ok.mp success
  obtain ⟨executes, recorded, success⟩ := bind_ok.mp success
  cases pure_ok.mp success
  obtain ⟨others, told⟩ := persistDeliveryAudit_ok (kind.aimed _) persisted
  obtain ⟨claimed, same⟩ := claimIdempotency_ok claimed
  have recorded := require_ok.mp recorded
  have first := (reviseAggregate_ok revised).trans others
  have claimed : audited.idempotencyClaims.insert ⟨command.context.idempotencyId, .executeLowerClassification⟩ =
      some claiming.idempotencyClaims := claimed
  have events : claiming.auditEvents = audited.auditEvents := by rw [same]
  have results : claiming.commandResults = audited.commandResults := by rw [same]
  have earlier : claiming.commandExecutes = audited.commandExecutes := by rw [same]
  rw [first.claims] at claimed
  rw [earlier, first.executes] at recorded
  exact ⟨_, ⟨rfl, rfl, rfl, rfl, rfl⟩,
    { claimed
      recorded
      results := results.trans first.results
      kept := fun id row found => events ▸ first.kept id row found
      audited := fun other => decodeDeliveryAudit_kept other (fun _ _ found => events ▸ found) (told other) }⟩

theorem approveAndExecuteLowering_ok {outcome : DeliveryMutationOutcome Record} (kind : stored.family.Stored)
    (plain : ∀ context now id service, stored.seed context now id before = .ok service → service.state.Unapproved)
    (success : approveAndExecuteLowering stored command arguments before = .ok (after, outcome)) :
    claimedByOtherOperation command.context .executeLowerClassification before = false ∧
      (after = before ∨ command.approval.idempotencyId = command.context.idempotencyId ∧
        command.approval.actor = .headOfProducts ∧ ∃ row audit, row.Tells command (stored.family.result outcome.record) ∧
          Executed row audit before after ∧ outcome = ⟨outcome.record, [audit], []⟩) := by
  obtain ⟨_, unclaimed, success⟩ := bind_ok.mp success
  refine ⟨ensure_ok.mp unclaimed, ?_⟩
  split at success
  next existing found =>
    obtain ⟨_, _, success⟩ := bind_ok.mp success
    obtain ⟨_, _, success⟩ := bind_ok.mp success
    obtain ⟨_, _, success⟩ := bind_ok.mp success
    cases pure_ok.mp success
    exact .inl rfl
  next absent =>
    obtain ⟨⟨row, intent, id⟩, _, success⟩ := bind_ok.mp success
    obtain ⟨service, seeding, success⟩ := bind_ok.mp success
    obtain ⟨⟨record, audit⟩, executed, success⟩ := bind_ok.mp success
    obtain ⟨registered, _, success⟩ := bind_ok.mp success
    obtain ⟨_, _, success⟩ := bind_ok.mp success
    obtain ⟨bundled, persisted, success⟩ := bind_ok.mp success
    obtain ⟨_, advanced, success⟩ := bind_ok.mp success
    cases pure_ok.mp success
    obtain ⟨bound, actor, rfl⟩ := executeSeeded_ok kind (plain _ _ _ _ seeding) executed
    obtain ⟨row, tells, wrote⟩ := persistLoweredDeliveryBundle_ok kind persisted
    refine .inr ⟨bound, actor, row, _, tells, ?_, rfl⟩
    rw [advanceRevision_ok advanced]
    exact
      { claimed := wrote.claimed
        recorded := wrote.recorded
        results := wrote.results
        kept := wrote.kept
        audited := fun other => decodeDeliveryAudit_kept other (fun _ _ found => found) (wrote.audited other) }

theorem prepareLowering_ok {command : PrepareLowerClassification Id} {prepared answer : WorkManagementPreparedIntent}
    (success : prepareLowering stored command prepared before = .ok (after, answer)) :
    claimedByOtherOperation command.context .prepareLowerClassification before = false ∧
      (after = before ∨ Previewed command.context.idempotencyId before after) := by
  obtain ⟨_, unclaimed, success⟩ := bind_ok.mp success
  refine ⟨ensure_ok.mp unclaimed, ?_⟩
  split at success
  next existing found =>
    obtain ⟨_, _, success⟩ := bind_ok.mp success
    cases pure_ok.mp success
    exact .inl rfl
  next absent =>
    obtain ⟨_, _, success⟩ := bind_ok.mp success
    obtain ⟨_, _, success⟩ := bind_ok.mp success
    obtain ⟨_, _, success⟩ := bind_ok.mp success
    obtain ⟨_, _, success⟩ := bind_ok.mp success
    obtain ⟨_, _, success⟩ := bind_ok.mp success
    obtain ⟨_, persisted, success⟩ := bind_ok.mp success
    obtain ⟨_, claimed, success⟩ := bind_ok.mp success
    obtain ⟨_, _, success⟩ := bind_ok.mp success
    obtain ⟨_, advanced, success⟩ := bind_ok.mp success
    cases pure_ok.mp success
    obtain ⟨_, _, persisted⟩ := bind_ok.mp persisted
    obtain ⟨_, _, persisted⟩ := bind_ok.mp persisted
    obtain ⟨_, _, persisted⟩ := bind_ok.mp persisted
    cases pure_ok.mp persisted
    obtain ⟨claimed, same⟩ := claimIdempotency_ok claimed
    refine .inr ?_
    rw [advanceRevision_ok advanced, same]
    exact ⟨claimed, rfl, rfl, rfl⟩

end MissionControl.Delivery

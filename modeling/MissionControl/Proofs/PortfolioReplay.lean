import MissionControl.Portfolio.Executions

/-! A Portfolio command issued again. Creates, updates and previews are answered from the rows
of their first attempt, executed lowerings from the record as it stands by then. -/

namespace MissionControl.Portfolio
open Checked Run Transaction
open Evidence (AggregateType RegistryRow)
open Delivery (OperationContext PrepareLowerClassification ApproveAndExecuteLowerClassification
  PreparedIntentRow storageError)

def Command.kind : Command → PortfolioOperation
  | .createPortfolio _ => .createPortfolio
  | .updatePortfolioDetails _ => .updatePortfolio
  | .createProduct _ => .createProduct
  | .updateProductDetails _ => .updateProduct
  | .createRoadmap _ => .createRoadmap
  | .updateRoadmapDetails _ => .updateRoadmap
  | .createKpiDefinition _ => .createKpiDefinition
  | .updateKpiDefinitionDetails _ => .updateKpiDefinition
  | .createKpiObservation _ => .createKpiObservation
  | .updateKpiObservationDetails _ => .updateKpiObservation
  | .prepareLowerPortfolioClassification _ _ | .prepareLowerProductClassification _ _
  | .prepareLowerRoadmapClassification _ _ | .prepareLowerKpiClassification _ _
  | .prepareLowerKpiObservationClassification _ _ => .prepareLowerClassification
  | .approveAndExecuteLowerPortfolioClassification _ | .approveAndExecuteLowerProductClassification _
  | .approveAndExecuteLowerRoadmapClassification _ | .approveAndExecuteLowerKpiClassification _
  | .approveAndExecuteLowerKpiObservationClassification _ => .executeLowerClassification

/-- A create or an update. -/
def PortfolioOperation.isChange : PortfolioOperation → Bool
  | .prepareLowerClassification | .executeLowerClassification => false
  | _ => true

def Command.request : Command → Request
  | .createPortfolio command =>
    .change (.createPortfolio command.id command.name command.details command.classification command.provenance)
  | .updatePortfolioDetails command =>
    .change (.updatePortfolio command.id command.expectedVersion command.name command.details command.classification)
  | .createProduct command =>
    .change (.createProduct command.id command.name command.details command.classification command.provenance)
  | .updateProductDetails command =>
    .change (.updateProduct command.id command.expectedVersion command.name command.details command.classification)
  | .createRoadmap command =>
    .change (.createRoadmap command.id command.name command.details command.classification command.provenance)
  | .updateRoadmapDetails command =>
    .change (.updateRoadmap command.id command.expectedVersion command.name command.details command.classification)
  | .createKpiDefinition command =>
    .change (.createKpi command.id command.name command.definition command.owner command.target command.cadence
      command.source command.classification command.provenance)
  | .updateKpiDefinitionDetails command =>
    .change (.updateKpi command.id command.expectedVersion command.name command.definition command.owner command.target
      command.cadence command.source command.classification)
  | .createKpiObservation command =>
    .change (.createObservation command.id command.kpiId command.value command.observedAt command.source
      command.classification command.provenance)
  | .updateKpiObservationDetails command =>
    .change (.updateObservation command.id command.expectedVersion command.value command.observedAt command.source
      command.classification)
  | .prepareLowerPortfolioClassification command _ => portfolioLowering.previewRequest command
  | .prepareLowerProductClassification command _ => productLowering.previewRequest command
  | .prepareLowerRoadmapClassification command _ => roadmapLowering.previewRequest command
  | .prepareLowerKpiClassification command _ => kpiLowering.previewRequest command
  | .prepareLowerKpiObservationClassification command _ => kpiObservationLowering.previewRequest command
  | .approveAndExecuteLowerPortfolioClassification command => portfolioLowering.approvalRequest command
  | .approveAndExecuteLowerProductClassification command => productLowering.approvalRequest command
  | .approveAndExecuteLowerRoadmapClassification command => roadmapLowering.approvalRequest command
  | .approveAndExecuteLowerKpiClassification command => kpiLowering.approvalRequest command
  | .approveAndExecuteLowerKpiObservationClassification command => kpiObservationLowering.approvalRequest command

def Lowering.Unrevised {kind : IdKind} {Record : Type} (lowering : Lowering kind Record)
    (timely : UtcTimestamp → PreparedIntentRow → Prop) (preparedId : PreparedIntentId) (before later : PortfolioTables) :
    Prop :=
  ∀ row intent id registered present, previewOf lowering before preparedId = some (row, intent, id) →
    before.aggregate (lowering.kept.key id) = some registered → later.aggregate (lowering.kept.key id) = some present →
      registered.version.next = some present.version ∧ timely registered.createdAt intent

def Command.Unrevised (before later : PortfolioTables) : Command → Prop
  | .approveAndExecuteLowerPortfolioClassification command =>
    portfolioLowering.Unrevised (fun _ _ => True) command.approval.preparedId before later
  | .approveAndExecuteLowerProductClassification command =>
    productLowering.Unrevised (fun _ _ => True) command.approval.preparedId before later
  | .approveAndExecuteLowerRoadmapClassification command =>
    roadmapLowering.Unrevised (fun _ _ => True) command.approval.preparedId before later
  | .approveAndExecuteLowerKpiClassification command =>
    kpiLowering.Unrevised (fun _ _ => True) command.approval.preparedId before later
  | .approveAndExecuteLowerKpiObservationClassification command =>
    kpiObservationLowering.Unrevised atCreation command.approval.preparedId before later
  | _ => True

section
variable [Sha256]

inductive Command.Form : Command → Prop where
  | change {command : Command} {kind : IdKind} {Record : Type} (kept : Kept kind Record)
      (answer : MutationOutcome Record → Answer) (identity : CommandIdentity)
      (calls : Arguments → PortfolioTables → Except DomainError (PortfolioTables × MutationOutcome Record))
      (lawful : kept.Lawful) (request : command.request = .change identity)
      (kind : command.kind.isChange = true)
      (operation : ∀ arguments tables, command.operation arguments tables = answering answer (calls arguments tables))
      (recorded : ∀ arguments tables, ∃ fresh,
        calls arguments tables = orRecorded kept command.context command.kind identity tables fresh)
      (leaves : ∀ arguments before after outcome, calls arguments before = .ok (after, outcome) →
        Leaves kept command.context command.kind identity outcome before after)
      (always : ∀ before later, command.Unrevised before later) : Form command
  | preview {command : Command} {kind : IdKind} {Record : Type} (lowering : Lowering kind Record)
      (asked : PrepareLowerClassification (OpaqueId kind)) (prepared : WorkManagementPreparedIntent)
      (request : command.request = lowering.previewRequest asked) (kind : command.kind = .prepareLowerClassification)
      (context : asked.context = command.context)
      (operation : ∀ arguments tables,
        command.operation arguments tables = answering .prepared (prepareLowering lowering asked prepared tables))
      (always : ∀ before later, command.Unrevised before later) : Form command
  | approval {command : Command} {kind : IdKind} {Record : Type} (lowering : Lowering kind Record)
      (timed : UtcTimestamp → Record → Prop) (timely : UtcTimestamp → PreparedIntentRow → Prop)
      (answer : MutationOutcome Record → Answer) (asked : ApproveAndExecuteLowerClassification)
      (lawful : lowering.Lawful timed timely) (injective : Function.Injective answer)
      (request : command.request = lowering.approvalRequest asked) (kind : command.kind = .executeLowerClassification)
      (context : asked.context = command.context)
      (operation : ∀ arguments tables,
        command.operation arguments tables = answering answer (approveAndExecuteLowering lowering asked arguments tables))
      (unrevised : ∀ before later,
        command.Unrevised before later ↔ lowering.Unrevised timely asked.approval.preparedId before later) : Form command

theorem Command.form (command : Command) : command.Form := by
  cases command with
  | createPortfolio command =>
    exact .change keptPortfolios .portfolio _ (SqliteProductLedger.createPortfolio command) keptPortfolios_lawful rfl
      rfl (fun _ _ => rfl) (fun _ _ => ⟨_, rfl⟩) (fun _ _ _ _ => createStored_ok fun _ => rfl) fun _ _ => trivial
  | updatePortfolioDetails command =>
    exact .change keptPortfolios .portfolio _ (SqliteProductLedger.updatePortfolioDetails command) keptPortfolios_lawful rfl
      rfl (fun _ _ => rfl) (fun _ _ => ⟨_, rfl⟩)
      (fun _ _ _ _ => updateStored_ok (fun _ => rfl) (fun _ => noCascade_raises) fun _ _ _ => rfl) fun _ _ => trivial
  | createProduct command =>
    exact .change keptProducts .product _ (SqliteProductLedger.createProduct command) keptProducts_lawful rfl
      rfl (fun _ _ => rfl) (fun _ _ => ⟨_, rfl⟩) (fun _ _ _ _ => createStored_ok fun _ => rfl) fun _ _ => trivial
  | updateProductDetails command =>
    exact .change keptProducts .product _ (SqliteProductLedger.updateProductDetails command) keptProducts_lawful rfl
      rfl (fun _ _ => rfl) (fun _ _ => ⟨_, rfl⟩)
      (fun _ _ _ _ => updateStored_ok (fun _ => rfl) (fun _ => noCascade_raises) fun _ _ _ => rfl) fun _ _ => trivial
  | createRoadmap command =>
    exact .change keptRoadmaps .roadmap _ (SqliteProductLedger.createRoadmap command) keptRoadmaps_lawful rfl
      rfl (fun _ _ => rfl) (fun _ _ => ⟨_, rfl⟩) (fun _ _ _ _ => createStored_ok fun _ => rfl) fun _ _ => trivial
  | updateRoadmapDetails command =>
    exact .change keptRoadmaps .roadmap _ (SqliteProductLedger.updateRoadmapDetails command) keptRoadmaps_lawful rfl
      rfl (fun _ _ => rfl) (fun _ _ => ⟨_, rfl⟩)
      (fun _ _ _ _ => updateStored_ok (fun _ => rfl) (fun _ => noCascade_raises) fun _ _ _ => rfl) fun _ _ => trivial
  | createKpiDefinition command =>
    exact .change keptKpis .kpi _ (SqliteProductLedger.createKpiDefinition command) keptKpis_lawful rfl
      rfl (fun _ _ => rfl) (fun _ _ => ⟨_, rfl⟩) (fun _ _ _ _ => createStored_ok fun _ => rfl) fun _ _ => trivial
  | updateKpiDefinitionDetails command =>
    exact .change keptKpis .kpi _ (SqliteProductLedger.updateKpiDefinitionDetails command) keptKpis_lawful rfl
      rfl (fun _ _ => rfl) (fun _ _ => ⟨_, rfl⟩)
      (fun _ _ _ _ => updateStored_ok (fun _ => rfl) (fun _ => raiseObservations_raises) fun _ _ _ => rfl)
      fun _ _ => trivial
  | createKpiObservation command =>
    exact .change keptObservations .observation _ (SqliteProductLedger.createKpiObservation command) keptObservations_lawful
      rfl rfl (fun _ _ => rfl) (fun _ _ => ⟨_, rfl⟩) (fun _ _ _ _ => createKpiObservation_ok) fun _ _ => trivial
  | updateKpiObservationDetails command =>
    exact .change keptObservations .observation _ (SqliteProductLedger.updateKpiObservationDetails command)
      keptObservations_lawful rfl rfl (fun _ _ => rfl) (fun _ _ => ⟨_, rfl⟩)
      (fun _ _ _ _ => updateKpiObservationDetails_ok) fun _ _ => trivial
  | prepareLowerPortfolioClassification command prepared =>
    exact .preview portfolioLowering command prepared rfl rfl rfl (fun _ _ => rfl) fun _ _ => trivial
  | prepareLowerProductClassification command prepared =>
    exact .preview productLowering command prepared rfl rfl rfl (fun _ _ => rfl) fun _ _ => trivial
  | prepareLowerRoadmapClassification command prepared =>
    exact .preview roadmapLowering command prepared rfl rfl rfl (fun _ _ => rfl) fun _ _ => trivial
  | prepareLowerKpiClassification command prepared =>
    exact .preview kpiLowering command prepared rfl rfl rfl (fun _ _ => rfl) fun _ _ => trivial
  | prepareLowerKpiObservationClassification command prepared =>
    exact .preview kpiObservationLowering command prepared rfl rfl rfl (fun _ _ => rfl) fun _ _ => trivial
  | approveAndExecuteLowerPortfolioClassification command =>
    exact .approval portfolioLowering _ _ .portfolio command portfolioLowering_lawful (fun _ _ => Answer.portfolio.inj)
      rfl rfl rfl (fun _ _ => rfl) fun _ _ => Iff.rfl
  | approveAndExecuteLowerProductClassification command =>
    exact .approval productLowering _ _ .product command productLowering_lawful (fun _ _ => Answer.product.inj)
      rfl rfl rfl (fun _ _ => rfl) fun _ _ => Iff.rfl
  | approveAndExecuteLowerRoadmapClassification command =>
    exact .approval roadmapLowering _ _ .roadmap command roadmapLowering_lawful (fun _ _ => Answer.roadmap.inj)
      rfl rfl rfl (fun _ _ => rfl) fun _ _ => Iff.rfl
  | approveAndExecuteLowerKpiClassification command =>
    exact .approval kpiLowering _ _ .kpi command kpiLowering_lawful (fun _ _ => Answer.kpi.inj)
      rfl rfl rfl (fun _ _ => rfl) fun _ _ => Iff.rfl
  | approveAndExecuteLowerKpiObservationClassification command =>
    exact .approval kpiObservationLowering _ _ .observation command kpiObservationLowering_lawful
      (fun _ _ => Answer.observation.inj) rfl rfl rfl (fun _ _ => rfl) fun _ _ => Iff.rfl

end

section
variable {before after : PortfolioTables}

theorem answering_ok {α : Type} {answer : α → Answer} {result : Except DomainError (PortfolioTables × α)}
    {given : Answer} :
    answering answer result = .ok (after, given) ↔ ∃ value, result = .ok (after, value) ∧ answer value = given := map_ok

variable [Sha256]

theorem Moves.grows {turn : Command × Arguments} (moves : Moves turn before after) : Grows before after := by
  obtain ⟨command, arguments⟩ := turn
  obtain ⟨answer, success⟩ := moves
  cases command.form with
  | change kept wrap identity calls lawful request kind operation recorded leaves always =>
    obtain ⟨outcome, success, _⟩ := answering_ok.mp ((operation arguments before).symm.trans success)
    obtain rfl | ⟨grows, _⟩ := leaves _ _ _ _ success
    · exact .refl _
    · exact grows
  | preview lowering asked prepared request kind context operation always =>
    obtain ⟨_, success, _⟩ := answering_ok.mp ((operation arguments before).symm.trans success)
    obtain ⟨_, ⟨_, _, _, rfl⟩ | ⟨grows, _⟩⟩ := prepareLowering_ok success
    · exact .refl _
    · exact grows
  | approval lowering timed timely wrap asked lawful injective request kind context operation unrevised =>
    obtain ⟨_, success, _⟩ := answering_ok.mp ((operation arguments before).symm.trans success)
    obtain ⟨_, _, _, rfl⟩ | ⟨_, _, _, executed⟩ := approveAndExecuteLowering_ok lawful success
    · exact .refl _
    · exact executed.grows

theorem Moves.run {turns : List (Command × Arguments)} (run : Evolves Moves before turns after) : Grows before after := by
  refine run.invariant (fun tables => Grows before tables) ?_ (.refl before)
  intro turn middle later moves grows
  exact grows.trans moves.grows

end

section
variable [Sha256]

/-- Issued at any time and with any new identifiers, the command gets this answer and
changes no row. -/
def Command.Answered (command : Command) (answer : Answer) (tables : PortfolioTables) : Prop :=
  ∀ arguments, Transaction.run true (fun tables => command.operation arguments tables) tables = (tables, .ok answer)

/-- Whatever it is issued with, the command fails and changes no row. -/
def Command.Refused (command : Command) (tables : PortfolioTables) : Prop :=
  ∀ arguments, ∃ failure, Transaction.run true (fun tables => command.operation arguments tables) tables =
    (tables, .error failure)

end

/-- How the Ledger deals with a command that is issued again and with others of its operation
under its key. -/
structure Settled [Sha256] (command : Command) (answer : Answer) (before later : PortfolioTables) : Prop where
  answered : command.Answered answer later ↔ command.Unrevised before later
  refused : ∀ other : Command, other.context.idempotencyId = command.context.idempotencyId →
    other.kind = command.kind → other.request ≠ command.request → other.Refused later

section
variable [Sha256] {arguments : Arguments} {before committed later : PortfolioTables}

theorem Command.answered_iff (arguments : Arguments) {command : Command} {answer again : Answer}
    (same : ∀ arguments, command.operation arguments later = .ok (later, again)) :
    command.Answered answer later ↔ again = answer :=
  Transaction.answered_iff arguments fun arguments => by simp [same arguments]

theorem Command.refused_of {command : Command}
    (fails : ∀ arguments after answer, command.operation arguments later ≠ .ok (after, answer)) :
    command.Refused later :=
  Transaction.refused_of fails

section
variable {kind : IdKind} {Record : Type}

variable {fresh : Except DomainError (PortfolioTables × MutationOutcome Record)}

variable {outcome : MutationOutcome Record} {operation : PortfolioOperation}

omit [Sha256] in
theorem CommandRecorded.told {kept : Kept kind Record} {context : OperationContext} {identity : CommandIdentity}
    (lawful : kept.Lawful)
    (recorded : CommandRecorded context operation identity (kept.result outcome.record) outcome.auditEvent later) :
    orRecorded kept context operation identity later fresh = .ok (later, outcome) := by
  obtain ⟨row, id, found, asked, result, first, told⟩ := recorded
  unfold orRecorded
  rw [found]
  refine bind_ok.mpr ⟨(), ensure_ok.mpr asked, bind_ok.mpr ⟨outcome, ?_, rfl⟩⟩
  refine bind_ok.mpr ⟨outcome.record, require_ok.mpr (result ▸ lawful.answered _), ?_⟩
  exact bind_ok.mpr ⟨id, require_ok.mpr first, bind_ok.mpr ⟨_, told context, rfl⟩⟩

variable {after : PortfolioTables} {audit : AuditEvent}

omit [Sha256] in
theorem CommandRecorded.only {kept : Kept kind Record} {context other : OperationContext}
    {identity asked : CommandIdentity} {result : ResultRecord}
    (recorded : CommandRecorded context operation identity result audit later)
    (key : other.idempotencyId = context.idempotencyId)
    (success : orRecorded kept other operation asked later fresh = .ok (after, outcome)) : asked = identity := by
  obtain ⟨row, id, found, known, _⟩ := recorded
  unfold orRecorded at success
  rw [key, found] at success
  obtain ⟨_, same, _⟩ := bind_ok.mp success
  exact (ensure_ok.mp same).symm.trans known

omit [Sha256] in
theorem claimed_own {context other : OperationContext}
    (claimed : later.idempotencyClaims.find context.idempotencyId = some ⟨context.idempotencyId, operation⟩)
    (key : other.idempotencyId = context.idempotencyId) : claimedByOtherOperation other operation later = false := by
  unfold claimedByOtherOperation
  rw [key, claimed]
  simp

variable {lowering : Lowering kind Record}

variable {command : PrepareLowerClassification (OpaqueId kind)} {row : CommandPrepareRow}

theorem PreviewRecorded.told {prepared : WorkManagementPreparedIntent}
    (recorded : PreviewRecorded lowering command prepared row later) :
    prepareLowering lowering command prepared later = .ok (later, prepared) := by
  obtain ⟨target, version, proposed, rationale⟩ := Request.preview.inj recorded.request
  refine bind_ok.mpr ⟨(), ensure_ok.mpr (claimed_own recorded.claimed rfl), ?_⟩
  have found : (later.commandPrepares.find command.context.idempotencyId).filter
      (fun row => row.target.aggregateType = lowering.kept.aggregateType) = some row :=
    Option.filter_eq_some_iff.mpr ⟨recorded.found, decide_eq_true (congrArg RecordKey.aggregateType target)⟩
  rw [found]
  exact bind_ok.mpr ⟨(), ensure_ok.mpr ⟨target, version, proposed, rationale, recorded.resultReference, recorded.pending⟩,
    rfl⟩

theorem PreviewRecorded.only {kind' : IdKind} {Record' : Type} {other : Lowering kind' Record'}
    {prepared asked answer : WorkManagementPreparedIntent} {again : PrepareLowerClassification (OpaqueId kind')}
    (recorded : PreviewRecorded lowering command prepared row later)
    (key : again.context.idempotencyId = command.context.idempotencyId)
    (success : prepareLowering other again asked later = .ok (after, answer)) :
    other.previewRequest again = lowering.previewRequest command := by
  obtain ⟨_, ⟨row', found, request, _⟩ | ⟨_, unclaimed, _⟩⟩ := prepareLowering_ok success
  · cases (key ▸ found).symm.trans recorded.found
    exact request.symm.trans recorded.request
  · cases (key ▸ unclaimed).symm.trans recorded.claimed

variable {timely : UtcTimestamp → PreparedIntentRow → Prop} {id : OpaqueId kind}

theorem ApprovalRecorded.only {kind' : IdKind} {Record' : Type} {other : Lowering kind' Record'}
    {timed : UtcTimestamp → Record' → Prop} {command again : ApproveAndExecuteLowerClassification}
    {row : CommandExecuteRow} {outcome : MutationOutcome Record'} (lawful : other.Lawful timed timely)
    (recorded : ApprovalRecorded command (lowering.kept.key id) audit row later)
    (key : again.context.idempotencyId = command.context.idempotencyId)
    (success : approveAndExecuteLowering other again arguments later = .ok (after, outcome)) :
    other.approvalRequest again = lowering.approvalRequest command := by
  obtain ⟨row', found, request, _⟩ | ⟨_, _, _, executed⟩ := approveAndExecuteLowering_ok lawful success
  · cases (key ▸ found).symm.trans recorded.found
    refine request.symm.trans ((Request.approval.injEq ..).mpr ⟨?_, recorded.preparedId, ?_, recorded.acknowledgedDigest⟩)
    · exact congrArg RecordKey.aggregateType recorded.target
    · exact recorded.actor.trans command.approval.authorized.symm
  · cases (key ▸ executed.unclaimed).symm.trans recorded.claimed

theorem ApprovalRecorded.told {command : ApproveAndExecuteLowerClassification} {row : CommandExecuteRow}
    {registered : RegistryRow} {standing : RecordRow} {record : Record}
    (recorded : ApprovalRecorded command (lowering.kept.key id) audit row later)
    (bound : command.approval.idempotencyId = command.context.idempotencyId)
    (stands : later.standing (lowering.kept.key id) = some (registered, standing))
    (read : lowering.kept.record registered standing = some record) :
    approveAndExecuteLowering lowering command arguments later = .ok (later, ⟨record, audit⟩) := by
  refine bind_ok.mpr ⟨(), ensure_ok.mpr (claimed_own recorded.claimed rfl), ?_⟩
  have found : (later.commandExecutes.find command.context.idempotencyId).filter
      (fun row => row.target.aggregateType = lowering.kept.aggregateType) = some row :=
    Option.filter_eq_some_iff.mpr ⟨recorded.found, decide_eq_true (congrArg RecordKey.aggregateType recorded.target)⟩
  rw [found]
  refine bind_ok.mpr ⟨(), ensure_ok.mpr ⟨recorded.preparedId, ?_, recorded.acknowledgedDigest, bound⟩, ?_⟩
  · exact recorded.actor.trans command.approval.authorized.symm
  · refine bind_ok.mpr ⟨⟨record, audit⟩, ?_, rfl⟩
    refine bind_ok.mpr ⟨(registered, standing), require_ok.mpr (recorded.target ▸ stands), ?_⟩
    exact bind_ok.mpr ⟨record, require_ok.mpr read, bind_ok.mpr ⟨audit, recorded.audited _, rfl⟩⟩

theorem Executed.told {timed : UtcTimestamp → Record → Prop} {command : ApproveAndExecuteLowerClassification}
    {intent : PreparedIntentRow} (lawful : lowering.Lawful timed timely)
    (executed : Executed lowering timely command outcome row intent id before committed) (grows : Grows committed later) :
    ∃ record, (∀ arguments,
        approveAndExecuteLowering lowering command arguments later = .ok (later, ⟨record, outcome.auditEvent⟩)) ∧
      (record = outcome.record ↔ lowering.Unrevised timely command.approval.preparedId before later) := by
  obtain ⟨approval, approved⟩ := executed.approved
  obtain ⟨registered, lowered, written, first, rises, stands, versioned, told⟩ := executed.standing
  obtain ⟨present, standing, stands', _, changed⟩ := grows.advances _ _ _ stands
  obtain ⟨aggregate, kept⟩ := standing_some.mp stands'
  obtain ⟨record, read⟩ := lawful.kept.read present standing id (Relation.find_key kept)
  refine ⟨record, fun _ => (approved.grows grows).told executed.bound stands' read, ?_⟩
  -- The versions tell whether it is still the record that the lowering left.
  have same_version : present.version = lowered.version → present = lowered ∧ standing = written := fun same => by
    obtain unchanged | later := changed
    · exact unchanged
    · exact absurd (same ▸ later) (lt_irrefl _)
  constructor
  · intro same row' intent' id' registered' present' previewed first' aggregate'
    cases executed.previewed.symm.trans previewed
    cases first.symm.trans first'
    cases aggregate.symm.trans aggregate'
    have version := (lawful.kept.versioned _ _ _ read).symm.trans ((congrArg _ same).trans versioned)
    obtain ⟨rfl, rfl⟩ := same_version version
    exact ⟨rises, told.mp (same ▸ read)⟩
  · intro unrevised
    obtain ⟨next, timely⟩ := unrevised _ _ _ _ _ executed.previewed first aggregate
    obtain ⟨rfl, rfl⟩ := same_version (Option.some.inj (next.symm.trans rises))
    exact Option.some.inj (read.symm.trans (told.mpr timely))

end

theorem Command.retold {command : Command} {answer : Answer}
    (success : command.operation arguments before = .ok (committed, answer)) (wrote : committed ≠ before)
    (grows : Grows committed later) : command.Answered answer later ↔ command.Unrevised before later := by
  cases command.form with
  | change kept wrap identity calls lawful request kind operation recorded leaves always =>
    obtain ⟨outcome, first, rfl⟩ := answering_ok.mp ((operation arguments before).symm.trans success)
    obtain same | ⟨_, row⟩ := leaves _ _ _ _ first
    · exact absurd same wrote
    refine (Command.answered_iff arguments fun again => ?_).trans (iff_of_true rfl (always before later))
    obtain ⟨fresh, same⟩ := recorded again later
    have told := same.trans ((row.grows grows).told lawful)
    exact (operation again later).trans (answering_ok.mpr ⟨outcome, told, rfl⟩)
  | preview lowering asked prepared request kind context operation always =>
    obtain ⟨_, first, rfl⟩ := answering_ok.mp ((operation arguments before).symm.trans success)
    obtain ⟨rfl, ⟨_, _, _, same⟩ | ⟨_, _, row, previewed⟩⟩ := prepareLowering_ok first
    · exact absurd same wrote
    refine (Command.answered_iff arguments fun again => ?_).trans (iff_of_true rfl (always before later))
    exact (operation again later).trans (answering_ok.mpr ⟨_, (previewed.grows grows).told, rfl⟩)
  | approval lowering timed timely wrap asked lawful injective request kind context operation unrevised =>
    obtain ⟨outcome, first, rfl⟩ := answering_ok.mp ((operation arguments before).symm.trans success)
    obtain ⟨_, _, _, same⟩ | ⟨_, _, _, executed⟩ := approveAndExecuteLowering_ok lawful first
    · exact absurd same wrote
    obtain ⟨record, told, same⟩ := executed.told lawful grows
    refine (Command.answered_iff arguments fun again =>
      (operation again later).trans (answering_ok.mpr ⟨_, told again, rfl⟩)).trans ?_
    rw [unrevised, ← same]
    constructor
    · intro equal
      exact congrArg MutationOutcome.record (injective equal)
    · intro equal
      rw [equal]

theorem Command.sole {command other : Command} {answer given : Answer} {again : Arguments} {after : PortfolioTables}
    (success : command.operation arguments before = .ok (committed, answer)) (wrote : committed ≠ before)
    (grows : Grows committed later) (key : other.context.idempotencyId = command.context.idempotencyId)
    (alike : other.kind = command.kind) (another : other.operation again later = .ok (after, given)) :
    other.request = command.request := by
  cases command.form with
  | change kept wrap identity calls lawful request kind operation recorded leaves always =>
    obtain ⟨outcome, first, rfl⟩ := answering_ok.mp ((operation arguments before).symm.trans success)
    obtain same | ⟨_, row⟩ := leaves _ _ _ _ first
    · exact absurd same wrote
    cases other.form with
    | change kept' wrap' identity' calls' lawful' request' kind' operation' recorded' leaves' always' =>
      obtain ⟨_, second, _⟩ := answering_ok.mp ((operation' again later).symm.trans another)
      obtain ⟨fresh, same⟩ := recorded' again later
      rw [alike] at same
      rw [request, request', (row.grows grows).only key (same.symm.trans second)]
    | preview lowering' asked' prepared' request' kind' context' operation' always' =>
      rw [← alike, kind'] at kind
      cases kind
    | approval lowering' timed' timely' wrap' asked' lawful' injective' request' kind' context' operation' unrevised' =>
      rw [← alike, kind'] at kind
      cases kind
  | preview lowering asked prepared request kind context operation always =>
    obtain ⟨_, first, rfl⟩ := answering_ok.mp ((operation arguments before).symm.trans success)
    obtain ⟨rfl, ⟨_, _, _, same⟩ | ⟨_, _, row, previewed⟩⟩ := prepareLowering_ok first
    · exact absurd same wrote
    cases other.form with
    | change kept' wrap' identity' calls' lawful' request' kind' operation' recorded' leaves' always' =>
      rw [alike, kind] at kind'
      cases kind'
    | preview lowering' asked' prepared' request' kind' context' operation' always' =>
      obtain ⟨_, second, _⟩ := answering_ok.mp ((operation' again later).symm.trans another)
      rw [request, request']
      exact (previewed.grows grows).only (context' ▸ context ▸ key) second
    | approval lowering' timed' timely' wrap' asked' lawful' injective' request' kind' context' operation' unrevised' =>
      rw [alike, kind] at kind'
      cases kind'
  | approval lowering timed timely wrap asked lawful injective request kind context operation unrevised =>
    obtain ⟨outcome, first, rfl⟩ := answering_ok.mp ((operation arguments before).symm.trans success)
    obtain ⟨_, _, _, same⟩ | ⟨_, _, _, executed⟩ := approveAndExecuteLowering_ok lawful first
    · exact absurd same wrote
    cases other.form with
    | change kept' wrap' identity' calls' lawful' request' kind' operation' recorded' leaves' always' =>
      rw [alike, kind] at kind'
      cases kind'
    | preview lowering' asked' prepared' request' kind' context' operation' always' =>
      rw [alike, kind] at kind'
      cases kind'
    | approval lowering' timed' timely' wrap' asked' lawful' injective' request' kind' context' operation' unrevised' =>
      obtain ⟨_, second, _⟩ := answering_ok.mp ((operation' again later).symm.trans another)
      obtain ⟨_, approved⟩ := executed.approved
      rw [request, request']
      exact (approved.grows grows).only lawful' (context' ▸ context ▸ key) second

/-- However the Ledger goes on after a command that committed, the command is answered as it was at
first just unless it lowered a record that was revised since, and whatever else of its operation is
issued under its key fails. -/
theorem portfolio_retried {command : Command} {answer : Answer} {following : List (Command × Arguments)}
    (success : command.operation arguments before = .ok (committed, answer)) (wrote : committed ≠ before)
    (onwards : Evolves Moves committed following later) : Settled command answer before later where
  answered := Command.retold success wrote (Moves.run onwards)
  refused := fun _ key alike differs => Command.refused_of fun _ _ _ another =>
    differs (Command.sole success wrote (Moves.run onwards) key alike another)

end

def Command.after [Sha256] (command : Command) (arguments : Arguments) (tables : PortfolioTables) : PortfolioTables :=
  (Transaction.run true (fun tables => command.operation arguments tables) tables).1

theorem Command.after_ok [Sha256] (command : Command) (arguments : Arguments) (tables : PortfolioTables)
    (succeeds : (command.operation arguments tables).isOk = true) :
    ∃ answer, command.operation arguments tables = .ok (command.after arguments tables, answer) :=
  @run_success _ _ _ (fun tables => command.operation arguments tables) tables succeeds

theorem ledger_differs {tables other : PortfolioTables} (revised : tables.ledgerRevision ≠ other.ledgerRevision) :
    tables ≠ other := fun same => revised (congrArg PortfolioTables.ledgerRevision same)

theorem Lowering.revised_of_any {kind : IdKind} {Record : Type} (lowering : Lowering kind Record)
    (timely : UtcTimestamp → PreparedIntentRow → Prop) {preparedId : PreparedIntentId} {before later : PortfolioTables}
    (any : ((previewOf lowering before preparedId).any fun (_, _, id) =>
      (before.aggregate (lowering.kept.key id)).any fun registered =>
        (later.aggregate (lowering.kept.key id)).any fun present =>
          registered.version.next ≠ some present.version) = true) :
    ¬ lowering.Unrevised timely preparedId before later := by
  intro unrevised
  obtain ⟨⟨row, intent, id⟩, previewed, any⟩ := (Option.any_eq_true _ _).mp any
  obtain ⟨registered, first, any⟩ := (Option.any_eq_true _ _).mp any
  obtain ⟨present, aggregate, differs⟩ := (Option.any_eq_true _ _).mp any
  exact of_decide_eq_true differs (unrevised row intent id registered present previewed first aggregate).1

namespace Revising

scoped instance : Sha256 where
  finalize _ := ⟨"5d2fbbb07c6e3a2cdd6a1f1b0c1df2f3a7cf0ffb0a0ee9f0d6f6a1a6d8f7c411", .refl true⟩

def instant (seconds : UInt8) : UtcTimestamp := ⟨seconds.toNat, UtcTimestamp.byte_lower seconds, UtcTimestamp.byte_upper seconds⟩

def portfolio : PortfolioId := ⟨"portfolio-1", by decide⟩

def context (idempotencyId : IdempotencyId) : OperationContext := ⟨⟨"correlation-1", .refl true⟩, idempotencyId⟩

def arguments (auditEventId : AuditEventId) (occurredAt : UtcTimestamp) : Arguments :=
  ⟨fun _ => auditEventId, ⟨"receipt-1", .refl true⟩, occurredAt⟩

def creating : Command := .createPortfolio
  ⟨portfolio, ⟨"Suite", .refl true⟩, ⟨"All products.", .refl true⟩, some .restricted, .userEntered,
    context ⟨"create-1", .refl true⟩⟩

def preview : WorkManagementPreparedIntent :=
  (WorkManagementPreparedIntent.prepare ⟨"intent-1", .refl true⟩
    (.lowerPortfolioClassification portfolio .initial .restricted .internal ⟨"Published.", .refl true⟩) .restricted none
    (instant 20)).toOption.get (by decide +kernel)

def preparing : Command := .prepareLowerPortfolioClassification
  ⟨portfolio, .initial, .internal, ⟨"Published.", .refl true⟩, context ⟨"prepare-1", .refl true⟩⟩ preview

def approving : Command := .approveAndExecuteLowerPortfolioClassification
  ⟨⟨preview.id, .headOfProducts, preview.payloadDigest, ⟨"execute-1", .refl true⟩, rfl⟩,
    context ⟨"execute-1", .refl true⟩⟩

def updating : Command := .updatePortfolioDetails
  ⟨portfolio, ⟨2, by decide, by decide⟩, ⟨"Suite", .refl true⟩, ⟨"Renamed.", .refl true⟩, none,
    context ⟨"update-1", .refl true⟩⟩

def created : PortfolioTables := creating.after (arguments ⟨"audit-1", .refl true⟩ (instant 10)) .empty
def previewed : PortfolioTables := preparing.after (arguments ⟨"audit-2", .refl true⟩ (instant 20)) created
def lowered : PortfolioTables := approving.after (arguments ⟨"audit-3", .refl true⟩ (instant 30)) previewed
def updated : PortfolioTables := updating.after (arguments ⟨"audit-4", .refl true⟩ (instant 40)) lowered

end Revising

open Revising

/-- A Portfolio is told as it was created, also after it was lowered and updated. -/
theorem portfolio_retold : ∃ answer,
    creating.operation (arguments ⟨"audit-1", by decide⟩ (instant 10)) PortfolioTables.empty = .ok (created, answer) ∧
      creating.Answered answer updated := by
  obtain ⟨answer, success⟩ := Command.after_ok creating (arguments ⟨"audit-1", by decide⟩ (instant 10)) .empty
    (by decide +kernel)
  have prepare := Command.after_ok preparing (arguments ⟨"audit-2", by decide⟩ (instant 20)) created (by decide +kernel)
  have approve := Command.after_ok approving (arguments ⟨"audit-3", by decide⟩ (instant 30)) previewed (by decide +kernel)
  have update := Command.after_ok updating (arguments ⟨"audit-4", by decide⟩ (instant 40)) lowered (by decide +kernel)
  have onwards : Evolves Moves created [(preparing, arguments ⟨"audit-2", by decide⟩ (instant 20)),
      (approving, arguments ⟨"audit-3", by decide⟩ (instant 30)),
      (updating, arguments ⟨"audit-4", by decide⟩ (instant 40))] updated := .move _ (.move _ (.move _ .start prepare) approve) update
  exact ⟨answer, success, (portfolio_retried success (ledger_differs (by decide +kernel)) onwards).answered.mpr trivial⟩

/-- The lowering of a Portfolio that was updated since is told with the updated Portfolio. -/
theorem lowering_forgotten : ∃ answer, approving.operation (arguments ⟨"audit-3", by decide⟩ (instant 30)) previewed =
      .ok (lowered, answer) ∧
    Evolves Moves lowered [(updating, arguments ⟨"audit-4", by decide⟩ (instant 40))] updated ∧
    ¬ approving.Answered answer updated := by
  obtain ⟨answer, approve⟩ := Command.after_ok approving (arguments ⟨"audit-3", by decide⟩ (instant 30)) previewed
    (by decide +kernel)
  have update : Moves (updating, arguments ⟨"audit-4", by decide⟩ (instant 40)) lowered updated :=
    Command.after_ok updating (arguments ⟨"audit-4", by decide⟩ (instant 40)) lowered (by decide +kernel)
  refine ⟨answer, approve, .move _ .start update, fun answered => ?_⟩
  have unrevised := (Command.retold approve (ledger_differs (by decide +kernel)) update.grows).mp answered
  exact portfolioLowering.revised_of_any (fun _ _ => True) (by decide +kernel) unrevised

end MissionControl.Portfolio

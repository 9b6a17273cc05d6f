import MissionControl.Delivery.Executions

/-! A Delivery command issued again. It is answered from the rows of its first attempt,
which do not keep the Milestones that an update of a Project raised. -/

namespace MissionControl.Delivery
open Checked Run Transaction

def Command.kind : Command → DeliveryOperation
  | .createInitiative _ => .createInitiative
  | .updateInitiative _ => .updateInitiative
  | .createProject _ => .createProject
  | .updateProject _ => .updateProject
  | .createMilestone _ => .createMilestone
  | .updateMilestone _ => .updateMilestone
  | .prepareLowerInitiativeClassification _ _ | .prepareLowerProjectClassification _ _
  | .prepareLowerMilestoneClassification _ _ => .prepareLowerClassification
  | .approveAndExecuteLowerInitiativeClassification _ | .approveAndExecuteLowerProjectClassification _
  | .approveAndExecuteLowerMilestoneClassification _ => .executeLowerClassification

def Command.within (context : OperationContext) : Command → Command
  | .createInitiative command => .createInitiative { command with context }
  | .updateInitiative command => .updateInitiative { command with context }
  | .createProject command => .createProject { command with context }
  | .updateProject command => .updateProject { command with context }
  | .createMilestone command => .createMilestone { command with context }
  | .updateMilestone command => .updateMilestone { command with context }
  | .prepareLowerInitiativeClassification command prepared => .prepareLowerInitiativeClassification { command with context } prepared
  | .prepareLowerProjectClassification command prepared => .prepareLowerProjectClassification { command with context } prepared
  | .prepareLowerMilestoneClassification command prepared => .prepareLowerMilestoneClassification { command with context } prepared
  | .approveAndExecuteLowerInitiativeClassification command => .approveAndExecuteLowerInitiativeClassification { command with context }
  | .approveAndExecuteLowerProjectClassification command => .approveAndExecuteLowerProjectClassification { command with context }
  | .approveAndExecuteLowerMilestoneClassification command => .approveAndExecuteLowerMilestoneClassification { command with context }

inductive Command.OnlyProvenance : Command → Command → Prop where
  | updateInitiative {command other : UpdateInitiative}
      (same : { other with context := command.context, provenance := command.provenance } = command) :
      OnlyProvenance (.updateInitiative command) (.updateInitiative other)
  | updateProject {command other : UpdateProject}
      (same : { other with context := command.context, provenance := command.provenance } = command) :
      OnlyProvenance (.updateProject command) (.updateProject other)
  | updateMilestone {command other : UpdateMilestone}
      (same : { other with context := command.context, provenance := command.provenance } = command) :
      OnlyProvenance (.updateMilestone command) (.updateMilestone other)

/-- The command raises Milestones besides the record it names. -/
def Command.Raises (tables : DeliveryTables) : Command → Prop
  | .updateProject command => command.Raises tables
  | _ => False

def Command.Commits : Command → Prop
  | .prepareLowerInitiativeClassification _ _ | .prepareLowerProjectClassification _ _
  | .prepareLowerMilestoneClassification _ _ => False
  | _ => True

inductive Leaves (operation : DeliveryOperation) (id : IdempotencyId) (before after : DeliveryTables) : Prop where
  | wrote (row : CommandResultRow) (audits : List AuditEvent) (kind : row.operation = operation)
      (key : row.idempotencyId = id) (wrote : Wrote row audits before after)
  | executed (row : CommandExecuteRow) (audit : AuditEvent) (kind : operation = .executeLowerClassification)
      (key : row.idempotencyId = id) (executed : Executed row audit before after)
  | previewed (kind : operation = .prepareLowerClassification) (previewed : Previewed id before after)

/-- What a later state still holds of what was kept of commands. -/
structure Grows (before after : DeliveryTables) : Prop where
  results : ∀ key row, before.commandResults.find key = some row → after.commandResults.find key = some row
  executes : ∀ id row, before.commandExecutes.find id = some row → after.commandExecutes.find id = some row
  claims : ∀ id row, before.idempotencyClaims.find id = some row → after.idempotencyClaims.find id = some row
  audits : KeepsAudits before after

/-- The key of every create and update is claimed for it. -/
def Claimed (tables : DeliveryTables) : Prop :=
  ∀ operation id row, tables.commandResults.find (operation, id) = some row →
    tables.idempotencyClaims.find id = some ⟨id, operation⟩

section
variable {before after : DeliveryTables} {operation : DeliveryOperation} {id : IdempotencyId}

theorem Grows.refl (tables : DeliveryTables) : Grows tables tables :=
  ⟨fun _ _ found => found, fun _ _ found => found, fun _ _ found => found, fun _ _ found => found⟩

theorem Grows.trans {first middle last : DeliveryTables} (one : Grows first middle) (two : Grows middle last) :
    Grows first last where
  results := fun key row found => two.results key row (one.results key row found)
  executes := fun id row found => two.executes id row (one.executes id row found)
  claims := fun id row found => two.claims id row (one.claims id row found)
  audits := fun id row found => two.audits id row (one.audits id row found)

theorem Leaves.grows (leaves : Leaves operation id before after) : Grows before after := by
  cases leaves with
  | wrote row audits _ _ wrote =>
    exact ⟨fun _ _ => Relation.find_insert_kept wrote.recorded, fun _ _ found => wrote.executes ▸ found,
      fun _ _ => Relation.find_insert_kept wrote.claimed, wrote.kept⟩
  | executed row audit _ _ executed =>
    exact ⟨fun _ _ found => executed.results ▸ found, fun _ _ => Relation.find_insert_kept executed.recorded,
      fun _ _ => Relation.find_insert_kept executed.claimed, executed.kept⟩
  | previewed _ previewed =>
    exact ⟨fun _ _ found => previewed.results ▸ found, fun _ _ found => previewed.executes ▸ found,
      fun _ _ => Relation.find_insert_kept previewed.claimed, fun _ _ found => previewed.audits ▸ found⟩

theorem Leaves.claimed (leaves : Leaves operation id before after) (claimed : Claimed before) : Claimed after := by
  have grows := leaves.grows
  cases leaves with
  | wrote row audits _ _ wrote =>
    intro operation' id' row' found
    rw [Relation.find_insert wrote.recorded] at found
    split at found
    next same =>
      cases same
      exact Relation.find_inserted wrote.claimed
    next => exact grows.claims _ _ (claimed _ _ _ found)
  | executed row audit _ _ executed =>
    intro operation' id' row' found
    rw [executed.results] at found
    exact grows.claims _ _ (claimed _ _ _ found)
  | previewed _ previewed =>
    intro operation' id' row' found
    rw [previewed.results] at found
    exact grows.claims _ _ (claimed _ _ _ found)

theorem Leaves.unclaimed (leaves : Leaves operation id before after) : before.idempotencyClaims.find id = none := by
  cases leaves with
  | wrote row audits _ key wrote => exact key ▸ Relation.insert_fresh wrote.claimed
  | executed row audit _ key executed => exact key ▸ Relation.insert_fresh executed.claimed
  | previewed _ previewed => exact Relation.insert_fresh previewed.claimed

theorem empty_claimed : Claimed .empty := by
  intro operation id row found
  cases found

theorem own_claim {context : OperationContext} {claim : IdempotencyClaimRow}
    (unclaimed : claimedByOtherOperation context operation before = false)
    (found : before.idempotencyClaims.find context.idempotencyId = some claim) : claim.operation = operation := by
  unfold claimedByOtherOperation at unclaimed
  rw [found] at unclaimed
  simpa using unclaimed

end

section
variable {arguments : Arguments} {before after : DeliveryTables}

theorem answering_ok {α : Type} {answer : α → Answer} {result : Except DomainError (DeliveryTables × α)} {given : Answer} :
    answering answer result = .ok (after, given) ↔ ∃ value, result = .ok (after, value) ∧ answer value = given := map_ok

structure Done (operation : DeliveryOperation) (id : IdempotencyId) (before after : DeliveryTables) : Prop where
  own : ∀ claim, before.idempotencyClaims.find id = some claim → claim.operation = operation
  left : after = before ∨ Leaves operation id before after

theorem recorded_done {operation : DeliveryOperation} {context : OperationContext} (claimed : Claimed before)
    (ways : ((∃ row, before.commandResults.find (operation, context.idempotencyId) = some row) ∧ after = before) ∨
      ∃ (row : CommandResultRow) (audits : List AuditEvent), row.operation = operation ∧
        row.idempotencyId = context.idempotencyId ∧ Wrote row audits before after) :
    Done operation context.idempotencyId before after := by
  obtain ⟨⟨row, found⟩, same⟩ | ⟨row, audits, kind, key, wrote⟩ := ways
  · refine ⟨fun claim there => ?_, .inl same⟩
    cases there.symm.trans (claimed _ _ _ found)
    rfl
  · have leaves : Leaves operation context.idempotencyId before after := .wrote row audits kind key wrote
    refine ⟨fun claim there => ?_, .inr leaves⟩
    cases there.symm.trans leaves.unclaimed

variable [Sha256] {Id Record : Type} [LinearOrder Id]

theorem executed_done {stored : StoredFamily Id Record} {command : ApproveAndExecuteLowerClassification}
    {outcome : DeliveryMutationOutcome Record} (kind : stored.family.Stored)
    (plain : ∀ context now id service, stored.seed context now id before = .ok service → service.state.Unapproved)
    (success : approveAndExecuteLowering stored command arguments before = .ok (after, outcome)) :
    Done .executeLowerClassification command.context.idempotencyId before after := by
  obtain ⟨unclaimed, same | ⟨_, _, row, audit, tells, executed, _⟩⟩ := approveAndExecuteLowering_ok kind plain success
  · exact ⟨fun _ => own_claim unclaimed, .inl same⟩
  · exact ⟨fun _ => own_claim unclaimed, .inr (.executed row audit rfl tells.idempotencyId executed)⟩

theorem previewed_done {stored : StoredFamily Id Record} {command : PrepareLowerClassification Id}
    {prepared answer : WorkManagementPreparedIntent}
    (success : prepareLowering stored command prepared before = .ok (after, answer)) :
    Done .prepareLowerClassification command.context.idempotencyId before after := by
  obtain ⟨unclaimed, left⟩ := prepareLowering_ok success
  exact ⟨fun _ => own_claim unclaimed, left.imp_right (.previewed rfl)⟩

theorem Command.done {command : Command} {answer : Answer} (claimed : Claimed before)
    (success : command.operation arguments before = .ok (after, answer)) :
    Done command.kind command.context.idempotencyId before after := by
  cases command with
  | createInitiative command =>
    obtain ⟨_, success, _⟩ := answering_ok.mp success
    exact recorded_done claimed ((createInitiative_ok success).imp_right fun ⟨row, audit, tells, wrote, _⟩ =>
      ⟨row, [audit], tells.operation, tells.idempotencyId, wrote⟩)
  | updateInitiative command =>
    obtain ⟨_, success, _⟩ := answering_ok.mp success
    exact recorded_done claimed ((updateInitiative_ok success).imp_right fun ⟨row, audit, tells, wrote, _⟩ =>
      ⟨row, [audit], tells.operation, tells.idempotencyId, wrote⟩)
  | createProject command =>
    obtain ⟨_, success, _⟩ := answering_ok.mp success
    exact recorded_done claimed ((createProject_ok success).imp_right fun ⟨row, audit, tells, wrote, _⟩ =>
      ⟨row, [audit], tells.operation, tells.idempotencyId, wrote⟩)
  | updateProject command =>
    obtain ⟨_, success, _⟩ := answering_ok.mp success
    exact recorded_done claimed ((updateProject_ok success).imp_right fun ⟨row, _, tells, wrote, _⟩ =>
      ⟨row, _, tells.operation, tells.idempotencyId, wrote⟩)
  | createMilestone command =>
    obtain ⟨_, success, _⟩ := answering_ok.mp success
    exact recorded_done claimed ((createMilestone_ok success).imp_right fun ⟨row, audit, tells, wrote, _⟩ =>
      ⟨row, [audit], tells.operation, tells.idempotencyId, wrote⟩)
  | updateMilestone command =>
    obtain ⟨_, success, _⟩ := answering_ok.mp success
    exact recorded_done claimed ((updateMilestone_ok success).imp_right fun ⟨row, audit, tells, wrote, _⟩ =>
      ⟨row, [audit], tells.operation, tells.idempotencyId, wrote⟩)
  | prepareLowerInitiativeClassification command prepared | prepareLowerProjectClassification command prepared
  | prepareLowerMilestoneClassification command prepared =>
    obtain ⟨_, success, _⟩ := answering_ok.mp success
    exact previewed_done success
  | approveAndExecuteLowerInitiativeClassification command =>
    obtain ⟨_, success, _⟩ := answering_ok.mp success
    exact executed_done initiatives_stored (fun _ _ _ _ => seedInitiative_unapproved) success
  | approveAndExecuteLowerProjectClassification command =>
    obtain ⟨_, success, _⟩ := answering_ok.mp success
    exact executed_done projects_stored (fun _ _ _ _ => seedProject_unapproved) success
  | approveAndExecuteLowerMilestoneClassification command =>
    obtain ⟨_, success, _⟩ := answering_ok.mp success
    exact executed_done milestones_stored (fun _ _ _ _ => seedMilestone_unapproved) success

theorem Moves.keeps {turn : Command × Arguments} (moves : Moves turn before after) (claimed : Claimed before) :
    Grows before after ∧ Claimed after := by
  obtain ⟨answer, success⟩ := moves
  obtain rfl | leaves := (Command.done claimed success).left
  · exact ⟨.refl _, claimed⟩
  · exact ⟨leaves.grows, leaves.claimed claimed⟩

theorem Moves.run {turns : List (Command × Arguments)} (run : Evolves Moves before turns after) (claimed : Claimed before) :
    Grows before after ∧ Claimed after := by
  apply run.invariant fun tables => Grows before tables ∧ Claimed tables
  · intro turn middle later moves ⟨grows, claimed⟩
    obtain ⟨grows', claimed'⟩ := moves.keeps claimed
    exact ⟨grows.trans grows', claimed'⟩
  · exact ⟨.refl before, claimed⟩

end

section
variable [Sha256]

/-- Issued at any time and with any new identifiers, the command gets this answer and
changes no row. -/
def Command.Answered (command : Command) (answer : Answer) (tables : DeliveryTables) : Prop :=
  ∀ arguments, Transaction.run true (fun tables => command.operation arguments tables) tables = (tables, .ok answer)

/-- Whatever it is issued with, the command fails and changes no row. -/
def Command.Refused (command : Command) (tables : DeliveryTables) : Prop :=
  ∀ arguments, ∃ failure, Transaction.run true (fun tables => command.operation arguments tables) tables =
    (tables, .error failure)

end

/-- How the Ledger deals with a command that is issued again and with others under its key. -/
structure Settled [Sha256] (command : Command) (answer : Answer) (before later : DeliveryTables) : Prop where
  answered : command.Answered answer later ↔ ¬ command.Raises before
  refused : ∀ other : Command, other.context.idempotencyId = command.context.idempotencyId →
    other.within command.context ≠ command → (other.Refused later ↔ ¬ command.OnlyProvenance other)

section
variable [Sha256] {arguments : Arguments} {before committed later : DeliveryTables}

theorem Command.answered_iff (arguments : Arguments) {command : Command} {answer again : Answer}
    (same : ∀ arguments, command.operation arguments later = .ok (later, again)) :
    command.Answered answer later ↔ again = answer :=
  Transaction.answered_iff arguments fun arguments => by simp [same arguments]

theorem Command.refused_of {command : Command} {error : DomainError}
    (refused : ∀ arguments, command.operation arguments later = .error error) : command.Refused later :=
  fun arguments => ⟨_, run_error.mpr (refused arguments)⟩

theorem Command.refused_claimed {command : Command} {claim : IdempotencyClaimRow} (claimed : Claimed later)
    (found : later.idempotencyClaims.find command.context.idempotencyId = some claim)
    (different : claim.operation ≠ command.kind) : command.Refused later := by
  intro arguments
  obtain refused | ⟨after, answer, success, _⟩ := run_cases true (fun tables => command.operation arguments tables) later
  · exact refused
  · exact absurd ((Command.done claimed success).own claim found) different

omit [Sha256] in
theorem answering_error {α : Type} {answer : α → Answer} {result : Except DomainError (DeliveryTables × α)} {error : DomainError}
    (refused : result = .error error) : answering answer result = .error error :=
  map_error refused

theorem settled_of (arguments : Arguments) {command : Command} {answer again : Answer} (claimed : Claimed later)
    (found : later.idempotencyClaims.find command.context.idempotencyId =
      some ⟨command.context.idempotencyId, command.kind⟩)
    (same : ∀ arguments, command.operation arguments later = .ok (later, again))
    (raises : again = answer ↔ ¬ command.Raises before)
    (others : ∀ other : Command, other.context.idempotencyId = command.context.idempotencyId →
      other.kind = command.kind → other.within command.context ≠ command →
      (other.Refused later ↔ ¬ command.OnlyProvenance other)) : Settled command answer before later where
  answered := (Command.answered_iff arguments same).trans raises
  refused := by
    intro other key differs
    by_cases kind : other.kind = command.kind
    · exact others other key kind differs
    · refine iff_of_true (Command.refused_claimed claimed (key ▸ found) (Ne.symm kind)) fun only => kind ?_
      cases only <;> rfl

variable {row : CommandResultRow}

omit [Sha256] in
theorem orRecorded_found {Record : Type} {context : OperationContext} {operation : DeliveryOperation}
    {agrees : CommandIdentity → Bool} {decode : CommandResultRow → Except DomainError (DeliveryMutationOutcome Record)}
    {fresh : Except DomainError (DeliveryTables × DeliveryMutationOutcome Record)}
    {outcome : DeliveryMutationOutcome Record}
    (found : later.commandResults.find (operation, context.idempotencyId) = some row) (told : decode row = .ok outcome) :
    orRecorded context operation agrees decode later fresh =
      if agrees row.command = true then .ok (later, outcome) else .error (idempotencyConflict context) := by
  unfold orRecorded
  rw [found]
  dsimp only
  rw [ensure_bind Iff.rfl, told]
  rfl

omit [Sha256] in
theorem Wrote.stands {audits : List AuditEvent} {context : OperationContext} {operation : DeliveryOperation}
    {command : CommandIdentity} {result : StoredResult} {ids : List AuditEventId}
    (wrote : Wrote row audits before committed) (tells : row.Tells context operation command result ids)
    (grows : Grows committed later) :
    later.commandResults.find (operation, context.idempotencyId) = some row ∧
      later.idempotencyClaims.find context.idempotencyId = some ⟨context.idempotencyId, operation⟩ ∧
      ∀ other, row.auditEventIds.mapM (decodeDeliveryAudit other later) = .ok audits := by
  refine ⟨grows.results _ _ (wrote.found tells), grows.claims _ _ ?_, fun other => ?_⟩
  · rw [← tells.operation, ← tells.idempotencyId]
    exact Relation.find_inserted wrote.claimed
  · exact decodeDeliveryAudits_kept other grows.audits (wrote.audited other)

theorem recorded_settled (arguments : Arguments) {Own Record : Type} (wrap : Own → Command) {command : Own}
    {answer : Answer} {tell : DeliveryMutationOutcome Record → Answer} {told : DeliveryMutationOutcome Record}
    (agrees : Own → CommandIdentity → Bool)
    (decode : OperationContext → CommandResultRow → Except DomainError (DeliveryMutationOutcome Record))
    {fresh : Own → Arguments → Except DomainError (DeliveryTables × DeliveryMutationOutcome Record)}
    (performs : ∀ own again, (wrap own).operation again later = answering tell
      (orRecorded (wrap own).context (wrap command).kind (agrees own) (decode (wrap own).context) later (fresh own again)))
    (family : ∀ other : Command, other.kind = (wrap command).kind → ∃ own, other = wrap own) (claimed : Claimed later)
    (found : later.commandResults.find ((wrap command).kind, (wrap command).context.idempotencyId) = some row)
    (claim : later.idempotencyClaims.find (wrap command).context.idempotencyId =
      some ⟨(wrap command).context.idempotencyId, (wrap command).kind⟩)
    (decodes : ∀ context, decode context row = .ok told) (raises : tell told = answer ↔ ¬ (wrap command).Raises before)
    (itself : agrees command row.command = true)
    (only : ∀ own, (wrap own).within (wrap command).context ≠ wrap command →
      (agrees own row.command = true ↔ (wrap command).OnlyProvenance (wrap own))) :
    Settled (wrap command) answer before later := by
  have reissued (own : Own) (again : Arguments)
      (key : (wrap own).context.idempotencyId = (wrap command).context.idempotencyId) :
      (wrap own).operation again later =
        if agrees own row.command = true then .ok (later, tell told) else .error (idempotencyConflict (wrap own).context) := by
    rw [performs, orRecorded_found (key ▸ found) (decodes _)]
    split <;> rfl
  refine settled_of arguments claimed claim (fun again => (reissued command again rfl).trans (if_pos itself)) raises
    fun other key kind differs => ?_
  obtain ⟨own, rfl⟩ := family other kind
  rw [← only own differs]
  constructor
  · intro refused agreed
    obtain ⟨_, failed⟩ := refused arguments
    cases failed.symm.trans (run_ok.mpr ((reissued own arguments key).trans (if_pos agreed)))
  · exact fun distinct => Command.refused_of fun again => (reissued own again key).trans (if_neg distinct)

omit [Sha256] in
theorem CreateInitiative.identity_eq {command other : CreateInitiative} :
    command.identity = other.identity ↔ { other with context := command.context } = command := by
  constructor
  · intro same
    obtain ⟨_⟩ := command
    obtain ⟨_⟩ := other
    cases same
    rfl
  · intro same
    rw [← same]
    rfl

omit [Sha256] in
theorem UpdateInitiative.agrees_iff {command other : UpdateInitiative} : other.agrees command.identity = true ↔
    { other with context := command.context, provenance := command.provenance } = command := by
  constructor
  · intro same
    obtain ⟨_⟩ := command
    obtain ⟨_⟩ := other
    simp only [UpdateInitiative.agrees, UpdateInitiative.identity, Bool.and_eq_true, decide_eq_true_eq] at same
    simp only [same]
  · intro same
    rw [← same]
    simp [UpdateInitiative.agrees, UpdateInitiative.identity]

omit [Sha256] in
theorem CreateProject.identity_eq {command other : CreateProject} :
    command.identity = other.identity ↔ { other with context := command.context } = command := by
  constructor
  · intro same
    obtain ⟨_⟩ := command
    obtain ⟨_⟩ := other
    cases same
    rfl
  · intro same
    rw [← same]
    rfl

omit [Sha256] in
theorem UpdateProject.agrees_iff {command other : UpdateProject} : other.agrees command.identity = true ↔
    { other with context := command.context, provenance := command.provenance } = command := by
  constructor
  · intro same
    obtain ⟨_⟩ := command
    obtain ⟨_⟩ := other
    simp only [UpdateProject.agrees, UpdateProject.identity, Bool.and_eq_true, decide_eq_true_eq] at same
    simp only [same]
  · intro same
    rw [← same]
    simp [UpdateProject.agrees, UpdateProject.identity]

omit [Sha256] in
theorem CreateMilestone.identity_eq {command other : CreateMilestone} :
    command.identity = other.identity ↔ { other with context := command.context } = command := by
  constructor
  · intro same
    obtain ⟨_⟩ := command
    obtain ⟨_⟩ := other
    cases same
    rfl
  · intro same
    rw [← same]
    rfl

omit [Sha256] in
theorem UpdateMilestone.agrees_iff {command other : UpdateMilestone} : other.agrees command.identity = true ↔
    { other with context := command.context, provenance := command.provenance } = command := by
  constructor
  · intro same
    obtain ⟨_⟩ := command
    obtain ⟨_⟩ := other
    simp only [UpdateMilestone.agrees, UpdateMilestone.identity, Bool.and_eq_true, decide_eq_true_eq] at same
    simp only [same]
  · intro same
    rw [← same]
    simp [UpdateMilestone.agrees, UpdateMilestone.identity]

variable {outcome : DeliveryMutationOutcome Initiative}

theorem createInitiative_settled {command : CreateInitiative}
    (success : SqliteProductLedger.createInitiative command arguments before = .ok (committed, outcome))
    (wrote : committed ≠ before) (grows : Grows committed later) (claimed : Claimed later) :
    Settled (.createInitiative command) (.initiative outcome) before later := by
  obtain ⟨_, same⟩ | ⟨row, audit, tells, wrote, told⟩ := createInitiative_ok success
  · exact absurd same wrote
  obtain ⟨found, claim, audited⟩ := wrote.stands tells grows
  refine recorded_settled arguments Command.createInitiative (fun own recorded => decide (recorded = own.identity))
    (decodeDeliveryInitiativeOutcome · later) (fun _ _ => rfl) ?_ claimed found claim
    (fun context => decodeDeliveryInitiativeOutcome_ok tells.result tells.auditEventIds (audited context))
    (iff_of_true (congrArg _ told.symm) id) ?_ fun own differs => iff_of_false (fun same => differs ?_) fun only => by cases only
  · intro other kind
    cases other with
    | createInitiative own => exact ⟨own, rfl⟩
    | _ => cases kind
  · exact decide_eq_true tells.command
  · exact congrArg Command.createInitiative (CreateInitiative.identity_eq.mp (tells.command.symm.trans (of_decide_eq_true same)))

theorem updateInitiative_settled {command : UpdateInitiative}
    (success : SqliteProductLedger.updateInitiative command arguments before = .ok (committed, outcome))
    (wrote : committed ≠ before) (grows : Grows committed later) (claimed : Claimed later) :
    Settled (.updateInitiative command) (.initiative outcome) before later := by
  obtain ⟨_, same⟩ | ⟨row, audit, tells, wrote, told⟩ := updateInitiative_ok success
  · exact absurd same wrote
  obtain ⟨found, claim, audited⟩ := wrote.stands tells grows
  refine recorded_settled arguments Command.updateInitiative UpdateInitiative.agrees
    (decodeDeliveryInitiativeOutcome · later) (fun _ _ => rfl) ?_ claimed found claim (fun context => decodeDeliveryInitiativeOutcome_ok tells.result tells.auditEventIds (audited context)) (iff_of_true (congrArg _ told.symm) id)
    (tells.command ▸ UpdateInitiative.agrees_iff.mpr rfl) fun own _ => ?_
  · intro other kind
    cases other with
    | updateInitiative own => exact ⟨own, rfl⟩
    | _ => cases kind
  · rw [tells.command, UpdateInitiative.agrees_iff]
    exact ⟨.updateInitiative, fun | .updateInitiative same => same⟩

theorem createProject_settled {command : CreateProject} {outcome : DeliveryMutationOutcome Project}
    (success : SqliteProductLedger.createProject command arguments before = .ok (committed, outcome))
    (wrote : committed ≠ before) (grows : Grows committed later) (claimed : Claimed later) :
    Settled (.createProject command) (.project outcome) before later := by
  obtain ⟨_, same⟩ | ⟨row, audit, tells, wrote, told⟩ := createProject_ok success
  · exact absurd same wrote
  obtain ⟨found, claim, audited⟩ := wrote.stands tells grows
  refine recorded_settled arguments Command.createProject (fun own recorded => decide (recorded = own.identity))
    (decodeDeliveryProjectOutcome · later) (fun _ _ => rfl) ?_ claimed found claim
    (fun context => decodeDeliveryProjectOutcome_ok tells.result (audited context))
    (iff_of_true (congrArg _ told.symm) id) ?_ fun own differs => iff_of_false (fun same => differs ?_) fun only => by cases only
  · intro other kind
    cases other with
    | createProject own => exact ⟨own, rfl⟩
    | _ => cases kind
  · exact decide_eq_true tells.command
  · exact congrArg Command.createProject (CreateProject.identity_eq.mp (tells.command.symm.trans (of_decide_eq_true same)))

theorem updateProject_settled {command : UpdateProject} {outcome : DeliveryMutationOutcome Project}
    (success : SqliteProductLedger.updateProject command arguments before = .ok (committed, outcome))
    (wrote : committed ≠ before) (grows : Grows committed later) (claimed : Claimed later) :
    Settled (.updateProject command) (.project outcome) before later := by
  obtain ⟨_, same⟩ | ⟨row, ids, tells, wrote, raises⟩ := updateProject_ok success
  · exact absurd same wrote
  obtain ⟨found, claim, audited⟩ := wrote.stands tells grows
  -- the row does not say which Milestones were raised
  refine recorded_settled arguments Command.updateProject UpdateProject.agrees
    (decodeDeliveryProjectOutcome · later) (fun _ _ => rfl) ?_ claimed found claim (fun context => decodeDeliveryProjectOutcome_ok tells.result (audited context)) (.trans ?_ raises)
    (tells.command ▸ UpdateProject.agrees_iff.mpr rfl) fun own _ => ?_
  · intro other kind
    cases other with
    | updateProject own => exact ⟨own, rfl⟩
    | _ => cases kind
  · obtain ⟨_, _, _⟩ := outcome
    simp [eq_comm]
  · rw [tells.command, UpdateProject.agrees_iff]
    exact ⟨.updateProject, fun | .updateProject same => same⟩

theorem createMilestone_settled {command : CreateMilestone} {outcome : DeliveryMutationOutcome Milestone}
    (success : SqliteProductLedger.createMilestone command arguments before = .ok (committed, outcome))
    (wrote : committed ≠ before) (grows : Grows committed later) (claimed : Claimed later) :
    Settled (.createMilestone command) (.milestone outcome) before later := by
  obtain ⟨_, same⟩ | ⟨row, audit, tells, wrote, told⟩ := createMilestone_ok success
  · exact absurd same wrote
  obtain ⟨found, claim, audited⟩ := wrote.stands tells grows
  refine recorded_settled arguments Command.createMilestone (fun own recorded => decide (recorded = own.identity))
    (decodeDeliveryMilestoneOutcome · later) (fun _ _ => rfl) ?_ claimed found claim
    (fun context => decodeDeliveryMilestoneOutcome_ok tells.result tells.auditEventIds (audited context))
    (iff_of_true (congrArg _ told.symm) id) ?_ fun own differs => iff_of_false (fun same => differs ?_) fun only => by cases only
  · intro other kind
    cases other with
    | createMilestone own => exact ⟨own, rfl⟩
    | _ => cases kind
  · exact decide_eq_true tells.command
  · exact congrArg Command.createMilestone (CreateMilestone.identity_eq.mp (tells.command.symm.trans (of_decide_eq_true same)))

theorem updateMilestone_settled {command : UpdateMilestone} {outcome : DeliveryMutationOutcome Milestone}
    (success : SqliteProductLedger.updateMilestone command arguments before = .ok (committed, outcome))
    (wrote : committed ≠ before) (grows : Grows committed later) (claimed : Claimed later) :
    Settled (.updateMilestone command) (.milestone outcome) before later := by
  obtain ⟨_, same⟩ | ⟨row, audit, tells, wrote, told⟩ := updateMilestone_ok success
  · exact absurd same wrote
  obtain ⟨found, claim, audited⟩ := wrote.stands tells grows
  refine recorded_settled arguments Command.updateMilestone UpdateMilestone.agrees
    (decodeDeliveryMilestoneOutcome · later) (fun _ _ => rfl) ?_ claimed found claim (fun context => decodeDeliveryMilestoneOutcome_ok tells.result tells.auditEventIds (audited context)) (iff_of_true (congrArg _ told.symm) id)
    (tells.command ▸ UpdateMilestone.agrees_iff.mpr rfl) fun own _ => ?_
  · intro other kind
    cases other with
    | updateMilestone own => exact ⟨own, rfl⟩
    | _ => cases kind
  · rw [tells.command, UpdateMilestone.agrees_iff]
    exact ⟨.updateMilestone, fun | .updateMilestone same => same⟩

section
variable {Id Record : Type} [LinearOrder Id] {stored : StoredFamily Id Record}

variable {command : ApproveAndExecuteLowerClassification}

theorem approveAndExecuteLowering_found {row : CommandExecuteRow} {audit : AuditEvent} {record : Record}
    (again : Arguments) (kind : stored.family.Stored)
    (claim : later.idempotencyClaims.find command.context.idempotencyId =
      some ⟨command.context.idempotencyId, .executeLowerClassification⟩)
    (found : later.commandExecutes.find command.context.idempotencyId = some row)
    (answers : row.result = stored.family.result record)
    (told : ∀ other, decodeDeliveryAudit other later row.auditEventId = .ok audit) :
    approveAndExecuteLowering stored command again later =
      if row.preparedId = command.approval.preparedId ∧ row.actor = command.approval.actor ∧
          row.acknowledgedDigest = command.approval.acknowledgedPayloadDigest ∧
          command.approval.idempotencyId = command.context.idempotencyId then .ok (later, ⟨record, [audit], []⟩)
      else .error (idempotencyConflict command.context) := by
  have unclaimed : claimedByOtherOperation command.context .executeLowerClassification later = false := by
    unfold claimedByOtherOperation
    rw [claim]
    simp
  unfold approveAndExecuteLowering
  dsimp only
  rw [unclaimed, ensure_bind (iff_of_true rfl trivial), if_pos trivial, found]
  dsimp only
  rw [ensure_bind Iff.rfl, told, answers, kind.answered]
  rfl

theorem approveAndExecuteLowering_other {row : CommandExecuteRow} (again : Arguments)
    (found : later.commandExecutes.find command.context.idempotencyId = some row)
    (another : stored.family.result? row.result = none) :
    ∃ error, approveAndExecuteLowering stored command again later = .error error := by
  cases attempted : approveAndExecuteLowering stored command again later with
  | error error => exact ⟨error, rfl⟩
  | ok committed =>
    obtain ⟨_, _, success⟩ := bind_ok.mp attempted
    rw [found] at success
    obtain ⟨_, _, success⟩ := bind_ok.mp success
    obtain ⟨_, _, success⟩ := bind_ok.mp success
    obtain ⟨_, told, _⟩ := bind_ok.mp success
    rw [another] at told
    cases told

omit [Sha256] in
theorem approval_eq {one other : WorkManagementApproval} (prepared : one.preparedId = other.preparedId)
    (actor : one.actor = other.actor) (digest : one.acknowledgedPayloadDigest = other.acknowledgedPayloadDigest)
    (key : one.idempotencyId = other.idempotencyId) : one = other := by
  obtain ⟨_, _, _, _, _⟩ := one
  obtain ⟨_, _, _, _, _⟩ := other
  cases prepared
  cases actor
  cases digest
  cases key
  rfl

theorem executed_stands {outcome : DeliveryMutationOutcome Record} (kind : stored.family.Stored)
    (plain : ∀ context now id service, stored.seed context now id before = .ok service → service.state.Unapproved)
    (success : approveAndExecuteLowering stored command arguments before = .ok (committed, outcome))
    (wrote : committed ≠ before) (grows : Grows committed later) :
    later.idempotencyClaims.find command.context.idempotencyId =
        some ⟨command.context.idempotencyId, .executeLowerClassification⟩ ∧
      (∃ row, later.commandExecutes.find command.context.idempotencyId = some row ∧
        row.result = stored.family.result outcome.record) ∧
      (∀ again, approveAndExecuteLowering stored command again later = .ok (later, outcome)) ∧
      ∀ other again, other.context.idempotencyId = command.context.idempotencyId → other.approval ≠ command.approval →
        approveAndExecuteLowering stored other again later = .error (idempotencyConflict other.context) := by
  obtain ⟨_, same | ⟨bound, actor, row, audit, tells, executed, told⟩⟩ := approveAndExecuteLowering_ok kind plain success
  · exact absurd same wrote
  have found : later.commandExecutes.find command.context.idempotencyId = some row :=
    tells.idempotencyId ▸ grows.executes _ _ (Relation.find_inserted executed.recorded)
  have claim : later.idempotencyClaims.find command.context.idempotencyId =
      some ⟨command.context.idempotencyId, .executeLowerClassification⟩ :=
    tells.idempotencyId ▸ grows.claims _ _ (Relation.find_inserted executed.claimed)
  have audited (other : OperationContext) := decodeDeliveryAudit_kept other grows.audits (executed.audited other)
  refine ⟨claim, ⟨row, found, tells.result⟩, fun again => ?_, fun other again key differs => ?_⟩
  · rw [approveAndExecuteLowering_found again kind claim found tells.result audited, told]
    exact if_pos ⟨tells.preparedId, tells.actor.trans actor.symm, tells.acknowledgedDigest, bound⟩
  · refine (approveAndExecuteLowering_found again kind (key ▸ claim) (key ▸ found) tells.result audited).trans (if_neg ?_)
    intro ⟨prepared, acting, digest, bound'⟩
    exact differs (approval_eq (prepared.symm.trans tells.preparedId) (acting.symm.trans (tells.actor.trans actor.symm))
      (digest.symm.trans tells.acknowledgedDigest) (bound'.trans (key.trans bound.symm)))

end

theorem refused_another {Id Record : Type} [LinearOrder Id] (stored : StoredFamily Id Record) {command : Command}
    {approval : ApproveAndExecuteLowerClassification} {row : CommandExecuteRow}
    (found : later.commandExecutes.find approval.context.idempotencyId = some row)
    (another : stored.family.result? row.result = none)
    (operation : ∀ arguments error, approveAndExecuteLowering stored approval arguments later = .error error →
      command.operation arguments later = .error error) : command.Refused later := by
  intro arguments
  obtain ⟨error, refused⟩ := approveAndExecuteLowering_other arguments found another
  exact ⟨_, run_error.mpr (operation arguments error refused)⟩

variable {command : ApproveAndExecuteLowerClassification}

theorem lowerInitiative_settled
    (success : SqliteProductLedger.approveAndExecuteLowerInitiativeClassification command arguments before =
      .ok (committed, outcome)) (wrote : committed ≠ before) (grows : Grows committed later) (claimed : Claimed later) :
    Settled (.approveAndExecuteLowerInitiativeClassification command) (.initiative outcome) before later := by
  obtain ⟨claim, ⟨row, found, answers⟩, again, conflicts⟩ :=
    executed_stands initiatives_stored (fun _ _ _ _ => seedInitiative_unapproved) success wrote grows
  refine settled_of arguments claimed claim (fun arguments => answering_ok.mpr ⟨outcome, again arguments, rfl⟩)
    (iff_of_true rfl id) fun other key kind differs => iff_of_true ?_ fun only => by cases only
  cases other with
  | approveAndExecuteLowerInitiativeClassification other =>
    refine Command.refused_of fun again => answering_error (conflicts other again key fun same => differs ?_)
    exact congrArg (fun approval => Command.approveAndExecuteLowerInitiativeClassification ⟨approval, command.context⟩) same
  | approveAndExecuteLowerProjectClassification other =>
    exact refused_another storedProjects (key ▸ found) (by rw [answers]; rfl) fun _ _ => answering_error
  | approveAndExecuteLowerMilestoneClassification other =>
    exact refused_another storedMilestones (key ▸ found) (by rw [answers]; rfl) fun _ _ => answering_error
  | _ => cases kind

theorem lowerProject_settled {outcome : DeliveryMutationOutcome Project}
    (success : SqliteProductLedger.approveAndExecuteLowerProjectClassification command arguments before =
      .ok (committed, outcome)) (wrote : committed ≠ before) (grows : Grows committed later) (claimed : Claimed later) :
    Settled (.approveAndExecuteLowerProjectClassification command) (.project outcome) before later := by
  obtain ⟨claim, ⟨row, found, answers⟩, again, conflicts⟩ :=
    executed_stands projects_stored (fun _ _ _ _ => seedProject_unapproved) success wrote grows
  refine settled_of arguments claimed claim (fun arguments => answering_ok.mpr ⟨outcome, again arguments, rfl⟩)
    (iff_of_true rfl id) fun other key kind differs => iff_of_true ?_ fun only => by cases only
  cases other with
  | approveAndExecuteLowerInitiativeClassification other =>
    exact refused_another storedInitiatives (key ▸ found) (by rw [answers]; rfl) fun _ _ => answering_error
  | approveAndExecuteLowerProjectClassification other =>
    refine Command.refused_of fun again => answering_error (conflicts other again key fun same => differs ?_)
    exact congrArg (fun approval => Command.approveAndExecuteLowerProjectClassification ⟨approval, command.context⟩) same
  | approveAndExecuteLowerMilestoneClassification other =>
    exact refused_another storedMilestones (key ▸ found) (by rw [answers]; rfl) fun _ _ => answering_error
  | _ => cases kind

theorem lowerMilestone_settled {outcome : DeliveryMutationOutcome Milestone}
    (success : SqliteProductLedger.approveAndExecuteLowerMilestoneClassification command arguments before =
      .ok (committed, outcome)) (wrote : committed ≠ before) (grows : Grows committed later) (claimed : Claimed later) :
    Settled (.approveAndExecuteLowerMilestoneClassification command) (.milestone outcome) before later := by
  obtain ⟨claim, ⟨row, found, answers⟩, again, conflicts⟩ :=
    executed_stands milestones_stored (fun _ _ _ _ => seedMilestone_unapproved) success wrote grows
  refine settled_of arguments claimed claim (fun arguments => answering_ok.mpr ⟨outcome, again arguments, rfl⟩)
    (iff_of_true rfl id) fun other key kind differs => iff_of_true ?_ fun only => by cases only
  cases other with
  | approveAndExecuteLowerInitiativeClassification other =>
    exact refused_another storedInitiatives (key ▸ found) (by rw [answers]; rfl) fun _ _ => answering_error
  | approveAndExecuteLowerProjectClassification other =>
    exact refused_another storedProjects (key ▸ found) (by rw [answers]; rfl) fun _ _ => answering_error
  | approveAndExecuteLowerMilestoneClassification other =>
    refine Command.refused_of fun again => answering_error (conflicts other again key fun same => differs ?_)
    exact congrArg (fun approval => Command.approveAndExecuteLowerMilestoneClassification ⟨approval, command.context⟩) same
  | _ => cases kind

/-- However the Ledger came to be as it is and however it goes on, a command that committed is answered
as it was at first just unless it raised Milestones, and whatever else is issued under its key
fails just unless it is the same update with another provenance. -/
theorem delivery_retried {command : Command} {answer : Answer} {turns following : List (Command × Arguments)}
    (past : Evolves Moves DeliveryTables.empty turns before) (commits : command.Commits)
    (success : command.operation arguments before = .ok (committed, answer)) (wrote : committed ≠ before)
    (onwards : Evolves Moves committed following later) : Settled command answer before later := by
  obtain ⟨_, claimed⟩ := Moves.run past empty_claimed
  have moved : Moves (command, arguments) before committed := ⟨answer, success⟩
  obtain ⟨_, claimed⟩ := moved.keeps claimed
  obtain ⟨grows, claimed⟩ := Moves.run onwards claimed
  cases command with
  | createInitiative command =>
    obtain ⟨outcome, first, rfl⟩ := answering_ok.mp success
    exact createInitiative_settled first wrote grows claimed
  | updateInitiative command =>
    obtain ⟨outcome, first, rfl⟩ := answering_ok.mp success
    exact updateInitiative_settled first wrote grows claimed
  | createProject command =>
    obtain ⟨outcome, first, rfl⟩ := answering_ok.mp success
    exact createProject_settled first wrote grows claimed
  | updateProject command =>
    obtain ⟨outcome, first, rfl⟩ := answering_ok.mp success
    exact updateProject_settled first wrote grows claimed
  | createMilestone command =>
    obtain ⟨outcome, first, rfl⟩ := answering_ok.mp success
    exact createMilestone_settled first wrote grows claimed
  | updateMilestone command =>
    obtain ⟨outcome, first, rfl⟩ := answering_ok.mp success
    exact updateMilestone_settled first wrote grows claimed
  | approveAndExecuteLowerInitiativeClassification command =>
    obtain ⟨outcome, first, rfl⟩ := answering_ok.mp success
    exact lowerInitiative_settled first wrote grows claimed
  | approveAndExecuteLowerProjectClassification command =>
    obtain ⟨outcome, first, rfl⟩ := answering_ok.mp success
    exact lowerProject_settled first wrote grows claimed
  | approveAndExecuteLowerMilestoneClassification command =>
    obtain ⟨outcome, first, rfl⟩ := answering_ok.mp success
    exact lowerMilestone_settled first wrote grows claimed
  | _ => cases commits

end

def Command.after [Sha256] (command : Command) (arguments : Arguments) (tables : DeliveryTables) : DeliveryTables :=
  (Transaction.run true (fun tables => command.operation arguments tables) tables).1

theorem Command.after_ok [Sha256] (command : Command) (arguments : Arguments) (tables : DeliveryTables)
    (succeeds : (command.operation arguments tables).isOk = true) :
    ∃ answer, command.operation arguments tables = .ok (command.after arguments tables, answer) := by
  unfold Command.after
  cases attempted : command.operation arguments tables with
  | error error => rw [attempted] at succeeds; cases succeeds
  | ok committed => exact ⟨committed.2, by rw [run_ok.mpr attempted]⟩

namespace Raising

scoped instance : Sha256 where
  finalize _ := ⟨"5d2fbbb07c6e3a2cdd6a1f1b0c1df2f3a7cf0ffb0a0ee9f0d6f6a1a6d8f7c411", .refl true⟩

def instant (seconds : UInt8) : UtcTimestamp := ⟨seconds.toNat, UtcTimestamp.byte_lower seconds, UtcTimestamp.byte_upper seconds⟩

def project : ProjectId := ⟨"project-1", .refl true⟩

def context (idempotencyId : IdempotencyId) : OperationContext := ⟨⟨"correlation-1", .refl true⟩, idempotencyId⟩

def arguments (auditEventId : AuditEventId) (occurredAt : UtcTimestamp) : Arguments :=
  ⟨auditEventId, fun _ => some ⟨"audit-4", .refl true⟩, ⟨"receipt-1", .refl true⟩, occurredAt⟩

def creating : Command := .createProject
  ⟨context ⟨"create-1", .refl true⟩, project, ⟨"Launch", .refl true⟩, instant 10, instant 90, some .public, .userEntered⟩

def placing : Command := .createMilestone
  ⟨context ⟨"create-2", .refl true⟩, ⟨"milestone-1", .refl true⟩, project, ⟨"Beta", .refl true⟩, ⟨"Ten users.", .refl true⟩,
    instant 50, none, .userEntered⟩

def raised (provenance : Evidence.Provenance) : UpdateProject :=
  ⟨context ⟨"update-1", .refl true⟩, project, .initial, ⟨"Launch", .refl true⟩, instant 10, instant 90, some .restricted,
    provenance⟩

def created : DeliveryTables := creating.after (arguments ⟨"audit-1", .refl true⟩ (instant 10)) .empty
def scheduled : DeliveryTables := placing.after (arguments ⟨"audit-2", .refl true⟩ (instant 20)) created
def updated : DeliveryTables :=
  (Command.updateProject (raised .userEntered)).after (arguments ⟨"audit-3", .refl true⟩ (instant 30)) scheduled

end Raising

open Delivery.Raising

theorem UpdateProject.raises_of_any {command : UpdateProject} {tables : DeliveryTables}
    (any : ((tables.project command.id).any fun (project, _) => (tables.milestonesOf command.id).any fun (milestone, _) =>
      (command.classification.getD project.classification).combine milestone.classification ≠ milestone.classification) = true) :
    command.Raises tables := by
  cases found : tables.project command.id with
  | none => rw [found] at any; cases any
  | some pair =>
    obtain ⟨project, row⟩ := pair
    rw [found] at any
    obtain ⟨one, held, raises⟩ := List.any_eq_true.mp any
    exact ⟨project, row, found, one, held, of_decide_eq_true raises⟩

theorem ledger_differs {tables other : DeliveryTables} (revised : tables.ledgerRevision ≠ other.ledgerRevision) :
    tables ≠ other := fun same => revised (congrArg DeliveryTables.ledgerRevision same)

/-- A Project is told as it was created, also after it was updated and a Milestone was raised with it. -/
theorem project_retold : ∃ answer, creating.operation (arguments ⟨"audit-1", by decide⟩ (instant 10)) DeliveryTables.empty =
    .ok (created, answer) ∧ creating.Answered answer updated := by
  obtain ⟨answer, success⟩ := Command.after_ok creating (arguments ⟨"audit-1", by decide⟩ (instant 10)) .empty
    (by decide +kernel)
  have place := Command.after_ok placing (arguments ⟨"audit-2", by decide⟩ (instant 20)) created (by decide +kernel)
  have update := Command.after_ok (.updateProject (raised .userEntered)) (arguments ⟨"audit-3", by decide⟩ (instant 30)) scheduled
    (by decide +kernel)
  have onwards : Evolves Moves created [(placing, arguments ⟨"audit-2", by decide⟩ (instant 20)),
      (.updateProject (raised .userEntered), arguments ⟨"audit-3", by decide⟩ (instant 30))] updated :=
    .move _ (.move _ .start place) update
  exact ⟨answer, success, (delivery_retried .start (by trivial) success (ledger_differs (by decide +kernel)) onwards).answered.mpr id⟩

theorem updated_claimed : Claimed updated := by
  have place := Command.after_ok placing (arguments ⟨"audit-2", by decide⟩ (instant 20)) created (by decide +kernel)
  have update := Command.after_ok (.updateProject (raised .userEntered)) (arguments ⟨"audit-3", by decide⟩ (instant 30)) scheduled
    (by decide +kernel)
  have create := Command.after_ok creating (arguments ⟨"audit-1", by decide⟩ (instant 10)) .empty (by decide +kernel)
  have onwards : Evolves Moves DeliveryTables.empty [(creating, arguments ⟨"audit-1", by decide⟩ (instant 10)),
      (placing, arguments ⟨"audit-2", by decide⟩ (instant 20)),
      (.updateProject (raised .userEntered), arguments ⟨"audit-3", by decide⟩ (instant 30))] updated :=
    .move _ (.move _ (.move _ .start create) place) update
  exact (Moves.run onwards empty_claimed).2

/-- The update that raised the Milestone is not told of it again, and with another provenance it is
not refused. -/
theorem raise_forgotten : ∃ answer, (Command.updateProject (raised .userEntered)).operation
      (arguments ⟨"audit-3", by decide⟩ (instant 30)) scheduled = .ok (updated, answer) ∧
    ¬ (Command.updateProject (raised .userEntered)).Answered answer updated ∧
    ¬ (Command.updateProject (raised (.syntheticFixture ⟨"fixture-1", by decide⟩))).Refused updated := by
  obtain ⟨answer, update⟩ := Command.after_ok (.updateProject (raised .userEntered))
    (arguments ⟨"audit-3", by decide⟩ (instant 30)) scheduled (by decide +kernel)
  obtain ⟨outcome, first, rfl⟩ := answering_ok.mp update
  have raises : (raised .userEntered).Raises scheduled := UpdateProject.raises_of_any (by decide +kernel)
  have settled := updateProject_settled first (ledger_differs (by decide +kernel)) (.refl updated) updated_claimed
  refine ⟨_, update, fun answered => settled.answered.mp answered raises, fun refused => ?_⟩
  have only : (Command.updateProject (raised .userEntered)).OnlyProvenance
      (.updateProject (raised (.syntheticFixture ⟨"fixture-1", by decide⟩))) := .updateProject rfl
  have differs : (Command.updateProject (raised (.syntheticFixture ⟨"fixture-1", by decide⟩))).within
      (Command.updateProject (raised .userEntered)).context ≠ .updateProject (raised .userEntered) := by
    intro same
    injection same with same
    cases congrArg UpdateProject.provenance same
  exact (settled.refused (.updateProject (raised (.syntheticFixture ⟨"fixture-1", by decide⟩))) rfl differs).mp refused only

end MissionControl.Delivery

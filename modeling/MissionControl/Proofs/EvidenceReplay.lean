import MissionControl.Evidence.Replay
import MissionControl.Proofs.EvidenceIdentity

/-! A command issued again. Most are answered as they were at first; an execution never is,
and a verification only until its reference is pinned. -/

namespace MissionControl.Evidence
open Checked Run Transaction

def Command.context : Command → OperationContext
  | .create command => command.context
  | .createFromReservation _ _ context _ => context
  | .link command => command.context
  | .updateVerification command => command.context
  | .relocate command => command.context
  | .pin command => command.context
  | .prepareSupersede command => command.context
  | .approveAndExecuteSupersede command => command.context

/-- The same operation asked for something else. -/
inductive Command.Differs : Command → Command → Prop where
  | create {command other : CreateEvidenceReference} (differs : { other with context := command.context } ≠ command) :
      Differs (.create command) (.create other)
  | createFromReservation {reserved reserved' : ReservedId} {observation observation' : FileObservation}
      {context context' : OperationContext} {sameName sameName' : String → String → Bool}
      (differs : (reserved', observation') ≠ (reserved, observation)) :
      Differs (.createFromReservation reserved observation context sameName)
        (.createFromReservation reserved' observation' context' sameName')
  | link {command other : LinkEvidence} (differs : { other with context := command.context } ≠ command) :
      Differs (.link command) (.link other)
  | updateVerification {command other : UpdateEvidenceVerification}
      (differs : { other with context := command.context } ≠ command) :
      Differs (.updateVerification command) (.updateVerification other)
  | relocate {command other : RelocateEvidenceReference} (differs : { other with context := command.context } ≠ command) :
      Differs (.relocate command) (.relocate other)
  | pin {command other : PinEvidenceFingerprint} (differs : { other with context := command.context } ≠ command) :
      Differs (.pin command) (.pin other)
  | prepareSupersede {command other : PrepareSupersedeEvidenceReference}
      (differs : { other with context := command.context } ≠ command) :
      Differs (.prepareSupersede command) (.prepareSupersede other)
  | approveAndExecuteSupersede {command other : ApproveAndExecuteSupersedeEvidenceReference}
      (differs : other.approval ≠ command.approval) :
      Differs (.approveAndExecuteSupersede command) (.approveAndExecuteSupersede other)

inductive Command.OnlyProvenance : Command → Command → Prop where
  | prepareSupersede {command other : PrepareSupersedeEvidenceReference}
      (same : { other with
        context := command.context
        replacementProvenance := command.replacementProvenance } = command) :
      OnlyProvenance (.prepareSupersede command) (.prepareSupersede other)

def EvidenceTables.fingerprintOf (tables : EvidenceTables) (id : EvidenceReferenceId) : Option EvidenceFingerprint :=
  (tables.current id).bind fun found => found.2.fingerprint

/-- Whether what a command found at first and what it finds now let it be answered as it was. -/
def Command.Retriable (before later : EvidenceTables) : Command → Prop
  | .updateVerification command => before.fingerprintOf command.id = none → later.fingerprintOf command.id = none
  | .approveAndExecuteSupersede _ => False
  | _ => True

section
variable [Sha256]

/-- Issued at any time and with any new identifiers, the command gets this answer and
changes no row. -/
def Command.Answered (command : Command) (answer : Answer) (tables : EvidenceTables) : Prop :=
  ∀ arguments, Transaction.run true (command.operation arguments) tables = (tables, .ok answer)

def Command.Conflicts (command : Command) (tables : EvidenceTables) : Prop :=
  ∀ arguments, Transaction.run true (command.operation arguments) tables =
    (tables, .error (.operation (idempotencyConflict command.context)))

end

/-- How the operation of a command deals with that command and with others under its key. -/
structure Settled [Sha256] (command : Command) (answer : Answer) (before later : EvidenceTables) : Prop where
  answered : command.Answered answer later ↔ command.Retriable before later
  conflicts : ∀ other : Command, other.context.idempotencyId = command.context.idempotencyId → command.Differs other →
    (other.Conflicts later ↔ ¬ command.OnlyProvenance other)

section
variable [Sha256] {arguments : Arguments} {before committed later : EvidenceTables}

theorem Command.answered_of {command : Command} {answer : Answer}
    (same : ∀ again, command.operation again later = .ok (later, answer)) : command.Answered answer later :=
  fun again => run_ok.mpr (same again)

theorem Command.conflicts_of {command : Command}
    (refused : ∀ again, command.operation again later = .error (idempotencyConflict command.context)) :
    command.Conflicts later :=
  fun again => run_error.mpr (refused again)

omit [Sha256] in
theorem answering_error {α : Type} {answer : α → Answer} {result : Except DomainError (EvidenceTables × α)} {error : DomainError}
    (refused : result = .error error) : answering answer result = .error error :=
  map_error refused

variable {outcome : MutationOutcome EvidenceReferenceRecord}

theorem creation_settled {command : CreateEvidenceReference}
    (success : createEvidenceReference command arguments before = .ok (committed, outcome)) (wrote : committed ≠ before)
    (outlives : Outlives committed later) : Settled (.create command) (.reference outcome) before later := by
  obtain ⟨_, same⟩ | ⟨_, _, _, classification, found, audited, told, _⟩ := insertEvidenceReference_ok success
  · exact absurd same wrote
  have found := outlives.grows.creations _ _ found
  have audited := outlives.grows.auditEvents _ _ (told ▸ audited)
  have reissued (other : CreateEvidenceReference) (again : Arguments)
      (key : other.context.idempotencyId = command.context.idempotencyId) :
      createEvidenceReference other again later = if { other with context := command.context } = command then
        .ok (later, outcome) else .error (idempotencyConflict other.context) := by
    refine (insertEvidenceReference_again (key ▸ found)).trans (if_congr Iff.rfl ?_ rfl)
    rw [told]
    exact bind_ok.mpr ⟨_, bind_ok.mpr ⟨_, decodeAudit_built audited, rfl⟩, rfl⟩
  constructor
  · refine iff_of_true (Command.answered_of fun again => ?_) trivial
    exact answering_ok.mpr ⟨_, (reissued command again rfl).trans (if_pos rfl), rfl⟩
  · intro other key differs
    cases differs with
    | create differs =>
      refine iff_of_true (Command.conflicts_of fun again => ?_) nofun
      exact answering_error ((reissued _ again key).trans (if_neg differs))

omit [Sha256] in
theorem reservedCommand_inj {reserved reserved' : ReservedId} {observation observation' : FileObservation}
    {context context' : OperationContext}
    (same : { reservedCommand reserved' observation' context' with context } = reservedCommand reserved observation context) :
    reserved'.id = reserved.id ∧ observation' = observation := by
  obtain ⟨_, _, _, _⟩ := observation
  obtain ⟨_, _, _, _⟩ := observation'
  simp_all [reservedCommand]

theorem reservation_settled {reserved : ReservedId} {observation : FileObservation} {context : OperationContext}
    {sameName : String → String → Bool}
    (success : createEvidenceReferenceFromReservation reserved observation context sameName arguments before =
      .ok (committed, outcome)) (wrote : committed ≠ before) (outlives : Outlives committed later) :
    Settled (.createFromReservation reserved observation context sameName) (.reference outcome) before later := by
  obtain ⟨⟨named, kind⟩, held, success⟩ := createFromReservation_ok success
  obtain ⟨_, same⟩ | ⟨_, _, grows, classification, found, audited, told, _⟩ := insertEvidenceReference_ok success
  · exact absurd same wrote
  have found := outlives.grows.creations _ _ found
  have audited := outlives.grows.auditEvents _ _ (told ▸ audited)
  have held : reservationMatches later reserved = true := by
    unfold reservationMatches at held ⊢
    split at held
    next row there =>
      rw [outlives.grows.reservations _ _ (grows.reservations _ _ there)]
      exact held
    next => cases held
  constructor
  · refine iff_of_true (Command.answered_of fun again => ?_) trivial
    refine answering_ok.mpr ⟨outcome, ?_, rfl⟩
    refine bind_ok.mpr ⟨(), ensure_ok.mpr ⟨named, kind⟩, bind_ok.mpr ⟨(), ensure_ok.mpr held, ?_⟩⟩
    refine (insertEvidenceReference_again found).trans ((if_pos rfl).trans ?_)
    rw [told]
    exact bind_ok.mpr ⟨_, bind_ok.mpr ⟨_, decodeAudit_built audited, rfl⟩, rfl⟩
  · intro other key differs
    cases differs with
    | @createFromReservation _ reserved' _ observation' _ context' _ sameName' differs =>
      refine iff_of_true (Command.conflicts_of fun again => answering_error ?_) (by rintro ⟨⟩)
      unfold createEvidenceReferenceFromReservation
      rw [ensure_bind Iff.rfl]
      split
      next bound =>
        rw [ensure_bind Iff.rfl]
        split
        · refine (insertEvidenceReference_again (key ▸ found)).trans (if_neg fun same => differs ?_)
          obtain ⟨sameId, sameObservation⟩ := reservedCommand_inj same
          obtain ⟨_, _, _⟩ := reserved
          obtain ⟨_, _, _⟩ := reserved'
          simp_all [Command.context]
        · rfl
      next => rfl

theorem link_settled {command : LinkEvidence} {outcome : MutationOutcome EvidenceLinkRecord}
    (success : linkEvidence command arguments before = .ok (committed, outcome)) (wrote : committed ≠ before)
    (outlives : Outlives committed later) : Settled (.link command) (.link outcome) before later := by
  obtain ⟨_, same⟩ | ⟨_, _, _, classification, found, audited, told⟩ := linkEvidence_ok success
  · exact absurd same wrote
  have found := outlives.grows.linkings _ _ found
  have audited := outlives.grows.auditEvents _ _ (told ▸ audited)
  have reissued (other : LinkEvidence) (again : Arguments)
      (key : other.context.idempotencyId = command.context.idempotencyId) :
      linkEvidence other again later = if { other with context := command.context } = command then
        .ok (later, outcome) else .error (idempotencyConflict other.context) := by
    refine (linkEvidence_again (key ▸ found)).trans (if_congr Iff.rfl ?_ rfl)
    rw [told]
    exact bind_ok.mpr ⟨_, bind_ok.mpr ⟨_, decodeAudit_built audited, rfl⟩, rfl⟩
  constructor
  · refine iff_of_true (Command.answered_of fun again => ?_) trivial
    exact answering_ok.mpr ⟨_, (reissued command again rfl).trans (if_pos rfl), rfl⟩
  · intro other key differs
    cases differs with
    | link differs =>
      refine iff_of_true (Command.conflicts_of fun again => ?_) nofun
      exact answering_error ((reissued _ again key).trans (if_neg differs))

theorem Revised.kept {id : EvidenceReferenceId} {correlationId : CorrelationId} {code : AuditEventCode}
    {registered : RegistryRow} {reference : EvidenceReferenceRow} {newVersion : AggregateVersion}
    {verification : EvidenceVerification} {vaultPath : VaultRelativePath} {fingerprint : Option EvidenceFingerprint}
    (revised : Revised id arguments correlationId code registered reference newVersion verification vaultPath fingerprint
      before committed outcome) (outlives : Outlives committed later) :
    (∀ pin, fingerprint = some pin → later.fingerprintOf id = some pin) ∧
      ∀ context told, told.or (later.fingerprintOf id) = fingerprint ↔
        decodeRevision context later id arguments.auditEventId vaultPath told verification newVersion = .ok outcome := by
  obtain ⟨registered', reference', found, remains⟩ := outlives.references _ _ _ revised.now
  have audited := outlives.grows.auditEvents _ _ (revised.answers ▸ revised.audited)
  have named : reference.id = id := Relation.find_key (current_some.mp revised.found).2
  have pinned : later.fingerprintOf id = reference'.fingerprint := by
    rw [EvidenceTables.fingerprintOf, found, Option.bind_some]
  constructor
  · intro pin same
    exact pinned.trans (remains.pinned pin same)
  · intro context told
    rw [decodeRevision_found found audited, revised.answers, pinned]
    simp [recordOf, remains.classification, remains.createdAt, remains.provenance, named]

theorem verification_settled {command : UpdateEvidenceVerification}
    (success : updateEvidenceVerification command arguments before = .ok (committed, outcome))
    (wrote : committed ≠ before) (outlives : Outlives committed later) :
    Settled (.updateVerification command) (.reference outcome) before later := by
  obtain ⟨_, same⟩ | ⟨_, _, registered, reference, newVersion, found, revised, _⟩ := updateEvidenceVerification_ok success
  · exact absurd same wrote
  have found := outlives.grows.verifications _ _ found
  obtain ⟨pinned, decoded⟩ := revised.kept outlives
  have earlier : before.fingerprintOf command.id = reference.fingerprint := by
    rw [EvidenceTables.fingerprintOf, revised.found, Option.bind_some]
  -- the answer names the fingerprint its reference has by now
  have unpinned : later.fingerprintOf command.id = reference.fingerprint ↔
      (before.fingerprintOf command.id = none → later.fingerprintOf command.id = none) := by
    rw [earlier]
    cases pin : reference.fingerprint with
    | none => simp
    | some fingerprint => simp [pinned fingerprint pin]
  constructor
  · refine Iff.trans ?_ unpinned
    constructor
    · intro answered
      obtain ⟨told, again, same⟩ := answering_ok.mp (run_ok.mp (answered arguments))
      cases same
      rw [updateEvidenceVerification_again found, if_pos rfl] at again
      obtain ⟨_, told, same⟩ := bind_ok.mp again
      cases pure_ok.mp same
      exact (decoded command.context none).mpr told
    · intro same
      refine Command.answered_of fun again => ?_
      refine answering_ok.mpr ⟨outcome, (updateEvidenceVerification_again found).trans ((if_pos rfl).trans ?_), rfl⟩
      exact bind_ok.mpr ⟨outcome, (decoded command.context none).mp same, rfl⟩
  · intro other key differs
    cases differs with
    | updateVerification differs =>
      refine iff_of_true (Command.conflicts_of fun again => ?_) nofun
      exact answering_error ((updateEvidenceVerification_again (key ▸ found)).trans (if_neg differs))

theorem relocation_settled {command : RelocateEvidenceReference}
    (success : relocateEvidenceReference command arguments before = .ok (committed, outcome))
    (wrote : committed ≠ before) (outlives : Outlives committed later) :
    Settled (.relocate command) (.reference outcome) before later := by
  obtain ⟨_, same⟩ | ⟨_, _, _, reference, newVersion, found, pin, revised, _⟩ := relocateEvidenceReference_ok success
  · exact absurd same wrote
  have found := outlives.grows.relocations _ _ found
  obtain ⟨pinned, decoded⟩ := revised.kept outlives
  constructor
  · refine iff_of_true (Command.answered_of fun again => ?_) trivial
    refine answering_ok.mpr ⟨outcome, (relocateEvidenceReference_again found).trans ((if_pos rfl).trans ?_), rfl⟩
    have told := (decoded command.context none).mp ((pinned _ pin).trans pin.symm)
    exact bind_ok.mpr ⟨outcome, told, rfl⟩
  · intro other key differs
    cases differs with
    | relocate differs =>
      refine iff_of_true (Command.conflicts_of fun again => ?_) nofun
      exact answering_error ((relocateEvidenceReference_again (key ▸ found)).trans (if_neg differs))

theorem pin_settled {command : PinEvidenceFingerprint}
    (success : pinEvidenceFingerprint command arguments before = .ok (committed, outcome)) (wrote : committed ≠ before)
    (outlives : Outlives committed later) : Settled (.pin command) (.reference outcome) before later := by
  obtain ⟨_, same⟩ | ⟨_, _, _, reference, newVersion, found, revised, _⟩ := pinEvidenceFingerprint_ok success
  · exact absurd same wrote
  have found := outlives.grows.pins _ _ found
  obtain ⟨_, decoded⟩ := revised.kept outlives
  constructor
  · refine iff_of_true (Command.answered_of fun again => ?_) trivial
    refine answering_ok.mpr ⟨outcome, (pinEvidenceFingerprint_again found).trans ((if_pos rfl).trans ?_), rfl⟩
    have told := (decoded command.context (some command.observedFingerprint)).mp rfl
    exact bind_ok.mpr ⟨outcome, told, rfl⟩
  · intro other key differs
    cases differs with
    | pin differs =>
      refine iff_of_true (Command.conflicts_of fun again => ?_) nofun
      exact answering_error ((pinEvidenceFingerprint_again (key ▸ found)).trans (if_neg differs))

theorem preparation_settled {command : PrepareSupersedeEvidenceReference} {prepared : EvidenceSupersessionPreparedIntent}
    (success : prepareSupersedeEvidenceReference command arguments before = .ok (committed, prepared))
    (wrote : committed ≠ before) (outlives : Outlives committed later) :
    Settled (.prepareSupersede command) (.prepared prepared) before later := by
  obtain ⟨_, same⟩ | ⟨_, _, _, found, held⟩ := prepareSupersedeEvidenceReference_ok success
  · exact absurd same wrote
  have found := outlives.grows.preparations _ _ found
  obtain ⟨row, held, stands⟩ := outlives.intents _ _ _ held (preparedRow_prepared prepared)
  have reissued (other : PrepareSupersedeEvidenceReference) (again : Arguments)
      (key : other.context.idempotencyId = command.context.idempotencyId) :
      prepareSupersedeEvidenceReference other again later =
        if { other with
            context := command.context
            replacementProvenance := command.replacementProvenance } = command then .ok (later, prepared)
        else .error (idempotencyConflict other.context) := by
    refine (prepareSupersede_again (key ▸ found)).trans (if_congr Iff.rfl ?_ rfl)
    exact bind_ok.mpr ⟨prepared, loadPrepared_ok.mpr ⟨row, held, stands⟩, rfl⟩
  constructor
  · refine iff_of_true (Command.answered_of fun again => ?_) trivial
    exact answering_ok.mpr ⟨_, (reissued command again rfl).trans (if_pos rfl), rfl⟩
  · intro other key differs
    cases differs with
    | @prepareSupersede command other differs =>
      constructor
      · intro conflicts only
        cases only with
        | prepareSupersede same =>
          have refused := run_error.mp (conflicts arguments)
          have told : (Command.prepareSupersede other).operation arguments later = .ok (later, .prepared prepared) :=
            answering_ok.mpr ⟨prepared, (reissued other arguments key).trans (if_pos same), rfl⟩
          cases refused.symm.trans told
      · intro distinct
        refine Command.conflicts_of fun again => ?_
        exact answering_error ((reissued other again key).trans (if_neg fun same => distinct (.prepareSupersede same)))

theorem execution_settled {command : ApproveAndExecuteSupersedeEvidenceReference}
    (success : approveAndExecuteSupersedeEvidenceReference command arguments before = .ok (committed, outcome))
    (wrote : committed ≠ before) (outlives : Outlives committed later) :
    Settled (.approveAndExecuteSupersede command) (.reference outcome) before later := by
  obtain ⟨bound, ⟨_, same⟩ | ⟨_, _, _, ⟨replacementId, found⟩, allowed⟩⟩ := approveAndExecute_ok success
  · exact absurd same wrote
  have found := outlives.grows.executions _ _ found
  constructor
  · refine iff_of_false (fun answered => ?_) id
    obtain ⟨told, again, same⟩ := answering_ok.mp (run_ok.mp (answered arguments))
    cases same
    rw [approveAndExecute_again found, if_pos ⟨bound, rfl, rfl, rfl⟩] at again
    obtain ⟨_, decoded, same⟩ := bind_ok.mp again
    cases pure_ok.mp same
    obtain ⟨_, _, decoded⟩ := bind_ok.mp decoded
    obtain ⟨_, read, decoded⟩ := bind_ok.mp decoded
    cases pure_ok.mp decoded
    -- a generic event says that no policy was asked
    rw [decodeAudit_ok read] at allowed
    cases allowed
  · intro other key differs
    cases differs with
    | @approveAndExecuteSupersede command other differs =>
      refine iff_of_true (Command.conflicts_of fun again => ?_) nofun
      refine answering_error ((approveAndExecute_again (key ▸ found)).trans (if_neg ?_))
      intro ⟨bound', prepared, actor, digest⟩
      apply differs
      have own : other.approval.idempotencyId = command.approval.idempotencyId := bound'.trans (key.trans bound.symm)
      obtain ⟨⟨_, _, _, _, _⟩, _⟩ := other
      cases prepared
      cases actor
      cases digest
      cases own
      rfl

/-- However a run goes on, a command issued again gets the answer of its first attempt just
as long as it is retriable, and another one under its key a conflict unless the two differ
in the provenance of a replacement alone. -/
theorem evidence_retried {command : Command} {answer : Answer} {turns : List Turn}
    (success : command.operation arguments before = .ok (committed, answer)) (wrote : committed ≠ before)
    (onwards : Evolves Step committed turns later) : Settled command answer before later := by
  have outlives : Outlives committed later := .run onwards
  cases command with
  | create command =>
    obtain ⟨outcome, first, rfl⟩ := answering_ok.mp success
    exact creation_settled first wrote outlives
  | createFromReservation reserved observation context sameName =>
    obtain ⟨outcome, first, rfl⟩ := answering_ok.mp success
    exact reservation_settled first wrote outlives
  | link command =>
    obtain ⟨outcome, first, rfl⟩ := answering_ok.mp success
    exact link_settled first wrote outlives
  | updateVerification command =>
    obtain ⟨outcome, first, rfl⟩ := answering_ok.mp success
    exact verification_settled first wrote outlives
  | relocate command =>
    obtain ⟨outcome, first, rfl⟩ := answering_ok.mp success
    exact relocation_settled first wrote outlives
  | pin command =>
    obtain ⟨outcome, first, rfl⟩ := answering_ok.mp success
    exact pin_settled first wrote outlives
  | prepareSupersede command =>
    obtain ⟨outcome, first, rfl⟩ := answering_ok.mp success
    exact preparation_settled first wrote outlives
  | approveAndExecuteSupersede command =>
    obtain ⟨outcome, first, rfl⟩ := answering_ok.mp success
    exact execution_settled first wrote outlives

end

theorem Command.after_ok [Sha256] (command : Command) (arguments : Arguments) (tables : EvidenceTables)
    (succeeds : (command.operation arguments tables).isOk = true) :
    ∃ answer, command.operation arguments tables = .ok (command.after arguments tables, answer) :=
  run_success succeeds

open Superseding

/-- A linked reference created before a supersession of it was prepared. -/
theorem creation_retried : ∃ answer, creating.operation (arguments ⟨"audit-1", by decide⟩ (instant 10)) start =
    .ok (created, answer) ∧ creating.Answered answer prepared := by
  have onwards : Evolves Step created [turn linking ⟨"audit-2", by decide⟩ (instant 20),
      turn preparing ⟨"audit-3", by decide⟩ (instant 30)] prepared := .move _ (.move _ .start rfl) rfl
  have wrote : created ≠ start := by
    intro same
    have raised : created.ledgerRevision = start.ledgerRevision := congrArg EvidenceTables.ledgerRevision same
    revert raised
    decide +kernel
  obtain ⟨answer, success⟩ := Command.after_ok creating (arguments ⟨"audit-1", by decide⟩ (instant 10)) start
    (by decide +kernel)
  exact ⟨answer, success, (evidence_retried success wrote onwards).answered.mpr trivial⟩

/-- An execution retried at once says that no policy was asked, where it was allowed and
approved. -/
theorem execution_retold : ∃ answer, approving.operation (arguments ⟨"audit-4", by decide⟩ (instant 40)) prepared =
    .ok (executed, answer) ∧ ¬ approving.Answered answer executed := by
  have wrote : executed ≠ prepared := by
    intro same
    have raised : executed.ledgerRevision = prepared.ledgerRevision := congrArg EvidenceTables.ledgerRevision same
    revert raised
    decide +kernel
  obtain ⟨answer, success⟩ := Command.after_ok approving (arguments ⟨"audit-4", by decide⟩ (instant 40)) prepared
    (by decide +kernel)
  obtain ⟨outcome, first, rfl⟩ := answering_ok.mp success
  exact ⟨_, success, (execution_settled first wrote (.refl executed)).answered.mp⟩

end MissionControl.Evidence

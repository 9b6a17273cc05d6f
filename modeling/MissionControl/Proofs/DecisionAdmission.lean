import MissionControl.Decisions.Persistence
import MissionControl.Proofs.ActionStructure

/-! What a history admitted at a restart says about the authority it was made under: what
its previews were, that each was used once, what a lowering lowered, and when an approval
was carried out. -/

namespace MissionControl.DecisionAdmission
open Checked Staging
open Decisions

/-- The preview a command uses up. -/
def consumes : DecisionPersistenceCommand → Option PreparedIntentId
  | .executeResolve approval | .executeSupersede approval | .executeLowerClassification approval =>
    some approval.preparedId
  | .rejectPrepared preparedId _ => some preparedId
  | _ => none

def approvalOf : DecisionPersistenceCommand → Option WorkManagementApproval
  | .executeResolve approval | .executeSupersede approval | .executeLowerClassification approval => some approval
  | _ => none

def executionAudits : DecisionPersistenceResult → List AuditEvent
  | .resolved outcome => outcome.auditEvents
  | .superseded outcome => outcome.auditEvents
  | .lowered outcome => outcome.auditEvents
  | _ => []

/-- The Decisions as a capsule leaves them. -/
def decisionsOf : DecisionPersistenceResult → List DecisionRecord
  | .resolved outcome => [outcome.decision]
  | .superseded outcome => [outcome.superseded, outcome.replacement]
  | .lowered outcome => [outcome.record]
  | _ => []

def previews (capsules : List DecisionReplayCapsule) : List WorkManagementPreparedIntent :=
  capsules.filterMap (·.result.prepared?)

def used (capsules : List DecisionReplayCapsule) : List PreparedIntentId :=
  capsules.filterMap fun capsule => consumes capsule.command

abbrev Records := KeyMap DecisionId DecisionRecord

def leave (decisions : Records) (left : List DecisionRecord) : Records :=
  left.foldl (fun decisions decision => decisions.insert decision.id decision) decisions

def decisionsAfter (capsules : List DecisionReplayCapsule) : Records :=
  leave ∅ (capsules.flatMap fun capsule => decisionsOf capsule.result)

variable {decisions : Records}

theorem leave_keyed (keyed : ∀ (id : DecisionId) decision, decisions[id]? = some decision → decision.id = id)
    (left : List DecisionRecord) :
    ∀ (id : DecisionId) decision, (leave decisions left)[id]? = some decision → decision.id = id := by
  induction left generalizing decisions with
  | nil => exact keyed
  | cons first rest ih =>
    apply ih
    intro id decision held
    rw [KeyMap.get_insert] at held
    split at held
    next same => cases held; exact same
    · exact keyed id decision held

theorem decisionsAfter_keyed (capsules : List DecisionReplayCapsule) :
    ∀ (id : DecisionId) decision, (decisionsAfter capsules)[id]? = some decision → decision.id = id := by
  apply leave_keyed
  intro id decision held
  rw [KeyMap.get_empty] at held
  cases held

theorem decisionsAfter_snoc (seen : List DecisionReplayCapsule) (capsule : DecisionReplayCapsule) :
    decisionsAfter (seen ++ [capsule]) = leave (decisionsAfter seen) (decisionsOf capsule.result) := by
  simp [decisionsAfter, leave, List.foldl_append]

def Advances (before after : Records) : Prop :=
  ∀ (id : DecisionId) decision, before[id]? = some decision →
    ∃ later, after[id]? = some later ∧ (later = decision ∨ decision.version.get < later.version.get)

theorem Advances.refl (decisions : Records) : Advances decisions decisions :=
  fun _ decision held => ⟨decision, held, .inl rfl⟩

theorem Advances.added {id : DecisionId} (decision : DecisionRecord) (absent : decisions[id]? = none) :
    Advances decisions (decisions.insert id decision) := by
  intro other before held
  have different : id ≠ other := by
    rintro rfl
    cases absent.symm.trans held
  exact ⟨before, by rw [KeyMap.get_insert_other _ _ different, held], .inl rfl⟩

theorem Advances.changed {id : DecisionId} {before after : DecisionRecord} (held : decisions[id]? = some before)
    (later : before.version.get < after.version.get) : Advances decisions (decisions.insert id after) := by
  intro other stored found
  by_cases same : id = other
  · subst same
    cases held.symm.trans found
    exact ⟨after, KeyMap.get_insert_self .., .inr later⟩
  · exact ⟨stored, by rw [KeyMap.get_insert_other _ _ same, found], .inl rfl⟩

theorem Advances.trans {first second third : Records} (one : Advances first second) (other : Advances second third) :
    Advances first third := by
  intro id decision held
  obtain ⟨later, found, change⟩ := one id decision held
  obtain ⟨last, there, onwards⟩ := other id later found
  refine ⟨last, there, ?_⟩
  rcases change with rfl | change <;> rcases onwards with rfl | onwards
  · exact .inl rfl
  · exact .inr onwards
  · exact .inr change
  · exact .inr (change.trans onwards)

def Shown (decisions : Records) (intent : WorkManagementPreparedIntent) : Prop :=
  ∀ target current, loweringTarget intent.operation = some target →
    previewedClassification intent.operation = some current →
    ∃ decision, decisions[target.decisionId]? = some decision ∧ decision.version = target.decisionVersion ∧
      decision.classification = current

structure AuditsRecorded (audits : Audits) (capsule : DecisionReplayCapsule) : Prop where
  rows : ∀ audit ∈ executionAudits capsule.result,
    audits[audit.id]? = some audit ∧ audit.id ∈ capsule.auditEventIds
  named : ∀ id ∈ capsule.auditEventIds, ∃ audit ∈ executionAudits capsule.result, audit.id = id

/-- A lowering carried out: the preview it used, the Decision before it, and the record
it leaves. -/
structure LowersTo (state : Validation) (capsule : DecisionReplayCapsule) (approval : WorkManagementApproval)
    (outcome : DecisionMutationOutcome DecisionRecord) (intent : WorkManagementPreparedIntent)
    (target : LoweringTarget) (previous : DecisionRecord) : Prop where
  answer : capsule.result.lowered? = some outcome
  approved : state.preparedHistory[approval.preparedId]? = some intent
  targeted : loweringTarget intent.operation = some target
  held : state.decisionTimeline[target.decisionId]? = some previous
  current : previous.version = target.decisionVersion
  named : outcome.record.id = previous.id
  becomes : outcome.record.classification = target.proposedClassification

structure Admitted (audits : Audits) (state : Validation) (capsule : DecisionReplayCapsule) (next : Validation) :
    Prop where
  history : next.preparedHistory = match capsule.result.prepared? with
    | some intent => state.preparedHistory.insert intent.id intent
    | none => state.preparedHistory
  fresh : ∀ intent, capsule.result.prepared? = some intent →
    state.preparedHistory[intent.id]? = none ∧ Shown state.decisionTimeline intent
  consumed : next.consumedPrepared = (consumes capsule.command).toList ++ state.consumedPrepared
  known : ∀ id, consumes capsule.command = some id →
    id ∉ state.consumedPrepared ∧ ∃ intent, state.preparedHistory[id]? = some intent
  decisions : next.decisionTimeline = leave state.decisionTimeline (decisionsOf capsule.result)
  advances : Advances state.decisionTimeline next.decisionTimeline
  recorded : ∀ approval, approvalOf capsule.command = some approval → AuditsRecorded audits capsule
  lowered : ∀ approval, capsule.command = .executeLowerClassification approval →
    ∃ outcome intent target previous, LowersTo state capsule approval outcome intent target previous

variable {operation : WorkManagementOperation}

theorem resolve_no_lowering {target : ResolveTarget} (resolves : resolveTarget operation = some target) :
    loweringTarget operation = none := by
  cases operation <;> first | rfl | cases resolves

theorem supersede_no_lowering {target : SupersedeTarget} (supersedes : supersedeTarget operation = some target) :
    loweringTarget operation = none := by
  cases operation <;> first | rfl | cases supersedes

theorem lowering_shows {target : LoweringTarget} (lowering : loweringTarget operation = some target) :
    ∃ current, previewedClassification operation = some current := by
  cases operation with
  | lowerDecisionClassification _ _ current _ _ => exact ⟨current, rfl⟩
  | _ => cases lowering

section
variable {audits : Audits} {state next : Validation} {capsule : DecisionReplayCapsule}

theorem claimAudits_ok {approval : AuditApprovalOutcome} {events : List AuditEvent}
    {expected : List (String × AuditTarget)} (success : claimAudits state audits capsule approval events expected = .ok next)
    (ids : events.length = capsule.auditEventIds.length) (targets : events.length = expected.length) :
    next = { state with claimedAudits := state.claimedAudits ++ capsule.auditEventIds } ∧
      (∀ audit ∈ events, audits[audit.id]? = some audit ∧ audit.id ∈ capsule.auditEventIds) ∧
        ∀ id ∈ capsule.auditEventIds, ∃ audit ∈ events, audit.id = id := by
  simp only [claimAudits, bind_ok, ensure_ok, pure_ok] at success
  obtain ⟨_, all, rfl⟩ := success
  have each (index : Nat) (event : index < events.length) (id : index < capsule.auditEventIds.length)
      (target : index < expected.length) :
      events[index].id = capsule.auditEventIds[index] ∧ audits[events[index].id]? = some events[index] := by
    have member : ((events[index], capsule.auditEventIds[index]), expected[index]) ∈
        (events.zip capsule.auditEventIds).zip expected := by
      rw [List.mem_iff_getElem]
      exact ⟨index, by simp; omega, by simp⟩
    have recorded := all _ member
    simp only [auditRecorded, Bool.and_eq_true, decide_eq_true_eq] at recorded
    have named := recorded.1.1.1.1.1.1.1.1.1.1.1
    exact ⟨named, named ▸ recorded.1.1.1.1.1.1.1.1.1.1.2⟩
  refine ⟨rfl, ?_, ?_⟩
  · intro audit member
    obtain ⟨index, bound, rfl⟩ := List.getElem_of_mem member
    obtain ⟨named, row⟩ := each index bound (by omega) (by omega)
    exact ⟨row, named ▸ List.getElem_mem _⟩
  · intro id member
    obtain ⟨index, bound, rfl⟩ := List.getElem_of_mem member
    exact ⟨events[index], List.getElem_mem _, (each index (by omega) bound (by omega)).1⟩

variable {outcome : DecisionMutationOutcome DecisionRequestRecord}

theorem Admitted.of_request (kind : capsule.result = .request outcome) (command : consumes capsule.command = none)
    (unapproved : approvalOf capsule.command = none) (history : next.preparedHistory = state.preparedHistory)
    (consumed : next.consumedPrepared = state.consumedPrepared)
    (decisions : next.decisionTimeline = state.decisionTimeline) : Admitted audits state capsule next where
  history := by rw [kind, history]; rfl
  fresh := by
    intro intent prepared
    rw [kind] at prepared
    cases prepared
  consumed := by rw [command, consumed]; rfl
  known := by
    intro id used
    cases command.symm.trans used
  decisions := by rw [kind, decisions]; rfl
  advances := decisions ▸ Advances.refl _
  recorded := by
    intro approval given
    cases unapproved.symm.trans given
  lowered := by
    intro approval lowers
    rw [lowers] at unapproved
    cases unapproved

theorem recordRequest_ok {requestId : DecisionRequestId} {request : DecisionRequestRecord} {code : String}
    (success : recordRequest state audits capsule outcome requestId request code = .ok next) :
    next.preparedHistory = state.preparedHistory ∧ next.consumedPrepared = state.consumedPrepared ∧
      next.decisionTimeline = state.decisionTimeline := by
  simp only [recordRequest, bind_ok, ensure_ok] at success
  obtain ⟨_, _, _, counts, _, _, claimed⟩ := success
  obtain ⟨rfl, -, -⟩ := claimAudits_ok claimed (by omega) counts.2.1
  exact ⟨rfl, rfl, rfl⟩

theorem validateCreate_ok {record : DecisionRequestRecord} (command : consumes capsule.command = none)
    (unapproved : approvalOf capsule.command = none)
    (success : validateCreate state audits capsule record = .ok next) : Admitted audits state capsule next := by
  simp only [validateCreate, bind_ok, require_ok, ensure_ok] at success
  obtain ⟨outcome, answer, _, -, recorded⟩ := success
  obtain ⟨history, consumed, decisions⟩ := recordRequest_ok recorded
  exact .of_request (DecisionPersistenceResult.request_of answer) command unapproved history consumed decisions

theorem validateTransition_ok {requestId : DecisionRequestId} {expectedVersion : AggregateVersion}
    {change : DecisionRequestRecord → Option DecisionRequestRecord} {code : String}
    (command : consumes capsule.command = none) (unapproved : approvalOf capsule.command = none)
    (success : validateTransition state audits capsule requestId expectedVersion change code = .ok next) :
    Admitted audits state capsule next := by
  simp only [validateTransition, bind_ok, require_ok, ensure_ok] at success
  obtain ⟨outcome, answer, _, _, _, _, _, _, recorded⟩ := success
  obtain ⟨history, consumed, decisions⟩ := recordRequest_ok recorded
  exact .of_request (DecisionPersistenceResult.request_of answer) command unapproved history consumed decisions

variable {intent : WorkManagementPreparedIntent}

theorem recordPrepared_ok (answer : capsule.result.prepared? = some intent) (command : consumes capsule.command = none)
    (unapproved : approvalOf capsule.command = none) (shown : Shown state.decisionTimeline intent)
    (success : recordPrepared state capsule intent = .ok next) : Admitted audits state capsule next := by
  simp only [recordPrepared, bind_ok, ensure_ok, pure_ok] at success
  obtain ⟨_, ⟨-, absent⟩, rfl⟩ := success
  have kind : capsule.result = .prepared intent := DecisionPersistenceResult.prepared_of answer
  constructor
  case history => rw [answer]
  case fresh =>
    intro other prepared
    cases answer.symm.trans prepared
    exact ⟨absent, shown⟩
  case consumed => rw [command]; rfl
  case known =>
    intro id used
    cases command.symm.trans used
  case decisions => rw [kind]; rfl
  case advances => exact .refl _
  case recorded =>
    intro approval given
    cases unapproved.symm.trans given
  case lowered =>
    intro approval lowers
    rw [lowers] at unapproved
    cases unapproved

theorem validatePrepareResolve_ok {prepare : PrepareResolveDecisionRequest} (command : consumes capsule.command = none)
    (unapproved : approvalOf capsule.command = none)
    (success : validatePrepareResolve state capsule prepare = .ok next) : Admitted audits state capsule next := by
  simp only [validatePrepareResolve, bind_ok, require_ok, ensure_ok] at success
  obtain ⟨intent, answer, _, _, target, resolves, _, _, _, _, recorded⟩ := success
  refine recordPrepared_ok answer command unapproved ?_ recorded
  intro lowering _ lowers
  cases (resolve_no_lowering resolves).symm.trans lowers

theorem validatePrepareSupersede_ok {prepare : PrepareSupersedeDecision} (command : consumes capsule.command = none)
    (unapproved : approvalOf capsule.command = none)
    (success : validatePrepareSupersede state capsule prepare = .ok next) : Admitted audits state capsule next := by
  simp only [validatePrepareSupersede, bind_ok, require_ok, ensure_ok] at success
  obtain ⟨intent, answer, _, _, target, supersedes, _, _, _, _, recorded⟩ := success
  refine recordPrepared_ok answer command unapproved ?_ recorded
  intro lowering _ lowers
  cases (supersede_no_lowering supersedes).symm.trans lowers

theorem validatePrepareLower_ok {prepare : PrepareLowerDecisionClassification}
    (command : consumes capsule.command = none) (unapproved : approvalOf capsule.command = none)
    (success : validatePrepareLower state capsule prepare = .ok next) : Admitted audits state capsule next := by
  simp only [validatePrepareLower, bind_ok, require_ok, ensure_ok] at success
  obtain ⟨intent, answer, decision, held, target, lowers, _, agrees, recorded⟩ := success
  refine recordPrepared_ok answer command unapproved ?_ recorded
  intro other current again shown
  cases lowers.symm.trans again
  simp only [lowerPreviewMatches, Bool.and_eq_true, decide_eq_true_eq] at agrees
  obtain ⟨⟨⟨⟨⟨⟨version, named⟩, pinned⟩, classified⟩, -⟩, -⟩, -⟩ := agrees
  refine ⟨decision, named ▸ held, version.trans pinned.symm, ?_⟩
  cases shown.symm.trans classified
  rfl

/-- What the three executions share: the approved preview is used up, and their audits
are on record. -/
theorem Admitted.of_execution {approval : WorkManagementApproval}
    (uses : consumes capsule.command = some approval.preparedId) (unprepared : capsule.result.prepared? = none)
    (prepared : state.preparedHistory[approval.preparedId]? = some intent)
    (unused : approval.preparedId ∉ state.consumedPrepared) (history : next.preparedHistory = state.preparedHistory)
    (consumed : next.consumedPrepared = approval.preparedId :: state.consumedPrepared)
    (decisions : next.decisionTimeline = leave state.decisionTimeline (decisionsOf capsule.result))
    (advances : Advances state.decisionTimeline next.decisionTimeline) (recorded : AuditsRecorded audits capsule)
    (lowered : ∀ approval, capsule.command = .executeLowerClassification approval →
      ∃ outcome intent target previous, LowersTo state capsule approval outcome intent target previous) :
    Admitted audits state capsule next where
  history := by rw [unprepared, history]
  fresh := by
    intro other answer
    cases unprepared.symm.trans answer
  consumed := by rw [uses, consumed]; rfl
  known := by
    intro id consumes
    cases uses.symm.trans consumes
    exact ⟨unused, intent, prepared⟩
  decisions := decisions
  advances := advances
  recorded := fun _ _ => recorded
  lowered := lowered

theorem validateReject_ok {preparedId : PreparedIntentId} {actor : AuditActor}
    (command : capsule.command = .rejectPrepared preparedId actor)
    (success : validateReject state audits capsule preparedId actor = .ok next) : Admitted audits state capsule next := by
  simp only [validateReject, bind_ok, require_ok, ensure_ok, pure_ok] at success
  obtain ⟨outcome, answer, intent, prepared, _, _, _, ⟨_, _, _, _, _, unused⟩, _, _, rfl⟩ := success
  have kind : capsule.result = .rejected outcome := DecisionPersistenceResult.rejected_of answer
  constructor
  case history => rw [kind]; rfl
  case fresh =>
    intro other made
    rw [kind] at made
    cases made
  case consumed => rw [command]; rfl
  case known =>
    intro id consumes
    rw [command] at consumes
    cases consumes
    exact ⟨unused, intent, prepared⟩
  case decisions => rw [kind]; rfl
  case advances => exact .refl _
  case recorded =>
    intro approval given
    rw [command] at given
    cases given
  case lowered =>
    intro approval lowers
    cases command.symm.trans lowers

structure History (seen : List DecisionReplayCapsule) (state : Validation) : Prop where
  prepared : ∀ (id : PreparedIntentId) intent,
    state.preparedHistory[id]? = some intent ↔ intent ∈ previews seen ∧ intent.id = id
  distinct : ((previews seen).map (·.id)).Nodup
  consumed : ∀ id, id ∈ state.consumedPrepared ↔ id ∈ used seen
  once : (used seen).Nodup
  known : ∀ id ∈ used seen, ∃ intent ∈ previews seen, intent.id = id
  decisions : state.decisionTimeline = decisionsAfter seen
  pinned : ∀ intent ∈ previews seen, ∀ target current, loweringTarget intent.operation = some target →
    previewedClassification intent.operation = some current →
      ∃ decision, state.decisionTimeline[target.decisionId]? = some decision ∧
        (target.decisionVersion.get < decision.version.get ∨
          decision.version = target.decisionVersion ∧ decision.classification = current)

theorem History.empty : History [] .empty where
  prepared := by simp [Validation.empty, previews]
  distinct := List.nodup_nil
  consumed := by simp [Validation.empty, used]
  once := List.nodup_nil
  known := by simp [used]
  decisions := rfl
  pinned := by simp [previews]

theorem previews_snoc (seen : List DecisionReplayCapsule) (capsule : DecisionReplayCapsule) :
    previews (seen ++ [capsule]) = previews seen ++ capsule.result.prepared?.toList := by
  cases result : capsule.result.prepared? <;> simp [previews, result]

theorem used_snoc (seen : List DecisionReplayCapsule) (capsule : DecisionReplayCapsule) :
    used (seen ++ [capsule]) = used seen ++ (consumes capsule.command).toList := by
  cases result : consumes capsule.command <;> simp [used, result]

/-- A Decision that moved on keeps what a preview of a lowering relies on: it is past the
version shown, or as it was shown. -/
theorem pinned_after {before after : Records} (advances : Advances before after) {id : DecisionId}
    {version : AggregateVersion} {current : DataClassification}
    (pinned : ∃ decision, before[id]? = some decision ∧
      (version.get < decision.version.get ∨ decision.version = version ∧ decision.classification = current)) :
    ∃ decision, after[id]? = some decision ∧
      (version.get < decision.version.get ∨ decision.version = version ∧ decision.classification = current) := by
  obtain ⟨decision, held, place⟩ := pinned
  obtain ⟨later, found, change⟩ := advances id decision held
  refine ⟨later, found, ?_⟩
  rcases change with rfl | newer
  · exact place
  · left
    rcases place with past | ⟨same, -⟩
    · exact past.trans newer
    · rw [← same]
      exact newer

theorem History.after {seen : List DecisionReplayCapsule} (history : History seen state)
    (admitted : Admitted audits state capsule next) : History (seen ++ [capsule]) next where
  prepared := by
    intro id intent
    rw [admitted.history, previews_snoc]
    cases answer : capsule.result.prepared? with
    | none => simpa using history.prepared id intent
    | some made =>
      have absent : ∀ other ∈ previews seen, other.id ≠ made.id := by
        intro other member same
        have held := (history.prepared made.id other).mpr ⟨member, same⟩
        rw [(admitted.fresh made answer).1] at held
        cases held
      simp only [KeyMap.get_insert, Option.toList_some, List.mem_append, List.mem_singleton]
      split
      next same =>
        constructor
        · intro equal
          cases equal
          exact ⟨.inr rfl, same⟩
        · rintro ⟨member | rfl, named⟩
          · exact absurd (named.trans same.symm) (absent intent member)
          · rfl
      next different =>
        rw [history.prepared id intent]
        constructor
        · exact fun ⟨member, named⟩ => ⟨.inl member, named⟩
        · rintro ⟨member | rfl, named⟩
          · exact ⟨member, named⟩
          · exact absurd named different
  distinct := by
    rw [previews_snoc, List.map_append, List.nodup_append]
    refine ⟨history.distinct, ?_, ?_⟩
    · cases capsule.result.prepared? <;> simp
    · intro id known other made same
      subst same
      obtain ⟨intent, member, rfl⟩ := List.mem_map.mp known
      obtain ⟨fresh, answer, named⟩ := List.mem_map.mp made
      have held := (history.prepared intent.id intent).mpr ⟨member, rfl⟩
      rw [← named, (admitted.fresh fresh (Option.mem_toList.mp answer)).1] at held
      cases held
  consumed := by
    intro id
    rw [admitted.consumed, used_snoc, List.mem_append, List.mem_append, history.consumed, or_comm]
  once := by
    rw [used_snoc, List.nodup_append]
    refine ⟨history.once, ?_, ?_⟩
    · cases consumes capsule.command <;> simp
    · intro id earlier other now same
      subst same
      exact (admitted.known id (Option.mem_toList.mp now)).1 ((history.consumed id).mpr earlier)
  known := by
    intro id member
    rw [used_snoc, List.mem_append] at member
    rw [previews_snoc]
    rcases member with earlier | now
    · obtain ⟨intent, known, named⟩ := history.known id earlier
      exact ⟨intent, List.mem_append_left _ known, named⟩
    · obtain ⟨-, intent, held⟩ := admitted.known id (Option.mem_toList.mp now)
      obtain ⟨known, named⟩ := (history.prepared id intent).mp held
      exact ⟨intent, List.mem_append_left _ known, named⟩
  decisions := by rw [admitted.decisions, history.decisions, decisionsAfter_snoc]
  pinned := by
    intro intent member target current lowering shows
    apply pinned_after admitted.advances
    rw [previews_snoc, List.mem_append] at member
    rcases member with earlier | made
    · exact history.pinned intent earlier target current lowering shows
    · obtain ⟨decision, held, version, classified⟩ :=
        (admitted.fresh intent (Option.mem_toList.mp made)).2 target current lowering shows
      exact ⟨decision, held, .inr ⟨version, classified⟩⟩

end

section
variable [Sha256] {audits : Audits} {state next : Validation} {capsule : DecisionReplayCapsule}
  {approval : WorkManagementApproval}

theorem approves_unused {intent : WorkManagementPreparedIntent} (approved : approves state capsule approval intent = true) :
    approval.preparedId ∉ state.consumedPrepared := by
  simp only [approves, Bool.and_eq_true, decide_eq_true_eq] at approved
  exact approved.2

theorem validateExecuteResolve_ok (command : capsule.command = .executeResolve approval)
    (success : validateExecuteResolve state audits capsule approval = .ok next) : Admitted audits state capsule next := by
  simp only [validateExecuteResolve, bind_ok, require_ok, ensure_ok] at success
  obtain ⟨outcome, answer, intent, prepared, target, resolves, previous, held, support, _, later, _, _,
    ⟨approved, _, _, _, absent, _, made, _, events, ids, _⟩, claimed⟩ := success
  obtain ⟨rfl, rows, named⟩ := claimAudits_ok claimed (events.trans ids.symm) events
  have kind : capsule.result = .resolved outcome := DecisionPersistenceResult.resolved_of answer
  refine .of_execution (by rw [command]; rfl) (by rw [kind]; rfl) prepared
    (approves_unused approved) rfl rfl ?_ (.added _ absent) (by constructor <;> rw [kind] <;> assumption) ?_
  · simp [kind, decisionsOf, leave, made, ResolveTarget.decision]
  · intro lowering lowers
    cases command.symm.trans lowers

theorem validateExecuteSupersede_ok
    (keyed : ∀ (id : DecisionId) decision, state.decisionTimeline[id]? = some decision → decision.id = id)
    (command : capsule.command = .executeSupersede approval)
    (success : validateExecuteSupersede state audits capsule approval = .ok next) :
    Admitted audits state capsule next := by
  simp only [validateExecuteSupersede, bind_ok, require_ok, ensure_ok] at success
  obtain ⟨outcome, answer, intent, prepared, target, supersedes, version, _, previous, held, _, _, later, advanced,
    support, _, _, ⟨approved, absent, old, new, _, _, events, ids, _⟩, claimed⟩ := success
  obtain ⟨rfl, rows, each⟩ := claimAudits_ok claimed (events.trans ids.symm) events
  have kind : capsule.result = .superseded outcome := DecisionPersistenceResult.superseded_of answer
  have different : target.oldId ≠ target.newId := by
    intro same
    rw [same] at held
    cases held.symm.trans absent
  have newer : previous.version.get < (supersededRecord previous target.newId later).version.get := by
    have := AggregateVersion.next_get advanced
    simp only [supersededRecord]
    omega
  have changed : Advances state.decisionTimeline
      (state.decisionTimeline.insert target.oldId (supersededRecord previous target.newId later)) :=
    .changed held newer
  have advances := changed.trans (.added { target.replacement intent.preview.classification support with version := version }
    ((KeyMap.get_insert_other _ _ different).trans absent))
  have named := keyed target.oldId previous held
  refine .of_execution (by rw [command]; rfl) (by rw [kind]; rfl) prepared
    (approves_unused approved) rfl rfl ?_ advances (by constructor <;> rw [kind] <;> assumption) ?_
  · simp [kind, decisionsOf, leave, old, new, supersededRecord, SupersedeTarget.replacement, named]
  · intro lowering lowers
    cases command.symm.trans lowers

theorem validateExecuteLower_ok
    (keyed : ∀ (id : DecisionId) decision, state.decisionTimeline[id]? = some decision → decision.id = id)
    (command : capsule.command = .executeLowerClassification approval)
    (success : validateExecuteLower state audits capsule approval = .ok next) : Admitted audits state capsule next := by
  simp only [validateExecuteLower, bind_ok, require_ok, ensure_ok] at success
  obtain ⟨outcome, answer, intent, prepared, target, lowering, previous, held, _, current, later, advanced, _,
    ⟨approved, record, events, ids, _⟩, claimed⟩ := success
  obtain ⟨rfl, rows, named⟩ := claimAudits_ok claimed (events.trans ids.symm) events
  have kind : capsule.result = .lowered outcome := DecisionPersistenceResult.lowered_of answer
  have newer : previous.version.get < later.get := by
    have := AggregateVersion.next_get advanced
    omega
  have same := keyed target.decisionId previous held
  refine .of_execution (by rw [command]; rfl) (by rw [kind]; rfl) prepared
    (approves_unused approved) rfl rfl ?_ (.changed held newer) (by constructor <;> rw [kind] <;> assumption) ?_
  · simp [kind, decisionsOf, leave, record, same]
  · intro other lowers
    cases command.symm.trans lowers
    exact ⟨outcome, intent, target, previous, answer, prepared, lowering, held, current, by rw [record], by rw [record]⟩

theorem validateDecisionCapsule_ok
    (keyed : ∀ (id : DecisionId) decision, state.decisionTimeline[id]? = some decision → decision.id = id)
    (success : validateDecisionCapsule state audits capsule = .ok next) : Admitted audits state capsule next := by
  unfold validateDecisionCapsule at success
  split at success
  next command => exact validateCreate_ok (by rw [command]; rfl) (by rw [command]; rfl) success
  next command => exact validateTransition_ok (by rw [command]; rfl) (by rw [command]; rfl) success
  next command => exact validateTransition_ok (by rw [command]; rfl) (by rw [command]; rfl) success
  next command => exact validatePrepareResolve_ok (by rw [command]; rfl) (by rw [command]; rfl) success
  next command => exact validateReject_ok command success
  next command => exact validateExecuteResolve_ok command success
  next command => exact validatePrepareSupersede_ok (by rw [command]; rfl) (by rw [command]; rfl) success
  next command => exact validateExecuteSupersede_ok keyed command success
  next command => exact validatePrepareLower_ok (by rw [command]; rfl) (by rw [command]; rfl) success
  next command => exact validateExecuteLower_ok keyed command success

theorem validateNext_ok
    (keyed : ∀ (id : DecisionId) decision, state.decisionTimeline[id]? = some decision → decision.id = id)
    (success : validateNext audits state capsule = .ok next) : Admitted audits state capsule next := by
  simp only [validateNext, bind_ok, ensure_ok] at success
  obtain ⟨_, _, _, _, admitted⟩ := success
  have admitted := validateDecisionCapsule_ok (by exact keyed) admitted
  refine ⟨admitted.history, admitted.fresh, admitted.consumed, admitted.known, admitted.decisions, admitted.advances,
    admitted.recorded, ?_⟩
  intro approval command
  obtain ⟨outcome, intent, target, previous, lowers⟩ := admitted.lowered approval command
  exact ⟨outcome, intent, target, previous, lowers.answer, lowers.approved, lowers.targeted, lowers.held, lowers.current, lowers.named,
    lowers.becomes⟩

theorem validateAll_snoc {seen : List DecisionReplayCapsule}
    (success : validateAll audits (seen ++ [capsule]) = .ok next) :
    ∃ state, validateAll audits seen = .ok state ∧ validateNext audits state capsule = .ok next := by
  rw [validateAll, List.foldlM_append, bind_ok] at success
  obtain ⟨state, before, last⟩ := success
  refine ⟨state, before, ?_⟩
  simpa using last

variable {earlier later : List DecisionReplayCapsule}

theorem validateAll_split (success : validateAll audits (earlier ++ capsule :: later) = .ok next) :
    ∃ before after, validateAll audits earlier = .ok before ∧ validateNext audits before capsule = .ok after := by
  rw [validateAll, List.foldlM_append, bind_ok] at success
  obtain ⟨before, first, rest⟩ := success
  rw [List.foldlM_cons, bind_ok] at rest
  obtain ⟨after, step, -⟩ := rest
  exact ⟨before, after, first, step⟩

theorem history_of_validateAll {seen : List DecisionReplayCapsule} (success : validateAll audits seen = .ok state) :
    History seen state := by
  induction seen using List.reverseRecOn generalizing state with
  | nil =>
    cases success
    exact .empty
  | append_singleton seen capsule ih =>
    obtain ⟨before, first, step⟩ := validateAll_snoc success
    have history := ih first
    exact history.after (validateNext_ok (history.decisions ▸ decisionsAfter_keyed seen) step)

theorem admitted_of_split (success : validateAll audits (earlier ++ capsule :: later) = .ok state) :
    ∃ before after, History earlier before ∧ Admitted audits before capsule after := by
  obtain ⟨before, after, first, step⟩ := validateAll_split success
  have history := history_of_validateAll first
  exact ⟨before, after, history, validateNext_ok (history.decisions ▸ decisionsAfter_keyed earlier) step⟩

/-- A lowering carried out starts from what its preview shows, and ends at what its
preview proposes. -/
theorem lowered_as_shown (success : validateAll audits (earlier ++ capsule :: later) = .ok state)
    (command : capsule.command = .executeLowerClassification approval) :
    ∃ outcome, capsule.result.lowered? = some outcome ∧
      ∃ intent ∈ previews earlier, intent.id = approval.preparedId ∧
        ∃ target previous, loweringTarget intent.operation = some target ∧
          (decisionsAfter earlier)[outcome.record.id]? = some previous ∧
          previewedClassification intent.operation = some previous.classification ∧
          outcome.record.classification = target.proposedClassification := by
  obtain ⟨before, after, history, admitted⟩ := admitted_of_split success
  obtain ⟨outcome, intent, target, previous, lowers⟩ := admitted.lowered approval command
  obtain ⟨known, named⟩ := (history.prepared _ _).mp lowers.approved
  obtain ⟨current, shows⟩ := lowering_shows lowers.targeted
  obtain ⟨decision, held, place⟩ := history.pinned intent known target current lowers.targeted shows
  cases lowers.held.symm.trans held
  have there := lowers.held
  rw [history.decisions] at there
  have keyed : previous.id = target.decisionId := decisionsAfter_keyed earlier _ _ there
  refine ⟨outcome, lowers.answer, intent, known, named, target, previous, lowers.targeted, ?_, ?_, lowers.becomes⟩
  · rw [lowers.named, keyed, there]
  · rcases place with past | ⟨-, same⟩
    · rw [lowers.current] at past
      exact absurd past (Nat.lt_irrefl _)
    · rw [shows, same]

end

section

/-- What a service made from a snapshot may rely on, of the authority it inherits. -/
structure Governed [Sha256] (snapshot : DecisionPersistenceSnapshot) : Prop where
  pending : ∀ (id : PreparedIntentId) intent, (rehydrate snapshot).state.prepared[id]? = some intent →
    intent.id = id ∧ intent ∈ previews snapshot.replay
  once : (used snapshot.replay).Nodup
  lowers : ∀ earlier capsule later approval, snapshot.replay = earlier ++ capsule :: later →
    capsule.command = .executeLowerClassification approval →
      ∃ outcome previous, capsule.result.lowered? = some outcome ∧
        (decisionsAfter earlier)[outcome.record.id]? = some previous ∧
        Actions.isGenuineLowering previous.classification outcome.record.classification
  timely : ∀ capsule ∈ snapshot.replay, ∀ approval, approvalOf capsule.command = some approval →
    ∀ intent ∈ previews snapshot.replay, intent.id = approval.preparedId →
      ∀ audit ∈ executionAudits capsule.result, audit.occurredAt < intent.preview.expiresAt

def ShowsLowering (operation : WorkManagementOperation) : Prop :=
  ∀ current target, previewedClassification operation = some current → loweringTarget operation = some target →
    Actions.isGenuineLowering current target.proposedClassification

/-- What the checks leave to the rows: the pending rows are the previews made and not used,
the lowerings approved were shown as lowerings, and the audit rows of an approval are
dated before its preview expired. -/
structure HonoursPreviews (input : DecisionPersistenceSnapshot) : Prop where
  pending : input.prepared.Perm ((previews input.replay).filter fun intent => intent.id ∉ used input.replay)
  lowerings : ∀ capsule ∈ input.replay, ∀ approval, capsule.command = .executeLowerClassification approval →
    ∀ intent ∈ previews input.replay, intent.id = approval.preparedId → ShowsLowering intent.operation
  dated : ∀ capsule ∈ input.replay, ∀ approval, approvalOf capsule.command = some approval →
    ∀ intent ∈ previews input.replay, intent.id = approval.preparedId →
      ∀ row ∈ input.audits, row.id ∈ capsule.auditEventIds → row.occurredAt < intent.preview.expiresAt

theorem ordered_perm (input : DecisionPersistenceSnapshot) : input.ordered.Perm input.replay :=
  List.perm_insertionSort _ _

variable {first second : List DecisionReplayCapsule}

theorem previews_perm (same : first.Perm second) : (previews first).Perm (previews second) :=
  same.filterMap _

theorem used_perm (same : first.Perm second) : (used first).Perm (used second) :=
  same.filterMap _

end

section
variable [Sha256] {input snapshot : DecisionPersistenceSnapshot}

structure Accepted (input snapshot : DecisionPersistenceSnapshot) (validated : Validation) : Prop where
  sorted : snapshot = { input with replay := input.ordered }
  audits : (input.audits.map (·.id)).Nodup
  passed : validateAll input.auditMap input.ordered = .ok validated
  pending : input.pendingMatches validated

theorem accepted_of_tryNew (success : input.tryNew = .ok snapshot) : ∃ validated, Accepted input snapshot validated := by
  simp only [DecisionPersistenceSnapshot.tryNew, bind_ok, ensure_ok, pure_ok] at success
  obtain ⟨_, _, _, _, _, audits, validated, passed, _, _, _, _, _, _, _, pending, _, _, rfl⟩ := success
  exact ⟨validated, rfl, audits, passed, pending⟩

namespace Accepted
variable {validated : Validation} (accepted : Accepted input snapshot validated)
include accepted

theorem replay : snapshot.replay = input.ordered := by rw [accepted.sorted]

theorem history : History snapshot.replay validated := by
  rw [accepted.replay]
  exact history_of_validateAll accepted.passed

theorem replay_perm : snapshot.replay.Perm input.replay := by
  rw [accepted.replay]
  exact ordered_perm input

variable {intent : WorkManagementPreparedIntent}

theorem mem_previews : intent ∈ previews snapshot.replay ↔ intent ∈ previews input.replay :=
  (previews_perm accepted.replay_perm).mem_iff

theorem mem_used {id : PreparedIntentId} : id ∈ used snapshot.replay ↔ id ∈ used input.replay :=
  (used_perm accepted.replay_perm).mem_iff

theorem rehydrated {id : PreparedIntentId} :
    (rehydrate snapshot).state.prepared[id]? = some intent ↔ intent ∈ input.prepared ∧ intent.id = id := by
  rw [rehydrate, accepted.sorted]
  exact KeyMap.get_collect accepted.pending.1

theorem same_preview {first second : WorkManagementPreparedIntent} (one : first ∈ previews snapshot.replay)
    (other : second ∈ previews snapshot.replay) (same : first.id = second.id) : first = second :=
  List.inj_on_of_nodup_map accepted.history.distinct one other same

theorem pending_iff :
    (∀ (id : PreparedIntentId) intent, (rehydrate snapshot).state.prepared[id]? = some intent →
      intent.id = id ∧ intent ∈ previews snapshot.replay) ↔
      input.prepared.Perm ((previews input.replay).filter fun intent => intent.id ∉ used input.replay) := by
  obtain ⟨once, pending, complete⟩ := accepted.pending
  have distinct : (previews input.replay).Nodup :=
    (previews_perm accepted.replay_perm).nodup_iff.mp (List.Nodup.of_map _ accepted.history.distinct)
  rw [List.perm_ext_iff_of_nodup (List.Nodup.of_map _ once) (distinct.filter _)]
  constructor
  · intro carried intent
    simp only [List.mem_filter, decide_eq_true_eq]
    constructor
    · intro row
      obtain ⟨-, made⟩ := carried intent.id intent (accepted.rehydrated.mpr ⟨row, rfl⟩)
      refine ⟨accepted.mem_previews.mp made, ?_⟩
      intro gone
      exact (pending intent row).2 ((accepted.history.consumed _).mpr (accepted.mem_used.mpr gone))
    · rintro ⟨made, unused⟩
      have held := (accepted.history.prepared intent.id intent).mpr ⟨accepted.mem_previews.mpr made, rfl⟩
      rcases complete (intent.id, intent) (KeyMap.mem_toList.mpr held) with gone | listed
      · exact absurd (accepted.mem_used.mp ((accepted.history.consumed _).mp gone)) unused
      · obtain ⟨row, member, same⟩ := List.mem_map.mp listed
        obtain ⟨-, carriedOver⟩ := carried row.id row (accepted.rehydrated.mpr ⟨member, rfl⟩)
        rw [← accepted.same_preview carriedOver (accepted.mem_previews.mpr made) same]
        exact member
  · intro rows id intent held
    obtain ⟨row, named⟩ := accepted.rehydrated.mp held
    have made := (rows intent).mp row
    rw [List.mem_filter] at made
    exact ⟨named, accepted.mem_previews.mpr made.1⟩

theorem lowers_iff :
    (∀ earlier capsule later approval, snapshot.replay = earlier ++ capsule :: later →
      capsule.command = .executeLowerClassification approval →
        ∃ outcome previous, capsule.result.lowered? = some outcome ∧
          (decisionsAfter earlier)[outcome.record.id]? = some previous ∧
          Actions.isGenuineLowering previous.classification outcome.record.classification) ↔
      ∀ capsule ∈ input.replay, ∀ approval, capsule.command = .executeLowerClassification approval →
        ∀ intent ∈ previews input.replay, intent.id = approval.preparedId → ShowsLowering intent.operation := by
  have shown {earlier capsule later approval} (split : snapshot.replay = earlier ++ capsule :: later)
      (command : capsule.command = .executeLowerClassification approval) :=
    lowered_as_shown (by rw [← split, accepted.replay]; exact accepted.passed) command
  have within {earlier capsule later} (split : snapshot.replay = earlier ++ capsule :: later)
      {intent : WorkManagementPreparedIntent} (known : intent ∈ previews earlier) : intent ∈ previews snapshot.replay := by
    rw [split, previews, List.filterMap_append]
    exact List.mem_append_left _ known
  constructor
  · intro lowers capsule member approval command intent made named current target shows targeted
    obtain ⟨earlier, later, split⟩ := List.append_of_mem (accepted.replay_perm.mem_iff.mpr member)
    obtain ⟨outcome, answer, preview, known, approved, proposal, previous, proposes, held, displayed, becomes⟩ :=
      shown split command
    cases accepted.same_preview (within split known) (accepted.mem_previews.mpr made) (approved.trans named.symm)
    obtain ⟨again, before, same, there, genuine⟩ := lowers earlier capsule later approval split command
    cases answer.symm.trans same
    cases held.symm.trans there
    cases targeted.symm.trans proposes
    cases shows.symm.trans displayed
    rw [becomes] at genuine
    exact genuine
  · intro lowerings earlier capsule later approval split command
    obtain ⟨outcome, answer, preview, known, approved, proposal, previous, proposes, held, displayed, becomes⟩ :=
      shown split command
    refine ⟨outcome, previous, answer, held, ?_⟩
    have member : capsule ∈ input.replay := accepted.replay_perm.mem_iff.mp (by simp [split])
    rw [becomes]
    exact lowerings capsule member approval command preview (accepted.mem_previews.mp (within split known)) approved
      _ _ displayed proposes

theorem row_of_audit {audit : AuditEvent} : input.auditMap[audit.id]? = some audit ↔ audit ∈ input.audits := by
  rw [DecisionPersistenceSnapshot.auditMap, KeyMap.get_collect accepted.audits]
  exact and_iff_left rfl

theorem recorded {capsule : DecisionReplayCapsule} (member : capsule ∈ snapshot.replay)
    {approval : WorkManagementApproval} (given : approvalOf capsule.command = some approval) :
    AuditsRecorded input.auditMap capsule := by
  obtain ⟨earlier, later, split⟩ := List.append_of_mem member
  have passed := accepted.passed
  rw [← accepted.replay, split] at passed
  obtain ⟨before, after, -, admitted⟩ := admitted_of_split passed
  exact admitted.recorded approval given

theorem timely_iff :
    (∀ capsule ∈ snapshot.replay, ∀ approval, approvalOf capsule.command = some approval →
      ∀ intent ∈ previews snapshot.replay, intent.id = approval.preparedId →
        ∀ audit ∈ executionAudits capsule.result, audit.occurredAt < intent.preview.expiresAt) ↔
      ∀ capsule ∈ input.replay, ∀ approval, approvalOf capsule.command = some approval →
        ∀ intent ∈ previews input.replay, intent.id = approval.preparedId →
          ∀ row ∈ input.audits, row.id ∈ capsule.auditEventIds → row.occurredAt < intent.preview.expiresAt := by
  constructor
  · intro timely capsule member approval given intent made named row there listed
    have carried := accepted.replay_perm.mem_iff.mpr member
    obtain ⟨audit, executed, same⟩ := (accepted.recorded carried given).named row.id listed
    have stored := ((accepted.recorded carried given).rows audit executed).1
    rw [same, accepted.row_of_audit.mpr there] at stored
    cases stored
    exact timely capsule carried approval given intent (accepted.mem_previews.mpr made) named row executed
  · intro dated capsule member approval given intent made named audit executed
    obtain ⟨stored, listed⟩ := (accepted.recorded member given).rows audit executed
    exact dated capsule (accepted.replay_perm.mem_iff.mp member) approval given intent (accepted.mem_previews.mp made)
      named audit (accepted.row_of_audit.mp stored) listed

end Accepted

end

namespace Tampered
open ActionStructure.Journey (name instant version)

/-- No approval is in these Ledgers, and so no digest is compared. -/
scoped instance : Sha256 where
  finalize _ := ⟨"867e79f0a450602beb820180edc8fe8d65302bcb006ac1236c32b75d144a4eb3", by decide⟩

def created : DecisionRequestRecord :=
  createdRecord ⟨name .decisionRequest 0, ⟨"Which vendor", .refl true⟩, ⟨"For the data centre", .refl true⟩,
    some (name .stakeholder 0), .internal, ⟨name .idempotency 0, name .correlation 0⟩⟩

def opened : DecisionRequestRecord := { created with state := .open, version := secondVersion }

def recordedEvent (round : Fin 8) (code : CodeText 96) : AuditEvent where
  id := name .auditEvent (Fin.ofNat _ round)
  occurredAt := instant
  actor := .headOfProducts
  module := .workManagement
  code
  correlationId := name .correlation 0
  target := .decisionRequest created.id
  policyOutcome := .allowed
  approvalOutcome := .notRequired
  executionOutcome := .succeeded
  effectScope := .complete
  actualEffects := [code]

def creation : AuditEvent := recordedEvent 0 ⟨"decision_request.created", .refl true⟩
def submission : AuditEvent := recordedEvent 1 ⟨"decision_request.submitted", .refl true⟩

def judgment : HumanJudgment := ⟨⟨"Measured last week", by decide⟩, .internal⟩

def resolution (statement : DecisionText) : WorkManagementOperation :=
  .resolveDecisionRequest created.id secondVersion (name .decision 0) .internal statement
    ⟨"It is the fastest to arrive", .refl true⟩ ⟨"Lower latency", .refl true⟩ (name .stakeholder 0) instant []

def witness : SupportWitness := ⟨.evidenceOrJudgment, .judgmentSatisfied, [], [judgment], .internal⟩

def expiry : UtcTimestamp := ⟨300000, by decide, by decide⟩

def shown (statement : DecisionText) : WorkManagementPreview :=
  previewOf (name .preparedIntent 0) (resolution statement) .internal (some witness) expiry

theorem shown_admitted (statement : DecisionText) :
    preparePreview (name .preparedIntent 0) (resolution statement) .internal (some witness) instant =
      .ok (shown statement) := by
  rfl

def prepared (statement : DecisionText) : WorkManagementPreparedIntent :=
  ⟨shown statement, _, _, _, _, _, shown_admitted statement⟩

def nearest : DecisionText := ⟨"The nearest one", by decide⟩
def cheapest : DecisionText := ⟨"The cheapest one", by decide⟩

def capsule (round : Fin 8) (command : DecisionPersistenceCommand) (result : DecisionPersistenceResult)
    (auditEventIds : List AuditEventId) : DecisionReplayCapsule :=
  ⟨name .idempotency (Fin.ofNat _ round), name .correlation 0, round, command, result, auditEventIds⟩

/-- One resolution was previewed, with the nearest vendor; this is the Ledger with it
pending under a statement of its own. -/
def ledger (pending : DecisionText) : DecisionPersistenceSnapshot where
  requests := [opened]
  decisions := []
  prepared := [prepared pending]
  replay :=
    [capsule 0 (.createRequest created.id created.subject created.details created.intendedOwner created.classification)
        (.request ⟨created, [creation], none⟩) [creation.id],
      capsule 1 (.submitRequest created.id .initial) (.request ⟨opened, [submission], none⟩) [submission.id],
      capsule 2 (.prepareResolve created.id secondVersion nearest ⟨"It is the fastest to arrive", .refl true⟩
        ⟨"Lower latency", .refl true⟩ [] [judgment] []) (.prepared (prepared nearest)) []]
  audits := [creation, submission]

end Tampered

open Tampered

end MissionControl.DecisionAdmission


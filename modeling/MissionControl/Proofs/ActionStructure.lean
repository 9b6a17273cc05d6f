import MissionControl.Actions.Records

/-! The structure of the Action store in every state a run can reach: accepted
requests and Actions correspond, histories are chains from Open, and no approval
receipt is recorded twice. -/

namespace MissionControl.ActionStructure
open Actions

def Leads : ActionState → List ActionTransitionRecord → ActionState → Prop
  | source, [], target => source = target
  | source, entry :: rest, target => entry.source = source ∧ Leads entry.target rest target

theorem Leads.append {source middle : ActionState} {history : List ActionTransitionRecord}
    (leads : Leads source history middle) {entry : ActionTransitionRecord} (continues : entry.source = middle) :
    Leads source (history ++ [entry]) entry.target := by
  induction history generalizing source with
  | nil => exact ⟨continues.trans (Eq.symm leads), rfl⟩
  | cons head tail rest => exact ⟨leads.1, rest leads.2⟩

theorem Leads.end_ne {source target avoided : ActionState} {history : List ActionTransitionRecord}
    (leads : Leads source history target) (departed : ∀ entry ∈ history, entry.target ≠ avoided)
    (moved : history ≠ []) : target ≠ avoided := by
  induction history generalizing source with
  | nil => exact absurd rfl moved
  | cons head tail rest =>
    cases tail with
    | nil => exact (Eq.symm leads.2 : target = head.target) ▸ departed head (by simp)
    | cons next later => exact rest leads.2 (fun entry member => departed entry (by simp [member])) (by simp)

structure ActionSound (action : ActionRecord) : Prop where
  chain : Leads .open action.transitionHistory action.state
  departed : ∀ entry ∈ action.transitionHistory, entry.target ≠ .open
  evidence : action.completionEvidence.Nodup
  completed : action.state = .completed → ∃ witness, action.support = some witness ∧ witness.evidence ≠ []

theorem ActionSound.history_nil {action : ActionRecord} (sound : ActionSound action) :
    action.transitionHistory = [] ↔ action.state = .open := by
  constructor
  · intro empty
    have chain := sound.chain
    rw [empty] at chain
    exact Eq.symm chain
  · intro isOpen
    by_contra moved
    exact sound.chain.end_ne sound.departed moved isOpen

theorem complete_support {intent : WorkManagementPreparedIntent} {target : TransitionTarget}
    (targeted : transitionTarget .complete intent.operation = some target) :
    ∃ witness, intent.preview.support = some witness ∧ witness.evidence ≠ [] := by
  obtain ⟨_, admission, _⟩ := intent.shape
  have requirement := admission.requirement
  have roles := admission.roles
  cases named : intent.operation with
  | completeAction actionId actionVersion =>
    rw [named] at requirement roles
    cases shown : intent.preview.support with
    | none => simp [shown, WorkManagementOperation.supportRequirement] at requirement
    | some witness =>
      refine ⟨witness, rfl, ?_⟩
      rintro empty
      simp [shown, empty, roleRefused, WorkManagementOperation.requiredEvidenceRole,
        WorkManagementOperation.isDecision] at roles
  | _ => simp [named, transitionTarget] at targeted

theorem acceptedAction_sound (target : AcceptTarget) (request : ActionRequestRecord) (owner : StakeholderId)
    (due : UtcTimestamp) (classification : DataClassification) :
    ActionSound (acceptedAction target request owner due classification) where
  chain := rfl
  departed := by simp [acceptedAction]
  evidence := by simp [acceptedAction]
  completed := by simp [acceptedAction]

section
variable [Sha256] {ports : Ports} {store next : Store} {event : Event} {before after : ActionRecord}

theorem ActionSound.change (sound : ActionSound before) (change : ActionChange ports store event before after) :
    ActionSound after := by
  cases change with
  | started facts =>
    refine ⟨sound.chain.append rfl, ?_, sound.evidence, by simp [startedRecord]⟩
    intro entry member
    rcases List.mem_append.mp member with earlier | last
    · exact sound.departed entry earlier
    · simp_all
  | linked facts =>
    refine ⟨sound.chain, sound.departed, List.nodup_append.mpr ⟨sound.evidence, by simp, ?_⟩, sound.completed⟩
    intro linked earlier added last same
    rw [same, List.mem_singleton.mp last] at earlier
    exact facts.absent earlier
  | @transitioned _ kind _ intent _ _ _ _ _ _ _ _ _ _ facts =>
    refine ⟨sound.chain.append rfl, ?_, sound.evidence, ?_⟩
    · intro entry member
      rcases List.mem_append.mp member with earlier | last
      · exact sound.departed entry earlier
      · cases kind <;> simp_all [transitionState]
    · intro completed
      cases kind with
      | complete =>
        obtain ⟨witness, shown, evidence⟩ := complete_support facts.targeted
        exact ⟨witness, by simp [executedRecord, shown], evidence⟩
      | cancel => simp [executedRecord, transitionState] at completed
      | reopen => simp [executedRecord, transitionState] at completed
  | lowered facts => exact ⟨sound.chain, sound.departed, sound.evidence, sound.completed⟩
  | marked facts => exact ⟨sound.chain, sound.departed, sound.evidence, sound.completed⟩

end

structure StoreSound (store : Store) : Prop where
  linked : ∀ {id : ActionRequestId} {request : ActionRequestRecord}, store.requests[id]? = some request →
    ((∃ actionId, request.linkedActionId = some actionId) ↔ request.state = .accepted)
  realised : ∀ {id : ActionRequestId} {request : ActionRequestRecord} {actionId : ActionId}, store.requests[id]? = some request →
    request.linkedActionId = some actionId →
    ∃ action, store.actions[actionId]? = some action ∧ action.sourceRequestId = id
  sourced : ∀ {id : ActionId} {action : ActionRecord}, store.actions[id]? = some action →
    ∃ request, store.requests[action.sourceRequestId]? = some request ∧ request.linkedActionId = some id
  actions : ∀ {id : ActionId} {action : ActionRecord}, store.actions[id]? = some action → ActionSound action

theorem StoreSound.empty : StoreSound .empty := by
  constructor <;> intros <;> simp_all [Store.empty]

section
variable [Sha256] {ports : Ports} {store next : Store} {event : Event}

theorem RequestChange.unlinked {before after : ActionRequestRecord}
    (change : RequestChange ports store event before after) (undecided : after.state ≠ .accepted) :
    before.state ≠ .accepted ∧ after.linkedActionId = before.linkedActionId := by
  cases change with
  | @moved operation change record later event next moves facts =>
    refine ⟨?_, rfl⟩
    rw [facts.legal]
    cases operation <;> simp only [Operation.transition, Option.some.injEq, reduceCtorEq] at moves <;>
      subst moves <;> simp
  | accepted facts => exact absurd rfl undecided
  | marked facts => exact ⟨by rcases facts.legal with legal | legal <;> simp [legal], rfl⟩

omit [Sha256] in
theorem StoreSound.unlinked (sound : StoreSound store) {id : ActionRequestId} {request : ActionRequestRecord}
    (found : store.requests[id]? = some request) (undecided : request.state ≠ .accepted) :
    request.linkedActionId = none := by
  cases link : request.linkedActionId with
  | none => rfl
  | some actionId => exact absurd ((sound.linked found).mp ⟨actionId, link⟩) undecided

theorem StoreSound.step (sound : StoreSound store) (keyed : Keyed store) (step : StoreStep ports store event next) :
    StoreSound next := by
  have actionsSound : ∀ {id : ActionId} {action : ActionRecord}, next.actions[id]? = some action →
      ActionSound action := by
    intro id action found
    cases step.action_origin keyed found with
    | kept before => exact sound.actions before
    | changed before change => exact (sound.actions before).change change
    | created _ _ same => exact same ▸ acceptedAction_sound ..
  cases step.recordEffect keyed with
  | none requests actions =>
    exact ⟨requests ▸ sound.linked, requests ▸ actions ▸ sound.realised, requests ▸ actions ▸ sound.sourced,
      actionsSound⟩
  | requestCreated record absent undecided unlinked requests actions =>
    refine ⟨?_, ?_, ?_, actionsSound⟩
    · intro id request found
      rw [requests, KeyMap.get_insert] at found
      split at found
      · cases found; simp [unlinked, undecided]
      · exact sound.linked found
    · intro id request actionId found link
      rw [requests, KeyMap.get_insert] at found
      split at found
      · cases found; simp [unlinked] at link
      · exact actions ▸ sound.realised found link
    · intro id action found
      obtain ⟨request, source, link⟩ := sound.sourced (actions ▸ found)
      refine ⟨request, ?_, link⟩
      rw [requests, KeyMap.get_insert_other _ _ ?_, source]
      rintro same
      simp [← same, absent] at source
  | @requestChanged before after stored change undecided requests actions =>
    obtain ⟨wasUndecided, keeps⟩ := RequestChange.unlinked change undecided
    have unlinked := sound.unlinked stored wasUndecided
    refine ⟨?_, ?_, ?_, actionsSound⟩
    · intro id request found
      rw [requests, KeyMap.get_insert] at found
      split at found
      · cases found; simp [keeps, unlinked, undecided]
      · exact sound.linked found
    · intro id request actionId found link
      rw [requests, KeyMap.get_insert] at found
      split at found
      · cases found; simp [keeps, unlinked] at link
      · exact actions ▸ sound.realised found link
    · intro id action found
      obtain ⟨request, source, link⟩ := sound.sourced (actions ▸ found)
      refine ⟨request, ?_, link⟩
      rw [requests, KeyMap.get_insert_other _ _ ?_, source]
      rintro same
      rw [← same, stored] at source
      cases source
      simp [unlinked] at link
  | @accepted command intent target request owner due receipt later outcome facts _ stored named requests actions =>
    have unlinked := sound.unlinked stored (by simp [facts.legal])
    refine ⟨?_, ?_, ?_, actionsSound⟩
    · intro id record found
      rw [requests, KeyMap.get_insert] at found
      split at found
      · cases found; simp [acceptedRequest]
      · exact sound.linked found
    · intro id record actionId found link
      rw [requests, KeyMap.get_insert] at found
      split at found
      next same =>
        cases found
        cases link
        exact ⟨_, by rw [actions, KeyMap.get_insert_self], named.trans same⟩
      · obtain ⟨action, realised, source⟩ := sound.realised found link
        refine ⟨action, ?_, source⟩
        rw [actions, KeyMap.get_insert_other _ _ ?_, realised]
        rintro rfl
        simp [facts.absent] at realised
    · intro id action found
      rw [actions, KeyMap.get_insert] at found
      split at found
      next same =>
        cases found
        exact ⟨_, by rw [requests, acceptedAction, named, KeyMap.get_insert_self], congrArg some same⟩
      · obtain ⟨record, source, link⟩ := sound.sourced found
        refine ⟨record, ?_, link⟩
        rw [requests, KeyMap.get_insert_other _ _ ?_, source]
        rintro same
        rw [← same, stored] at source
        cases source
        simp [unlinked] at link
  | @actionChanged before after stored change requests actions =>
    have sameSource := change.same_identity.2
    refine ⟨requests ▸ sound.linked, ?_, ?_, actionsSound⟩
    · intro id request actionId found link
      obtain ⟨action, realised, source⟩ := sound.realised (requests ▸ found) link
      by_cases same : before.id = actionId
      · rw [← same, stored] at realised
        cases realised
        exact ⟨after, by rw [actions, same, KeyMap.get_insert_self], sameSource.trans source⟩
      · exact ⟨action, by rw [actions, KeyMap.get_insert_other _ _ same, realised], source⟩
    · intro id action found
      rw [actions, KeyMap.get_insert] at found
      rw [requests]
      split at found
      next same =>
        cases found
        rw [sameSource]
        exact sound.sourced (same ▸ stored)
      · exact sound.sourced found

theorem storeSound_of_run {seen : List Label} (run : StoreRun .empty seen store) : StoreSound store := by
  refine (run.invariant (fun reached => Keyed reached ∧ StoreSound reached) ?_ ⟨.empty, .empty⟩).2
  rintro label before after step ⟨keyed, sound⟩
  exact ⟨keyed.step step, sound.step keyed step⟩

theorem ActionChange.history {before after : ActionRecord} (change : ActionChange ports store event before after) :
    before.transitionHistory <+: after.transitionHistory := by
  cases change with
  | started _ => exact List.prefix_append _ _
  | transitioned _ _ => exact List.prefix_append _ _
  | linked _ => exact List.prefix_refl _
  | lowered _ => exact List.prefix_refl _
  | marked _ => exact List.prefix_refl _

theorem history_of_run {start : Store} {seen : List Label} (run : StoreRun start seen store) (keyed : Keyed start)
    {id : ActionId} {before : ActionRecord} (found : start.actions[id]? = some before) :
    ∃ after, store.actions[id]? = some after ∧ before.transitionHistory <+: after.transitionHistory := by
  refine (run.invariant (fun reached => Keyed reached ∧ ∃ after, reached.actions[id]? = some after ∧
    before.transitionHistory <+: after.transitionHistory) ?_ ⟨keyed, before, found, List.prefix_refl _⟩).2
  rintro label reached later step ⟨keyed, middle, found, grown⟩
  obtain ⟨after, kept, rfl | change⟩ := step.action_kept keyed found
  · exact ⟨keyed.step step, _, kept, grown⟩
  · exact ⟨keyed.step step, after, kept, grown.trans (ActionChange.history change)⟩

def receipts (action : ActionRecord) : List ApprovalReceiptId :=
  action.transitionHistory.filterMap (·.approvalReceiptId)

theorem ActionChange.receipts {before after : ActionRecord} (change : ActionChange ports store event before after) :
    receipts after = receipts before ∨ ∃ receipt, ports.nextApprovalReceiptId = some receipt ∧
      receipts after = receipts before ++ [receipt] := by
  cases change with
  | started _ => exact .inl (by simp [ActionStructure.receipts, startedRecord])
  | transitioned _ facts =>
    exact .inr ⟨_, facts.validated.drawn, by simp [ActionStructure.receipts, executedRecord]⟩
  | linked _ => exact .inl rfl
  | lowered _ => exact .inl rfl
  | marked _ => exact .inl rfl

end

def recordedReceipts (store : Store) (id : ActionId) : List ApprovalReceiptId :=
  (store.actions[id]?.map receipts).getD []

/-- No receipt stands twice in the histories, be it of one Action or of two. -/
structure ReceiptsDistinct (store : Store) : Prop where
  within : ∀ id, (recordedReceipts store id).Nodup
  across : ∀ {first second receipt}, receipt ∈ recordedReceipts store first →
    receipt ∈ recordedReceipts store second → first = second

def receiptDraws (label : Label) : List ApprovalReceiptId := label.1.nextApprovalReceiptId.toList

structure ReceiptsIssued (seen : List Label) (store : Store) : Prop where
  keyed : Keyed store
  distinct : ReceiptsDistinct store
  issued : ∀ {id receipt}, receipt ∈ recordedReceipts store id → receipt ∈ seen.flatMap receiptDraws

theorem recordedReceipts_of_actions {store next : Store} (same : next.actions = store.actions) (id : ActionId) :
    recordedReceipts next id = recordedReceipts store id := by
  rw [recordedReceipts, recordedReceipts, same]

theorem recordedReceipts_insert {store next : Store} {key : ActionId} {action : ActionRecord}
    (becomes : next.actions = store.actions.insert key action) (id : ActionId) :
    recordedReceipts next id = if key = id then receipts action else recordedReceipts store id := by
  rw [recordedReceipts, becomes, KeyMap.get_insert]
  split <;> simp [recordedReceipts]

section
variable [Sha256] {ports : Ports} {store next : Store} {event : Event} {seen : List Label}
open Run

theorem recordedReceipts_step (step : StoreStep ports store event next) (keyed : Keyed store) :
    (∀ id, recordedReceipts next id = recordedReceipts store id) ∨
    ∃ changed receipt, ports.nextApprovalReceiptId = some receipt ∧
      recordedReceipts next changed = recordedReceipts store changed ++ [receipt] ∧
      ∀ id, changed ≠ id → recordedReceipts next id = recordedReceipts store id := by
  cases step.recordEffect keyed with
  | none _ actions => exact .inl (recordedReceipts_of_actions actions)
  | requestCreated _ _ _ _ _ actions => exact .inl (recordedReceipts_of_actions actions)
  | requestChanged _ _ _ _ actions => exact .inl (recordedReceipts_of_actions actions)
  | accepted facts _ _ _ _ actions =>
    refine .inl fun id => ?_
    rw [recordedReceipts_insert actions]
    split
    next same => simp [recordedReceipts, ← same, facts.absent, receipts, acceptedAction]
    · rfl
  | @actionChanged before after stored change _ actions =>
    have recorded : recordedReceipts store before.id = receipts before := by simp [recordedReceipts, stored]
    rcases ActionChange.receipts change with same | ⟨receipt, drawn, added⟩
    · refine .inl fun id => ?_
      rw [recordedReceipts_insert actions]
      split
      next named => rw [same, ← recorded, named]
      · rfl
    · refine .inr ⟨before.id, receipt, drawn, ?_, fun id different => ?_⟩
      · rw [recordedReceipts_insert actions, if_pos rfl, added, recorded]
      · rw [recordedReceipts_insert actions, if_neg different]

theorem ReceiptsIssued.step {label : Label} (holds : ReceiptsIssued seen store)
    (fresh : Distinct receiptDraws (seen ++ [label])) (step : LabelStep label store next) :
    ReceiptsIssued (seen ++ [label]) next := by
  have keyed := holds.keyed.step step
  rcases recordedReceipts_step step holds.keyed with same | ⟨changed, receipt, drawn, added, others⟩
  · refine ⟨keyed, ⟨fun id => same id ▸ holds.distinct.within id, fun {first second receipt} one two => ?_⟩,
      fun {id receipt} member => mem_drawn (holds.issued (same id ▸ member))⟩
    exact holds.distinct.across (same first ▸ one) (same second ▸ two)
  · have drawn : receipt ∈ receiptDraws label := by simp [receiptDraws, drawn]
    have unseen : ∀ id, receipt ∉ recordedReceipts store id :=
      fun id member => fresh.fresh drawn (holds.issued member)
    have origin : ∀ {id other}, other ∈ recordedReceipts next id →
        other ∈ recordedReceipts store id ∨ other = receipt ∧ id = changed := by
      intro id other member
      by_cases same : changed = id
      · subst same
        rw [added, List.mem_append, List.mem_singleton] at member
        exact member.imp_right fun last => ⟨last, rfl⟩
      · exact .inl (others id same ▸ member)
    refine ⟨keyed, ⟨fun id => ?_, fun {first second other} one two => ?_⟩, fun {id other} member => ?_⟩
    · by_cases same : changed = id
      · subst same
        rw [added]
        refine List.nodup_append.mpr ⟨holds.distinct.within changed, by simp, ?_⟩
        intro earlier member last same equal
        rw [equal, List.mem_singleton.mp same] at member
        exact unseen changed member
      · rw [others id same]
        exact holds.distinct.within id
    · rcases origin one with one | ⟨rfl, rfl⟩ <;> rcases origin two with two | ⟨last, two⟩
      · exact holds.distinct.across one two
      · exact absurd (last ▸ one) (unseen first)
      · exact absurd two (unseen second)
      · exact two.symm
    · rcases origin member with earlier | ⟨rfl, rfl⟩
      · exact mem_drawn (holds.issued earlier)
      · exact drawn_last drawn

theorem receiptsIssued_of_run (run : StoreRun .empty seen store) (fresh : Distinct receiptDraws seen) :
    ReceiptsIssued seen store := by
  refine run.invariantAlong (Distinct receiptDraws) ReceiptsIssued (fun _ _ => Distinct.shrinks) ?_ ?_ fresh ?_
  · exact fun _ label _ holds => ⟨holds.keyed, holds.distinct, fun member => mem_drawn (holds.issued member)⟩
  · exact fun _ _ _ _ fresh step holds => holds.step fresh step
  · refine ⟨.empty, ⟨?_, ?_⟩, ?_⟩ <;> intros <;> simp_all [recordedReceipts, Store.empty]

end

section
variable [Sha256]

structure AcceptedBijection (store : Store) : Prop where
  forward : ∀ {id : ActionRequestId} {request : ActionRequestRecord}, store.requests[id]? = some request →
    request.state = .accepted → ∃! actionId : ActionId, request.linkedActionId = some actionId ∧
      ∃ action, store.actions[actionId]? = some action ∧ action.sourceRequestId = id
  backward : ∀ {id : ActionId} {action : ActionRecord}, store.actions[id]? = some action →
    ∃! requestId : ActionRequestId, ∃ request : ActionRequestRecord, store.requests[requestId]? = some request ∧ request.state = .accepted ∧
      request.linkedActionId = some id

omit [Sha256] in
theorem StoreSound.bijection {store : Store} (sound : StoreSound store) : AcceptedBijection store where
  forward found accepted := by
    obtain ⟨actionId, link⟩ := (sound.linked found).mpr accepted
    refine ⟨actionId, ⟨link, sound.realised found link⟩, fun other shown => ?_⟩
    exact Option.some.inj (shown.1.symm.trans link)
  backward {id action} found := by
    obtain ⟨request, source, link⟩ := sound.sourced found
    refine ⟨action.sourceRequestId, ⟨request, source, (sound.linked source).mp ⟨id, link⟩, link⟩, ?_⟩
    rintro requestId ⟨other, stored, _, otherLink⟩
    obtain ⟨same, realised, sourced⟩ := sound.realised stored otherLink
    cases found.symm.trans realised
    exact sourced.symm

theorem history_nil_iff (script : Script) {id : ActionId} {action : ActionRecord}
    (found : (run script).store.actions[id]? = some action) :
    action.transitionHistory = [] ↔ ∀ earlier later, script = earlier ++ later →
      ∀ {before : ActionRecord}, (run earlier).store.actions[id]? = some before → before.state = .open := by
  have sound : ∀ {reached : Script} {record : ActionRecord}, (run reached).store.actions[id]? = some record →
      ActionSound record := (storeSound_of_run (run_storeRun _)).actions
  constructor
  · rintro empty earlier later rfl before stored
    obtain ⟨after, kept, grown⟩ := history_of_run (run_onwards earlier later) (keyed_of_run (run_storeRun earlier)) stored
    cases found.symm.trans kept
    rw [empty] at grown
    exact (sound stored).history_nil.mp (List.prefix_nil.mp grown)
  · intro stayed
    exact (sound found).history_nil.mpr (stayed script [] (List.append_nil script).symm found)

theorem store_structure (script : Script) :
    StoreSound (run script).store ∧ AcceptedBijection (run script).store ∧
    (∀ {id : ActionId} {action : ActionRecord}, (run script).store.actions[id]? = some action →
      (action.transitionHistory = [] ↔ ∀ earlier later, script = earlier ++ later →
        ∀ {before : ActionRecord}, (run earlier).store.actions[id]? = some before → before.state = .open)) ∧
    (Run.Distinct receiptDraws (labels script) → ReceiptsDistinct (run script).store) :=
  have sound := storeSound_of_run (run_storeRun script)
  ⟨sound, sound.bijection, history_nil_iff script,
    fun fresh => (receiptsIssued_of_run (run_storeRun script) fresh).distinct⟩

end

/-! A journey from a draft to a completed Action. Its evidence is resolved anew in
each round, and the digests are those SHA-256 gives its previews. -/

namespace Journey

instance neZeroRounds : NeZero 32 := ⟨by decide⟩

instance neZeroVersions : NeZero 8 := ⟨by decide⟩

instance neZeroSlots : NeZero 4 := ⟨by decide⟩

def mark (round : Fin 32) : String :=
  String.ofList ['n', Char.ofNat (97 + round / 8), Char.ofNat (97 + round % 8)]

theorem mark_valid (kind : IdKind) (round : Fin 32) :
    (validateToken (mark round) kind.maximum ['-', '_']).isOk = true := by
  have bounds : kind.maximum = 64 ∨ kind.maximum = 128 := by cases kind <;> decide
  rcases bounds with bound | bound <;> rw [bound] <;> clear bound <;> revert round <;> decide +kernel

def name (kind : IdKind) (round : Fin 32) : OpaqueId kind := ⟨mark round, mark_valid kind round⟩

def instant : UtcTimestamp := ⟨0, UtcTimestamp.epoch_lower, UtcTimestamp.epoch_upper⟩

def version (number : Fin 8) : AggregateVersion := ⟨number + 1, by omega, by omega⟩

def context (round : Fin 8) : ActionOperationContext :=
  ⟨name .idempotency (Fin.ofNat _ round), name .correlation 0⟩

def integrity : IntegrityDigest :=
  ⟨"e3b0c44298fc1c149afbf4c8996fb92427ae41e4649b934ca495991b7852b855", by decide⟩

def evidence (classification : DataClassification) : EvidenceReferenceMetadata where
  id := name .evidenceReference 0
  sourceVersion := .initial
  classification
  role := .actionCompletion
  verification := .verified instant integrity

def slotNumber : AuditSlot → Fin 4
  | .first => 0
  | .second => 1
  | .third => 2
  | .failure => 3

def ports (round : Fin 8) (resolved : EvidenceReferenceMetadata) : Ports where
  now _ := instant
  nextActionId := some (name .action 0)
  nextPreparedIntentId := some (name .preparedIntent (Fin.ofNat _ round))
  nextApprovalReceiptId := some (name .approvalReceipt (Fin.ofNat _ round))
  nextAuditEventId slot := some (name .auditEvent (Fin.ofNat _ (round * 4 + slotNumber slot)))
  authorize _ := true
  currentPolicy _ := .allowed
  resolve _ _ := .ok resolved

def draft : CreateActionRequestDraft where
  id := name .actionRequest 0
  title := ⟨"Review the forecast", by decide⟩
  details := ⟨"Compare with the plan", by decide⟩
  intendedOwner := some (name .stakeholder 0)
  responseDueAt := none
  intendedActionDueAt := some instant
  classification := .«public»
  context := context 0

def approve (prepared round : Fin 8) (digest : WorkManagementPayloadDigest) : ApproveAndExecute where
  approval :=
    ⟨name .preparedIntent (Fin.ofNat _ prepared), .headOfProducts, digest, (context round).idempotencyId, rfl⟩
  context := context round

def acceptDigest : WorkManagementPayloadDigest :=
  ⟨"37ed2a6ac96a1f53cb7b06f3953ad5b1a922094479ff32a7936f34573808707f", by decide⟩

def completeDigest : WorkManagementPayloadDigest :=
  ⟨"445ae91b25baf8bbfbf0c0772f8aaa84953fd58b9de9005ba12e173c6d7b632b", by decide⟩

def cancelDigest : WorkManagementPayloadDigest :=
  ⟨"967dceb9bcc9007a712d91a331134c97baeeb36842e09cb4e6b2dbd4868308a1", by decide⟩

/-- SHA-256 on the previews of the journey, told apart by their lengths. -/
scoped instance : Sha256 where
  finalize bytes := match bytes.length with
    | 544 => cancelDigest
    | 668 => acceptDigest
    | 684 => completeDigest
    | _ => ⟨integrity.asStr, integrity.valid⟩

def offered : Script :=
  [(ports 0 (evidence .confidential), .createActionRequestDraft draft),
    (ports 1 (evidence .confidential), .submitActionRequest ⟨draft.id, version 0, context 1⟩),
    (ports 2 (evidence .confidential), .prepareAcceptActionRequest ⟨draft.id, version 1, context 2⟩)]

def acceptance : Operation := .approveAndExecuteAcceptActionRequest (approve 2 3 acceptDigest)

def accepted : Script := offered ++ [(ports 3 (evidence .confidential), acceptance)]

def start : Ports × Operation :=
  (ports 4 (evidence .confidential), .startAction ⟨name .action 0, version 0, context 4⟩)

def link : Ports × Operation :=
  (ports 5 (evidence .confidential),
    .linkActionCompletionEvidence ⟨name .action 0, version 1, name .evidenceReference 0, context 5⟩)

def linked : Script := accepted ++ [start, link]

def previewed : Script :=
  linked ++ [(ports 6 (evidence .«public»), .prepareCompleteAction ⟨name .action 0, version 2, none, context 6⟩)]

def completion : Operation := .approveAndExecuteCompleteAction (approve 6 7 completeDigest)

def completed : Script := previewed ++ [(ports 7 (evidence .«public»), completion)]

def cancelOffered : Script :=
  linked ++ [(ports 6 (evidence .confidential),
    .prepareCancelAction ⟨name .action 0, version 2, draft.details, context 6⟩)]

def cancellation : Operation := .approveAndExecuteCancelAction (approve 6 7 cancelDigest)

end Journey

open Journey

theorem store_structure_completed : (run completed).store.actions[name .action 0]?.map (·.state) = some .completed ∧
    ReceiptsDistinct (run completed).store :=
  ⟨by decide +kernel,
    (store_structure completed).2.2.2 (show List.Nodup ((labels completed).flatMap receiptDraws) by decide +kernel)⟩

end MissionControl.ActionStructure

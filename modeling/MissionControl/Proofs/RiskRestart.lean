import MissionControl.Proofs.ActionStructure
import MissionControl.Proofs.RiskIssueJoin
import MissionControl.Risks.Restart

/-! A running Risk service is snapshotted and taken up again without loss, in every run
that leaves what has occurred alone and in which the policy denies no approval of
another digest than the previewed one. -/

namespace MissionControl.RiskRestart
open Risks RiskIssueJoin Checked
open Issues (IssueStore IssueRecord)

structure AsLinked (link : RiskIssueLink) (risk : RiskRecord) (issue : IssueRecord) : Prop where
  occurred : risk.state = .occurred
  riskVersion : risk.version = link.riskVersion
  riskClassification : risk.classification = link.classification
  source : issue.sourceRiskId = some link.riskId
  untouched : untouched issue = true
  issueVersion : issue.version = link.issueVersion
  issueClassification : issue.classification = link.classification

def LinksKept (state : State) : Prop :=
  ∀ link ∈ state.own.links, ∃ risk issue, state.own.risks[link.riskId]? = some risk ∧
    state.authority.get link.issueId = some issue ∧ AsLinked link risk issue

def OccurrencesLeft (before after : State) : Prop :=
  ∀ link ∈ before.own.links, after.own.risks[link.riskId]? = before.own.risks[link.riskId]? ∧
    after.authority.get link.issueId = before.authority.get link.issueId

instance (before after : State) : Decidable (OccurrencesLeft before after) :=
  inferInstanceAs (Decidable (∀ _ ∈ _, _))

section
variable {before after : State}

theorem LinksKept.left (kept : LinksKept before) (left : OccurrencesLeft before after) :
    ∀ link ∈ before.own.links, ∃ risk issue, after.own.risks[link.riskId]? = some risk ∧
      after.authority.get link.issueId = some issue ∧ AsLinked link risk issue := by
  intro link member
  obtain ⟨risk, issue, foundRisk, foundIssue, same⟩ := kept link member
  obtain ⟨risks, issues⟩ := left link member
  exact ⟨risk, issue, risks.trans foundRisk, issues.trans foundIssue, same⟩

theorem LinksKept.unlinked (kept : LinksKept before) (left : OccurrencesLeft before after)
    (links : after.own.links = before.own.links) : LinksKept after := by
  intro link member
  rw [links] at member
  exact kept.left left link member

theorem LinksKept.risk {operation : Operation} (kept : LinksKept before) (left : OccurrencesLeft before after)
    (effect : Effect before after operation) : LinksKept after := by
  cases effect with
  | kept _ _ links _ | created _ _ _ _ links _ | responded _ _ _ _ _ _ links _ | closed _ _ _ _ _ _ _ links _
  | lowered _ _ _ _ _ _ links _ => exact kept.unlinked left links
  | occurred command target current later approved required absent risks links authority =>
    intro link member
    rw [links] at member
    rcases List.mem_append.mp member with earlier | last
    · exact kept.left left link earlier
    · rw [List.mem_singleton.mp last, risks, authority]
      refine ⟨_, .fromRisk target.issueId target.riskId current.title current.details current.classification,
        KeyMap.get_insert_self _ _ _, ?_, rfl, rfl, rfl, rfl, rfl, rfl, rfl⟩
      rw [IssueStore.get_insertFromRisk]
      exact if_pos rfl

end

structure Over (previews : List PreparedIntentId) (own : Store) (id : PreparedIntentId) : Prop where
  drawn : id ∈ previews
  gone : own.prepared[id]? = none

/-- An answer that ends a preview shows which approval or rejection ended it, and was
recorded. -/
def Sound [Sha256] (previews : List PreparedIntentId) (own : Store) (signature : Signature) : Stored → Prop
  | .terminal failure => Over previews own failure.prepared.id ∧ signature.executes failure.prepared = true ∧
      failure.audit ∈ own.audits ∧ failure.audit.correlationId = failure.error.correlationId
  | .rejected outcome => Over previews own outcome.preparedIntentId ∧
      signature.rejects outcome.preparedIntentId = true ∧ outcome.auditEvent ∈ own.audits
  | _ => True

/-- The pending previews, the answers and the audits, against the ids drawn so far. -/
structure Books [Sha256] (audits : List AuditEventId) (previews : List PreparedIntentId) (own : Store) : Prop where
  recorded : (own.audits.map (·.id)).Sublist audits
  keyed : ∀ (id : PreparedIntentId) (intent : WorkManagementPreparedIntent), own.prepared[id]? = some intent →
    intent.id = id
  drawn : ∀ (id : PreparedIntentId) (intent : WorkManagementPreparedIntent), own.prepared[id]? = some intent →
    id ∈ previews
  sound : ∀ (key : IdempotencyId) (signature : Signature) (stored : Stored),
    own.idem[key]? = some (signature, stored) → Sound previews own signature stored
  once : ∀ (key other : IdempotencyId) (signature known : Signature) (failure terminal : RiskTerminalFailure),
    own.idem[key]? = some (signature, .terminal failure) → own.idem[other]? = some (known, .terminal terminal) →
    failure.prepared.id = terminal.prepared.id → key = other

section
variable [Sha256] {audits moreAudits : List AuditEventId} {previews morePreviews : List PreparedIntentId}
  {own later : Store}

theorem Books.empty : Books [] [] .empty where
  recorded := List.Sublist.refl _
  keyed := by
    intro id intent found
    rw [Store.empty, KeyMap.get_empty] at found
    cases found
  drawn := by
    intro id intent found
    rw [Store.empty, KeyMap.get_empty] at found
    cases found
  sound := by
    intro key signature stored found
    rw [Store.empty, KeyMap.get_empty] at found
    cases found
  once := by
    intro key other signature known failure terminal found
    rw [Store.empty, KeyMap.get_empty] at found
    cases found

/-- What is spent stays spent: ids are not drawn twice. -/
structure Onwards (previews morePreviews : List PreparedIntentId) (own later : Store) : Prop where
  grown : previews ⊆ morePreviews
  spent : ∀ id ∈ previews, own.prepared[id]? = none → later.prepared[id]? = none
  audits : ∃ events, later.audits = own.audits ++ events

variable {id : PreparedIntentId}

omit [Sha256] in
theorem Over.onwards (spent : Over previews own id) (onwards : Onwards previews morePreviews own later) :
    Over morePreviews later id :=
  ⟨onwards.grown spent.drawn, onwards.spent id spent.drawn spent.gone⟩

theorem Sound.onwards {signature : Signature} {stored : Stored} (sound : Sound previews own signature stored)
    (onwards : Onwards previews morePreviews own later) : Sound morePreviews later signature stored := by
  obtain ⟨events, appended⟩ := onwards.audits
  cases stored with
  | terminal failure =>
    obtain ⟨spent, executes, audited, correlated⟩ := sound
    refine ⟨spent.onwards onwards, executes, ?_, correlated⟩
    rw [appended]
    exact List.mem_append_left _ audited
  | rejected outcome =>
    obtain ⟨spent, rejects, audited⟩ := sound
    refine ⟨spent.onwards onwards, rejects, ?_⟩
    rw [appended]
    exact List.mem_append_left _ audited
  | risk | prepared | occurred | closed => trivial

/-- The answers that end a preview are those there were, as far as they are kept, and
at most one more. -/
theorem Books.answers {ending : Option (IdempotencyId × Signature × Stored)} (books : Books audits previews own)
    (onwards : Onwards previews morePreviews own later)
    (recorded : (later.audits.map (·.id)).Sublist moreAudits)
    (pending : ∀ (id : PreparedIntentId) (intent : WorkManagementPreparedIntent), later.prepared[id]? = some intent →
      intent.id = id ∧ id ∈ morePreviews)
    (answers : ∀ (key : IdempotencyId) (signature : Signature) (stored : Stored),
      later.idem[key]? = some (signature, stored) →
        own.idem[key]? = some (signature, stored) ∨ ending = some (key, signature, stored))
    (sound : ∀ key signature stored, ending = some (key, signature, stored) →
      Sound morePreviews later signature stored)
    (fresh : ∀ key signature failure, ending = some (key, signature, .terminal failure) →
      ∃ intent, own.prepared[failure.prepared.id]? = some intent) :
    Books moreAudits morePreviews later where
  recorded := recorded
  keyed id intent found := (pending id intent found).1
  drawn id intent found := (pending id intent found).2
  sound := by
    intro key signature stored found
    rcases answers key signature stored found with earlier | last
    · exact (books.sound key signature stored earlier).onwards onwards
    · exact sound key signature stored last
  once := by
    intro key other signature known failure terminal found stored same
    -- a preview that ends now was pending, and one that ended before was not
    have apart {key other : IdempotencyId} {signature known : Signature} {failure terminal : RiskTerminalFailure}
        (earlier : own.idem[key]? = some (signature, .terminal failure))
        (last : ending = some (other, known, .terminal terminal))
        (same : failure.prepared.id = terminal.prepared.id) : False := by
      have gone := (books.sound key signature (.terminal failure) earlier).1.gone
      obtain ⟨intent, held⟩ := fresh other known terminal last
      rw [same, held] at gone
      cases gone
    rcases answers key signature _ found with first | first
    · rcases answers other known _ stored with second | second
      · exact books.once key other signature known failure terminal first second same
      · exact (apart first second same).elim
    · rcases answers other known _ stored with second | second
      · exact (apart second first same.symm).elim
      · cases first.symm.trans second
        rfl

theorem Books.erased (books : Books audits previews own) (grown : previews ⊆ morePreviews)
    (prepared : later.prepared = own.prepared.erase id) (other : PreparedIntentId)
    (intent : WorkManagementPreparedIntent) (found : later.prepared[other]? = some intent) :
    intent.id = other ∧ other ∈ morePreviews := by
  rw [prepared] at found
  obtain ⟨_, held⟩ := KeyMap.get_of_erase found
  exact ⟨books.keyed other intent held, grown (books.drawn other intent held)⟩

omit [Sha256] in
theorem Onwards.erased {events : List AuditEvent} (grown : previews ⊆ morePreviews)
    (prepared : later.prepared = own.prepared.erase id) (audits : later.audits = own.audits ++ events) :
    Onwards previews morePreviews own later := by
  refine ⟨grown, ?_, events, audits⟩
  intro other _ gone
  rw [prepared, KeyMap.get_erase]
  split
  · rfl
  · exact gone

omit [Sha256] in
theorem get_forget {key : IdempotencyId} {answer : Signature × Stored}
    (found : (own.forget id).idem[key]? = some answer) : own.idem[key]? = some answer := by
  rw [Store.forget, KeyMap.get_filter] at found
  exact (Option.filter_eq_some_iff.mp found).1

omit [Sha256] in
theorem get_answered {answers : KeyMap IdempotencyId (Signature × Stored)} {key other : IdempotencyId}
    {signature known : Signature} {stored answer : Stored}
    (found : (answers.insert key (signature, stored))[other]? = some (known, answer)) :
    answers[other]? = some (known, answer) ∨ some (key, signature, stored) = some (other, known, answer) := by
  rw [KeyMap.get_insert] at found
  split at found
  next same => cases found; exact .inr (same ▸ rfl)
  next => exact .inl found

end

section
variable [Sha256] {audits : List AuditEventId} {previews : List PreparedIntentId} {state : State} {ports : Ports}
  {operation : Operation} {after : Store}

def Acknowledged (state : State) (ports : Ports) (operation : Operation) : Prop :=
  ∀ approval ∈ deniedApproval state ports operation, ∀ intent ∈ state.own.prepared[approval.preparedId]?,
    approval.acknowledgedPayloadDigest = intent.payloadDigest

instance : Decidable (Acknowledged state ports operation) :=
  inferInstanceAs (Decidable (∀ _ ∈ _, ∀ _ ∈ _, _))

theorem Books.step (books : Books audits previews state.own)
    (fresh : ∀ id, ports.nextPreparedIntentId = some id → id ∉ previews)
    (acknowledged : Acknowledged state ports operation) (moved : Bookkeeping state ports operation after) :
    Books (audits ++ auditDraws ports) (previews ++ ports.nextPreparedIntentId.toList) after := by
  have grown : previews ⊆ previews ++ ports.nextPreparedIntentId.toList := List.subset_append_left _ _
  have recording {events : List AuditEvent} (appended : after.audits = state.own.audits ++ events)
      (drawn : (events.map (·.id)).Sublist (auditDraws ports)) :
      (after.audits.map (·.id)).Sublist (audits ++ auditDraws ports) := by
    rw [appended, List.map_append]
    exact books.recorded.append drawn
  have unchanged : ∀ (id : PreparedIntentId) (intent : WorkManagementPreparedIntent),
      state.own.prepared[id]? = some intent → intent.id = id ∧ id ∈ previews ++ ports.nextPreparedIntentId.toList :=
    fun id intent found => ⟨books.keyed id intent found, grown (books.drawn id intent found)⟩
  cases moved with
  | kept events prepared idem appended drawn =>
    apply @Books.answers _ _ _ _ _ _ _ none books ⟨grown, fun _ _ gone => prepared ▸ gone, events, appended⟩
      (recording appended drawn) (prepared ▸ unchanged)
    · intro key signature stored found
      exact .inl (idem ▸ found)
    · intro _ _ _ impossible
      cases impossible
    · intro _ _ _ impossible
      cases impossible
  | answered context signature stored events plain prepared idem appended drawn =>
    have onwards : Onwards previews (previews ++ ports.nextPreparedIntentId.toList) state.own after := by
      rcases prepared with same | ⟨id, erased⟩
      · exact ⟨grown, fun _ _ gone => same ▸ gone, events, appended⟩
      · exact .erased grown erased appended
    apply @Books.answers _ _ _ _ _ _ _ (some (context.idempotencyId, signature, stored)) books onwards
      (recording appended drawn)
    · rcases prepared with same | ⟨id, erased⟩
      · exact same ▸ unchanged
      · exact books.erased grown erased
    · intro key known answer found
      exact get_answered (idem ▸ found)
    · rintro _ _ _ ⟨⟩
      cases stored with
      | risk | occurred | closed => trivial
      | prepared | terminal | rejected => cases plain
    · rintro _ _ _ ⟨⟩
      cases plain
  | placed context signature intent drawn prepared idem appended =>
    have apart : ∀ id ∈ previews, intent.id ≠ id := fun id member same => fresh intent.id drawn (same ▸ member)
    have onwards : Onwards previews (previews ++ ports.nextPreparedIntentId.toList) state.own after := by
      refine ⟨grown, ?_, [], by rw [appended, List.append_nil]⟩
      intro id member gone
      rw [prepared, KeyMap.get_insert_other _ _ (apart id member)]
      exact gone
    apply @Books.answers _ _ _ _ _ _ _ (some (context.idempotencyId, signature, .prepared intent)) books onwards
    · rw [appended]
      exact books.recorded.trans (List.sublist_append_left _ _)
    · intro id held found
      rw [prepared, KeyMap.get_insert] at found
      split at found
      next same =>
        cases found
        refine ⟨same, List.mem_append_right _ ?_⟩
        rw [← same, drawn]
        simp
      next => exact unchanged id held found
    · intro key known answer found
      exact get_answered (idem ▸ found)
    · rintro _ _ _ ⟨⟩
      trivial
    · intro _ _ _ impossible
      cases impossible
  | terminalized command intent event denied pending prepared idem appended correlated drawn =>
    have named : intent.id = command.approval.preparedId := books.keyed _ _ pending
    have spent : Over (previews ++ ports.nextPreparedIntentId.toList) after intent.id := by
      refine ⟨grown (named ▸ books.drawn _ _ pending), ?_⟩
      rw [prepared, named, KeyMap.get_erase_self]
    apply @Books.answers _ _ _ _ _ _ _ (some (command.context.idempotencyId, executionSignature command.approval,
      .terminal ⟨intent, mapFailure .policyDenied command.context, event⟩)) books (.erased grown prepared appended)
      (recording appended (drawn_failure drawn)) (books.erased grown prepared)
    · intro key known answer found
      rcases get_answered (idem ▸ found) with earlier | last
      · exact .inl (get_forget earlier)
      · exact .inr last
    · rintro _ _ _ ⟨⟩
      have digest : command.approval.acknowledgedPayloadDigest = intent.payloadDigest :=
        acknowledged _ denied _ pending
      refine ⟨spent, ?_, ?_, correlated⟩
      · simp [executionSignature, Signature.executes, named, command.approval.authorized, digest]
      · rw [appended]
        simp
    · rintro _ _ _ ⟨⟩
      exact ⟨intent, named ▸ pending⟩
  | rejected command intent outcome authorized pending noted prepared idem appended drawn =>
    have named : intent.id = command.preparedId := books.keyed _ _ pending
    have spent : Over (previews ++ ports.nextPreparedIntentId.toList) after outcome.preparedIntentId := by
      rw [noted]
      refine ⟨grown (named ▸ books.drawn _ _ pending), ?_⟩
      rw [prepared, named, KeyMap.get_erase_self]
    apply @Books.answers _ _ _ _ _ _ _ (some (command.context.idempotencyId,
      .rejectPrepared command.preparedId command.actor, .rejected outcome)) books (.erased grown prepared appended)
      (recording appended (drawn_first drawn)) (books.erased grown prepared)
    · intro key known answer found
      exact get_answered (idem ▸ found)
    · rintro _ _ _ ⟨⟩
      refine ⟨spent, ?_, ?_⟩
      · simp [Signature.rejects, noted, named, authorized]
      · rw [appended]
        simp
    · intro _ _ _ impossible
      cases impossible
  | forgotten id prepared idem appended =>
    have nothing : after.audits = state.own.audits ++ [] := by rw [appended, List.append_nil]
    apply @Books.answers _ _ _ _ _ _ _ none books (.erased grown prepared nothing)
      (recording nothing (List.nil_sublist _)) (books.erased grown prepared)
    · intro key known answer found
      exact .inl (get_forget (idem ▸ found))
    · intro _ _ _ impossible
      cases impossible
    · intro _ _ _ impossible
      cases impossible

end

/-! What a snapshot holds, of a state whose links and books are kept. -/

section
variable {Item Key : Type}

theorem find_keyed [DecidableEq Key] {items : List Item} {keyOf : Item → Key} (once : (items.map keyOf).Nodup)
    {item : Item} (member : item ∈ items) : items.find? (fun other => keyOf other = keyOf item) = some item := by
  rw [List.find?_eq_some_iff_append]
  obtain ⟨earlier, later, rfl⟩ := List.mem_iff_append.mp member
  refine ⟨by simp, earlier, later, rfl, ?_⟩
  intro other held
  rw [List.map_append, List.nodup_append] at once
  have different : keyOf other ≠ keyOf item :=
    once.2.2 _ (List.mem_map_of_mem held) _ (List.mem_map_of_mem List.mem_cons_self)
  simpa using different

theorem mapM_require {ε Found : Type} {failure : ε} {items : List Item} {look : Item → Option Found}
    (present : ∀ item ∈ items, ∃ found, look item = some found) :
    ∃ results, items.mapM (fun item => require failure (look item)) = .ok results ∧
      results.map some = items.map look := by
  induction items with
  | nil => exact ⟨[], rfl, rfl⟩
  | cons head tail ih =>
    obtain ⟨found, first⟩ := present head List.mem_cons_self
    obtain ⟨rest, looked, same⟩ := ih fun item member => present item (List.mem_cons_of_mem _ member)
    refine ⟨found :: rest, ?_, ?_⟩
    · rw [List.mapM_cons, first, looked]
      rfl
    · rw [List.map_cons, List.map_cons, first, same]

end

section
variable {state : State} {issues : List IssueRecord}

def snapshotOf (state : State) (issues : List IssueRecord) : RiskPersistenceSnapshot where
  risks := (KeyMap.held state.own.risks).insertionSort fun left right => left.id ≤ right.id
  occurrenceIssues := issues.insertionSort fun left right => left.id ≤ right.id
  links := sortLinks state.own.links
  prepared := (KeyMap.held state.own.prepared).insertionSort fun left right => left.id ≤ right.id
  replay := (state.own.idem.toList.map fun (id, signature, stored) => RiskReplayEntry.mk id signature stored)
    |>.insertionSort fun left right => left.idempotencyId ≤ right.idempotencyId
  audits := state.own.audits

theorem sortLinks_perm (links : List RiskIssueLink) : (sortLinks links).Perm links := List.perm_insertionSort _ links

theorem mem_risks {risk : RiskRecord} :
    risk ∈ (snapshotOf state issues).risks ↔ ∃ id : RiskId, state.own.risks[id]? = some risk := by
  rw [snapshotOf, List.mem_insertionSort, KeyMap.mem_held]

theorem mem_prepared {intent : WorkManagementPreparedIntent} :
    intent ∈ (snapshotOf state issues).prepared ↔ ∃ id : PreparedIntentId, state.own.prepared[id]? = some intent := by
  rw [snapshotOf, List.mem_insertionSort, KeyMap.mem_held]

theorem mem_replay {entry : RiskReplayEntry} :
    entry ∈ (snapshotOf state issues).replay ↔
      state.own.idem[entry.idempotencyId]? = some (entry.signature, entry.stored) := by
  rw [snapshotOf, List.mem_insertionSort, List.mem_map]
  constructor
  · rintro ⟨⟨id, signature, stored⟩, member, rfl⟩
    exact KeyMap.mem_toList.mp member
  · intro found
    exact ⟨(entry.idempotencyId, entry.signature, entry.stored), KeyMap.mem_toList.mpr found, rfl⟩

theorem replay_perm (state : State) (issues : List IssueRecord) :
    ((snapshotOf state issues).replay.map fun entry => (entry.idempotencyId, entry.signature, entry.stored)).Perm
      state.own.idem.toList := by
  have sorted := (List.perm_insertionSort
    (fun left right : RiskReplayEntry => left.idempotencyId ≤ right.idempotencyId)
    (state.own.idem.toList.map fun (id, signature, stored) => RiskReplayEntry.mk id signature stored)).map
      fun entry => (entry.idempotencyId, entry.signature, entry.stored)
  rw [List.map_map] at sorted
  exact sorted.trans (.of_eq (List.map_id' _))

theorem replayOnce (state : State) (issues : List IssueRecord) : ((snapshotOf state issues).replay.map (·.idempotencyId)).Nodup := by
  have same := ((replay_perm state issues).map Prod.fst).nodup_iff.mpr (KeyMap.nodup_toList _)
  rwa [List.map_map] at same

theorem recorded_any {events : List AuditEvent} {event : AuditEvent} (member : event ∈ events) :
    events.any (fun other => other.id = event.id) = true := by
  rw [List.any_eq_true]
  exact ⟨event, member, by simp⟩

end

section
variable [Sha256] {state : State}

structure Restartable (state : State) : Prop where
  joined : JoinedState state
  links : LinksKept state
  books : ∃ audits previews, audits.Nodup ∧ Books audits previews state.own

theorem Restartable.issues (restartable : Restartable state) :
    ∃ issues, (sortLinks state.own.links).mapM (fun link =>
        require RiskRehydrationError.invalidCreatedRisk (state.authority.get link.issueId)) = .ok issues ∧
      issues.map (·.id) = (sortLinks state.own.links).map (·.issueId) ∧
      ∀ issue, issue ∈ issues ↔ ∃ link ∈ state.own.links, state.authority.get link.issueId = some issue := by
  have present : ∀ link ∈ sortLinks state.own.links, ∃ issue, state.authority.get link.issueId = some issue := by
    intro link member
    obtain ⟨_, issue, _, found, _⟩ := restartable.links link ((sortLinks_perm _).mem_iff.mp member)
    exact ⟨issue, found⟩
  obtain ⟨issues, looked, same⟩ := mapM_require present
  refine ⟨issues, looked, ?_, ?_⟩
  · have named : (issues.map some).map (Option.map (·.id)) =
        (sortLinks state.own.links).map fun link => some link.issueId := by
      rw [same, List.map_map]
      apply List.map_congr_left
      intro link member
      obtain ⟨issue, found⟩ := present link member
      simp only [Function.comp_apply, found, Option.map_some, state.authority.keyed _ _ found]
    have injected : (issues.map (·.id)).map some = ((sortLinks state.own.links).map (·.issueId)).map some := by
      simpa [List.map_map, Function.comp_def] using named
    exact (List.map_injective_iff.mpr (Option.some_injective _)) injected
  · intro issue
    have listed : issue ∈ issues ↔ some issue ∈ issues.map some := by simp
    rw [listed, same, List.mem_map]
    constructor
    · rintro ⟨link, member, found⟩
      exact ⟨link, (sortLinks_perm _).mem_iff.mp member, found⟩
    · rintro ⟨link, member, found⟩
      exact ⟨link, (sortLinks_perm _).mem_iff.mpr member, found⟩

theorem Restartable.risksOnce (restartable : Restartable state) (issues : List IssueRecord) :
    ((snapshotOf state issues).risks.map (·.id)).Nodup := by
  have sorted := List.perm_insertionSort (fun left right : RiskRecord => left.id ≤ right.id) (KeyMap.held state.own.risks)
  exact (sorted.map _).nodup_iff.mpr (KeyMap.nodup_held restartable.joined.keyed)

theorem Restartable.preparedOnce (restartable : Restartable state) (issues : List IssueRecord) :
    ((snapshotOf state issues).prepared.map (·.id)).Nodup := by
  obtain ⟨_, _, _, books⟩ := restartable.books
  have sorted := List.perm_insertionSort (fun left right : WorkManagementPreparedIntent => left.id ≤ right.id)
    (KeyMap.held state.own.prepared)
  exact (sorted.map _).nodup_iff.mpr (KeyMap.nodup_held books.keyed)

theorem Restartable.matches (restartable : Restartable state) {issues : List IssueRecord}
    (once : ((snapshotOf state issues).occurrenceIssues.map (·.id)).Nodup)
    (listed : ∀ issue, issue ∈ issues ↔ ∃ link ∈ state.own.links, state.authority.get link.issueId = some issue) :
    (sortLinks state.own.links).all
      (linkMatches (snapshotOf state issues).risks (snapshotOf state issues).occurrenceIssues) = true := by
  rw [List.all_eq_true]
  intro link member
  have held : link ∈ state.own.links := (sortLinks_perm _).mem_iff.mp member
  obtain ⟨risk, issue, foundRisk, foundIssue, linked⟩ := restartable.links link held
  have risks := find_keyed (restartable.risksOnce issues) (mem_risks.mpr ⟨link.riskId, foundRisk⟩)
  have memberIssue : issue ∈ (snapshotOf state issues).occurrenceIssues := by
    rw [snapshotOf, List.mem_insertionSort]
    exact (listed issue).mpr ⟨link, held, foundIssue⟩
  have issuesFound := find_keyed once memberIssue
  rw [restartable.joined.keyed _ _ foundRisk] at risks
  rw [state.authority.keyed _ _ foundIssue] at issuesFound
  simp [linkMatches, risks, issuesFound, linked.occurred, linked.riskVersion, linked.riskClassification, linked.source,
    linked.untouched, linked.issueVersion, linked.issueClassification]

theorem Restartable.counted (restartable : Restartable state) (issues : List IssueRecord) :
    (snapshotOf state issues).risks.all (linksCounted (sortLinks state.own.links)) = true := by
  rw [List.all_eq_true]
  intro risk member
  obtain ⟨id, found⟩ := mem_risks.mp member
  have named : risk.id = id := restartable.joined.keyed id risk found
  rw [linksCounted, decide_eq_true_iff, (sortLinks_perm _).countP_eq, List.countP_eq_length_filter]
  split
  next occurred =>
    obtain ⟨link, held, same⟩ := restartable.joined.occurred id risk found occurred
    have alone := only_one restartable.joined.riskOnce held
    rw [same, ← named] at alone
    rw [alone]
    rfl
  next unoccurred =>
    have none : state.own.links.filter (fun link => link.riskId = risk.id) = [] := by
      rw [List.filter_eq_nil_iff]
      intro link held same
      have same : link.riskId = risk.id := by simpa using same
      obtain ⟨known, stored, occurred⟩ := restartable.joined.linkedRisk link held
      rw [same, named, found] at stored
      cases stored
      exact unoccurred occurred
    rw [none]
    rfl

variable {previews : List PreparedIntentId} {audits : List AuditEventId}

theorem Over.unlisted {id : PreparedIntentId} (spent : Over previews state.own id)
    (books : Books audits previews state.own) (issues : List IssueRecord) :
    (snapshotOf state issues).prepared.any (fun intent => intent.id = id) = false := by
  rw [List.any_eq_false]
  intro intent member same
  have same : intent.id = id := by simpa using same
  obtain ⟨held, found⟩ := mem_prepared.mp member
  rw [← books.keyed held intent found, same, spent.gone] at found
  cases found

theorem Books.terminals (books : Books audits previews state.own) (issues : List IssueRecord) :
    (snapshotOf state issues).replay.all (terminalMatches (snapshotOf state issues).prepared state.own.audits) = true ∧
    (((snapshotOf state issues).replay.filterMap (·.stored.terminal?)).map (·.prepared.id)).Nodup := by
  constructor
  · rw [List.all_eq_true]
    rintro ⟨key, signature, stored⟩ member
    have found := books.sound _ _ _ (mem_replay.mp member)
    cases stored with
    | terminal failure =>
      obtain ⟨spent, executes, audited, correlated⟩ := found
      simp only [terminalMatches, Stored.terminal?, recorded_any audited, correlated, decide_true, Bool.and_true,
        spent.unlisted books issues, Bool.not_false, executes]
    | risk | prepared | occurred | closed | rejected => rfl
  · rw [List.Nodup, List.pairwise_map, List.pairwise_filterMap]
    have distinct : (snapshotOf state issues).replay.Pairwise fun left right =>
        left.idempotencyId ≠ right.idempotencyId := List.pairwise_map.mp (replayOnce state issues)
    refine distinct.imp_of_mem ?_
    rintro ⟨key, signature, stored⟩ ⟨other, known, answer⟩ first second different failure shown terminal shown' same
    cases stored with
    | terminal =>
      cases answer with
      | terminal =>
        cases shown
        cases shown'
        exact different (books.once _ _ _ _ _ _ (mem_replay.mp first) (mem_replay.mp second) same)
      | risk | prepared | occurred | closed | rejected => cases shown'
    | risk | prepared | occurred | closed | rejected => cases shown

theorem Books.rejections (books : Books audits previews state.own) (issues : List IssueRecord) :
    (snapshotOf state issues).replay.all (rejectionMatches (snapshotOf state issues).prepared state.own.audits) =
      true := by
  rw [List.all_eq_true]
  rintro ⟨key, signature, stored⟩ member
  have found := books.sound _ _ _ (mem_replay.mp member)
  cases stored with
  | rejected outcome =>
    obtain ⟨spent, rejects, audited⟩ := found
    simp only [rejectionMatches, Stored.rejected?, rejects, spent.unlisted books issues, Bool.not_false,
      recorded_any audited, Bool.and_true]
  | risk | prepared | occurred | closed | terminal => rfl

end

/-- The two services hold the same; the links may be in another order. -/
structure SameStore (before after : Store) : Prop where
  risks : after.risks = before.risks
  links : after.links.Perm before.links
  prepared : after.prepared = before.prepared
  idem : after.idem = before.idem
  audits : after.audits = before.audits

/-- The Risk service can be snapshotted, and the snapshot taken up next to the same
Issues gives the service back. -/
def Restarts [Sha256] (composition : WorkManagementRuntimeComposition) : Prop :=
  ∃ snapshot service, persistenceSnapshotWithH2a composition.risks.state = .ok snapshot ∧
    rehydrateWithH2aAndIssueAuthority snapshot composition.authority = .ok service ∧
    SameStore composition.risks.state.own service.state.own ∧ service.state.authority = composition.authority

section
variable [Sha256] {state : State}

theorem Restartable.snapshot (restartable : Restartable state) :
    ∃ issues, persistenceSnapshotWithH2a state = .ok (snapshotOf state issues) ∧
      ∀ issue ∈ issues, state.authority.get issue.id = some issue := by
  obtain ⟨issues, looked, named, listed⟩ := restartable.issues
  obtain ⟨audits, previews, distinct, books⟩ := restartable.books
  refine ⟨issues, ?_, ?_⟩
  · have sorted := List.perm_insertionSort (fun left right : IssueRecord => left.id ≤ right.id) issues
    have issuesOnce : ((snapshotOf state issues).occurrenceIssues.map (·.id)).Nodup := by
      rw [snapshotOf, (sorted.map _).nodup_iff, named, ((sortLinks_perm _).map _).nodup_iff]
      exact restartable.joined.issueOnce
    have pairsOnce : ((sortLinks state.own.links).map fun link => (link.riskId, link.issueId)).Nodup := by
      rw [((sortLinks_perm _).map _).nodup_iff]
      apply List.Nodup.of_map Prod.fst
      rw [List.map_map]
      exact restartable.joined.riskOnce
    have alike : (snapshotOf state issues).occurrenceIssues.length = (sortLinks state.own.links).length := by
      rw [snapshotOf, sorted.length_eq, ← List.length_map (·.id), named, List.length_map]
    have auditsOnce : (state.own.audits.map (·.id)).Nodup := distinct.sublist books.recorded
    simp only [persistenceSnapshotWithH2a, bind_ok]
    refine ⟨issues, looked, ?_⟩
    change tryNewWithH2a (snapshotOf state issues) = _
    simp only [tryNewWithH2a, bind_ok, ensure_ok, pure_ok]
    exact ⟨(), restartable.risksOnce issues, (), issuesOnce, (),
      ⟨restartable.matches issuesOnce listed, pairsOnce⟩, (), restartable.counted issues, (), alike, (),
      restartable.preparedOnce issues, (), replayOnce state issues, (), auditsOnce, (), books.terminals issues, (),
      books.rejections issues, trivial⟩
  · intro issue member
    obtain ⟨link, _, found⟩ := (listed issue).mp member
    rw [state.authority.keyed _ _ found]
    exact found

theorem Restartable.restarts {composition : WorkManagementRuntimeComposition}
    (restartable : Restartable composition.risks.state) : Restarts composition := by
  obtain ⟨issues, snapshotted, current⟩ := restartable.snapshot
  obtain ⟨_, _, _, books⟩ := restartable.books
  rw [composition.shared] at current
  have present : (snapshotOf composition.risks.state issues).occurrenceIssues.all
      (fun issue => composition.authority.get issue.id = some issue) = true := by
    rw [List.all_eq_true]
    intro issue member
    rw [snapshotOf, List.mem_insertionSort] at member
    exact decide_eq_true (current issue member)
  have risks := (List.perm_insertionSort (fun left right : RiskRecord => left.id ≤ right.id)
    (KeyMap.held composition.risks.state.own.risks)).map fun risk => (risk.id, risk)
  have prepared := (List.perm_insertionSort (fun left right : WorkManagementPreparedIntent => left.id ≤ right.id)
    (KeyMap.held composition.risks.state.own.prepared)).map fun intent => (intent.id, intent)
  rw [KeyMap.held_keyed restartable.joined.keyed] at risks
  rw [KeyMap.held_keyed books.keyed] at prepared
  refine ⟨_, _, snapshotted, bind_ok.mpr ⟨(), ensure_ok.mpr present, rfl⟩, ?_, rfl⟩
  exact ⟨KeyMap.collect_of_perm risks, sortLinks_perm _, KeyMap.collect_of_perm prepared,
    KeyMap.collect_of_perm (replay_perm _ _), rfl⟩

end

def auditsOf : Event → List AuditEventId
  | .risk ports _ => auditDraws ports
  | .issue _ _ => []

def previewsOf : Event → List PreparedIntentId
  | .risk ports _ => ports.nextPreparedIntentId.toList
  | .issue _ _ => []

def IdsNeverRepeat (script : List Event) : Prop :=
  Run.Distinct auditsOf script ∧ Run.Distinct previewsOf script

section
variable [Sha256]

/-- A command of the Risk service denies no approval of another digest. -/
def AcknowledgedBy (composition : WorkManagementRuntimeComposition) : Event → Prop
  | .risk ports operation => Acknowledged composition.risks.state ports operation
  | .issue _ _ => True

instance (composition : WorkManagementRuntimeComposition) (event : Event) :
    Decidable (AcknowledgedBy composition event) :=
  match event with
  | .risk ports operation => inferInstanceAs (Decidable (Acknowledged composition.risks.state ports operation))
  | .issue _ _ => inferInstanceAs (Decidable True)

/-- A step that leaves alone what has occurred: no Occurred Risk is lowered, and no Issue
a Risk became is resolved, closed, reopened or lowered. Nor does the policy deny an
approval that acknowledges another digest than its preview's. -/
def Orderly (composition : WorkManagementRuntimeComposition) (event : Event) : Prop :=
  OccurrencesLeft composition.risks.state (act composition event).1.risks.state ∧ AcknowledgedBy composition event

instance (composition : WorkManagementRuntimeComposition) (event : Event) : Decidable (Orderly composition event) :=
  inferInstanceAs (Decidable (_ ∧ _))

def EachOrderlyFrom (composition : WorkManagementRuntimeComposition) : List Event → Prop
  | [] => True
  | event :: rest => Orderly composition event ∧ EachOrderlyFrom (act composition event).1 rest

instance decidableEachOrderlyFrom (composition : WorkManagementRuntimeComposition) :
    (script : List Event) → Decidable (EachOrderlyFrom composition script)
  | [] => inferInstanceAs (Decidable True)
  | event :: rest =>
    have := decidableEachOrderlyFrom (act composition event).1 rest
    inferInstanceAs (Decidable (_ ∧ _))

theorem eachOrderly_snoc (composition : WorkManagementRuntimeComposition) (script : List Event) (event : Event) :
    EachOrderlyFrom composition (script ++ [event]) ↔
      EachOrderlyFrom composition script ∧ Orderly (runFrom composition script) event := by
  induction script generalizing composition with
  | nil => simp [EachOrderlyFrom, runFrom]
  | cons first rest ih =>
    rw [List.cons_append, EachOrderlyFrom, EachOrderlyFrom, ih, and_assoc]
    rfl

/-- What an orderly step keeps. -/
structure Kept (script : List Event) (state : State) : Prop where
  links : LinksKept state
  books : Books (script.flatMap auditsOf) (script.flatMap previewsOf) state.own

theorem Kept.after {script : List Event} {event : Event} {composition : WorkManagementRuntimeComposition}
    (kept : Kept script composition.risks.state) (distinct : IdsNeverRepeat (script ++ [event]))
    (orderly : Orderly composition event) : Kept (script ++ [event]) (act composition event).1.risks.state := by
  obtain ⟨left, acknowledged⟩ := orderly
  cases event with
  | risk ports operation =>
    obtain ⟨moves, books⟩ := step_acts composition.risks ports operation
    have effect : Effect composition.risks.state (step composition.risks ports operation).1.state operation := by
      rcases moves with unmoved | ⟨_, effect⟩
      · exact unmoved.effect
      · exact effect
    have fresh : ∀ id, ports.nextPreparedIntentId = some id → id ∉ script.flatMap previewsOf := by
      intro id drawn
      apply distinct.2.fresh
      simp [previewsOf, drawn]
    have later := kept.books.step fresh acknowledged books
    refine ⟨kept.links.risk left effect, ?_⟩
    rw [List.flatMap_append, List.flatMap_append, List.flatMap_singleton, List.flatMap_singleton]
    exact later
  | issue ports operation =>
    refine ⟨kept.links.unlinked left rfl, ?_⟩
    rw [List.flatMap_append, List.flatMap_append, List.flatMap_singleton, List.flatMap_singleton, auditsOf, previewsOf,
      List.append_nil, List.append_nil]
    exact kept.books

theorem kept_of_run {script : List Event} (distinct : IdsNeverRepeat script) (orderly : EachOrderlyFrom .new script) :
    Kept script (run script).risks.state := by
  induction script using List.reverseRecOn with
  | nil => exact ⟨nofun, .empty⟩
  | append_singleton earlier event ih =>
    obtain ⟨before, last⟩ := (eachOrderly_snoc _ _ _).mp orderly
    rw [run_snoc]
    exact (ih ⟨distinct.1.shrinks, distinct.2.shrinks⟩ before).after distinct last

end

namespace Flood
open ActionStructure.Journey (name instant version)

def context (round : Fin 8) : RiskOperationContext := ⟨name .idempotency (Fin.ofNat _ round), name .correlation 0⟩

def slotNumber : AuditSlot → Fin 4
  | .first => 0
  | .second => 1
  | .third => 2
  | .failure => 3

def ports (round : Fin 8) (policy : RiskExecutionPolicy) : Ports where
  now _ := instant
  nextPreparedIntentId := some (name .preparedIntent (Fin.ofNat _ round))
  nextApprovalReceiptId := some (name .approvalReceipt (Fin.ofNat _ round))
  nextAuditEventId slot := some (name .auditEvent (Fin.ofNat _ (round * 4 + slotNumber slot)))
  authorize _ := true
  currentPolicy _ := policy
  currentClassification _ classification := .ok classification

def step (round : Fin 8) (operation : Operation) : Event := .risk (ports round .allowed) operation

def approve (prepared round : Fin 8) (digest : WorkManagementPayloadDigest) : ApproveAndExecute where
  approval :=
    ⟨name .preparedIntent (Fin.ofNat _ prepared), .headOfProducts, digest, (context round).idempotencyId, rfl⟩
  context := context round

def rationale : WorkManagementRationale := ⟨"No longer sensitive", by decide⟩

def occurrenceDigest : WorkManagementPayloadDigest :=
  ⟨"bcd13623d97eaea9f81683f0f671be6d0eca1a2716614552c9faf20b8c31a74f", by decide⟩

def lowerDigest : WorkManagementPayloadDigest :=
  ⟨"30c861b70e1a7c6fecd325bfa895cb363ba798e99c2cc6e3408f4dcdd75e5a07", by decide⟩

/-- SHA-256 on the two previews here, told apart by their lengths. -/
scoped instance : Sha256 where
  finalize bytes := if bytes.length = 588 then occurrenceDigest else lowerDigest

def created : List Event :=
  [step 0 (.createRisk ⟨name .risk 0, ⟨"Flood in the data centre", .refl true⟩, ⟨"The cellar is below the river", .refl true⟩,
    .confidential, context 0⟩)]

def occurred : List Event :=
  created ++ [step 1 (.prepareRecordRiskOccurrence ⟨name .risk 0, version 0, name .issue 0, context 1⟩),
    step 2 (.approveAndExecuteRecordRiskOccurrence (approve 1 2 occurrenceDigest))]

def lowered : List Event :=
  occurred ++ [step 3 (.prepareLowerRiskClassification ⟨name .risk 0, version 1, .«public», rationale, context 3⟩),
    step 4 (.approveAndExecuteLowerRiskClassification (approve 3 4 lowerDigest))]

/-- The policy denies an approval of another digest than the previewed one. -/
def misread : List Event :=
  created ++ [step 1 (.prepareRecordRiskOccurrence ⟨name .risk 0, version 0, name .issue 0, context 1⟩),
    .risk (ports 2 .denied) (.approveAndExecuteRecordRiskOccurrence (approve 1 2 lowerDigest))]

end Flood

open Flood

theorem Restarts.snapshots [Sha256] {composition : WorkManagementRuntimeComposition} (restarts : Restarts composition) :
    (persistenceSnapshotWithH2a composition.risks.state).isOk = true := by
  obtain ⟨snapshot, _, snapshotted, _⟩ := restarts
  rw [snapshotted]
  rfl

end MissionControl.RiskRestart

import MissionControl.Proofs.ProductConditions
import MissionControl.Queue.Derivation

/-! Work that is finished asks for no attention, except for a closed Issue that recurred: it is put
to the checks of a resolved one. -/

namespace MissionControl.FinishedWork
open Projections Queue Surfaces ProductConditions

section
variable (projection : LedgerProjectionSnapshot) (composition : LedgerCompositionSnapshot)
  (thresholds : AttentionThresholds)

/-- No attention is attached to finished work, and what is attached carries its record's own
classification and deadline. -/
structure FinishedQuiet : Prop where
  actionRequests : ∀ request ∈ composition.actionRequests,
    request.state = .accepted ∨ request.state = .declined ∨ request.state = .withdrawn →
      (actionRequestItem projection composition thresholds request).attention = []
  actions : ∀ action ∈ projection.actions, action.state = .completed ∨ action.state = .cancelled →
    (actionItem projection composition thresholds action).attention = []
  decisionRequests : ∀ request ∈ composition.decisionRequests, request.state = .resolved ∨ request.state = .withdrawn →
    (decisionRequestItem projection composition thresholds request).attention = []
  risks : ∀ risk ∈ projection.risks, risk.state = .occurred ∨ risk.state = .closed →
    (riskItem projection composition thresholds risk).attention = []
  issues : ∀ issue ∈ composition.issues, issue.state = .closed →
    (issueItem projection composition thresholds issue).attention = []
  carried : ∀ item ∈ workItemFactsFromSnapshots projection composition thresholds, ∀ raised ∈ item.attention,
    raised.flag.metadata.classification = item.classification ∧ raised.relevantAt = item.relevantAt

def NoClosedRecurrence : Prop :=
  ∀ issue ∈ composition.issues, issue.state = .closed →
    issue.recurrenceOfId = none ∨ parseEntityId .issue issue.id = none

end

section
variable {projection : LedgerProjectionSnapshot} {composition : LedgerCompositionSnapshot}
  {thresholds : AttentionThresholds} {checked : Checked}

inductive Origin (projection : LedgerProjectionSnapshot) (composition : LedgerCompositionSnapshot)
    (thresholds : AttentionThresholds) : Checked → Prop where
  | actionRequest (request : ActionRequestReadRecord) (among : request ∈ composition.actionRequests)
      (input : ActionRequestAttentionInput) (made : request.attentionInput = some input) :
      Origin projection composition thresholds (input.checked composition.ledgerAsOfUtc)
  | action (action : ActionProjectionSource) (among : action ∈ projection.actions) :
      Origin projection composition thresholds ((actionAttentionInput action).checked composition.ledgerAsOfUtc thresholds)
  | decisionRequest (request : DecisionRequestReadRecord) (among : request ∈ composition.decisionRequests)
      (input : DecisionRequestAttentionInput) (made : request.attentionInput = some input) :
      Origin projection composition thresholds (input.checked composition.ledgerAsOfUtc thresholds)
  | risk (risk : RiskProjectionSource) (among : risk ∈ projection.risks) :
      Origin projection composition thresholds ((riskAttentionInput risk).checked composition.ledgerAsOfUtc)
  | issue (issue : IssueReadRecord) (among : issue ∈ composition.issues) (input : IssueAttentionInput)
      (made : issue.attentionInput = some input) :
      Origin projection composition thresholds (input.checked composition.ledgerAsOfUtc)

theorem origin_iff : checked ∈ (attentionInputs projection composition thresholds).checked ↔
    Origin projection composition thresholds checked := by
  simp only [AttentionInputs.checked, attentionInputs, List.mem_append, List.mem_map, List.mem_filterMap]
  constructor
  · rintro ((((⟨input, ⟨request, among, made⟩, rfl⟩ | ⟨_, ⟨action, among, rfl⟩, rfl⟩) |
      ⟨input, ⟨request, among, made⟩, rfl⟩) | ⟨_, ⟨risk, among, rfl⟩, rfl⟩) | ⟨input, ⟨issue, among, made⟩, rfl⟩)
    · exact .actionRequest request among input made
    · exact .action action among
    · exact .decisionRequest request among input made
    · exact .risk risk among
    · exact .issue issue among input made
  · intro origin
    cases origin with
    | actionRequest request among input made => exact .inl (.inl (.inl (.inl ⟨input, ⟨request, among, made⟩, rfl⟩)))
    | action action among => exact .inl (.inl (.inl (.inr ⟨_, ⟨action, among, rfl⟩, rfl⟩)))
    | decisionRequest request among input made => exact .inl (.inl (.inr ⟨input, ⟨request, among, made⟩, rfl⟩))
    | risk risk among => exact .inl (.inr ⟨_, ⟨risk, among, rfl⟩, rfl⟩)
    | issue issue among input made => exact .inr ⟨input, ⟨issue, among, made⟩, rfl⟩

/-- A flag that is attached to a record was raised by the checks of a record of its kind and
identifier. -/
theorem attached_iff {item : WorkItemFacts}
    (listed : item ∈ workItemFactsFromSnapshots projection composition thresholds) {raised : RankableAttentionItem} :
    raised ∈ item.attention ↔ ∃ checked, Origin projection composition thresholds checked ∧
      checked.target.key = item.key ∧ raised.flag ∈ checked.flags ∧
      raised.relevantAt = relevantAtFor projection composition item.kind item.id := by
  have flags : ∀ flag, flag ∈ (deriveAttention (attentionInputs projection composition thresholds)).flags ↔
      ∃ checked, Origin projection composition thresholds checked ∧ flag ∈ checked.flags := by
    intro flag
    simp only [flags_eq, raisedFlags, Sorting.mem_sortBy, List.mem_flatMap, origin_iff]
  rw [attention_of listed, List.mem_filter, flagsFromSnapshots, List.mem_map, decide_eq_true_eq]
  constructor
  · rintro ⟨⟨flag, derived, rfl⟩, named⟩
    obtain ⟨checked, origin, raised⟩ := (flags flag).mp derived
    refine ⟨checked, origin, ?_, raised, ?_⟩
    · rw [← flags_target raised]
      exact named
    · rw [show WorkItemKind.ofTarget flag.target = item.kind from congrArg Prod.fst named,
        show canonicalIdOf flag.target = item.id from congrArg Prod.snd named]
  · rintro ⟨checked, origin, named, among, deadline⟩
    rw [← flags_target among] at named
    refine ⟨⟨raised.flag, (flags raised.flag).mpr ⟨checked, origin, among⟩, ?_⟩, named⟩
    rw [show WorkItemKind.ofTarget raised.flag.target = item.kind from congrArg Prod.fst named,
      show canonicalIdOf raised.flag.target = item.id from congrArg Prod.snd named, ← deadline]

section
variable (unique : UniqueIds projection composition) (origin : Origin projection composition thresholds checked)

include unique origin

theorem own_actionRequest {request : ActionRequestReadRecord} (among : request ∈ composition.actionRequests)
    (named : checked.target.key = (.actionRequest, request.id)) :
    ∃ input, request.attentionInput = some input ∧ checked = input.checked composition.ledgerAsOfUtc := by
  cases origin with
  | actionRequest other within input made =>
    obtain ⟨id, parsed, rfl⟩ := Option.map_eq_some_iff.mp made
    have same : other.id = request.id := (parsed_asStr parsed).symm.trans (congrArg Prod.snd named)
    cases List.inj_on_of_nodup_map unique.actionRequests within among same
    exact ⟨_, made, rfl⟩
  | action | decisionRequest | risk | issue => cases congrArg Prod.fst named

theorem own_action {action : ActionProjectionSource} (among : action ∈ projection.actions)
    (named : checked.target.key = (.action, action.id.asStr)) :
    checked = (actionAttentionInput action).checked composition.ledgerAsOfUtc thresholds := by
  cases origin with
  | action other within =>
    have same : other.id.asStr = action.id.asStr := congrArg Prod.snd named
    cases List.inj_on_of_nodup_map unique.actions within among same
    rfl
  | actionRequest | decisionRequest | risk | issue => cases congrArg Prod.fst named

theorem own_decisionRequest {request : DecisionRequestReadRecord} (among : request ∈ composition.decisionRequests)
    (named : checked.target.key = (.decisionRequest, request.id)) :
    ∃ input, request.attentionInput = some input ∧ checked = input.checked composition.ledgerAsOfUtc thresholds := by
  cases origin with
  | decisionRequest other within input made =>
    obtain ⟨id, parsed, rfl⟩ := Option.map_eq_some_iff.mp made
    have same : other.id = request.id := (parsed_asStr parsed).symm.trans (congrArg Prod.snd named)
    cases List.inj_on_of_nodup_map unique.decisionRequests within among same
    exact ⟨_, made, rfl⟩
  | action | actionRequest | risk | issue => cases congrArg Prod.fst named

theorem own_risk {risk : RiskProjectionSource} (among : risk ∈ projection.risks)
    (named : checked.target.key = (.risk, risk.id.asStr)) :
    checked = (riskAttentionInput risk).checked composition.ledgerAsOfUtc := by
  cases origin with
  | risk other within =>
    have same : other.id.asStr = risk.id.asStr := congrArg Prod.snd named
    cases List.inj_on_of_nodup_map unique.risks within among same
    rfl
  | actionRequest | decisionRequest | action | issue => cases congrArg Prod.fst named

theorem own_issue {issue : IssueReadRecord} (among : issue ∈ composition.issues)
    (named : checked.target.key = (.issue, issue.id)) :
    ∃ input, issue.attentionInput = some input ∧ checked = input.checked composition.ledgerAsOfUtc := by
  cases origin with
  | issue other within input made =>
    obtain ⟨id, parsed, rfl⟩ := Option.map_eq_some_iff.mp made
    have same : other.id = issue.id := (parsed_asStr parsed).symm.trans (congrArg Prod.snd named)
    cases List.inj_on_of_nodup_map unique.issues within among same
    exact ⟨_, made, rfl⟩
  | action | actionRequest | decisionRequest | risk => cases congrArg Prod.fst named

end

theorem flags_metadata {checked : Checked} {flag : AttentionFlag} (raised : flag ∈ checked.flags) :
    flag.metadata = checked.metadata := by
  obtain ⟨check, _, rfl⟩ := List.mem_map.mp raised
  rfl

theorem quiet_of {item : WorkItemFacts} (listed : item ∈ workItemFactsFromSnapshots projection composition thresholds)
    (own : ∀ checked, Origin projection composition thresholds checked → checked.target.key = item.key →
      checked.flags = []) : item.attention = [] := by
  apply List.eq_nil_iff_forall_not_mem.mpr
  intro raised attached
  obtain ⟨checked, origin, named, among, _⟩ := (attached_iff listed).mp attached
  rw [own checked origin named] at among
  cases among

theorem actionRequest_listed {request : ActionRequestReadRecord} (among : request ∈ composition.actionRequests) :
    actionRequestItem projection composition thresholds request ∈ workItemFactsFromSnapshots projection composition thresholds := by
  simp only [workItemFactsFromSnapshots, List.mem_append]
  exact .inl (.inl (.inl (.inl (List.mem_map_of_mem among))))

theorem action_listed {action : ActionProjectionSource} (among : action ∈ projection.actions) :
    actionItem projection composition thresholds action ∈ workItemFactsFromSnapshots projection composition thresholds := by
  simp only [workItemFactsFromSnapshots, List.mem_append]
  exact .inl (.inl (.inl (.inr (List.mem_map_of_mem among))))

theorem decisionRequest_listed {request : DecisionRequestReadRecord} (among : request ∈ composition.decisionRequests) :
    decisionRequestItem projection composition thresholds request ∈ workItemFactsFromSnapshots projection composition thresholds := by
  simp only [workItemFactsFromSnapshots, List.mem_append]
  exact .inl (.inl (.inr (List.mem_map_of_mem among)))

theorem risk_listed {risk : RiskProjectionSource} (among : risk ∈ projection.risks) :
    riskItem projection composition thresholds risk ∈ workItemFactsFromSnapshots projection composition thresholds := by
  simp only [workItemFactsFromSnapshots, List.mem_append]
  exact .inl (.inr (List.mem_map_of_mem among))

theorem issue_listed {issue : IssueReadRecord} (among : issue ∈ composition.issues) :
    issueItem projection composition thresholds issue ∈ workItemFactsFromSnapshots projection composition thresholds := by
  simp only [workItemFactsFromSnapshots, List.mem_append]
  exact .inr (List.mem_map_of_mem among)

theorem closed_flags {issue : IssueReadRecord} (closed : issue.state = .closed) {input : IssueAttentionInput}
    (made : issue.attentionInput = some input) (asOf : UtcTimestamp) :
    (input.checked asOf).flags = [] ↔ issue.recurrenceOfId = none := by
  obtain ⟨id, _, rfl⟩ := Option.map_eq_some_iff.mp made
  unfold Checked.flags IssueAttentionInput.checked
  cases issue.recurrenceOfId <;> simp [closed, metadata]

section
variable (unique : UniqueIds projection composition)

include unique

theorem actionRequest_quiet {request : ActionRequestReadRecord} (among : request ∈ composition.actionRequests)
    (finished : request.state = .accepted ∨ request.state = .declined ∨ request.state = .withdrawn) :
    (actionRequestItem projection composition thresholds request).attention = [] := by
  apply quiet_of (actionRequest_listed among)
  intro checked origin named
  obtain ⟨input, made, rfl⟩ := own_actionRequest unique origin among named
  obtain ⟨id, _, rfl⟩ := Option.map_eq_some_iff.mp made
  unfold Checked.flags ActionRequestAttentionInput.checked
  rcases finished with accepted | declined | withdrawn
  · simp [accepted]
  · simp [declined]
  · simp [withdrawn]

theorem action_quiet {action : ActionProjectionSource} (among : action ∈ projection.actions)
    (finished : action.state = .completed ∨ action.state = .cancelled) :
    (actionItem projection composition thresholds action).attention = [] := by
  apply quiet_of (action_listed among)
  intro checked origin named
  cases own_action unique origin among named
  unfold Checked.flags ActionAttentionInput.checked actionAttentionInput
  rcases finished with completed | cancelled
  · simp [completed]
  · simp [cancelled]

theorem decisionRequest_quiet {request : DecisionRequestReadRecord} (among : request ∈ composition.decisionRequests)
    (finished : request.state = .resolved ∨ request.state = .withdrawn) :
    (decisionRequestItem projection composition thresholds request).attention = [] := by
  apply quiet_of (decisionRequest_listed among)
  intro checked origin named
  obtain ⟨input, made, rfl⟩ := own_decisionRequest unique origin among named
  obtain ⟨id, _, rfl⟩ := Option.map_eq_some_iff.mp made
  unfold Checked.flags DecisionRequestAttentionInput.checked
  rcases finished with resolved | withdrawn
  · simp [resolved]
  · simp [withdrawn]

theorem risk_quiet {risk : RiskProjectionSource} (among : risk ∈ projection.risks)
    (finished : risk.state = .occurred ∨ risk.state = .closed) :
    (riskItem projection composition thresholds risk).attention = [] := by
  apply quiet_of (risk_listed among)
  intro checked origin named
  cases own_risk unique origin among named
  unfold Checked.flags RiskAttentionInput.checked riskAttentionInput RiskAttentionInput.inQueue
  rcases finished with occurred | closed
  · simp [occurred]
  · simp [closed]

theorem issue_quiet_iff {issue : IssueReadRecord} (among : issue ∈ composition.issues) (closed : issue.state = .closed) :
    (issueItem projection composition thresholds issue).attention = [] ↔
      issue.recurrenceOfId = none ∨ parseEntityId .issue issue.id = none := by
  constructor
  · intro quiet
    cases parsed : parseEntityId .issue issue.id with
    | none => exact .inr rfl
    | some id =>
      obtain ⟨input, made⟩ : ∃ input, issue.attentionInput = some input := ⟨_, Option.map_eq_some_iff.mpr ⟨id, parsed, rfl⟩⟩
      apply Or.inl
      rw [← closed_flags closed made composition.ledgerAsOfUtc, List.eq_nil_iff_forall_not_mem]
      intro flag raised
      have named : (input.checked composition.ledgerAsOfUtc).target.key = (.issue, issue.id) := by
        obtain ⟨other, again, rfl⟩ := Option.map_eq_some_iff.mp made
        exact congrArg (Prod.mk _) (parsed_asStr again)
      let loud : RankableAttentionItem := ⟨flag, Surfaces.relevantAtFor projection composition .issue issue.id⟩
      have attached : loud ∈ (issueItem projection composition thresholds issue).attention :=
        (attached_iff (issue_listed among)).mpr ⟨_, .issue issue among input made, named, raised, rfl⟩
      rw [quiet] at attached
      cases attached
  · intro unflagged
    apply quiet_of (issue_listed among)
    intro checked origin named
    obtain ⟨input, made, rfl⟩ := own_issue unique origin among named
    rcases unflagged with unlinked | unnamed
    · exact (closed_flags closed made _).mpr unlinked
    · rw [IssueReadRecord.attentionInput, unnamed] at made
      cases made

end

theorem find_own {Record : Type} {id : Record → String} {records : List Record} (distinct : (records.map id).Nodup)
    {record : Record} (among : record ∈ records) : (records.find? fun other => id other = id record) = some record := by
  cases found : records.find? fun other => decide (id other = id record) with
  | none =>
    have missed := List.find?_eq_none.mp found record among
    simp at missed
  | some other =>
    have same : id other = id record := by simpa using List.find?_some found
    rw [List.inj_on_of_nodup_map distinct (List.mem_of_find?_eq_some found) among same]

theorem attached_carried (unique : UniqueIds projection composition) {item : WorkItemFacts}
    (listed : item ∈ workItemFactsFromSnapshots projection composition thresholds) {raised : RankableAttentionItem}
    (attached : raised ∈ item.attention) :
    raised.flag.metadata.classification = item.classification ∧ raised.relevantAt = item.relevantAt := by
  obtain ⟨checked, origin, named, among, deadline⟩ := (attached_iff listed).mp attached
  rw [flags_metadata among, deadline]
  simp only [workItemFactsFromSnapshots, List.mem_append, List.mem_map] at listed
  rcases listed with (((⟨request, within, rfl⟩ | ⟨action, within, rfl⟩) | ⟨request, within, rfl⟩) |
    ⟨risk, within, rfl⟩) | ⟨issue, within, rfl⟩
  · obtain ⟨input, made, rfl⟩ := own_actionRequest unique origin within named
    obtain ⟨id, _, rfl⟩ := Option.map_eq_some_iff.mp made
    exact ⟨rfl, congrArg (Option.bind · ActionRequestReadRecord.responseDueAt) (find_own unique.actionRequests within)⟩
  · cases own_action unique origin within named
    exact ⟨rfl, congrArg (Option.map ActionProjectionSource.dueAt) (find_own unique.actions within)⟩
  · obtain ⟨input, made, rfl⟩ := own_decisionRequest unique origin within named
    obtain ⟨id, _, rfl⟩ := Option.map_eq_some_iff.mp made
    exact ⟨rfl, rfl⟩
  · cases own_risk unique origin within named
    exact ⟨rfl, congrArg (Option.bind · RiskProjectionSource.nextReviewAt) (find_own unique.risks within)⟩
  · obtain ⟨input, made, rfl⟩ := own_issue unique origin within named
    obtain ⟨id, _, rfl⟩ := Option.map_eq_some_iff.mp made
    exact ⟨rfl, rfl⟩

end

/-- An Issue that came back once more, and was closed. -/
def recurred : IssueReadRecord := ⟨"issue-2", "Again", .closed, some "issue-1", .internal, one⟩

def withIssues (issues : List IssueReadRecord) : LedgerCompositionSnapshot := { owning [] with issues }

theorem unique_withIssues {issues : List IssueReadRecord} (distinct : (issues.map (·.id)).Nodup) :
    UniqueIds projected (withIssues issues) :=
  { unique_owning [] with issues := distinct }

end MissionControl.FinishedWork

import MissionControl.Issues.Steps
import MissionControl.Risks.Composition
import MissionControl.Risks.Steps
import Mathlib.Data.List.Induction

/-! Risks and Issues stay joined. Along every run of the composition the links pair the
Occurred Risks with the Issues that name a Risk, one to one; an Issue once made keeps
its identity; and a command that fails moves neither side. -/

namespace MissionControl.RiskIssueJoin
open Risks
open Issues (IssueStore IssueRecord)

structure Joined (risks : KeyMap RiskId RiskRecord) (links : List RiskIssueLink) (authority : IssueStore) : Prop where
  keyed : ∀ (id : RiskId) (risk : RiskRecord), risks[id]? = some risk → risk.id = id
  linkedRisk : ∀ link ∈ links, ∃ risk, risks[link.riskId]? = some risk ∧ risk.state = .occurred
  linkedIssue : ∀ link ∈ links, ∃ issue, authority.get link.issueId = some issue ∧
    issue.sourceRiskId = some link.riskId
  occurred : ∀ (id : RiskId) (risk : RiskRecord), risks[id]? = some risk → risk.state = .occurred →
    ∃ link ∈ links, link.riskId = id
  sourced : ∀ id issue riskId, authority.get id = some issue → issue.sourceRiskId = some riskId →
    ∃ link ∈ links, link.issueId = id
  riskOnce : (links.map (·.riskId)).Nodup
  issueOnce : (links.map (·.issueId)).Nodup

theorem Joined.new : Joined ∅ [] .empty where
  keyed := by
    intro id risk found
    rw [KeyMap.get_empty] at found
    cases found
  linkedRisk := nofun
  linkedIssue := nofun
  occurred := by
    intro id risk found
    rw [KeyMap.get_empty] at found
    cases found
  sourced := by
    intro id issue riskId found
    rw [IssueStore.get_empty] at found
    cases found
  riskOnce := List.nodup_nil
  issueOnce := List.nodup_nil

/-- The identity of an Issue: what no change of it may touch. -/
def SameIssue (before after : IssueRecord) : Prop :=
  after.id = before.id ∧ after.sourceRiskId = before.sourceRiskId ∧ after.recurrenceOf = before.recurrenceOf

/-- Every Issue there was is still there under its identity. -/
def Keeps (before after : IssueStore) : Prop :=
  ∀ id issue, before.get id = some issue → ∃ later, after.get id = some later ∧ SameIssue issue later

theorem Keeps.refl (authority : IssueStore) : Keeps authority authority :=
  fun _ issue found => ⟨issue, found, rfl, rfl, rfl⟩

theorem Keeps.trans {first second third : IssueStore} (earlier : Keeps first second) (later : Keeps second third) :
    Keeps first third := by
  intro id issue found
  obtain ⟨between, held, sameId, sameSource, sameRecurrence⟩ := earlier id issue found
  obtain ⟨final, kept, againId, againSource, againRecurrence⟩ := later id between held
  exact ⟨final, kept, againId.trans sameId, againSource.trans sameSource, againRecurrence.trans sameRecurrence⟩

theorem keeps_new {authority : IssueStore} {issue : IssueRecord} (absent : authority.get issue.id = none) :
    Keeps authority (authority.insertFromRisk issue) := by
  intro id held found
  have different : issue.id ≠ id := by
    rintro rfl
    rw [absent] at found
    cases found
  refine ⟨held, ?_, rfl, rfl, rfl⟩
  rw [IssueStore.get_insertFromRisk, if_neg different]
  exact found

variable {before after : IssueRecord}

theorem keeps_change {authority : IssueStore} (found : authority.get before.id = some before)
    (same : SameIssue before after) : Keeps authority (authority.insertFromRisk after) := by
  intro id held stored
  rw [IssueStore.get_insertFromRisk, same.1]
  by_cases changed : before.id = id
  · subst changed
    cases found.symm.trans stored
    exact ⟨after, if_pos rfl, same⟩
  · rw [if_neg changed]
    exact ⟨held, stored, rfl, rfl, rfl⟩

section
variable {risks : KeyMap RiskId RiskRecord} {links : List RiskIssueLink} {authority : IssueStore}

theorem Joined.createdRisk {id : RiskId} {risk : RiskRecord} (joined : Joined risks links authority)
    (absent : risks[id]? = none) (named : risk.id = id) (fresh : risk.state ≠ .occurred) :
    Joined (risks.insert id risk) links authority where
  keyed := by
    intro other held found
    rw [KeyMap.get_insert] at found
    split at found
    next same => cases found; exact named.trans same
    next => exact joined.keyed other held found
  linkedRisk := by
    intro link member
    obtain ⟨held, found, state⟩ := joined.linkedRisk link member
    have different : id ≠ link.riskId := by
      rintro rfl
      rw [absent] at found
      cases found
    exact ⟨held, (KeyMap.get_insert_other risks risk different).trans found, state⟩
  linkedIssue := joined.linkedIssue
  occurred := by
    intro other held found state
    rw [KeyMap.get_insert] at found
    split at found
    next => cases found; exact absurd state fresh
    next => exact joined.occurred other held found state
  sourced := joined.sourced
  riskOnce := joined.riskOnce
  issueOnce := joined.issueOnce

theorem Joined.changedRisk {id : RiskId} {before after : RiskRecord} (joined : Joined risks links authority)
    (found : risks[id]? = some before) (named : after.id = before.id)
    (state : after.state = .occurred ↔ before.state = .occurred) :
    Joined (risks.insert id after) links authority where
  keyed := by
    intro other held stored
    rw [KeyMap.get_insert] at stored
    split at stored
    next same => cases stored; exact (named.trans (joined.keyed id before found)).trans same
    next => exact joined.keyed other held stored
  linkedRisk := by
    intro link member
    obtain ⟨held, stored, occurred⟩ := joined.linkedRisk link member
    rw [KeyMap.get_insert]
    split
    next same =>
      subst same
      cases found.symm.trans stored
      exact ⟨after, rfl, state.mpr occurred⟩
    next => exact ⟨held, stored, occurred⟩
  linkedIssue := joined.linkedIssue
  occurred := by
    intro other held stored occurred
    rw [KeyMap.get_insert] at stored
    split at stored
    next same =>
      cases stored
      exact joined.occurred other before (same ▸ found) (state.mp occurred)
    next => exact joined.occurred other held stored occurred
  sourced := joined.sourced
  riskOnce := joined.riskOnce
  issueOnce := joined.issueOnce

theorem Joined.issues {later : IssueStore} (joined : Joined risks links authority) (keeps : Keeps authority later)
    (sources : ∀ id issue riskId, later.get id = some issue → issue.sourceRiskId = some riskId →
      ∃ held, authority.get id = some held ∧ held.sourceRiskId = some riskId) :
    Joined risks links later where
  keyed := joined.keyed
  linkedRisk := joined.linkedRisk
  linkedIssue := by
    intro link member
    obtain ⟨issue, found, source⟩ := joined.linkedIssue link member
    obtain ⟨held, stored, same⟩ := keeps link.issueId issue found
    exact ⟨held, stored, same.2.1.trans source⟩
  occurred := joined.occurred
  sourced := by
    intro id issue riskId found source
    obtain ⟨held, stored, earlier⟩ := sources id issue riskId found source
    exact joined.sourced id held riskId stored earlier
  riskOnce := joined.riskOnce
  issueOnce := joined.issueOnce

theorem Joined.occurs {id : RiskId} {before after : RiskRecord} {link : RiskIssueLink} {issue : IssueRecord}
    (joined : Joined risks links authority) (found : risks[id]? = some before) (named : after.id = before.id)
    (required : before.state ≠ .occurred) (occurs : after.state = .occurred)
    (absent : authority.get issue.id = none) (source : issue.sourceRiskId = some id)
    (links' : link.riskId = id ∧ link.issueId = issue.id) :
    Joined (risks.insert id after) (links ++ [link]) (authority.insertFromRisk issue) := by
  obtain ⟨linkedRisk, linkedIssue⟩ := links'
  have unlinkedRisk : ∀ other ∈ links, other.riskId ≠ id := by
    rintro other member rfl
    obtain ⟨held, stored, occurred⟩ := joined.linkedRisk other member
    cases found.symm.trans stored
    exact required occurred
  have unlinkedIssue : ∀ other ∈ links, other.issueId ≠ issue.id := by
    intro other member same
    obtain ⟨held, stored, _⟩ := joined.linkedIssue other member
    rw [same, absent] at stored
    cases stored
  refine ⟨?_, ?_, ?_, ?_, ?_, ?_, ?_⟩
  · intro other held stored
    rw [KeyMap.get_insert] at stored
    split at stored
    next same => cases stored; exact (named.trans (joined.keyed id before found)).trans same
    next => exact joined.keyed other held stored
  · intro other member
    rcases List.mem_append.mp member with earlier | last
    · obtain ⟨held, stored, occurred⟩ := joined.linkedRisk other earlier
      exact ⟨held, (KeyMap.get_insert_other risks after (unlinkedRisk other earlier).symm).trans stored, occurred⟩
    · rw [List.mem_singleton.mp last, linkedRisk, KeyMap.get_insert_self]
      exact ⟨after, rfl, occurs⟩
  · intro other member
    rw [IssueStore.get_insertFromRisk]
    rcases List.mem_append.mp member with earlier | last
    · rw [if_neg (unlinkedIssue other earlier).symm]
      exact joined.linkedIssue other earlier
    · rw [List.mem_singleton.mp last, linkedIssue, if_pos rfl, linkedRisk]
      exact ⟨issue, rfl, source⟩
  · intro other held stored occurred
    rw [KeyMap.get_insert] at stored
    split at stored
    next same => exact ⟨link, by simp, linkedRisk.trans same⟩
    next =>
      obtain ⟨known, member, same⟩ := joined.occurred other held stored occurred
      exact ⟨known, List.mem_append_left _ member, same⟩
  · intro other held riskId stored sourced
    rw [IssueStore.get_insertFromRisk] at stored
    split at stored
    next same => exact ⟨link, by simp, linkedIssue.trans same⟩
    next =>
      obtain ⟨known, member, same⟩ := joined.sourced other held riskId stored sourced
      exact ⟨known, List.mem_append_left _ member, same⟩
  · rw [List.map_append, List.nodup_append]
    refine ⟨joined.riskOnce, by simp, ?_⟩
    rintro _ earlier _ last rfl
    obtain ⟨other, member, same⟩ := List.mem_map.mp earlier
    exact unlinkedRisk other member (same.trans ((by simpa using last : _ = link.riskId).trans linkedRisk))
  · rw [List.map_append, List.nodup_append]
    refine ⟨joined.issueOnce, by simp, ?_⟩
    rintro _ earlier _ last rfl
    obtain ⟨other, member, same⟩ := List.mem_map.mp earlier
    exact unlinkedIssue other member (same.trans ((by simpa using last : _ = link.issueId).trans linkedIssue))

end

def JoinedState (state : State) : Prop := Joined state.own.risks state.own.links state.authority

theorem riskEffect_keeps {before after : State} {operation : Operation} (effect : Effect before after operation) :
    Keeps before.authority after.authority := by
  cases effect with
  | occurred _ target current _ _ _ absent _ _ authority =>
    rw [authority]
    exact keeps_new absent
  | kept _ _ _ authority | created _ _ _ _ _ authority | responded _ _ _ _ _ _ _ authority
  | closed _ _ _ _ _ _ _ _ authority | lowered _ _ _ _ _ _ _ authority =>
    rw [authority]
    exact .refl _

theorem JoinedState.risk {before after : State} {operation : Operation} (joined : JoinedState before)
    (effect : Effect before after operation) : JoinedState after := by
  unfold JoinedState at joined ⊢
  cases effect with
  | kept _ risks links authority =>
    rw [risks, links, authority]
    exact joined
  | created command absent _ risks links authority =>
    rw [risks, links, authority]
    exact joined.createdRisk absent rfl nofun
  | responded command current later approved required risks links authority =>
    rw [risks, links, authority, joined.keyed _ _ approved.found]
    exact joined.changedRisk approved.found rfl Iff.rfl
  | occurred command target current later approved required absent risks links authority =>
    rw [risks, links, authority]
    have unoccurred : current.state ≠ .occurred := by rw [required]; exact nofun
    exact joined.occurs approved.found rfl unoccurred rfl absent rfl ⟨rfl, rfl⟩
  | closed command target current later approved required risks links authority =>
    rw [risks, links, authority]
    have state : RiskState.closed = .occurred ↔ current.state = .occurred := by
      rw [required]
      exact ⟨nofun, nofun⟩
    exact joined.changedRisk approved.found rfl state
  | lowered command target current later approved risks links authority =>
    rw [risks, links, authority]
    exact joined.changedRisk approved.found rfl Iff.rfl

theorem transitioned_same (transitioned : Issues.Transitioned before after) : SameIssue before after := by
  obtain ⟨_, _, _, supported⟩ := transitioned.supported
  exact supported.same

theorem lowered_same (lowered : Issues.Lowered before after) : SameIssue before after := by
  obtain ⟨_, _, _, rfl⟩ := lowered
  exact ⟨rfl, rfl, rfl⟩

theorem issueEffect_keeps {before after : IssueStore} {operation : Issues.Operation}
    (effect : Issues.Effect before operation after) :
    Keeps before after ∧ ∀ id issue riskId, after.get id = some issue → issue.sourceRiskId = some riskId →
      ∃ held, before.get id = some held ∧ held.sourceRiskId = some riskId := by
  have changed {issue record : IssueRecord} (found : before.get issue.id = some issue) (same : SameIssue issue record) :
      ∀ id held riskId, (before.insertFromRisk record).get id = some held → held.sourceRiskId = some riskId →
        ∃ earlier, before.get id = some earlier ∧ earlier.sourceRiskId = some riskId := by
    intro id held riskId stored source
    rw [IssueStore.get_insertFromRisk] at stored
    split at stored
    next identical =>
      cases stored
      exact ⟨issue, by rw [← identical, same.1]; exact found, same.2.1.symm.trans source⟩
    next => exact ⟨held, stored, source⟩
  cases effect with
  | kept => exact ⟨.refl _, fun id issue riskId found source => ⟨issue, found, source⟩⟩
  | created command record created =>
    obtain ⟨classification, same⟩ := created.becomes
    subst same
    refine ⟨keeps_new created.absent, ?_⟩
    intro id held riskId stored source
    rw [IssueStore.get_insertFromRisk] at stored
    split at stored
    next => cases stored; cases source
    next => exact ⟨held, stored, source⟩
  | transitioned _ _ issue record found transitioned =>
    exact ⟨keeps_change found (transitioned_same transitioned), changed found (transitioned_same transitioned)⟩
  | lowered _ issue record found lowered =>
    exact ⟨keeps_change found (lowered_same lowered), changed found (lowered_same lowered)⟩

section
variable [Sha256]

/-- What both services' commands have in common: the state stays joined and the Issues
keep their identity; a command that is refused moves nothing. -/
structure Moves (before after : WorkManagementRuntimeComposition) (reply : Reply) : Prop where
  joined : JoinedState before.risks.state → JoinedState after.risks.state
  keeps : Keeps before.authority after.authority
  refused : reply.refused = true → Unmoved before.risks.state after.risks.state

theorem risk_moves (composition : WorkManagementRuntimeComposition) (ports : Ports) (operation : Operation) :
    Moves composition (act composition (.risk ports operation)).1 (act composition (.risk ports operation)).2 := by
  obtain ⟨moves, _⟩ := step_acts composition.risks ports operation
  have effect : Effect composition.risks.state (step composition.risks ports operation).1.state operation := by
    rcases moves with unmoved | ⟨_, effect⟩
    · exact unmoved.effect
    · exact effect
  refine ⟨fun joined => joined.risk effect, ?_, ?_⟩
  · have keeps := riskEffect_keeps effect
    rw [composition.shared] at keeps
    exact keeps
  · intro refused
    rcases moves with unmoved | ⟨accepted, _⟩
    · exact unmoved
    · cases refused.symm.trans accepted

theorem issue_moves (composition : WorkManagementRuntimeComposition) (ports : Issues.Ports)
    (operation : Issues.Operation) :
    Moves composition (act composition (.issue ports operation)).1 (act composition (.issue ports operation)).2 := by
  have moves := Issues.step_effect composition.issues ports operation
  have effect : Issues.Effect composition.authority operation
      (Issues.step composition.issues ports operation).1.state.authority := by
    rcases moves with kept | ⟨_, effect⟩
    · rw [kept]
      exact .kept operation
    · exact effect
  obtain ⟨keeps, sources⟩ := issueEffect_keeps effect
  refine ⟨?_, keeps, ?_⟩
  · intro joined
    unfold JoinedState at joined
    rw [composition.shared] at joined
    exact joined.issues keeps sources
  · intro refused
    rcases moves with kept | ⟨accepted, _⟩
    · exact ⟨rfl, rfl, kept.trans composition.shared.symm⟩
    · cases refused.symm.trans accepted

theorem act_moves (composition : WorkManagementRuntimeComposition) (event : Event) :
    Moves composition (act composition event).1 (act composition event).2 := by
  cases event with
  | risk ports operation => exact risk_moves composition ports operation
  | issue ports operation => exact issue_moves composition ports operation

theorem joined_of_run (script : List Event) : JoinedState (run script).risks.state := by
  induction script using List.reverseRecOn with
  | nil => exact Joined.new
  | append_singleton earlier event joined =>
    rw [run_snoc]
    exact (act_moves (run earlier) event).joined joined

theorem keeps_of_run (composition : WorkManagementRuntimeComposition) (script : List Event) :
    Keeps composition.authority (runFrom composition script).authority := by
  induction script generalizing composition with
  | nil => exact .refl _
  | cons event rest ih => exact (act_moves composition event).keeps.trans (ih (act composition event).1)

end

theorem only_one {Item Key : Type} [DecidableEq Key] {items : List Item} {key : Item → Key}
    (once : (items.map key).Nodup) {item : Item} (member : item ∈ items) :
    items.filter (fun other => key other = key item) = [item] := by
  induction items with
  | nil => cases member
  | cons head tail ih =>
    obtain ⟨fresh, rest⟩ := List.nodup_cons.mp once
    rcases List.mem_cons.mp member with rfl | later
    · have none : tail.filter (fun other => key other = key item) = [] := by
        rw [List.filter_eq_nil_iff]
        intro other held same
        have equal : key other = key item := by simpa using same
        exact fresh (equal ▸ List.mem_map_of_mem held)
      rw [List.filter_cons_of_pos (by simp), none]
    · have different : key head ≠ key item := fun same => fresh (same ▸ List.mem_map_of_mem later)
      rw [List.filter_cons_of_neg (by simpa using different)]
      exact ih rest later

def linksOf (composition : WorkManagementRuntimeComposition) (id : RiskId) : List RiskIssueLink :=
  composition.risks.state.own.links.filter fun link => link.riskId = id

def linksTo (composition : WorkManagementRuntimeComposition) (id : IssueId) : List RiskIssueLink :=
  composition.risks.state.own.links.filter fun link => link.issueId = id

def IsOccurred (composition : WorkManagementRuntimeComposition) (id : RiskId) : Prop :=
  ∃ risk, composition.risks.state.own.risks[id]? = some risk ∧ risk.state = .occurred

section
variable {composition : WorkManagementRuntimeComposition}

theorem occurred_iff_linked (joined : JoinedState composition.risks.state) (id : RiskId) :
    IsOccurred composition id ↔ ∃ link, linksOf composition id = [link] := by
  constructor
  · rintro ⟨risk, found, occurred⟩
    obtain ⟨link, member, rfl⟩ := joined.occurred id risk found occurred
    exact ⟨link, only_one joined.riskOnce member⟩
  · rintro ⟨link, alone⟩
    have member : link ∈ linksOf composition id := by rw [alone]; exact List.mem_singleton.mpr rfl
    obtain ⟨held, named⟩ := List.mem_filter.mp member
    obtain ⟨risk, found, occurred⟩ := joined.linkedRisk link held
    rw [of_decide_eq_true named] at found
    exact ⟨risk, found, occurred⟩

theorem linked_once (joined : JoinedState composition.risks.state) {id : IssueId} {issue : IssueRecord}
    {riskId : RiskId} (found : composition.authority.get id = some issue)
    (source : issue.sourceRiskId = some riskId) : ∃ link, linksTo composition id = [link] ∧ link.riskId = riskId := by
  have shared : composition.risks.state.authority.get id = some issue := by
    rw [composition.shared]
    exact found
  obtain ⟨link, member, rfl⟩ := joined.sourced id issue riskId shared source
  obtain ⟨held, stored, named⟩ := joined.linkedIssue link member
  cases stored.symm.trans shared
  exact ⟨link, only_one joined.issueOnce member, Option.some.inj (named.symm.trans source)⟩

end

/-- After every run of the composition, whatever its surroundings answered: the Occurred
Risks are those exactly one link names; a link's Issue exists and names the link's
Risk; an Issue that names a Risk has exactly one link. Whatever follows, an Issue
stays under its id with its source and recurrence; and a refused command leaves the
Risks, the links and the Issues as they were. -/
theorem risk_and_issue_joined [Sha256] (script : List Event) :
    (∀ id, IsOccurred (run script) id ↔ ∃ link, linksOf (run script) id = [link]) ∧
    (∀ link ∈ (run script).risks.state.own.links, ∃ issue,
      (run script).authority.get link.issueId = some issue ∧ issue.sourceRiskId = some link.riskId) ∧
    (∀ id issue riskId, (run script).authority.get id = some issue → issue.sourceRiskId = some riskId →
      ∃ link, linksTo (run script) id = [link] ∧ link.riskId = riskId) ∧
    (∀ later : List Event, Keeps (run script).authority (run (script ++ later)).authority) ∧
    (∀ event, (act (run script) event).2.refused = true →
      Unmoved (run script).risks.state (act (run script) event).1.risks.state) := by
  have joined := joined_of_run script
  refine ⟨occurred_iff_linked joined, ?_, ?_, ?_, ?_⟩
  · intro link member
    have issues := joined.linkedIssue link member
    rw [(run script).shared] at issues
    exact issues
  · intro id issue riskId found source
    exact linked_once joined found source
  · intro later
    rw [run_append]
    exact keeps_of_run (run script) later
  · intro event refused
    exact (act_moves (run script) event).refused refused

end MissionControl.RiskIssueJoin

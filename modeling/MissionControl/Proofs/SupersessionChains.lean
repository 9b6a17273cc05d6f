import MissionControl.Decisions.Steps
import MissionControl.Lib.Lineage
import Mathlib.Data.List.Induction

/-! Decisions superseding one another. Every chain leads back to the Decision a
Resolved request was resolved into, and has one Effective Decision at its head. -/

namespace MissionControl.SupersessionChains
open Lineage
open Decisions (Store DecisionRecord DecisionRequestRecord Effect Call run run_snoc step_effect
  resolvedRequest supersededRecord ResolveTarget SupersedeTarget)

abbrev Requests := KeyMap DecisionRequestId DecisionRequestRecord
abbrev Records := KeyMap DecisionId DecisionRecord

def There (decisions : Records) (id : DecisionId) : Prop := ∃ record, decisions[id]? = some record

def named {Value : Type} (link : DecisionRecord → Option Value) (decisions : Records) (id : DecisionId) :
    Option Value :=
  decisions[id]?.bind link

abbrev source : Records → DecisionId → Option DecisionRequestId := named (·.sourceRequestId)

abbrev supersedes : Records → DecisionId → Option DecisionId := named (·.supersedesDecisionId)

abbrev supersededBy : Records → DecisionId → Option DecisionId := named (·.supersededByDecisionId)

def linked (requests : Requests) (id : DecisionRequestId) : Option DecisionId :=
  requests[id]?.bind (·.linkedDecisionId)

def Resolved (requests : Requests) (id : DecisionRequestId) : Prop :=
  ∃ request, requests[id]? = some request ∧ request.state = .resolved

def Root (decisions : Records) (id : DecisionId) : Prop :=
  ∃ record, decisions[id]? = some record ∧ record.supersedesDecisionId = none

def Effective (decisions : Records) (id : DecisionId) : Prop :=
  ∃ record, decisions[id]? = some record ∧ record.state = .effective

def Resolves (requests : Requests) (id : DecisionRequestId) (decisionId : DecisionId) : Prop :=
  ∃ request, requests[id]? = some request ∧ request.state = .resolved ∧ request.linkedDecisionId = some decisionId

structure Placed (record : DecisionRecord) : Prop where
  source : record.sourceRequestId.isSome = !record.supersedesDecisionId.isSome
  superseded : record.state = .superseded ↔ record.supersededByDecisionId.isSome = true

/-- What every operation keeps. -/
structure Chained (requests : Requests) (decisions : Records) : Prop where
  keyed : ∀ (id : DecisionRequestId) request, requests[id]? = some request → request.id = id
  placed : ∀ (id : DecisionId) record, decisions[id]? = some record → Placed record
  links : Linked (There decisions) (supersedes decisions) (supersededBy decisions)
  rooted : ∀ id request, source decisions id = some request → Resolves requests request id
  resolved : ∀ (id : DecisionRequestId) request, requests[id]? = some request → request.state = .resolved →
    ∃ decisionId, request.linkedDecisionId = some decisionId ∧ source decisions decisionId = some id

section
variable {decisions : Records}

variable {Value : Type} {link : DecisionRecord → Option Value}

theorem there_insert (id : DecisionId) (record : DecisionRecord) :
    There (decisions.insert id record) = fun other => id = other ∨ There decisions other := by
  funext other
  simp only [There, KeyMap.get_insert, eq_iff_iff]
  by_cases same : id = other
  · simp [same]
  · simp [same]

variable {id : DecisionId}

theorem there_insert_found {found record : DecisionRecord} (held : decisions[id]? = some found) :
    There (decisions.insert id record) = There decisions := by
  rw [there_insert]
  funext other
  apply propext
  constructor
  · rintro (rfl | there)
    · exact ⟨found, held⟩
    · exact there
  · exact .inr

theorem named_found {record : DecisionRecord} (held : decisions[id]? = some record) :
    named link decisions id = link record := by
  rw [named, held]
  rfl

theorem named_absent (absent : decisions[id]? = none) : named link decisions id = none := by
  rw [named, absent]
  rfl

theorem named_insert (id : DecisionId) (record : DecisionRecord) :
    named link (decisions.insert id record) = Function.update (named link decisions) id (link record) := by
  funext other
  by_cases same : other = id
  · subst same
    simp [named]
  · rw [Function.update_of_ne same, named, KeyMap.get_insert_other _ _ (Ne.symm same), named]

theorem named_replaced {before after : DecisionRecord} (held : decisions[id]? = some before)
    (same : link after = link before) : named link (decisions.insert id after) = named link decisions := by
  have kept : named link decisions id = link before := named_found held
  rw [named_insert, same, ← kept, Function.update_eq_self]

theorem named_added {record : DecisionRecord} (absent : decisions[id]? = none) (unlinked : link record = none) :
    named link (decisions.insert id record) = named link decisions := by
  have none : named link decisions id = none := named_absent absent
  rw [named_insert, unlinked, ← none, Function.update_eq_self]

end

namespace Chained
variable {requests : Requests} {decisions : Records}

theorem empty : Chained ∅ ∅ where
  keyed := by simp
  placed := by simp
  links := by
    have none : There ∅ = fun _ => False := by
      funext id
      simp [There]
    have unlinked (link : DecisionRecord → Option DecisionId) : named link ∅ = fun _ => Option.none :=
      funext fun id => named_absent (KeyMap.get_empty id)
    have earlier : supersedes ∅ = fun _ => Option.none := unlinked _
    have later : supersededBy ∅ = fun _ => Option.none := unlinked _
    rw [none, earlier, later]
    exact .empty
  rooted := by
    intro id request root
    cases (named_absent (KeyMap.get_empty id)).symm.trans root
  resolved := by simp

theorem stored (chained : Chained requests decisions) {request : DecisionRequestRecord}
    (replaced : ∀ old, requests[request.id]? = some old → old.state ≠ .resolved) (unresolved : request.state ≠ .resolved) :
    Chained (requests.insert request.id request) decisions where
  keyed := by
    intro id stored found
    rw [KeyMap.get_insert] at found
    split at found
    next same => cases found; exact same
    · exact chained.keyed id stored found
  placed := chained.placed
  links := chained.links
  rooted := by
    intro id cause root
    obtain ⟨old, found, resolved, links⟩ := chained.rooted id cause root
    have other : request.id ≠ cause := fun same => replaced old (same ▸ found) resolved
    exact ⟨old, by rw [KeyMap.get_insert_other _ _ other, found], resolved, links⟩
  resolved := by
    intro id stored found resolved
    rw [KeyMap.get_insert] at found
    split at found
    · cases found
      exact absurd resolved unresolved
    · exact chained.resolved id stored found resolved

variable {classification : DataClassification}

variable {later : AggregateVersion}

theorem resolve (chained : Chained requests decisions) {target : ResolveTarget} {request : DecisionRequestRecord}
    {support : SupportWitness} (found : requests[target.requestId]? = some request) (required : request.state = .open)
    (absent : decisions[target.decisionId]? = none) :
    Chained (requests.insert request.id (resolvedRequest request target.decisionId later))
      (decisions.insert target.decisionId (target.decision classification support)) := by
  have keyed : request.id = target.requestId := chained.keyed _ _ found
  have fresh : ¬ There decisions target.decisionId := by
    intro ⟨record, held⟩
    cases absent.symm.trans held
  have made : source (decisions.insert target.decisionId (target.decision classification support)) =
      Function.update (source decisions) target.decisionId (some target.requestId) := named_insert _ _
  rw [keyed]
  refine ⟨?_, ?_, ?_, ?_, ?_⟩
  · intro id stored held
    rw [KeyMap.get_insert] at held
    split at held
    next same => cases held; exact keyed.trans same
    · exact chained.keyed id stored held
  · intro id record held
    rw [KeyMap.get_insert] at held
    split at held
    · cases held
      exact ⟨rfl, nofun, nofun⟩
    · exact chained.placed id record held
  · have earlier : supersedes (decisions.insert target.decisionId (target.decision classification support)) =
        supersedes decisions := named_added absent rfl
    have later : supersededBy (decisions.insert target.decisionId (target.decision classification support)) =
        supersededBy decisions := named_added absent rfl
    rw [there_insert, earlier, later]
    exact chained.links.add_root fresh
  · intro id cause root
    rw [made] at root
    by_cases new : id = target.decisionId
    · rw [new, Function.update_self] at root
      cases root
      exact ⟨_, KeyMap.get_insert_self .., rfl, congrArg some new.symm⟩
    · rw [Function.update_of_ne new] at root
      obtain ⟨old, before, resolved, links⟩ := chained.rooted id cause root
      have other : target.requestId ≠ cause := by
        intro same
        cases found.symm.trans (same ▸ before)
        cases required.symm.trans resolved
      exact ⟨old, by rw [KeyMap.get_insert_other _ _ other, before], resolved, links⟩
  · intro id stored held resolved
    rw [made]
    rw [KeyMap.get_insert] at held
    split at held
    next same =>
      cases held
      exact ⟨target.decisionId, rfl, by rw [Function.update_self, same]⟩
    · obtain ⟨decisionId, links, root⟩ := chained.resolved id stored held resolved
      have other : decisionId ≠ target.decisionId := by
        rintro rfl
        cases (named_absent absent).symm.trans root
      exact ⟨decisionId, links, by rw [Function.update_of_ne other, root]⟩

theorem supersede (chained : Chained requests decisions) {target : SupersedeTarget} {old : DecisionRecord}
    {support : SupportWitness} (held : decisions[target.oldId]? = some old) (required : old.state = .effective)
    (absent : decisions[target.newId]? = none) :
    Chained requests ((decisions.insert target.oldId (supersededRecord old target.newId later)).insert target.newId
      (target.replacement classification support)) := by
  have distinct : target.oldId ≠ target.newId := by
    intro same
    cases absent.symm.trans (same ▸ held)
  have fresh : ¬ There decisions target.newId := by
    intro ⟨record, held⟩
    cases absent.symm.trans held
  have tip : supersededBy decisions target.oldId = none := by
    have unset : ¬ old.supersededByDecisionId.isSome = true := by
      rw [← (chained.placed target.oldId old held).superseded, required]
      exact nofun
    exact (named_found held).trans (Option.not_isSome_iff_eq_none.mp unset)
  let marked := decisions.insert target.oldId (supersededRecord old target.newId later)
  have unused : marked[target.newId]? = none := by
    rw [KeyMap.get_insert_other _ _ distinct, absent]
  have made : source (marked.insert target.newId (target.replacement classification support)) = source decisions :=
    (named_added unused rfl).trans (named_replaced held rfl)
  refine ⟨chained.keyed, ?_, ?_, made ▸ chained.rooted, made ▸ chained.resolved⟩
  · intro id record present
    rw [KeyMap.get_insert] at present
    split at present
    · cases present
      exact ⟨rfl, nofun, nofun⟩
    · rw [KeyMap.get_insert] at present
      split at present
      · cases present
        exact ⟨(chained.placed target.oldId old held).source, fun _ => rfl, fun _ => rfl⟩
      · exact chained.placed id record present
  · have earlier : supersedes (marked.insert target.newId (target.replacement classification support)) =
        Function.update (supersedes decisions) target.newId (some target.oldId) :=
      (named_insert _ _).trans (congrArg (Function.update · _ _) (named_replaced held rfl))
    have later : supersededBy (marked.insert target.newId (target.replacement classification support)) =
        Function.update (supersededBy decisions) target.oldId (some target.newId) :=
      (named_added unused rfl).trans (named_insert _ _)
    rw [there_insert, there_insert_found held, earlier, later]
    exact chained.links.add_successor fresh ⟨old, held⟩ tip

theorem lower (chained : Chained requests decisions) {id : DecisionId} {record : DecisionRecord}
    (held : decisions[id]? = some record) :
    Chained requests (decisions.insert id { record with version := later, classification }) := by
  have made : source (decisions.insert id { record with version := later, classification }) = source decisions :=
    named_replaced held rfl
  refine ⟨chained.keyed, ?_, ?_, made ▸ chained.rooted, made ▸ chained.resolved⟩
  · intro other stored present
    rw [KeyMap.get_insert] at present
    split at present
    · cases present
      exact ⟨(chained.placed id record held).source, (chained.placed id record held).superseded⟩
    · exact chained.placed other stored present
  · have earlier : supersedes (decisions.insert id { record with version := later, classification }) =
        supersedes decisions := named_replaced held rfl
    have after : supersededBy (decisions.insert id { record with version := later, classification }) =
        supersededBy decisions := named_replaced held rfl
    rw [there_insert_found held, earlier, after]
    exact chained.links

theorem after {before after : Store} (chained : Chained before.requests before.decisions)
    (effect : Effect before after) : Chained after.requests after.decisions := by
  cases effect with
  | kept requests decisions =>
    rw [requests, decisions]
    exact chained
  | created record absent drafted requests decisions =>
    rw [requests, decisions]
    refine chained.stored ?_ (by rw [drafted]; exact nofun)
    intro old found
    cases absent.symm.trans found
  | moved id record moved found required moves same requests decisions =>
    rw [requests, decisions, ← same]
    refine chained.stored ?_ moves
    intro old stored
    rw [same, chained.keyed id record found] at stored
    cases found.symm.trans stored
    exact required
  | resolved target request classification support later found required absent requests decisions =>
    rw [requests, decisions]
    exact chained.resolve found required absent
  | superseded target old classification support later found required absent requests decisions =>
    rw [requests, decisions]
    exact chained.supersede found required absent
  | lowered id record classification later found requests decisions =>
    rw [requests, decisions]
    exact chained.lower found

theorem of_run [Sha256] (script : List Call) : Chained (run script).state.requests (run script).state.decisions := by
  induction script using List.reverseRecOn with
  | nil => exact empty
  | append_singleton script call ih =>
    rw [run_snoc]
    exact ih.after (step_effect ..)

theorem root (chained : Chained requests decisions) {id : DecisionId} (there : There decisions id) :
    ∃ root record request, Reaches (supersedes decisions) id root ∧ decisions[root]? = some record ∧
      record.supersedesDecisionId = none ∧ record.sourceRequestId = some request ∧
        Resolves requests request root := by
  obtain ⟨root, reaches, last⟩ := chained.links.ends.root id
  obtain ⟨record, held⟩ := chained.links.reaches_there reaches there
  have unlinked : record.supersedesDecisionId = none := (named_found held).symm.trans last
  have sourced := (chained.placed root record held).source
  rw [unlinked] at sourced
  obtain ⟨request, source⟩ := Option.isSome_iff_exists.mp sourced
  exact ⟨root, record, request, reaches, held, unlinked, source,
    chained.rooted root request ((named_found held).trans source)⟩

theorem made (chained : Chained requests decisions) {id : DecisionRequestId} (resolved : Resolved requests id) :
    ∃ root, linked requests id = some root ∧ source decisions root = some id ∧ Root decisions root := by
  obtain ⟨request, found, state⟩ := resolved
  obtain ⟨root, links, source⟩ := chained.resolved id request found state
  obtain ⟨record, held, cause⟩ := Option.bind_eq_some_iff.mp source
  have sourced := (chained.placed root record held).source
  rw [cause, Option.isSome_some] at sourced
  refine ⟨root, ?_, source, record, held, ?_⟩
  · rw [linked, found, Option.bind_some, links]
  · rw [← Option.not_isSome_iff_eq_none]
    intro named
    rw [named] at sourced
    cases sourced

theorem bijection (chained : Chained requests decisions) :
    Set.BijOn (linked requests) {id | Resolved requests id} (some '' {id | Root decisions id}) := by
  refine ⟨?_, ?_, ?_⟩
  · intro id resolved
    obtain ⟨root, links, _, isRoot⟩ := chained.made resolved
    exact ⟨root, isRoot, links.symm⟩
  · intro first one second other same
    obtain ⟨root, links, source, _⟩ := chained.made one
    obtain ⟨other, linksOther, sourceOther, _⟩ := chained.made other
    have equal : root = other := Option.some.inj (links.symm.trans (same.trans linksOther))
    subst equal
    exact Option.some.inj (source.symm.trans sourceOther)
  · rintro _ ⟨id, ⟨record, held, unlinked⟩, rfl⟩
    obtain ⟨root, stored, request, reaches, there, _, _, resolved⟩ := chained.root ⟨record, held⟩
    have last : supersedes decisions id = none := (named_found held).trans unlinked
    rcases Relation.ReflTransGen.cases_head reaches with same | ⟨before, named, _⟩
    · subst same
      obtain ⟨stored, found, state, links⟩ := resolved
      refine ⟨request, ⟨stored, found, state⟩, ?_⟩
      rw [linked, found, Option.bind_some, links]
    · cases last.symm.trans named

theorem effective_iff (chained : Chained requests decisions) {id : DecisionId} :
    Effective decisions id ↔ There decisions id ∧ supersededBy decisions id = none := by
  constructor
  · intro ⟨record, held, effective⟩
    have unset : ¬ record.supersededByDecisionId.isSome = true := by
      rw [← (chained.placed id record held).superseded, effective]
      exact nofun
    exact ⟨⟨record, held⟩, (named_found held).trans (Option.not_isSome_iff_eq_none.mp unset)⟩
  · intro ⟨⟨record, held⟩, last⟩
    refine ⟨record, held, ?_⟩
    have unset : record.supersededByDecisionId = none := (named_found held).symm.trans last
    have placed := (chained.placed id record held).superseded
    cases state : record.state with
    | effective => rfl
    | superseded =>
      rw [state, unset] at placed
      cases placed.mp rfl

theorem head (chained : Chained requests decisions) {root : DecisionId} (isRoot : Root decisions root) :
    ∃! id, Effective decisions id ∧ Reaches (supersedes decisions) id root := by
  obtain ⟨record, held, _⟩ := isRoot
  obtain ⟨id, there, last, reaches⟩ := chained.links.headed root ⟨record, held⟩
  refine ⟨id, ⟨chained.effective_iff.mpr ⟨there, last⟩, reaches⟩, ?_⟩
  intro other ⟨effective, leads⟩
  exact chained.links.head_unique leads reaches (chained.effective_iff.mp effective).2 last

end Chained

structure WellFormed (state : Store) : Prop where
  oneSource : ∀ (id : DecisionId) record, state.decisions[id]? = some record →
    record.sourceRequestId.isSome = !record.supersedesDecisionId.isSome
  bothWays : ∀ before after, supersededBy state.decisions before = some after ↔
    supersedes state.decisions after = some before
  superseded : ∀ (id : DecisionId) record, state.decisions[id]? = some record →
    (record.state = .superseded ↔ record.supersededByDecisionId.isSome = true)
  terminates : Ends (supersedes state.decisions)
  rooted : ∀ id, There state.decisions id → ∃ root record request,
    Reaches (supersedes state.decisions) id root ∧ state.decisions[root]? = some record ∧
      record.supersedesDecisionId = none ∧ record.sourceRequestId = some request ∧
        Resolves state.requests request root
  bijection : Set.BijOn (linked state.requests) {id | Resolved state.requests id}
    (some '' {id | Root state.decisions id})
  head : ∀ request, Resolved state.requests request → ∃ root, linked state.requests request = some root ∧
    ∃! id, Effective state.decisions id ∧ Reaches (supersedes state.decisions) id root

/-- The chains are well formed in every state the commands can reach. -/
theorem well_formed [Sha256] (script : List Call) : WellFormed (run script).state := by
  have chained := Chained.of_run script
  refine ⟨?_, chained.links.bothWays, ?_, chained.links.ends, ?_, chained.bijection, ?_⟩
  · intro id record held
    exact (chained.placed id record held).source
  · intro id record held
    exact (chained.placed id record held).superseded
  · intro id there
    exact chained.root there
  · intro request resolved
    obtain ⟨root, links, _, isRoot⟩ := chained.made resolved
    exact ⟨root, links, chained.head isRoot⟩

end MissionControl.SupersessionChains

import MissionControl.Portfolio.Restart
import MissionControl.Proofs.PortfolioInvariant

/-! Every Portfolio history without a lowering is read back as it was: its snapshot passes the
check, and the service that is made of it is in the same state. -/

namespace MissionControl.Portfolio
open Checked Sorting Run
open Delivery (OperationContext Ports PrepareLowerClassification ApproveAndExecuteLowerClassification)

/-- The records of a state, without what was done to them. -/
def PortfolioState.bare (state : PortfolioState) : PortfolioState :=
  { PortfolioState.new with
    portfolios := state.portfolios
    products := state.products
    roadmaps := state.roadmaps
    kpis := state.kpis
    observations := state.observations }

section
variable {Id Record : Type} [LinearOrder Id]

theorem collect_eq {Item Value : Type} {key : Item → Id} {value : Item → Value} {items : List Item} {map : KeyMap Id Value}
    (distinct : (items.map key).Nodup)
    (same : ∀ (id : Id) held, map[id]? = some held ↔ ∃ item ∈ items, key item = id ∧ value item = held) :
    collect key value items = map := by
  refine KeyMap.ext fun id => ?_
  have apart : (items.map fun item => (key item, value item)).Pairwise fun one other => ¬ compare one.1 other.1 = .eq := by
    rw [List.pairwise_map]
    rw [List.Nodup, List.pairwise_map] at distinct
    exact distinct.imp fun different same => different (compare_eq_iff_eq.mp same)
  cases found : map[id]? with
  | some held =>
    obtain ⟨item, listed, rfl, rfl⟩ := (same id held).mp found
    exact Std.ExtTreeMap.getElem?_ofList_of_mem (compare_eq_iff_eq.mpr rfl) apart (List.mem_map.mpr ⟨item, listed, rfl⟩)
  | none =>
    refine Std.ExtTreeMap.getElem?_ofList_of_contains_eq_false ?_
    rw [List.contains_eq_mem, decide_eq_false_iff_not, List.map_map]
    intro member
    obtain ⟨item, listed, rfl⟩ := List.mem_map.mp member
    have held := (same (key item) (value item)).mpr ⟨item, listed, rfl, rfl⟩
    cases found.symm.trans held

theorem uniqueRecords_ok {id : Record → Id} {values : List Record} {map : KeyMap Id Record} (distinct : (values.map id).Nodup)
    (same : ∀ (key : Id) value, map[key]? = some value ↔ value ∈ values ∧ id value = key) :
    uniqueRecords id values = .ok map := by
  have collects (values : List Record) (before : KeyMap Id Record) (distinct : (values.map id).Nodup)
      (absent : ∀ value ∈ values, before[id value]? = none) :
      ∃ result, values.foldlM (fun result value => do
          ensure (result[id value]? = none) PortfolioRehydrationError.duplicateRecord
          return result.insert (id value) value) before = .ok result ∧
        ∀ (key : Id) value, result[key]? = some value ↔ (value ∈ values ∧ id value = key) ∨ before[key]? = some value := by
    induction values generalizing before with
    | nil => exact ⟨before, rfl, by simp⟩
    | cons head tail rest =>
      obtain ⟨once, distinct⟩ := List.nodup_cons.mp distinct
      have free : before[id head]? = none := absent head List.mem_cons_self
      obtain ⟨result, success, found⟩ := rest (before.insert (id head) head) distinct fun value listed => by
        rw [KeyMap.get_insert_other before head fun same => once (List.mem_map.mpr ⟨value, listed, same.symm⟩)]
        exact absent value (List.mem_cons_of_mem head listed)
      refine ⟨result, ?_, fun key value => ?_⟩
      · rw [List.foldlM_cons]
        exact bind_ok.mpr ⟨_, bind_ok.mpr ⟨(), ensure_ok.mpr free, rfl⟩, success⟩
      · rw [found, KeyMap.get_insert]
        split
        next own =>
          subst own
          rw [free]
          constructor
          · rintro (⟨listed, named⟩ | same)
            · exact .inl ⟨List.mem_cons_of_mem head listed, named⟩
            · cases same
              exact .inl ⟨List.mem_cons_self, rfl⟩
          · rintro (⟨listed, named⟩ | same)
            · rcases List.mem_cons.mp listed with rfl | listed
              · exact .inr rfl
              · exact .inl ⟨listed, named⟩
            · cases same
        next other =>
          constructor
          · rintro (⟨listed, named⟩ | same)
            · exact .inl ⟨List.mem_cons_of_mem head listed, named⟩
            · exact .inr same
          · rintro (⟨listed, named⟩ | same)
            · rcases List.mem_cons.mp listed with rfl | listed
              · exact absurd named other
              · exact .inl ⟨listed, named⟩
            · exact .inr same
  obtain ⟨result, success, found⟩ := collects values ∅ distinct fun _ _ => KeyMap.get_empty _
  have whole : result = map := by
    refine KeyMap.ext fun key => ?_
    ext value
    rw [found, same]
    simp
  exact whole ▸ success

variable {family : Family Id Record} {state : PortfolioState}

theorem mem_listed (keyed : family.Keyed state) {key : Id} {value : Record} :
    (family.records state)[key]? = some value ↔ value ∈ listed family state ∧ family.id value = key := by
  rw [listed, mem_sortBy, KeyMap.mem_held]
  constructor
  · intro found
    exact ⟨⟨key, found⟩, keyed key value found⟩
  · rintro ⟨⟨stored, found⟩, rfl⟩
    rw [keyed stored value found]
    exact found

theorem nodup_listed (keyed : family.Keyed state) : ((listed family state).map family.id).Nodup :=
  ((sortBy_perm _ _).map family.id).nodup_iff.mpr (KeyMap.nodup_held keyed)

theorem unique_listed (keyed : family.Keyed state) :
    uniqueRecords family.id (listed family state) = .ok (family.records state) :=
  uniqueRecords_ok (nodup_listed keyed) fun _ _ => mem_listed keyed

theorem collect_listed (keyed : family.Keyed state) :
    collect family.id id (listed family state) = family.records state := by
  refine collect_eq (nodup_listed keyed) fun key value => (mem_listed keyed).trans ?_
  constructor
  · rintro ⟨listed, named⟩
    exact ⟨value, listed, named, rfl⟩
  · rintro ⟨_, listed, named, rfl⟩
    exact ⟨listed, named⟩

theorem mapsEqual_refl (map : KeyMap Id Record) : mapsEqual map map :=
  ⟨rfl, fun _ listed => KeyMap.mem_toList.mp listed⟩

end

/-- The commands that were carried out, in their order, as they are in a state and replay to
its records. -/
structure Recorded (state : PortfolioState) (history : List PortfolioReplayCapsule) : Prop where
  ordinals : history.map (·.operationOrdinal) = List.range history.length
  next : state.nextOperationOrdinal = history.length
  room : history.length < 2 ^ 64
  stored : ∀ capsule, capsule ∈ history ↔
    ∃ (id : IdempotencyId) (stored : StoredOutcome), state.outcomes[id]? = some stored ∧ capsule = .of id stored
  once : (history.map (·.idempotencyId)).Nodup
  audited : (state.auditEvents.map (·.id)).Nodup
  replays : ∀ more, ((state.auditEvents ++ more).map (·.id)).Nodup →
    history.foldlM (replayCapsule (state.auditEvents ++ more)) ⟨.new, [], 0⟩ =
      .ok ⟨state.bare, state.auditEvents.map (·.id), state.auditEvents.length⟩

section
variable {service : Service} {history : List PortfolioReplayCapsule}

theorem Recorded.listed (recorded : Recorded service.state history) : (persistenceSnapshot service).replay = history := by
  have distinct : history.Nodup := .of_map _ recorded.once
  have entries : (service.state.outcomes.toList.map fun entry => PortfolioReplayCapsule.of entry.1 entry.2).Nodup := by
    refine .of_map (·.idempotencyId) ?_
    rw [List.map_map]
    exact KeyMap.nodup_toList service.state.outcomes
  have same : history.Perm (service.state.outcomes.toList.map fun entry => PortfolioReplayCapsule.of entry.1 entry.2) := by
    refine (List.perm_ext_iff_of_nodup distinct entries).mpr fun capsule => ?_
    rw [recorded.stored, List.mem_map]
    constructor
    · rintro ⟨id, stored, found, rfl⟩
      exact ⟨(id, stored), KeyMap.mem_toList.mpr found, rfl⟩
    · rintro ⟨⟨id, stored⟩, member, rfl⟩
      exact ⟨id, stored, KeyMap.mem_toList.mp member, rfl⟩
  have ordered : (history.map (·.operationOrdinal)).Pairwise (· < ·) := recorded.ordinals ▸ List.pairwise_lt_range
  rw [List.pairwise_map] at ordered
  have separates : Separates (comparing compare (·.operationOrdinal)) history := by
    have once : (history.map (·.operationOrdinal)).Nodup := recorded.ordinals ▸ List.nodup_range
    exact fun one first other second equal => List.inj_on_of_nodup_map once first second (compare_eq_iff_eq.mp equal)
  refine (sortBy_eq_of_perm separates same).symm.trans ?_
  refine List.Pairwise.insertionSort_eq (ordered.imp fun below => ?_)
  rw [comparing, compare_lt_iff_lt.mpr below]
  rfl

theorem Recorded.validates (recorded : Recorded service.state history) (keyed : Keyed service.state)
    (sound : Sound service.state) : (persistenceSnapshot service).validate = .ok (persistenceSnapshot service) := by
  have replays := recorded.replays [] (by rw [List.append_nil]; exact recorded.audited)
  rw [List.append_nil] at replays
  refine bind_ok.mpr ⟨_, unique_listed keyed.portfolios, bind_ok.mpr ⟨_, unique_listed keyed.products, ?_⟩⟩
  refine bind_ok.mpr ⟨_, unique_listed keyed.roadmaps, bind_ok.mpr ⟨_, unique_listed keyed.kpis, ?_⟩⟩
  refine bind_ok.mpr ⟨_, unique_listed keyed.observations, ?_⟩
  refine bind_ok.mpr ⟨(), ensure_ok.mpr fun observation listed => ?_, ?_⟩
  · have found := (mem_listed keyed.observations).mpr ⟨listed, rfl⟩
    obtain ⟨definition, stands, _⟩ := sound _ observation found
    exact KeyMap.contains_iff.mpr ⟨definition, stands⟩
  refine bind_ok.mpr ⟨(), ensure_ok.mpr recorded.audited, ?_⟩
  refine bind_ok.mpr ⟨(), ensure_ok.mpr (recorded.listed ▸ recorded.once), ?_⟩
  refine bind_ok.mpr ⟨(), ?_, rfl⟩
  have ordered : sortBy (comparing compare (·.operationOrdinal)) (persistenceSnapshot service).replay = history := by
    have again : sortBy (comparing compare (·.operationOrdinal)) (persistenceSnapshot service).replay =
        (persistenceSnapshot service).replay := (sortBy_sorted _).insertionSort_eq
    rw [again, recorded.listed]
  unfold validatePortfolioTimeline
  rw [ordered]
  refine bind_ok.mpr ⟨(), ensure_ok.mpr recorded.ordinals, bind_ok.mpr ⟨_, replays, ?_⟩⟩
  refine bind_ok.mpr ⟨(), ensure_ok.mpr (List.length_map _), ensure_ok.mpr ?_⟩
  exact ⟨mapsEqual_refl _, mapsEqual_refl _, mapsEqual_refl _, mapsEqual_refl _, mapsEqual_refl _⟩

theorem max_range {count : Nat} : (List.range count).max? = if count = 0 then none else some (count - 1) := by
  cases count with
  | zero => rfl
  | succ last =>
    rw [if_neg (Nat.succ_ne_zero last), List.max?_eq_some_iff]
    exact ⟨List.mem_range.mpr (by omega), fun other listed => by have := List.mem_range.mp listed; omega⟩

theorem Recorded.rehydrates (recorded : Recorded service.state history) (keyed : Keyed service.state) :
    (rehydrate (persistenceSnapshot service)).state = service.state := by
  have outcomes : collect (·.idempotencyId) (·.outcome) (persistenceSnapshot service).replay = service.state.outcomes := by
    rw [recorded.listed]
    refine collect_eq recorded.once fun id stored => ?_
    constructor
    · intro found
      exact ⟨.of id stored, (recorded.stored _).mpr ⟨id, stored, found, rfl⟩, rfl, rfl⟩
    · rintro ⟨capsule, listed, rfl, rfl⟩
      obtain ⟨id, stored, found, rfl⟩ := (recorded.stored capsule).mp listed
      exact found
  have ordinal : (rehydrate (persistenceSnapshot service)).state.nextOperationOrdinal = service.state.nextOperationOrdinal := by
    have room := recorded.room
    simp only [rehydrate]
    rw [recorded.listed, recorded.ordinals, recorded.next, max_range]
    split <;> rename_i last
    · split at last
      next empty => exact empty.symm
      next => cases last
    · split at last
      next => cases last
      next => cases last; omega
  have portfolios := collect_listed keyed.portfolios
  have products := collect_listed keyed.products
  have roadmaps := collect_listed keyed.roadmaps
  have kpis := collect_listed keyed.kpis
  have observations := collect_listed keyed.observations
  obtain ⟨state, _, _, _⟩ := service
  obtain ⟨_, _, _, _, _, _, _, _⟩ := state
  exact (PortfolioState.mk.injEq ..).mpr ⟨portfolios, products, roadmaps, kpis, observations, outcomes, rfl, ordinal⟩

end

section
variable {audits : List AuditEvent}

theorem auditOf_eq (distinct : (audits.map (·.id)).Nodup) {event : AuditEvent} (listed : event ∈ audits) :
    auditOf audits event.id = some event := by
  unfold auditOf
  cases found : audits.find? (·.id = event.id) with
  | none => exact absurd (decide_eq_true rfl) (List.find?_eq_none.mp found event listed)
  | some other =>
    have named : other.id = event.id := by simpa using List.find?_some found
    exact congrArg some (List.inj_on_of_nodup_map distinct (List.mem_of_find?_eq_some found) listed named)

theorem claim_ok (earlier events more : List AuditEvent) (same : audits = earlier ++ events ++ more)
    (distinct : (audits.map (·.id)).Nodup) (records : PortfolioState) :
    claim audits (events.map (·.id)) ⟨records, earlier.map (·.id), earlier.length⟩ =
      .ok ⟨records, (earlier ++ events).map (·.id), (earlier ++ events).length⟩ := by
  induction events generalizing earlier with
  | nil => rw [List.append_nil]; rfl
  | cons event rest following =>
    have again : audits = (earlier ++ [event]) ++ rest ++ more := by
      rw [same, List.append_assoc earlier [event] rest]
      rfl
    have onwards := following (earlier ++ [event]) again
    rw [List.append_assoc, List.singleton_append, List.map_append, List.length_append] at onwards
    refine bind_ok.mpr ⟨(), ensure_ok.mpr ⟨?_, ?_, ?_⟩, onwards⟩
    · have apart := distinct
      rw [same, List.append_assoc, List.map_append] at apart
      exact fun listed => List.disjoint_of_nodup_append apart listed (by simp)
    · simp [same]
    · rw [auditOf_eq distinct (by simp [same])]
      rfl

structure Carried (ports : Ports) (before : PortfolioState) (context : OperationContext) (command : CommandIdentity)
    (result : StoredResult) (audit : AuditEvent) (rest : List AuditEvent) (derived : List DerivedKpiObservationMutation)
    (placed : PortfolioState) : Prop where
  fresh : Fresh before context
  outcomes : placed.outcomes = before.outcomes
  auditEvents : placed.auditEvents = before.auditEvents
  paired : rest.length = derived.length
  derives : command.updatesKpi = true ∨ derived = []
  drawn : ∀ (index : Nat) (event : AuditEvent), (audit :: rest)[index]? = some event →
    ports.nextAuditEventId index = some event.id
  replays : ∀ (audits : List AuditEvent) (capsule : PortfolioReplayCapsule),
    (∀ event ∈ audit :: rest, auditOf audits event.id = some event) → capsule.command = command → capsule.result = result →
    capsule.correlationId = context.correlationId → capsule.auditEventIds = (audit :: rest).map (·.id) →
    capsule.derivedKpiObservationMutations = derived →
    ∃ target code, RecordsMutation audit code target context.correlationId ∧
      validateCapsule audits before.bare capsule = .ok ⟨audit, target, code, placed.bare⟩

def Carries (ports : Ports) (before : PortfolioState) (context : OperationContext) (next : Nat → PortfolioState) : Prop :=
  ∃ command result audit rest derived placed,
    next = remember context command result (audit :: rest) derived placed ∧
    Carried ports before context command result audit rest derived placed

structure Unrepeated (ports : Ports) (state : PortfolioState) : Prop where
  unused : ∀ draw id, ports.nextAuditEventId draw = some id → id ∉ state.auditEvents.map (·.id)
  apart : ∀ draw other id, ports.nextAuditEventId draw = some id → ports.nextAuditEventId other = some id → draw = other

variable {ports : Ports} {before : PortfolioState} {context : OperationContext}

theorem Unrepeated.nodup (unrepeated : Unrepeated ports before) (distinct : (before.auditEvents.map (·.id)).Nodup)
    {events : List AuditEvent} (drawn : ∀ (index : Nat) (event : AuditEvent), events[index]? = some event →
      ports.nextAuditEventId index = some event.id) : ((before.auditEvents ++ events).map (·.id)).Nodup := by
  rw [List.map_append, List.nodup_append]
  refine ⟨distinct, ?_, ?_⟩
  · rw [List.nodup_iff_injective_get, ← List.nodup_iff_injective_get, List.nodup_iff_getElem?_ne_getElem?]
    intro first second below bound same
    rw [List.length_map] at bound
    have one := drawn first events[first] (List.getElem?_eq_getElem (below.trans bound))
    have other := drawn second events[second] (List.getElem?_eq_getElem bound)
    have equal : events[first].id = events[second].id := by
      simpa [List.getElem?_map, List.getElem?_eq_getElem bound, List.getElem?_eq_getElem (below.trans bound)] using same
    exact absurd (unrepeated.apart _ _ _ one (equal ▸ other)) below.ne
  · rintro id held _ listed rfl
    obtain ⟨event, member, rfl⟩ := List.mem_map.mp listed
    obtain ⟨index, found⟩ := List.mem_iff_getElem?.mp member
    exact unrepeated.unused _ _ (drawn index event found) held

theorem Recorded.carried {history : List PortfolioReplayCapsule} (recorded : Recorded before history)
    (unrepeated : Unrepeated ports before) (room : before.nextOperationOrdinal + 1 < 2 ^ 64) {next : Nat → PortfolioState}
    (carries : Carries ports before context next) : ∃ history, Recorded (next before.nextOperationOrdinal) history := by
  obtain ⟨command, result, audit, rest, derived, placed, rfl, carried⟩ := carries
  obtain ⟨fresh, outcomes, auditEvents, paired, derives, drawn, replays⟩ := carried
  let stored : StoredOutcome := ⟨command, result, context.correlationId, (audit :: rest).map (·.id),
    before.nextOperationOrdinal, derived⟩
  have distinct := unrepeated.nodup recorded.audited drawn
  have appended : (remember context command result (audit :: rest) derived placed before.nextOperationOrdinal).auditEvents =
      before.auditEvents ++ audit :: rest := by rw [← auditEvents]; rfl
  have unrecorded : context.idempotencyId ∉ history.map (·.idempotencyId) := by
    intro listed
    obtain ⟨capsule, member, named⟩ := List.mem_map.mp listed
    obtain ⟨id, stored, found, rfl⟩ := (recorded.stored capsule).mp member
    replace named : id = context.idempotencyId := named
    rw [named] at found
    cases fresh.symm.trans found
  refine ⟨history ++ [.of context.idempotencyId stored], ?_, ?_, ?_, fun capsule => ?_, ?_, ?_, fun more whole => ?_⟩
  · rw [List.map_append, List.length_append, recorded.ordinals, List.length_singleton, List.range_succ, ← recorded.next]
    rfl
  · rw [List.length_append, ← recorded.next]
    rfl
  · rw [List.length_append, ← recorded.next]
    exact room
  · rw [List.mem_append, recorded.stored, List.mem_singleton]
    constructor
    · rintro (⟨id, held, found, rfl⟩ | rfl)
      · refine ⟨id, held, ?_, rfl⟩
        have different : context.idempotencyId ≠ id := by
          rintro rfl
          cases fresh.symm.trans found
        exact (KeyMap.get_insert_other _ _ different).trans (by rw [outcomes]; exact found)
      · exact ⟨context.idempotencyId, stored, KeyMap.get_insert_self _ _ _, rfl⟩
    · rintro ⟨id, held, found, rfl⟩
      replace found := (KeyMap.get_insert _ _ _ _).symm.trans found
      split at found
      next same =>
        cases found
        subst same
        exact .inr rfl
      next => exact .inl ⟨id, held, outcomes ▸ found, rfl⟩
  · rw [List.map_append, List.nodup_append]
    refine ⟨recorded.once, List.nodup_singleton _, ?_⟩
    rintro id held _ listed rfl
    replace listed : id = context.idempotencyId := List.mem_singleton.mp listed
    exact unrecorded (listed ▸ held)
  · rw [appended]
    exact distinct
  · rw [appended] at whole ⊢
    have earlier := recorded.replays (audit :: rest ++ more) (by rw [← List.append_assoc]; exact whole)
    rw [← List.append_assoc] at earlier
    have found (event : AuditEvent) (listed : event ∈ audit :: rest) :
        auditOf (before.auditEvents ++ audit :: rest ++ more) event.id = some event :=
      auditOf_eq whole (List.mem_append_left _ (List.mem_append_right _ listed))
    obtain ⟨target, code, records, accepted⟩ := replays _ (.of context.idempotencyId stored) found rfl rfl rfl rfl rfl
    rw [List.foldlM_append]
    refine bind_ok.mpr ⟨_, earlier, ?_⟩
    refine bind_ok.mpr ⟨_, bind_ok.mpr ⟨(), ensure_ok.mpr ⟨List.cons_ne_nil _ _, ?_⟩, ?_⟩, rfl⟩
    · exact (List.length_map _).trans (congrArg (· + 1) paired)
    refine bind_ok.mpr ⟨_, claim_ok before.auditEvents (audit :: rest) more rfl whole _, ?_⟩
    refine bind_ok.mpr ⟨audit.id, rfl, bind_ok.mpr ⟨audit, ?_, ?_⟩⟩
    · rw [found audit List.mem_cons_self]
      rfl
    exact bind_ok.mpr ⟨(), ensure_ok.mpr derives, bind_ok.mpr ⟨_, accepted,
      bind_ok.mpr ⟨(), ensure_ok.mpr ⟨rfl, rfl, records⟩, rfl⟩⟩⟩

end

section
variable {ports : Ports} {before : PortfolioState} {context : OperationContext} {command : CommandIdentity}
  {code : AuditEventCode} {now : UtcTimestamp}

theorem prepareAudit_records {draw : Nat} {target : AuditTarget} {event : AuditEvent}
    (success : prepareAudit context ports draw target code now = .ok event) :
    ports.nextAuditEventId draw = some event.id ∧ event.occurredAt = now ∧
      RecordsMutation event code target context.correlationId := by
  obtain ⟨id, drawn, success⟩ := bind_ok.mp success
  obtain ⟨disposition, disposed, success⟩ := bind_ok.mp success
  cases pure_ok.mp success
  replace disposed := relabel_ok.mp disposed
  unfold AuditDisposition.new at disposed
  split at disposed
  · cases disposed
    exact ⟨require_ok.mp drawn, rfl, rfl, rfl, rfl, rfl, rfl, rfl, rfl, rfl, rfl, rfl⟩
  · split at disposed <;> cases disposed

/-- What is decided is an answer given before, or a command that was carried out. -/
def Carrying {Record : Type} (ports : Ports) (before : PortfolioState) (context : OperationContext)
    (decided : Except DomainError (Decision Record)) : Prop :=
  ∀ outcome next, decided = .ok (.committed outcome next) → Carries ports before context next

variable {Id Record : Type} [LinearOrder Id] {family : Family Id Record}

theorem Carrying.orReplayed {fresh : Except DomainError (Decision Record)}
    (carrying : Fresh before context → Carrying ports before context fresh) :
    Carrying ports before context (orReplayed context family before command fresh) := by
  intro outcome next success
  rcases orReplayed_ok success with ⟨_, _, same⟩ | ⟨unanswered, same⟩
  · cases same
  · exact carrying unanswered outcome next same

theorem commit_carries {value : Record} {id : Id} (fresh : Fresh before context) (own : family.id value = id)
    (frame : (family.place before value).outcomes = before.outcomes ∧
      (family.place before value).auditEvents = before.auditEvents)
    (accepts : ∀ audits capsule (audit : AuditEvent), audit.occurredAt = now → capsule.command = command →
      capsule.result = family.result ⟨value, audit⟩ →
      validateCapsule audits before.bare capsule =
        .ok ⟨audit, family.auditTarget id, code, (family.place before value).bare⟩) :
    Carrying ports before context (commit context family ports command code now value before) := by
  intro outcome next success
  obtain ⟨audit, audited, success⟩ := bind_ok.mp success
  cases pure_ok.mp success
  obtain ⟨drawn, occurred, records⟩ := prepareAudit_records audited
  rw [own] at records
  refine ⟨command, _, audit, [], [], _, rfl, fresh, frame.1, frame.2, rfl, .inr rfl, fun index event listed => ?_,
    fun audits capsule _ named answered _ _ _ => ⟨_, _, records, accepts audits capsule audit occurred named answered⟩⟩
  cases index with
  | zero => cases listed; exact drawn
  | succ => cases listed

section
variable (simple : SimplePersistenceRecord Id Record)

theorem stageCreate_carries {value : Record}
    (frame : (simple.family.place before value).outcomes = before.outcomes ∧
      (simple.family.place before value).auditEvents = before.auditEvents)
    (accepts : ∀ audits capsule (audit : AuditEvent), capsule.command = command →
      capsule.result = simple.family.result ⟨value, audit⟩ → (simple.family.records before)[simple.family.id value]? = none →
      validateCapsule audits before.bare capsule =
        .ok ⟨audit, simple.family.auditTarget (simple.family.id value), code, (simple.family.place before value).bare⟩) :
    Carrying ports before context
      (stageCreate simple.family (commit context simple.family) context command code value before ports) := by
  refine .orReplayed fun fresh outcome next success => ?_
  obtain ⟨_, absent, success⟩ := bind_ok.mp success
  exact commit_carries fresh rfl frame (fun audits capsule audit _ named answered =>
    accepts audits capsule audit named answered (ensure_ok.mp absent)) outcome next success

theorem stageUpdate_carries {id : Id} {expected : AggregateVersion} {requested : Option DataClassification}
    {change : Record → AggregateVersion → DataClassification → Record}
    (own : ∀ current version classification, (simple.family.records before)[id]? = some current →
      simple.family.id (change current version classification) = id)
    (frame : ∀ value, (simple.family.place before value).outcomes = before.outcomes ∧
      (simple.family.place before value).auditEvents = before.auditEvents)
    (accepts : ∀ audits capsule (audit : AuditEvent) current version classification, capsule.command = command →
      capsule.result = simple.family.result ⟨change current version classification, audit⟩ →
      (simple.family.records before)[id]? = some current → simple.family.version current = expected →
      expected.next = some version → classification = requested.getD (simple.family.classification current) →
      (simple.family.classification current).combine classification = classification →
      validateCapsule audits before.bare capsule =
        .ok ⟨audit, simple.family.auditTarget id, code,
          (simple.family.place before (change current version classification)).bare⟩) :
    Carrying ports before context (stageUpdate simple.family (commit context simple.family) context command code id expected
      requested change before ports) := by
  refine .orReplayed fun fresh outcome next success => ?_
  obtain ⟨current, found, success⟩ := bind_ok.mp success
  obtain ⟨_, standing, success⟩ := bind_ok.mp success
  obtain ⟨version, advanced, success⟩ := bind_ok.mp success
  obtain ⟨classification, asked, success⟩ := bind_ok.mp success
  obtain ⟨classified, rises⟩ := requestedClassification_ok asked
  have expects : simple.family.version current = expected := ensure_ok.mp standing
  refine commit_carries fresh (own current version classification (require_ok.mp found)) (frame _)
    (fun audits capsule audit _ named answered => ?_) outcome next success
  exact accepts audits capsule audit current version classification named answered (require_ok.mp found) expects
    (expects ▸ nextVersion_ok advanced) classified (DataClassification.combine_eq_right.mpr rises)

end

theorem stageCreatePortfolio_carries (intent : CreatePortfolio) :
    Carrying ports before intent.context (stageCreatePortfolio intent before ports) := by
  refine stageCreate_carries simplePortfolios ⟨rfl, rfl⟩ fun audits capsule audit named answered absent => ?_
  unfold validateCapsule
  rw [named, answered]
  exact bind_ok.mpr ⟨(), ensure_ok.mpr ⟨rfl, rfl, rfl, rfl, rfl, rfl, absent⟩, rfl⟩

theorem stageCreateProduct_carries (intent : CreateProduct) :
    Carrying ports before intent.context (stageCreateProduct intent before ports) := by
  refine stageCreate_carries simpleProducts ⟨rfl, rfl⟩ fun audits capsule audit named answered absent => ?_
  unfold validateCapsule
  rw [named, answered]
  exact bind_ok.mpr ⟨(), ensure_ok.mpr ⟨rfl, rfl, rfl, rfl, rfl, rfl, absent⟩, rfl⟩

theorem stageCreateRoadmap_carries (intent : CreateRoadmap) :
    Carrying ports before intent.context (stageCreateRoadmap intent before ports) := by
  refine stageCreate_carries simpleRoadmaps ⟨rfl, rfl⟩ fun audits capsule audit named answered absent => ?_
  unfold validateCapsule
  rw [named, answered]
  exact bind_ok.mpr ⟨(), ensure_ok.mpr ⟨rfl, rfl, rfl, rfl, rfl, rfl, absent⟩, rfl⟩

variable (keyed : Keyed before)
include keyed

theorem stageUpdatePortfolioDetails_carries (intent : UpdatePortfolioDetails) :
    Carrying ports before intent.context (stageUpdatePortfolioDetails intent before ports) := by
  refine stageUpdate_carries simplePortfolios (fun current _ _ => keyed.portfolios intent.id current) (fun _ => ⟨rfl, rfl⟩)
    fun audits capsule audit current version classification named answered found standing next asked rises => ?_
  unfold validateCapsule
  rw [named, answered]
  exact bind_ok.mpr ⟨current, require_ok.mpr found,
    bind_ok.mpr ⟨(), ensure_ok.mpr ⟨standing, next, rfl, rfl, rfl, rfl, rises, asked⟩, rfl⟩⟩

theorem stageUpdateProductDetails_carries (intent : UpdateProductDetails) :
    Carrying ports before intent.context (stageUpdateProductDetails intent before ports) := by
  refine stageUpdate_carries simpleProducts (fun current _ _ => keyed.products intent.id current) (fun _ => ⟨rfl, rfl⟩)
    fun audits capsule audit current version classification named answered found standing next asked rises => ?_
  unfold validateCapsule
  rw [named, answered]
  exact bind_ok.mpr ⟨current, require_ok.mpr found,
    bind_ok.mpr ⟨(), ensure_ok.mpr ⟨standing, next, rfl, rfl, rfl, rfl, rises, asked⟩, rfl⟩⟩

theorem stageUpdateRoadmapDetails_carries (intent : UpdateRoadmapDetails) :
    Carrying ports before intent.context (stageUpdateRoadmapDetails intent before ports) := by
  refine stageUpdate_carries simpleRoadmaps (fun current _ _ => keyed.roadmaps intent.id current) (fun _ => ⟨rfl, rfl⟩)
    fun audits capsule audit current version classification named answered found standing next asked rises => ?_
  unfold validateCapsule
  rw [named, answered]
  exact bind_ok.mpr ⟨current, require_ok.mpr found,
    bind_ok.mpr ⟨(), ensure_ok.mpr ⟨standing, next, rfl, rfl, rfl, rfl, rises, asked⟩, rfl⟩⟩

omit keyed in
theorem stageCreateKpiObservation_carries (intent : CreateKpiObservation) :
    Carrying ports before intent.context (stageCreateKpiObservation intent before ports) := by
  refine .orReplayed fun fresh outcome next success => ?_
  obtain ⟨_, absent, success⟩ := bind_ok.mp success
  obtain ⟨definition, parent, success⟩ := bind_ok.mp success
  refine commit_carries fresh rfl ⟨rfl, rfl⟩ (fun audits capsule audit occurred named answered => ?_) outcome next success
  unfold validateCapsule
  rw [named, answered]
  refine bind_ok.mpr ⟨definition, require_ok.mpr (require_ok.mp parent), bind_ok.mpr ⟨(), ensure_ok.mpr ?_, rfl⟩⟩
  exact ⟨rfl, rfl, rfl, rfl, rfl, rfl, rfl, rfl, rfl, occurred.symm, ensure_ok.mp absent⟩

theorem stageUpdateKpiObservationDetails_carries (intent : UpdateKpiObservationDetails) :
    Carrying ports before intent.context (stageUpdateKpiObservationDetails intent before ports) := by
  refine .orReplayed fun fresh outcome next success => ?_
  obtain ⟨current, found, success⟩ := bind_ok.mp success
  obtain ⟨_, standing, success⟩ := bind_ok.mp success
  obtain ⟨version, advanced, success⟩ := bind_ok.mp success
  obtain ⟨requested, asked, success⟩ := bind_ok.mp success
  obtain ⟨definition, parent, success⟩ := bind_ok.mp success
  replace found := require_ok.mp found
  obtain ⟨rfl, rises⟩ := requestedClassification_ok asked
  have own : current.id = intent.id := keyed.observations intent.id current found
  have expects : current.version = intent.expectedVersion := ensure_ok.mp standing
  refine commit_carries fresh own ⟨rfl, rfl⟩ (fun audits capsule audit occurred named answered => ?_) outcome next success
  unfold validateCapsule
  rw [named, answered]
  exact bind_ok.mpr ⟨current, require_ok.mpr found, bind_ok.mpr ⟨definition, require_ok.mpr (require_ok.mp parent),
    bind_ok.mpr ⟨(), ensure_ok.mpr ⟨expects, expects ▸ nextVersion_ok advanced, own, rfl, rfl, rfl, rfl, rfl, rfl,
      congrArg (max · current.updatedAt) occurred.symm, DataClassification.combine_eq_right.mpr rises, rfl⟩, rfl⟩⟩⟩

omit keyed
section
variable {value : KpiDefinitionRecord}

variable {results : List (KpiObservationRecord × AuditEvent × DerivedKpiObservationMutation)}

theorem inheritAll_drawn {draw : Nat} {items : List KpiObservationRecord}
    (success : inheritAll context ports value now draw items = .ok results) {position : Nat}
    {entry : KpiObservationRecord × AuditEvent × DerivedKpiObservationMutation}
    (listed : results[position]? = some entry) : ports.nextAuditEventId (draw + position) = some entry.2.1.id := by
  induction items generalizing draw results position with
  | nil => cases success; cases listed
  | cons head rest following =>
    obtain ⟨raised, first, success⟩ := bind_ok.mp success
    obtain ⟨others, onwards, success⟩ := bind_ok.mp success
    cases pure_ok.mp success
    cases position with
    | zero =>
      cases listed
      obtain ⟨_, _, first⟩ := bind_ok.mp first
      obtain ⟨_, audited, first⟩ := bind_ok.mp first
      cases pure_ok.mp first
      exact (prepareAudit_records audited).1
    | succ position =>
      rw [Nat.add_comm position 1, ← Nat.add_assoc]
      exact following onwards listed

theorem inheritAll_replays {audits : List AuditEvent} {capsule : PortfolioReplayCapsule} {draw index : Nat}
    {items : List KpiObservationRecord} {records : PortfolioState}
    (correlated : capsule.correlationId = context.correlationId)
    (success : inheritAll context ports value now draw items = .ok results)
    (named : ∀ (position : Nat) entry, results[position]? = some entry →
      capsule.auditEventIds[index + position + 1]? = some entry.2.1.id)
    (found : ∀ entry ∈ results, auditOf audits entry.2.1.id = some entry.2.1) :
    replayInherited audits capsule value now index items (results.map (·.2.2)) records =
      .ok ((results.map Prod.fst).foldl observations.place records) := by
  induction items generalizing draw index results records with
  | nil => cases success; rfl
  | cons head rest following =>
    obtain ⟨raised, first, success⟩ := bind_ok.mp success
    obtain ⟨others, onwards, success⟩ := bind_ok.mp success
    cases pure_ok.mp success
    obtain ⟨version, advanced, first⟩ := bind_ok.mp first
    obtain ⟨audit, audited, first⟩ := bind_ok.mp first
    cases pure_ok.mp first
    obtain ⟨_, occurred, recorded⟩ := prepareAudit_records audited
    refine bind_ok.mpr ⟨version, require_ok.mpr (nextVersion_ok advanced), ?_⟩
    refine bind_ok.mpr ⟨audit.id, require_ok.mpr (named 0 _ rfl), ?_⟩
    refine bind_ok.mpr ⟨audit, require_ok.mpr (found _ List.mem_cons_self), ?_⟩
    refine bind_ok.mpr ⟨(), ensure_ok.mpr ⟨rfl, rfl, rfl, rfl, rfl, rfl, rfl, rfl, occurred, correlated ▸ recorded⟩, ?_⟩
    refine following onwards (fun position entry listed => ?_) fun entry listed => found entry (List.mem_cons_of_mem _ listed)
    rw [Nat.add_right_comm index 1 position]
    exact named (position + 1) entry listed

theorem placeAll_frame (raised : List KpiObservationRecord) (state : PortfolioState) :
    (raised.foldl observations.place state).outcomes = state.outcomes ∧
      (raised.foldl observations.place state).auditEvents = state.auditEvents := by
  induction raised generalizing state with
  | nil => exact ⟨rfl, rfl⟩
  | cons head _ rest => exact rest (observations.place state head)

theorem placeAll_bare (raised : List KpiObservationRecord) (state : PortfolioState) :
    (raised.foldl observations.place (kpis.place state value)).bare =
      kpis.place (raised.foldl observations.place state.bare) value := by
  induction raised generalizing state with
  | nil => rfl
  | cons head _ rest => exact rest (observations.place state head)

theorem commitKpi_carries (id : KpiId) (fresh : Fresh before context) (own : value.id = id)
    (derives : command.updatesKpi = true ∨ affected value before = [])
    (accepts : ∀ audits capsule (audit : AuditEvent) raised, audit.occurredAt = now → capsule.command = command →
      capsule.result = .kpi ⟨value, audit⟩ → List.Forall₂ (Raises value) (affected value before) raised →
      (affected value before).length = capsule.derivedKpiObservationMutations.length →
      replayInherited audits capsule value now 0 (affected value before) capsule.derivedKpiObservationMutations before.bare =
        .ok (raised.foldl observations.place before.bare) →
      validateCapsule audits before.bare capsule =
        .ok ⟨audit, .kpi id, code, kpis.place (raised.foldl observations.place before.bare) value⟩) :
    Carrying ports before context (commitKpi context ports command code now value before) := by
  intro outcome next success
  obtain ⟨audit, audited, success⟩ := bind_ok.mp success
  obtain ⟨raised, inherits, success⟩ := bind_ok.mp success
  cases pure_ok.mp success
  obtain ⟨drawn, occurred, records⟩ := prepareAudit_records audited
  have raises := inheritAll_raises inherits
  have paired : (affected value before).length = raised.length := raises.length_eq.trans (List.length_map _)
  obtain ⟨outcomes, auditEvents⟩ := placeAll_frame (raised.map Prod.fst) (kpis.place before value)
  refine ⟨command, _, audit, _, _, _, rfl, fresh, outcomes, auditEvents, ?_, ?_, fun index event listed => ?_,
    fun audits capsule found named answered correlated identified derived =>
      ⟨.kpi id, code, own ▸ records, (accepts audits capsule audit _ occurred named answered raises ?_ ?_).trans ?_⟩⟩
  · rw [List.length_map, List.length_map]
  · refine derives.imp_right fun none => ?_
    rw [none] at paired
    rw [List.eq_nil_of_length_eq_zero paired.symm]
    rfl
  · cases index with
    | zero => cases listed; exact drawn
    | succ position =>
      rw [List.getElem?_cons_succ, List.getElem?_map] at listed
      obtain ⟨entry, held, rfl⟩ := Option.map_eq_some_iff.mp listed
      rw [Nat.add_comm]
      exact inheritAll_drawn inherits held
  · rw [derived, List.length_map]
    exact paired
  · rw [derived]
    refine inheritAll_replays correlated inherits (fun position entry held => ?_) fun entry held => ?_
    · rw [identified, Nat.zero_add, List.map_cons, List.getElem?_cons_succ, List.getElem?_map, List.getElem?_map, held]
      rfl
    · exact found _ (List.mem_cons_of_mem _ (List.mem_map.mpr ⟨entry, held, rfl⟩))
  · rw [placeAll_bare]

end

theorem Sound.unaffected (sound : Sound before) {value : KpiDefinitionRecord}
    (absent : (kpis.records before)[kpis.id value]? = none) : affected value before = [] := by
  refine List.eq_nil_iff_forall_not_mem.mpr fun observation listed => ?_
  obtain ⟨⟨id, stored⟩, belongs, _⟩ := mem_affected.mp listed
  obtain ⟨definition, stands, _⟩ := sound id observation stored
  rw [belongs] at stands
  cases absent.symm.trans stands

theorem stageCreateKpiDefinition_carries (sound : Sound before) (intent : CreateKpiDefinition) :
    Carrying ports before intent.context (stageCreateKpiDefinition intent before ports) := by
  refine .orReplayed fun fresh outcome next success => ?_
  obtain ⟨_, absent, success⟩ := bind_ok.mp success
  replace absent := ensure_ok.mp absent
  have unaffected := sound.unaffected absent
  refine commitKpi_carries intent.id fresh rfl (.inr unaffected)
    (fun audits capsule audit raised _ named answered raises _ _ => ?_) outcome next success
  rw [unaffected] at raises
  cases raises
  unfold validateCapsule
  rw [named, answered]
  exact bind_ok.mpr ⟨(), ensure_ok.mpr ⟨rfl, rfl, rfl, rfl, rfl, rfl, rfl, rfl, rfl, rfl, absent⟩, rfl⟩

theorem stageUpdateKpiDefinitionDetails_carries (keyed : Keyed before) (intent : UpdateKpiDefinitionDetails) :
    Carrying ports before intent.context (stageUpdateKpiDefinitionDetails intent before ports) := by
  refine .orReplayed fun fresh outcome next success => ?_
  obtain ⟨current, found, success⟩ := bind_ok.mp success
  obtain ⟨_, standing, success⟩ := bind_ok.mp success
  obtain ⟨version, advanced, success⟩ := bind_ok.mp success
  obtain ⟨classification, asked, success⟩ := bind_ok.mp success
  obtain ⟨classified, rises⟩ := requestedClassification_ok asked
  have own : current.id = intent.id := keyed.kpis intent.id current (require_ok.mp found)
  have expects : current.version = intent.expectedVersion := ensure_ok.mp standing
  refine commitKpi_carries intent.id fresh ?_ (.inl rfl)
    (fun audits capsule audit raised occurred named answered _ paired replays => ?_) outcome next success
  · exact own
  unfold validateCapsule
  rw [named, answered]
  refine bind_ok.mpr ⟨current, require_ok.mpr (require_ok.mp found), bind_ok.mpr ⟨(), ensure_ok.mpr ⟨expects,
    expects ▸ nextVersion_ok advanced, own, rfl, rfl, rfl, rfl, rfl, rfl, rfl,
    DataClassification.combine_eq_right.mpr rises, classified⟩, ?_⟩⟩
  refine bind_ok.mpr ⟨(), ensure_ok.mpr paired, bind_ok.mpr ⟨_, ?_, rfl⟩⟩
  rw [← occurred] at replays
  exact replays

end

section
variable [Sha256] {before : Service} {ports : Ports} {operation : Operation}

def StepCarries (ports : Ports) (before : PortfolioState) (after : PortfolioState) : Prop :=
  after = before ∨ before.nextOperationOrdinal + 1 < 2 ^ 64 ∧
    ∃ context next, Carries ports before context next ∧ after = next before.nextOperationOrdinal

omit [Sha256] in
theorem settle_carries {Record : Type} {context : OperationContext} {decided : Except DomainError (Decision Record)}
    (carrying : Carrying ports before.state context decided) :
    StepCarries ports before.state (settle context before decided).1.state := by
  unfold settle
  split
  · exact .inl rfl
  · exact .inl rfl
  next outcome next =>
    split
    · exact .inl rfl
    split
    next room => exact .inr ⟨room, context, next, carrying outcome next rfl, rfl⟩
    · exact .inl rfl

variable {intent : ApproveAndExecuteLowerClassification}

theorem Effect.lowers {after : PortfolioState} (effect : Effect before ports after operation)
    (approves : operation.approves = some intent) :
    ∃ target prepared, Lowers before ports operation target prepared := by
  have written {Id Record : Type} [LinearOrder Id] {family : Family Id Record} {value : Record} (viewed : family.Viewed)
      (writes : Writes family before ports operation value) :
      ∃ target prepared, Lowers before ports operation target prepared := by
    cases writes with
    | created unnamed => cases unnamed.2.symm.trans approves
    | updated _ _ _ _ _ unapproved => cases unapproved.symm.trans approves
    | lowered intent prepared goal current names _ lowered => exact ⟨_, prepared, lowered.lowers viewed names⟩
  cases effect with
  | portfolio _ writes => exact written portfolios_viewed writes
  | product _ writes => exact written products_viewed writes
  | roadmap _ writes => exact written roadmaps_viewed writes
  | kpi _ _ writes => exact written kpis_viewed writes
  | observation _ _ writes => exact written observations_viewed writes
  | observationLowered _ _ _ _ _ lowered => exact written observations_viewed (lowered.writes (ports.now .recording))

/-- No prepared lowering is carried out. -/
def Unlowered (before : Service) (ports : Ports) (operation : Operation) : Prop :=
  ∀ prepared, ¬ Executes before ports operation prepared

theorem approve_carries (invariant : Invariant before) (unlowered : Unlowered before ports operation)
    (approves : operation.approves = some intent) :
    StepCarries ports before.state (step before ports operation).1.state := by
  rcases step_acts invariant.keyed.observations ports operation with ⟨same, _⟩ | ⟨accepted, _, _, effect⟩
  · exact .inl same
  · obtain ⟨target, prepared, lowers⟩ := effect.lowers approves
    exact absurd ⟨accepted, target, lowers⟩ (unlowered prepared)

theorem step_carries (invariant : Invariant before) (unlowered : Unlowered before ports operation) :
    StepCarries ports before.state (step before ports operation).1.state := by
  obtain ⟨keyed, sound⟩ := id invariant
  cases operation with
  | createPortfolio intent => exact settle_carries (stageCreatePortfolio_carries intent)
  | updatePortfolioDetails intent => exact settle_carries (stageUpdatePortfolioDetails_carries keyed intent)
  | createProduct intent => exact settle_carries (stageCreateProduct_carries intent)
  | updateProductDetails intent => exact settle_carries (stageUpdateProductDetails_carries keyed intent)
  | createRoadmap intent => exact settle_carries (stageCreateRoadmap_carries intent)
  | updateRoadmapDetails intent => exact settle_carries (stageUpdateRoadmapDetails_carries keyed intent)
  | createKpiDefinition intent => exact settle_carries (stageCreateKpiDefinition_carries sound intent)
  | updateKpiDefinitionDetails intent => exact settle_carries (stageUpdateKpiDefinitionDetails_carries keyed intent)
  | createKpiObservation intent => exact settle_carries (stageCreateKpiObservation_carries intent)
  | updateKpiObservationDetails intent => exact settle_carries (stageUpdateKpiObservationDetails_carries keyed intent)
  | prepareLowerPortfolioClassification intent => exact .inl (prepareLowerClassification_state portfolios before ports intent)
  | prepareLowerProductClassification intent => exact .inl (prepareLowerClassification_state products before ports intent)
  | prepareLowerRoadmapClassification intent => exact .inl (prepareLowerClassification_state roadmaps before ports intent)
  | prepareLowerKpiClassification intent => exact .inl (prepareLowerClassification_state kpis before ports intent)
  | prepareLowerKpiObservationClassification intent =>
    exact .inl (prepareLowerClassification_state observations before ports intent)
  | approveAndExecuteLowerPortfolioClassification intent | approveAndExecuteLowerProductClassification intent
  | approveAndExecuteLowerRoadmapClassification intent | approveAndExecuteLowerKpiClassification intent
  | approveAndExecuteLowerKpiObservationClassification intent => exact approve_carries invariant unlowered rfl
  | injectNextCommitFailure => exact .inl rfl

/-- A command without a repeated audit identifier that carries out no prepared lowering. -/
def PlainStep (label : Label) (before after : Service) : Prop :=
  Unrepeated label.1 before.state ∧ Unlowered before label.1 label.2 ∧ (step before label.1 label.2).1 = after

theorem Invariant.plain (invariant : Invariant before) (unlowered : Unlowered before ports operation) :
    Invariant (Portfolio.step before ports operation).1 := by
  rcases step_acts invariant.keyed.observations ports operation with ⟨same, _⟩ | ⟨accepted, _, _, effect⟩
  · constructor
    · exact same ▸ invariant.keyed
    · exact same ▸ invariant.sound
  · refine ⟨invariant.keyed.effect effect, invariant.effect ?_ effect⟩
    intro intent prepared goal current version definition same lowered _
    subst same
    exact absurd ⟨accepted, _, lowered.lowers observations_viewed rfl⟩ (unlowered prepared)

omit [Sha256] in
theorem Recorded.new : Recorded .new [] where
  ordinals := rfl
  next := rfl
  room := by decide
  stored := fun capsule => by simp [PortfolioState.new]
  once := .nil
  audited := .nil
  replays := fun _ _ => rfl

end

/-- Wherever a run leads that carries out no prepared lowering, the snapshot of the service
passes the check, and what is rehydrated from it is in the same state. -/
theorem plain_history_reads_back [Sha256] {labels : List Label} {service : Service}
    (run : Evolves PlainStep .new labels service) :
    ∃ snapshot, (persistenceSnapshot service).validate = .ok snapshot ∧ (rehydrate snapshot).state = service.state := by
  have kept : Invariant service ∧ ∃ history, Recorded service.state history := by
    refine run.invariant (fun service => Invariant service ∧ ∃ history, Recorded service.state history)
      (fun label before after step holds => ?_) ⟨.new, [], .new⟩
    obtain ⟨unrepeated, unlowered, rfl⟩ := step
    obtain ⟨invariant, history, recorded⟩ := holds
    refine ⟨invariant.plain unlowered, ?_⟩
    rcases step_carries invariant unlowered with same | ⟨room, context, next, carries, same⟩
    · exact ⟨history, same ▸ recorded⟩
    · rw [same]
      exact recorded.carried unrepeated room carries
  obtain ⟨invariant, history, recorded⟩ := kept
  exact ⟨persistenceSnapshot service, recorded.validates invariant.keyed invariant.sound, recorded.rehydrates invariant.keyed⟩

namespace Restarting
open Lowering

def drawing (auditEventIds : List AuditEventId) : Ports :=
  { ports ⟨"audit-0", .refl true⟩ with nextAuditEventId := fun draw => auditEventIds[draw]? }

theorem drawing_unrepeated {auditEventIds : List AuditEventId} {state : PortfolioState} (distinct : auditEventIds.Nodup)
    (unused : ∀ id ∈ auditEventIds, id ∉ state.auditEvents.map (·.id)) : Unrepeated (drawing auditEventIds) state where
  unused := fun _ id drawn => unused id (List.mem_of_getElem? drawn)
  apart := by
    intro draw other id first second
    obtain ⟨bound, _⟩ := List.getElem?_eq_some_iff.mp first
    exact (List.getElem?_inj bound distinct).mp (first.trans second.symm)

theorem plain_unlowered {before : Service} {ports : Ports} {operation : Operation} (plain : operation.approves = none) :
    Unlowered before ports operation := by
  rintro prepared ⟨_, _, ⟨_, approves, _⟩, _⟩
  cases plain.symm.trans approves

def restricting : Operation := .updateKpiDefinitionDetails
  { context := context ⟨"update-1", .refl true⟩
    id := retention
    expectedVersion := .initial
    name := ⟨"Retention", .refl true⟩
    definition := ⟨"Customers who renew.", .refl true⟩
    owner := ⟨"Product", .refl true⟩
    target := ⟨"90%", .refl true⟩
    cadence := ⟨"Monthly", .refl true⟩
    source := ⟨"Billing", .refl true⟩
    classification := some .unclassified }

def defined : Service := (step .new (drawing [⟨"audit-1", .refl true⟩]) (defining .internal)).1
def observed : Service := (step defined (drawing [⟨"audit-2", .refl true⟩]) observing).1
def restricted : Service := (step observed (drawing [⟨"audit-3", .refl true⟩, ⟨"audit-4", .refl true⟩]) restricting).1
def previewing : Service := (step observed (drawing [⟨"audit-3", .refl true⟩]) preparing).1
def executed : Service := (step previewing (drawing [⟨"audit-4", .refl true⟩]) approving).1

end Restarting

open Lowering Restarting

/-- An observation was raised with its KPI definition, and the history of it is read back. -/
theorem raised_history_reads_back :
    (∃ snapshot, (persistenceSnapshot restricted).validate = .ok snapshot ∧ (rehydrate snapshot).state = restricted.state) ∧
    restricted.state.view (.kpiObservation june) = some (⟨2, by decide, by decide⟩, .unclassified) := by
  refine ⟨plain_history_reads_back (.move (drawing [⟨"audit-3", by decide⟩, ⟨"audit-4", by decide⟩], restricting)
    (.move (drawing [⟨"audit-2", by decide⟩], observing) (.move (drawing [⟨"audit-1", by decide⟩], defining .internal) .start
      ⟨drawing_unrepeated (by decide) (by decide +kernel), plain_unlowered rfl, rfl⟩)
      ⟨drawing_unrepeated (by decide) (by decide +kernel), plain_unlowered rfl, rfl⟩)
    ⟨drawing_unrepeated (by decide) (by decide +kernel), plain_unlowered rfl, rfl⟩), by decide +kernel⟩

/-- A lowering was carried out, and the check refuses the snapshot. -/
theorem lowered_history_refused : ∃ labels service,
    Evolves (fun (label : Label) before after => Unrepeated label.1 before.state ∧ (step before label.1 label.2).1 = after)
      .new labels service ∧
      ¬ ∃ snapshot, (persistenceSnapshot service).validate = .ok snapshot := by
  refine ⟨[(drawing [⟨"audit-1", by decide⟩], defining .internal), (drawing [⟨"audit-2", by decide⟩], observing),
    (drawing [⟨"audit-3", by decide⟩], preparing), (drawing [⟨"audit-4", by decide⟩], approving)], executed,
    .move _ (.move _ (.move _ (.move _ .start
      ⟨drawing_unrepeated (by decide) (by decide +kernel), rfl⟩) ⟨drawing_unrepeated (by decide) (by decide +kernel), rfl⟩)
      ⟨drawing_unrepeated (by decide) (by decide +kernel), rfl⟩) ⟨drawing_unrepeated (by decide) (by decide +kernel), rfl⟩, ?_⟩
  rintro ⟨snapshot, accepted⟩
  have refused : (persistenceSnapshot executed).validate.isOk = false := by decide +kernel
  rw [accepted] at refused
  cases refused

end MissionControl.Portfolio

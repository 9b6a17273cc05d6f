import Mathlib.Order.WellFounded

/-! Records that name at most one earlier record each. As long as a new record only
names one that was there before it, following the names comes to an end. -/

namespace Lineage
variable {Id : Type*}

def Names (link : Id → Option Id) (earlier later : Id) : Prop := link later = some earlier

def Ends (link : Id → Option Id) : Prop := WellFounded (Names link)

theorem ends_empty : Ends (fun _ : Id => none) := ⟨fun id => ⟨id, fun _ named => nomatch named⟩⟩

/-- Records added keep every chain finite when all records name only those there were. -/
theorem Ends.extend {link later : Id → Option Id} {old : Id → Prop} (ends : Ends link)
    (same : ∀ id, old id → later id = link id) (names : ∀ id earlier, later id = some earlier → old earlier) :
    Ends later := by
  have kept (id : Id) (there : old id) : Acc (Names later) id := by
    induction ends.apply id with
    | intro id _ ih => exact ⟨id, fun earlier named => ih earlier ((same id there).symm.trans named) (names id earlier named)⟩
  exact ⟨fun id => ⟨id, fun earlier named => kept earlier (names id earlier named)⟩⟩

variable {link : Id → Option Id}

/-- No record names itself. -/
theorem Ends.ne (ends : Ends link) {earlier later : Id} (named : link later = some earlier) : earlier ≠ later := by
  intro same
  subst same
  exact ends.irrefl.irrefl earlier named

/-- A chain may be made longer at its end by a record that names none. -/
theorem Ends.lengthen [DecidableEq Id] {link : Id → Option Id} (ends : Ends link) {last next : Id}
    (tip : link next = none) (distinct : next ≠ last) : Ends (Function.update link last (some next)) := by
  have tipEnds : Acc (Names (Function.update link last (some next))) next := by
    refine ⟨next, fun earlier named => ?_⟩
    rw [Names, Function.update_of_ne distinct, tip] at named
    cases named
  have ended (id : Id) : Acc (Names (Function.update link last (some next))) id := by
    induction ends.apply id with
    | intro id _ ih =>
      refine ⟨id, fun earlier named => ?_⟩
      by_cases moved : id = last
      · rw [Names, moved, Function.update_self] at named
        cases named
        exact tipEnds
      · rw [Names, Function.update_of_ne moved] at named
        exact ih earlier named
  exact ⟨ended⟩

/-- From a record one comes, name by name, to one that names none. -/
def Reaches (link : Id → Option Id) (id root : Id) : Prop :=
  Relation.ReflTransGen (fun later earlier => Names link earlier later) id root

theorem Ends.root (ends : Ends link) (id : Id) : ∃ root, Reaches link id root ∧ link root = none := by
  induction id using ends.induction with
  | _ id ih =>
    cases named : link id with
    | none => exact ⟨id, .refl, named⟩
    | some earlier =>
      obtain ⟨root, reaches, last⟩ := ih earlier named
      exact ⟨root, .head named reaches, last⟩

/-- Of two records that one leads back to, one leads back to the other. -/
theorem Reaches.comparable {first second root : Id}
    (once : ∀ {earlier one other}, Names link earlier one → Names link earlier other → one = other)
    (one : Reaches link first root) (other : Reaches link second root) :
    Reaches link first second ∨ Reaches link second first := by
  rw [Reaches, ← Relation.reflTransGen_swap] at one other
  have unique : Relator.RightUnique (Function.swap fun later earlier => Names link earlier later) :=
    fun _ _ _ => once
  rcases Relation.ReflTransGen.total_of_right_unique unique one other with forth | back
  · exact .inr (Relation.reflTransGen_swap.mp forth)
  · exact .inl (Relation.reflTransGen_swap.mp back)

/-- Records linked both ways: one names the record before it as that one names the
record after it. -/
structure Linked (there : Id → Prop) (earlier later : Id → Option Id) : Prop where
  bothWays : ∀ before after, later before = some after ↔ earlier after = some before
  closed : ∀ before after, earlier after = some before → there before ∧ there after
  ends : Ends earlier
  headed : ∀ id, there id → ∃ head, there head ∧ later head = none ∧ Reaches earlier head id

namespace Linked
variable {there : Id → Prop} {earlier later : Id → Option Id}

theorem empty : Linked (fun _ : Id => False) (fun _ => none) (fun _ => none) where
  bothWays := fun _ _ => ⟨nofun, nofun⟩
  closed := nofun
  ends := ends_empty
  headed := nofun

/-- A record that is not there has no links. -/
theorem absent (linked : Linked there earlier later) {id : Id} (fresh : ¬ there id) :
    earlier id = none ∧ later id = none := by
  constructor
  · cases named : earlier id with
    | none => rfl
    | some before => exact absurd (linked.closed before id named).2 fresh
  · cases named : later id with
    | none => rfl
    | some after => exact absurd (linked.closed id after ((linked.bothWays id after).mp named)).1 fresh

theorem add_root (linked : Linked there earlier later) {id : Id} (fresh : ¬ there id) :
    Linked (fun other => id = other ∨ there other) earlier later where
  bothWays := linked.bothWays
  closed := fun before after named =>
    ⟨.inr (linked.closed before after named).1, .inr (linked.closed before after named).2⟩
  ends := linked.ends
  headed := by
    intro other present
    rcases present with rfl | old
    · exact ⟨id, .inl rfl, (linked.absent fresh).2, .refl⟩
    · obtain ⟨head, held, last, reaches⟩ := linked.headed other old
      exact ⟨head, .inr held, last, reaches⟩

theorem add_successor [DecidableEq Id] (linked : Linked there earlier later) {id head : Id} (fresh : ¬ there id)
    (present : there head) (last : later head = none) :
    Linked (fun other => id = other ∨ there other) (Function.update earlier id (some head))
      (Function.update later head (some id)) := by
  have distinct : id ≠ head := fun same => fresh (same ▸ present)
  have old (before : Id) : earlier id ≠ some before := by
    rw [(linked.absent fresh).1]
    exact nofun
  have unnamed (after : Id) : earlier after ≠ some head := by
    intro named
    rw [← linked.bothWays, last] at named
    cases named
  have kept {after before : Id} (named : earlier after = some before) :
      Function.update earlier id (some head) after = some before := by
    rw [Function.update_of_ne _ _ _, named]
    rintro rfl
    exact old before named
  have reaching {after before : Id} (reaches : Reaches earlier after before) :
      Reaches (Function.update earlier id (some head)) after before :=
    Relation.ReflTransGen.mono (fun _ _ => kept) _ _ reaches
  refine ⟨?_, ?_, ?_, ?_⟩
  · intro before after
    by_cases moved : before = head
    · subst moved
      rw [Function.update_self]
      constructor
      · intro named
        cases named
        rw [Function.update_self]
      · intro named
        by_cases new : after = id
        · rw [new]
        · rw [Function.update_of_ne new] at named
          exact absurd named (unnamed after)
    · rw [Function.update_of_ne moved, linked.bothWays]
      constructor
      · exact kept
      · intro named
        by_cases new : after = id
        · rw [new, Function.update_self] at named
          exact absurd (Option.some.inj named).symm moved
        · rw [Function.update_of_ne new] at named
          exact named
  · intro before after named
    by_cases new : after = id
    · rw [new, Function.update_self] at named
      cases named
      exact ⟨.inr present, .inl new.symm⟩
    · rw [Function.update_of_ne new] at named
      exact ⟨.inr (linked.closed before after named).1, .inr (linked.closed before after named).2⟩
  · refine linked.ends.extend (fun other held => ?_) fun other before named => (?_ : there before)
    · rw [Function.update_of_ne]
      rintro rfl
      exact fresh held
    · by_cases new : other = id
      · rw [new, Function.update_self] at named
        cases named
        exact present
      · rw [Function.update_of_ne new] at named
        exact (linked.closed before other named).1
  · have newest : Function.update later head (some id) id = none := by
      rw [Function.update_of_ne distinct, (linked.absent fresh).2]
    intro other held
    rcases held with rfl | there
    · exact ⟨id, .inl rfl, newest, .refl⟩
    · obtain ⟨top, held, tip, reaches⟩ := linked.headed other there
      by_cases superseded : top = head
      · subst superseded
        exact ⟨id, .inl rfl, newest, .head (Function.update_self ..) (reaching reaches)⟩
      · refine ⟨top, .inr held, ?_, reaching reaches⟩
        rw [Function.update_of_ne superseded, tip]

/-- What a chain leads back to is there as its start is. -/
theorem reaches_there (linked : Linked there earlier later) {id root : Id} (reaches : Reaches earlier id root)
    (present : there id) : there root := by
  induction reaches using Relation.ReflTransGen.head_induction_on with
  | refl => exact present
  | head named _ ih => exact ih (linked.closed _ _ named).1

theorem head_unique (linked : Linked there earlier later) {first second root : Id} (one : Reaches earlier first root)
    (other : Reaches earlier second root) (firstLast : later first = none) (secondLast : later second = none) :
    first = second := by
  have once {before one other : Id} (first : Names earlier before one) (second : Names earlier before other) :
      one = other := by
    rw [Names, ← linked.bothWays] at first second
    exact Option.some.inj (first.symm.trans second)
  -- a record that another leads back to has one after it
  have last {head tip : Id} (reaches : Reaches earlier tip head) (ends : later head = none) : tip = head := by
    rcases Relation.ReflTransGen.cases_tail reaches with same | ⟨after, _, named⟩
    · exact same.symm
    · rw [Names, ← linked.bothWays, ends] at named
      cases named
  rcases one.comparable once other with back | forth
  · exact last back secondLast
  · exact (last forth firstLast).symm

end Linked

end Lineage

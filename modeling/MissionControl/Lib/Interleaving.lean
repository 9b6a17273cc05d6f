import MissionControl.Lib.Program

/-! Calls that take turns on a shared world, each with the actions it has taken so far. A
call relies on what the others may do to the world, and keeps to what they rely on. -/

universe u

namespace Interleaving
variable {Op : Type → Type u} {World Request α : Type}

structure Action (World : Type) where
  before : World
  works : Bool
  after : World

/-- What was asked, what is left of the program, and its actions so far, the first first. -/
structure Call (Op : Type → Type u) (World Request α : Type) : Type (max 1 u) where
  request : Request
  rest : Program Op α
  actions : List (Action World)

variable (effect : Effect Op World) (program : Request → Program Op α) (together : Request → Request → Prop)
  (outside : World → World → Prop)

/-- What calls begun one after another lead to. A call that is not scheduled any more has
stopped where it is. -/
inductive Reaches (start : World) : World → List (Call Op World Request α) → Prop where
  | start : Reaches start start []
  | begin {world : World} {calls : List (Call Op World Request α)} (request : Request)
      (apart : ∀ call ∈ calls, together call.request request ∧ together request call.request) :
      Reaches start world calls → Reaches start world (calls ++ [⟨request, program request, []⟩])
  | act {world : World} {first last : List (Call Op World Request α)} {request : Request} {γ : Type} {op : Op γ}
      {next : γ → Program Op α} {actions : List (Action World)} (works : Bool) :
      Reaches start world (first ++ ⟨request, .act op next, actions⟩ :: last) →
      Reaches start (effect γ op works world).2 (first ++ ⟨request, next (effect γ op works world).1,
        actions ++ [⟨world, works, (effect γ op works world).2⟩]⟩ :: last)
  | outside {world later : World} {calls : List (Call Op World Request α)} (moves : outside world later) :
      Reaches start world calls → Reaches start later calls

/-- A call that has its way: every action of it works, and nobody comes in between. -/
def conclude : Program Op α → List (Action World) → World → α × List (Action World) × World
  | .done value, actions, world => (value, actions, world)
  | .act op next, actions, world =>
    conclude (next (effect _ op true world).1) (actions ++ [⟨world, true, (effect _ op true world).2⟩])
      (effect _ op true world).2

/-- A call that has its way for a number of actions. -/
def advance : Nat → Program Op α → List (Action World) → World → Program Op α × List (Action World) × World
  | 0, rest, actions, world => (rest, actions, world)
  | _ + 1, .done value, actions, world => (.done value, actions, world)
  | steps + 1, .act op next, actions, world =>
    advance steps (next (effect _ op true world).1) (actions ++ [⟨world, true, (effect _ op true world).2⟩])
      (effect _ op true world).2

/-- Whatever the others do in between, the invariant and the guarantee are kept by every
action that is left, and the program ends as it should. -/
def Meets (holds : World → Prop) (rely guarantee : World → World → Prop)
    (post : List (Action World) → α → World → Prop) : Program Op α → List (Action World) → World → Prop
  | .done value, actions, world => post actions value world
  | .act op next, actions, world => ∀ later, rely world later → holds later → ∀ works,
      holds (effect _ op works later).2 ∧ guarantee later (effect _ op works later).2 ∧
      Meets holds rely guarantee post (next (effect _ op works later).1)
        (actions ++ [⟨later, works, (effect _ op works later).2⟩]) (effect _ op works later).2

section
variable {β : Type} {effect} {holds : World → Prop} {rely guarantee : World → World → Prop}
  {post : List (Action World) → α → World → Prop} {actions : List (Action World)} {world : World}

theorem Meets.pure {value : α} (ends : post actions value world) :
    Meets effect holds rely guarantee post (Pure.pure value) actions world := ends

theorem Meets.bind {middle : List (Action World) → β → World → Prop} {first : Program Op β} {rest : β → Program Op α}
    (meets : Meets effect holds rely guarantee middle first actions world)
    (onwards : ∀ actions value later, middle actions value later →
      Meets effect holds rely guarantee post (rest value) actions later) :
    Meets effect holds rely guarantee post (first >>= rest) actions world := by
  induction first generalizing actions world with
  | done value => exact onwards actions value world meets
  | act op next rest =>
    intro later relied held works
    obtain ⟨kept, promised, following⟩ := meets later relied held works
    exact ⟨kept, promised, rest _ following⟩

theorem Meets.onward {ε : Type} {middle : List (Action World) → Except ε β → World → Prop}
    {last : List (Action World) → Except ε α → World → Prop} {first : Program Op (Except ε β)}
    {rest : β → Program Op (Except ε α)} (meets : Meets effect holds rely guarantee middle first actions world)
    (failed : ∀ actions cause later, middle actions (.error cause) later → last actions (.error cause) later)
    (onwards : ∀ actions value later, middle actions (.ok value) later →
      Meets effect holds rely guarantee last (rest value) actions later) :
    Meets effect holds rely guarantee last (first.onward rest) actions world := by
  apply meets.bind
  intro actions answer later ended
  cases answer with
  | ok value => exact onwards actions value later ended
  | error cause => exact failed actions cause later ended

/-- An action before the rest of a program. -/
theorem Meets.act {op : Op β} {rest : β → Program Op α}
    (steps : ∀ later, rely world later → holds later → ∀ works,
      holds (effect _ op works later).2 ∧ guarantee later (effect _ op works later).2 ∧
      Meets effect holds rely guarantee post (rest (effect _ op works later).1)
        (actions ++ [⟨later, works, (effect _ op works later).2⟩]) (effect _ op works later).2) :
    Meets effect holds rely guarantee post (Program.perform op >>= rest) actions world := steps

theorem Meets.weaken {weaker : List (Action World) → α → World → Prop} {program : Program Op α}
    (meets : Meets effect holds rely guarantee post program actions world)
    (ends : ∀ actions value world, post actions value world → weaker actions value world) :
    Meets effect holds rely guarantee weaker program actions world := by
  induction program generalizing actions world with
  | done value => exact ends actions value world meets
  | act op next onwards =>
    intro later relied held works
    obtain ⟨kept, promised, following⟩ := meets later relied held works
    exact ⟨kept, promised, onwards _ following⟩

/-- A call's actions are those it had and those it takes. -/
theorem Meets.extending {program : Program Op α} (taken : List (Action World))
    (meets : Meets effect holds rely guarantee post program (actions ++ taken) world) :
    Meets effect holds rely guarantee (fun actions' value later => post actions' value later ∧ actions <+: actions')
      program (actions ++ taken) world := by
  induction program generalizing taken world with
  | done value => exact ⟨meets, List.prefix_append actions taken⟩
  | act op next onwards =>
    intro later relied held works
    obtain ⟨kept, promised, following⟩ := meets later relied held works
    rw [List.append_assoc] at following ⊢
    exact ⟨kept, promised, onwards _ _ following⟩

/-- A fact that neither the others nor the call itself can undo is kept to the end. -/
theorem Meets.framing {frame : World → Prop} {program : Program Op α}
    (relied : ∀ {before after}, rely before after → frame before → frame after)
    (promised : ∀ {before after}, guarantee before after → frame before → frame after) (framed : frame world)
    (meets : Meets effect holds rely guarantee post program actions world) :
    Meets effect holds rely guarantee (fun actions value later => post actions value later ∧ frame later) program actions world := by
  induction program generalizing actions world with
  | done value => exact ⟨meets, framed⟩
  | act op next onwards =>
    intro later onward held works
    obtain ⟨kept, guaranteed, following⟩ := meets later onward held works
    exact ⟨kept, guaranteed, onwards _ (promised guaranteed (relied onward framed)) following⟩

/-- What the others do leaves a call as it was, if they keep to what it relies on. -/
theorem Meets.later {later : World} {program : Program Op α} (transitive : ∀ {one two three}, rely one two → rely two three → rely one three)
    (stable : ∀ {actions value world later}, rely world later → post actions value world → post actions value later)
    (relied : rely world later) (meets : Meets effect holds rely guarantee post program actions world) :
    Meets effect holds rely guarantee post program actions later := by
  cases program with
  | done value => exact stable relied meets
  | act op next => exact fun last following held works => meets last (transitive relied following) held works

end

section
variable {effect} {program} {together} {outside} {holds : World → Prop} {start world : World} {calls : List (Call Op World Request α)}

theorem Reaches.conclude {request : Request} {rest : Program Op α} {actions : List (Action World)}
    (reaches : Reaches effect program together outside start world (calls ++ [⟨request, rest, actions⟩])) :
    Reaches effect program together outside start (conclude effect rest actions world).2.2
      (calls ++ [⟨request, .done (conclude effect rest actions world).1, (conclude effect rest actions world).2.1⟩]) := by
  induction rest generalizing actions world with
  | done value => exact reaches
  | act op next onwards => exact onwards _ (.act true reaches)

theorem Reaches.advance (steps : Nat) {first last : List (Call Op World Request α)} {request : Request} {rest : Program Op α}
    {actions : List (Action World)}
    (reaches : Reaches effect program together outside start world (first ++ ⟨request, rest, actions⟩ :: last)) :
    Reaches effect program together outside start (advance effect steps rest actions world).2.2
      (first ++ ⟨request, (advance effect steps rest actions world).1, (advance effect steps rest actions world).2.1⟩ :: last) := by
  induction steps generalizing rest actions world with
  | zero => exact reaches
  | succ steps onwards =>
    cases rest with
    | done value => exact reaches
    | act op next => exact onwards (.act true reaches)

/-- What every action keeps, and what goes on outside, holds from each action to the end. -/
theorem Reaches.since {keeps : World → World → Prop} (reflexive : ∀ world, keeps world world)
    (transitive : ∀ {one two three}, keeps one two → keeps two three → keeps one three)
    (others : ∀ {before after}, outside before after → keeps before after)
    (reaches : Reaches effect program together outside start world calls)
    (kept : ∀ call ∈ calls, ∀ action ∈ call.actions, keeps action.before action.after) :
    ∀ call ∈ calls, ∀ action ∈ call.actions, keeps action.after world := by
  induction reaches with
  | start => exact fun _ held => absurd held List.not_mem_nil
  | begin request _ _ since =>
    intro call held action member
    rcases List.mem_append.mp held with old | new
    · exact since (fun call held => kept call (List.mem_append_left _ held)) call old action member
    · rw [List.mem_singleton] at new
      subst new
      exact absurd member List.not_mem_nil
  | @act world first last request γ op next actions works _ since =>
    have moved : keeps world (effect γ op works world).2 :=
      kept _ (List.mem_append_right _ List.mem_cons_self) _ (List.mem_append_right _ (List.mem_singleton_self _))
    have earlier := since fun call held action member => by
      rcases List.mem_append.mp held with before | after
      · exact kept call (by simp [before]) action member
      · rcases List.mem_cons.mp after with rfl | after
        · exact kept _ (List.mem_append_right _ List.mem_cons_self) action (List.mem_append_left _ member)
        · exact kept call (by simp [after]) action member
    intro call held action member
    rcases List.mem_append.mp held with before | after
    · exact transitive (earlier call (by simp [before]) action member) moved
    · rcases List.mem_cons.mp after with rfl | after
      · rcases List.mem_append.mp member with old | new
        · exact transitive (earlier ⟨request, .act op next, actions⟩ (by simp) action old) moved
        · rw [List.mem_singleton] at new
          subst new
          exact reflexive _
      · exact transitive (earlier call (by simp [after]) action member) moved
  | outside moves _ since =>
    exact fun call held action member => transitive (since kept call held action member) (others moves)

/-- Where every request's program meets its ends from any good world, they all do however
they take turns, and every action keeps to its guarantee. -/
theorem Reaches.meets (rely guarantee : Request → World → World → Prop)
    (post : Request → List (Action World) → α → World → Prop) (initial : holds start)
    (reflexive : ∀ request world, rely request world world)
    (transitive : ∀ {request one two three}, rely request one two → rely request two three → rely request one three)
    (stable : ∀ {request actions value world later}, rely request world later → post request actions value world →
      post request actions value later)
    (apart : ∀ {one other before after}, together one other → guarantee one before after → rely other before after)
    (others : ∀ {before after}, outside before after → holds before → holds after ∧ ∀ request, rely request before after)
    (meets : ∀ request world, holds world →
      Meets effect holds (rely request) (guarantee request) (post request) (program request) [] world)
    (reaches : Reaches effect program together outside start world calls) :
    holds world ∧ (∀ call ∈ calls,
      Meets effect holds (rely call.request) (guarantee call.request) (post call.request) call.rest call.actions world) ∧
      (∀ call ∈ calls, ∀ action ∈ call.actions, guarantee call.request action.before action.after) ∧
      calls.Pairwise fun one other => together one.request other.request ∧ together other.request one.request := by
  induction reaches with
  | start => exact ⟨initial, fun _ held => absurd held List.not_mem_nil, fun _ held => absurd held List.not_mem_nil, .nil⟩
  | begin request apart _ sound =>
    obtain ⟨good, met, acted, pairwise⟩ := sound
    refine ⟨good, ?_, ?_, ?_⟩
    · intro call held
      rcases List.mem_append.mp held with old | new
      · exact met call old
      · rw [List.mem_singleton] at new
        subst new
        exact meets request _ good
    · intro call held action member
      rcases List.mem_append.mp held with old | new
      · exact acted call old action member
      · rw [List.mem_singleton] at new
        subst new
        exact absurd member List.not_mem_nil
    · rw [List.pairwise_append]
      refine ⟨pairwise, List.pairwise_singleton _ _, ?_⟩
      intro call held other new
      rw [List.mem_singleton] at new
      subst new
      exact apart call held
  | @act world first last request γ op next actions works _ sound =>
    obtain ⟨good, met, acted, pairwise⟩ := sound
    obtain ⟨kept, promised, own⟩ := met ⟨request, .act op next, actions⟩ (by simp) world (reflexive _ _) good works
    have distinct := pairwise
    rw [List.pairwise_append, List.pairwise_cons] at pairwise
    obtain ⟨earlier, ⟨following, _⟩, across⟩ := pairwise
    have others (call : Call Op World Request α) (held : call ∈ first ++ ⟨request, .act op next, actions⟩ :: last)
        (one : together request call.request) :
        Meets effect holds (rely call.request) (guarantee call.request) (post call.request) call.rest call.actions
          (effect γ op works world).2 :=
      (met call held).later transitive stable (apart one promised)
    refine ⟨kept, ?_, ?_, ?_⟩
    · intro call held
      rcases List.mem_append.mp held with before | after
      · exact others call (by simp [before]) (across call before _ List.mem_cons_self).2
      · rcases List.mem_cons.mp after with rfl | after
        · exact own
        · exact others call (by simp [after]) (following call after).1
    · intro call held action member
      rcases List.mem_append.mp held with before | after
      · exact acted call (by simp [before]) action member
      · rcases List.mem_cons.mp after with rfl | after
        · rcases List.mem_append.mp member with old | new
          · exact acted ⟨request, .act op next, actions⟩ (by simp) action old
          · rw [List.mem_singleton] at new
            subst new
            exact promised
        · exact acted call (by simp [after]) action member
    · rw [List.pairwise_append, List.pairwise_cons] at distinct ⊢
      refine ⟨earlier, ⟨fun other held => following other held, distinct.2.1.2⟩, ?_⟩
      intro call before other after
      rcases List.mem_cons.mp after with rfl | after
      · exact across call before ⟨request, .act op next, actions⟩ List.mem_cons_self
      · exact across call before other (List.mem_cons_of_mem _ after)
  | outside moves _ sound =>
    obtain ⟨good, met, acted, pairwise⟩ := sound
    obtain ⟨kept, relied⟩ := others moves good
    exact ⟨kept, fun call held => (met call held).later transitive stable (relied _), acted, pairwise⟩

end

variable {Place : Type} [DecidableEq Place] (effect : Effect Op World) (program : Request → Program Op α)
  (place : Request → Place) (distinct : Request → Request → Prop)

/-- What calls lead to that run in places, one call at a time in each. A call may leave its
place wherever it is, and is not continued then. -/
inductive Visits (start : World) : World → (Place → Option (Call Op World Request α)) → List (Call Op World Request α) → Prop where
  | start : Visits start start (fun _ => none) []
  | begin {world : World} {calls : Place → Option (Call Op World Request α)} {left : List (Call Op World Request α)}
      (request : Request) (vacant : calls (place request) = none)
      (current : ∀ there call, calls there = some call → distinct call.request request ∧ distinct request call.request)
      (past : ∀ call ∈ left, distinct call.request request ∧ distinct request call.request) :
      Visits start world calls left →
      Visits start world (Function.update calls (place request) (some ⟨request, program request, []⟩)) left
  | act {world : World} {calls : Place → Option (Call Op World Request α)} {left : List (Call Op World Request α)}
      {there : Place} {request : Request} {γ : Type} {op : Op γ} {next : γ → Program Op α} {actions : List (Action World)}
      (works : Bool) (stands : calls there = some ⟨request, .act op next, actions⟩) :
      Visits start world calls left →
      Visits start (effect γ op works world).2 (Function.update calls there (some ⟨request, next (effect γ op works world).1,
        actions ++ [⟨world, works, (effect γ op works world).2⟩]⟩)) left
  | leave {world : World} {calls : Place → Option (Call Op World Request α)} {left : List (Call Op World Request α)}
      {there : Place} {call : Call Op World Request α} (stands : calls there = some call) :
      Visits start world calls left → Visits start world (Function.update calls there none) (call :: left)

/-- What makes calls in places go well: `fresh` is what a call finds that is distinct from all
before it, and `lasting` what stays of one that has ended. -/
structure Discipline (holds : World → Prop) (fresh : Request → World → Prop) (rely guarantee : Request → World → World → Prop)
    (post : Request → List (Action World) → α → World → Prop) (lasting : Request → α → World → Prop) : Prop where
  reflexive : ∀ request world, rely request world world
  transitive : ∀ {request one two three}, rely request one two → rely request two three → rely request one three
  stable : ∀ {request actions value world later}, rely request world later → post request actions value world →
    post request actions value later
  apart : ∀ {one other before after}, place one ≠ place other → distinct one other → guarantee one before after →
    rely other before after
  untouched : ∀ {one other before after}, distinct one other → guarantee one before after → fresh other before → fresh other after
  lasts : ∀ {one other value before after}, distinct one other → guarantee one before after → lasting other value before →
    lasting other value after
  ends : ∀ {request actions value world}, post request actions value world → lasting request value world
  meets : ∀ request world, holds world → fresh request world →
    Meets effect holds (rely request) (guarantee request) (post request) (program request) [] world

structure Orderly (holds : World → Prop) (fresh : Request → World → Prop) (rely guarantee : Request → World → World → Prop)
    (post : Request → List (Action World) → α → World → Prop) (lasting : Request → α → World → Prop) (world : World)
    (calls : Place → Option (Call Op World Request α)) (left : List (Call Op World Request α)) : Prop where
  now : holds world
  placed : ∀ there call, calls there = some call → place call.request = there
  met : ∀ there call, calls there = some call →
    Meets effect holds (rely call.request) (guarantee call.request) (post call.request) call.rest call.actions world
  lasting : ∀ call ∈ left, ∀ value, call.rest = .done value → lasting call.request value world
  acted : ∀ there call, calls there = some call → ∀ action ∈ call.actions, guarantee call.request action.before action.after
  acting : ∀ call ∈ left, ∀ action ∈ call.actions, guarantee call.request action.before action.after
  fresh : ∀ request, (∀ there call, calls there = some call → distinct call.request request) →
    (∀ call ∈ left, distinct call.request request) → fresh request world
  current : ∀ there other call call', calls there = some call → calls other = some call' → there ≠ other →
    distinct call.request call'.request
  past : ∀ there call, calls there = some call → ∀ gone ∈ left, distinct call.request gone.request

variable {effect} {program} {place} {distinct} {holds : World → Prop} {fresh : Request → World → Prop}
  {rely guarantee : Request → World → World → Prop} {post : Request → List (Action World) → α → World → Prop}
  {lasting : Request → α → World → Prop} {start world : World} {calls : Place → Option (Call Op World Request α)}
  {left : List (Call Op World Request α)}

theorem Visits.orderly (discipline : Discipline effect program place distinct holds fresh rely guarantee post lasting)
    (initial : holds start) (initially : ∀ request, fresh request start)
    (visits : Visits effect program place distinct start world calls left) :
    Orderly effect place distinct holds fresh rely guarantee post lasting world calls left := by
  induction visits with
  | start =>
    exact ⟨initial, by simp, by simp, by simp, by simp, by simp, fun request _ _ => initially request, by simp, by simp⟩
  | @begin world calls left request vacant current past _ orderly =>
    have lookup {there : Place} {call : Call Op World Request α}
        (stands : Function.update calls (place request) (some ⟨request, program request, []⟩) there = some call) :
        there = place request ∧ call = ⟨request, program request, []⟩ ∨ there ≠ place request ∧ calls there = some call := by
      by_cases same : there = place request
      · subst same
        rw [Function.update_self] at stands
        exact .inl ⟨rfl, (Option.some.inj stands).symm⟩
      · rw [Function.update_of_ne same] at stands
        exact .inr ⟨same, stands⟩
    refine ⟨orderly.now, ?_, ?_, orderly.lasting, ?_, orderly.acting, ?_, ?_, ?_⟩
    · intro there call stands
      rcases lookup stands with ⟨rfl, rfl⟩ | ⟨_, stood⟩
      · rfl
      · exact orderly.placed there call stood
    · intro there call stands
      rcases lookup stands with ⟨rfl, rfl⟩ | ⟨_, stood⟩
      · refine discipline.meets request world orderly.now (orderly.fresh request (fun there call stood => ?_) fun call gone => ?_)
        · exact (current there call stood).1
        · exact (past call gone).1
      · exact orderly.met there call stood
    · intro there call stands
      rcases lookup stands with ⟨rfl, rfl⟩ | ⟨_, stood⟩
      · exact fun action member => absurd member List.not_mem_nil
      · exact orderly.acted there call stood
    · intro other apart gone
      refine orderly.fresh other (fun there call stood => ?_) gone
      have elsewhere : there ≠ place request := by
        rintro rfl
        rw [vacant] at stood
        cases stood
      exact apart there call (by rw [Function.update_of_ne elsewhere]; exact stood)
    · intro there other call call' stands stands' different
      rcases lookup stands with ⟨rfl, rfl⟩ | ⟨_, stood⟩
      · rcases lookup stands' with ⟨rfl, rfl⟩ | ⟨_, stood'⟩
        · exact absurd rfl different
        · exact (current other call' stood').2
      · rcases lookup stands' with ⟨rfl, rfl⟩ | ⟨_, stood'⟩
        · exact (current there call stood).1
        · exact orderly.current there other call call' stood stood' different
    · intro there call stands gone member
      rcases lookup stands with ⟨rfl, rfl⟩ | ⟨_, stood⟩
      · exact (past gone member).2
      · exact orderly.past there call stood gone member
  | @act world calls left there request γ op next actions works stands _ orderly =>
    obtain ⟨kept, promised, own⟩ := orderly.met there _ stands world (discipline.reflexive _ _) orderly.now works
    have lookup {other : Place} {call : Call Op World Request α}
        (stood : Function.update calls there (some ⟨request, next (effect γ op works world).1,
          actions ++ [⟨world, works, (effect γ op works world).2⟩]⟩) other = some call) :
        other = there ∧ call = ⟨request, next (effect γ op works world).1,
          actions ++ [⟨world, works, (effect γ op works world).2⟩]⟩ ∨ other ≠ there ∧ calls other = some call := by
      by_cases same : other = there
      · subst same
        rw [Function.update_self] at stood
        exact .inl ⟨rfl, (Option.some.inj stood).symm⟩
      · rw [Function.update_of_ne same] at stood
        exact .inr ⟨same, stood⟩
    refine ⟨kept, ?_, ?_, ?_, ?_, orderly.acting, ?_, ?_, ?_⟩
    · intro other call stood
      rcases lookup stood with ⟨rfl, rfl⟩ | ⟨_, stood⟩
      · exact orderly.placed other ⟨request, .act op next, actions⟩ stands
      · exact orderly.placed other call stood
    · intro other call stood
      rcases lookup stood with ⟨rfl, rfl⟩ | ⟨different, stood⟩
      · exact own
      · refine (orderly.met other call stood).later discipline.transitive discipline.stable (discipline.apart ?_ ?_ promised)
        · rw [orderly.placed there _ stands, orderly.placed other call stood]
          exact different.symm
        · exact orderly.current there other _ call stands stood different.symm
    · exact fun call gone value ended => discipline.lasts (orderly.past there _ stands call gone) promised
        (orderly.lasting call gone value ended)
    · intro other call stood action member
      rcases lookup stood with ⟨rfl, rfl⟩ | ⟨_, stood⟩
      · rcases List.mem_append.mp member with old | new
        · exact orderly.acted other ⟨request, .act op next, actions⟩ stands action old
        · rw [List.mem_singleton] at new
          subst new
          exact promised
      · exact orderly.acted other call stood action member
    · intro other apart gone
      have mine : distinct request other := apart there _ (Function.update_self ..)
      refine discipline.untouched mine promised (orderly.fresh other (fun place call stood => ?_) gone)
      by_cases same : place = there
      · subst same
        rw [stands] at stood
        cases stood
        exact mine
      · exact apart place call (by rw [Function.update_of_ne same]; exact stood)
    · intro one other call call' stood stood' different
      rcases lookup stood with ⟨rfl, rfl⟩ | ⟨_, stays⟩
      · rcases lookup stood' with ⟨rfl, rfl⟩ | ⟨_, stays'⟩
        · exact absurd rfl different
        · exact orderly.current one other ⟨request, .act op next, actions⟩ call' stands stays' different
      · rcases lookup stood' with ⟨rfl, rfl⟩ | ⟨_, stays'⟩
        · exact orderly.current one other call ⟨request, .act op next, actions⟩ stays stands different
        · exact orderly.current one other call call' stays stays' different
    · intro other call stood gone member
      rcases lookup stood with ⟨rfl, rfl⟩ | ⟨_, stood⟩
      · exact orderly.past other ⟨request, .act op next, actions⟩ stands gone member
      · exact orderly.past other call stood gone member
  | @leave world calls left there call stands _ orderly =>
    have lookup {other : Place} {found : Call Op World Request α} (stood : Function.update calls there none other = some found) :
        other ≠ there ∧ calls other = some found := by
      by_cases same : other = there
      · subst same
        rw [Function.update_self] at stood
        cases stood
      · rw [Function.update_of_ne same] at stood
        exact ⟨same, stood⟩
    refine ⟨orderly.now, fun other found stood => orderly.placed other found (lookup stood).2,
      fun other found stood => orderly.met other found (lookup stood).2, ?_,
      fun other found stood => orderly.acted other found (lookup stood).2, ?_, ?_, ?_, ?_⟩
    · intro gone member value ended
      rcases List.mem_cons.mp member with rfl | earlier
      · have met := orderly.met there gone stands
        rw [ended] at met
        exact discipline.ends met
      · exact orderly.lasting gone earlier value ended
    · intro gone member
      rcases List.mem_cons.mp member with rfl | earlier
      · exact orderly.acted there gone stands
      · exact orderly.acting gone earlier
    · intro request apart gone
      refine orderly.fresh request (fun other found stood => ?_) fun earlier member => gone earlier (List.mem_cons_of_mem _ member)
      by_cases same : other = there
      · subst same
        rw [stands] at stood
        cases stood
        exact gone call List.mem_cons_self
      · exact apart other found (by rw [Function.update_of_ne same]; exact stood)
    · intro one other found found' stood stood' different
      exact orderly.current one other found found' (lookup stood).2 (lookup stood').2 different
    · intro other found stood gone member
      obtain ⟨different, stood⟩ := lookup stood
      rcases List.mem_cons.mp member with rfl | earlier
      · exact orderly.current other there found gone stood stands different
      · exact orderly.past other found stood gone earlier

theorem Visits.advance (steps : Nat) {there : Place} {request : Request} {rest : Program Op α} {actions : List (Action World)}
    (visits : Visits effect program place distinct start world
      (Function.update calls there (some ⟨request, rest, actions⟩)) left) :
    Visits effect program place distinct start (advance effect steps rest actions world).2.2
      (Function.update calls there (some ⟨request, (advance effect steps rest actions world).1,
        (advance effect steps rest actions world).2.1⟩)) left := by
  induction steps generalizing rest actions world with
  | zero => exact visits
  | succ steps onwards =>
    cases rest with
    | done value => exact visits
    | act op next =>
      have acted := Visits.act true (Function.update_self ..) visits
      rw [Function.update_idem] at acted
      exact onwards acted

end Interleaving

import Mathlib.Logic.Function.Basic

/-! Operations run in a transaction: what they do to the state is kept when they
succeed and the transaction commits, and only then. -/

namespace Transaction
variable {State ε α : Type}

inductive Failure (ε : Type) where
  | operation (error : ε)
  | unavailable

/-- A transaction that cannot be begun or committed leaves the state as it was. -/
def run (available : Bool) (operation : State → Except ε (State × α)) (state : State) :
    State × Except (Failure ε) α :=
  match operation state with
  | .error error => (state, .error (if available then .operation error else .unavailable))
  | .ok (later, answer) => if available then (later, .ok answer) else (state, .error .unavailable)

variable {available : Bool} {operation : State → Except ε (State × α)} {state : State}

theorem run_cases (available : Bool) (operation : State → Except ε (State × α)) (state : State) :
    (∃ failure, run available operation state = (state, .error failure)) ∨
    ∃ later answer, operation state = .ok (later, answer) ∧ run available operation state = (later, .ok answer) := by
  unfold run
  cases attempted : operation state with
  | error error => exact .inl ⟨_, rfl⟩
  | ok result =>
    cases available with
    | false => exact .inl ⟨.unavailable, rfl⟩
    | true => exact .inr ⟨result.1, result.2, rfl, rfl⟩

theorem run_refused {failure : Failure ε} (refused : (run available operation state).2 = .error failure) :
    (run available operation state).1 = state := by
  obtain ⟨_, same⟩ | ⟨_, _, _, same⟩ := run_cases available operation state
  · rw [same]
  · rw [same] at refused; cases refused

theorem run_ok {later : State} {answer : α} :
    run true operation state = (later, .ok answer) ↔ operation state = .ok (later, answer) := by
  unfold run
  cases attempted : operation state with
  | error error => simp
  | ok result => simp [Prod.ext_iff]

theorem run_error {error : ε} :
    run true operation state = (state, .error (.operation error)) ↔ operation state = .error error := by
  unfold run
  cases attempted : operation state with
  | error error => simp
  | ok result => simp

section
variable {β : Type} {wrap : α → β} {result : Except ε (State × α)} {later : State}

theorem map_ok {given : β} : (result.map fun (state, value) => (state, wrap value)) = .ok (later, given) ↔
    ∃ value, result = .ok (later, value) ∧ wrap value = given := by
  cases result with
  | error error => simp [Except.map]
  | ok committed =>
    obtain ⟨state, value⟩ := committed
    simp only [Except.map, Except.ok.injEq, Prod.mk.injEq]
    constructor
    · intro ⟨here, same⟩
      exact ⟨value, ⟨here, rfl⟩, same⟩
    · intro ⟨_, ⟨here, rfl⟩, same⟩
      exact ⟨here, same⟩

theorem map_ok_iff (injective : Function.Injective wrap) {value : α} :
    (result.map fun (state, value) => (state, wrap value)) = .ok (later, wrap value) ↔ result = .ok (later, value) := by
  rw [map_ok]
  constructor
  · intro ⟨_, success, same⟩
    exact injective same ▸ success
  · exact fun success => ⟨value, success, rfl⟩

theorem map_error {error : ε} (refused : result = .error error) :
    (result.map fun (state, value) => (state, wrap value)) = .error error := by
  rw [refused]
  rfl

end

variable {Input : Type} {operations : Input → State → Except ε (State × α)}

/-- An operation that one and the same condition makes succeed on each input. -/
theorem answered_iff (input : Input) {answer : α} {holds : Prop}
    (told : ∀ input, operations input state = .ok (state, answer) ↔ holds) :
    (∀ input, run true (operations input) state = (state, .ok answer)) ↔ holds := by
  constructor
  · exact fun answered => (told input).mp (run_ok.mp (answered input))
  · exact fun held input => run_ok.mpr ((told input).mpr held)

theorem refused_of (fails : ∀ input later answer, operations input state ≠ .ok (later, answer)) (input : Input) :
    ∃ failure, run true (operations input) state = (state, .error failure) := by
  obtain refused | ⟨later, answer, success, _⟩ := run_cases true (operations input) state
  · exact refused
  · exact absurd success (fails input later answer)

theorem run_success (succeeds : (operation state).isOk = true) :
    ∃ answer, operation state = .ok ((run true operation state).1, answer) := by
  cases attempted : operation state with
  | error error => rw [attempted] at succeeds; cases succeeds
  | ok committed => exact ⟨committed.2, by rw [run_ok.mpr attempted]⟩

end Transaction

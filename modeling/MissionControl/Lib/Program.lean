import Mathlib.Data.List.Basic

/-! Programs that touch a shared world by atomic actions only. Their environment may
fail any action and stop them before any action; several may take turns. -/

universe u

inductive Program (Op : Type → Type u) (α : Type) : Type (max 1 u) where
  | done (value : α)
  | act {β : Type} (op : Op β) (next : β → Program Op α)

/-- What an action answers and does to the world, when it works and when it fails. -/
abbrev Effect (Op : Type → Type u) (World : Type) := ∀ β, Op β → Bool → World → β × World

namespace Program
variable {Op : Type → Type u} {World α β : Type}

def bind : Program Op α → (α → Program Op β) → Program Op β
  | .done value, rest => rest value
  | .act op next, rest => .act op fun answer => (next answer).bind rest

instance : Monad (Program Op) where
  pure := .done
  bind := bind

def perform (op : Op β) : Program Op β := act op .done

/-- Goes on with a good answer, and passes a failure on. -/
def onward {ε : Type} (program : Program Op (Except ε α)) (rest : α → Program Op (Except ε β)) :
    Program Op (Except ε β) :=
  program >>= fun
    | .ok value => rest value
    | .error cause => pure (.error cause)

variable (effect : Effect Op World)

/-- One attempt at a program. The schedule says of each action whether it works; the
program stops where the schedule ends. -/
def attempt : List Bool → Program Op α → World → World × Option α
  | _, .done value, world => (world, some value)
  | [], .act _ _, world => (world, none)
  | works :: schedule, .act op next, world =>
    attempt schedule (next (effect _ op works world).1) (effect _ op works world).2

/-- From this world on, the program may stop only where `stopped` holds, and returns
only where its postcondition does. -/
def Safe (stopped : World → Prop) (post : α → World → Prop) : Program Op α → World → Prop
  | .done value, world => post value world
  | .act op next, world => stopped world ∧ ∀ works,
    Safe stopped post (next (effect _ op works world).1) (effect _ op works world).2

variable {effect} {stopped : World → Prop} {post : α → World → Prop} {world : World}

theorem Safe.perform {op : Op α} (now : stopped world)
    (holds : ∀ works, post (effect _ op works world).1 (effect _ op works world).2) :
    Safe effect stopped post (perform op) world := ⟨now, holds⟩

theorem Safe.bind {middle : β → World → Prop} {program : Program Op β} {rest : β → Program Op α}
    (first : Safe effect stopped middle program world)
    (second : ∀ value later, middle value later → Safe effect stopped post (rest value) later) :
    Safe effect stopped post (program >>= rest) world := by
  induction program generalizing world with
  | done value => exact second value world first
  | act op next onwards => exact ⟨first.1, fun works => onwards _ (first.2 works)⟩

theorem Safe.onward {ε : Type} {middle : Except ε β → World → Prop} {last : Except ε α → World → Prop}
    {program : Program Op (Except ε β)} {rest : β → Program Op (Except ε α)}
    (first : Safe effect stopped middle program world)
    (failed : ∀ cause later, middle (.error cause) later → last (.error cause) later)
    (second : ∀ value later, middle (.ok value) later → Safe effect stopped last (rest value) later) :
    Safe effect stopped last (program.onward rest) world := by
  apply first.bind
  intro answer later holds
  cases answer with
  | ok value => exact second value later holds
  | error cause => exact failed cause later holds

variable {program : Program Op α}

theorem Safe.weaken {weaker : World → Prop} {other : α → World → Prop} (safe : Safe effect stopped post program world)
    (stops : ∀ world, stopped world → weaker world) (returns : ∀ value world, post value world → other value world) :
    Safe effect weaker other program world := by
  induction program generalizing world with
  | done value => exact returns value world safe
  | act op next onwards => exact ⟨stops world safe.1, fun works => onwards _ (safe.2 works)⟩

/-- Where an attempt ends, the program was stopped or it returned. -/
theorem Safe.attempt (safe : Safe effect stopped post program world) (schedule : List Bool) :
    stopped (program.attempt effect schedule world).1 ∨ ∃ value, post value (program.attempt effect schedule world).1 := by
  induction schedule generalizing program world with
  | nil =>
    cases program with
    | done value => exact .inr ⟨value, safe⟩
    | act op next => exact .inl safe.1
  | cons works schedule onwards =>
    cases program with
    | done value => exact .inr ⟨value, safe⟩
    | act op next => exact onwards (safe.2 works)

/-- A program that keeps to an invariant leaves it standing however an attempt ends. -/
theorem Safe.keeps (safe : Safe effect stopped (fun _ => stopped) program world) (schedule : List Bool) :
    stopped (program.attempt effect schedule world).1 := by
  rcases safe.attempt schedule with kept | ⟨_, kept⟩
  · exact kept
  · exact kept

end Program

structure Pool (Op : Type → Type u) (World α : Type) : Type (max 1 u) where
  world : World
  callers : List (Program Op α)

inductive Turn (Op : Type → Type u) (α : Type) : Type (max 1 u) where
  | start (program : Program Op α)
  | act (caller : Nat) (works : Bool)

namespace Pool
variable {Op : Type → Type u} {World α β : Type} (effect : Effect Op World)

def take (pool : Pool Op World α) : Turn Op α → Pool Op World α
  | .start program => { pool with callers := pool.callers ++ [program] }
  | .act caller works =>
    match pool.callers[caller]? with
    | some (.act op next) =>
      ⟨(effect _ op works pool.world).2, pool.callers.set caller (next (effect _ op works pool.world).1)⟩
    | _ => pool

def after (pool : Pool Op World α) (turns : List (Turn Op α)) : Pool Op World α :=
  turns.foldl (take effect) pool

def action (pool : Pool Op World α) : Turn Op α → Option ((β : Type) × Op β × Bool)
  | .start _ => none
  | .act caller works =>
    match pool.callers[caller]? with
    | some (.act op _) => some ⟨_, op, works⟩
    | _ => none

variable {effect} {pool : Pool Op World α} {turn : Turn Op α}

theorem after_snoc (pool : Pool Op World α) (turns : List (Turn Op α)) (turn : Turn Op α) :
    pool.after effect (turns ++ [turn]) = (pool.after effect turns).take effect turn := by
  simp [after]

/-- A turn without an action leaves the world; one with an action does that action. -/
theorem take_world : (pool.take effect turn).world =
    match pool.action turn with
    | none => pool.world
    | some ⟨_, op, works⟩ => (effect _ op works pool.world).2 := by
  cases turn with
  | start program => rfl
  | act caller works =>
    simp only [take, action]
    rcases pool.callers[caller]? with _ | ⟨_ | _⟩ <;> rfl

end Pool

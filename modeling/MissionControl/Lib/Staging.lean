import MissionControl.Lib.Checked
import MissionControl.Lib.KeyMap

/-! Commands that decide on a state to put in place. A decision is carried out as a
whole or not at all, and a command issued again under its key gets the answer it
was given before. -/

namespace Staging

variable {State Outcome ε : Type}

/-- What a command decided: an answer given before, a state to commit, or one that
is put in place without passing through the commit. -/
inductive Staged (State Outcome : Type) where
  | replayed (outcome : Outcome)
  | committed (outcome : Outcome) (next : State)
  | placed (outcome : Outcome) (next : State)

structure Committing (State : Type) where
  state : State
  failNextCommit : Bool

def settle (failure : ε) (service : Committing State) :
    Except ε (Staged State Outcome) → Committing State × Except ε Outcome
  | .error cause => (service, .error cause)
  | .ok (.replayed outcome) => (service, .ok outcome)
  | .ok (.placed outcome next) => ({ service with state := next }, .ok outcome)
  | .ok (.committed outcome next) =>
    if service.failNextCommit then ({ service with failNextCommit := false }, .error failure)
    else ({ service with state := next }, .ok outcome)

/-- The state a decision asks for, when it asks for one. -/
def Staged.target : Staged State Outcome → Option State
  | .replayed _ => none
  | .committed _ next | .placed _ next => some next

def Staged.outcome : Staged State Outcome → Outcome
  | .replayed outcome | .committed outcome _ | .placed outcome _ => outcome

section
variable {failure : ε} {service : Committing State} {decided : Except ε (Staged State Outcome)}

/-- Nothing happens to the state, or the state decided on is put in place and the
command succeeds. -/
theorem settle_cases (failure : ε) (service : Committing State) (decided : Except ε (Staged State Outcome)) :
    (settle failure service decided).1.state = service.state ∨
    ∃ staged next, decided = .ok staged ∧ staged.target = some next ∧
      settle failure service decided = ({ service with state := next }, .ok staged.outcome) := by
  unfold settle
  split
  · exact .inl rfl
  · exact .inl rfl
  next outcome next => exact .inr ⟨.placed outcome next, next, rfl, rfl, rfl⟩
  next outcome next =>
    split
    · exact .inl rfl
    · exact .inr ⟨.committed outcome next, next, rfl, rfl, rfl⟩

theorem settle_error {cause : ε} (refused : (settle failure service decided).2 = .error cause) :
    (settle failure service decided).1.state = service.state ∧ (decided = .error cause ∨ cause = failure) := by
  revert refused
  unfold settle
  split
  · intro refused; cases refused; exact ⟨rfl, .inl rfl⟩
  · exact nofun
  · exact nofun
  · split
    · intro refused; cases refused; exact ⟨rfl, .inr rfl⟩
    · exact nofun

end

variable {Key Signature Stored : Type} [LinearOrder Key] [DecidableEq Signature]

def replay (conflict : ε) (answers : KeyMap Key (Signature × Stored)) (key : Key) (signature : Signature) :
    Except ε (Option Stored) :=
  match answers[key]? with
  | none => .ok none
  | some (known, stored) => if known = signature then .ok (some stored) else .error conflict

/-- A stored answer of the command's own kind is given again; anything else goes on. -/
def orReplay (pick : Stored → Option Outcome) (replayed : Except ε (Option Stored))
    (fresh : Except ε (Staged State Outcome)) : Except ε (Staged State Outcome) :=
  match replayed with
  | .error cause => .error cause
  | .ok stored =>
    match stored.bind pick with
    | some outcome => .ok (.replayed outcome)
    | none => fresh

theorem replay_ok {conflict : ε} {answers : KeyMap Key (Signature × Stored)} {key : Key} {signature : Signature}
    {stored : Option Stored} (replayed : replay conflict answers key signature = .ok stored) :
    stored = none ∧ answers[key]? = none ∨ ∃ answer, stored = some answer ∧ answers[key]? = some (signature, answer) := by
  unfold replay at replayed
  split at replayed
  next absent => cases replayed; exact .inl ⟨rfl, absent⟩
  next known answer found =>
    split at replayed
    next same => cases replayed; cases same; exact .inr ⟨answer, rfl, found⟩
    · cases replayed

variable {fresh : Except ε (Staged State Outcome)} {replayed : Except ε (Option Stored)}

theorem orReplay_ok {pick : Stored → Option Outcome} {staged : Staged State Outcome}
    (decided : orReplay pick replayed fresh = .ok staged) :
    (∃ stored outcome, replayed = .ok (some stored) ∧ pick stored = some outcome ∧ staged = .replayed outcome) ∨
    ∃ stored, replayed = .ok stored ∧ stored.bind pick = none ∧ fresh = .ok staged := by
  unfold orReplay at decided
  split at decided
  · cases decided
  next stored =>
    split at decided
    next outcome picked =>
      obtain ⟨answer, rfl, picked⟩ := Option.bind_eq_some_iff.mp picked
      exact .inl ⟨answer, outcome, rfl, picked, (Except.ok.inj decided).symm⟩
    next unpicked => exact .inr ⟨stored, rfl, unpicked, decided⟩

/-- A stored answer of another kind than the command's own is a conflict. -/
def orConflict (conflict : ε) (pick : Stored → Option Outcome) (replayed : Except ε (Option Stored))
    (fresh : Except ε (Staged State Outcome)) : Except ε (Staged State Outcome) :=
  match replayed with
  | .error cause => .error cause
  | .ok none => fresh
  | .ok (some stored) =>
    match pick stored with
    | some outcome => .ok (.replayed outcome)
    | none => .error conflict

theorem orConflict_ok {conflict : ε} {pick : Stored → Option Outcome} {staged : Staged State Outcome}
    (decided : orConflict conflict pick replayed fresh = .ok staged) :
    (∃ outcome, staged = .replayed outcome) ∨ replayed = .ok none ∧ fresh = .ok staged := by
  unfold orConflict at decided
  split at decided
  · cases decided
  · exact .inr ⟨rfl, decided⟩
  · split at decided
    next outcome _ => exact .inl ⟨outcome, (Except.ok.inj decided).symm⟩
    · cases decided

end Staging

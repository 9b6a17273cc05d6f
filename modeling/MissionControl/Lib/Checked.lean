import Mathlib.Data.List.Forall2

/-! Fallible steps in sequence: what a successful run of them says about each. -/

namespace Checked
variable {ε α β : Type}

def ensure (condition : Prop) [Decidable condition] (failure : ε) : Except ε Unit :=
  if condition then .ok () else .error failure

def require (failure : ε) : Option α → Except ε α
  | some value => .ok value
  | none => .error failure

def relabel {δ : Type} (change : δ → ε) : Except δ α → Except ε α
  | .ok value => .ok value
  | .error failure => .error (change failure)

theorem bind_ok {first : Except ε α} {next : α → Except ε β} {result : β} :
    first >>= next = .ok result ↔ ∃ value, first = .ok value ∧ next value = .ok result := by
  cases first <;> simp [bind, Except.bind]

theorem pure_ok {value result : α} : (pure value : Except ε α) = .ok result ↔ value = result := by
  simp [pure, Except.pure]

variable {failure : ε}

theorem throw_ok {result : α} : (throw failure : Except ε α) = .ok result ↔ False := by
  simp [throw, throwThe, MonadExceptOf.throw]

theorem ensure_ok {condition : Prop} [Decidable condition] {result : Unit} :
    ensure condition failure = .ok result ↔ condition := by
  unfold ensure
  split <;> simp_all

/-- A check that comes down to another one. -/
theorem ensure_bind {condition same : Prop} [Decidable condition] [Decidable same] {next : Unit → Except ε α}
    (exact : condition ↔ same) : (ensure condition failure >>= next) = if same then next () else .error failure := by
  unfold ensure
  by_cases condition
  · rw [if_pos ‹_›, if_pos (exact.mp ‹_›)]
    rfl
  · rw [if_neg ‹_›, if_neg (fun holds => ‹¬ condition› (exact.mpr holds))]
    rfl

theorem require_ok {value : Option α} {result : α} : require failure value = .ok result ↔ value = some result := by
  cases value <;> simp [require]

theorem relabel_ok {δ : Type} {change : δ → ε} {outcome : Except δ α} {result : α} :
    relabel change outcome = .ok result ↔ outcome = .ok result := by
  cases outcome <;> simp [relabel]

theorem mapM_ok {step : α → Except ε β} {items : List α} {results : List β} :
    items.mapM step = .ok results ↔ List.Forall₂ (fun item result => step item = .ok result) items results := by
  induction items generalizing results with
  | nil => cases results <;> simp [pure, Except.pure]
  | cons head tail rest =>
    rw [List.mapM_cons, bind_ok]
    constructor
    · rintro ⟨first, headOk, later⟩
      obtain ⟨following, tailOk, same⟩ := bind_ok.mp later
      cases pure_ok.mp same
      exact .cons headOk (rest.mp tailOk)
    · intro matched
      cases matched with
      | cons headOk tailOk => exact ⟨_, headOk, bind_ok.mpr ⟨_, rest.mpr tailOk, rfl⟩⟩

/-- Of two lists that match, each item of either has one of the other that it matches. -/
theorem mem_matched {γ δ : Type} {matching : γ → δ → Prop} {items : List γ} {results : List δ}
    (matched : List.Forall₂ matching items results) :
    (∀ item ∈ items, ∃ result ∈ results, matching item result) ∧
      ∀ result ∈ results, ∃ item ∈ items, matching item result := by
  induction matched with
  | nil => simp
  | cons first _ rest =>
    obtain ⟨forth, back⟩ := rest
    constructor
    · intro item held
      rcases List.mem_cons.mp held with rfl | later
      · exact ⟨_, List.mem_cons_self .., first⟩
      · obtain ⟨result, found, matches'⟩ := forth item later
        exact ⟨result, List.mem_cons_of_mem _ found, matches'⟩
    · intro result held
      rcases List.mem_cons.mp held with rfl | later
      · exact ⟨_, List.mem_cons_self .., first⟩
      · obtain ⟨item, found, matches'⟩ := back result later
        exact ⟨item, List.mem_cons_of_mem _ found, matches'⟩

end Checked

import Mathlib.Data.List.Basic

/-! Runs of a labelled transition system in which a label may also leave the state
as it is. Invariants may speak about the labels seen so far, so that facts such
as "this name has not been drawn yet" are carried along a run. -/

namespace Run
variable {State Label : Type*} {Step : Label → State → State → Prop}

inductive Evolves (Step : Label → State → State → Prop) (start : State) : List Label → State → Prop where
  | start : Evolves Step start [] start
  | idle {seen : List Label} {state : State} (label : Label) :
      Evolves Step start seen state → Evolves Step start (seen ++ [label]) state
  | move {seen : List Label} {state later : State} (label : Label) :
      Evolves Step start seen state → Step label state later → Evolves Step start (seen ++ [label]) later

namespace Evolves
variable {start state later : State} {seen following : List Label}

theorem trans (first : Evolves Step start seen state) (second : Evolves Step state following later) :
    Evolves Step start (seen ++ following) later := by
  induction second with
  | start => simpa using first
  | idle label _ rest => rw [← List.append_assoc]; exact .idle label rest
  | move label _ step rest => rw [← List.append_assoc]; exact .move label rest step

theorem single {label : Label} (step : state = later ∨ Step label state later) :
    Evolves Step state [label] later := by
  rcases step with rfl | step
  · exact .idle label .start
  · exact .move label .start step

/-- What every step keeps holds wherever a run leads. -/
theorem invariant (holds : State → Prop) (kept : ∀ label before after, Step label before after → holds before → holds after)
    (evolves : Evolves Step start seen later) (initially : holds start) : holds later := by
  induction evolves with
  | start => exact initially
  | idle _ _ rest => exact rest
  | move label _ step rest => exact kept label _ _ step rest

/-- An invariant about the labels seen so far, kept as long as the labels stay
admissible. -/
theorem invariantAlong (admissible : List Label → Prop) (holds : List Label → State → Prop)
    (shrinks : ∀ seen label, admissible (seen ++ [label]) → admissible seen)
    (idles : ∀ seen label state, holds seen state → holds (seen ++ [label]) state)
    (kept : ∀ seen label before after, admissible (seen ++ [label]) → Step label before after →
      holds seen before → holds (seen ++ [label]) after)
    (evolves : Evolves Step start seen later) (allowed : admissible seen) (initially : holds [] start) :
    holds seen later := by
  induction evolves with
  | start => exact initially
  | idle label _ rest => exact idles _ _ _ (rest (shrinks _ _ allowed))
  | move label _ step rest => exact kept _ _ _ _ allowed step (rest (shrinks _ _ allowed))

end Evolves

/-- Names drawn along a run, each at most once. -/
def Distinct {Name : Type} (draws : Label → List Name) (seen : List Label) : Prop :=
  (seen.flatMap draws).Nodup

variable {seen : List Label} {Name : Type} {label : Label}

theorem Distinct.shrinks {draws : Label → List Name} (distinct : Distinct draws (seen ++ [label])) :
    Distinct draws seen := by
  unfold Distinct at distinct
  rw [List.flatMap_append] at distinct
  exact (List.nodup_append.mp distinct).1

/-- A name drawn by the last label was not drawn before. -/
theorem Distinct.fresh {draws : Label → List Name} {name : Name} (distinct : Distinct draws (seen ++ [label]))
    (drawn : name ∈ draws label) : name ∉ seen.flatMap draws := by
  unfold Distinct at distinct
  rw [List.flatMap_append, List.nodup_append] at distinct
  exact fun before => distinct.2.2 name before name (by simpa using drawn) rfl

theorem mem_drawn {draws : Label → List Name} {name : Name} (before : name ∈ seen.flatMap draws) :
    name ∈ (seen ++ [label]).flatMap draws := by
  rw [List.flatMap_append]
  exact List.mem_append_left _ before

theorem drawn_last {draws : Label → List Name} {name : Name} (drawn : name ∈ draws label) :
    name ∈ (seen ++ [label]).flatMap draws := by
  rw [List.flatMap_append]
  exact List.mem_append_right _ (by simpa using drawn)

theorem Distinct.left {draws : Label → List Name} {first second : List Label}
    (distinct : Distinct draws (first ++ second)) : Distinct draws first := by
  unfold Distinct at distinct
  rw [List.flatMap_append] at distinct
  exact (List.nodup_append.mp distinct).1

/-- Of two places in a run one is the other, or comes after it. -/
theorem places {Event : Type} {first second following later : List Event} {one other : Event}
    (same : first ++ one :: following = second ++ other :: later) :
    first = second ∨ (∃ middle, second = first ++ one :: middle) ∨ ∃ middle, first = second ++ other :: middle := by
  rcases List.append_eq_append_iff.mp same with ⟨between, grown, rest⟩ | ⟨between, grown, rest⟩
  · cases between with
    | nil => exact .inl (by simpa using grown.symm)
    | cons head middle =>
      obtain ⟨rfl, _⟩ := List.cons.inj rest
      exact .inr (.inl ⟨middle, grown⟩)
  · cases between with
    | nil => exact .inl (by simpa using grown)
    | cons head middle =>
      obtain ⟨rfl, _⟩ := List.cons.inj rest
      exact .inr (.inr ⟨middle, grown⟩)

end Run

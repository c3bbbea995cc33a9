import Mathlib.Data.List.Forall2

/-!
# Outcomes that agree

Two runs agree when both succeed with related values or both fail with related
failures. Agreement passes through sequences of stages, and through lists that are
run one entry after the other.
-/

namespace StackLowering

variable {ε δ α β γ η : Type}

/-- Two outcomes are both successes, with related values, or both failures, with related ones. -/
inductive Agree (failing : ε → δ → Prop) (related : α → β → Prop) :
    Except ε α → Except δ β → Prop where
  | ok {first : α} {second : β} (values : related first second) :
      Agree failing related (.ok first) (.ok second)
  | error {first : ε} {second : δ} (failures : failing first second) :
      Agree failing related (.error first) (.error second)

namespace Agree

variable {failing : ε → δ → Prop} {related : α → β → Prop} {relatedLater : γ → η → Prop}
  {first : Except ε α} {second : Except δ β}

/-- Stages that agree on related values agree behind outcomes that agree. -/
theorem bind {next : α → Except ε γ} {other : β → Except δ η}
    (agree : Agree failing related first second)
    (later : ∀ value paired, related value paired →
      Agree failing relatedLater (next value) (other paired)) :
    Agree failing relatedLater (first >>= next) (second >>= other) := by
  cases agree with
  | ok values => exact later _ _ values
  | error failures => exact .error failures

/-- What is made of related values is related. -/
theorem map {make : α → γ} {remake : β → η} (agree : Agree failing related first second)
    (made : ∀ value paired, related value paired → relatedLater (make value) (remake paired)) :
    Agree failing relatedLater (first.map make) (second.map remake) := by
  cases agree with
  | ok values => exact .ok (made _ _ values)
  | error failures => exact .error failures

/-- Lists agree that are run through entry by entry, if their entries do. -/
theorem mapM {entering : γ → η → Prop} {run : γ → Except ε α} {rerun : η → Except δ β}
    {entries : List γ} {others : List η} (paired : List.Forall₂ entering entries others)
    (each : ∀ entry other, entering entry other →
      Agree failing related (run entry) (rerun other)) :
    Agree failing (List.Forall₂ related) (entries.mapM run) (others.mapM rerun) := by
  induction paired with
  | nil => exact .ok .nil
  | cons head tail inductionHypothesis =>
    rw [List.mapM_cons, List.mapM_cons]
    refine (each _ _ head).bind fun value pairedValue values => ?_
    refine inductionHypothesis.bind fun rest pairedRest later => ?_
    exact .ok (.cons values later)

/-- An outcome agrees with itself. -/
theorem refl {failing : ε → ε → Prop} (failures : ∀ failure, failing failure failure)
    (outcome : Except ε α) : Agree failing Eq outcome outcome := by
  cases outcome with
  | ok value => exact .ok rfl
  | error failure => exact .error (failures failure)

end Agree

end StackLowering

import Mathlib.Data.List.Basic

/-!
# Outcomes decided by a list of violations

A check that runs through several stages stops at the first one that fails.
`DecidedBy` compares such a check with the list of everything that is wrong, made
without stopping anywhere: the check fails with the first entry of the list, and
succeeds when the list is empty. Sequences of checks append their lists.
-/

namespace StackLowering

variable {ε δ α β : Type}

/-- The failure of an outcome, if it is one. -/
def failure? : Except ε α → Option ε
  | .ok _ => none
  | .error failure => some failure

/-- An outcome fails with the first of some violations, and succeeds if there is none. -/
def DecidedBy (outcome : Except ε α) (violations : List ε) : Prop :=
  match outcome with
  | .ok _ => violations = []
  | .error failure => violations.head? = some failure

namespace DecidedBy

variable {outcome : Except ε α} {violations : List ε}

/-- The failure of what is decided by violations is the first of them. -/
theorem eq_error_iff (decided : DecidedBy outcome violations) (failure : ε) :
    outcome = .error failure ↔ violations.head? = some failure := by
  cases outcome with
  | ok value =>
    have none : violations = [] := decided
    simp [none]
  | error first =>
    have head : violations.head? = some first := decided
    simp [head]

/-- What is decided by violations succeeds exactly if there are none. -/
theorem exists_eq_ok_iff (decided : DecidedBy outcome violations) :
    (∃ value, outcome = .ok value) ↔ violations = [] := by
  cases outcome with
  | ok value =>
    have none : violations = [] := decided
    simp [none]
  | error first =>
    have head : violations.head? = some first := decided
    constructor
    · rintro ⟨value, impossible⟩
      cases impossible
    · rintro rfl
      cases head

/-- A value is decided by no violations. -/
theorem ok (value : α) : DecidedBy (.ok value : Except ε α) [] := rfl

/-- The second stage counts only when the first one succeeds. -/
theorem bind {rest : α → Except ε β} {later : List ε} (decided : DecidedBy outcome violations)
    (next : ∀ value, outcome = .ok value → DecidedBy (rest value) later) :
    DecidedBy (outcome >>= rest) (violations ++ later) := by
  cases outcome with
  | ok value =>
    have none : violations = [] := decided
    rw [none, List.nil_append]
    exact next value rfl
  | error first =>
    have head : violations.head? = some first := decided
    show (violations ++ later).head? = some first
    rw [List.head?_append, head]
    rfl

/-- What is made of a success does not matter. -/
theorem map (decided : DecidedBy outcome violations) (f : α → β) :
    DecidedBy (outcome.map f) violations := by
  cases outcome with
  | ok value => exact decided
  | error first => exact decided

/-- What is made of a failure is made of the violations. -/
theorem mapError (decided : DecidedBy outcome violations) (locate : ε → δ) :
    DecidedBy (outcome.mapError locate) (violations.map locate) := by
  cases outcome with
  | ok value =>
    have none : violations = [] := decided
    rw [none]
    rfl
  | error failure =>
    have head : violations.head? = some failure := decided
    show (violations.map locate).head? = some (locate failure)
    rw [List.head?_map, head]
    rfl

/-- A single outcome is decided by its own failure. -/
theorem failure (outcome : Except ε α) : DecidedBy outcome (failure? outcome).toList := by
  cases outcome with
  | ok value => rfl
  | error first => rfl

/-- A list of checks is decided by their violations, one after the other. -/
theorem mapM {check : α → Except ε β} {wrong : α → List ε} {values : List α}
    (decided : ∀ value ∈ values, DecidedBy (check value) (wrong value)) :
    DecidedBy (values.mapM check) (values.flatMap wrong) := by
  induction values with
  | nil => rfl
  | cons value rest inductionHypothesis =>
    rw [List.mapM_cons, List.flatMap_cons]
    refine (decided value List.mem_cons_self).bind fun first _ => ?_
    have later := inductionHypothesis fun other member =>
      decided other (List.mem_cons_of_mem _ member)
    rw [← List.append_nil (rest.flatMap wrong)]
    exact later.bind fun _ _ => ok _

end DecidedBy

end StackLowering

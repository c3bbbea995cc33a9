import Mathlib.Data.List.Forall2

/-!
# Sequences of outcomes

A sequence of stages succeeds if every stage does, and so does a run through the
entries of a list. `mapM_eq_ok_iff` pairs the entries with their results; what is
said below about successful runs follows from it.
-/

namespace StackLowering

variable {ε α β : Type}

/-- A successful sequence consists of two successful parts. -/
theorem exists_of_bind_eq_ok {first : Except ε α} {rest : α → Except ε β} {result : β}
    (succeeds : first >>= rest = .ok result) :
    ∃ value, first = .ok value ∧ rest value = .ok result := by
  cases first with
  | error fault => cases succeeds
  | ok value => exact ⟨value, rfl, succeeds⟩

variable {read : α → Except ε β} {values : List α} {results : List β}

/-- A run through a list succeeds with the results of its entries. -/
theorem mapM_eq_ok_iff :
    values.mapM read = .ok results ↔
      List.Forall₂ (fun value result => read value = .ok result) values results := by
  constructor
  · intro succeeds
    induction values generalizing results with
    | nil =>
      cases succeeds
      exact .nil
    | cons value rest inductionHypothesis =>
      rw [List.mapM_cons] at succeeds
      obtain ⟨first, readFirst, succeeds⟩ := exists_of_bind_eq_ok succeeds
      obtain ⟨others, readOthers, succeeds⟩ := exists_of_bind_eq_ok succeeds
      cases succeeds
      exact .cons readFirst (inductionHypothesis readOthers)
  · intro paired
    induction paired with
    | nil => rfl
    | cons readFirst _ inductionHypothesis =>
      rw [List.mapM_cons, readFirst, inductionHypothesis]
      rfl

/-- A mapped list of successes is the list of the values. -/
theorem mapM_eq_ok {make : α → β} (succeeds : ∀ value ∈ values, read value = .ok (make value)) :
    values.mapM read = .ok (values.map make) := by
  rw [mapM_eq_ok_iff, List.forall₂_map_right_iff, List.forall₂_same]
  exact succeeds

/-- A successful run leaves no entry out. -/
theorem filterMap_of_mapM_eq_ok (succeeds : values.mapM read = .ok results) :
    values.filterMap (fun value => (read value).toOption) = results := by
  have paired := mapM_eq_ok_iff.mp succeeds
  clear succeeds
  induction paired with
  | nil => rfl
  | cons readFirst _ inductionHypothesis =>
    rw [List.filterMap_cons, readFirst, inductionHypothesis]
    rfl

/-- What a successful run collects comes from the entries. -/
theorem exists_of_mem_mapM (succeeds : values.mapM read = .ok results) {result : β}
    (member : result ∈ results) : ∃ value ∈ values, read value = .ok result := by
  rw [← filterMap_of_mapM_eq_ok succeeds, List.mem_filterMap] at member
  obtain ⟨value, inValues, found⟩ := member
  refine ⟨value, inValues, ?_⟩
  cases outcome : read value with
  | error failure =>
    rw [outcome] at found
    cases found
  | ok other =>
    rw [outcome] at found
    cases found
    rfl

/-- The first failure in a list decides. -/
theorem mapM_eq_error {before after : List α} {value : α} {failure : ε}
    (succeeds : ∀ earlier ∈ before, ∃ result, read earlier = .ok result)
    (fails : read value = .error failure) :
    (before ++ value :: after).mapM read = .error failure := by
  induction before with
  | nil =>
    rw [List.nil_append, List.mapM_cons, fails]
    rfl
  | cons first rest inductionHypothesis =>
    obtain ⟨result, firstSucceeds⟩ := succeeds first List.mem_cons_self
    rw [List.cons_append, List.mapM_cons, firstSucceeds,
      inductionHypothesis fun other member => succeeds other (List.mem_cons_of_mem _ member)]
    rfl

/-- A run fails because one of the entries does. -/
theorem exists_of_mapM_eq_error {failure : ε} (fails : values.mapM read = .error failure) :
    ∃ value ∈ values, read value = .error failure := by
  induction values with
  | nil => cases fails
  | cons value rest inductionHypothesis =>
    rw [List.mapM_cons] at fails
    cases first : read value with
    | error trouble =>
      rw [first] at fails
      cases fails
      exact ⟨value, List.mem_cons_self, first⟩
    | ok result =>
      rw [first] at fails
      cases later : rest.mapM read with
      | error trouble =>
        rw [later] at fails inductionHypothesis
        obtain ⟨culprit, member, failed⟩ := inductionHypothesis fails
        exact ⟨culprit, List.mem_cons_of_mem _ member, failed⟩
      | ok others =>
        rw [later] at fails
        cases fails

end StackLowering

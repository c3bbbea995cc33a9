import StackLowering.Proofs.Text.EditDistance
import Mathlib.Data.List.Sort
import Mathlib.Data.String.Basic

/-!
# Suggested names

The suggestions for a misspelt name are the names that take the fewest edits, if
these are few enough for its length in bytes (`nearest_suggests`). They are listed
in ascending order, and so they depend on nothing but which names there are.
-/

namespace StackLowering.Text

/-- The number of edits that it takes at least to turn one name into another. -/
def IsDistance (distance : Nat) (name other : String) : Prop :=
  IsLeast {count | Edits count name.toList other.toList} distance

/-- A name is one of those at the least distance from a misspelt one, and not too far from it. -/
structure Closest (misspelt : String) (names : List String) (name : String) : Prop where
  listed : name ∈ names
  close : ∃ distance, IsDistance distance name misspelt ∧
    distance ≤ max (misspelt.utf8ByteSize / 3) 1 ∧
    ∀ other ∈ names, ∀ further, IsDistance further other misspelt → distance ≤ further

/-- A list has the closest names and no others, each of them once and in ascending order. -/
structure Suggests (misspelt : String) (names suggestions : List String) : Prop where
  ascending : suggestions.Pairwise (· < ·)
  members : ∀ name, name ∈ suggestions ↔ Closest misspelt names name

/-- The computed distance is the least number of edits, and no other number is. -/
theorem isDistance_iff {distance : Nat} {name other : String} :
    IsDistance distance name other ↔ distance = editDistance name.toList other.toList := by
  have least : IsDistance _ name other := isLeast_editDistance name.toList other.toList
  constructor
  · intro distances
    exact distances.unique least
  · rintro rfl
    exact least

/-- The closest names are those at the least computed distance, if it is within the limit. -/
theorem closest_iff {misspelt name : String} {names : List String} :
    Closest misspelt names name ↔ name ∈ names ∧
      editDistance name.toList misspelt.toList ≤ nearestLimit misspelt ∧
      ∀ other ∈ names,
        editDistance name.toList misspelt.toList ≤ editDistance other.toList misspelt.toList := by
  constructor
  · rintro ⟨listed, distance, distances, limited, least⟩
    obtain rfl := isDistance_iff.mp distances
    exact ⟨listed, limited, fun other member => least other member _ (isDistance_iff.mpr rfl)⟩
  · rintro ⟨listed, limited, least⟩
    refine ⟨listed, _, isDistance_iff.mpr rfl, limited, fun other member further distances => ?_⟩
    rw [isDistance_iff.mp distances]
    exact least other member

/-! ## Candidates in ascending order -/

/-- An inserted name is added to the names, if it was not among them. -/
theorem mem_insertOrdered {name other : String} {names : List String} :
    other ∈ insertOrdered name names ↔ other = name ∨ other ∈ names := by
  induction names with
  | nil => simp [insertOrdered]
  | cons head rest inductionHypothesis =>
    unfold insertOrdered
    split
    · exact List.mem_cons
    · split
      · rename_i same
        rw [same, List.mem_cons, or_self_left]
      · rw [List.mem_cons, inductionHypothesis, List.mem_cons, or_left_comm]

/-- Inserting a name keeps the names in ascending order, each of them once. -/
theorem pairwise_insertOrdered {name : String} {names : List String}
    (ascending : names.Pairwise (· < ·)) : (insertOrdered name names).Pairwise (· < ·) := by
  induction names with
  | nil => exact List.pairwise_singleton _ name
  | cons head rest inductionHypothesis =>
    obtain ⟨first, later⟩ := List.pairwise_cons.mp ascending
    unfold insertOrdered
    split
    · rename_i before
      refine List.pairwise_cons.mpr ⟨fun other member => ?_, ascending⟩
      rcases List.mem_cons.mp member with rfl | member
      · exact before
      · exact before.trans (first other member)
    · rename_i notBefore
      split
      · exact ascending
      · rename_i different
        refine List.pairwise_cons.mpr ⟨fun other member => ?_, inductionHypothesis later⟩
        rcases mem_insertOrdered.mp member with rfl | member
        · exact lt_of_le_of_ne (not_lt.mp notBefore) (Ne.symm different)
        · exact first other member

/-- The candidates are the given names. -/
theorem mem_candidates {name : String} {names : List String} :
    name ∈ names.foldr insertOrdered [] ↔ name ∈ names := by
  induction names with
  | nil => rfl
  | cons head rest inductionHypothesis =>
    rw [List.foldr_cons, mem_insertOrdered, inductionHypothesis, List.mem_cons]

/-- The candidates are in ascending order, each of them once. -/
theorem pairwise_candidates (names : List String) :
    (names.foldr insertOrdered []).Pairwise (· < ·) := by
  induction names with
  | nil => exact .nil
  | cons head rest inductionHypothesis => exact pairwise_insertOrdered inductionHypothesis

/-! ## Suggestions -/

/-- Suggestions are in ascending order, each of them once. -/
theorem pairwise_nearest (misspelt : String) (names : List String) :
    (nearest misspelt names).Pairwise (· < ·) := by
  unfold nearest
  dsimp only
  split
  · exact .nil
  · split
    · exact (pairwise_candidates names).filter _
    · exact .nil

/-- The suggestions are the closest names. -/
theorem mem_nearest_iff {misspelt name : String} {names : List String} :
    name ∈ nearest misspelt names ↔ Closest misspelt names name := by
  rw [closest_iff]
  unfold nearest
  dsimp only
  split
  · rename_i unlisted
    rw [List.min?_eq_none_iff, List.map_eq_nil_iff] at unlisted
    have empty : name ∉ names := by
      rw [← mem_candidates, unlisted]
      exact List.not_mem_nil
    simp [empty]
  · rename_i least found
    rw [List.min?_eq_some_iff] at found
    obtain ⟨reached, lowest⟩ := found
    obtain ⟨closest, closestMember, rfl⟩ := List.mem_map.mp reached
    have lowest : ∀ other ∈ names, editDistance closest.toList misspelt.toList ≤
        editDistance other.toList misspelt.toList := fun other member =>
      lowest _ (List.mem_map_of_mem (mem_candidates.mpr member))
    rw [mem_candidates] at closestMember
    split
    · rename_i limited
      rw [List.mem_filter, mem_candidates, beq_iff_eq]
      constructor
      · rintro ⟨member, equal⟩
        rw [equal]
        exact ⟨member, limited, lowest⟩
      · rintro ⟨member, -, least⟩
        exact ⟨member, Nat.le_antisymm (least closest closestMember) (lowest name member)⟩
    · rename_i unlimited
      simp only [List.not_mem_nil, false_iff]
      rintro ⟨member, limited, -⟩
      exact unlimited (Nat.le_trans (lowest name member) limited)

/-- The suggestions for a misspelt name are exactly the closest names, in ascending order; they are
the same for all lists of the same names. -/
theorem nearest_suggests (misspelt : String) (names : List String) :
    Suggests misspelt names (nearest misspelt names) ∧
      ∀ others : List String, (∀ name, name ∈ others ↔ name ∈ names) →
        nearest misspelt others = nearest misspelt names := by
  refine ⟨⟨pairwise_nearest misspelt names, fun name => mem_nearest_iff⟩, fun others same => ?_⟩
  apply (pairwise_nearest misspelt others).eq_of_mem_iff (pairwise_nearest misspelt names)
  intro name
  simp only [mem_nearest_iff, closest_iff, same]

/-- Two names are equally close, and one of them is given twice. -/
theorem tiedNames_suggested :
    Suggests "pus" ["push", "pop", "put", "push"] ["push", "put"] ∧
      nearest "pus" ["put", "pop", "push"] = ["push", "put"] := by
  have suggestions : nearest "pus" ["push", "pop", "put", "push"] = ["push", "put"] := by
    decide +kernel
  obtain ⟨suggests, same⟩ := nearest_suggests "pus" ["push", "pop", "put", "push"]
  rw [suggestions] at suggests same
  refine ⟨suggests, same _ fun name => ?_⟩
  simp only [List.mem_cons, List.not_mem_nil, or_false]
  tauto

end StackLowering.Text

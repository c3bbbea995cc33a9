import StackLowering.Text.Nearest
import Mathlib.Order.Bounds.Basic
import Mathlib.Order.MinMax

/-!
# Edit distances

`isLeast_editDistance` says that the distance of two texts is the least number of
edits that turn one into the other. Edits come in any order and at any place, while
the distance is computed from the ends of the texts to their beginnings; an
alignment of the two texts stands between both. It is read like a distance, one
column after the other, and it takes up an edit at any place for a cost of one.
-/

namespace StackLowering.Text

/-- An edit of a text: a character is inserted, deleted or replaced. -/
inductive Edit : List Char → List Char → Prop where
  | insert (character : Char) (text : List Char) : Edit text (character :: text)
  | delete (character : Char) (text : List Char) : Edit (character :: text) text
  | replace (old new : Char) (text : List Char) : Edit (old :: text) (new :: text)
  | further (character : Char) {first second : List Char} (edit : Edit first second) :
      Edit (character :: first) (character :: second)

/-- A number of edits, one after the other. -/
inductive Edits : Nat → List Char → List Char → Prop where
  | none (text : List Char) : Edits 0 text text
  | more {count : Nat} {first middle second : List Char} (edits : Edits count first middle)
      (edit : Edit middle second) : Edits (count + 1) first second

/-- Two texts are written one below the other, so that at most a number of columns do not show the
same character twice. -/
inductive Aligned : Nat → List Char → List Char → Prop where
  | finish (cost : Nat) : Aligned cost [] []
  | keep (character : Char) {cost : Nat} {first second : List Char}
      (rest : Aligned cost first second) : Aligned cost (character :: first) (character :: second)
  | replace (old new : Char) {cost : Nat} {first second : List Char}
      (rest : Aligned cost first second) : Aligned (cost + 1) (old :: first) (new :: second)
  | insert (character : Char) {cost : Nat} {first second : List Char}
      (rest : Aligned cost first second) : Aligned (cost + 1) first (character :: second)
  | delete (character : Char) {cost : Nat} {first second : List Char}
      (rest : Aligned cost first second) : Aligned (cost + 1) (character :: first) second

/-- Edits can be made behind a character that stays. -/
theorem Edits.further {count : Nat} {first second : List Char} (character : Char)
    (edits : Edits count first second) :
    Edits count (character :: first) (character :: second) := by
  induction edits with
  | none text => exact .none _
  | more _ edit inductionHypothesis => exact .more inductionHypothesis (.further character edit)

/-! ## Computed distances -/

/-- The distances to a text and to its suffixes, of which the first one is the distance. -/
theorem foldr_extendDistances_cons (first : List Char) (character : Char) (second : List Char) :
    first.foldr (fun head => extendDistances head (character :: second))
        (suffixLengths (character :: second)) =
      editDistance first (character :: second) ::
        first.foldr (fun head => extendDistances head second) (suffixLengths second) := by
  induction first with
  | nil => rfl
  | cons head rest inductionHypothesis =>
    rw [editDistance, List.foldr_cons, List.foldr_cons, inductionHypothesis]
    rfl

/-- All characters have to be inserted into an empty text. -/
theorem editDistance_nil_left (second : List Char) : editDistance [] second = second.length := by
  cases second with
  | nil => rfl
  | cons character rest => rfl

/-- All characters have to be deleted for an empty text. -/
theorem editDistance_nil_right (first : List Char) : editDistance first [] = first.length := by
  have row : first.foldr (fun head => extendDistances head []) (suffixLengths []) =
      [first.length] := by
    induction first with
    | nil => rfl
    | cons head rest inductionHypothesis =>
      rw [List.foldr_cons, inductionHypothesis]
      rfl
  rw [editDistance, row, List.headD_cons]

/-- The first characters are kept if they are the same; otherwise the cheapest edit is made. -/
theorem editDistance_cons_cons (head : Char) (rest : List Char) (character : Char)
    (text : List Char) :
    editDistance (head :: rest) (character :: text) =
      if head = character then editDistance rest text
      else 1 + min (min (editDistance rest (character :: text)) (editDistance (head :: rest) text))
        (editDistance rest text) := by
  rw [editDistance, List.foldr_cons, foldr_extendDistances_cons]
  rfl

/-! ## Alignments -/

namespace Aligned

variable {cost : Nat} {first second : List Char}

/-- An alignment may count more columns than it has to. -/
theorem mono {larger : Nat} (aligned : Aligned cost first second) (atMost : cost ≤ larger) :
    Aligned larger first second := by
  induction aligned generalizing larger with
  | finish => exact .finish larger
  | keep character _ inductionHypothesis => exact .keep character (inductionHypothesis atMost)
  | replace old new _ inductionHypothesis =>
    obtain ⟨larger, rfl⟩ := Nat.exists_eq_add_of_le' (Nat.le_trans (Nat.le_add_left 1 _) atMost)
    exact .replace old new (inductionHypothesis (Nat.le_of_add_le_add_right atMost))
  | insert character _ inductionHypothesis =>
    obtain ⟨larger, rfl⟩ := Nat.exists_eq_add_of_le' (Nat.le_trans (Nat.le_add_left 1 _) atMost)
    exact .insert character (inductionHypothesis (Nat.le_of_add_le_add_right atMost))
  | delete character _ inductionHypothesis =>
    obtain ⟨larger, rfl⟩ := Nat.exists_eq_add_of_le' (Nat.le_trans (Nat.le_add_left 1 _) atMost)
    exact .delete character (inductionHypothesis (Nat.le_of_add_le_add_right atMost))

/-- A text is aligned with itself for nothing. -/
theorem refl (text : List Char) : Aligned 0 text text := by
  induction text with
  | nil => exact .finish 0
  | cons character rest inductionHypothesis => exact .keep character inductionHypothesis

/-- An alignment can be turned over. -/
theorem symm (aligned : Aligned cost first second) : Aligned cost second first := by
  induction aligned with
  | finish cost => exact .finish cost
  | keep character _ inductionHypothesis => exact .keep character inductionHypothesis
  | replace old new _ inductionHypothesis => exact .replace new old inductionHypothesis
  | insert character _ inductionHypothesis => exact .delete character inductionHypothesis
  | delete character _ inductionHypothesis => exact .insert character inductionHypothesis

/-- An alignment with a text that is not empty deletes some characters, and then shows the first
character of that text. -/
@[elab_as_elim]
theorem columnInduction {character : Char}
    {motive : (cost : Nat) → (first : List Char) → Aligned cost first (character :: second) → Prop}
    (aligned : Aligned cost first (character :: second))
    (keep : ∀ {cost first} (rest : Aligned cost first second), motive _ _ (rest.keep character))
    (replace : ∀ {cost first} old (rest : Aligned cost first second),
      motive _ _ (rest.replace old character))
    (insert : ∀ {cost first} (rest : Aligned cost first second),
      motive _ _ (rest.insert character))
    (delete : ∀ {cost first} old (rest : Aligned cost first (character :: second)),
      motive _ _ rest → motive _ _ (rest.delete old)) :
    motive cost first aligned := by
  have general : ∀ {cost first text} (whole : text = character :: second)
      (other : Aligned cost first text), motive cost first (whole ▸ other) := by
    intro cost first text whole other
    induction other with
    | finish => cases whole
    | keep _ rest =>
      cases whole
      exact keep rest
    | replace old _ rest =>
      cases whole
      exact replace old rest
    | insert _ rest =>
      cases whole
      exact insert rest
    | delete old rest inductionHypothesis =>
      subst whole
      exact delete old rest (inductionHypothesis rfl)
  exact general rfl aligned

/-- Without its first character, a text can be aligned for a cost of one more. -/
theorem dropSecond {character : Char} (aligned : Aligned cost first (character :: second)) :
    Aligned (cost + 1) first second := by
  induction aligned using columnInduction with
  | keep rest => exact .delete character rest
  | replace old rest => exact (rest.delete old).mono (Nat.le_succ _)
  | insert rest => exact rest.mono (by omega)
  | delete old _ inductionHypothesis => exact .delete old inductionHypothesis

/-- An edit of the second text costs at most one more. -/
theorem edit {changed : List Char} (aligned : Aligned cost first second)
    (edited : Edit second changed) : Aligned (cost + 1) first changed := by
  induction edited generalizing cost first with
  | insert character text => exact .insert character aligned
  | delete character text => exact aligned.dropSecond
  | replace old new text =>
    induction aligned using columnInduction with
    | keep rest => exact .replace old new rest
    | replace other rest => exact (rest.replace other new).mono (Nat.le_succ _)
    | insert rest => exact (rest.insert new).mono (Nat.le_succ _)
    | delete other _ inductionHypothesis => exact .delete other inductionHypothesis
  | further character _ editRest =>
    induction aligned using columnInduction with
    | keep rest => exact .keep character (editRest rest)
    | replace other rest => exact .replace other character (editRest rest)
    | insert rest => exact .insert character (editRest rest)
    | delete other _ inductionHypothesis => exact .delete other inductionHypothesis

/-- Every character that is added costs one. -/
theorem length_le (aligned : Aligned cost first second) : second.length ≤ first.length + cost := by
  induction aligned with
  | finish => simp
  | _ =>
    simp only [List.length_cons]
    omega

/-- No alignment costs less than the distance. -/
theorem editDistance_le (aligned : Aligned cost first second) :
    editDistance first second ≤ cost := by
  induction first generalizing second cost with
  | nil =>
    rw [editDistance_nil_left]
    simpa using aligned.length_le
  | cons head rest shorterFirst =>
    induction second generalizing cost with
    | nil =>
      rw [editDistance_nil_right]
      simpa using aligned.symm.length_le
    | cons character text shorterSecond =>
      rw [editDistance_cons_cons]
      split
      · -- Characters that are the same may be kept, whatever the alignment does with them.
        rename_i same
        subst same
        apply shorterFirst
        cases aligned with
        | keep _ rest => exact rest
        | replace _ _ rest => exact rest.mono (Nat.le_succ _)
        | insert _ rest => exact rest.symm.dropSecond.symm
        | delete _ rest => exact rest.dropSecond
      · rename_i different
        cases aligned with
        | keep _ rest => exact absurd rfl different
        | replace _ _ rest =>
          have least := shorterFirst rest
          omega
        | insert _ rest =>
          have least := shorterSecond rest
          omega
        | delete _ rest =>
          have least := shorterFirst rest
          omega

/-- An alignment says which edits to make, from the end of the texts to their beginning. -/
theorem exists_edits (aligned : Aligned cost first second) :
    ∃ count ≤ cost, Edits count first second := by
  induction aligned with
  | finish cost => exact ⟨0, Nat.zero_le cost, .none []⟩
  | keep character _ inductionHypothesis =>
    obtain ⟨count, atMost, edits⟩ := inductionHypothesis
    exact ⟨count, atMost, edits.further character⟩
  | replace old new _ inductionHypothesis =>
    obtain ⟨count, atMost, edits⟩ := inductionHypothesis
    exact ⟨count + 1, Nat.succ_le_succ atMost, (edits.further old).more (.replace old new _)⟩
  | insert character _ inductionHypothesis =>
    obtain ⟨count, atMost, edits⟩ := inductionHypothesis
    exact ⟨count + 1, Nat.succ_le_succ atMost, edits.more (.insert character _)⟩
  | delete character _ inductionHypothesis =>
    obtain ⟨count, atMost, edits⟩ := inductionHypothesis
    exact ⟨count + 1, Nat.succ_le_succ atMost,
      (edits.further character).more (.delete character _)⟩

end Aligned

/-- There is an alignment for the cost of the distance. -/
theorem aligned_editDistance (first second : List Char) :
    Aligned (editDistance first second) first second := by
  induction first generalizing second with
  | nil =>
    rw [editDistance_nil_left]
    induction second with
    | nil => exact .finish 0
    | cons character text inductionHypothesis => exact .insert character inductionHypothesis
  | cons head rest shorterFirst =>
    induction second with
    | nil =>
      have whole := shorterFirst []
      rw [editDistance_nil_right] at whole ⊢
      exact .delete head whole
    | cons character text shorterSecond =>
      rw [editDistance_cons_cons]
      split
      · rename_i same
        subst same
        exact .keep head (shorterFirst text)
      · rw [Nat.add_comm]
        rcases min_choice (min (editDistance rest (character :: text))
          (editDistance (head :: rest) text)) (editDistance rest text) with outer | replaced
        · rw [outer]
          rcases min_choice (editDistance rest (character :: text))
            (editDistance (head :: rest) text) with deleted | inserted
          · rw [deleted]
            exact .delete head (shorterFirst (character :: text))
          · rw [inserted]
            exact .insert character shorterSecond
        · rw [replaced]
          exact .replace head character (shorterFirst text)

/-- Edits can be gathered into an alignment for the cost of their number. -/
theorem Edits.aligned {count : Nat} {first second : List Char} (edits : Edits count first second) :
    Aligned count first second := by
  induction edits with
  | none text => exact .refl text
  | more _ edit inductionHypothesis => exact inductionHypothesis.edit edit

/-- The distance of two texts is the least number of edits that turn the first one into the second
one. -/
theorem isLeast_editDistance (first second : List Char) :
    IsLeast {count | Edits count first second} (editDistance first second) := by
  have lower : ∀ count, Edits count first second → editDistance first second ≤ count :=
    fun count edits => edits.aligned.editDistance_le
  obtain ⟨count, atMost, edits⟩ := (aligned_editDistance first second).exists_edits
  rw [Nat.le_antisymm atMost (lower count edits)] at edits
  exact ⟨edits, lower⟩

end StackLowering.Text

import StackLowering.Proofs.Labels.Supply
import Mathlib.Data.Finset.Card
import Mathlib.Order.Interval.Finset.Nat

/-!
# How many labels a supply can issue

A counter value is passed over only when its label is present, and every present
label can be the reason once at most, because it ends with one number only. So a
supply spends one counter value for each label that it issues, and one for each
label that was present from the beginning. `issue_of_hasRoom` says that a supply
with room for one more label issues it, and how much room is left.
-/

namespace StackLowering.LabelSupply

/-- The number with which a label ends. -/
def ending (label : String) : Nat :=
  Nat.ofDigitChars 10 (label.toList.reverse.takeWhile Char.isDigit).reverse 0

/-- An issued label ends with its counter value. -/
theorem ending_spell (unit : String) (line : Nat) (purpose : String) (counter : Nat) :
    ending (spell unit line purpose counter) = counter := by
  have digits : ∀ character ∈ (Nat.toDigits 10 counter).reverse, character.isDigit = true := by
    intro character member
    rw [List.mem_reverse] at member
    exact Nat.isDigit_of_mem_toDigits (by decide) (by decide) member
  have run : (spell unit line purpose counter).toList.reverse.takeWhile Char.isDigit =
      (Nat.toDigits 10 counter).reverse := by
    rw [spell, String.toList_append, List.reverse_append, Nat.toList_repr,
      List.takeWhile_append_of_pos digits, String.toList_append, List.reverse_append]
    simp
  rw [ending, run, List.reverse_reverse]
  exact Nat.ofDigitChars_toDigits (by decide) (by decide)

/-- The labels for different counter values differ. -/
theorem spell_injective (unit : String) (line : Nat) (purpose : String) :
    Function.Injective (spell unit line purpose) := by
  intro first second equal
  rw [← ending_spell unit line purpose first, equal, ending_spell]

/-- The present labels that can still be met: those that end with a counter value not passed. -/
def pending (supply : LabelSupply) : Finset String :=
  supply.present.toFinset.filter fun label => supply.next ≤ ending label

/-- The counter values that are passed, and those that may have to be passed over. -/
def spent (supply : LabelSupply) : Nat := supply.next + supply.pending.card

/-- Whether a supply can issue a number of labels, whatever their units, lines and purposes. -/
def HasRoom (supply : LabelSupply) (count : Nat) : Prop := supply.spent + count ≤ limit

/-- The search of a supply begins at its next counter value. -/
theorem limit_sub_remaining (supply : LabelSupply) :
    limit - (limit - supply.next) = supply.next :=
  Nat.sub_sub_self supply.next_le

/-- A search passes over taken values only. -/
theorem taken_of_search {taken : Nat → Bool} {remaining counter : Nat}
    (bounded : remaining ≤ limit) (found : search taken remaining = some counter) :
    limit - remaining ≤ counter ∧
      ∀ earlier, limit - remaining ≤ earlier → earlier < counter → taken earlier = true := by
  induction remaining with
  | zero => simp [search] at found
  | succ remaining inductionHypothesis =>
    simp only [search] at found
    split at found
    · rename_i here
      obtain ⟨above, between⟩ := inductionHypothesis (by omega) found
      refine ⟨by omega, fun earlier low high => ?_⟩
      by_cases first : earlier = limit - (remaining + 1)
      · rw [first]
        exact here
      · exact between earlier (by omega) high
    · have here : limit - (remaining + 1) = counter := by simpa using found
      exact ⟨by omega, fun earlier low high => by omega⟩

/-- A search that finds nothing has met taken values only. -/
theorem taken_of_search_eq_none {taken : Nat → Bool} {remaining : Nat}
    (bounded : remaining ≤ limit) (missing : search taken remaining = none) :
    ∀ counter, limit - remaining ≤ counter → counter < limit → taken counter = true := by
  induction remaining with
  | zero =>
    intro counter low high
    omega
  | succ remaining inductionHypothesis =>
    simp only [search] at missing
    split at missing
    · rename_i here
      intro counter low high
      by_cases first : counter = limit - (remaining + 1)
      · rw [first]
        exact here
      · exact inductionHypothesis (by omega) missing counter (by omega) high
    · cases missing

/-- Every taken counter value has a pending label of its own. -/
theorem image_subset_pending {supply : LabelSupply} {unit purpose : String} {line stop : Nat}
    (taken : ∀ counter, supply.next ≤ counter → counter < stop →
      supply.contains (spell unit line purpose counter) = true) :
    (Finset.Ico supply.next stop).image (spell unit line purpose) ⊆ supply.pending := by
  intro label member
  obtain ⟨counter, between, rfl⟩ := Finset.mem_image.mp member
  obtain ⟨low, high⟩ := Finset.mem_Ico.mp between
  have present := taken counter low high
  simp only [contains, List.contains_iff_mem] at present
  simp [pending, present, ending_spell, low]

/-- A supply with room for a label issues it, and has room for the others left. -/
theorem issue_of_hasRoom {supply : LabelSupply} {count : Nat} (room : supply.HasRoom (count + 1))
    (unit : String) (line : Nat) (purpose : String) :
    ∃ label after, supply.issue unit line purpose = (some label, after) ∧
      after.HasRoom count := by
  have bounded : supply.next ≤ limit := supply.next_le
  have start := supply.limit_sub_remaining
  unfold HasRoom spent at room
  unfold issue
  dsimp only
  split
  · rename_i counter found
    refine ⟨_, _, rfl, ?_⟩
    obtain ⟨low, passed⟩ := taken_of_search (Nat.sub_le _ _) found
    rw [start] at low passed
    have skipped := image_subset_pending passed
    -- What is pending afterwards was pending before, and none of it has been passed over.
    have later : ∀ label ∈ pending ⟨supply.present.insert (spell unit line purpose counter),
        counter + 1, lt_limit_of_search found⟩,
        label ∈ supply.pending \ (Finset.Ico supply.next counter).image
          (spell unit line purpose) := by
      intro label member
      simp only [pending, Finset.mem_filter, List.mem_toFinset, List.mem_insert_iff] at member
      obtain ⟨rfl | present, above⟩ := member
      · rw [ending_spell] at above
        omega
      · simp only [pending, Finset.mem_sdiff, Finset.mem_filter, List.mem_toFinset,
          Finset.mem_image, Finset.mem_Ico, not_exists, not_and]
        refine ⟨⟨present, by omega⟩, ?_⟩
        rintro earlier ⟨-, high⟩ rfl
        rw [ending_spell] at above
        omega
    have fewer := Finset.card_le_card later
    rw [Finset.card_sdiff_of_subset skipped,
      Finset.card_image_of_injective _ (spell_injective unit line purpose),
      Nat.card_Ico] at fewer
    have enough := Finset.card_le_card skipped
    rw [Finset.card_image_of_injective _ (spell_injective unit line purpose),
      Nat.card_Ico] at enough
    unfold HasRoom spent
    dsimp only
    omega
  · rename_i missing
    have taken := taken_of_search_eq_none (Nat.sub_le _ _) missing
    rw [start] at taken
    have full := Finset.card_le_card (image_subset_pending taken)
    rw [Finset.card_image_of_injective _ (spell_injective unit line purpose),
      Nat.card_Ico] at full
    omega

/-- Room for some labels is room for fewer. -/
theorem HasRoom.mono {supply : LabelSupply} {count fewer : Nat} (room : supply.HasRoom count)
    (le : fewer ≤ count) : supply.HasRoom fewer :=
  Nat.le_trans (Nat.add_le_add_left le _) room

/-- Declaring a label that is present changes nothing. -/
theorem declare_of_contains {supply : LabelSupply} {label : String}
    (present : supply.contains label = true) : supply.declare label = supply := by
  have member : label ∈ supply.present := by simpa [contains] using present
  simp [declare, List.insert_of_mem member]

end StackLowering.LabelSupply

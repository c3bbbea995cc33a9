import StackLowering.Proofs.Labels.Room
import StackLowering.Proofs.Lowering.Plan

/-!
# Two supplies side by side

One list of commands may be lowered twice, with different labels present from the
beginning. `LabelSupply.Follows` says that a supply keeps up with another one:
whenever the first issues a label, so does the second, and their relation goes on.
There are two ways to keep up. A supply that lacks no counter value of the other
one is `Behind` it and never runs out before it; a supply with some more names
present issues the same labels as long as none of them is one of these names.
`Plan.follow_follows` carries both from labels over to whole commands.
-/

namespace StackLowering

namespace LabelSupply

/-- The counter value of the label that a supply issues: the least one left whose label is not
present. -/
structure LeastFree (supply : LabelSupply) (unit : String) (line : Nat) (purpose : String)
    (counter : Nat) : Prop where
  low : supply.next ≤ counter
  high : counter < limit
  free : supply.contains (spell unit line purpose counter) = false
  least : ∀ earlier, supply.next ≤ earlier → earlier < counter →
    supply.contains (spell unit line purpose earlier) = true

section Issuing

variable {supply after : LabelSupply} {unit purpose label : String} {line counter : Nat}

/-- An issued label has the least free counter value, and the next one comes after it. -/
theorem leastFree_of_issue (issued : supply.issue unit line purpose = (some label, after)) :
    ∃ counter, supply.LeastFree unit line purpose counter ∧
      label = spell unit line purpose counter ∧ after.next = counter + 1 := by
  unfold issue at issued
  dsimp only at issued
  split at issued
  · rename_i counter found
    cases issued
    obtain ⟨low, passed⟩ := taken_of_search (Nat.sub_le _ _) found
    rw [limit_sub_remaining] at low passed
    exact ⟨counter, ⟨low, lt_limit_of_search found, not_taken_of_search found, passed⟩, rfl, rfl⟩
  · cases issued

/-- A supply issues no label when every counter value left is taken, and gives them all up. -/
theorem issue_eq_none (missing : supply.issue unit line purpose = (none, after)) :
    (∀ counter, supply.next ≤ counter → counter < limit →
      supply.contains (spell unit line purpose counter) = true) ∧
      after.next = limit ∧ after.present = supply.present := by
  unfold issue at missing
  dsimp only at missing
  split at missing
  · cases missing
  · rename_i notFound
    cases missing
    have taken := taken_of_search_eq_none (Nat.sub_le _ _) notFound
    rw [limit_sub_remaining] at taken
    exact ⟨taken, rfl, rfl⟩

/-- There is one least free counter value at most. -/
theorem LeastFree.unique {other : Nat} (least : supply.LeastFree unit line purpose counter)
    (otherLeast : supply.LeastFree unit line purpose other) : other = counter := by
  rcases Nat.lt_trichotomy other counter with less | same | greater
  · have taken := least.least other otherLeast.low less
    rw [otherLeast.free] at taken
    cases taken
  · exact same
  · have taken := otherLeast.least counter least.low greater
    rw [least.free] at taken
    cases taken

/-- A supply issues a label as long as any counter value is free, and takes no later one. -/
theorem issue_of_free (low : supply.next ≤ counter) (high : counter < limit)
    (free : supply.contains (spell unit line purpose counter) = false) :
    ∃ label after, supply.issue unit line purpose = (some label, after) ∧
      after.next ≤ counter + 1 := by
  cases answer : supply.issue unit line purpose with
  | mk outcome after =>
    cases outcome with
    | some label =>
      obtain ⟨taken, leastFree, -, next⟩ := leastFree_of_issue answer
      refine ⟨label, after, rfl, ?_⟩
      by_contra later
      have passed := leastFree.least counter low (by omega)
      rw [free] at passed
      cases passed
    | none =>
      have passed := (issue_eq_none answer).1 counter low high
      rw [free] at passed
      cases passed

/-- A supply issues the label with the least free counter value. -/
theorem issue_of_leastFree (least : supply.LeastFree unit line purpose counter) :
    ∃ after, supply.issue unit line purpose = (some (spell unit line purpose counter), after) ∧
      after.next = counter + 1 := by
  obtain ⟨label, after, issued, -⟩ := issue_of_free least.low least.high least.free
  obtain ⟨other, otherLeast, rfl, next⟩ := leastFree_of_issue issued
  rw [least.unique otherLeast] at issued next
  exact ⟨after, issued, next⟩

end Issuing

/-- How a supply keeps up with another one. Labels of the first supply that do not pass may stop
it; if `verbatim` holds, it issues the very labels that the first one does. -/
structure Follows (related : LabelSupply → LabelSupply → Prop) (passes : String → Prop)
    (verbatim : Prop) : Prop where
  declare : ∀ {first second : LabelSupply} (name : String), related first second →
    related (first.declare name) (second.declare name)
  issue : ∀ {first second after : LabelSupply} {unit purpose label : String} {line : Nat},
    related first second → first.issue unit line purpose = (some label, after) →
    passes label → ∃ other next, second.issue unit line purpose = (some other, next) ∧
      (verbatim → other = label) ∧ related after next

/-- A supply has every counter value left that another one has, and what it may still meet is
present there as well. -/
structure Behind (supply ahead : LabelSupply) : Prop where
  next_le : supply.next ≤ ahead.next
  present : ∀ label, supply.contains label = true → supply.next ≤ ending label →
    ahead.contains label = true

/-- A supply that is behind issues a label whenever the one ahead does, and stays behind. -/
theorem follows_behind :
    Follows (fun ahead supply => supply.Behind ahead) (fun _ => True) False where
  declare := by
    intro ahead supply name behind
    refine ⟨behind.next_le, fun label contained pending => ?_⟩
    rw [contains_declare] at contained ⊢
    rcases contained with same | earlier
    · exact Or.inl same
    · exact Or.inr (behind.present label earlier pending)
  issue := by
    intro ahead supply after unit purpose label line behind issued _
    obtain ⟨counter, leastFree, rfl, next⟩ := leastFree_of_issue issued
    obtain ⟨-, -, afterPresent⟩ := issue_eq_some issued
    have low : supply.next ≤ counter := Nat.le_trans behind.next_le leastFree.low
    have free : supply.contains (spell unit line purpose counter) = false := by
      rw [Bool.eq_false_iff]
      intro taken
      have present := behind.present _ taken (by rwa [ending_spell])
      rw [leastFree.free] at present
      cases present
    obtain ⟨other, left, otherIssued, early⟩ := issue_of_free low leastFree.high free
    obtain ⟨otherCounter, otherLeast, rfl, leftNext⟩ := leastFree_of_issue otherIssued
    obtain ⟨-, -, leftPresent⟩ := issue_eq_some otherIssued
    refine ⟨_, left, otherIssued, False.elim, by omega, fun label contained pending => ?_⟩
    have earlier := otherLeast.low
    rw [leftPresent] at contained
    rcases contained with rfl | contained
    · rw [ending_spell] at pending
      omega
    · exact (afterPresent label).mpr (Or.inr (behind.present label contained (by omega)))

/-- Two supplies with the same counter, of which the second has some names more. -/
structure AlikeBut (names : List String) (supply other : LabelSupply) : Prop where
  next_eq : other.next = supply.next
  present : ∀ label, other.contains label = true ↔
    supply.contains label = true ∨ label ∈ names

/-- The names that only the second supply has make no difference until the first one issues one
of them. -/
theorem follows_alikeBut (names : List String) :
    Follows (AlikeBut names) (fun label => label ∉ names) True where
  declare := by
    intro supply other name alike
    refine ⟨alike.next_eq, fun label => ?_⟩
    rw [contains_declare, contains_declare, alike.present, or_assoc]
  issue := by
    intro supply other after unit purpose label line alike issued unnamed
    obtain ⟨counter, leastFree, rfl, next⟩ := leastFree_of_issue issued
    have alsoLeast : other.LeastFree unit line purpose counter := by
      refine ⟨alike.next_eq ▸ leastFree.low, leastFree.high, ?_, fun earlier low less => ?_⟩
      · rw [Bool.eq_false_iff, ne_eq, alike.present, leastFree.free]
        simpa using unnamed
      · exact (alike.present _).mpr (Or.inl (leastFree.least earlier (alike.next_eq ▸ low) less))
    obtain ⟨left, otherIssued, leftNext⟩ := issue_of_leastFree alsoLeast
    obtain ⟨-, -, afterPresent⟩ := issue_eq_some issued
    obtain ⟨-, -, leftPresent⟩ := issue_eq_some otherIssued
    refine ⟨_, left, otherIssued, fun _ => rfl, by rw [leftNext, next], fun label => ?_⟩
    rw [leftPresent, afterPresent, alike.present, or_assoc]

end LabelSupply

section Lockstep

variable {related : LabelSupply → LabelSupply → Prop} {passes : String → Prop} {verbatim : Prop}

/-- Two contexts at one place whose supplies are related. -/
structure Context.Beside (related : LabelSupply → LabelSupply → Prop) (first second : Context) :
    Prop where
  unit_eq : second.unit = first.unit
  line_eq : second.line = first.line
  labels : related first.labels second.labels

namespace Context

/-- Related supplies stay related when both contexts begin a unit. -/
theorem beside_beginUnit {first second : Context} (begins : related first.labels second.labels)
    (unit : String) : Beside related (first.beginUnit unit) (second.beginUnit unit) :=
  ⟨rfl, rfl, begins⟩

/-- Related supplies stay related when both contexts get to a line of a unit. -/
theorem beside_atLine {first second : Context} (begins : related first.labels second.labels)
    (unit : String) (line : Nat) :
    Beside related ((first.beginUnit unit).atLine line) ((second.beginUnit unit).atLine line) :=
  ⟨rfl, rfl, begins⟩

/-- A context makes a label whenever the one beside it does. -/
theorem freshLabel_follows (follows : LabelSupply.Follows related passes verbatim)
    {first second after : Context} {purpose label : String} (beside : Beside related first second)
    (fresh : first.freshLabel purpose = (.ok label, after)) (pass : passes label) :
    ∃ other next, second.freshLabel purpose = (.ok other, next) ∧
      (verbatim → other = label) ∧ Beside related after next := by
  unfold freshLabel at fresh
  split at fresh
  · rename_i issuedLabel supply issued
    cases fresh
    obtain ⟨other, left, otherIssued, same, goesOn⟩ := follows.issue beside.labels issued pass
    refine ⟨other, { second with labels := left }, ?_, same, beside.unit_eq, beside.line_eq, goesOn⟩
    rw [freshLabel, beside.unit_eq, beside.line_eq, otherIssued]
  · cases fresh

/-- A context makes labels whenever the one beside it does. -/
theorem freshLabels_follows (follows : LabelSupply.Follows related passes verbatim)
    {first second after : Context} {purposes labels : List String}
    (beside : Beside related first second)
    (fresh : first.freshLabels purposes = (.ok labels, after))
    (pass : ∀ label ∈ labels, passes label) :
    ∃ others next, second.freshLabels purposes = (.ok others, next) ∧
      (verbatim → others = labels) ∧ related after.labels next.labels := by
  induction purposes generalizing first second labels with
  | nil =>
    cases fresh
    exact ⟨[], second, rfl, fun _ => rfl, beside.labels⟩
  | cons purpose rest inductionHypothesis =>
    obtain ⟨label, middle, later, freshFirst, freshLater, rfl⟩ := freshLabels_cons_eq_ok fresh
    rw [List.forall_mem_cons] at pass
    obtain ⟨other, otherMiddle, made, same, goesOn⟩ :=
      freshLabel_follows follows beside freshFirst pass.1
    obtain ⟨others, next, madeLater, sameLater, ends⟩ :=
      inductionHypothesis goesOn freshLater pass.2
    refine ⟨other :: others, next, ?_, fun equal => by rw [same equal, sameLater equal], ends⟩
    rw [freshLabels, made]
    dsimp only
    rw [madeLater]

end Context

/-- A plan that can be carried out in one context can be carried out in every context beside it,
provided that the labels taken pass. -/
theorem Plan.follow_follows (follows : LabelSupply.Follows related passes verbatim)
    {outcome : Except Fault Plan} {first second after : Context} {block : Block}
    (beside : Context.Beside related first second)
    (done : Plan.follow first outcome = (.ok block, after))
    (sound : ∀ plan, outcome = .ok plan → plan.IsSound)
    (pass : ∀ plan, outcome = .ok plan → plan.declared? = none →
      ∀ label ∈ Block.labels block, passes label) :
    ∃ other next, Plan.follow second outcome = (.ok other, next) ∧
      (verbatim → other = block) ∧ related after.labels next.labels := by
  cases outcome with
  | error fault => cases done
  | ok plan =>
    cases plan with
    | declaring name code =>
      cases done
      exact ⟨block, second.declare name, rfl, fun _ => rfl, follows.declare name beside.labels⟩
    | labelled purposes code =>
      simp only [Plan.follow, Plan.carryOut] at done
      split at done
      · cases done
      · rename_i labels last fresh
        cases done
        have taken : Block.labels (code labels) = labels :=
          sound _ rfl labels (Context.length_freshLabels fresh)
        obtain ⟨others, next, made, same, ends⟩ :=
          Context.freshLabels_follows follows beside fresh
            (fun label member => pass _ rfl rfl label (taken.symm ▸ member))
        refine ⟨code others, next, ?_, fun equal => by rw [same equal], ends⟩
        simp only [Plan.follow, Plan.carryOut, made]

end Lockstep

end StackLowering

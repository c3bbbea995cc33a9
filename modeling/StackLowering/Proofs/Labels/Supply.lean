import StackLowering.Lowering.Context

/-!
# Fresh labels

What a supply promises about a label that it issues: it is spelled from the unit,
the line, the purpose and some counter value; it was not present before; and
issuing it makes that label present and no other one. A context passes these
promises on.
-/

namespace StackLowering

/-- A label that a supply could have issued for a purpose in a line of a unit. -/
def Spelled (unit : String) (line : Nat) (purpose label : String) : Prop :=
  ∃ counter, label = LabelSupply.spell unit line purpose counter

namespace LabelSupply

/-- A search only finds counter values that are not taken. -/
theorem not_taken_of_search {taken : Nat → Bool} {remaining counter : Nat}
    (found : search taken remaining = some counter) : taken counter = false := by
  induction remaining with
  | zero => simp [search] at found
  | succ remaining inductionHypothesis =>
    simp only [search] at found
    split at found
    · exact inductionHypothesis found
    · rename_i free
      have here : limit - (remaining + 1) = counter := by simpa using found
      rw [← here]
      exact Bool.eq_false_iff.mpr free

/-- An issued label was absent, and it is the only one that issuing adds. -/
theorem issue_eq_some {supply after : LabelSupply} {unit purpose label : String} {line : Nat}
    (issued : supply.issue unit line purpose = (some label, after)) :
    Spelled unit line purpose label ∧ supply.contains label = false ∧
      ∀ other, after.contains other = true ↔ other = label ∨ supply.contains other = true := by
  unfold issue at issued
  dsimp only at issued
  split at issued
  · rename_i counter found
    cases issued
    refine ⟨⟨counter, rfl⟩, not_taken_of_search found, fun other => ?_⟩
    simp [contains]
  · cases issued

end LabelSupply

namespace Context

/-- A declared name is known from then on, together with those known before. -/
@[simp] theorem contains_declare (context : Context) (label other : String) :
    (context.declare label).labels.contains other = true ↔
      other = label ∨ context.labels.contains other = true :=
  context.labels.contains_declare label other

/-- A context issues labels for its own unit and line, and stays there. -/
theorem freshLabel_eq_ok {context after : Context} {purpose label : String}
    (fresh : context.freshLabel purpose = (.ok label, after)) :
    Spelled context.unit context.line purpose label ∧
      context.labels.contains label = false ∧
      (∀ other, after.labels.contains other = true ↔
        other = label ∨ context.labels.contains other = true) ∧
      after.unit = context.unit ∧ after.line = context.line := by
  unfold freshLabel at fresh
  split at fresh
  · rename_i issuedLabel labels issued
    cases fresh
    obtain ⟨spelled, absent, present⟩ := LabelSupply.issue_eq_some issued
    exact ⟨spelled, absent, present, rfl, rfl⟩
  · cases fresh

end Context

end StackLowering

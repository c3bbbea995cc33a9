/-!
# Supply of labels

Generated code needs labels that occur nowhere else in the program. A supply
remembers every label of the program, whether it was issued or declared, and a
counter that becomes the last part of each issued label. The counter has
thirty-two bits: its largest value is never issued, and a supply that has reached
it is exhausted.
-/

namespace StackLowering

/-- The labels present in a program, and the counter for the next one. -/
structure LabelSupply where
  present : List String := []
  next : Nat := 0
  next_le : next ≤ 4294967295 := by decide
deriving DecidableEq, Repr

namespace LabelSupply

/-- The counter value at which a supply is exhausted. -/
def limit : Nat := 4294967295

/-- A supply without labels whose counter starts at the given value. -/
def startingAt (start : Nat) : LabelSupply where
  next := min start limit
  next_le := Nat.min_le_right _ _

/-- Whether a label is present. -/
def contains (supply : LabelSupply) (label : String) : Bool := supply.present.contains label

/-- The number of labels present. -/
def size (supply : LabelSupply) : Nat := supply.present.length

/-- Adds a label, unless it is present. -/
def declare (supply : LabelSupply) (label : String) : LabelSupply :=
  { supply with present := supply.present.insert label }

/-- Declaring a label makes that label present, and no other one. -/
theorem contains_declare (supply : LabelSupply) (label other : String) :
    (supply.declare label).contains other = true ↔
      other = label ∨ supply.contains other = true := by
  simp [contains, declare]

/-- The label of a unit, line and purpose with a given counter value. -/
def spell (unit : String) (line : Nat) (purpose : String) (counter : Nat) : String :=
  unit ++ "_" ++ line.repr ++ "_" ++ purpose ++ "_" ++ counter.repr

/-- The least counter value, among the last `remaining` ones below the limit, whose label is not
present. -/
def search (taken : Nat → Bool) : (remaining : Nat) → Option Nat
  | 0 => none
  | remaining + 1 =>
    let counter := limit - (remaining + 1)
    if taken counter then search taken remaining else some counter

/-- A counter value that a search finds is below the limit. -/
theorem lt_limit_of_search {taken : Nat → Bool} {remaining counter : Nat}
    (found : search taken remaining = some counter) : counter < limit := by
  induction remaining with
  | zero => simp [search] at found
  | succ remaining inductionHypothesis =>
    simp only [search] at found
    split at found
    · exact inductionHypothesis found
    · have : limit - (remaining + 1) = counter := by simpa using found
      have : 0 < limit := by decide
      omega

/-- Issues the label with the least counter value, from the next one on, that is not present. If
there is none, the supply is exhausted from then on. -/
def issue (supply : LabelSupply) (unit : String) (line : Nat) (purpose : String) :
    Option String × LabelSupply :=
  let spelled := spell unit line purpose
  match found : search (fun counter => supply.contains (spelled counter))
      (limit - supply.next) with
  | some counter =>
    (some (spelled counter),
      { present := supply.present.insert (spelled counter)
        next := counter + 1
        next_le := lt_limit_of_search found })
  | none => (none, { supply with next := limit, next_le := Nat.le_refl _ })

end LabelSupply

end StackLowering

/-!
# Ranges of code points

Classes of characters are given as lists of closed ranges of code points.
-/

namespace StackLowering.Text

/-- Whether a character lies in one of some closed ranges of code points. -/
def within (ranges : List (Nat × Nat)) (character : Char) : Bool :=
  ranges.any fun (first, last) => first ≤ character.toNat && character.toNat ≤ last

end StackLowering.Text

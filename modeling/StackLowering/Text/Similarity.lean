import StackLowering.Decimal.Binary64

/-!
# Similar texts

How alike two texts are, as a fraction between zero and one. Characters of the two
texts are paired, each with the first equal one that is still free and not too far
away; the fraction is the mean of the share of paired characters in either text
and of the share of pairs that stand in the same order. Every quotient and sum on
the way is rounded to the nearest binary number, which decides whether a mean right
at the threshold is above it.
-/

namespace StackLowering.Text

/-- Takes the first free character of a text that is equal to a given one and whose index lies in
a range. -/
def takeEqual (character : Char) (low high : Nat) : Nat → List (Char × Bool) →
    Option (List (Char × Bool))
  | _, [] => none
  | index, (other, taken) :: rest =>
    if low ≤ index ∧ index ≤ high ∧ other = character ∧ taken = false then
      some ((other, true) :: rest)
    else (takeEqual character low high (index + 1) rest).map ((other, taken) :: ·)

/-- Pairs the characters of one text, from an index on, with those of another one. What remains
are the characters that found a partner, and the other text with its partners marked. -/
def pairCharacters (range : Nat) : Nat → List Char → List (Char × Bool) →
    List Char × List (Char × Bool)
  | _, [], other => ([], other)
  | index, character :: rest, other =>
    match takeEqual character (index - range) (index + range) 0 other with
    | none => pairCharacters range (index + 1) rest other
    | some other =>
      let (paired, other) := pairCharacters range (index + 1) rest other
      (character :: paired, other)

/-- The mean of three shares of natural numbers, rounded after every step. -/
def meanShare (first second third : Fraction) : Fraction :=
  let sum := (first.nearest.add second.nearest).nearest
  ((sum.add third.nearest).nearest.div ⟨3, 1⟩).nearest

/-- How alike two texts are. -/
def similarity (first second : List Char) : Fraction :=
  if first = [] ∧ second = [] then ⟨1, 1⟩
  else
    let range := max first.length second.length / 2 - 1
    let (paired, marked) := pairCharacters range 0 first (second.map (·, false))
    let partners := (marked.filter (·.2)).map (·.1)
    let common := paired.length
    if common = 0 then ⟨0, 1⟩
    else
      let crossed := (paired.zip partners).countP fun (one, other) => one ≠ other
      let ordered := common - crossed / 2
      meanShare ⟨common, first.length⟩ ⟨common, second.length⟩ ⟨ordered, common⟩

/-- The least similarity, itself excluded, at which one text counts as a misspelling of another. -/
def similarityThreshold : Fraction := Fraction.nearest ⟨7, 10⟩

/-- The candidates that a text may be a misspelling of, the most similar one last; of equally
similar ones, the later candidate is the later one. -/
def similarTo (text : String) (candidates : List String) : List String :=
  let scored := candidates.map fun candidate =>
    (candidate, similarity text.toList candidate.toList)
  let close := scored.filter fun (_, score) => score.exceeds similarityThreshold
  (close.mergeSort fun one other => !one.2.exceeds other.2).map (·.1)

/-- The candidate that a text is most likely a misspelling of. -/
def mostSimilar? (text : String) (candidates : List String) : Option String :=
  (similarTo text candidates).getLast?

end StackLowering.Text

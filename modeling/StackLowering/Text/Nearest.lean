/-!
# Nearest names

Suggestions for a misspelt name are the names at the least edit distance from it,
provided that this distance is small for the length of the name. They are listed
in increasing order and without repetition, so the order in which candidates are
given does not matter.
-/

namespace StackLowering.Text

/-- The distances of `head :: rest` to every suffix of a text, longest suffix first, from those
of `rest`. -/
def extendDistances (head : Char) : List Char → List Nat → List Nat
  | character :: text, whole :: shorter =>
    let extended := extendDistances head text shorter
    let replaced := shorter.headD 0
    let distance :=
      if head = character then replaced
      else 1 + min (min whole (extended.headD 0)) replaced
    distance :: extended
  | _, distances => distances.map (· + 1)

/-- The distances of an empty text to every suffix of a text: the lengths of the suffixes. -/
def suffixLengths : List Char → List Nat
  | [] => [0]
  | _ :: text => (text.length + 1) :: suffixLengths text

/-- The least number of insertions, deletions and replacements of characters that turn one text
into another. -/
def editDistance (first second : List Char) : Nat :=
  (first.foldr (fun head => extendDistances head second) (suffixLengths second)).headD 0

/-- Puts a name into an increasing list, unless it is there. -/
def insertOrdered (name : String) : List String → List String
  | [] => [name]
  | head :: rest =>
    if name < head then name :: head :: rest
    else if name = head then head :: rest
    else head :: insertOrdered name rest

/-- The largest distance at which a name still counts as a misspelling of another one. -/
def nearestLimit (misspelt : String) : Nat := max (misspelt.utf8ByteSize / 3) 1

/-- The names that a misspelt name was most likely meant to be. -/
def nearest (misspelt : String) (names : List String) : List String :=
  let distance (name : String) : Nat := editDistance name.toList misspelt.toList
  let candidates := names.foldr insertOrdered []
  match (candidates.map distance).min? with
  | none => []
  | some least =>
    if least ≤ nearestLimit misspelt then candidates.filter fun name => distance name == least
    else []

end StackLowering.Text

import StackLowering.Text.Blank

/-!
# Command lines of a source

A source is cut into lines at line feeds only. Everything from the first `//` of
a line on is a comment, and what is left is trimmed of blanks; a line with
nothing left holds no command. `lines` yields the others with their line
number and the index of their first character in the source.
-/

namespace StackLowering

namespace Source

/-- A line that holds a command: its number counted from one, its text without comment and
surrounding blanks, and the index of that text in the source. -/
structure Line where
  number : Nat
  text : List Char
  offset : Nat
deriving DecidableEq, Repr

/-- Puts one character in front of the lines that follow it; a line feed ends its line. -/
def joinLine (character : Char) (later : List (List Char)) : List (List Char) :=
  if character = '\n' then [character] :: later
  else match later with
    | [] => [[character]]
    | line :: rest => (character :: line) :: rest

/-- The lines of a source, each with the line feed that ends it. -/
def rawLines (source : List Char) : List (List Char) := source.foldr joinLine []

/-- No character is lost or moved when a source is cut into lines. -/
theorem flatten_rawLines (source : List Char) : (rawLines source).flatten = source := by
  induction source with
  | nil => rfl
  | cons character rest inductionHypothesis =>
    have unfolded : rawLines (character :: rest) = joinLine character (rawLines rest) := rfl
    rw [unfolded]
    cases lines : rawLines rest with
    | nil =>
      rw [lines] at inductionHypothesis
      unfold joinLine
      split <;> simp [← inductionHypothesis]
    | cons line others =>
      rw [lines] at inductionHypothesis
      unfold joinLine
      split <;> simp [← inductionHypothesis]

/-- The text in front of the first comment marker. -/
def beforeComment : List Char → List Char
  | [] => []
  | '/' :: '/' :: _ => []
  | character :: rest => character :: beforeComment rest

/-- The command of one raw line, if it holds any. -/
def line? (number offset : Nat) (raw : List Char) : Option Line :=
  let code := beforeComment raw
  match Text.trimEnd (Text.trimStart code) with
  | [] => none
  | text => some ⟨number, text, offset + Text.leadingBlanks code⟩

/-- The commands of raw lines, the first of which has the given number and offset. -/
def placeLines (number offset : Nat) : List (List Char) → List Line
  | [] => []
  | raw :: rest =>
    let later := placeLines (number + 1) (offset + raw.length) rest
    match line? number offset raw with
    | none => later
    | some line => line :: later

/-- The lines of a source that hold a command, in order. -/
def lines (source : List Char) : List Line :=
  placeLines 1 0 (rawLines source)

end Source

end StackLowering

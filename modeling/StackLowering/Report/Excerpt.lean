import StackLowering.Text.Blank
import StackLowering.Text.Width

/-!
# Source excerpts

A report shows the line of the source in which a span starts. For this purpose a
source has a line break at every character that Unicode regards as one, and a
carriage return with the line feed after it counts as one break. Columns are as
wide as the characters in them.
-/

namespace StackLowering.Report

/-- A line of a source, with the index of its first character and its number from one. -/
structure Excerpt where
  number : Nat
  start : Nat
  characters : List Char
deriving DecidableEq, Repr

/-- Whether a character ends a line. -/
def isBreak (character : Char) : Bool :=
  Text.within [(0x0A, 0x0D), (0x85, 0x85), (0x2028, 0x2029)] character

/-- Puts one character in front of the lines that follow it. -/
def joinExcerpt (character : Char) (later : List (List Char)) : List (List Char) :=
  match later with
  | [] => [[character]]
  | line :: rest =>
    if character = '\r' then
      if line = ['\n'] then ['\r', '\n'] :: rest else ['\r'] :: line :: rest
    else if isBreak character then [character] :: line :: rest
    else (character :: line) :: rest

/-- The lines of a source, each with its line break. An empty source is one empty line. -/
def excerptLines (source : List Char) : List (List Char) :=
  match source.foldr joinExcerpt [] with
  | [] => [[]]
  | lines => lines

/-- Numbers some lines, of which the first one has the given number and start. -/
def placeExcerpts (number start : Nat) : List (List Char) → List Excerpt
  | [] => []
  | line :: rest =>
    ⟨number, start, line⟩ :: placeExcerpts (number + 1) (start + line.length) rest

/-- The line in which an index lies: the last one that starts at or before it. There is none past
the end of the source. -/
def excerptAt? (source : List Char) (index : Nat) : Option Excerpt :=
  if source.length < index then none
  else (placeExcerpts 1 0 (excerptLines source)).findRev? fun line => line.start ≤ index

namespace Excerpt

/-- The index right after the line and its line break. -/
def stop (line : Excerpt) : Nat := line.start + line.characters.length

/-- The number of cells that a tab stop spans. -/
def tabWidth : Nat := 4

/-- The number of cells that a character takes in a column. A tab reaches to the next tab stop,
counted in columns. -/
def columnWidth (column : Nat) (character : Char) : Nat :=
  if character = '\t' then tabWidth - column % tabWidth
  else if Text.isBlank character then 1
  else Text.width character

/-- The characters of the line that are shown: all but the blanks at its end. -/
def shown (line : Excerpt) : List Char := Text.trimEnd line.characters

/-- The numbers of cells of the first columns of the line. Past the characters shown, a column has
one cell. -/
def widths (line : Excerpt) (count : Nat) : List Nat :=
  let shown := line.shown.zipIdx.map fun (character, column) => columnWidth column character
  (shown ++ List.replicate count 1).take count

/-- The texts that show the characters of the line, with their indices in the source. Blanks are
shown by spaces. -/
def cells (line : Excerpt) : List (Nat × String) :=
  line.shown.zipIdx.flatMap fun (character, column) =>
    let index := line.start + column
    if Text.isBlank character then
      List.replicate (columnWidth column character) (index, " ")
    else [(index, character.toString)]

end Excerpt

end StackLowering.Report

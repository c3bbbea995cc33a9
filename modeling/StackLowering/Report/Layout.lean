import StackLowering.Fault.Wording
import StackLowering.Report.Excerpt

/-!
# Report layout

A report on a mishap is a list of coloured runs: a headline, the place, the
source line with the span marked and labelled below it, and remarks. Without
colours only the texts of the runs are left.
-/

namespace StackLowering.Report

/-- What a report is about, and how it is to look. -/
structure Subject where
  fault : Fault
  span : Span
  file : String
  source : List Char
  colored : Bool

/-- A text of one character repeated. -/
def repeated (character : Char) (count : Nat) : String :=
  String.ofList (List.replicate count character)

/-- The end of a line. -/
def endLine : Run := plain "\n"

/-- The headline: the code of the fault and its message. -/
def headline (subject : Subject) : List Run :=
  ⟨some .red, "[" ++ subject.fault.codeText ++ "] Error:"⟩ :: plain " " ::
    subject.fault.message.runs subject.colored ++ [endLine]

/-- The bar at the left of lines without a number. -/
def bar (digits : Nat) : List Run :=
  [plain " ", ⟨some .margin, repeated ' ' (digits + 1) ++ "│"⟩, plain " "]

/-- The place: file, line and column of the start of the span. -/
def place (subject : Subject) (line : Excerpt) (digits : Nat) : List Run :=
  let column := subject.span.start - line.start + 1
  let position := subject.file ++ ":" ++ line.number.repr ++ ":" ++ column.repr
  [plain (repeated ' ' (digits + 2)), ⟨some .frame, "╭"⟩, ⟨some .frame, "─"⟩, ⟨some .frame, "["⟩,
    plain (" " ++ position ++ " "), ⟨some .frame, "]"⟩, endLine,
    plain (repeated ' ' (digits + 2)), ⟨some .frame, "│"⟩, endLine]

/-- The source line, in which the span stands out. -/
def sourceLine (span : Span) (line : Excerpt) : List Run :=
  [plain " ", ⟨some .frame, line.number.repr ++ " │"⟩, plain " "] ++
    (line.cells.map fun (index, text) =>
      ⟨some (if span.covers index then .red else .muted), text⟩) ++
    [endLine]

/-- A mark that fills a column: its first cell, and the cells after it. -/
def fill (first rest : Char) : Nat → List Run
  | 0 => []
  | cells + 1 => ⟨some .red, first.toString⟩ :: List.replicate cells ⟨some .red, rest.toString⟩

/-- An empty column. -/
def gap (cells : Nat) : List Run := List.replicate cells (plain " ")

/-- The columns below which marks are drawn, each with its number of cells in front: those up to
the end of the span, and two more. -/
def markedColumns (span : Span) (line : Excerpt) : List (Nat × Nat) :=
  (line.widths (span.stop - line.start + 2)).zipIdx

/-- The column from which the label hangs: the middle of the span. -/
def hangingColumn (span : Span) (line : Excerpt) : Nat :=
  (span.start + span.stop) / 2 - line.start

/-- The line that underlines the span. -/
def underline (span : Span) (line : Excerpt) : List Run :=
  (markedColumns span line).flatMap fun (cells, column) =>
    let covered := span.covers (line.start + column)
    if column = hangingColumn span line then
      if covered then fill '┬' '─' cells else fill '│' ' ' cells
    else if covered then fill '─' '─' cells
    else gap cells

/-- The line from the underlining to the label. -/
def hanger (span : Span) (line : Excerpt) : List Run :=
  let hanging := hangingColumn span line
  (markedColumns span line).flatMap fun (cells, column) =>
    if column = hanging then fill '╰' '─' cells
    else if hanging < column then fill '─' '─' cells
    else gap cells

/-- The source line with its marks and label, which is left out if the span reaches past it. -/
def body (subject : Subject) (line : Excerpt) (digits : Nat) : List Run :=
  if line.stop < subject.span.stop then bar digits ++ [endLine]
  else
    sourceLine subject.span line ++
      bar digits ++ underline subject.span line ++ [endLine] ++
      bar digits ++ hanger subject.span line ++ plain " " ::
        subject.fault.label.runs subject.colored ++ [endLine]

/-- A remark below the source line. -/
def remark (title : String) (digits : Nat) (text : List Run) : List Run :=
  bar digits ++ [endLine] ++ bar digits ++ ⟨some .remark, title⟩ :: plain ": " :: text ++ [endLine]

/-- The remarks on a fault: first the hint, then the note. -/
def remarks (subject : Subject) (digits : Nat) : List Run :=
  let help := match subject.fault.hint? with
    | none => []
    | some hint => remark "Help" digits (hint.runs subject.colored)
  let note := match subject.fault.note? with
    | none => []
    | some note => remark "Note" digits [plain note]
  help ++ note

/-- The source line to show: the one in which the span starts, if the span lies in the source. -/
def shownLine? (subject : Subject) : Option Excerpt := do
  let line ← excerptAt? subject.source subject.span.start
  if subject.span.start < subject.span.stop then
    let _ ← excerptAt? subject.source (subject.span.stop - 1)
    return line
  else return line

/-- The runs of a report. It ends after the headline if the span does not lie in the source. -/
def layout (subject : Subject) : List Run :=
  match shownLine? subject with
  | none => headline subject
  | some line =>
    let digits := line.number.repr.length
    headline subject ++ place subject line digits ++ body subject line digits ++
      remarks subject digits ++ [⟨some .frame, repeated '─' (digits + 2) ++ "╯"⟩, endLine]

end StackLowering.Report

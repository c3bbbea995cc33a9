/-!
# Phrases

The texts of a report mix plain words with values taken from the program. Where
colours are allowed a value is set off by its colour, and otherwise by backticks.
-/

namespace StackLowering.Report

/-- The colours of a report. -/
inductive Color where
  | red
  | green
  | brightBlue
  /-- The grey of the frame around a report. -/
  | frame
  /-- The dark grey of margin bars. -/
  | margin
  /-- The light grey of source text outside the span. -/
  | muted
  /-- The colour of the words that introduce a remark. -/
  | remark
deriving DecidableEq, Repr

/-- Some text in one colour, or in none. -/
structure Run where
  color : Option Color
  text : String
deriving DecidableEq, Repr

/-- A piece of a phrase. -/
inductive Piece where
  | words (text : String)
  | value (color : Color) (text : String)
deriving DecidableEq, Repr

/-- A text with values in it. -/
abbrev Phrase := List Piece

/-- Text without a colour. -/
def plain (text : String) : Run := ⟨none, text⟩

/-- The run of a piece of a phrase, with or without colours. -/
def Piece.run (colored : Bool) : Piece → Run
  | .words text => plain text
  | .value color text => if colored then ⟨some color, text⟩ else plain ("`" ++ text ++ "`")

namespace Phrase

/-- The runs of a phrase, with or without colours. -/
def runs (phrase : Phrase) (colored : Bool) : List Run := phrase.map (Piece.run colored)

/-- The text of a phrase without colours. -/
def text (phrase : Phrase) : String := String.join ((runs phrase false).map Run.text)

end Phrase

end StackLowering.Report

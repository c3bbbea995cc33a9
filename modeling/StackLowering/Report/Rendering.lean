import StackLowering.Report.Layout
import StackLowering.Terminal.Markup

/-!
# Rendering reports

The runs of a report become plain text, text with terminal colours, or HTML. The
HTML is that of the text with terminal colours, so control sequences in the name
of a file have an effect on it. If one of them has no meaning, the text with
terminal colours stands for itself.
-/

namespace StackLowering.Report

namespace Color

/-- The parameters that select a colour on a terminal. -/
def terminalCode : Color → String
  | .red => "31"
  | .green => "32"
  | .brightBlue => "94"
  | .frame => "38;5;246"
  | .margin => "38;5;240"
  | .muted => "38;5;249"
  | .remark => "38;5;115"

end Color

/-- A run with terminal colours. -/
def Run.terminal (run : Run) : String :=
  match run.color with
  | none => run.text
  | some color => "\x1b[" ++ color.terminalCode ++ "m" ++ run.text ++ "\x1b[0m"

/-- The text of a report, with terminal colours if it has colours at all. -/
def text (subject : Subject) : String :=
  String.join ((layout subject).map fun run => if subject.colored then run.terminal else run.text)

/-- The text of a report as HTML. -/
def html (subject : Subject) : String :=
  (Terminal.markup? (text subject).toList).getD (text subject)

end StackLowering.Report

namespace StackLowering.Mishap

/-- The subject of a report on a mishap. -/
def subject (mishap : Mishap) (file : String) (source : List Char) (colored : Bool) :
    Report.Subject :=
  ⟨mishap.fault.value, mishap.fault.span, file, source, colored⟩

/-- A report on a mishap in a file. -/
def report (mishap : Mishap) (file : String) (source : List Char) (colored : Bool) : String :=
  Report.text (mishap.subject file source colored)

/-- A coloured report on a mishap as HTML. -/
def htmlReport (mishap : Mishap) (file : String) (source : List Char) : String :=
  Report.html (mishap.subject file source true)

end StackLowering.Mishap

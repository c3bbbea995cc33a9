import StackLowering.Job.Journal
import StackLowering.Storage.Path
import StackLowering.Terminal.Visible

/-!
# The journal of the command line

What happens while a request is carried out. Every event has a level; a run tells
the events up to the level that was asked for, each on a line with its level and
the part of the program that it comes from.
-/

namespace StackLowering.CommandLine

/-- What can be recorded of a run. -/
inductive Event where
  | target (name : String)
  | loaded (unit : String) (path : Path)
  | job (event : Job.Event)
  | wrote (path : Path)
deriving DecidableEq, Repr

/-- How important an event is. -/
inductive Level where
  | info
  | debug
  | trace
deriving DecidableEq, Repr

namespace Level

/-- The verbosity from which on events of a level are told. -/
def verbosity : Level → Nat
  | .info => 1
  | .debug => 2
  | .trace => 3

/-- The name of a level, five characters wide. -/
def name : Level → String
  | .info => "INFO "
  | .debug => "DEBUG"
  | .trace => "TRACE"

end Level

namespace Event

/-- The level of an event. -/
def level : Event → Level
  | .target _ | .wrote _ => .info
  | .loaded .. | .job (.startup _) | .job (.unit ..) => .debug
  | .job (.command _) => .trace

/-- The part of the program that an event comes from. -/
def origin : Event → String
  | .job _ => "hack_vm_translator::translator"
  | _ => "hack_vm_translator"

/-- An event in words. -/
def text : Event → String
  | .target name => "Translating for target `" ++ name ++ "`"
  | .loaded unit path => "Loaded unit `" ++ unit ++ "` from `" ++ path.text ++ "`"
  | .job event => event.text
  | .wrote path => "Wrote `" ++ path.text ++ "`"

/-- A character of an event's text: what follows a line feed is indented. -/
def indented : Char → String
  | '\n' => "\n    "
  | character => character.toString

/-- The line that tells an event, without control sequences. -/
def line (event : Event) : String :=
  Terminal.visible ("[" ++ event.level.name ++ " " ++ event.origin ++ "] " ++
    String.join (event.text.toList.map indented) ++ "\n")

end Event

/-- The lines that tell the events of a journal up to a verbosity. -/
def tell (verbosity : Nat) (journal : List Event) : String :=
  String.join ((journal.filter fun event => event.level.verbosity ≤ verbosity).map Event.line)

end StackLowering.CommandLine

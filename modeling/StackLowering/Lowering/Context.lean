import StackLowering.Fault
import StackLowering.LabelSupply

/-!
# The context of lowering

The commands of a job are lowered one after the other. What passes from one to
the next is the supply of labels; the unit and line of the current command scope
its static variables and the labels made for it.
-/

namespace StackLowering

/-- Where lowering stands. -/
structure Context where
  unit : String := ""
  line : Nat := 0
  labels : LabelSupply := {}
deriving DecidableEq, Repr

namespace Context

/-- Where every job starts: outside of any unit, and without labels. -/
def initial : Context := {}

/-- Starts a unit, before its first line. -/
def beginUnit (context : Context) (unit : String) : Context :=
  { context with unit := unit, line := 0 }

/-- Moves to a line of the current unit. -/
def atLine (context : Context) (line : Nat) : Context := { context with line := line }

/-- Registers a declared label. -/
def declare (context : Context) (label : String) : Context :=
  { context with labels := context.labels.declare label }

/-- Makes a label that is not present in the program. -/
def freshLabel (context : Context) (purpose : String) : Except Fault String × Context :=
  match context.labels.issue context.unit context.line purpose with
  | (some label, labels) => (.ok label, { context with labels := labels })
  | (none, labels) => (.error .labelsExhausted, { context with labels := labels })

end Context

end StackLowering

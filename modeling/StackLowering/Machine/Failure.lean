import StackLowering.Machine.Run

/-!
# Failures of runs

Runs that are asked to reach the end of a program, or a label, fail when they
trap or take too long. Only some failures have something to say for themselves.
-/

namespace StackLowering

/-- Why a program was not loaded, or did not run to where it was meant to. -/
inductive Machine.Failure where
  | duplicateLabel (label : String)
  | unknownName (name : String)
  | unfinished (steps : Nat)
  | unreached (label : String) (steps : Nat)
  | trapped (trap : Trap)
deriving DecidableEq, Repr

/-- What is said about a failure. -/
def Machine.Failure.message? : Machine.Failure → Option String
  | .duplicateLabel label => some ("duplicate label `" ++ label ++ "`")
  | .unfinished steps => some ("program didn't finish after " ++ steps.repr ++ " steps")
  | .unreached label steps =>
    some ("program didn't reach `" ++ label ++ "` after " ++ steps.repr ++ " steps")
  | .trapped (.invalidComputation computation) =>
    some ("invalid computation `" ++ computation ++ "`")
  | .trapped .outsideProgram | .unknownName _ => none

namespace Machine

/-- The failure of a run, given what it means to be out of steps. -/
def failure? (late : Failure) : Ending → Option Failure
  | .reached => none
  | .outOfSteps => some late
  | .trapped trap => some (.trapped trap)

/-- Runs a program to its end. -/
def runToEnd (program : Program) (steps : Nat) (machine : Machine) : Machine × Option Failure :=
  let (machine, ending) := machine.run program (atEnd program) steps
  (machine, failure? (.unfinished steps) ending)

/-- Runs a program until it reaches a label. -/
def runToLabel (program : Program) (label : String) (steps : Nat) (machine : Machine) :
    Machine × Option Failure :=
  match program.labelAddress? label with
  | none => (machine, some (.unknownName label))
  | some address =>
    let (machine, ending) := machine.run program (fun state => state.counter == address) steps
    (machine, failure? (.unreached label steps) ending)

/-- The value of a named cell. -/
def cell? (machine : Machine) (program : Program) (name : String) : Option Word :=
  (program.cell? name).map machine.memory.read

/-- Sets the value of a named cell. -/
def setCell (machine : Machine) (program : Program) (name : String) (value : Word) :
    Except Failure Machine :=
  match program.cell? name with
  | none => .error (.unknownName name)
  | some cell => .ok { machine with memory := machine.memory.write cell value }

end Machine

/-- Assembles some instructions for a run. -/
def Program.load (instructions : List Instruction) : Except Machine.Failure Program :=
  match assemble instructions with
  | .ok program => .ok program
  | .error label => .error (.duplicateLabel label)

end StackLowering

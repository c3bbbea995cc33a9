import StackLowering.Machine.Memory
import StackLowering.Machine.Program

/-!
# Running programs

The machine executes one operation at a time. `Machine.run` executes operations
until a condition holds, for at most a given number of steps; the condition is
tested before each step, so a run that needs all its steps to reach the condition
does not count as having reached it.
-/

namespace StackLowering

/-- The state of the machine. -/
structure Machine where
  memory : Memory := Memory.zeros
  address : Word := 0
  data : Word := 0
  counter : Nat := 0

/-- Why a step is impossible. -/
inductive Trap where
  /-- The counter points past the program. -/
  | outsideProgram
  | invalidComputation (computation : String)
deriving DecidableEq, Repr

/-- How a bounded run ended. -/
inductive Ending where
  | reached
  | outOfSteps
  | trapped (trap : Trap)
deriving DecidableEq, Repr

/-- Whether a value meets the condition of a jump. -/
def Jump.taken (jump : Jump) (value : Word) : Bool :=
  match jump with
  | .gt => (0 : Word).slt value
  | .eq => value == 0
  | .lt => value.slt 0
  | .ne => value != 0
  | .always => true

namespace Machine

/-- Stores a value and moves on: to the loaded address if the jump is taken, and to the next
operation otherwise. -/
def store (machine : Machine) (destination : Destination) (value : Word) (jump : Option Jump) :
    Machine where
  memory :=
    if destination.memory then machine.memory.write machine.address value else machine.memory
  address := if destination.address then value else machine.address
  data := if destination.data then value else machine.data
  counter :=
    if jump.any (Jump.taken · value) then machine.address.toNat else machine.counter + 1

/-- Executes an operation. -/
def execute (machine : Machine) : Operation → Except Trap Machine
  | .load value => .ok { machine with address := value, counter := machine.counter + 1 }
  | .compute destination computation jump =>
    let value :=
      computation.value machine.address machine.data (machine.memory.read machine.address)
    .ok (machine.store destination value jump)
  | .invalid computation => .error (.invalidComputation computation)

/-- Executes the operation at the counter. -/
def step (program : Program) (machine : Machine) : Except Trap Machine :=
  match program.operations[machine.counter]? with
  | none => .error .outsideProgram
  | some operation => machine.execute operation

/-- Executes operations until a condition holds. -/
def run (program : Program) (stop : Machine → Bool) : (steps : Nat) → Machine → Machine × Ending
  | 0, machine => (machine, .outOfSteps)
  | steps + 1, machine =>
    if stop machine then (machine, .reached)
    else match machine.step program with
      | .ok next => next.run program stop steps
      | .error trap => (machine, .trapped trap)

/-- Whether the counter is past the last operation. -/
def atEnd (program : Program) (machine : Machine) : Bool :=
  program.operations.size ≤ machine.counter

/-- The states after each of some steps, up to the first one that is impossible. -/
def trace (program : Program) : (steps : Nat) → Machine → List Machine × Machine × Option Trap
  | 0, machine => ([], machine, none)
  | steps + 1, machine =>
    match machine.step program with
    | .error trap => ([], machine, some trap)
    | .ok next =>
      let (states, last, trap) := next.trace program steps
      (next :: states, last, trap)

/-- The cells from a base up to, and not including, the cell that the stack pointer points at. A
stack pointer that is negative or below the base delimits no stack. -/
def stack? (machine : Machine) (base : Nat) : Option (List Word) :=
  let pointer := machine.memory.read 0
  if pointer.msb || pointer.toNat < base then none
  else some (machine.memory.readAll (BitVec.ofNat 16 base) (pointer.toNat - base))

end Machine

end StackLowering

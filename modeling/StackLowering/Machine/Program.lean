import StackLowering.Assembly.Instruction
import StackLowering.Machine.Computation

/-!
# Programs

Assembling a list of instructions gives every executable instruction an address,
counted from zero, and every symbol a value: a label stands for the address of
the next executable instruction, wherever it is declared; a predefined symbol for
its cell; and any other symbol for a variable, which takes the next free cell at
its first use.
-/

namespace StackLowering

/-- The places to which a computed value is stored. -/
structure Destination where
  memory : Bool
  address : Bool
  data : Bool
deriving DecidableEq, Repr

/-- An executable instruction with its symbols resolved. -/
inductive Operation where
  | load (value : Word)
  | compute (destination : Destination) (computation : Computation) (jump : Option Jump)
  /-- An instruction whose computation the machine does not have. -/
  | invalid (computation : String)
deriving DecidableEq, Repr

/-- A program that the machine can run. -/
structure Program where
  operations : Array Operation
  /-- The address of each label. -/
  labels : List (String × Nat)
  /-- The symbols that stand for variables, in the order of their first uses. -/
  variableNames : List String
deriving DecidableEq, Repr

/-- The places that a destination names, by the letters in it. -/
def Destination.ofText (text : String) : Destination :=
  let letters := text.toList
  ⟨letters.contains 'M', letters.contains 'A', letters.contains 'D'⟩

namespace Program

/-- The cells with fixed names. -/
def predefined : List (String × Word) :=
  [("SP", 0), ("LCL", 1), ("ARG", 2), ("THIS", 3), ("THAT", 4), ("R0", 0), ("R1", 1), ("R2", 2),
    ("R3", 3), ("R4", 4), ("R5", 5), ("R6", 6), ("R7", 7), ("R8", 8), ("R9", 9), ("R10", 10),
    ("R11", 11), ("R12", 12), ("R13", 13), ("R14", 14), ("R15", 15)]

/-- The cell of the first variable. -/
def firstVariable : Nat := 16

/-- The address of each label, for instructions of which the first executable one has the given
address. -/
def placeLabels (address : Nat) : List Instruction → List (String × Nat)
  | [] => []
  | .label name :: rest => (name, address) :: placeLabels address rest
  | .comment _ :: rest => placeLabels address rest
  | _ :: rest => placeLabels (address + 1) rest

/-- The first name that occurred before, given the names seen so far. -/
def repeated? (seen : List String) : List String → Option String
  | [] => none
  | name :: rest => if seen.contains name then some name else repeated? (name :: seen) rest

/-- The symbols that some instructions load, in order. -/
def loadedSymbols (instructions : List Instruction) : List String :=
  instructions.filterMap fun
    | .symbol name => some name
    | _ => none

/-- The names of a list without repetition, in the order of their first occurrences. -/
def firstUses : List String → List String
  | [] => []
  | name :: rest => name :: (firstUses rest).filter (· != name)

/-- The symbols that stand for variables: they are neither labels nor predefined. -/
def variablesOf (labels : List (String × Nat)) (instructions : List Instruction) : List String :=
  firstUses ((loadedSymbols instructions).filter fun name =>
    (labels.lookup name).isNone && (predefined.lookup name).isNone)

/-- The cell of a variable among all variables. -/
def variableCell? (variableNames : List String) (name : String) : Option Word :=
  (variableNames.idxOf? name).map fun index => BitVec.ofNat 16 (firstVariable + index)

/-- The value that a symbol stands for. -/
def symbolValue? (labels : List (String × Nat)) (variableNames : List String) (name : String) :
    Option Word :=
  match labels.lookup name with
  | some address => some (BitVec.ofNat 16 address)
  | none =>
    match predefined.lookup name with
    | some cell => some cell
    | none => variableCell? variableNames name

/-- The operation of an executable instruction. -/
def operation? (labels : List (String × Nat)) (variableNames : List String) :
    Instruction → Option Operation
  | .symbol name => some (.load ((symbolValue? labels variableNames name).getD 0))
  | .literal value => some (.load value)
  | .compute destination computation jump =>
    match Computation.ofText? computation with
    | some known => some (.compute (.ofText (destination.getD "")) known jump)
    | none => some (.invalid computation)
  | .label _ | .comment _ => none

/-- Assembles some instructions; fails with the first label that is declared twice. -/
def assemble (instructions : List Instruction) : Except String Program :=
  let labels := placeLabels 0 instructions
  match repeated? [] (labels.map Prod.fst) with
  | some label => .error label
  | none =>
    let variableNames := variablesOf labels instructions
    .ok ⟨(instructions.filterMap (operation? labels variableNames)).toArray, labels, variableNames⟩

/-- The address of a label. -/
def labelAddress? (program : Program) (name : String) : Option Nat := program.labels.lookup name

/-- The cell of a predefined symbol or of a variable. -/
def cell? (program : Program) (name : String) : Option Word :=
  match predefined.lookup name with
  | some cell => some cell
  | none => variableCell? program.variableNames name

end Program

end StackLowering

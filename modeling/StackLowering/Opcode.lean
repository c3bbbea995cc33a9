/-!
# Operation codes

The first word of a command is its operation code, which fixes how many operands
follow. Arithmetic commands are grouped by the shape of their effect on the stack.
-/

namespace StackLowering

/-- Operations that replace the two topmost values by one. -/
inductive BinaryOperator where
  | add
  | sub
  | and
  | or
deriving DecidableEq, Repr

/-- Operations that replace the topmost value. -/
inductive UnaryOperator where
  | neg
  | not
deriving DecidableEq, Repr

/-- Comparisons of the two topmost values. -/
inductive Comparison where
  | eq
  | gt
  | lt
deriving DecidableEq, Repr

/-- The operation codes of the stack language. -/
inductive Opcode where
  | push
  | pop
  | binary (operator : BinaryOperator)
  | unary (operator : UnaryOperator)
  | compare (comparison : Comparison)
  | label
  | goto
  | ifGoto
  | function
  | call
  | ret
deriving DecidableEq, Repr

/-- The name of a binary operation. -/
def BinaryOperator.name : BinaryOperator → String
  | .add => "add"
  | .sub => "sub"
  | .and => "and"
  | .or => "or"

/-- The name of a unary operation. -/
def UnaryOperator.name : UnaryOperator → String
  | .neg => "neg"
  | .not => "not"

/-- The name of a comparison. -/
def Comparison.name : Comparison → String
  | .eq => "eq"
  | .gt => "gt"
  | .lt => "lt"

namespace Opcode

/-- The name of an operation code in source code. -/
def name : Opcode → String
  | .push => "push"
  | .pop => "pop"
  | .binary operator => operator.name
  | .unary operator => operator.name
  | .compare comparison => comparison.name
  | .label => "label"
  | .goto => "goto"
  | .ifGoto => "if-goto"
  | .function => "function"
  | .call => "call"
  | .ret => "return"

/-- The number of operands that follow an operation code. -/
def arity : Opcode → Nat
  | .push | .pop | .function | .call => 2
  | .label | .goto | .ifGoto => 1
  | .binary _ | .unary _ | .compare _ | .ret => 0

/-- Every operation code. -/
def all : List Opcode :=
  [.push, .pop, .binary .add, .binary .sub, .unary .neg, .compare .eq, .compare .gt,
    .compare .lt, .binary .and, .binary .or, .unary .not, .label, .goto, .ifGoto, .function,
    .call, .ret]

/-- The operation code with a given name. -/
def ofName? (name : String) : Option Opcode := all.find? fun opcode => opcode.name == name

/-- Every operation code is found by its name. -/
theorem ofName?_name (opcode : Opcode) : ofName? opcode.name = some opcode := by
  cases opcode with
  | binary operator => cases operator <;> decide
  | unary operator => cases operator <;> decide
  | compare comparison => cases comparison <;> decide
  | _ => decide

/-- An operation code that is found by a name has that name. -/
theorem name_of_ofName? {name : String} {opcode : Opcode} (found : ofName? name = some opcode) :
    opcode.name = name := by
  simpa using List.find?_some found

end Opcode

end StackLowering

import StackLowering.Opcode
import StackLowering.Segment
import StackLowering.Word

/-!
# Commands

The commands of the stack language, and their canonical text: the words of the
command separated by single spaces.
-/

namespace StackLowering

/-- A command of the stack language. -/
inductive Command where
  | push (segment : Segment) (index : Word)
  | pop (segment : Segment) (index : Word)
  | binary (operator : BinaryOperator)
  | unary (operator : UnaryOperator)
  | compare (comparison : Comparison)
  | label (name : String)
  | goto (name : String)
  | ifGoto (name : String)
  | function (name : String) (locals : Word)
  | call (name : String) (arguments : Word)
  | ret
deriving DecidableEq, Repr

namespace Command

/-- The operation code of a command. -/
def opcode : Command → Opcode
  | .push .. => .push
  | .pop .. => .pop
  | .binary operator => .binary operator
  | .unary operator => .unary operator
  | .compare comparison => .compare comparison
  | .label _ => .label
  | .goto _ => .goto
  | .ifGoto _ => .ifGoto
  | .function .. => .function
  | .call .. => .call
  | .ret => .ret

/-- The symbol that a command declares in the generated program. -/
def declared? : Command → Option String
  | .label name | .function name _ => some name
  | _ => none

/-- The texts of a command's operands. -/
def operands : Command → List String
  | .push segment index | .pop segment index => [segment.name, index.text]
  | .label name | .goto name | .ifGoto name => [name]
  | .function name count | .call name count => [name, count.text]
  | .binary _ | .unary _ | .compare _ | .ret => []

/-- The canonical text of a command. -/
def text (command : Command) : String :=
  " ".intercalate (command.opcode.name :: command.operands)

end Command

end StackLowering

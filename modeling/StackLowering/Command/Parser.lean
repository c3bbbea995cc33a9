import StackLowering.Command
import StackLowering.Fault
import StackLowering.Token

/-!
# Reading commands

A line is scanned into tokens, its first token names the operation, and the
others have to match the operands of that operation in number and kind. The first
stage that fails decides the fault.
-/

namespace StackLowering.Command

/-- A reading that may fail at some characters of the line. -/
abbrev Reading (α : Type) := Except (Located Fault) α

/-- The symbol that an operand names. -/
def symbolOperand (operand : Located Token) : Reading String :=
  match operand.value with
  | .symbol name =>
    if Symbol.isSymbol name.toList then .ok name
    else .error ⟨.invalidSymbol name, operand.span⟩
  | .integer value => .error ⟨.expectedSymbol value.repr, operand.span⟩

/-- The literal that an operand denotes. -/
def literalOperand (operand : Located Token) : Reading Word :=
  match operand.value with
  | .integer value =>
    if value ≤ Word.maxLiteral then .ok (BitVec.ofNat 16 value)
    else .error ⟨.integerOutOfRange value Word.maxLiteral, operand.span⟩
  | .symbol name => .error ⟨.expectedInteger name, operand.span⟩

/-- The segment that an operand names. -/
def segmentOperand (operand : Located Token) : Reading Segment :=
  match Segment.ofName? operand.value.text with
  | some segment => .ok segment
  | none => .error ⟨.unknownSegment operand.value.text, operand.span⟩

/-- The operation that the first token of a line names. -/
def operationOf (token : Located Token) : Reading Opcode :=
  let unknown : Located Fault := ⟨.unknownCommand token.value.text, token.span⟩
  match token.value with
  | .integer _ => .error unknown
  | .symbol name =>
    match Opcode.ofName? name with
    | some opcode => .ok opcode
    | none => .error unknown

/-- The characters to blame for a wrong number of operands: the operands that are too many, or
else the whole line. -/
def excessSpan (arity : Nat) (operands : List (Located Token)) (line : Span) : Span :=
  match operands.drop arity with
  | [] => line
  | first :: rest => ⟨first.span.start, (rest.getLast?.getD first).span.stop⟩

/-- The command that an operation makes of its operands. -/
def ofOperands (line : Span) (opcode : Opcode) (operands : List (Located Token)) :
    Reading Command :=
  match opcode, operands with
  | .push, [segment, index] => do
    return .push (← segmentOperand segment) (← literalOperand index)
  | .pop, [segment, index] => do
    return .pop (← segmentOperand segment) (← literalOperand index)
  | .binary operator, [] => .ok (.binary operator)
  | .unary operator, [] => .ok (.unary operator)
  | .compare comparison, [] => .ok (.compare comparison)
  | .label, [name] => return .label (← symbolOperand name)
  | .goto, [name] => return .goto (← symbolOperand name)
  | .ifGoto, [name] => return .ifGoto (← symbolOperand name)
  | .function, [name, locals] => do
    return .function (← symbolOperand name) (← literalOperand locals)
  | .call, [name, arguments] => do
    return .call (← symbolOperand name) (← literalOperand arguments)
  | .ret, [] => .ok .ret
  | opcode, operands =>
    .error ⟨.operandCount opcode opcode.arity operands.length,
      excessSpan opcode.arity operands line⟩

/-- Reads the command of a line whose first character has index `offset` in its source. A good
command spans the whole line. -/
def parse (line : List Char) (offset : Nat) : Reading (Located Command) :=
  let lineSpan : Span := ⟨offset, offset + line.length⟩
  match Token.scan line with
  | .error mismatch =>
    .error ⟨.unexpectedCharacter (some mismatch.found),
      Span.shift ⟨mismatch.index, mismatch.index + 1⟩ offset⟩
  | .ok tokens =>
    match tokens.map fun token => token.shift offset with
    | [] => .error ⟨.unexpectedCharacter none, lineSpan⟩
    | name :: operands => do
      let opcode ← operationOf name
      let command ← ofOperands lineSpan opcode operands
      return ⟨command, lineSpan⟩

end StackLowering.Command

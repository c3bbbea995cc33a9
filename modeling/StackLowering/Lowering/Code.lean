import StackLowering.Assembly.Instruction
import StackLowering.Command
import StackLowering.Lowering.Context
import StackLowering.Lowering.Location

/-!
# Code of single commands

The code that a command becomes on a target. The stack grows upwards and the
stack pointer holds the address after the topmost value. `lower` gives the code
of a command together with the context after it; the context is also given when
lowering fails, because labels may have been used up.
-/

namespace StackLowering.Lowering

open Instruction (assign branch jump)

/-- Pushes the data register. -/
def pushData (target : Target) : Block :=
  [.symbol target.stackPointer, assign "M" "M+1", assign "A" "M-1", assign "M" "D"]

/-- Pops into the data register and leaves the address of the popped cell loaded. -/
def popData (target : Target) : Block :=
  [.symbol target.stackPointer, assign "AM" "M-1", assign "D" "M"]

/-- Brings the value at a location into the data register. -/
def fetch : Location → Block
  | .literal value => [.literal value, assign "D" "A"]
  | .indirect pointer index =>
    if index = 0 then [.symbol pointer, assign "A" "M", assign "D" "M"]
    else [.symbol pointer, assign "D" "M", .literal index, assign "A" "D+A", assign "D" "M"]
  | .absolute address => [.literal address, assign "D" "M"]
  | .symbol name => [.symbol name, assign "D" "M"]

/-- The code of a push. -/
def push (target : Target) (unit : String) (segment : Segment) (index : Word) :
    Except Fault Block := do
  let location ← Location.resolve target unit segment index
  return fetch location ++ pushData target

/-- The code of a pop. The address of an element past the first one is computed before the value
is popped, because both take the data register. -/
def pop (target : Target) (unit : String) (segment : Segment) (index : Word) :
    Except Fault Block := do
  match ← Location.resolve target unit segment index with
  | .literal _ => throw .popConstant
  | .indirect pointer index =>
    if index = 0 then
      return popData target ++ [.symbol pointer, assign "A" "M", assign "M" "D"]
    else
      let scratch := target.scratch.frame
      return [.symbol pointer, assign "D" "M", .literal index, assign "D" "D+A",
          .symbol scratch, assign "M" "D"] ++
        popData target ++ [.symbol scratch, assign "A" "M", assign "M" "D"]
  | .absolute address => return popData target ++ [.literal address, assign "M" "D"]
  | .symbol name => return popData target ++ [.symbol name, assign "M" "D"]

/-- The computation of a binary operation on the value below, in memory, and the topmost value,
in the data register. -/
def binaryComputation : BinaryOperator → String
  | .add => "D+M"
  | .sub => "M-D"
  | .and => "D&M"
  | .or => "D|M"

/-- The computation of a unary operation on a value in memory. -/
def unaryComputation : UnaryOperator → String
  | .neg => "-M"
  | .not => "!M"

/-- The condition that a comparison puts on the difference of its operands. -/
def comparisonJump : Comparison → Jump
  | .eq => .eq
  | .gt => .gt
  | .lt => .lt

/-- Replaces the two topmost values by the value of a binary operation. -/
def binary (target : Target) (operator : BinaryOperator) : Block :=
  popData target ++ [assign "A" "A-1", assign "M" (binaryComputation operator)]

/-- Replaces the topmost value by the value of a unary operation. -/
def unary (target : Target) (operator : UnaryOperator) : Block :=
  [.symbol target.stackPointer, assign "A" "M-1", assign "M" (unaryComputation operator)]

/-- Replaces the two topmost values by the truth of a comparison: all ones, or all zeros. -/
def compare (target : Target) (comparison : Comparison) (whenTrue done : String) : Block :=
  popData target ++
    [assign "A" "A-1", assign "D" "M-D",
      .symbol whenTrue, branch "D" (comparisonJump comparison),
      .symbol target.stackPointer, assign "A" "M-1", assign "M" "0",
      .symbol done, jump,
      .label whenTrue,
      .symbol target.stackPointer, assign "A" "M-1", assign "M" "-1",
      .label done]

/-- Jumps to a label. -/
def goto (name : String) : Block := [.symbol name, jump]

/-- Jumps to a label if the popped value is not zero. -/
def ifGoto (target : Target) (name : String) : Block :=
  popData target ++ [.symbol name, branch "D" .ne]

/-- Pushes one zero. -/
def pushZero (target : Target) : Block := fetch (.literal 0) ++ pushData target

/-- The entry of a function, which pushes a zero for each local variable. -/
def function (target : Target) (name : String) (locals : Word) : Block :=
  .label name :: (List.replicate locals.toNat (pushZero target)).flatten

/-- The number of cells that a call saves: the return address and four segment pointers. -/
def frameSize : Nat := 5

/-- The cell through which the calling convention reaches a segment. -/
def pointerOf (target : Target) (segment : MappedSegment) : Except Fault String :=
  match target.addressing segment with
  | .indirect pointer => .ok pointer
  | .fixed _ => .error (.notAPointer (.mapped segment))

/-- The four segment pointers that a call saves. -/
structure FramePointers where
  locals : String
  argument : String
  this : String
  that : String
deriving DecidableEq, Repr

/-- The pointers that a call saves, looked up in the order in which it saves them. -/
def callPointers (target : Target) : Except Fault FramePointers := do
  let locals ← pointerOf target .locals
  let argument ← pointerOf target .argument
  let this ← pointerOf target .this
  let that ← pointerOf target .that
  return ⟨locals, argument, this, that⟩

/-- The pointers that a return restores, looked up in the order in which it needs them. -/
def returnPointers (target : Target) : Except Fault FramePointers := do
  let locals ← pointerOf target .locals
  let argument ← pointerOf target .argument
  let that ← pointerOf target .that
  let this ← pointerOf target .this
  return ⟨locals, argument, this, that⟩

/-- The distance from the stack pointer, after a call has saved its frame, down to the first
argument. -/
def argumentOffset (arguments : Word) : Except Fault Word :=
  if arguments.toNat + frameSize ≤ Word.maxLiteral then .ok (arguments + 5)
  else .error (.integerOutOfRange arguments.toNat (Word.maxLiteral - frameSize))

/-- Pushes the value of a cell. -/
def saveCell (target : Target) (cell : String) : Block :=
  [.symbol cell, assign "D" "M"] ++ pushData target

/-- The code of a call: saves the frame, moves the argument and local pointers, and jumps. -/
def call (target : Target) (pointers : FramePointers) (name : String) (offset : Word)
    (returnLabel : String) : Block :=
  [.symbol returnLabel, assign "D" "A"] ++ pushData target ++
    saveCell target pointers.locals ++ saveCell target pointers.argument ++
    saveCell target pointers.this ++ saveCell target pointers.that ++
    [.symbol target.stackPointer, assign "D" "M", .literal offset, assign "D" "D-A",
      .symbol pointers.argument, assign "M" "D",
      .symbol target.stackPointer, assign "D" "M", .symbol pointers.locals, assign "M" "D",
      .symbol name, jump, .label returnLabel]

/-- Restores a cell from the saved value below the one restored last. -/
def restoreCell (target : Target) (cell : String) : Block :=
  [.symbol target.scratch.frame, assign "AM" "M-1", assign "D" "M", .symbol cell,
    assign "M" "D"]

/-- The code of a return. The return address is read before the returned value is stored, which
overwrites it when there are no arguments. -/
def ret (target : Target) (pointers : FramePointers) : Block :=
  [.symbol pointers.locals, assign "D" "M", .symbol target.scratch.frame, assign "M" "D",
    .literal 5, assign "A" "D-A", assign "D" "M", .symbol target.scratch.returnAddress,
    assign "M" "D"] ++
    popData target ++
    [.symbol pointers.argument, assign "A" "M", assign "M" "D",
      .symbol pointers.argument, assign "D" "M+1", .symbol target.stackPointer,
      assign "M" "D"] ++
    restoreCell target pointers.that ++ restoreCell target pointers.this ++
    restoreCell target pointers.argument ++ restoreCell target pointers.locals ++
    [.symbol target.scratch.returnAddress, assign "A" "M", jump]

/-- Refuses to declare a symbol that names a cell of the target or has the form of a static of
one of the units. -/
def checkDeclaration (target : Target) (symbol : String) (units : List String) :
    Except Fault Unit :=
  if target.isReserved symbol || units.any (Location.isStaticSymbol symbol) then
    .error (.reservedSymbol symbol)
  else .ok ()

/-- Goes on with a label that is not present in the program. -/
def withLabel (context : Context) (purpose : String)
    (continuation : String → Context → Except Fault Block × Context) :
    Except Fault Block × Context :=
  match context.freshLabel purpose with
  | (.error fault, context) => (.error fault, context)
  | (.ok label, context) => continuation label context

/-- The code of a call, with a label for its return address. -/
def lowerCall (target : Target) (name : String) (arguments : Word) (context : Context) :
    Except Fault Block × Context :=
  match callPointers target with
  | .error fault => (.error fault, context)
  | .ok pointers =>
    match argumentOffset arguments with
    | .error fault => (.error fault, context)
    | .ok offset =>
      withLabel context "return" fun returnLabel context =>
        (.ok (call target pointers name offset returnLabel), context)

/-- Declares a symbol, if that is allowed in the current unit, and gives its code. -/
def lowerDeclaration (target : Target) (name : String) (block : Block) (context : Context) :
    Except Fault Block × Context :=
  match checkDeclaration target name [context.unit] with
  | .error fault => (.error fault, context)
  | .ok () => (.ok block, context.declare name)

/-- The code of a command, and the context after it. -/
def lower (target : Target) (command : Command) (context : Context) :
    Except Fault Block × Context :=
  match command with
  | .push segment index => (push target context.unit segment index, context)
  | .pop segment index => (pop target context.unit segment index, context)
  | .binary operator => (.ok (binary target operator), context)
  | .unary operator => (.ok (unary target operator), context)
  | .compare comparison =>
    withLabel context comparison.name fun whenTrue context =>
      withLabel context ("not" ++ comparison.name) fun done context =>
        (.ok (compare target comparison whenTrue done), context)
  | .label name => lowerDeclaration target name [.label name] context
  | .goto name => (.ok (goto name), context)
  | .ifGoto name => (.ok (ifGoto target name), context)
  | .function name locals => lowerDeclaration target name (function target name locals) context
  | .call name arguments => lowerCall target name arguments context
  | .ret => ((returnPointers target).map (ret target), context)

/-- Sets the stack pointer to the stack base. -/
def initializeStack (target : Target) : Block :=
  [.literal target.bootstrap.stackBase, assign "D" "A", .symbol target.stackPointer,
    assign "M" "D"]

/-- The code that starts a program: it initializes the stack and calls the entry function. -/
def lowerBootstrap (target : Target) (context : Context) : Except Fault Block × Context :=
  let base := target.bootstrap.stackBase
  if base.toNat ≤ Word.maxLiteral then
    match lowerCall target target.bootstrap.entry 0 context with
    | (.error fault, context) => (.error fault, context)
    | (.ok block, context) => (.ok (initializeStack target ++ block), context)
  else (.error (.integerOutOfRange base.toNat Word.maxLiteral), context)

end StackLowering.Lowering

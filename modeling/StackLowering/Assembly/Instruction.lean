import StackLowering.Word

/-!
# Assembly instructions

Generated code is a list of assembly instructions. The fields of a computing
instruction are kept as they are written; what they mean is the machine's matter.
-/

namespace StackLowering

/-- Conditions of a jump, on the value computed by the same instruction. -/
inductive Jump where
  | gt
  | eq
  | lt
  | ne
  | always
deriving DecidableEq, Repr

/-- One line of assembly. -/
inductive Instruction where
  /-- Loads the address that a symbol stands for. -/
  | symbol (name : String)
  /-- Loads a number. -/
  | literal (value : Word)
  /-- Computes a value, stores it in the destinations, and jumps if the condition holds. -/
  | compute (destination : Option String) (computation : String) (jump : Option Jump)
  /-- Names the place of the next instruction. -/
  | label (name : String)
  | comment (text : String)
deriving DecidableEq, Repr

/-- The code of one command. -/
abbrev Block := List Instruction

namespace Jump

/-- The mnemonic of a jump. -/
def text : Jump → String
  | .gt => "JGT"
  | .eq => "JEQ"
  | .lt => "JLT"
  | .ne => "JNE"
  | .always => "JMP"

/-- Every jump. -/
def all : List Jump := [.gt, .eq, .lt, .ne, .always]

/-- The jump with a given mnemonic. -/
def ofText? (text : String) : Option Jump := all.find? fun jump => jump.text == text

/-- Every jump is read back from its text. -/
theorem ofText?_text (jump : Jump) : ofText? jump.text = some jump := by
  cases jump <;> decide

end Jump

namespace Instruction

/-- Stores the value of a computation. -/
def assign (destination computation : String) : Instruction :=
  .compute (some destination) computation none

/-- Jumps to the loaded address if the value of a computation meets a condition. -/
def branch (computation : String) (jump : Jump) : Instruction :=
  .compute none computation (some jump)

/-- Jumps to the loaded address. -/
def jump : Instruction := branch "0" .always

/-- The line of text that writes an instruction. -/
def text : Instruction → String
  | .symbol name => "@" ++ name
  | .literal value => "@" ++ value.text
  | .compute destination computation jump =>
    (match destination with
      | none => ""
      | some destination => destination ++ "=") ++
    computation ++
    (match jump with
      | none => ""
      | some jump => ";" ++ jump.text)
  | .label name => "(" ++ name ++ ")"
  | .comment text => "// " ++ text

/-- The label that an instruction declares. -/
def declared? : Instruction → Option String
  | .label name => some name
  | _ => none

end Instruction

namespace Block

/-- The lines of a block. -/
def text (block : Block) : String := "\n".intercalate (block.map Instruction.text)

/-- The labels that a block declares. -/
def labels (block : Block) : List String := block.filterMap Instruction.declared?

end Block

end StackLowering

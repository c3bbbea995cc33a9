import StackLowering.Segment
import StackLowering.Word

/-!
# Target machines

A target describes where generated code keeps things: the cell of the stack
pointer, how each mapped segment is addressed, the scratch cells, and how a
program starts. The cells that it names may not be declared as labels.
-/

namespace StackLowering

/-- How the address of a segment's element is computed. -/
inductive Addressing where
  /-- The cell named `pointer` holds the address of element zero. -/
  | indirect (pointer : String)
  /-- Element zero is at the address `base`. -/
  | fixed (base : Word)
deriving DecidableEq, Repr

/-- The addressing of each mapped segment. -/
structure SegmentTable where
  argument : Addressing
  locals : Addressing
  this : Addressing
  that : Addressing
  pointer : Addressing
  temp : Addressing
deriving DecidableEq, Repr

/-- Cells that generated code may overwrite: one for the base of a frame and for the address of a
pop, one for the return address. -/
structure Scratch where
  frame : String
  returnAddress : String
deriving DecidableEq, Repr

/-- How a program starts: the first value of the stack pointer and the function called. -/
structure Bootstrap where
  stackBase : Word
  entry : String
deriving DecidableEq, Repr

/-- A target machine. -/
structure Target where
  name : String
  stackPointer : String
  segments : SegmentTable
  scratch : Scratch
  bootstrap : Bootstrap
deriving DecidableEq, Repr

/-- The addressing of a mapped segment. -/
def SegmentTable.addressing (table : SegmentTable) : MappedSegment → Addressing
  | .argument => table.argument
  | .locals => table.locals
  | .this => table.this
  | .that => table.that
  | .pointer => table.pointer
  | .temp => table.temp

/-- The cell through which a segment is addressed, if there is one. -/
def Addressing.pointer? : Addressing → Option String
  | .indirect pointer => some pointer
  | .fixed _ => none

namespace Target

/-- The machine for which programs are generated unless another one is described. -/
def hack : Target where
  name := "hack"
  stackPointer := "SP"
  segments :=
    { argument := .indirect "ARG"
      locals := .indirect "LCL"
      this := .indirect "THIS"
      that := .indirect "THAT"
      pointer := .fixed 3
      temp := .fixed 5 }
  scratch := { frame := "R13", returnAddress := "R14" }
  bootstrap := { stackBase := 256, entry := "Sys.init" }

/-- The addressing of a mapped segment on a target. -/
def addressing (target : Target) (segment : MappedSegment) : Addressing :=
  target.segments.addressing segment

/-- The addressing of a segment; constants and statics have none. -/
def addressing? (target : Target) : Segment → Option Addressing
  | .mapped segment => some (target.addressing segment)
  | .constant | .static => none

/-- The cells that generated code uses: the stack pointer, the scratch cells and the pointers of
the segments. -/
def cells (target : Target) : List String :=
  [target.stackPointer, target.scratch.frame, target.scratch.returnAddress] ++
    MappedSegment.all.filterMap fun segment => (target.addressing segment).pointer?

/-- Whether a symbol names a cell that generated code uses. -/
def isReserved (target : Target) (symbol : String) : Bool := target.cells.contains symbol

/-- The reserved symbols are the names of the cells that generated code uses. -/
theorem isReserved_iff {target : Target} {symbol : String} :
    target.isReserved symbol = true ↔ symbol ∈ target.cells := by
  simp [isReserved]

/-- The stack pointer is reserved. -/
theorem isReserved_stackPointer (target : Target) :
    target.isReserved target.stackPointer = true := by
  simp [isReserved, cells]

/-- The pointers of the segments are reserved. -/
theorem isReserved_pointer {target : Target} {segment : MappedSegment} {pointer : String}
    (addressed : target.addressing segment = .indirect pointer) :
    target.isReserved pointer = true := by
  rw [isReserved_iff, cells, List.mem_append, List.mem_filterMap]
  exact Or.inr ⟨segment, segment.mem_all, by rw [addressed]; rfl⟩

end Target

end StackLowering

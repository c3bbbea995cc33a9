import StackLowering.Job
import StackLowering.Machine.Memory

/-!
# The meaning of stack programs

What commands mean, without looking at the code that they become: a command
changes the memory and says where to go on. Cell zero holds the stack pointer,
and cells one to four hold the pointers of the locals, the arguments, `this` and
`that`. All arithmetic wraps.

Generated code overwrites two scratch cells. `Command.Clear` says that a command
takes nothing from them and never pushes onto the stack pointer itself; memories
that agree outside of the scratch cells then still agree after the command
(`perform_of_agrees`).
-/

namespace StackLowering

namespace Memory

/-- Stores a value at the stack pointer, and increments the stack pointer. -/
def push (memory : Memory) (value : Word) : Memory :=
  let stored := memory.write (memory.read 0) value
  stored.write 0 (stored.read 0 + 1)

/-- Pushes the value of a cell. -/
def pushCell (memory : Memory) (cell : Word) : Memory := memory.push (memory.read cell)

/-- Pushes a number of zeros. -/
def pushZeros (memory : Memory) : Nat → Memory
  | 0 => memory
  | count + 1 => (memory.push 0).pushZeros count

/-- Decrements the stack pointer. -/
def drop (memory : Memory) : Memory := memory.write 0 (memory.read 0 - 1)

/-- The value at the stack pointer. -/
def exposed (memory : Memory) : Word := memory.read (memory.read 0)

/-- Copies the value of a cell to another one. -/
def copy (memory : Memory) (cell source : Word) : Memory := memory.write cell (memory.read source)

/-- Replaces the topmost value. -/
def mapTop (memory : Memory) (operation : Word → Word) : Memory :=
  let cell := memory.read 0 - 1
  memory.write cell (operation (memory.read cell))

/-- Replaces the two topmost values by one value. -/
def combine (memory : Memory) (operation : Word → Word → Word) : Memory :=
  memory.drop.mapTop (operation · memory.drop.exposed)

/-- Saves the frame of a caller and opens that of a function with some arguments. -/
def enter (memory : Memory) (following arguments : Word) : Memory :=
  let saved := ((((memory.push following).pushCell 1).pushCell 2).pushCell 3).pushCell 4
  (saved.write 2 (saved.read 0 - arguments - 5)).copy 1 0

/-- Stores the returned value over the arguments, and restores the frame of the caller. -/
def leave (memory : Memory) : Memory :=
  let frame := memory.read 1
  let dropped := memory.drop
  let stored := dropped.write (dropped.read 2) dropped.exposed
  let collapsed := stored.write 0 (stored.read 2 + 1)
  (((collapsed.copy 4 (frame - 1)).copy 3 (frame - 2)).copy 2 (frame - 3)).copy 1 (frame - 4)

end Memory

/-- The value of a binary operation on the value below and the topmost one. -/
def BinaryOperator.value (operator : BinaryOperator) (below top : Word) : Word :=
  match operator with
  | .add => below + top
  | .sub => below - top
  | .and => below &&& top
  | .or => below ||| top

/-- The value of a unary operation. -/
def UnaryOperator.value (operator : UnaryOperator) (top : Word) : Word :=
  match operator with
  | .neg => -top
  | .not => ~~~top

/-- The truth of a comparison, all ones or all zeros, by the sign of the wrapped difference. -/
def Comparison.value (comparison : Comparison) (below top : Word) : Word :=
  let difference := (below - top).toInt
  let holds : Bool := match comparison with
    | .eq => difference = 0
    | .gt => 0 < difference
    | .lt => difference < 0
  if holds then -1 else 0

/-- The cell of an element of a segment, if the statics of the unit have the given cells. Constants
are in no cell. -/
def Segment.cell? (statics : Word → Word) (memory : Memory) (segment : Segment) (index : Word) :
    Option Word :=
  match segment with
  | .constant => none
  | .static => some (statics index)
  | .mapped .locals => some (memory.read 1 + index)
  | .mapped .argument => some (memory.read 2 + index)
  | .mapped .this => some (memory.read 3 + index)
  | .mapped .that => some (memory.read 4 + index)
  | .mapped .pointer => some (3 + index)
  | .mapped .temp => some (5 + index)

/-- Where a program goes on after a command. -/
inductive Control where
  | next
  /-- At the declaration of a name. -/
  | declaration (name : String)
  /-- At a code address. -/
  | resume (address : Word)
deriving DecidableEq, Repr

/-- The memory after a command, and where the program goes on. `following` is the code address of
the next command. A constant cannot be popped to. -/
def Command.perform (statics : Word → Word) (following : Word) (memory : Memory) :
    Command → Option (Memory × Control)
  | .push segment index =>
    match segment.cell? statics memory index with
    | none => some (memory.push index, .next)
    | some cell => some (memory.pushCell cell, .next)
  | .pop segment index =>
    match segment.cell? statics memory index with
    | none => none
    | some cell => some (memory.drop.write cell memory.drop.exposed, .next)
  | .binary operator => some (memory.combine operator.value, .next)
  | .unary operator => some (memory.mapTop operator.value, .next)
  | .compare comparison => some (memory.combine comparison.value, .next)
  | .label _ => some (memory, .next)
  | .goto name => some (memory, .declaration name)
  | .ifGoto name =>
    some (memory.drop, if memory.drop.exposed = 0 then .next else .declaration name)
  | .function _ locals => some (memory.pushZeros locals.toNat, .next)
  | .call name arguments => some (memory.enter following arguments, .declaration name)
  | .ret => some (memory.leave, .resume (memory.read (memory.read 1 - 5)))

/-! ## Programs -/

/-- A stack program: its commands, the code address at which each of them starts, and the cells of
the statics of each unit. -/
structure StackProgram where
  commands : List PlacedCommand
  address : Nat → Nat
  statics : String → Word → Word

/-- The state of a stack program: the position of the next command, and the memory. -/
structure StackState where
  position : Nat
  memory : Memory

namespace StackProgram

/-- Where a program can go on after the command at a position. -/
def Arrives (program : StackProgram) (position : Nat) : Control → Nat → Prop
  | .next, destination => destination = position + 1
  | .declaration name, destination =>
    ∃ placed, program.commands[destination]? = some placed ∧
      placed.command.value.declared? = some name
  | .resume address, destination =>
    destination ≤ program.commands.length ∧ program.address destination = address.toNat

/-- The outcome of a placed command in a memory. -/
def perform (program : StackProgram) (state : StackState) (placed : PlacedCommand) :
    Option (Memory × Control) :=
  placed.command.value.perform (program.statics placed.unit)
    (BitVec.ofNat 16 (program.address (state.position + 1))) state.memory

/-- Performing the command at the position of a state. -/
def Step (program : StackProgram) (before after : StackState) : Prop :=
  ∃ placed control, program.commands[before.position]? = some placed ∧
    program.perform before placed = some (after.memory, control) ∧
    program.Arrives before.position control after.position

end StackProgram

/-! ## Scratch cells -/

/-- The cells that generated code overwrites for purposes of its own. -/
def scratchCells : List Word := [13, 14]

namespace Memory

/-- Dropping a value decrements the stack pointer. -/
theorem read_drop_zero (memory : Memory) : memory.drop.read 0 = memory.read 0 - 1 :=
  read_write_same ..

/-- Dropping a value changes the stack pointer only. -/
theorem read_drop_other (memory : Memory) {cell : Word} (other : cell ≠ 0) :
    memory.drop.read cell = memory.read cell :=
  read_write_other _ _ other

/-- Two memories that differ in the scratch cells at most. -/
def Agrees (first second : Memory) : Prop :=
  ∀ cell, cell ∉ scratchCells → first.read cell = second.read cell

namespace Agrees

variable {first second third : Memory}

/-- A memory agrees with itself. -/
theorem refl (memory : Memory) : Agrees memory memory := fun _ _ => rfl

/-- Agreement goes in both directions. -/
theorem symm (agrees : Agrees first second) : Agrees second first :=
  fun cell kept => (agrees cell kept).symm

/-- Agreement passes on. -/
theorem trans (earlier : Agrees first second) (later : Agrees second third) :
    Agrees first third :=
  fun cell kept => (earlier cell kept).trans (later cell kept)

/-- Memories that agree have the same stack pointer. -/
theorem stackPointer (agrees : Agrees first second) : first.read 0 = second.read 0 :=
  agrees 0 (by decide)

/-- Memories that agree have the same locals. -/
theorem locals (agrees : Agrees first second) : first.read 1 = second.read 1 :=
  agrees 1 (by decide)

/-- Memories that agree have the same arguments. -/
theorem argument (agrees : Agrees first second) : first.read 2 = second.read 2 :=
  agrees 2 (by decide)

/-- Memories that agree have the same `this`. -/
theorem this (agrees : Agrees first second) : first.read 3 = second.read 3 :=
  agrees 3 (by decide)

/-- Memories that agree have the same `that`. -/
theorem that (agrees : Agrees first second) : first.read 4 = second.read 4 :=
  agrees 4 (by decide)

/-- The same write keeps the agreement. -/
theorem write (agrees : Agrees first second) (cell value : Word) :
    Agrees (first.write cell value) (second.write cell value) := by
  intro other kept
  rw [read_write, read_write]
  split
  · rfl
  · exact agrees other kept

/-- A write to a scratch cell makes no difference. -/
theorem write_scratch (agrees : Agrees first second) {cell : Word} (scratch : cell ∈ scratchCells)
    (value : Word) : Agrees (first.write cell value) second := by
  intro other kept
  rw [read_write_other]
  · exact agrees other kept
  · rintro rfl
    exact kept scratch

/-- Pushing the same value keeps the agreement. -/
theorem push (agrees : Agrees first second) (value : Word) :
    Agrees (first.push value) (second.push value) := by
  have stored : Agrees (first.write (first.read 0) value) (second.write (second.read 0) value) := by
    rw [agrees.stackPointer]
    exact agrees.write _ _
  unfold Memory.push
  dsimp only
  rw [stored.stackPointer]
  exact stored.write _ _

/-- Pushing a cell keeps the agreement, unless it is a scratch cell. -/
theorem pushCell (agrees : Agrees first second) (cell : Word) (kept : cell ∉ scratchCells) :
    Agrees (first.pushCell cell) (second.pushCell cell) := by
  unfold Memory.pushCell
  rw [agrees cell kept]
  exact agrees.push _

/-- Pushing zeros keeps the agreement. -/
theorem pushZeros (agrees : Agrees first second) (count : Nat) :
    Agrees (first.pushZeros count) (second.pushZeros count) := by
  induction count generalizing first second with
  | zero => exact agrees
  | succ count inductionHypothesis => exact inductionHypothesis (agrees.push 0)

/-- Dropping a value keeps the agreement. -/
theorem drop (agrees : Agrees first second) : Agrees first.drop second.drop := by
  unfold Memory.drop
  rw [agrees.stackPointer]
  exact agrees.write _ _

/-- The value at the stack pointer is the same, unless it is in a scratch cell. -/
theorem exposed (agrees : Agrees first second) (kept : first.read 0 ∉ scratchCells) :
    first.exposed = second.exposed := by
  unfold Memory.exposed
  rw [agrees _ kept, agrees.stackPointer]

/-- Copying a cell keeps the agreement, unless it is a scratch cell. -/
theorem copy (agrees : Agrees first second) (cell : Word) {source : Word}
    (kept : source ∉ scratchCells) : Agrees (first.copy cell source) (second.copy cell source) := by
  unfold Memory.copy
  rw [agrees source kept]
  exact agrees.write _ _

/-- Replacing the topmost value keeps the agreement, unless it is in a scratch cell. -/
theorem mapTop (agrees : Agrees first second) (kept : first.read 0 - 1 ∉ scratchCells)
    (operation : Word → Word) : Agrees (first.mapTop operation) (second.mapTop operation) := by
  unfold Memory.mapTop
  dsimp only
  rw [agrees _ kept, agrees.stackPointer]
  exact agrees.write _ _

/-- Combining the two topmost values keeps the agreement, unless one is in a scratch cell. -/
theorem combine (agrees : Agrees first second) (top : first.read 0 - 1 ∉ scratchCells)
    (below : first.read 0 - 2 ∉ scratchCells) (operation : Word → Word → Word) :
    Agrees (first.combine operation) (second.combine operation) := by
  unfold Memory.combine
  rw [agrees.drop.exposed (by rw [read_drop_zero]; exact top)]
  refine agrees.drop.mapTop ?_ _
  have two : first.drop.read 0 - 1 = first.read 0 - 2 := by
    rw [read_drop_zero]
    grind
  rw [two]
  exact below

/-- Entering a function keeps the agreement, since all pointers are outside of the scratch cells. -/
theorem enter (agrees : Agrees first second) (following arguments : Word) :
    Agrees (first.enter following arguments) (second.enter following arguments) := by
  have saved := ((((agrees.push following).pushCell 1 (by decide)).pushCell 2
    (by decide)).pushCell 3 (by decide)).pushCell 4 (by decide)
  unfold Memory.enter
  dsimp only
  rw [saved.stackPointer]
  exact (saved.write _ _).copy _ (by decide)

end Agrees

/-- Leaving a function keeps the agreement, unless the result or the saved frame is in a scratch
cell. -/
theorem Agrees.leave {first second : Memory} (agrees : Agrees first second)
    (top : first.read 0 - 1 ∉ scratchCells)
    (saved : ∀ distance : Word, distance ∈ ([1, 2, 3, 4] : List Word) →
      first.read 1 - distance ∉ scratchCells) :
    Agrees first.leave second.leave := by
  have dropped := agrees.drop
  have exposed := dropped.exposed (by rw [read_drop_zero]; exact top)
  have stored : Agrees (first.drop.write (first.drop.read 2) first.drop.exposed)
      (second.drop.write (second.drop.read 2) second.drop.exposed) := by
    rw [exposed, dropped.argument]
    exact dropped.write _ _
  have collapsed : Agrees
      ((first.drop.write (first.drop.read 2) first.drop.exposed).write 0
        ((first.drop.write (first.drop.read 2) first.drop.exposed).read 2 + 1))
      ((second.drop.write (second.drop.read 2) second.drop.exposed).write 0
        ((second.drop.write (second.drop.read 2) second.drop.exposed).read 2 + 1)) := by
    rw [stored.argument]
    exact stored.write _ _
  unfold Memory.leave
  dsimp only
  rw [← agrees.locals]
  exact (((collapsed.copy 4 (saved 1 (by decide))).copy 3 (saved 2 (by decide))).copy 2
    (saved 3 (by decide))).copy 1 (saved 4 (by decide))

end Memory

namespace Command

/-- The cells of the stack and of the frame on which a command works. -/
def workCells (memory : Memory) : Command → List Word
  | .pop .. | .unary _ | .ifGoto _ => [memory.read 0 - 1]
  | .binary _ | .compare _ => [memory.read 0 - 1, memory.read 0 - 2]
  | .ret =>
    [memory.read 0 - 1, memory.read 2, memory.read 1 - 1, memory.read 1 - 2, memory.read 1 - 3,
      memory.read 1 - 4, memory.read 1 - 5]
  | _ => []

/-- The number of values that a command pushes one after the other. -/
def pushCount : Command → Nat
  | .push .. => 1
  | .function _ locals => locals.toNat
  | .call .. => 5
  | _ => 0

/-- A command does not work on scratch cells and does not push onto the stack pointer. -/
structure Guarded (memory : Memory) (command : Command) : Prop where
  apart : ∀ cell ∈ command.workCells memory, cell ∉ scratchCells
  above : ∀ count < command.pushCount, memory.read 0 + BitVec.ofNat 16 count ≠ 0

/-- A guarded command that does not push the value of a scratch cell. -/
structure Clear (statics : Word → Word) (memory : Memory) (command : Command) : Prop extends
    Guarded memory command where
  source : ∀ segment index cell, command = .push segment index →
    segment.cell? statics memory index = some cell → cell ∉ scratchCells

/-- The cell of an element does not depend on scratch cells. -/
theorem cell?_of_agrees {first second : Memory} (agrees : first.Agrees second)
    (statics : Word → Word) (segment : Segment) (index : Word) :
    segment.cell? statics first index = segment.cell? statics second index := by
  have locals := agrees.locals
  have argument := agrees.argument
  have this := agrees.this
  have that := agrees.that
  cases segment with
  | mapped segment => cases segment <;> simp only [Segment.cell?, locals, argument, this, that]
  | _ => rfl

/-- Clear commands do the same in memories that differ in the scratch cells at most. -/
theorem perform_of_agrees {statics : Word → Word} {following : Word} {command : Command}
    {first second after : Memory} {control : Control} (agrees : first.Agrees second)
    (clear : command.Clear statics first)
    (performed : command.perform statics following first = some (after, control)) :
    ∃ other, command.perform statics following second = some (other, control) ∧
      after.Agrees other := by
  have apart := clear.apart
  cases command with
  | push segment index =>
    simp only [perform, ← cell?_of_agrees agrees] at performed ⊢
    cases found : segment.cell? statics first index with
    | none =>
      rw [found] at performed
      cases performed
      exact ⟨_, rfl, agrees.push _⟩
    | some cell =>
      rw [found] at performed
      cases performed
      exact ⟨_, rfl, agrees.pushCell cell (clear.source segment index cell rfl found)⟩
  | pop segment index =>
    have exposed : first.drop.exposed = second.drop.exposed :=
      agrees.drop.exposed (by rw [Memory.read_drop_zero]; exact apart _ List.mem_cons_self)
    simp only [perform, ← cell?_of_agrees agrees, ← exposed] at performed ⊢
    cases found : segment.cell? statics first index with
    | none =>
      rw [found] at performed
      cases performed
    | some cell =>
      rw [found] at performed
      cases performed
      exact ⟨_, rfl, agrees.drop.write _ _⟩
  | binary operator =>
    cases performed
    simp only [workCells, List.forall_mem_cons] at apart
    exact ⟨_, rfl, agrees.combine apart.1 apart.2.1 _⟩
  | unary operator =>
    cases performed
    exact ⟨_, rfl, agrees.mapTop (apart _ List.mem_cons_self) _⟩
  | compare comparison =>
    cases performed
    simp only [workCells, List.forall_mem_cons] at apart
    exact ⟨_, rfl, agrees.combine apart.1 apart.2.1 _⟩
  | label name =>
    cases performed
    exact ⟨_, rfl, agrees⟩
  | goto name =>
    cases performed
    exact ⟨_, rfl, agrees⟩
  | ifGoto name =>
    have exposed : first.drop.exposed = second.drop.exposed :=
      agrees.drop.exposed (by rw [Memory.read_drop_zero]; exact apart _ List.mem_cons_self)
    simp only [perform, ← exposed] at performed ⊢
    cases performed
    exact ⟨_, rfl, agrees.drop⟩
  | function name locals =>
    cases performed
    exact ⟨_, rfl, agrees.pushZeros _⟩
  | call name arguments =>
    cases performed
    exact ⟨_, rfl, agrees.enter _ _⟩
  | ret =>
    cases performed
    simp only [workCells, List.forall_mem_cons] at apart
    obtain ⟨top, -, that, this, argument, locals, address, -⟩ := apart
    refine ⟨_, ?_, agrees.leave top ?_⟩
    · rw [perform, agrees _ address, agrees.locals]
    · simp only [List.forall_mem_cons]
      exact ⟨that, this, argument, locals, by simp⟩

end Command

namespace StackProgram

/-- A step of which the command is clear. -/
structure ClearStep (program : StackProgram) (before after : StackState) : Prop where
  step : program.Step before after
  clear : ∀ placed, program.commands[before.position]? = some placed →
    placed.command.value.Clear (program.statics placed.unit) before.memory

end StackProgram

end StackLowering

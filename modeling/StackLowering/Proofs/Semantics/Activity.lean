import StackLowering.Proofs.Lowering.Listing
import StackLowering.Proofs.Semantics.Frames
import StackLowering.Proofs.Semantics.Installation

/-!
# Disciplined activities

An activity of the machine goes from the start of one block to the start of
another by crossing blocks, and nothing is assumed about where it goes. It keeps
track of the frames that calls have opened and returns have closed. A command is
disciplined at such a moment if it respects the frames that are open.

Crossing the block of a command has the outcome that the command means
(`Proceeds.outcome`), and every guarded command of an installed program has a
block that can be crossed (`InstalledIn.exists_proceeds`).
-/

namespace StackLowering

namespace Command

/-- The number of values that a command takes from the stack. -/
def popCount : Command → Nat
  | .pop .. | .unary _ | .ifGoto _ | .ret => 1
  | .binary _ | .compare _ => 2
  | .call _ arguments => arguments.toNat
  | _ => 0

/-- The cell to which a command pops, if the statics of its unit have the given cells. -/
def popTarget? (statics : Word → Word) (memory : Memory) : Command → Option Word
  | .pop segment index => segment.cell? statics memory index
  | _ => none

/-- The name to which a command jumps in a memory. -/
def jump? (memory : Memory) : Command → Option String
  | .goto name | .call name _ => some name
  | .ifGoto name => if memory.read (memory.read 0 - 1) = 0 then none else some name
  | _ => none

/-- The frames that are open after a command: a call opens one at the stack pointer, and a return
closes the last one opened. -/
def openFrames (pointer : Nat) (frames : List Nat) : Command → List Nat
  | .call .. => pointer :: frames
  | .ret => frames.tail
  | _ => frames

/-- Commands other than calls and returns leave the open frames as they are. -/
theorem openFrames_of_plain {command : Command} (noCall : ∀ name arguments,
    command ≠ .call name arguments) (noReturn : command ≠ .ret) (pointer : Nat)
    (frames : List Nat) : command.openFrames pointer frames = frames := by
  cases command with
  | call name arguments => exact absurd rfl (noCall name arguments)
  | ret => exact absurd rfl noReturn
  | _ => rfl

end Command

/-- The machine at the start of a block: the position of the command of the block, the state of the
machine, and the first saved cells of the open frames, the last one opened first. -/
structure Moment where
  position : Nat
  machine : Machine
  frames : List Nat

/-- The memory at a moment. -/
def Moment.memory (moment : Moment) : Memory := moment.machine.memory

namespace StackProgram

/-- The machine crosses the block of a command and is at the start of a block again. -/
structure Proceeds (stack : StackProgram) (program : Program) (placed : PlacedCommand)
    (before after : Moment) : Prop where
  found : stack.commands[before.position]? = some placed
  crosses : Machine.Crosses program (stack.address before.position)
    (stack.address (before.position + 1)) before.machine after.machine
  arrives : after.machine.counter = stack.address after.position
  frames : after.frames =
    placed.command.value.openFrames (before.memory.read 0).toNat before.frames

/-- A command respects the open frames: the stack pointer is not negative, the values that it takes
are above the local pointer, it pops neither to the stack pointer, the local pointer or the argument
pointer nor to a saved cell, and it jumps only to names that are declared. -/
structure Disciplined (stack : StackProgram) (placed : PlacedCommand) (moment : Moment) :
    Prop where
  bounded : (moment.memory.read 0).toNat < 32768
  pops : ∀ count < placed.command.value.popCount,
    (moment.memory.read 1).toNat + count < (moment.memory.read 0).toNat
  spares : ∀ cell, placed.command.value.popTarget? (stack.statics placed.unit) moment.memory =
      some cell →
    cell ∉ ([0, 1, 2] : List Word) ∧
      ∀ start ∈ moment.frames, cell.toNat < start ∨ start + 5 ≤ cell.toNat
  declared : ∀ name, placed.command.value.jump? moment.memory = some name →
    name ∈ declaredNames stack.commands

/-- A command that takes nothing from the stack is disciplined, if it jumps to declared names
only. -/
theorem Disciplined.of_idle {stack : StackProgram} {placed : PlacedCommand} {moment : Moment}
    (bounded : (moment.memory.read 0).toNat < 32768)
    (takes : placed.command.value.popCount = 0)
    (pops : placed.command.value.popTarget? (stack.statics placed.unit) moment.memory = none)
    (declared : ∀ name, placed.command.value.jump? moment.memory = some name →
      name ∈ declaredNames stack.commands) : stack.Disciplined placed moment where
  bounded := bounded
  pops := by
    rw [takes]
    exact fun count none => absurd none (Nat.not_lt_zero count)
  spares := by
    rw [pops]
    rintro cell ⟨⟩
  declared := declared

/-- An activity of disciplined commands in which some frame stays open, and the cells to which it
popped. -/
inductive Activity (stack : StackProgram) (program : Program) (first : Moment) :
    List Word → Moment → Prop where
  | refl : Activity stack program first [] first
  | step {popped : List Word} {middle last : Moment} {placed : PlacedCommand}
      (prior : Activity stack program first popped middle)
      (disciplined : stack.Disciplined placed middle)
      (proceeds : stack.Proceeds program placed middle last)
      (stays : last.frames ≠ []) :
      Activity stack program first
        (popped ++ (placed.command.value.popTarget? (stack.statics placed.unit)
          middle.memory).toList) last

end StackProgram

/-! ## Crossing blocks -/

/-- A declared function takes up six addresses for every local. -/
theorem Lowering.size_function (target : Target) (name : String) (locals : Word) :
    Block.size (Lowering.function target name locals) = 6 * locals.toNat := by
  have zeros : ∀ count,
      Block.size (List.replicate count (Lowering.pushZero target)).flatten = 6 * count := by
    intro count
    induction count with
    | zero => rfl
    | succ count inductionHypothesis =>
      have zero : Block.size (Lowering.pushZero target) = 6 := rfl
      rw [List.replicate_succ, List.flatten_cons, Block.size_append, inductionHypothesis, zero]
      omega
  unfold Lowering.function
  rw [Block.size_cons, zeros]
  rfl

namespace StackProgram

variable {stack : StackProgram} {program : Program} {placed : PlacedCommand}
  {before after : Moment}

namespace InstalledIn

/-- A function that fits into the address space has few local variables. -/
theorem pushCount_le (installed : stack.InstalledIn program) {position : Nat}
    (found : stack.commands[position]? = some placed) :
    placed.command.value.pushCount ≤ Word.maxLiteral := by
  obtain ⟨inside, -⟩ := List.getElem?_eq_some_iff.mp found
  obtain ⟨issued, block, lowers, -, next⟩ := installed.code found
  have small := installed.small (position + 1) inside
  generalize placed.command.value = command at lowers
  unfold Word.maxLiteral at small ⊢
  cases lowers with
  | push resolves => exact show 1 ≤ 32767 by decide
  | function =>
    rw [Lowering.size_function] at next
    change BitVec.toNat _ ≤ _
    omega
  | call calls => exact show 5 ≤ 32767 by decide
  | _ => exact Nat.zero_le _

/-- Every command of an installed program can be performed. -/
theorem exists_perform (installed : stack.InstalledIn program) {position : Nat}
    (found : stack.commands[position]? = some placed) (memory : Memory) :
    ∃ after control, stack.perform ⟨position, memory⟩ placed = some (after, control) := by
  obtain ⟨issued, block, lowers, -, -⟩ := installed.code found
  unfold perform
  generalize placed.command.value = command at lowers
  cases command with
  | push segment index =>
    simp only [Command.perform]
    split
    · exact ⟨_, _, rfl⟩
    · exact ⟨_, _, rfl⟩
  | pop segment index =>
    cases segment with
    | constant =>
      -- No code pops to a constant.
      cases lowers with
      | popFirst resolves => cases resolves
      | popLater resolves later => cases resolves
      | popAbsolute resolves => cases resolves
      | popSymbol resolves => cases resolves
    | static => exact ⟨_, _, rfl⟩
    | mapped segment => cases segment <;> exact ⟨_, _, rfl⟩
  | _ => exact ⟨_, _, rfl⟩

end InstalledIn

/-- What crossing the block of a guarded command comes to. -/
theorem Proceeds.outcome (proceeds : stack.Proceeds program placed before after)
    (installed : stack.InstalledIn program)
    (guarded : placed.command.value.Guarded before.memory) {memory : Memory} {control : Control}
    (performed : stack.perform ⟨before.position, before.memory⟩ placed = some (memory, control))
    {destination : Nat} (arrives : stack.Arrives before.position control destination) :
    after.machine.counter = stack.address destination ∧ after.memory.Agrees memory := by
  obtain ⟨starts, -⟩ := proceeds.crosses
  obtain ⟨final, crosses, counter, agrees⟩ :=
    installed.crosses proceeds.found starts guarded performed arrives
  obtain rfl := proceeds.crosses.unique crosses
  exact ⟨counter, agrees⟩

/-- The block of a guarded command can be crossed. -/
theorem InstalledIn.exists_proceeds (installed : stack.InstalledIn program)
    (found : stack.commands[before.position]? = some placed)
    (starts : before.machine.counter = stack.address before.position)
    (guarded : placed.command.value.Guarded before.memory) {memory : Memory} {control : Control}
    (performed : stack.perform ⟨before.position, before.memory⟩ placed = some (memory, control))
    {destination : Nat} (arrives : stack.Arrives before.position control destination) :
    ∃ after : Moment, stack.Proceeds program placed before after ∧ after.position = destination ∧
      after.memory.Agrees memory := by
  obtain ⟨machine, crosses, counter, agrees⟩ :=
    installed.crosses found starts guarded performed arrives
  exact ⟨⟨destination, machine, _⟩, ⟨found, crosses, counter, rfl⟩, rfl, agrees⟩

/-- A declared name has a declaration. -/
theorem arrives_declaration {name : String} (declared : name ∈ declaredNames stack.commands)
    (position : Nat) : ∃ destination, stack.Arrives position (.declaration name) destination := by
  obtain ⟨placed, member, declares⟩ := mem_declaredNames.mp declared
  obtain ⟨destination, found⟩ := List.getElem?_of_mem member
  exact ⟨destination, placed, found, declares⟩

/-- A command that does not return goes on behind itself or at a name to which it jumps. -/
theorem control_of_perform {statics : Word → Word} {following : Word} {command : Command}
    {memory after : Memory} {control : Control}
    (performed : command.perform statics following memory = some (after, control))
    (noReturn : command ≠ .ret) (top : memory.read 0 - 1 ≠ 0) :
    control = .next ∨ ∃ name, control = .declaration name ∧ command.jump? memory = some name := by
  cases command with
  | push segment index =>
    simp only [Command.perform] at performed
    split at performed <;> cases performed <;> exact Or.inl rfl
  | pop segment index =>
    simp only [Command.perform] at performed
    split at performed
    · cases performed
    · cases performed
      exact Or.inl rfl
  | goto name =>
    cases performed
    exact Or.inr ⟨name, rfl, rfl⟩
  | ifGoto name =>
    cases performed
    have exposed : memory.drop.exposed = memory.read (memory.read 0 - 1) := by
      rw [Memory.exposed, Memory.read_drop_zero, Memory.read_drop_other _ top]
    rw [exposed, Command.jump?]
    by_cases zero : memory.read (memory.read 0 - 1) = 0
    · rw [if_pos zero]
      exact Or.inl rfl
    · rw [if_neg zero, if_neg zero]
      exact Or.inr ⟨name, rfl, rfl⟩
  | call name arguments =>
    obtain ⟨rfl, rfl⟩ := Prod.mk.inj (Option.some.inj performed)
    exact Or.inr ⟨name, rfl, rfl⟩
  | ret => exact absurd rfl noReturn
  | _ =>
    cases performed
    exact Or.inl rfl

/-- Calls are guarded, if the stack is above the pointers and does not wrap. -/
theorem guarded_call {memory : Memory} (low : 0 < (memory.read 0).toNat)
    (fits : (memory.read 0).toNat + 5 < 65536) (name : String) (arguments : Word) :
    (Command.call name arguments).Guarded memory := by
  refine ⟨fun _ member => (List.not_mem_nil member).elim, fun count few => ?_⟩
  change count < 5 at few
  exact add_ofNat_ne_zero low (by omega)

/-- A call enters the function. -/
theorem Proceeds.entered (proceeds : stack.Proceeds program placed before after)
    (installed : stack.InstalledIn program) {name : String}
    (calls : placed.command.value = .call name arguments)
    (declared : name ∈ declaredNames stack.commands)
    (low : 5 ≤ (before.memory.read 0).toNat) (bounded : (before.memory.read 0).toNat < 32768) :
    after.memory.Agrees (before.memory.enter
      (BitVec.ofNat 16 (stack.address (before.position + 1))) arguments) := by
  obtain ⟨destination, arrives⟩ := arrives_declaration declared before.position
  refine (proceeds.outcome installed ?_ ?_ arrives).2
  · rw [calls]
    exact guarded_call (by omega) (by omega) _ _
  · rw [perform, calls]
    rfl

end StackProgram

end StackLowering

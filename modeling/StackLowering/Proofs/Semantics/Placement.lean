import StackLowering.Proofs.Labels.Shadowing
import StackLowering.Proofs.Semantics.Installation

/-!
# Assembled jobs

Assembling the blocks of a job for the usual target installs the stack program
of its commands (`Listing.installed`): labels are kept apart from cells, so the
symbols of cells mean what they should, and every block stands behind the blocks
in front of it.
-/

namespace StackLowering

/-- A block among others takes up the addresses behind those in front of it. -/
theorem Block.size_take_succ {blocks : List Block} {position : Nat} {block : Block}
    (found : blocks[position]? = some block) :
    Block.size (blocks.take (position + 1)).flatten =
      Block.size (blocks.take position).flatten + block.size := by
  rw [List.take_add_one, found, Option.toList_some, List.flatten_append, List.flatten_singleton,
    Block.size_append]

/-- A program that holds some blocks holds each of them behind those in front of it. -/
theorem Program.holds_of_getElem? {program : Program} {blocks : List Block}
    (holds : program.Holds 0 blocks.flatten) {position : Nat} {block : Block}
    (found : blocks[position]? = some block) :
    program.Holds (Block.size (blocks.take position).flatten) block := by
  obtain ⟨bounded, rfl⟩ := List.getElem?_eq_some_iff.mp found
  have split : blocks.flatten = (blocks.take position).flatten ++
      (blocks[position] ++ (blocks.drop (position + 1)).flatten) := by
    rw [← List.flatten_cons, ← List.flatten_append, List.getElem_cons_drop,
      List.take_append_drop]
  rw [split, Program.holds_append, Program.holds_append, Nat.zero_add] at holds
  exact holds.2.1

namespace Job

/-- The code address at which the block of the command at a position starts. -/
def blockAddress (job : Job) (blocks : List Block) (position : Nat) : Nat :=
  Block.size (blocks.take (job.startupCount + position)).flatten

/-- The stack program of a job as an assembled program lays it out. -/
def stackProgram (job : Job) (commands : List PlacedCommand) (blocks : List Block)
    (program : Program) : StackProgram where
  commands := commands
  address := job.blockAddress blocks
  statics unit index := (program.cell? (Location.staticSymbol unit index)).getD 0

end Job

/-- Every command of a job comes from one of its units. -/
theorem Job.exists_unit {job : Job} {commands : List PlacedCommand}
    (parsed : job.commands = .ok commands) {placed : PlacedCommand} (member : placed ∈ commands) :
    ∃ unit ∈ job.units, placed.unit = unit.name := by
  unfold Job.commands at parsed
  cases read : job.units.mapM SourceUnit.parse with
  | error mishap =>
    rw [read] at parsed
    cases parsed
  | ok parts =>
    rw [read] at parsed
    cases parsed
    obtain ⟨part, inParts, inPart⟩ := List.mem_flatten.mp member
    obtain ⟨unit, inJob, readUnit⟩ := exists_of_mem_mapM read inParts
    refine ⟨unit, inJob, ?_⟩
    unfold SourceUnit.parse at readUnit
    split at readUnit
    · obtain ⟨line, -, readLine⟩ := exists_of_mem_mapM readUnit inPart
      unfold SourceUnit.parseLine at readLine
      split at readLine
      · cases readLine
        rfl
      · cases readLine
    · cases readUnit

/-- Annotations are not part of the code. -/
theorem Row.holds_block {target : Target} (annotate : Bool) (row : Row target)
    {program : Program} {address : Nat} :
    program.Holds address (row.block annotate) ↔ program.Holds address row.code := by
  unfold Row.block
  split
  · rfl
  · rfl

/-- Annotations take up no addresses. -/
theorem Row.size_block {target : Target} (annotate : Bool) (row : Row target) :
    (row.block annotate).size = row.code.size := by
  unfold Row.block
  split
  · simp [PlacedCommand.annotation, Instruction.isExecutable]
  · rfl

/-- The code of a command that uses a static loads the stack pointer and the symbol of that
static. -/
theorem Lowering.Lowers.loadedSymbols_static {target : Target} {unit : String} {line : Nat}
    {command : Command} {issued : List String} {block : Block} {index : Word}
    (lowers : Lowering.Lowers target unit line command issued block)
    (uses : command = .push .static index ∨ command = .pop .static index) :
    (Program.loadedSymbols block).Perm
      [target.stackPointer, Location.staticSymbol unit index] := by
  rcases uses with rfl | rfl
  · cases lowers with
    | push resolves =>
      cases resolves
      exact List.Perm.swap ..
  · cases lowers with
    | popFirst resolves => cases resolves
    | popLater resolves later => cases resolves
    | popAbsolute resolves => cases resolves
    | popSymbol resolves =>
      cases resolves
      exact List.Perm.refl _

namespace Listing

variable {job : Job} (listing : Listing job) {program : Program}

/-- The cells of the usual target are no labels. -/
theorem labelAddress?_cell (usual : job.target = Target.hack)
    (assembled : Program.assemble listing.blocks.flatten = .ok program) {cell : String}
    (reserved : Target.hack.isReserved cell = true) : program.labelAddress? cell = none := by
  refine Program.labelAddress?_eq_none_of_assemble assembled fun label => ?_
  rw [listing.labels_perm.mem_iff, List.mem_append] at label
  have free : job.target.isReserved cell = false := by
    rcases label with declared | issued
    · exact listing.isReserved_declared declared
    · exact listing.isReserved_issued usual issued
  rw [usual, reserved] at free
  cases free

/-- The symbols of cells stand for the cells with these names. -/
theorem cellNames (usual : job.target = Target.hack)
    (assembled : Program.assemble listing.blocks.flatten = .ok program) :
    CellNames program.value := by
  have named : ∀ {name : String} {cell : Word}, Target.hack.isReserved name = true →
      Program.predefined.lookup name = some cell → program.value name = cell := by
    intro name cell reserved known
    rw [Program.value_of_not_label (listing.labelAddress?_cell usual assembled reserved),
      Program.cell?, known]
    rfl
  exact ⟨named (by decide) (by decide), named (by decide) (by decide),
    named (by decide) (by decide), named (by decide) (by decide), named (by decide) (by decide),
    named (by decide) (by decide), named (by decide) (by decide)⟩

/-- The symbols of statics are not declared as labels. -/
theorem static_not_mem_labels {placed : PlacedCommand} (member : placed ∈ listing.commands)
    (index : Word) :
    Location.staticSymbol placed.unit index ∉ Block.labels listing.blocks.flatten := by
  obtain ⟨unit, inJob, same⟩ := Job.exists_unit listing.parsed member
  intro label
  rw [same] at label
  exact listing.label_ne_staticSymbol label inJob index rfl

/-- The symbols of statics are no labels. -/
theorem labelAddress?_static (assembled : Program.assemble listing.blocks.flatten = .ok program)
    {placed : PlacedCommand} (member : placed ∈ listing.commands) (index : Word) :
    program.labelAddress? (Location.staticSymbol placed.unit index) = none :=
  Program.labelAddress?_eq_none_of_assemble assembled (listing.static_not_mem_labels member index)

/-- The symbol of every static that a command uses is loaded. -/
theorem mem_loadedSymbols_static {placed : PlacedCommand} (member : placed ∈ listing.commands)
    {index : Word} (uses : placed.command.value = .push .static index ∨
      placed.command.value = .pop .static index) :
    Location.staticSymbol placed.unit index ∈
      Program.loadedSymbols listing.blocks.flatten := by
  obtain ⟨row, inRows, rfl⟩ := List.mem_map.mp member
  have loaded : Location.staticSymbol row.placed.unit index ∈
      Program.loadedSymbols (row.block job.annotate) := by
    rw [row.loadedSymbols_block, (row.lowers.loadedSymbols_static uses).mem_iff]
    exact List.mem_cons_of_mem _ List.mem_cons_self
  have inBlocks : row.block job.annotate ∈ listing.blocks :=
    List.mem_append_right _ (List.mem_map_of_mem inRows)
  obtain ⟨instruction, inBlock, symbol⟩ := List.mem_filterMap.mp loaded
  exact List.mem_filterMap.mpr
    ⟨instruction, List.mem_flatten.mpr ⟨_, inBlocks, inBlock⟩, symbol⟩

/-- Every static that a command uses has a cell. -/
theorem exists_cell?_static (assembled : Program.assemble listing.blocks.flatten = .ok program)
    {placed : PlacedCommand} (member : placed ∈ listing.commands) {index : Word}
    (uses : placed.command.value = .push .static index ∨
      placed.command.value = .pop .static index) :
    ∃ cell, program.cell? (Location.staticSymbol placed.unit index) = some cell :=
  Program.exists_cell?_of_loaded assembled (listing.mem_loadedSymbols_static member uses)
    (listing.labelAddress?_static assembled member index)

/-- The block of a command is where the blocks in front of it end. -/
theorem getElem?_blocks {position : Nat} {row : Row job.target}
    (found : listing.rows[position]? = some row) :
    listing.blocks[job.startupCount + position]? = some (row.block job.annotate) := by
  rw [blocks, ← listing.length_startup, List.getElem?_append_right (Nat.le_add_right _ _),
    Nat.add_sub_cancel_left, bodies, List.getElem?_map, found]
  rfl

/-- The row of a command. -/
theorem exists_row {position : Nat} {placed : PlacedCommand}
    (found : listing.commands[position]? = some placed) :
    ∃ row, listing.rows[position]? = some row ∧ row.placed = placed := by
  rw [commands, List.getElem?_map, Option.map_eq_some_iff] at found
  exact found

/-- No command stands behind the end of the code. -/
theorem blockAddress_le (position : Nat) :
    job.blockAddress listing.blocks position ≤ Block.size listing.blocks.flatten := by
  have split : Block.size listing.blocks.flatten =
      Block.size (listing.blocks.take (job.startupCount + position)).flatten +
        Block.size (listing.blocks.drop (job.startupCount + position)).flatten := by
    rw [← Block.size_append, ← List.flatten_append, List.take_append_drop]
  unfold Job.blockAddress
  omega

/-- An assembled job for the usual target has its stack program installed. -/
theorem installed (usual : job.target = Target.hack)
    (assembled : Program.assemble listing.blocks.flatten = .ok program)
    (small : Block.size listing.blocks.flatten ≤ Word.maxLiteral) :
    (job.stackProgram listing.commands listing.blocks program).InstalledIn program where
  names := listing.cellNames usual assembled
  code := by
    intro position placed found
    obtain ⟨row, rowFound, rfl⟩ := listing.exists_row found
    have block := listing.getElem?_blocks rowFound
    refine ⟨row.issued, row.code, usual ▸ row.lowers, ?_, ?_⟩
    · rw [← row.holds_block job.annotate]
      exact Program.holds_of_getElem? (Program.holds_of_assemble assembled) block
    · rw [← row.size_block job.annotate]
      exact Block.size_take_succ block
  allotted := fun _ member index =>
    Program.value_of_not_label (listing.labelAddress?_static assembled member index)
  small := fun position _ => Nat.le_trans (listing.blockAddress_le position) small

end Listing

/-- The stack program of an assembled job for the usual target is installed. -/
theorem Job.installed {job : Job} {commands : List PlacedCommand} {blocks : List Block}
    {program : Program} (usual : job.target = Target.hack)
    (parsed : job.commands = .ok commands) (lowered : job.blocks = .ok blocks)
    (assembled : Program.assemble blocks.flatten = .ok program)
    (small : Block.size blocks.flatten ≤ Word.maxLiteral) :
    (job.stackProgram commands blocks program).InstalledIn program := by
  obtain ⟨listing, rfl⟩ := Job.exists_listing lowered
  obtain rfl := listing.commands_eq parsed
  exact listing.installed usual assembled small

end StackLowering

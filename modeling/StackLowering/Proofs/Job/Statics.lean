import StackLowering.Proofs.Machine.Variables
import StackLowering.Proofs.Semantics.Placement

/-!
# Static variables of different units

Statics are symbols to the assembler, which gives them cells in the order of their
first uses, between the other symbols that a program leaves undeclared.
`Job.statics_isolated` says which cell each of them is given, that every use of a
static reaches that cell, and that no two statics share one: the symbol of a static
tells its unit and its index, whatever the unit is named.
-/

namespace StackLowering

/-- The cell of a symbol, which every load of the symbol loads. -/
structure Program.Allots (program : Program) (instructions : List Instruction) (name : String)
    (cell : Word) : Prop where
  cell_eq : program.cell? name = some cell
  loads : ∀ before after, instructions = before ++ .symbol name :: after →
    program.operations[Block.size before]? = some (.load cell)

/-- A symbol that is no label is allotted its cell. -/
theorem Program.allots_of_cell? {instructions : List Instruction} {program : Program}
    {name : String} {cell : Word} (assembled : Program.assemble instructions = .ok program)
    (unplaced : program.labelAddress? name = none) (found : program.cell? name = some cell) :
    program.Allots instructions name cell where
  cell_eq := found
  loads := by
    rintro before after rfl
    rw [Program.operation_of_assemble rfl assembled]
    show some (Operation.load (program.value name)) = _
    rw [Program.value_of_not_label unplaced, found]
    rfl

/-- A command pushes or pops an element of the static segment. -/
def PlacedCommand.UsesStatic (placed : PlacedCommand) (index : Word) : Prop :=
  placed.command.value = .push .static index ∨ placed.command.value = .pop .static index

/-- The symbol of a static has an underscore, and so it is not predefined. -/
theorem Location.lookup_predefined_staticSymbol (unit : String) (index : Word) :
    Program.predefined.lookup (Location.staticSymbol unit index) = none := by
  have plain : ∀ entry ∈ Program.predefined, '_' ∉ entry.1.toList := by decide
  rw [List.lookup_eq_none_iff]
  intro entry member
  rw [bne_iff_ne]
  intro same
  apply plain entry member
  rw [← same]
  simp [Location.staticSymbol, Location.staticMark]

namespace Listing

variable {job : Job} (listing : Listing job) {placed other : PlacedCommand}
  {index otherIndex : Word}

/-- The symbols of statics stand for variables. -/
theorem isVariable_static (member : placed ∈ listing.commands) (index : Word) :
    Program.isVariable listing.blocks.flatten (Location.staticSymbol placed.unit index) :=
  Program.isVariable_iff.mpr ⟨listing.static_not_mem_labels member index,
    Location.lookup_predefined_staticSymbol placed.unit index⟩

/-- The cell of a static that a command uses. -/
theorem allots_static {program : Program}
    (assembled : Program.assemble listing.blocks.flatten = .ok program)
    (member : placed ∈ listing.commands) (uses : placed.UsesStatic index) :
    program.Allots listing.blocks.flatten (Location.staticSymbol placed.unit index)
      (BitVec.ofNat 16 (Program.firstVariable +
        Program.rank listing.blocks.flatten (Location.staticSymbol placed.unit index))) :=
  Program.allots_of_cell? assembled (listing.labelAddress?_static assembled member index)
    (Program.cell?_eq_rank assembled (listing.mem_loadedSymbols_static member uses)
      (listing.isVariable_static member index))

/-- Statics with the same rank are the same static of the same unit. -/
theorem static_eq_of_rank_eq {program : Program}
    (assembled : Program.assemble listing.blocks.flatten = .ok program)
    (member : placed ∈ listing.commands) (uses : placed.UsesStatic index)
    (otherMember : other ∈ listing.commands) (otherUses : other.UsesStatic otherIndex)
    (same : Program.rank listing.blocks.flatten (Location.staticSymbol placed.unit index) =
      Program.rank listing.blocks.flatten (Location.staticSymbol other.unit otherIndex)) :
    placed.unit = other.unit ∧ index = otherIndex :=
  Location.staticSymbol_inj <| Program.eq_of_rank_eq assembled
    (listing.mem_loadedSymbols_static member uses) (listing.isVariable_static member index)
    (listing.mem_loadedSymbols_static otherMember otherUses)
    (listing.isVariable_static otherMember otherIndex) same

end Listing

/-- In a job for the usual target whose declared names are distinct, and with fewer symbols than
cells, the code of a command that uses a static loads the symbol of that static, and every load of
this symbol in the program loads the same cell. It is behind the first sixteen cells and behind as
many cells as different variables are loaded before it; so it is below the stack exactly when these
are fewer than 240. Statics of different units, or with different indices, have different cells. -/
theorem Job.statics_isolated {job : Job} {commands : List PlacedCommand} {blocks : List Block}
    (usual : job.target = Target.hack) (parsed : job.commands = .ok commands)
    (lowered : job.blocks = .ok blocks) (distinct : (declaredNames commands).Nodup)
    (few : (Program.loadedSymbols blocks.flatten).dedup.length < 65000) :
    ∃ program, Program.assemble blocks.flatten = .ok program ∧
      (∀ entry ∈ commands.zip (blocks.drop job.startupCount), ∀ index,
        entry.1.UsesStatic index →
          (Program.loadedSymbols entry.2).Perm
            [job.target.stackPointer, Location.staticSymbol entry.1.unit index]) ∧
      (∀ placed ∈ commands, ∀ index, placed.UsesStatic index → ∃ cell,
        program.Allots blocks.flatten (Location.staticSymbol placed.unit index) cell ∧
          16 ≤ cell.toNat ∧
          cell.toNat =
            16 + Program.rank blocks.flatten (Location.staticSymbol placed.unit index) ∧
          (cell.toNat < job.target.bootstrap.stackBase.toNat ↔
            Program.rank blocks.flatten (Location.staticSymbol placed.unit index) < 240)) ∧
      ∀ placed ∈ commands, ∀ other ∈ commands, ∀ index otherIndex,
        placed.UsesStatic index → other.UsesStatic otherIndex →
          (placed.unit, index) ≠ (other.unit, otherIndex) →
            program.cell? (Location.staticSymbol placed.unit index) ≠
              program.cell? (Location.staticSymbol other.unit otherIndex) := by
  obtain ⟨listing, rfl⟩ := Job.exists_listing lowered
  obtain rfl := listing.commands_eq parsed
  obtain ⟨program, assembled⟩ :=
    Program.exists_assemble_eq_ok_iff.mpr (listing.nodup_labels_iff.mpr distinct)
  refine ⟨program, assembled, ?_, ?_, ?_⟩
  · rw [listing.drop_blocks, listing.zip_commands_bodies]
    intro entry member index uses
    obtain ⟨row, -, rfl⟩ := List.mem_map.mp member
    rw [row.loadedSymbols_block]
    exact row.lowers.loadedSymbols_static uses
  · intro placed member index uses
    have base : job.target.bootstrap.stackBase.toNat = 256 := by rw [usual]; rfl
    refine ⟨_, listing.allots_static assembled member uses, ?_⟩
    rw [Program.toNat_cell_rank few, base, Program.firstVariable]
    omega
  · intro placed member other otherMember index otherIndex uses otherUses differ equal
    rw [(listing.allots_static assembled member uses).cell_eq,
      (listing.allots_static assembled otherMember otherUses).cell_eq, Option.some.injEq] at equal
    have numbers := congrArg BitVec.toNat equal
    rw [Program.toNat_cell_rank few, Program.toNat_cell_rank few, Nat.add_left_cancel_iff]
      at numbers
    obtain ⟨unit, rfl⟩ := listing.static_eq_of_rank_eq assembled member uses otherMember otherUses
      numbers
    exact differ (by rw [unit])

/-- A job with a unit that is named like a static of another one, and with a jump to nowhere. -/
def nestedStatics : Job where
  units := [⟨"A", "goto out\npush static 3"⟩, ⟨"A_static_3", "pop static 3"⟩]

/-- The commands of that job. -/
def nestedStaticsCommands : List PlacedCommand :=
  [⟨"A", 1, ⟨.goto "out", ⟨0, 8⟩⟩⟩, ⟨"A", 2, ⟨.push .static 3, ⟨9, 22⟩⟩⟩,
    ⟨"A_static_3", 1, ⟨.pop .static 3, ⟨0, 12⟩⟩⟩]

/-- The blocks of that job. -/
def nestedStaticsBlocks : List Block :=
  [Lowering.goto "out", Lowering.fetch (.symbol "A_static_3") ++ Lowering.pushData Target.hack,
    Lowering.popData Target.hack ++ [.symbol "A_static_3_static_3", .assign "M" "D"]]

/-- The jump takes the first cell, and the statics take the next two. -/
theorem nestedStatics_isolated :
    nestedStatics.commands = .ok nestedStaticsCommands ∧
      nestedStatics.blocks = .ok nestedStaticsBlocks ∧
      ∃ program, Program.assemble nestedStaticsBlocks.flatten = .ok program ∧
        (∃ cell, program.Allots nestedStaticsBlocks.flatten "A_static_3" cell ∧
          cell.toNat = 17) ∧
        (∃ cell, program.Allots nestedStaticsBlocks.flatten "A_static_3_static_3" cell ∧
          cell.toNat = 18) ∧
        program.cell? "A_static_3" ≠ program.cell? "A_static_3_static_3" := by
  have parsed : nestedStatics.commands = .ok nestedStaticsCommands := by decide +kernel
  have lowered : nestedStatics.blocks = .ok nestedStaticsBlocks := by decide +kernel
  have few : (Program.loadedSymbols nestedStaticsBlocks.flatten).dedup.length < 65000 := by
    decide +kernel
  obtain ⟨program, assembled, -, allotted, isolated⟩ :=
    Job.statics_isolated rfl parsed lowered (by decide) few
  have inner : ⟨"A", 2, ⟨.push .static 3, ⟨9, 22⟩⟩⟩ ∈ nestedStaticsCommands := by decide
  have outer : ⟨"A_static_3", 1, ⟨.pop .static 3, ⟨0, 12⟩⟩⟩ ∈ nestedStaticsCommands := by decide
  obtain ⟨cell, allots, -, address, -⟩ := allotted _ inner 3 (Or.inl rfl)
  obtain ⟨otherCell, otherAllots, -, otherAddress, -⟩ := allotted _ outer 3 (Or.inr rfl)
  exact ⟨parsed, lowered, program, assembled, ⟨cell, allots, address.trans (by decide +kernel)⟩,
    ⟨otherCell, otherAllots, otherAddress.trans (by decide +kernel)⟩,
    isolated _ inner _ outer 3 3 (Or.inl rfl) (Or.inr rfl) (by decide)⟩

end StackLowering

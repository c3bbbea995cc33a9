import StackLowering.Proofs.Job.Admission
import StackLowering.Proofs.Lowering.Listing
import StackLowering.Proofs.Lowering.Spelling

/-!
# The text of a program

The text of a program is made of the lines of its instructions, each ended by a
line feed. `Job.assembly_reads_back` says that nothing is lost on the way: cut at
its line feeds, the text gives lines of the grammar of assembly, and these are
read back as the instructions of all blocks, in order.
-/

namespace StackLowering

/-! ## Blocks that can be written -/

namespace Row

variable {target : Target} {row : Row target}

/-- The block of a row can be written, with or without its annotation. -/
theorem isProper_block (named : target.WellNamed)
    (unitSymbol : Symbol.isSymbol row.placed.unit.toList = true)
    (writable : row.placed.command.value.IsWritable) (annotate : Bool) :
    Block.IsProper (row.block annotate) := by
  have code := row.lowers.isProper named unitSymbol writable
  unfold Row.block
  split
  · exact Block.isProper_cons.mpr ⟨(Written.comment writable).isProper, code⟩
  · exact code

/-- Every command has an instruction or a comment in its block. -/
theorem block_ne_nil (row : Row target) (annotate : Bool) : row.block annotate ≠ [] := by
  have code := row.lowers.ne_nil
  unfold Row.block
  split
  · exact List.append_ne_nil_of_right_ne_nil _ code
  · exact code

end Row

namespace Job

variable {job : Job}

/-- Every command that was read can be written, and its unit has a symbol for its name. -/
theorem isWritable_of_commands {commands : List PlacedCommand} {placed : PlacedCommand}
    (read : job.commands = .ok commands) (member : placed ∈ commands) :
    Symbol.isSymbol placed.unit.toList = true ∧ placed.command.value.IsWritable := by
  have named := fun unit (inJob : unit ∈ job.units) => isSymbol_of_commands read inJob
  obtain rfl := commands_eq_ok read
  obtain ⟨unit, inJob, inUnit⟩ := List.mem_flatMap.mp member
  obtain ⟨line, -, sameUnit, -, parsed⟩ := SourceUnit.exists_line_of_mem_readable inUnit
  exact ⟨sameUnit ▸ named unit inJob, Command.isWritable_of_parse parsed⟩

/-- Startup code is only made for a stack base that is a literal. -/
theorem stackBase_le_of_blocks {blocks : List Block} (lowered : job.blocks = .ok blocks)
    (wanted : job.bootstrap = true) : job.target.bootstrap.stackBase.toNat ≤ 32767 := by
  obtain ⟨commands, parsed, registering⟩ := exists_of_bind_eq_ok lowered
  obtain ⟨registered, registration, starting⟩ := exists_of_bind_eq_ok registering
  obtain ⟨started, startupDone, -⟩ := exists_of_bind_eq_ok starting
  unfold Job.startup Lowering.lowerBootstrap at startupDone
  rw [if_pos wanted] at startupDone
  dsimp only at startupDone
  split at startupDone
  · rename_i block middle lowered
    split at lowered
    · assumption
    · cases lowered
  · cases startupDone

/-- The blocks of a program can be written, and none is empty. -/
theorem isProper_of_blocks {blocks : List Block} (named : job.target.WellNamed)
    (lowered : job.blocks = .ok blocks) :
    ∀ block ∈ blocks, block ≠ [] ∧ Block.IsProper block := by
  obtain ⟨listing, rfl⟩ := exists_listing lowered
  intro block member
  rcases List.mem_append.mp member with inStartup | inBodies
  · obtain ⟨opening, isOpening, rfl⟩ := List.mem_map.mp inStartup
    have wanted : job.bootstrap = true := by
      rw [← listing.opened, Option.mem_toList.mp isOpening]
      rfl
    have small := stackBase_le_of_blocks lowered wanted
    exact ⟨List.cons_ne_nil _ _, Block.isProper_append.mpr
      ⟨Lowering.isProper_initializeStack named small,
        opening.calls.isProper named (by decide) named.entry⟩⟩
  · obtain ⟨row, inRows, rfl⟩ := List.mem_map.mp inBodies
    obtain ⟨unitSymbol, writable⟩ :=
      isWritable_of_commands listing.parsed (List.mem_map_of_mem inRows)
    exact ⟨row.block_ne_nil _, row.isProper_block named unitSymbol writable _⟩

end Job

/-! ## Lines -/

/-- The lines of some instructions. -/
def Block.lines (block : Block) : List (List Char) :=
  block.map fun instruction => instruction.text.toList

/-- Some lines as a text, each ended by a line feed. -/
def ended (lines : List (List Char)) : List Char := lines.flatMap (· ++ ['\n'])

/-- Lines that do not break are found again between the line feeds that end them. -/
theorem splitOn_ended {lines : List (List Char)} (unbroken : ∀ line ∈ lines, '\n' ∉ line) :
    (ended lines).splitOn '\n' = lines ++ [[]] := by
  induction lines with
  | nil => rfl
  | cons line rest inductionHypothesis =>
    have here : ∀ character ∈ line, (character == '\n') = false := by
      intro character member
      rw [beq_eq_false_iff_ne]
      rintro rfl
      exact unbroken line List.mem_cons_self member
    have later := inductionHypothesis fun other member =>
      unbroken other (List.mem_cons_of_mem _ member)
    rw [List.splitOn_eq_splitOnP] at later ⊢
    rw [ended, List.flatMap_cons, List.append_assoc, List.singleton_append,
      List.splitOnP_append_cons_of_forall_mem here '\n' (by decide)]
    exact congrArg (line :: ·) later

/-- Joined lines and one line feed more. -/
theorem intercalate_append_lineFeed {lines : List (List Char)} (nonempty : lines ≠ []) :
    ['\n'].intercalate lines ++ ['\n'] = ended lines := by
  induction lines with
  | nil => exact absurd rfl nonempty
  | cons line rest inductionHypothesis =>
    cases rest with
    | nil => simp [ended]
    | cons next others =>
      rw [List.intercalate_cons_cons, List.append_assoc,
        inductionHypothesis (List.cons_ne_nil _ _)]
      rfl

/-- The text of a program has the lines of all instructions, each ended by a line feed. -/
theorem Job.toList_programText {blocks : List Block} (nonempty : ∀ block ∈ blocks, block ≠ []) :
    (Job.programText blocks).toList = ended (Block.lines blocks.flatten) := by
  induction blocks with
  | nil => rfl
  | cons block rest inductionHypothesis =>
    have later := inductionHypothesis fun other member =>
      nonempty other (List.mem_cons_of_mem _ member)
    have here : (block.text ++ "\n").toList = ended (Block.lines block) := by
      have filled : Block.lines block ≠ [] := by
        simpa [Block.lines] using nonempty block List.mem_cons_self
      rw [String.toList_append, Block.text, String.toList_intercalate, List.map_map]
      exact intercalate_append_lineFeed filled
    have first : (Job.programText (block :: rest)).toList =
        (block.text ++ "\n").toList ++ (Job.programText rest).toList := by
      simp [Job.programText, String.toList_join]
    rw [first, here, later]
    simp [ended, Block.lines]

/-! ## Reading a program back -/

/-- Instructions that can be written stand in their own lines. -/
theorem Block.IsProper.written {block : Block} (proper : Block.IsProper block) :
    List.Forall₂ Written (Block.lines block) block := by
  rw [Block.lines, List.forall₂_map_left_iff, List.forall₂_same]
  exact proper

/-- On a target with symbols for names, the text of a program falls apart at its line feeds into
lines that are not empty, and one empty line after the last line feed. The lines are lines of the
grammar, and there is one way only to read them: as the instructions of all blocks, in order. -/
theorem Job.assembly_reads_back {job : Job} {text : String} (named : job.target.WellNamed)
    (translated : job.assembly = .ok text) :
    ∃ blocks lines, job.blocks = .ok blocks ∧
      text.toList.splitOn '\n' = lines ++ [[]] ∧ [] ∉ lines ∧
      List.Forall₂ Written lines blocks.flatten ∧
      lines.mapM Instruction.read? = some blocks.flatten ∧
      ∀ instructions, List.Forall₂ Written lines instructions →
        instructions = blocks.flatten := by
  unfold Job.assembly at translated
  cases lowered : job.blocks with
  | error mishap =>
    rw [lowered] at translated
    cases translated
  | ok blocks =>
    rw [lowered] at translated
    cases translated
    have sound := Job.isProper_of_blocks named lowered
    have proper : Block.IsProper blocks.flatten := by
      intro instruction member
      obtain ⟨block, inBlocks, inBlock⟩ := List.mem_flatten.mp member
      exact (sound block inBlocks).2 instruction inBlock
    have unbroken : ∀ line ∈ Block.lines blocks.flatten, line ≠ [] ∧ '\n' ∉ line := by
      intro line member
      obtain ⟨instruction, inProgram, rfl⟩ := List.mem_map.mp member
      exact (proper instruction inProgram).unbroken
    have written := proper.written
    have read := Instruction.mapM_read?_eq_some_iff.mpr written
    refine ⟨blocks, Block.lines blocks.flatten, rfl, ?_, fun empty => (unbroken [] empty).1 rfl,
      written, read, fun instructions others => ?_⟩
    · rw [Job.toList_programText fun block member => (sound block member).1]
      exact splitOn_ended fun line member => (unbroken line member).2
    · rw [Instruction.mapM_read?_eq_some_iff.mpr others] at read
      exact Option.some.inj read

/-- The names of the default target are symbols. -/
theorem Target.wellNamed_hack : Target.hack.WellNamed where
  cells := by decide
  entry := by decide

/-- An annotated program with every kind of line. -/
def endlessLoop : Job where
  units := [⟨"Main", "label loop\npush temp 3 // again\ngoto loop"⟩]
  annotate := true

/-- Its text. -/
def endlessLoopText : String :=
  "// label loop\n(loop)\n// push temp 3\n@8\nD=M\n@SP\nM=M+1\nA=M-1\nM=D\n" ++
    "// goto loop\n@loop\n0;JMP\n"

/-- Its instructions. -/
def endlessLoopBlocks : List Block :=
  [[.comment "label loop", .label "loop"],
    [.comment "push temp 3", .literal 8, .assign "D" "M", .symbol "SP",
      .assign "M" "M+1", .assign "A" "M-1", .assign "M" "D"],
    [.comment "goto loop", .symbol "loop", .jump]]

/-- That program is read back from its text. -/
theorem endlessLoop_reads_back :
    Target.hack.WellNamed ∧ endlessLoop.assembly = .ok endlessLoopText ∧
      endlessLoop.blocks = .ok endlessLoopBlocks ∧
      ∃ lines, endlessLoopText.toList.splitOn '\n' = lines ++ [[]] ∧
        lines.mapM Instruction.read? = some endlessLoopBlocks.flatten := by
  have translated : endlessLoop.assembly = .ok endlessLoopText := by decide +kernel
  have lowered : endlessLoop.blocks = .ok endlessLoopBlocks := by decide +kernel
  obtain ⟨blocks, lines, blocksEq, split, -, -, read, -⟩ :=
    Job.assembly_reads_back Target.wellNamed_hack translated
  rw [lowered] at blocksEq
  cases blocksEq
  exact ⟨Target.wellNamed_hack, translated, lowered, lines, split, read⟩

end StackLowering

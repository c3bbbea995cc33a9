import StackLowering.Proofs.Semantics.Itinerary
import StackLowering.Proofs.Semantics.Placement

/-!
# The machine simulates stack programs

`Job.machine_simulates_stack_program` is the correctness of whole runs on the
usual target: a job whose declared names are distinct and whose code fits into
the address space can be assembled; startup code, if there is any, leads to the
entry function with its first frame; and every run of the stack program, of any
length, is followed by the machine, scratch cells apart. A run is followed command
by command, so the proof is one step (`Matches.step`) and an induction over the
run (`Matches.run`).
-/

namespace StackLowering

namespace StackProgram

/-- The machine stands where a stack program stands, with the same memory, scratch cells apart. -/
structure Matches (stack : StackProgram) (state : StackState) (machine : Machine) : Prop where
  counter : machine.counter = stack.address state.position
  memory : machine.memory.Agrees state.memory

variable {stack : StackProgram} {program : Program}

/-- A guarded command stays guarded in a memory that agrees. -/
theorem guarded_of_agrees {command : Command} {first second : Memory}
    (agrees : first.Agrees second) (guarded : command.Guarded first) : command.Guarded second := by
  have stack := agrees.stackPointer
  have locals := agrees.locals
  have argument := agrees.argument
  have cells : command.workCells second = command.workCells first := by
    cases command <;> simp only [Command.workCells, stack, locals, argument]
  refine ⟨?_, ?_⟩
  · rw [cells]
    exact guarded.apart
  · rw [← stack]
    exact guarded.above

/-- The machine follows one clear step. -/
theorem Matches.step (installed : stack.InstalledIn program) {before after : StackState}
    {machine : Machine} (steps : stack.ClearStep before after)
    (related : stack.Matches before machine) :
    ∃ final, Machine.Reaches program machine final ∧ stack.Matches after final := by
  obtain ⟨placed, control, found, performed, arrives⟩ := steps.step
  have clear := steps.clear placed found
  obtain ⟨other, performedHere, same⟩ :=
    Command.perform_of_agrees related.memory.symm clear performed
  obtain ⟨final, crosses, counter, memory⟩ := installed.crosses found related.counter
    (guarded_of_agrees related.memory.symm clear.toGuarded) performedHere arrives
  exact ⟨final, crosses.reaches, counter, memory.trans same.symm⟩

/-- The machine follows every run of clear steps. -/
theorem Matches.run (installed : stack.InstalledIn program) {first last : StackState}
    {machine : Machine} (runs : Relation.ReflTransGen stack.ClearStep first last)
    (related : stack.Matches first machine) :
    ∃ final, Machine.Reaches program machine final ∧ stack.Matches last final := by
  induction runs with
  | refl => exact ⟨machine, .refl, related⟩
  | tail earlier steps inductionHypothesis =>
    obtain ⟨middle, reaches, relatedMiddle⟩ := inductionHypothesis
    obtain ⟨final, followed, relatedFinal⟩ := relatedMiddle.step installed steps
    exact ⟨final, Relation.ReflTransGen.trans reaches followed, relatedFinal⟩

end StackProgram

/-! ## Startup -/

/-- Where a job starts in a memory: with startup code, in the entry function that was called on an
empty stack; and otherwise at its first command. -/
def Job.Starts (job : Job) (stack : StackProgram) (memory : Memory) (state : StackState) : Prop :=
  if job.bootstrap then
    state.memory = (memory.write 0 job.target.bootstrap.stackBase).enter
        (BitVec.ofNat 16 (stack.address 0)) 0 ∧
      stack.Arrives 0 (.declaration job.target.bootstrap.entry) state.position
  else state = ⟨0, memory⟩

/-- Startup code sets the stack pointer and then does what a call without arguments means. -/
theorem Lowering.reaches_startup {program : Program} (names : CellNames program.value)
    {unit : String} {line : Nat} {entry returnLabel : String} {code : Block}
    (calls : Lowering.Calls Target.hack unit line entry 0 returnLabel code)
    (holds : program.Holds 0 (Lowering.initializeStack Target.hack ++ code))
    (small : 4 + code.size < 65536) {machine : Machine} (starts : machine.counter = 0)
    (behind : 4 + code.size ≤ (program.value entry).toNat) :
    ∃ final, Machine.Reaches program machine final ∧
      final.counter = (program.value entry).toNat ∧
      final.memory.Agrees ((machine.memory.write 0 256).enter
        (BitVec.ofNat 16 (4 + code.size)) 0) := by
  obtain ⟨initializes, rest⟩ := Program.holds_append.mp holds
  obtain ⟨initialized, counter⟩ := Machine.crosses_of_straight rfl initializes starts
  have memory : (Machine.passAll program.value (Lowering.initializeStack Target.hack)
      machine).memory = machine.memory.write 0 256 := by
    rw [← names.stack]
    rfl
  revert initialized counter memory
  generalize Machine.passAll program.value (Lowering.initializeStack Target.hack) machine = middle
  intro initialized counter memory
  have guarded : Command.Guarded middle.memory (.call entry 0) := by
    have above : ∀ count < 5, (256 : Word) + BitVec.ofNat 16 count ≠ 0 := by decide
    refine ⟨by simp [Command.workCells], ?_⟩
    rw [memory, Memory.read_write_same]
    exact above
  change program.Holds 4 code at rest
  obtain ⟨final, crosses, ends, agrees⟩ := Lowering.crosses_of_perform names (fun _ => rfl)
    (.call calls) rest small counter guarded rfl rfl (Or.inr behind)
  rw [memory] at agrees
  exact ⟨final, Relation.ReflTransGen.trans initialized.reaches crosses.reaches, ends, agrees⟩

namespace Listing

variable {job : Job} (listing : Listing job) {program : Program}

/-- Startup code stands in front of all commands. -/
theorem holds_opening (assembled : Program.assemble listing.blocks.flatten = .ok program)
    {opening : Opening job.target} (opened : listing.opening = some opening) :
    program.Holds 0 opening.block ∧
      job.blockAddress listing.blocks 0 = Block.size opening.block := by
  have startup : listing.startup = [opening.block] := by
    rw [Listing.startup, opened]
    rfl
  have first : listing.blocks[0]? = some opening.block := by
    rw [blocks, startup]
    rfl
  refine ⟨Program.holds_of_getElem? (Program.holds_of_assemble assembled) first, ?_⟩
  rw [Job.blockAddress, Nat.add_zero, listing.take_blocks, startup, List.flatten_singleton]

/-- Startup code initializes the stack and enters the entry function. -/
theorem matches_of_opening (usual : job.target = Target.hack)
    (assembled : Program.assemble listing.blocks.flatten = .ok program)
    (small : Block.size listing.blocks.flatten ≤ Word.maxLiteral) {machine : Machine}
    (starts : machine.counter = 0) {opening : Opening job.target}
    (opened : listing.opening = some opening) {position : Nat}
    (arrives : (job.stackProgram listing.commands listing.blocks program).Arrives 0
      (.declaration job.target.bootstrap.entry) position) :
    ∃ final, Machine.Reaches program machine final ∧
      (job.stackProgram listing.commands listing.blocks program).Matches
        ⟨position, (machine.memory.write 0 job.target.bootstrap.stackBase).enter
          (BitVec.ofNat 16 (job.blockAddress listing.blocks 0)) 0⟩ final := by
  have installed := listing.installed usual assembled small
  obtain ⟨holds, address⟩ := listing.holds_opening assembled opened
  obtain ⟨placed, found, declared⟩ := arrives
  obtain ⟨bounded, -⟩ := List.getElem?_eq_some_iff.mp found
  have behind := installed.address_le (Nat.zero_le position) (Nat.le_of_lt bounded)
  have fits := installed.small position (Nat.le_of_lt bounded)
  have label := installed.labelAddress?_declared found declared
  change job.blockAddress listing.blocks 0 ≤ job.blockAddress listing.blocks position at behind
  change job.blockAddress listing.blocks position ≤ Word.maxLiteral at fits
  change program.labelAddress? job.target.bootstrap.entry =
    some (job.blockAddress listing.blocks position) at label
  obtain ⟨returnLabel, code, calls⟩ := opening
  change program.Holds 0 (Lowering.initializeStack job.target ++ code) at holds
  change job.blockAddress listing.blocks 0 =
    Block.size (Lowering.initializeStack job.target ++ code) at address
  rw [usual] at calls holds label
  rw [usual, Block.size_append] at address
  change job.blockAddress listing.blocks 0 = 4 + code.size at address
  unfold Word.maxLiteral at fits
  have landed : (program.value Target.hack.bootstrap.entry).toNat =
      job.blockAddress listing.blocks position := by
    rw [Program.value_of_labelAddress? label, BitVec.toNat_ofNat]
    omega
  obtain ⟨final, reaches, counter, memory⟩ := Lowering.reaches_startup installed.names calls holds
    (by omega) starts (by omega)
  refine ⟨final, reaches, counter.trans landed, ?_⟩
  rw [address, usual]
  exact memory

/-- From address zero the machine reaches the start of the stack program. -/
theorem matches_of_starts (usual : job.target = Target.hack)
    (assembled : Program.assemble listing.blocks.flatten = .ok program)
    (small : Block.size listing.blocks.flatten ≤ Word.maxLiteral) {machine : Machine}
    (starts : machine.counter = 0) {state : StackState}
    (started : job.Starts (job.stackProgram listing.commands listing.blocks program)
      machine.memory state) :
    ∃ final, Machine.Reaches program machine final ∧
      (job.stackProgram listing.commands listing.blocks program).Matches state final := by
  have opened := listing.opened
  unfold Job.Starts at started
  split at started
  · rename_i wanted
    rw [wanted, Option.isSome_iff_exists] at opened
    obtain ⟨opening, opened⟩ := opened
    obtain ⟨position, memory⟩ := state
    obtain ⟨rfl, arrives⟩ := started
    exact listing.matches_of_opening usual assembled small starts opened arrives
  · rename_i unwanted
    subst started
    refine ⟨machine, .refl, ?_, .refl _⟩
    have none : job.startupCount = 0 := if_neg unwanted
    rw [starts]
    show 0 = job.blockAddress listing.blocks 0
    rw [Job.blockAddress, none]
    rfl

/-- Behind the last command the code ends. -/
theorem blockAddress_length :
    job.blockAddress listing.blocks listing.commands.length =
      Block.size listing.blocks.flatten := by
  rw [Job.blockAddress, ← listing.length_blocks, List.take_length]

end Listing

/-- Lowered jobs for the usual target are correct. If the declared names are distinct and the code
fits, the blocks can be assembled, and every static that is used gets a cell. From address zero the
machine reaches the state in which the stack program starts; from a matching state it follows every
clear run of the stack program; and where a run leaves the last command, the program ends. -/
theorem Job.machine_simulates_stack_program {job : Job} {commands : List PlacedCommand}
    {blocks : List Block} (usual : job.target = Target.hack)
    (parsed : job.commands = .ok commands) (lowered : job.blocks = .ok blocks)
    (distinct : (declaredNames commands).Nodup)
    (small : Block.size blocks.flatten ≤ Word.maxLiteral) :
    ∃ program, Program.assemble blocks.flatten = .ok program ∧
      (∀ placed ∈ commands, ∀ index, placed.command.value = .push .static index ∨
          placed.command.value = .pop .static index →
        ∃ cell, program.cell? (Location.staticSymbol placed.unit index) = some cell) ∧
      (∀ machine state, machine.counter = 0 →
        job.Starts (job.stackProgram commands blocks program) machine.memory state →
        ∃ final, Machine.Reaches program machine final ∧
          (job.stackProgram commands blocks program).Matches state final) ∧
      (∀ first last machine,
        Relation.ReflTransGen (job.stackProgram commands blocks program).ClearStep first last →
        (job.stackProgram commands blocks program).Matches first machine →
        ∃ final, Machine.Reaches program machine final ∧
          (job.stackProgram commands blocks program).Matches last final) ∧
      (∀ state machine, (job.stackProgram commands blocks program).Matches state machine →
        state.position = commands.length → machine.atEnd program = true) := by
  obtain ⟨listing, rfl⟩ := Job.exists_listing lowered
  obtain rfl := listing.commands_eq parsed
  obtain ⟨program, assembled⟩ :=
    Program.exists_assemble_eq_ok_iff.mpr (listing.nodup_labels_iff.mpr distinct)
  have installed := listing.installed usual assembled small
  refine ⟨program, assembled, ?_, ?_, ?_, ?_⟩
  · exact fun placed member index uses => listing.exists_cell?_static assembled member uses
  · exact fun machine state starts started =>
      listing.matches_of_starts usual assembled small starts started
  · exact fun first last machine runs related => related.run installed runs
  · intro state machine related ended
    have counter : machine.counter = job.blockAddress listing.blocks state.position :=
      related.counter
    rw [ended, listing.blockAddress_length] at counter
    rw [Machine.atEnd, Program.size_operations_of_assemble assembled, counter]
    exact decide_eq_true (Nat.le_refl _)

/-- A job with startup code, in which the entry function has the absolute value of a number computed
by a function of another unit, which branches on the sign, and keeps it in a static. -/
def absoluteValue : Job where
  units :=
    [⟨"Main", "function abs 0\npush argument 0\npush constant 0\nlt\nif-goto below\n" ++
        "push argument 0\nreturn\nlabel below\npush argument 0\nneg\nreturn"⟩,
      ⟨"Sys", "function Sys.init 0\npush constant 7\nneg\ncall abs 1\npop static 0"⟩]
  bootstrap := true

/-- The commands of that job. -/
def absoluteValueCommands : List PlacedCommand := absoluteValue.commands.toOption.getD []

/-- The blocks of that job. -/
def absoluteValueBlocks : List Block := absoluteValue.blocks.toOption.getD []

/-- The program that these blocks are assembled into. -/
def absoluteValueProgram : Program :=
  (Program.assemble absoluteValueBlocks.flatten).toOption.getD ⟨#[], [], []⟩

/-- The stack program of that job as this program lays it out. -/
def absoluteValueLayout : StackProgram :=
  absoluteValue.stackProgram absoluteValueCommands absoluteValueBlocks absoluteValueProgram

/-- The state in which the startup code leaves a memory of zeros: at the entry function, which
stands behind the eleven commands of the other unit, with its frame on the stack. -/
def absoluteValueStart : StackState where
  position := 11
  memory := (Memory.zeros.write 0 absoluteValue.target.bootstrap.stackBase).enter
    (BitVec.ofNat 16 (absoluteValueLayout.address 0)) 0

/-- From a memory of zeros, the machine goes through the startup code, the call, the branch and the
return to the end of the program; the frame of the entry function is still on the stack, and the
absolute value of minus seven is in the first cell for statics. -/
theorem absoluteValue_kept :
    absoluteValue.target = Target.hack ∧
      absoluteValue.commands = .ok absoluteValueCommands ∧
      absoluteValue.blocks = .ok absoluteValueBlocks ∧
      declaredNames absoluteValueCommands = ["abs", "below", "Sys.init"] ∧
      Block.size absoluteValueBlocks.flatten ≤ Word.maxLiteral ∧
      ∃ final, Program.assemble absoluteValueBlocks.flatten = .ok absoluteValueProgram ∧
        Machine.Reaches absoluteValueProgram {} final ∧
        final.atEnd absoluteValueProgram = true ∧
        final.memory.read 0 = 261 ∧ final.memory.read 16 = 7 := by
  -- One evaluation for all, since the parts share the lowered job.
  obtain ⟨parsed, lowered, names, small, enters, travels⟩ :
      absoluteValue.commands = .ok absoluteValueCommands ∧
      absoluteValue.blocks = .ok absoluteValueBlocks ∧
      declaredNames absoluteValueCommands = ["abs", "below", "Sys.init"] ∧
      Block.size absoluteValueBlocks.flatten ≤ Word.maxLiteral ∧
      absoluteValueLayout.Arrives 0 (.declaration "Sys.init") 11 ∧
      (absoluteValueLayout.travel? absoluteValueStart
          [12, 13, 14, 0, 1, 2, 3, 4, 7, 8, 9, 10, 15, 16]).map
          (fun state => (state.position, state.memory.read 0, state.memory.read 16)) =
        some (absoluteValueCommands.length, 261, 7) := by
    decide +kernel
  have distinct : (declaredNames absoluteValueCommands).Nodup := by
    rw [names]
    decide
  obtain ⟨program, assembled, -, starts, follows, ends⟩ :=
    Job.machine_simulates_stack_program rfl parsed lowered distinct small
  obtain rfl : absoluteValueProgram = program := by
    rw [absoluteValueProgram, assembled]
    rfl
  have entered : absoluteValue.Starts absoluteValueLayout Memory.zeros absoluteValueStart := by
    have wanted : absoluteValue.bootstrap = true := rfl
    rw [Job.Starts, if_pos wanted]
    exact ⟨rfl, enters⟩
  obtain ⟨machine, started, related⟩ := starts {} absoluteValueStart rfl entered
  obtain ⟨last, travelled, shown⟩ := Option.map_eq_some_iff.mp travels
  obtain ⟨ended, pointer, value⟩ : last.position = absoluteValueCommands.length ∧
      last.memory.read 0 = 261 ∧ last.memory.read 16 = 7 := by
    simpa only [Prod.mk.injEq] using shown
  have runs := StackProgram.exists_travel?_iff.mp ⟨_, travelled⟩
  obtain ⟨final, reached, matched⟩ := follows _ _ _ runs related
  refine ⟨rfl, parsed, lowered, names, small, final, assembled,
    Relation.ReflTransGen.trans started reached, ends _ _ matched ended, ?_, ?_⟩
  · rw [matched.memory.stackPointer]
    exact pointer
  · rw [matched.memory 16 (by decide)]
    exact value

end StackLowering

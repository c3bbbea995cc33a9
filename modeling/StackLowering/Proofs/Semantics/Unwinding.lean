import StackLowering.Proofs.Semantics.FrameChain
import StackLowering.Proofs.Semantics.Placement

/-!
# Returns undo calls

A call saves the frame of its caller, and a return restores it. The two are
written apart, and `Job.returns_undo_calls` says that they fit together for every
call and every return of a program. The state in which the return starts may have
come about in any way, as long as the frame that the call opened is still there;
the stack may even have shrunk into the frame or below it.
-/

namespace StackLowering

namespace Memory

/-- The frame that a call opened is still there: the local and the argument pointer are where the
call put them, and the saved cells are as the call left them. -/
structure Framed (before called : Memory) (arguments : Word) (memory : Memory) : Prop where
  locals : memory.read 1 = before.read 0 + 5
  argument : memory.read 2 = before.read 0 - arguments
  saved : ∀ cell : Word, (before.read 0).toNat ≤ cell.toNat →
    cell.toNat < (before.read 0).toNat + 5 → memory.read cell = called.read cell

/-- What a return makes of a memory: the stack ends behind the returned value, which is in place of
the arguments, the pointers are those before the call, and all else is as it was, scratch cells
apart. -/
structure Unwound (before : Memory) (arguments : Word) (memory after : Memory) : Prop where
  pointer : after.read 0 = before.read 0 - arguments + 1
  result : after.read (before.read 0 - arguments) = memory.read (memory.read 0 - 1)
  pointers : ∀ cell ∈ ([1, 2, 3, 4] : List Word), after.read cell = before.read cell
  other : ∀ cell : Word, cell ∉ ([0, 1, 2, 3, 4, 13, 14] : List Word) →
    cell ≠ before.read 0 - arguments → after.read cell = memory.read cell

variable {before called memory after : Memory} {arguments : Word}

/-- The first argument is above the pointers and the scratch cells. -/
theorem Framed.toNat_argument (framed : Framed before called arguments memory)
    (room : arguments.toNat + 16 ≤ (before.read 0).toNat) :
    (memory.read 2).toNat + arguments.toNat = (before.read 0).toNat := by
  rw [framed.argument, BitVec.toNat_sub_of_le (by rw [BitVec.le_def]; omega)]
  omega

/-- In its frame, a function finds its locals behind the five saved cells. -/
theorem Framed.toNat_locals (framed : Framed before called arguments memory)
    (fits : (before.read 0).toNat + 5 ≤ 32767) :
    (memory.read 1).toNat = (before.read 0).toNat + 5 := by
  rw [framed.locals, BitVec.toNat_add]
  change ((before.read 0).toNat + 5) % 65536 = _
  omega

/-- The frame of a call is intact as long as it is there. -/
theorem Framed.intact (framed : Framed before called arguments memory) {stack : StackProgram}
    {resume : Nat}
    (entered : before.Entered (BitVec.ofNat 16 (stack.address resume)) arguments called)
    (resumes : resume ≤ stack.commands.length) :
    (Frame.opened before arguments resume).Intact stack memory :=
  (Frame.intact_opened entered resumes).of_kept framed.saved

end Memory

/-- Returns are guarded, if the returned value, the arguments and the frame are above the scratch
cells. -/
theorem Command.guarded_ret {memory : Memory} (top : 16 ≤ (memory.read 0 - 1).toNat)
    (low : 16 ≤ (memory.read 2).toNat) (frame : 21 ≤ (memory.read 1).toNat) :
    Command.ret.Guarded memory := by
  have saved : ∀ {distance : Word}, distance.toNat ≤ 5 →
      memory.read 1 - distance ∉ scratchCells := by
    intro distance near
    apply not_mem_scratchCells
    rw [BitVec.toNat_sub_of_le (by rw [BitVec.le_def]; omega)]
    omega
  refine ⟨?_, fun _ few => absurd few (Nat.not_lt_zero _)⟩
  simp only [workCells, List.forall_mem_cons]
  exact ⟨not_mem_scratchCells top, not_mem_scratchCells low, saved (by decide), saved (by decide),
    saved (by decide), saved (by decide), saved (by decide), by simp⟩

/-- A return in the frame of a call restores what was before the call. -/
theorem Memory.Unwound.of_left {stack : StackProgram} {before memory after final : Memory}
    {arguments : Word} {resume : Nat} (base : memory.read 2 = before.read 0 - arguments)
    (low : 16 ≤ (memory.read 2).toNat)
    (locals : (memory.read 1).toNat = (before.read 0).toNat + 5)
    (intact : (Frame.opened before arguments resume).Intact stack memory)
    (left : memory.Left after) (agrees : final.Agrees after) :
    Unwound before arguments memory final where
  pointer := by rw [agrees.stackPointer, left.pointer, base]
  result := by rw [← base, agrees _ (not_mem_scratchCells low), left.result]
  pointers := by
    intro cell pointer
    simp only [List.mem_cons, List.not_mem_nil, or_false] at pointer
    rcases pointer with rfl | rfl | rfl | rfl
    · rw [agrees.locals, left.locals, intact.read_saved locals 1 rfl rfl, Frame.opened]
    · rw [agrees.argument, left.argument, intact.read_saved locals 2 rfl rfl, Frame.opened]
    · rw [agrees.this, left.this, intact.read_saved locals 3 rfl rfl, Frame.opened]
    · rw [agrees.that, left.that, intact.read_saved locals 4 rfl rfl, Frame.opened]
  other := by
    intro cell apart notBase
    rw [agrees cell, left.other cell _ (base ▸ notBase)]
    · intro member
      exact apart (List.mem_append_left ([13, 14] : List Word) member)
    · intro member
      exact apart (List.mem_append_right ([0, 1, 2, 3, 4] : List Word) member)

namespace StackProgram.InstalledIn

variable {stack : StackProgram} {program : Program}

/-- The block of an installed call leads to the function, and has entered it. -/
theorem crosses_call (installed : stack.InstalledIn program) {position : Nat}
    {placed : PlacedCommand} (found : stack.commands[position]? = some placed) {name : String}
    {arguments : Word} (calls : placed.command.value = .call name arguments)
    (declared : name ∈ declaredNames stack.commands) {machine : Machine}
    (starts : machine.counter = stack.address position)
    (low : 5 ≤ (machine.memory.read 0).toNat)
    (fits : (machine.memory.read 0).toNat + 5 ≤ 32767) :
    ∃ entry called, program.labelAddress? name = some entry ∧
      Machine.Crosses program (stack.address position) (stack.address (position + 1)) machine
        called ∧
      called.counter = entry ∧
      machine.memory.Entered (BitVec.ofNat 16 (stack.address (position + 1))) arguments
        called.memory := by
  obtain ⟨inside, -⟩ := List.getElem?_eq_some_iff.mp found
  obtain ⟨issued, block, lowers, holds, next⟩ := installed.code found
  obtain ⟨destination, arrives⟩ := arrives_declaration declared position
  obtain ⟨bounded, goes⟩ := installed.destination_of_arrives arrives inside
  have left := installed.address_outside inside bounded
  obtain ⟨declarer, declarerFound, declares⟩ := arrives
  have label := installed.labelAddress?_declared declarerFound declares
  have guarded : (Command.call name arguments).Guarded machine.memory :=
    guarded_call (by omega) (by omega) name arguments
  rw [calls] at lowers
  cases lowers with
  | call code =>
    rw [next] at left goes ⊢
    obtain ⟨called, crosses, counter, memory⟩ :=
      Lowering.crosses_call installed.names code holds starts guarded.above goes left
    refine ⟨_, called, label, crosses, counter, ?_⟩
    rw [memory]
    exact Memory.entered_enter low (by omega) _ _

/-- The block of an installed return restores what was before a call whose frame is still there. -/
theorem crosses_ret (installed : stack.InstalledIn program) {position resume : Nat}
    {placed : PlacedCommand} (found : stack.commands[position]? = some placed)
    (returns : placed.command.value = .ret) (resumes : resume ≤ stack.commands.length)
    {before called : Memory} {arguments : Word}
    (entered : before.Entered (BitVec.ofNat 16 (stack.address resume)) arguments called)
    (room : arguments.toNat + 16 ≤ (before.read 0).toNat)
    (fits : (before.read 0).toNat + 5 ≤ 32767) {machine : Machine}
    (starts : machine.counter = stack.address position)
    (framed : before.Framed called arguments machine.memory)
    (top : 16 ≤ (machine.memory.read 0 - 1).toNat) :
    ∃ final, Machine.Crosses program (stack.address position) (stack.address (position + 1))
        machine final ∧
      final.counter = stack.address resume ∧
      before.Unwound arguments machine.memory final.memory := by
  have argument := framed.toNat_argument room
  have locals := framed.toNat_locals fits
  have intact := framed.intact entered resumes
  have positive : machine.memory.read 0 - 1 ≠ 0 := by
    intro zero
    rw [zero] at top
    exact absurd top (by decide)
  have left := Memory.left_leave positive (by omega) (by omega)
  obtain ⟨final, crosses, counter, agrees⟩ := installed.crosses found starts
    (by rw [returns]; exact Command.guarded_ret top (by omega) (by omega))
    (by rw [perform, returns]; rfl) (intact.arrives_resume locals installed position)
  exact ⟨final, crosses, counter,
    .of_left framed.argument (by omega) locals intact left agrees⟩

end StackProgram.InstalledIn

/-- The block of a call has one label, which stands behind it. -/
theorem Listing.exists_returnLabel {job : Job} (listing : Listing job) {program : Program}
    (assembled : Program.assemble listing.blocks.flatten = .ok program) {position : Nat}
    {placed : PlacedCommand} (found : listing.commands[position]? = some placed) {name : String}
    {arguments : Word} (calls : placed.command.value = .call name arguments) :
    ∃ block returnLabel, listing.blocks[job.startupCount + position]? = some block ∧
      Block.labels block = [returnLabel] ∧
      program.labelAddress? returnLabel =
        some (job.blockAddress listing.blocks (position + 1)) := by
  obtain ⟨row, rowFound, rfl⟩ := listing.exists_row found
  have block := listing.getElem?_blocks rowFound
  have holds := Program.holds_of_getElem? (Program.holds_of_assemble assembled) block
  rw [row.holds_block] at holds
  have next : job.blockAddress listing.blocks (position + 1) =
      job.blockAddress listing.blocks position + row.code.size := by
    rw [← row.size_block job.annotate]
    exact Block.size_take_succ block
  have labels := row.labels_block job.annotate
  have lowers := row.lowers
  rw [calls] at labels lowers
  generalize row.issued = issued at labels lowers
  generalize row.code = code at holds next lowers
  cases lowers with
  | call calling =>
    refine ⟨_, _, block, labels, ?_⟩
    rw [next]
    exact calling.labelAddress? holds

/-- Returns undo calls. In a job for the usual target whose declared names are distinct and whose
code fits, the block of a call of a declared name leads to the label of that name and has entered
the function, with the address of the return label saved. From any state in which the frame of the
call is still there, the block of any return leads to that label and has restored what was before
the call. -/
theorem Job.returns_undo_calls {job : Job} {commands : List PlacedCommand} {blocks : List Block}
    (usual : job.target = Target.hack) (parsed : job.commands = .ok commands)
    (lowered : job.blocks = .ok blocks) (distinct : (declaredNames commands).Nodup)
    (small : Block.size blocks.flatten ≤ Word.maxLiteral) :
    ∃ program, Program.assemble blocks.flatten = .ok program ∧
      ∀ position placed name arguments machine, commands[position]? = some placed →
        placed.command.value = .call name arguments → name ∈ declaredNames commands →
        machine.counter = job.blockAddress blocks position →
        arguments.toNat + 16 ≤ (machine.memory.read 0).toNat →
        (machine.memory.read 0).toNat + 5 ≤ 32767 →
        ∃ block returnLabel returnAddress entry called,
          blocks[job.startupCount + position]? = some block ∧
          Block.labels block = [returnLabel] ∧
          program.labelAddress? returnLabel = some returnAddress ∧
          program.labelAddress? name = some entry ∧
          Machine.Crosses program (job.blockAddress blocks position)
            (job.blockAddress blocks (position + 1)) machine called ∧
          called.counter = entry ∧
          machine.memory.Entered (BitVec.ofNat 16 returnAddress) arguments called.memory ∧
          ∀ returning returner later, commands[returning]? = some returner →
            returner.command.value = .ret →
            later.counter = job.blockAddress blocks returning →
            machine.memory.Framed called.memory arguments later.memory →
            16 ≤ (later.memory.read 0 - 1).toNat →
            ∃ final, Machine.Crosses program (job.blockAddress blocks returning)
                (job.blockAddress blocks (returning + 1)) later final ∧
              final.counter = returnAddress ∧
              machine.memory.Unwound arguments later.memory final.memory := by
  obtain ⟨listing, rfl⟩ := Job.exists_listing lowered
  obtain rfl := listing.commands_eq parsed
  obtain ⟨program, assembled⟩ :=
    Program.exists_assemble_eq_ok_iff.mpr (listing.nodup_labels_iff.mpr distinct)
  have installed := listing.installed usual assembled small
  refine ⟨program, assembled, ?_⟩
  intro position placed name arguments machine found calls declared starts room fits
  obtain ⟨block, returnLabel, blockFound, labels, returnAddress⟩ :=
    listing.exists_returnLabel assembled found calls
  obtain ⟨entry, called, label, crosses, counter, entered⟩ :=
    installed.crosses_call found calls declared starts (by omega) fits
  obtain ⟨inside, -⟩ := List.getElem?_eq_some_iff.mp found
  refine ⟨block, returnLabel, _, entry, called, blockFound, labels, returnAddress, label, crosses,
    counter, entered, ?_⟩
  intro returning returner later returnerFound returns laterStarts framed top
  exact installed.crosses_ret returnerFound returns inside entered room fits laterStarts framed top

/-- A job with a call without arguments and a return. -/
def bareCall : Job where
  units := [⟨"Main", "call f 0\nlabel f\nreturn"⟩]

/-- The commands of that job. -/
def bareCallCommands : List PlacedCommand :=
  [⟨"Main", 1, ⟨.call "f" 0, ⟨0, 8⟩⟩⟩, ⟨"Main", 2, ⟨.label "f", ⟨9, 16⟩⟩⟩,
    ⟨"Main", 3, ⟨.ret, ⟨17, 23⟩⟩⟩]

/-- The blocks of that job. -/
def bareCallBlocks : List Block :=
  [Lowering.call Target.hack ⟨"LCL", "ARG", "THIS", "THAT"⟩ "f" 5 "Main_1_return_0",
    [.label "f"], Lowering.ret Target.hack ⟨"LCL", "ARG", "THIS", "THAT"⟩]

/-- Without arguments the returned value goes where the return address was saved, and yet the
return finds its way back. -/
theorem bareCall_returns :
    bareCall.target = Target.hack ∧ bareCall.commands = .ok bareCallCommands ∧
      bareCall.blocks = .ok bareCallBlocks ∧ (declaredNames bareCallCommands).Nodup ∧
      Block.size bareCallBlocks.flatten ≤ Word.maxLiteral ∧
      ∃ program called final, Program.assemble bareCallBlocks.flatten = .ok program ∧
        Machine.Reaches program { memory := Memory.zeros.write 0 256 } called ∧
        program.labelAddress? "f" = some called.counter ∧
        called.memory.read 256 = BitVec.ofNat 16 final.counter ∧
        Machine.Reaches program
          { memory := (called.memory.write 261 7).write 0 262, counter := 42 } final ∧
        program.labelAddress? "Main_1_return_0" = some final.counter ∧
        final.memory.read 0 = 257 ∧ final.memory.read 256 = 7 := by
  have parsed : bareCall.commands = .ok bareCallCommands := by decide +kernel
  have lowered : bareCall.blocks = .ok bareCallBlocks := by decide +kernel
  have distinct : (declaredNames bareCallCommands).Nodup := by decide
  have small : Block.size bareCallBlocks.flatten ≤ Word.maxLiteral := by decide +kernel
  obtain ⟨program, assembled, undone⟩ :=
    Job.returns_undo_calls rfl parsed lowered distinct small
  have pointer : (Memory.zeros.write 0 256).read 0 = 256 := Memory.read_write_same ..
  generalize Memory.zeros.write 0 256 = memory at pointer
  obtain ⟨block, returnLabel, returnAddress, entry, called, blockFound, labels, returnsTo, label,
    crosses, counter, entered, returns⟩ := undone 0 _ "f" 0 { memory := memory } rfl rfl
    (by decide) rfl (by rw [pointer]; decide) (by rw [pointer]; decide)
  cases blockFound
  cases labels
  change memory.Entered _ _ _ at entered
  have start : (memory.read 0).toNat = 256 := congrArg BitVec.toNat pointer
  have top : called.memory.read 0 = 261 := by
    apply BitVec.eq_of_toNat_eq
    rw [entered.pointer, start]
    rfl
  have kept : ∀ {cell : Word}, cell ≠ 0 → cell ≠ 261 →
      ((called.memory.write 261 7).write 0 262).read cell = called.memory.read cell := by
    intro cell nonzero other
    rw [Memory.read_write_other _ _ nonzero, Memory.read_write_other _ _ other]
  obtain ⟨final, crossesBack, ends, unwound⟩ := returns 2 _
    { memory := (called.memory.write 261 7).write 0 262, counter := 42 } rfl rfl
    (show 42 = bareCall.blockAddress bareCallBlocks 2 by decide +kernel)
    { locals := by
        rw [kept (by decide) (by decide), entered.locals, top, pointer]
        rfl
      argument := by rw [kept (by decide) (by decide), entered.argument]
      saved := by
        intro cell low high
        rw [start] at low high
        apply kept
        · rintro rfl
          exact absurd low (by decide)
        · rintro rfl
          exact absurd high (by decide) }
    (by rw [Memory.read_write_same]; decide)
  change memory.Unwound _ _ _ at unwound
  have base : memory.read 0 - 0 = 256 := by
    rw [pointer]
    rfl
  refine ⟨rfl, parsed, lowered, distinct, small, program, called, final, assembled,
    crosses.reaches, by rw [label, counter], ?_, crossesBack.reaches, by rw [returnsTo, ends], ?_,
    ?_⟩
  · rw [ends]
    exact entered.saved 256 0 _ start.symm rfl
  · rw [unwound.pointer, base]
    rfl
  · rw [← base, unwound.result, Memory.read_write_same]
    show ((called.memory.write 261 7).write 0 262).read 261 = 7
    rw [Memory.read_write_other _ _ (by decide), Memory.read_write_same]

end StackLowering

import StackLowering.Proofs.Lowering.Shape
import StackLowering.Proofs.Machine.Crossing
import StackLowering.Proofs.Semantics.Reference

/-!
# What straight code does

The effects of the straight pieces of generated code on the registers and the
memory, in terms of the operations that give commands their meaning. Pieces are
evaluated for any target and any values of symbols where that is possible, and
put together for the usual target, where `CellNames` gives the cells their
places.
-/

namespace StackLowering

open Machine (passAll)

/-- Symbols that stand for the cells of the usual target. -/
structure CellNames (value : String → Word) : Prop where
  stack : value "SP" = 0
  locals : value "LCL" = 1
  argument : value "ARG" = 2
  this : value "THIS" = 3
  that : value "THAT" = 4
  frame : value "R13" = 13
  returnAddress : value "R14" = 14

namespace Location

/-- The cell at a location, if symbols have the given values. A literal is in no cell. -/
def cell? (value : String → Word) (memory : Memory) : Location → Option Word
  | .literal _ => none
  | .indirect pointer index => some (memory.read (value pointer) + index)
  | .absolute address => some address
  | .symbol name => some (value name)

/-- The first element behind a pointer is in the cell to which it points. -/
theorem cell?_indirect_zero (value : String → Word) (memory : Memory) (pointer : String) :
    (indirect pointer 0).cell? value memory = some (memory.read (value pointer)) :=
  congrArg some (BitVec.add_zero _)

end Location

namespace Lowering

section Pieces

variable (target : Target) (value : String → Word) (machine : Machine)

/-- Code that fetches a value does not jump. -/
theorem straight_fetch (location : Location) :
    (fetch location).all Instruction.isStraight = true := by
  cases location with
  | indirect pointer index =>
    simp only [fetch]
    split <;> rfl
  | _ => rfl

/-- Pushing increments the stack pointer before it stores the value below. -/
theorem passAll_pushData :
    passAll value (pushData target) machine =
      { memory :=
          (machine.memory.write (value target.stackPointer)
            (machine.memory.read (value target.stackPointer) + 1)).write
            (machine.memory.read (value target.stackPointer)) machine.data
        address := machine.memory.read (value target.stackPointer)
        data := machine.data
        counter := machine.counter + 4 } := by
  have evaluated : passAll value (pushData target) machine =
      { memory :=
          (machine.memory.write (value target.stackPointer)
            (machine.memory.read (value target.stackPointer) + 1)).write
            ((machine.memory.write (value target.stackPointer)
              (machine.memory.read (value target.stackPointer) + 1)).read
              (value target.stackPointer) - 1) machine.data
        address := (machine.memory.write (value target.stackPointer)
          (machine.memory.read (value target.stackPointer) + 1)).read
          (value target.stackPointer) - 1
        data := machine.data
        counter := machine.counter + 4 } := rfl
  rw [evaluated, Memory.read_write_same, BitVec.add_sub_cancel]

/-- Popping leaves the address of the popped cell loaded. -/
theorem passAll_popData :
    passAll value (popData target) machine =
      { memory := machine.memory.write (value target.stackPointer)
          (machine.memory.read (value target.stackPointer) - 1)
        address := machine.memory.read (value target.stackPointer) - 1
        data := (machine.memory.write (value target.stackPointer)
          (machine.memory.read (value target.stackPointer) - 1)).read
          (machine.memory.read (value target.stackPointer) - 1)
        counter := machine.counter + 3 } := rfl

end Pieces

/-- Fetching from a cell brings its value into the data register. -/
theorem passAll_fetch {value : String → Word} {machine : Machine} {location : Location}
    {cell : Word} (found : location.cell? value machine.memory = some cell) :
    (passAll value (fetch location) machine).memory = machine.memory ∧
      (passAll value (fetch location) machine).data = machine.memory.read cell := by
  cases location with
  | literal word => cases found
  | absolute address =>
    cases found
    exact ⟨rfl, rfl⟩
  | symbol name =>
    cases found
    exact ⟨rfl, rfl⟩
  | indirect pointer index =>
    by_cases first : index = 0
    · subst first
      rw [Location.cell?_indirect_zero] at found
      cases found
      exact ⟨rfl, rfl⟩
    · cases found
      simp only [fetch, if_neg first]
      exact ⟨rfl, rfl⟩

/-! ## The usual target -/

/-- Away from the stack pointer itself, the order of storing and incrementing is immaterial. -/
theorem write_write_eq_push {memory : Memory} (above : memory.read 0 ≠ 0) (value : Word) :
    (memory.write 0 (memory.read 0 + 1)).write (memory.read 0) value = memory.push value := by
  have kept : (memory.write (memory.read 0) value).read 0 = memory.read 0 :=
    Memory.read_write_other _ _ above.symm
  unfold Memory.push
  dsimp only
  rw [kept]
  refine Memory.ext fun cell => ?_
  simp only [Memory.read_write]
  by_cases atTop : cell = memory.read 0
  · rw [if_pos atTop, if_neg (by rw [atTop]; exact above), if_pos atTop]
  · rw [if_neg atTop, if_neg atTop]

variable {value : String → Word}

/-- Pushing the data register. -/
theorem memory_pushData (names : CellNames value) {machine : Machine}
    (above : machine.memory.read 0 ≠ 0) :
    (passAll value (pushData Target.hack) machine).memory = machine.memory.push machine.data := by
  have stack : value Target.hack.stackPointer = 0 := names.stack
  rw [passAll_pushData, stack]
  exact write_write_eq_push above machine.data

/-- Popping into the data register. -/
theorem popData_eq (names : CellNames value) (machine : Machine) :
    passAll value (popData Target.hack) machine =
      { memory := machine.memory.drop
        address := machine.memory.read 0 - 1
        data := machine.memory.drop.exposed
        counter := machine.counter + 3 } := by
  have stack : value Target.hack.stackPointer = 0 := names.stack
  rw [passAll_popData, stack, Memory.exposed, Memory.read_drop_zero]
  rfl

/-- The pointers of the usual target stand for the cells through which their segments are
addressed. -/
theorem cell?_of_indirect (names : CellNames value) {segment : MappedSegment} {pointer : String}
    (addressed : Target.hack.addressing segment = .indirect pointer) (statics : Word → Word)
    (memory : Memory) (index : Word) :
    (Segment.mapped segment).cell? statics memory index =
        some (memory.read (value pointer) + index) ∧
      value pointer ≠ 0 ∧ value pointer ∉ scratchCells := by
  cases segment with
  | argument =>
    cases addressed
    rw [names.argument]
    exact ⟨rfl, by decide, by decide⟩
  | locals =>
    cases addressed
    rw [names.locals]
    exact ⟨rfl, by decide, by decide⟩
  | this =>
    cases addressed
    rw [names.this]
    exact ⟨rfl, by decide, by decide⟩
  | that =>
    cases addressed
    rw [names.that]
    exact ⟨rfl, by decide, by decide⟩
  | pointer => cases addressed
  | temp => cases addressed

/-- An element at a fixed base is in the cell behind the base. -/
theorem cell?_of_fixed {segment : MappedSegment} {base : Word}
    (addressed : Target.hack.addressing segment = .fixed base) (statics : Word → Word)
    (memory : Memory) (index : Word) :
    (Segment.mapped segment).cell? statics memory index = some (base + index) := by
  cases segment <;> cases addressed <;> rfl

/-- Fetching brings the value of an element into the data register and changes no cell. -/
theorem fetch_eq (names : CellNames value) {unit : String} {statics : Word → Word}
    (allotted : ∀ index, value (Location.staticSymbol unit index) = statics index)
    {segment : Segment} {index : Word} {location : Location}
    (resolves : Location.Resolves Target.hack unit segment index location) (machine : Machine) :
    (passAll value (fetch location) machine).memory = machine.memory ∧
      (passAll value (fetch location) machine).data =
        match segment.cell? statics machine.memory index with
        | none => index
        | some cell => machine.memory.read cell := by
  cases resolves with
  | constant => exact ⟨rfl, rfl⟩
  | static =>
    have allotment : (Location.symbol (Location.staticSymbol unit index)).cell? value
        machine.memory = some (statics index) := congrArg some (allotted index)
    exact passAll_fetch allotment
  | indirect addressed =>
    rw [(cell?_of_indirect names addressed ..).1]
    exact passAll_fetch rfl
  | fixed addressed reachable =>
    rw [cell?_of_fixed addressed ..]
    exact passAll_fetch rfl

/-- The code of a pop is straight, and stores the exposed value in the cell of the element. An
element past the first one takes its address from a scratch cell, so the popped value must not
come from there. -/
theorem agrees_pop (names : CellNames value) {unit : String} {line : Nat}
    {statics : Word → Word}
    (allotted : ∀ index, value (Location.staticSymbol unit index) = statics index)
    {segment : Segment} {index : Word} {issued : List String} {block : Block}
    (lowers : Lowers Target.hack unit line (.pop segment index) issued block) {machine : Machine}
    (top : machine.memory.read 0 - 1 ∉ scratchCells) :
    block.all Instruction.isStraight = true ∧
      ∃ cell, segment.cell? statics machine.memory index = some cell ∧
        (passAll value block machine).memory.Agrees
          (machine.memory.drop.write cell machine.memory.drop.exposed) := by
  cases lowers with
  | @popFirst _ _ pointer resolves =>
    refine ⟨rfl, ?_⟩
    cases resolves with
    | indirect addressed =>
      obtain ⟨cell, notStack, -⟩ := cell?_of_indirect names addressed statics machine.memory 0
      refine ⟨_, cell, ?_⟩
      have memory : (passAll value (popData Target.hack ++
          [.symbol pointer, Instruction.assign "A" "M", Instruction.assign "M" "D"])
          machine).memory =
          machine.memory.drop.write (machine.memory.drop.read (value pointer))
            machine.memory.drop.exposed := by
        rw [Machine.passAll_append, popData_eq names]
        rfl
      have here : machine.memory.read (value pointer) + 0 = machine.memory.read (value pointer) :=
        BitVec.add_zero _
      rw [memory, Memory.read_drop_other _ notStack, here]
      exact .refl _
  | @popLater _ _ pointer distance resolves later =>
    refine ⟨rfl, ?_⟩
    cases resolves with
    | indirect addressed =>
      obtain ⟨cell, -, -⟩ := cell?_of_indirect names addressed statics machine.memory index
      refine ⟨_, cell, ?_⟩
      have frame : value Target.hack.scratch.frame = 13 := names.frame
      generalize address : machine.memory.read (value pointer) + index = destination
      have noted : (machine.memory.write 13 destination).Agrees machine.memory :=
        (Memory.Agrees.refl machine.memory).write_scratch (by decide) destination
      have kept : (machine.memory.write 13 destination).drop.read 13 = destination := by
        rw [Memory.read_drop_other _ (by decide), Memory.read_write_same]
      have exposed : (machine.memory.write 13 destination).drop.exposed =
          machine.memory.drop.exposed := by
        refine noted.drop.exposed ?_
        rw [Memory.read_drop_zero, noted.stackPointer]
        exact top
      have memory : (passAll value ([.symbol pointer, Instruction.assign "D" "M", .literal index,
          Instruction.assign "D" "D+A", .symbol Target.hack.scratch.frame,
          Instruction.assign "M" "D"] ++ popData Target.hack ++
          [.symbol Target.hack.scratch.frame, Instruction.assign "A" "M",
            Instruction.assign "M" "D"]) machine).memory =
          (machine.memory.write 13 destination).drop.write
            ((machine.memory.write 13 destination).drop.read 13)
            (machine.memory.write 13 destination).drop.exposed := by
        rw [Machine.passAll_append, Machine.passAll_append, popData_eq names, ← frame, ← address]
        rfl
      rw [memory, kept, exposed]
      exact noted.drop.write _ _
  | popAbsolute resolves =>
    refine ⟨rfl, ?_⟩
    cases resolves with
    | fixed addressed reachable =>
      refine ⟨_, cell?_of_fixed addressed .., ?_⟩
      rw [Machine.passAll_append, popData_eq names]
      exact .refl _
  | popSymbol resolves =>
    refine ⟨rfl, ?_⟩
    cases resolves with
    | static =>
      refine ⟨_, rfl, ?_⟩
      rw [Machine.passAll_append, popData_eq names, ← allotted]
      exact .refl _

/-- A binary operation replaces the two topmost values. -/
theorem memory_binary (names : CellNames value) (operator : BinaryOperator) (machine : Machine) :
    (passAll value (binary Target.hack operator) machine).memory =
      machine.memory.combine operator.value := by
  unfold binary Memory.combine Memory.mapTop
  rw [Machine.passAll_append, popData_eq names, Memory.read_drop_zero]
  cases operator with
  | add => exact congrArg (machine.memory.drop.write _) (BitVec.add_comm ..)
  | sub => rfl
  | and => exact congrArg (machine.memory.drop.write _) (BitVec.and_comm ..)
  | or => exact congrArg (machine.memory.drop.write _) (BitVec.or_comm ..)

/-- A unary operation replaces the topmost value. -/
theorem memory_unary (names : CellNames value) (operator : UnaryOperator) (machine : Machine) :
    (passAll value (unary Target.hack operator) machine).memory =
      machine.memory.mapTop operator.value := by
  have stack : value Target.hack.stackPointer = 0 := names.stack
  unfold Memory.mapTop
  rw [← stack]
  cases operator with
  | neg => rfl
  | not => rfl

/-- After a push the stack pointer is one higher. -/
theorem read_push_zero {memory : Memory} (above : memory.read 0 ≠ 0) (pushed : Word) :
    (memory.push pushed).read 0 = memory.read 0 + 1 := by
  unfold Memory.push
  dsimp only
  rw [Memory.read_write_same, Memory.read_write_other _ _ above.symm]

/-- The code of a declared function does not jump. -/
theorem straight_function (target : Target) (name : String) (locals : Word) :
    (function target name locals).all Instruction.isStraight = true := by
  have zero : (pushZero target).all Instruction.isStraight = true := rfl
  have label : (Instruction.label name).isStraight = true := rfl
  rw [function, List.all_cons, label, Bool.true_and, List.all_flatten, List.all_eq_true]
  intro block member
  rw [List.eq_of_mem_replicate member]
  exact zero

/-- One cell further from the start is one cell less to go. -/
theorem add_ofNat_succ (word : Word) (count : Nat) :
    word + BitVec.ofNat 16 (count + 1) = word + 1 + BitVec.ofNat 16 count := by
  rw [BitVec.ofNat_add, BitVec.add_comm (BitVec.ofNat 16 count), ← BitVec.add_assoc]
  rfl

/-- The entry of a function pushes its zeros one after the other. -/
theorem memory_function (names : CellNames value) (name : String) (locals : Word)
    {machine : Machine}
    (above : ∀ count < locals.toNat, machine.memory.read 0 + BitVec.ofNat 16 count ≠ 0) :
    (passAll value (function Target.hack name locals) machine).memory =
      machine.memory.pushZeros locals.toNat := by
  unfold function
  rw [Machine.passAll_cons, show Machine.pass value machine (.label name) = machine from rfl]
  generalize locals.toNat = count at above
  induction count generalizing machine with
  | zero => rfl
  | succ count inductionHypothesis =>
    have first : machine.memory.read 0 ≠ 0 := by
      have := above 0 (by omega)
      rwa [BitVec.add_zero] at this
    have pushed : (passAll value (pushZero Target.hack) machine).memory =
        machine.memory.push 0 := by
      unfold pushZero
      rw [Machine.passAll_append]
      exact memory_pushData names first
    rw [List.replicate_succ, List.flatten_cons, Machine.passAll_append, inductionHypothesis]
    · rw [pushed]
      rfl
    · intro later bound
      rw [pushed, read_push_zero first, ← add_ofNat_succ]
      exact above (later + 1) (by omega)

/-! ## The calling convention -/

/-- The code of a call up to its jump. -/
def callFront (target : Target) (pointers : FramePointers) (name : String) (offset : Word)
    (returnLabel : String) : Block :=
  ([.symbol returnLabel, Instruction.assign "D" "A"] ++ pushData target) ++
    (saveCell target pointers.locals ++ (saveCell target pointers.argument ++
      (saveCell target pointers.this ++ (saveCell target pointers.that ++
        [.symbol target.stackPointer, Instruction.assign "D" "M", .literal offset,
          Instruction.assign "D" "D-A", .symbol pointers.argument, Instruction.assign "M" "D",
          .symbol target.stackPointer, Instruction.assign "D" "M", .symbol pointers.locals,
          Instruction.assign "M" "D", .symbol name]))))

/-- The code of a call jumps to the function in front of the label to return to. -/
theorem call_eq (target : Target) (pointers : FramePointers) (name : String) (offset : Word)
    (returnLabel : String) :
    call target pointers name offset returnLabel =
      callFront target pointers name offset returnLabel ++
        [Instruction.jump, .label returnLabel] := rfl

/-- Up to its jump, the code of a call is straight. -/
theorem straight_callFront (target : Target) (pointers : FramePointers) (name : String)
    (offset : Word) (returnLabel : String) :
    (callFront target pointers name offset returnLabel).all Instruction.isStraight = true := rfl

/-- The pointers of the usual target. -/
theorem FramePointers.Address.eq {pointers : FramePointers}
    (addressed : pointers.Address Target.hack) : pointers = ⟨"LCL", "ARG", "THIS", "THAT"⟩ := by
  obtain ⟨locals, argument, this, that⟩ := pointers
  obtain ⟨locals, argument, this, that⟩ := addressed
  cases locals
  cases argument
  cases this
  cases that
  rfl

/-- Saving a cell pushes its value. -/
theorem memory_saveCell (names : CellNames value) (cell : String) {machine : Machine}
    (above : machine.memory.read 0 ≠ 0) :
    (passAll value (saveCell Target.hack cell) machine).memory =
      machine.memory.pushCell (value cell) := by
  unfold saveCell
  rw [Machine.passAll_append]
  exact memory_pushData names above

/-- The first argument of a call lies below the other arguments and the five saved cells. -/
theorem argumentOffset_eq_ok {arguments offset : Word}
    (reach : argumentOffset arguments = .ok offset) : offset = arguments + 5 := by
  unfold argumentOffset at reach
  split at reach
  · cases reach
    rfl
  · cases reach

/-- Going down over arguments and a saved frame can be done in either order. -/
theorem sub_add_five (word arguments : Word) :
    word - (arguments + 5) = word - arguments - 5 := by
  grind

/-- A call saves the frame, opens a new one, and loads the address of the function. -/
theorem callFront_eq (names : CellNames value) (name : String) {arguments offset : Word}
    (reach : argumentOffset arguments = .ok offset) (returnLabel : String) {machine : Machine}
    (above : ∀ count < 5, machine.memory.read 0 + BitVec.ofNat 16 count ≠ 0) :
    (passAll value (callFront Target.hack ⟨"LCL", "ARG", "THIS", "THAT"⟩ name offset returnLabel)
        machine).memory = machine.memory.enter (value returnLabel) arguments ∧
      (passAll value (callFront Target.hack ⟨"LCL", "ARG", "THIS", "THAT"⟩ name offset
        returnLabel) machine).address = value name := by
  have stack : value Target.hack.stackPointer = 0 := names.stack
  -- One saved cell after the other: the stack pointer stays away from zero.
  have save : ∀ (current : Machine) (count : Nat) (cell : String), count < 5 →
      current.memory.read 0 = machine.memory.read 0 + BitVec.ofNat 16 count →
      (passAll value (saveCell Target.hack cell) current).memory =
          current.memory.pushCell (value cell) ∧
        (passAll value (saveCell Target.hack cell) current).memory.read 0 =
          machine.memory.read 0 + BitVec.ofNat 16 (count + 1) := by
    intro current count cell bound pointer
    have nonzero : current.memory.read 0 ≠ 0 := by
      rw [pointer]
      exact above count bound
    have saved := memory_saveCell names cell nonzero
    refine ⟨saved, ?_⟩
    rw [saved, Memory.pushCell, read_push_zero nonzero, pointer, BitVec.ofNat_add,
      ← BitVec.add_assoc]
    rfl
  unfold callFront
  rw [Machine.passAll_append, Machine.passAll_append, Machine.passAll_append,
    Machine.passAll_append, Machine.passAll_append, Machine.passAll_append]
  have first : machine.memory.read 0 ≠ 0 := by
    have := above 0 (by omega)
    rwa [BitVec.add_zero] at this
  have marked : (passAll value (pushData Target.hack) (passAll value
      [.symbol returnLabel, Instruction.assign "D" "A"] machine)).memory =
      machine.memory.push (value returnLabel) := memory_pushData names first
  have pointer := read_push_zero first (value returnLabel)
  rw [← marked] at pointer
  revert marked pointer
  generalize passAll value (pushData Target.hack) (passAll value
    [.symbol returnLabel, Instruction.assign "D" "A"] machine) = opened
  intro marked pointer
  obtain ⟨locals, pointer⟩ := save opened 1 "LCL" (by omega) pointer
  obtain ⟨argument, pointer⟩ := save _ 2 "ARG" (by omega) pointer
  obtain ⟨this, pointer⟩ := save _ 3 "THIS" (by omega) pointer
  obtain ⟨that, pointer⟩ := save _ 4 "THAT" (by omega) pointer
  refine ⟨?_, rfl⟩
  have moved : ∀ saved : Machine, (passAll value [.symbol Target.hack.stackPointer,
      Instruction.assign "D" "M", .literal offset, Instruction.assign "D" "D-A", .symbol "ARG",
      Instruction.assign "M" "D", .symbol Target.hack.stackPointer, Instruction.assign "D" "M",
      .symbol "LCL", Instruction.assign "M" "D", .symbol name] saved).memory =
      (saved.memory.write 2 (saved.memory.read 0 - offset)).copy 1 0 := by
    intro saved
    rw [← names.argument, ← names.locals, ← stack]
    rfl
  rw [moved, that, this, argument, locals, marked, names.locals, names.argument, names.this,
    names.that, argumentOffset_eq_ok reach, sub_add_five]
  rfl

/-- The part of a return that stores the returned value and ends the stack behind it. -/
def retOpening (target : Target) (pointers : FramePointers) : Block :=
  [.symbol pointers.locals, Instruction.assign "D" "M", .symbol target.scratch.frame,
      Instruction.assign "M" "D", .literal 5, Instruction.assign "A" "D-A",
      Instruction.assign "D" "M", .symbol target.scratch.returnAddress,
      Instruction.assign "M" "D"] ++
    (popData target ++
      [.symbol pointers.argument, Instruction.assign "A" "M", Instruction.assign "M" "D",
        .symbol pointers.argument, Instruction.assign "D" "M+1", .symbol target.stackPointer,
        Instruction.assign "M" "D"])

/-- The code of a return up to its jump. -/
def retFront (target : Target) (pointers : FramePointers) : Block :=
  retOpening target pointers ++
    (restoreCell target pointers.that ++ (restoreCell target pointers.this ++
      (restoreCell target pointers.argument ++ (restoreCell target pointers.locals ++
        [.symbol target.scratch.returnAddress, Instruction.assign "A" "M"]))))

/-- The code of a return ends with the jump to the caller. -/
theorem ret_eq (target : Target) (pointers : FramePointers) :
    ret target pointers = retFront target pointers ++ [Instruction.jump] := rfl

/-- Up to its jump, the code of a return is straight. -/
theorem straight_retFront (target : Target) (pointers : FramePointers) :
    (retFront target pointers).all Instruction.isStraight = true := rfl

/-- What a return keeps in the scratch cells while it restores the frame of the caller. -/
structure Restoring (frame address : Word) (current reference : Memory) : Prop where
  agrees : current.Agrees reference
  frame : current.read 13 = frame
  address : current.read 14 = address

/-- Restoring a cell copies the next saved value into it. -/
theorem Restoring.restoreCell (names : CellNames value) {frame address : Word} {machine : Machine}
    {reference : Memory} (restoring : Restoring frame address machine.memory reference)
    (saved : frame - 1 ∉ scratchCells) {name : String} {cell : Word} (named : value name = cell)
    (kept : cell ∉ scratchCells) :
    Restoring (frame - 1) address
      (passAll value (Lowering.restoreCell Target.hack name) machine).memory
      (reference.copy cell (frame - 1)) := by
  have scratch : value Target.hack.scratch.frame = 13 := names.frame
  have memory : (passAll value (Lowering.restoreCell Target.hack name) machine).memory =
      (machine.memory.write 13 (machine.memory.read 13 - 1)).copy cell
        (machine.memory.read 13 - 1) := by
    rw [← scratch, ← named]
    rfl
  rw [memory, restoring.frame]
  have counted : (machine.memory.write 13 (frame - 1)).Agrees reference :=
    restoring.agrees.write_scratch (by decide) _
  refine ⟨counted.copy cell saved, ?_, ?_⟩
  · rw [Memory.copy, Memory.read_write_other, Memory.read_write_same]
    rintro rfl
    exact kept (by decide)
  · rw [Memory.copy, Memory.read_write_other, Memory.read_write_other _ _ (by decide),
      restoring.address]
    rintro rfl
    exact kept (by decide)

/-- A return first notes the frame and the return address. -/
theorem restoring_noted {memory : Memory} (kept : memory.read 1 - 5 ∉ scratchCells) :
    Restoring (memory.read 1) (memory.read (memory.read 1 - 5))
      ((memory.write 13 (memory.read 1)).write 14
        ((memory.write 13 (memory.read 1)).read (memory.read 1 - 5))) memory := by
  have framed : (memory.write 13 (memory.read 1)).Agrees memory :=
    (Memory.Agrees.refl memory).write_scratch (by decide) _
  refine ⟨framed.write_scratch (by decide) _, ?_, ?_⟩
  · rw [Memory.read_write_other _ _ (by decide), Memory.read_write_same]
  · rw [Memory.read_write_same]
    exact framed _ kept

/-- The returned value goes over the arguments, and the stack ends behind it. -/
theorem Restoring.collapse {frame address : Word} {current reference : Memory}
    (restoring : Restoring frame address current reference)
    (top : reference.read 0 - 1 ∉ scratchCells) (destination : reference.read 2 ∉ scratchCells) :
    Restoring frame address
      ((current.drop.write (current.drop.read 2) current.drop.exposed).write 0
        ((current.drop.write (current.drop.read 2) current.drop.exposed).read 2 + 1))
      ((reference.drop.write (reference.drop.read 2) reference.drop.exposed).write 0
        ((reference.drop.write (reference.drop.read 2) reference.drop.exposed).read 2 + 1)) := by
  have dropped := restoring.agrees.drop
  have argument : reference.drop.read 2 = reference.read 2 :=
    Memory.read_drop_other _ (by decide)
  have exposed : current.drop.exposed = reference.drop.exposed := by
    refine (dropped.symm.exposed ?_).symm
    rw [Memory.read_drop_zero]
    exact top
  rw [exposed, dropped.argument, argument]
  have stored := dropped.write (reference.read 2) reference.drop.exposed
  rw [stored.argument]
  have kept : ∀ scratch ∈ scratchCells, scratch ≠ 0 → ∀ pointer,
      ((current.drop.write (reference.read 2) reference.drop.exposed).write 0 pointer).read
        scratch = current.read scratch := by
    intro scratch member nonzero pointer
    rw [Memory.read_write_other _ _ nonzero, Memory.read_write_other,
      Memory.read_drop_other _ nonzero]
    rintro rfl
    exact destination member
  refine ⟨stored.write _ _, ?_, ?_⟩
  · rw [kept 13 (by decide) (by decide), restoring.frame]
  · rw [kept 14 (by decide) (by decide), restoring.address]

/-- The opening of a return stores the result over the arguments and collapses the stack; the frame
pointer and the return address are then in the scratch cells. -/
theorem restoring_retOpening (names : CellNames value) {machine : Machine}
    (guarded : Command.Guarded machine.memory .ret) :
    Restoring (machine.memory.read 1) (machine.memory.read (machine.memory.read 1 - 5))
      (passAll value (retOpening Target.hack ⟨"LCL", "ARG", "THIS", "THAT"⟩) machine).memory
      ((machine.memory.drop.write (machine.memory.drop.read 2) machine.memory.drop.exposed).write 0
        ((machine.memory.drop.write (machine.memory.drop.read 2)
          machine.memory.drop.exposed).read 2 + 1)) := by
  have apart := guarded.apart
  simp only [Command.workCells, List.forall_mem_cons] at apart
  obtain ⟨top, destination, -, -, -, -, address, -⟩ := apart
  have stack : value Target.hack.stackPointer = 0 := names.stack
  have frameCell : value Target.hack.scratch.frame = 13 := names.frame
  have addressCell : value Target.hack.scratch.returnAddress = 14 := names.returnAddress
  have noted : (passAll value [.symbol "LCL", Instruction.assign "D" "M",
      .symbol Target.hack.scratch.frame, Instruction.assign "M" "D", .literal 5,
      Instruction.assign "A" "D-A", Instruction.assign "D" "M",
      .symbol Target.hack.scratch.returnAddress, Instruction.assign "M" "D"] machine).memory =
      (machine.memory.write 13 (machine.memory.read 1)).write 14
        ((machine.memory.write 13 (machine.memory.read 1)).read (machine.memory.read 1 - 5)) := by
    rw [← frameCell, ← addressCell, ← names.locals]
    rfl
  have stored : ∀ popped : Machine, (passAll value [.symbol "ARG", Instruction.assign "A" "M",
      Instruction.assign "M" "D", .symbol "ARG", Instruction.assign "D" "M+1",
      .symbol Target.hack.stackPointer, Instruction.assign "M" "D"] popped).memory =
      (popped.memory.write (popped.memory.read 2) popped.data).write 0
        ((popped.memory.write (popped.memory.read 2) popped.data).read 2 + 1) := by
    intro popped
    rw [← stack, ← names.argument]
    rfl
  unfold retOpening
  rw [Machine.passAll_append, Machine.passAll_append, popData_eq names, stored, noted]
  exact (restoring_noted address).collapse top destination

/-- Restoring all four cells copies the saved values of the frame. -/
theorem Restoring.restoreCells (names : CellNames value) {frame address : Word}
    {machine : Machine} {reference : Memory}
    (restoring : Restoring frame address machine.memory reference)
    (that : frame - 1 ∉ scratchCells) (this : frame - 2 ∉ scratchCells)
    (argument : frame - 3 ∉ scratchCells) (locals : frame - 4 ∉ scratchCells) :
    Restoring (frame - 4) address
      (passAll value (Lowering.restoreCell Target.hack "LCL")
        (passAll value (Lowering.restoreCell Target.hack "ARG")
          (passAll value (Lowering.restoreCell Target.hack "THIS")
            (passAll value (Lowering.restoreCell Target.hack "THAT") machine)))).memory
      ((((reference.copy 4 (frame - 1)).copy 3 (frame - 2)).copy 2 (frame - 3)).copy 1
        (frame - 4)) := by
  have two : frame - 1 - 1 = frame - 2 := by grind
  have three : frame - 2 - 1 = frame - 3 := by grind
  have four : frame - 3 - 1 = frame - 4 := by grind
  have first := restoring.restoreCell names that names.that (by decide)
  have second := first.restoreCell names (by rw [two]; exact this) names.this (by decide)
  rw [two] at second
  have third := second.restoreCell names (by rw [three]; exact argument) names.argument (by decide)
  rw [three] at third
  have fourth := third.restoreCell names (by rw [four]; exact locals) names.locals (by decide)
  rw [four] at fourth
  exact fourth

/-- A return restores the frame of the caller and loads the saved address. -/
theorem retFront_eq (names : CellNames value) {machine : Machine}
    (guarded : Command.Guarded machine.memory .ret) :
    (passAll value (retFront Target.hack ⟨"LCL", "ARG", "THIS", "THAT"⟩)
        machine).memory.Agrees machine.memory.leave ∧
      (passAll value (retFront Target.hack ⟨"LCL", "ARG", "THIS", "THAT"⟩) machine).address =
        machine.memory.read (machine.memory.read 1 - 5) := by
  have apart := guarded.apart
  simp only [Command.workCells, List.forall_mem_cons] at apart
  obtain ⟨-, -, that, this, argument, locals, -, -⟩ := apart
  have restored := (restoring_retOpening names guarded).restoreCells names that this argument
    locals
  have loaded : ∀ closed : Machine,
      (passAll value [.symbol Target.hack.scratch.returnAddress, Instruction.assign "A" "M"]
        closed).memory = closed.memory ∧
      (passAll value [.symbol Target.hack.scratch.returnAddress, Instruction.assign "A" "M"]
        closed).address = closed.memory.read 14 := by
    intro closed
    rw [← names.returnAddress]
    exact ⟨rfl, rfl⟩
  unfold retFront
  rw [Machine.passAll_append, Machine.passAll_append, Machine.passAll_append,
    Machine.passAll_append, Machine.passAll_append, (loaded _).1, (loaded _).2]
  exact ⟨restored.agrees, restored.address⟩

end Lowering

end StackLowering

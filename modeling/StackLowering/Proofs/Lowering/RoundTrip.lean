import StackLowering.Proofs.Lowering.Effects

/-!
# Pops undo pushes

Pushing an element of a segment and popping it again leaves the element and the
stack pointer as they were. `pop_undoes_push` says so for every target and every
element that has a cell. The cells that the code works with have to be different
ones, and the stack must not end in one of them; but the element itself may be in
any of these cells, or where the stack ends.
-/

namespace StackLowering

open Instruction (assign)
open Machine (passAll)

namespace Location

/-- The scratch cell in which a pop notes the address of an element past the first one. -/
def notes (target : Target) : Location → List String
  | .indirect _ index => if index = 0 then [] else [target.scratch.frame]
  | _ => []

/-- The location as a pop addresses it once it has noted what it has to. -/
def noted (target : Target) : Location → Location
  | .indirect pointer index =>
    if index = 0 then .indirect pointer 0 else .indirect target.scratch.frame 0
  | location => location

/-- The pointer through which a location is addressed. -/
def pointers : Location → List String
  | .indirect pointer _ => [pointer]
  | _ => []

/-- The cells that pushing from a location and popping to it works with. -/
def workCells (target : Target) (location : Location) : List String :=
  target.stackPointer :: (location.pointers ++ location.notes target)

/-- Where a location is depends on its pointer only. -/
theorem cell?_congr {value : String → Word} {memory other : Memory} {location : Location}
    (same : ∀ pointer ∈ location.pointers,
      other.read (value pointer) = memory.read (value pointer)) :
    location.cell? value other = location.cell? value memory := by
  cases location with
  | indirect pointer index => rw [cell?, cell?, same pointer (.head _)]
  | literal word => rfl
  | absolute address => rfl
  | symbol name => rfl

/-- Every location other than a literal is in a cell. -/
theorem exists_cell? {location : Location} (inCell : ∀ word, location ≠ .literal word)
    (value : String → Word) (memory : Memory) :
    ∃ cell, location.cell? value memory = some cell := by
  cases location with
  | literal word => exact absurd rfl (inCell word)
  | indirect pointer index => exact ⟨_, rfl⟩
  | absolute address => exact ⟨_, rfl⟩
  | symbol name => exact ⟨_, rfl⟩

/-- Only constants are in no cell. -/
theorem ne_literal_of_resolve {target : Target} {unit : String} {segment : Segment} {index : Word}
    {location : Location} (inMemory : segment ≠ .constant)
    (resolved : resolve target unit segment index = .ok location) (value : Word) :
    location ≠ .literal value := by
  cases resolves_of_resolve resolved with
  | constant => exact absurd rfl inMemory
  | static | indirect addressed | fixed addressed reachable =>
    rintro ⟨⟩

end Location

namespace Memory

/-- Writes to different cells may change places. -/
theorem write_comm (memory : Memory) {first second : Word} (apart : first ≠ second)
    (value other : Word) :
    (memory.write first value).write second other =
      (memory.write second other).write first value := by
  refine ext fun cell => ?_
  simp only [read_write]
  by_cases atFirst : cell = first
  · rw [if_pos atFirst, if_pos atFirst, if_neg (atFirst ▸ apart)]
  · rw [if_neg atFirst, if_neg atFirst]

/-- Writes one address to all scratch cells of a list. -/
def noting (memory : Memory) (scratch : List Word) (address : Word) : Memory :=
  scratch.foldl (fun memory note => memory.write note address) memory

/-- Noting an address leaves all cells but the scratch cells as they are. -/
theorem read_noting_other {scratch : List Word} {cell : Word} (unnoted : cell ∉ scratch)
    (memory : Memory) (address : Word) :
    (memory.noting scratch address).read cell = memory.read cell := by
  induction scratch generalizing memory with
  | nil => rfl
  | cons note rest inductionHypothesis =>
    rw [List.mem_cons, not_or] at unnoted
    rw [noting, List.foldl_cons, ← noting, inductionHypothesis unnoted.2,
      read_write_other _ _ unnoted.1]

/-- A noted address is found in every cell in which it was noted. -/
theorem read_noting {scratch : List Word} {note : Word} (noted : note ∈ scratch)
    (memory : Memory) (address : Word) :
    (memory.noting scratch address).read note = address := by
  induction scratch generalizing memory with
  | nil => cases noted
  | cons first rest inductionHypothesis =>
    by_cases again : note ∈ rest
    · exact inductionHypothesis again _
    · obtain rfl := (List.mem_cons.mp noted).resolve_right again
      rw [noting, List.foldl_cons, ← noting, read_noting_other again, read_write_same]

/-- A write elsewhere and the noting of an address may change places. -/
theorem noting_write {scratch : List Word} {cell : Word} (unnoted : cell ∉ scratch)
    (memory : Memory) (address value : Word) :
    (memory.write cell value).noting scratch address =
      (memory.noting scratch address).write cell value := by
  induction scratch generalizing memory with
  | nil => rfl
  | cons note rest inductionHypothesis =>
    rw [List.mem_cons, not_or] at unnoted
    rw [noting, noting, List.foldl_cons, List.foldl_cons, ← noting, ← noting,
      write_comm memory unnoted.1, inductionHypothesis unnoted.2]

/-- What a push and a pop of one element leave: its value is still where the stack ended between
them, and no other cell has changed, scratch cells apart. -/
structure RoundTrip (memory : Memory) (pointer cell : Word) (scratch : List Word)
    (after : Memory) : Prop where
  pushed : after.read (memory.read pointer) = memory.read cell
  element : after.read cell = memory.read cell
  stackPointer : after.read pointer = memory.read pointer
  other : ∀ address, address ≠ memory.read pointer → address ∉ scratch →
    after.read address = memory.read address

/-- Storing the value of an element in its own cell completes a round trip. -/
theorem roundTrip_write {memory : Memory} {pointer cell : Word} {scratch : List Word}
    (above : memory.read pointer ≠ pointer) (apart : pointer ∉ scratch) :
    memory.RoundTrip pointer cell scratch
      (((memory.noting scratch cell).write (memory.read pointer) (memory.read cell)).write cell
        (memory.read cell)) := by
  have other : ∀ address, address ≠ memory.read pointer → address ∉ scratch →
      (((memory.noting scratch cell).write (memory.read pointer) (memory.read cell)).write cell
        (memory.read cell)).read address = memory.read address := by
    intro address notTop unnoted
    rw [read_write]
    by_cases atCell : address = cell
    · rw [if_pos atCell, atCell]
    · rw [if_neg atCell, read_write_other _ _ notTop, read_noting_other unnoted]
  refine ⟨?_, read_write_same .., other pointer above.symm apart, other⟩
  rw [read_write]
  split
  · rfl
  · exact read_write_same ..

end Memory

namespace Lowering

variable {target : Target} {value : String → Word} {machine : Machine} {cell : Word}

/-- A memory after a value was pushed onto its stack. -/
def pushed (memory : Memory) (pointer pushedValue : Word) : Memory :=
  (memory.write pointer (memory.read pointer + 1)).write (memory.read pointer) pushedValue

/-- The code of a push pushes the value of the cell. -/
theorem memory_push {location : Location}
    (found : location.cell? value machine.memory = some cell) :
    (passAll value (fetch location ++ pushData target) machine).memory =
      pushed machine.memory (value target.stackPointer) (machine.memory.read cell) := by
  obtain ⟨memory, data⟩ := passAll_fetch found
  rw [Machine.passAll_append, passAll_pushData, memory, data]
  rfl

/-- Popping right after a push gives the value back, and leaves it where the stack ended. -/
theorem passAll_popData_pushed {memory : Memory} {pushedValue : Word}
    (above : memory.read (value target.stackPointer) ≠ value target.stackPointer)
    (after : machine.memory = pushed memory (value target.stackPointer) pushedValue) :
    passAll value (popData target) machine =
      { memory := memory.write (memory.read (value target.stackPointer)) pushedValue
        address := memory.read (value target.stackPointer)
        data := pushedValue
        counter := machine.counter + 3 } := by
  have pointer : machine.memory.read (value target.stackPointer) - 1 =
      memory.read (value target.stackPointer) := by
    rw [after, pushed, Memory.read_write_other _ _ above.symm, Memory.read_write_same,
      BitVec.add_sub_cancel]
  have dropped : machine.memory.write (value target.stackPointer)
      (memory.read (value target.stackPointer)) =
      memory.write (memory.read (value target.stackPointer)) pushedValue := by
    refine Memory.ext fun address => ?_
    rw [after, pushed]
    simp only [Memory.read_write]
    by_cases atPointer : address = value target.stackPointer
    · rw [if_pos atPointer, if_neg (atPointer ▸ above.symm), atPointer]
    · rw [if_neg atPointer, if_neg atPointer]
  rw [passAll_popData, pointer, dropped, Memory.read_write_same]

/-! ## Popping in three parts -/

/-- Notes the address of an element past the first one, before its value is popped. -/
def noteAddress (target : Target) : Location → Block
  | .indirect pointer index =>
    if index = 0 then []
    else [.symbol pointer, assign "D" "M", .literal index, assign "D" "D+A",
      .symbol target.scratch.frame, assign "M" "D"]
  | _ => []

/-- Stores the data register at a location: the first one that a pointer addresses, or one with an
address of its own. -/
def storeData : Location → Block
  | .indirect pointer _ => [.symbol pointer, assign "A" "M", assign "M" "D"]
  | .absolute address => [.literal address, assign "M" "D"]
  | .symbol name => [.symbol name, assign "M" "D"]
  | .literal _ => []

/-- The code of a pop notes an address, pops, and stores the popped value. -/
theorem pop_eq_ok {unit : String} {segment : Segment} {index : Word} {location : Location}
    (resolved : Location.resolve target unit segment index = .ok location)
    (inCell : ∀ word, location ≠ .literal word) :
    pop target unit segment index =
      .ok (noteAddress target location ++ popData target ++
        storeData (location.noted target)) := by
  unfold pop
  rw [resolved]
  cases location with
  | literal word => exact absurd rfl (inCell word)
  | absolute address => rfl
  | symbol name => rfl
  | indirect pointer distance =>
    by_cases first : distance = 0
    · subst first
      rfl
    · show (if distance = 0 then _ else _) = _
      simp only [noteAddress, Location.noted, if_neg first]
      rfl

/-- Code that notes an address does not jump. -/
theorem straight_noteAddress (target : Target) (location : Location) :
    (noteAddress target location).all Instruction.isStraight = true := by
  cases location with
  | indirect pointer index =>
    simp only [noteAddress]
    split <;> rfl
  | _ => rfl

/-- Code that stores a value does not jump. -/
theorem straight_storeData (location : Location) :
    (storeData location).all Instruction.isStraight = true := by
  cases location <;> rfl

/-- Noting puts the address of the element into the scratch cell, if there is one. -/
theorem memory_noteAddress {location : Location}
    (found : location.cell? value machine.memory = some cell) :
    (passAll value (noteAddress target location) machine).memory =
      machine.memory.noting ((location.notes target).map value) cell := by
  cases location with
  | literal word => cases found
  | absolute address => rfl
  | symbol name => rfl
  | indirect pointer index =>
    cases found
    by_cases first : index = 0
    · simp only [noteAddress, Location.notes, if_pos first]
      rfl
    · simp only [noteAddress, Location.notes, if_neg first]
      rfl

/-- Storing writes the data register to the cell. -/
theorem memory_storeData {location : Location}
    (found : (location.noted target).cell? value machine.memory = some cell) :
    (passAll value (storeData (location.noted target)) machine).memory =
      machine.memory.write cell machine.data := by
  cases location with
  | literal word => cases found
  | absolute address =>
    cases found
    rfl
  | symbol name =>
    cases found
    rfl
  | indirect pointer index =>
    -- Both forms go through a pointer to the cell itself.
    have through : ∀ name, (Location.indirect name 0).cell? value machine.memory = some cell →
        (passAll value (storeData (.indirect name 0)) machine).memory =
          machine.memory.write cell machine.data := by
      intro name pointed
      rw [Location.cell?_indirect_zero] at pointed
      cases pointed
      rfl
    by_cases first : index = 0
    · simp only [Location.noted, if_pos first] at found ⊢
      exact through pointer found
    · simp only [Location.noted, if_neg first] at found ⊢
      exact through _ found

/-- With its address noted, an element is found again. -/
theorem cell?_noted {location : Location} {memory after : Memory}
    (found : location.cell? value memory = some cell)
    (pointers : ∀ pointer ∈ location.pointers,
      after.read (value pointer) = memory.read (value pointer))
    (notes : ∀ note ∈ location.notes target, after.read (value note) = cell) :
    (location.noted target).cell? value after = some cell := by
  cases location with
  | literal word => cases found
  | absolute address => exact found
  | symbol name => exact found
  | indirect pointer index =>
    by_cases first : index = 0
    · rw [Location.noted, if_pos first, ← found, first]
      exact Location.cell?_congr pointers
    · rw [Location.notes, if_neg first] at notes
      rw [Location.noted, if_neg first, Location.cell?_indirect_zero, notes _ (.head _)]

/-! ## The round trip -/

/-- Pushing an element and popping it stores its value twice: where the stack ends, and in its
own cell. -/
theorem memory_push_pop {location : Location}
    (found : location.cell? value machine.memory = some cell)
    (distinct : ((location.workCells target).map value).Nodup)
    (free : machine.memory.read (value target.stackPointer) ∉
      (location.workCells target).map value) :
    (passAll value ((fetch location ++ pushData target) ++
        (noteAddress target location ++ popData target ++ storeData (location.noted target)))
      machine).memory =
      ((machine.memory.noting ((location.notes target).map value) cell).write
        (machine.memory.read (value target.stackPointer)) (machine.memory.read cell)).write cell
          (machine.memory.read cell) := by
  rw [Location.workCells, List.map_cons, List.map_append] at distinct free
  obtain ⟨own, apart⟩ := List.nodup_cons.mp distinct
  rw [List.mem_append, not_or] at own
  rw [List.mem_cons, List.mem_append, not_or, not_or] at free
  obtain ⟨ownPointers, ownNotes⟩ := own
  obtain ⟨above, freePointers, freeNotes⟩ := free
  have pushes : (passAll value (fetch location ++ pushData target) machine).memory =
      pushed machine.memory (value target.stackPointer) (machine.memory.read cell) :=
    memory_push found
  rw [Machine.passAll_append]
  generalize passAll value (fetch location ++ pushData target) machine = between at pushes ⊢
  have refound : location.cell? value between.memory = some cell := by
    rw [← found, pushes]
    refine Location.cell?_congr fun pointer member => ?_
    have held := List.mem_map_of_mem (f := value) member
    rw [pushed, Memory.read_write_other _ _ (ne_of_mem_of_not_mem held freePointers),
      Memory.read_write_other _ _ (ne_of_mem_of_not_mem held ownPointers)]
  -- The noted address could as well have been there before the push.
  have notes : (passAll value (noteAddress target location) between).memory =
      pushed (machine.memory.noting ((location.notes target).map value) cell)
        (value target.stackPointer) (machine.memory.read cell) := by
    rw [memory_noteAddress refound, pushes, pushed, pushed, Memory.noting_write freeNotes,
      Memory.noting_write ownNotes, Memory.read_noting_other ownNotes]
  have kept := Memory.read_noting_other ownNotes machine.memory cell
  rw [Machine.passAll_append, Machine.passAll_append,
    passAll_popData_pushed (by rw [kept]; exact above) notes, kept, memory_storeData]
  refine cell?_noted found ?_ ?_
  · intro pointer member
    have held := List.mem_map_of_mem (f := value) member
    rw [Memory.read_write_other _ _ (ne_of_mem_of_not_mem held freePointers),
      Memory.read_noting_other]
    exact fun noted => (List.nodup_append.mp apart).2.2 _ held _ noted rfl
  · intro note member
    have held := List.mem_map_of_mem (f := value) member
    rw [Memory.read_write_other _ _ (ne_of_mem_of_not_mem held freeNotes),
      Memory.read_noting held]

/-- The code of a push and a pop of one element is straight. -/
theorem straight_push_pop (target : Target) (location : Location) :
    ((fetch location ++ pushData target) ++
      (noteAddress target location ++ popData target ++
        storeData (location.noted target))).all Instruction.isStraight = true := by
  simp only [List.all_append, straight_fetch, straight_noteAddress, straight_storeData]
  rfl

/-- Pushing an element and popping it again changes only the cell where the stack ends, which
then has the value of the element, and a scratch cell if the pop needs one. -/
theorem pop_undoes_push {unit : String} {segment : Segment} {index : Word} {location : Location}
    (inMemory : segment ≠ .constant)
    (resolved : Location.resolve target unit segment index = .ok location) :
    ∃ pushing popping, push target unit segment index = .ok pushing ∧
      pop target unit segment index = .ok popping ∧
      ∀ (before after : Block) (program : Program) (machine : Machine),
        Program.assemble (before ++ (pushing ++ popping) ++ after) = .ok program →
        machine.counter = Block.size before →
        ((location.workCells target).map program.value).Nodup →
        machine.memory.read (program.value target.stackPointer) ∉
          (location.workCells target).map program.value →
        ∃ cell final, location.cell? program.value machine.memory = some cell ∧
          Machine.Crosses program (Block.size before)
            (Block.size before + Block.size (pushing ++ popping)) machine final ∧
          final.counter = Block.size before + Block.size (pushing ++ popping) ∧
          machine.memory.RoundTrip (program.value target.stackPointer) cell
            ((location.notes target).map program.value) final.memory := by
  have inCell := Location.ne_literal_of_resolve inMemory resolved
  refine ⟨fetch location ++ pushData target, _, ?_, pop_eq_ok resolved inCell, ?_⟩
  · unfold push
    rw [resolved]
    rfl
  intro before after program machine assembled starts distinct free
  obtain ⟨cell, found⟩ := location.exists_cell? inCell program.value machine.memory
  have holds := Program.holds_of_assemble assembled
  rw [Program.holds_append, Program.holds_append, Nat.zero_add] at holds
  obtain ⟨crosses, counter⟩ :=
    Machine.crosses_of_straight (straight_push_pop target location) holds.1.2 starts
  refine ⟨cell, _, found, crosses, counter, ?_⟩
  rw [memory_push_pop found distinct free]
  rw [Location.workCells, List.map_cons] at distinct free
  rw [List.map_append] at distinct
  refine Memory.roundTrip_write (List.ne_of_not_mem_cons free) fun noted => ?_
  exact (List.nodup_cons.mp distinct).1 (List.mem_append_right _ noted)

/-- The code that pushes the sixth cell behind the one to which `THAT` points, and pops it. -/
def sixthOfThat : Block :=
  [.symbol "THAT", assign "D" "M", .literal 5, assign "A" "D+A", assign "D" "M",
    .symbol "SP", assign "M" "M+1", assign "A" "M-1", assign "M" "D",
    .symbol "THAT", assign "D" "M", .literal 5, assign "D" "D+A", .symbol "R13", assign "M" "D",
    .symbol "SP", assign "AM" "M-1", assign "D" "M", .symbol "R13", assign "A" "M",
    assign "M" "D"]

/-- The element may be in the scratch cell itself: its value is there again in the end. -/
theorem sixthOfThat_undone :
    Location.resolve Target.hack "Main" (.mapped .that) 5 = .ok (.indirect "THAT" 5) ∧
      ∃ program final, Program.assemble sixthOfThat = .ok program ∧
        Machine.Reaches program
          { memory := ((Memory.zeros.write 0 256).write 4 8).write 13 42 } final ∧
        final.counter = 21 ∧ final.memory.read 0 = 256 ∧ final.memory.read 4 = 8 ∧
        final.memory.read 13 = 42 ∧ final.memory.read 256 = 42 := by
  have resolved : Location.resolve Target.hack "Main" (.mapped .that) 5 =
      .ok (.indirect "THAT" 5) := rfl
  obtain ⟨pushing, popping, pushes, pops, undone⟩ := pop_undoes_push (by decide) resolved
  cases pushes
  cases pops
  have distinct : (Block.labels sixthOfThat).Nodup := .nil
  obtain ⟨program, assembled⟩ := Program.exists_assemble_eq_ok_iff.mpr distinct
  have named : ∀ name, program.value name = (program.cell? name).getD 0 := fun name =>
    Program.value_of_not_label
      (Program.labelAddress?_eq_none_of_assemble assembled List.not_mem_nil)
  have stack : program.value "SP" = 0 := named "SP"
  have that : program.value "THAT" = 4 := named "THAT"
  have scratch : program.value "R13" = 13 := named "R13"
  have cells : ((Location.indirect "THAT" 5).workCells Target.hack).map program.value =
      [0, 4, 13] := by
    show [program.value "SP", program.value "THAT", program.value "R13"] = _
    rw [stack, that, scratch]
  have pointer : (((Memory.zeros.write 0 256).write 4 8).write 13 42).read 0 = 256 := by
    simp [Memory.read_write]
  have base : (((Memory.zeros.write 0 256).write 4 8).write 13 42).read 4 = 8 := by
    simp [Memory.read_write]
  have element : (((Memory.zeros.write 0 256).write 4 8).write 13 42).read 13 = 42 :=
    Memory.read_write_same ..
  generalize ((Memory.zeros.write 0 256).write 4 8).write 13 42 = memory
    at pointer base element
  have stackEnd : memory.read (program.value Target.hack.stackPointer) = 256 :=
    (congrArg memory.read stack).trans pointer
  obtain ⟨cell, final, found, crosses, counter, trip⟩ := undone [] [] program { memory := memory }
    assembled rfl (by rw [cells]; decide) (by rw [cells, stackEnd]; decide)
  have inScratch : cell = 13 := by
    rw [Location.cell?, that, base] at found
    exact (Option.some.inj found).symm
  subst inScratch
  refine ⟨resolved, program, final, assembled, crosses.reaches, counter, ?_, ?_, ?_, ?_⟩
  · have kept := trip.stackPointer
    rwa [show program.value Target.hack.stackPointer = 0 from stack, pointer] at kept
  · have notes : ((Location.indirect "THAT" 5).notes Target.hack).map program.value = [13] :=
      congrArg (List.cons · []) scratch
    rw [trip.other 4 (by rw [stackEnd]; decide) (by rw [notes]; decide), base]
  · rw [trip.element, element]
  · have left := trip.pushed
    rwa [stackEnd, element] at left

end Lowering

end StackLowering

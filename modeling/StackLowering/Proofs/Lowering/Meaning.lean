import StackLowering.Proofs.Lowering.Effects

/-!
# Code does what its command means

`crosses_of_perform` is the correctness of the code of one command on the usual
target: if a program holds the code and the machine stands at its start, then
crossing it changes the memory as performing the command does, scratch cells
apart, and the counter goes where the command says. The cases follow the shapes
of `Lowers`.
-/

namespace StackLowering

open Machine (passAll)

/-- The code address at which a program goes on behind code that ends at `stop`, if symbols have
the given values. -/
def Control.destination (value : String → Word) (stop : Nat) : Control → Nat
  | .next => stop
  | .declaration name => (value name).toNat
  | .resume address => address.toNat

namespace Lowering

/-- The truth of a comparison is the condition of its jump on the difference. -/
theorem value_comparison (comparison : Comparison) (below top : Word) :
    comparison.value below top =
      if (comparisonJump comparison).taken (below - top) then -1 else 0 := by
  unfold Comparison.value
  dsimp only
  generalize below - top = difference
  cases comparison with
  | eq =>
    have zero : difference.toInt = 0 ↔ difference = 0#16 := by
      rw [← BitVec.toInt_inj, BitVec.toInt_zero]
    simp [comparisonJump, Jump.taken, zero]
  | gt => simp [comparisonJump, Jump.taken, BitVec.slt]
  | lt => simp [comparisonJump, Jump.taken, BitVec.slt]

/-- A jump on the data register. -/
theorem steps_branch_data {program : Program} {jump : Jump} {counter : Nat} {rest : Block}
    (holds : program.Holds counter (Instruction.branch "D" jump :: rest)) (memory : Memory)
    (address data : Word) :
    Machine.Steps program ⟨memory, address, data, counter⟩
      ⟨memory, address, data, if jump.taken data then address.toNat else counter + 1⟩ := by
  have known : Computation.ofText? "D" = some (.copy .data) := by decide
  exact @Machine.steps_branch program ⟨memory, address, data, counter⟩ "D" jump (.copy .data) rest
    holds known

/-- An unconditional jump. -/
theorem steps_jump {program : Program} {counter : Nat} {rest : Block}
    (holds : program.Holds counter (Instruction.jump :: rest)) (memory : Memory)
    (address data : Word) :
    Machine.Steps program ⟨memory, address, data, counter⟩
      ⟨memory, address, data, address.toNat⟩ := by
  have known : Computation.ofText? "0" = some .zero := by decide
  exact @Machine.steps_branch program ⟨memory, address, data, counter⟩ "0" .always .zero rest
    holds known

/-- The piece of a comparison that computes the difference of the operands. -/
def difference (target : Target) (whenTrue : String) : Block :=
  popData target ++ [Instruction.assign "A" "A-1", Instruction.assign "D" "M-D",
    .symbol whenTrue]

/-- The piece of a comparison that replaces the value below by an outcome. -/
def outcome (target : Target) (computation : String) : Block :=
  [.symbol target.stackPointer, Instruction.assign "A" "M-1", Instruction.assign "M" computation]

/-- Where the pieces and the labels of a comparison are. -/
theorem holds_compare {program : Program} {target : Target} {comparison : Comparison}
    {whenTrue done : String} {start : Nat}
    (holds : program.Holds start (compare target comparison whenTrue done)) :
    program.Holds start (difference target whenTrue) ∧
      program.Holds (start + 6) [Instruction.branch "D" (comparisonJump comparison)] ∧
      program.Holds (start + 7) (outcome target "0" ++ [.symbol done]) ∧
      program.Holds (start + 11) [Instruction.jump] ∧
      program.labelAddress? whenTrue = some (start + 12) ∧
      program.Holds (start + 12) (outcome target "-1") ∧
      program.labelAddress? done = some (start + 15) := by
  have pieces : compare target comparison whenTrue done =
      difference target whenTrue ++ ([Instruction.branch "D" (comparisonJump comparison)] ++
        ((outcome target "0" ++ [.symbol done]) ++ ([Instruction.jump] ++ ([.label whenTrue] ++
          (outcome target "-1" ++ [.label done]))))) := rfl
  rw [pieces] at holds
  obtain ⟨front, holds⟩ := Program.holds_append.mp holds
  obtain ⟨branch, holds⟩ := Program.holds_append.mp holds
  obtain ⟨whenFalse, holds⟩ := Program.holds_append.mp holds
  obtain ⟨jump, holds⟩ := Program.holds_append.mp holds
  obtain ⟨trueLabel, holds⟩ := Program.holds_append.mp holds
  obtain ⟨holdsTrue, doneLabel⟩ := Program.holds_append.mp holds
  exact ⟨front, branch, whenFalse, jump, trueLabel.1, holdsTrue, doneLabel.1⟩

/-- The state in which a comparison has computed the difference of its operands. -/
theorem difference_eq {value : String → Word} (names : CellNames value) (whenTrue : String)
    (machine : Machine) :
    passAll value (difference Target.hack whenTrue) machine =
      { memory := machine.memory.drop
        address := value whenTrue
        data := machine.memory.drop.read (machine.memory.drop.read 0 - 1) -
          machine.memory.drop.exposed
        counter := machine.counter + 6 } := by
  unfold difference
  rw [Machine.passAll_append, popData_eq names, Memory.read_drop_zero]
  rfl

/-- The state in which a comparison has written that it does not hold. -/
theorem outcome_zero_eq {value : String → Word} (names : CellNames value) (done : String)
    (machine : Machine) :
    passAll value (outcome Target.hack "0" ++ [.symbol done]) machine =
      { memory := machine.memory.write (machine.memory.read 0 - 1) 0
        address := value done
        data := machine.data
        counter := machine.counter + 4 } := by
  have evaluated : passAll value (outcome Target.hack "0" ++ [.symbol done]) machine =
      { memory := machine.memory.write (machine.memory.read (value "SP") - 1) 0
        address := value done
        data := machine.data
        counter := machine.counter + 4 } := rfl
  rw [evaluated, names.stack]

/-- Crossing a comparison replaces its operands by their truth. -/
theorem crosses_compare {program : Program} (names : CellNames program.value)
    {comparison : Comparison} {whenTrue done : String} {start : Nat}
    (holds : program.Holds start (compare Target.hack comparison whenTrue done))
    (small : start + 15 < 65536) {machine : Machine} (starts : machine.counter = start) :
    ∃ final, Machine.Crosses program start (start + 15) machine final ∧
      final.counter = start + 15 ∧
      final.memory = machine.memory.combine comparison.value := by
  subst starts
  obtain ⟨front, branch, whenFalse, jump, trueLabel, holdsTrue, doneLabel⟩ := holds_compare holds
  have trueValue := Program.value_of_labelAddress? trueLabel
  have doneValue := Program.value_of_labelAddress? doneLabel
  have result : ∀ outcome,
      (if (comparisonJump comparison).taken (machine.memory.drop.read
        (machine.memory.drop.read 0 - 1) - machine.memory.drop.exposed) then -1 else 0) = outcome →
      machine.memory.drop.write (machine.memory.drop.read 0 - 1) outcome =
        machine.memory.combine comparison.value := by
    rintro _ rfl
    rw [← value_comparison]
    rfl
  -- The operands are popped and subtracted, and the jump is decided.
  have subtracted : Machine.Advances program machine.counter (machine.counter + 15) machine _ :=
    Machine.advances_of_straight rfl front (Nat.le_refl _)
      (show machine.counter + 6 ≤ machine.counter + 15 by omega)
  rw [difference_eq names] at subtracted
  generalize machine.memory.drop = dropped at subtracted result
  generalize dropped.read (dropped.read 0 - 1) - dropped.exposed = difference
    at subtracted result
  have decided := steps_branch_data branch dropped (program.value whenTrue) difference
  by_cases taken : (comparisonJump comparison).taken difference = true
  · rw [if_pos taken] at decided
    have landed : (program.value whenTrue).toNat = machine.counter + 12 := by
      rw [trueValue, BitVec.toNat_ofNat]
      omega
    rw [landed] at decided
    have jumped := subtracted.trans
      (.single ⟨decided, show _ + 6 < _ + 15 by omega, show _ < _ + 12 by omega⟩)
    have written := jumped.trans (Machine.advances_of_straight rfl holdsTrue
      (show _ ≤ _ + 12 by omega) (show _ + 12 + 3 ≤ _ + 15 by omega))
    refine ⟨_, Machine.crosses_of_advances rfl written rfl, rfl, ?_⟩
    rw [← result (-1) (if_pos taken), ← names.stack]
    rfl
  · rw [if_neg taken] at decided
    have passed := subtracted.trans
      (.single ⟨decided, show _ + 6 < _ + 15 by omega, show _ < _ + 6 + 1 by omega⟩)
    have written := passed.trans (Machine.advances_of_straight rfl whenFalse
      (show _ ≤ _ + 7 by omega) (show _ + 7 + 4 ≤ _ + 15 by omega))
    rw [outcome_zero_eq names] at written
    have joined : (program.value done).toNat = machine.counter + 15 := by
      rw [doneValue, BitVec.toNat_ofNat]
      omega
    have leaves := steps_jump jump (dropped.write (dropped.read 0 - 1) 0) (program.value done)
      difference
    rw [joined] at leaves
    exact ⟨_, Machine.crosses_of_leaving rfl written (show _ + 7 + 4 < _ + 15 by omega) leaves
      (by simp [Machine.outside]), rfl, result 0 (if_neg taken)⟩

/-- Straight code in front of an unconditional jump is passed through, and the jump goes to the
loaded address. -/
theorem crosses_jump {program : Program} {start stop : Nat} {machine last : Machine}
    {front back : Block} (straight : front.all Instruction.isStraight = true)
    (holds : program.Holds start (front ++ Instruction.jump :: back))
    (starts : machine.counter = start) (fits : start + front.size < stop)
    (passed : passAll program.value front machine = last)
    (left : last.address.toNat ≤ start ∨ stop ≤ last.address.toNat) :
    Machine.Crosses program start stop machine
      { last with counter := last.address.toNat } := by
  have known : Computation.ofText? "0" = some .zero := by decide
  exact Machine.crosses_of_jump straight holds known starts fits passed rfl left

/-- Crossing the code of a conditional jump. -/
theorem crosses_ifGoto {program : Program} (names : CellNames program.value) {name : String}
    {start : Nat} (holds : program.Holds start (ifGoto Target.hack name)) {machine : Machine}
    (starts : machine.counter = start) {destination : Nat}
    (goes : (if machine.memory.drop.exposed = 0 then start + 5 else (program.value name).toNat) =
      destination) (left : destination ≤ start ∨ start + 5 ≤ destination) :
    Machine.Crosses program start (start + 5) machine
      ⟨machine.memory.drop, program.value name, machine.memory.drop.exposed, destination⟩ := by
  have known : Computation.ofText? "D" = some (.copy .data) := by decide
  have passed : passAll program.value (popData Target.hack ++ [.symbol name]) machine =
      ⟨machine.memory.drop, program.value name, machine.memory.drop.exposed, start + 4⟩ := by
    rw [Machine.passAll_append, popData_eq names, ← starts]
    rfl
  have front : ifGoto Target.hack name =
      (popData Target.hack ++ [.symbol name]) ++ [Instruction.branch "D" .ne] := rfl
  rw [front] at holds
  refine Machine.crosses_of_jump rfl holds known starts
    (show start + 4 < start + 5 by omega) passed ?_ left
  rw [← goes]
  by_cases zero : machine.memory.drop.exposed = 0
  · rw [if_pos zero, if_neg (by simp [Jump.taken, Computation.value, zero])]
  · rw [if_neg zero, if_pos (by simpa [Jump.taken, Computation.value] using zero)]

/-- The return label of a call stands behind the code of the call. -/
theorem Calls.labelAddress? {program : Program} {target : Target} {unit : String} {line : Nat}
    {name : String} {arguments : Word} {returnLabel : String} {block : Block}
    (calls : Calls target unit line name arguments returnLabel block) {start : Nat}
    (holds : program.Holds start block) :
    program.labelAddress? returnLabel = some (start + block.size) := by
  cases calls
  rw [call_eq] at holds ⊢
  exact (Program.holds_append.mp holds).2.2.1

/-- Crossing the code of a call enters the function, and changes no scratch cell. -/
theorem crosses_call {program : Program} (names : CellNames program.value) {unit : String}
    {line : Nat} {name : String} {arguments : Word} {returnLabel : String} {block : Block}
    (calls : Calls Target.hack unit line name arguments returnLabel block) {start : Nat}
    (holds : program.Holds start block) {machine : Machine} (starts : machine.counter = start)
    (above : ∀ count < 5, machine.memory.read 0 + BitVec.ofNat 16 count ≠ 0) {destination : Nat}
    (goes : (program.value name).toNat = destination)
    (left : destination ≤ start ∨ start + block.size ≤ destination) :
    ∃ final, Machine.Crosses program start (start + block.size) machine final ∧
      final.counter = destination ∧
      final.memory = machine.memory.enter (BitVec.ofNat 16 (start + block.size)) arguments := by
  have returnAddress := calls.labelAddress? holds
  cases calls with
  | code saved reach spelled =>
    rename_i pointers offset
    obtain rfl := saved.eq
    rw [call_eq] at holds left returnAddress ⊢
    obtain ⟨entered, loaded⟩ := callFront_eq names name reach returnLabel above
    rw [Program.value_of_labelAddress? returnAddress] at entered
    generalize passed : passAll program.value (callFront Target.hack _ name offset returnLabel)
      machine = last at entered loaded
    rw [← loaded] at goes
    rw [← goes] at left ⊢
    refine ⟨_, crosses_jump (straight_callFront ..) holds starts ?_ passed left, rfl, entered⟩
    simp [Instruction.isExecutable, Instruction.jump, Instruction.branch]

/-- Crossing the code of a command does what the command means: the memory changes as it says,
scratch cells apart, and the counter goes where it says. -/
theorem crosses_of_perform {program : Program} (names : CellNames program.value) {unit : String}
    {line : Nat} {statics : Word → Word}
    (allotted : ∀ index, program.value (Location.staticSymbol unit index) = statics index)
    {command : Command} {issued : List String} {block : Block}
    (lowers : Lowers Target.hack unit line command issued block) {start : Nat}
    (holds : program.Holds start block) (small : start + block.size < 65536) {machine : Machine}
    (starts : machine.counter = start) (guarded : command.Guarded machine.memory)
    {after : Memory} {control : Control}
    (performed : command.perform statics (BitVec.ofNat 16 (start + block.size)) machine.memory =
      some (after, control)) {destination : Nat}
    (goes : control.destination program.value (start + block.size) = destination)
    (left : destination ≤ start ∨ start + block.size ≤ destination) :
    ∃ final, Machine.Crosses program start (start + block.size) machine final ∧
      final.counter = destination ∧ final.memory.Agrees after := by
  -- Code without jumps ends behind itself, in the memory that passing through it gives.
  have straightly : block.all Instruction.isStraight = true →
      (passAll program.value block machine).memory.Agrees after →
      destination = start + block.size →
      ∃ final, Machine.Crosses program start (start + block.size) machine final ∧
        final.counter = destination ∧ final.memory.Agrees after := by
    rintro straight agrees rfl
    obtain ⟨crosses, ends⟩ := Machine.crosses_of_straight straight holds starts
    exact ⟨_, crosses, ends, agrees⟩
  have apart := guarded.apart
  have above := guarded.above
  cases command with
  | push segment index =>
    cases lowers with
    | @push _ _ location resolves =>
      obtain ⟨kept, fetched⟩ := fetch_eq names allotted resolves machine
      have nonzero : machine.memory.read 0 ≠ 0 := by
        have := above 0 Nat.one_pos
        rwa [BitVec.add_zero] at this
      have pushed := memory_pushData names (by rw [kept]; exact nonzero)
      rw [fetched, kept, ← Machine.passAll_append] at pushed
      have straight : (fetch location ++ pushData Target.hack).all Instruction.isStraight =
          true := by
        rw [List.all_append, straight_fetch]
        rfl
      cases found : segment.cell? statics machine.memory index with
      | none =>
        rw [found] at pushed
        simp only [Command.perform, found] at performed
        cases performed
        exact straightly straight (pushed ▸ .refl _) goes.symm
      | some cell =>
        rw [found] at pushed
        simp only [Command.perform, found] at performed
        cases performed
        exact straightly straight (pushed ▸ .refl _) goes.symm
  | pop segment index =>
    obtain ⟨straight, cell, found, agrees⟩ :=
      agrees_pop names allotted lowers (apart _ List.mem_cons_self)
    simp only [Command.perform, found] at performed
    cases performed
    exact straightly straight agrees goes.symm
  | binary operator =>
    cases lowers
    cases performed
    refine straightly (by cases operator <;> rfl) ?_ goes.symm
    rw [memory_binary names]
    exact .refl _
  | unary operator =>
    cases lowers
    cases performed
    refine straightly (by cases operator <;> rfl) ?_ goes.symm
    rw [memory_unary names]
    exact .refl _
  | compare comparison =>
    cases lowers
    cases performed
    obtain ⟨final, crosses, ends, memory⟩ := crosses_compare names holds small starts
    exact ⟨final, crosses, ends.trans goes, memory ▸ .refl _⟩
  | label name =>
    cases lowers
    cases performed
    exact straightly rfl (.refl _) goes.symm
  | goto name =>
    cases lowers
    cases performed
    subst goes
    have loaded : program.Holds start ([.symbol name] ++ [Instruction.jump]) := holds
    exact ⟨_, crosses_jump rfl loaded starts (Nat.lt_succ_self _) rfl left, rfl, .refl _⟩
  | ifGoto name =>
    cases lowers
    cases performed
    refine ⟨_, crosses_ifGoto names holds starts ?_ left, rfl, .refl _⟩
    rw [← goes]
    split
    · rfl
    · rfl
  | function name locals =>
    cases lowers
    cases performed
    refine straightly (straight_function _ _ _) ?_ goes.symm
    rw [memory_function names name locals above]
    exact .refl _
  | call name arguments =>
    cases lowers with
    | call calls =>
      cases performed
      obtain ⟨final, crosses, ends, entered⟩ :=
        crosses_call names calls holds starts above goes left
      exact ⟨final, crosses, ends, entered ▸ .refl _⟩
  | ret =>
    cases lowers with
    | ret restored =>
      obtain rfl := restored.eq
      cases performed
      rw [ret_eq] at holds left goes ⊢
      obtain ⟨agrees, loaded⟩ := retFront_eq names guarded
      generalize passed : passAll program.value (retFront Target.hack _) machine = last
        at agrees loaded
      rw [Control.destination, ← loaded] at goes
      rw [← goes] at left ⊢
      refine ⟨_, crosses_jump (straight_retFront ..) holds starts ?_ passed left, rfl, agrees⟩
      simp [Instruction.isExecutable, Instruction.jump, Instruction.branch]

end Lowering

end StackLowering

import StackLowering.Machine.Run
import StackLowering.Proofs.Machine.Assembly
import Mathlib.Logic.Relation

/-!
# Crossing a block of code

The machine crosses the code between two addresses when it starts at the first
one and runs until its counter is no longer strictly between them. A crossing is
a run of the machine and nothing else; `Crosses.unique` says that it has one
outcome. Code that neither jumps nor traps is evaluated by `passAll`, and
`advances_of_straight` ties that evaluation to the steps of a program which holds
the code. A crossing is then put together from straight pieces and the steps that
jump between them.
-/

namespace StackLowering

namespace Machine

/-- One step of a program leads from the first state to the second. -/
def Steps (program : Program) (before after : Machine) : Prop :=
  before.step program = .ok after

/-- Some number of steps of a program leads from the first state to the second. -/
def Reaches (program : Program) : Machine → Machine → Prop :=
  Relation.ReflTransGen (Steps program)

/-- Whether the counter is not strictly between two addresses. -/
def outside (start stop : Nat) (machine : Machine) : Bool :=
  machine.counter ≤ start || stop ≤ machine.counter

/-- Carrying out the code from one address up to another: the machine starts at the first one,
takes a step, and goes on until its counter is not strictly between the two. Where there is no
code, nothing happens. -/
def Crosses (program : Program) (start stop : Nat) (machine final : Machine) : Prop :=
  machine.counter = start ∧
    if start < stop then
      ∃ next steps, machine.step program = .ok next ∧
        next.run program (outside start stop) steps = (final, .reached)
    else final = machine

/-! ## Bounded runs -/

/-- A run that reaches its condition reaches it in one state only, whatever its bound. -/
theorem run_reached_unique {program : Program} {stop : Machine → Bool} {steps others : Nat}
    {machine final other : Machine}
    (first : machine.run program stop steps = (final, .reached))
    (second : machine.run program stop others = (other, .reached)) : final = other := by
  induction steps generalizing machine others with
  | zero => cases first
  | succ steps inductionHypothesis =>
    cases others with
    | zero => cases second
    | succ others =>
      unfold run at first second
      split at first
      · rename_i stopped
        rw [if_pos stopped] at second
        cases first
        cases second
        rfl
      · rename_i running
        rw [if_neg running] at second
        cases taken : machine.step program with
        | error trap =>
          rw [taken] at first
          cases first
        | ok next =>
          rw [taken] at first second
          exact inductionHypothesis first second

/-- A run consists of steps. -/
theorem reaches_of_run {program : Program} {stop : Machine → Bool} {steps : Nat}
    {machine final : Machine} (runs : machine.run program stop steps = (final, .reached)) :
    Reaches program machine final := by
  induction steps generalizing machine with
  | zero => cases runs
  | succ steps inductionHypothesis =>
    unfold run at runs
    split at runs
    · cases runs
      exact .refl
    · cases taken : machine.step program with
      | error trap =>
        rw [taken] at runs
        cases runs
      | ok next =>
        rw [taken] at runs
        exact .head taken (inductionHypothesis runs)

/-- A crossing has one outcome. -/
theorem Crosses.unique {program : Program} {start stop : Nat} {machine final other : Machine}
    (first : Crosses program start stop machine final)
    (second : Crosses program start stop machine other) : final = other := by
  obtain ⟨-, first⟩ := first
  obtain ⟨-, second⟩ := second
  split at first
  · rename_i nonempty
    rw [if_pos nonempty] at second
    obtain ⟨next, steps, stepped, runs⟩ := first
    obtain ⟨otherNext, otherSteps, otherStepped, otherRuns⟩ := second
    rw [stepped] at otherStepped
    cases otherStepped
    exact run_reached_unique runs otherRuns
  · rename_i empty
    rw [if_neg empty] at second
    rw [first, second]

/-- A crossing consists of steps. -/
theorem Crosses.reaches {program : Program} {start stop : Nat} {machine final : Machine}
    (crosses : Crosses program start stop machine final) : Reaches program machine final := by
  obtain ⟨-, crosses⟩ := crosses
  split at crosses
  · obtain ⟨next, steps, stepped, runs⟩ := crosses
    exact .head stepped (reaches_of_run runs)
  · rw [crosses]
    exact .refl

/-! ## Putting crossings together -/

/-- A step from in front of `stop` to behind `start`. -/
structure Advance (program : Program) (start stop : Nat) (before after : Machine) : Prop where
  steps : Steps program before after
  below : before.counter < stop
  above : start < after.counter

/-- Steps that stay behind `start` and do not pass `stop` on their way. -/
def Advances (program : Program) (start stop : Nat) : Machine → Machine → Prop :=
  Relation.ReflTransGen (Advance program start stop)

/-- An advance goes on with another one within the same addresses. -/
theorem Advances.trans {program : Program} {start stop : Nat} {first second third : Machine}
    (earlier : Advances program start stop first second)
    (later : Advances program start stop second third) :
    Advances program start stop first third :=
  Relation.ReflTransGen.trans earlier later

/-- A crossing ends with the first step that leaves. -/
theorem crosses_of_leaving {program : Program} {start stop : Nat}
    {machine last final : Machine} (starts : machine.counter = start)
    (inner : Advances program start stop machine last) (below : last.counter < stop)
    (leaves : Steps program last final) (left : outside start stop final = true) :
    Crosses program start stop machine final := by
  have crossed : machine.counter < stop ∧ ∃ next steps, machine.step program = .ok next ∧
      next.run program (outside start stop) steps = (final, .reached) := by
    clear starts
    -- The induction is from the last state backwards; each state it passes is inside.
    induction inner using Relation.ReflTransGen.head_induction_on with
    | refl =>
      refine ⟨below, final, 1, leaves, ?_⟩
      unfold run
      rw [if_pos left]
    | @head _ middle advance _ inductionHypothesis =>
      obtain ⟨middleBelow, next, steps, stepped, runs⟩ := inductionHypothesis
      refine ⟨advance.below, middle, steps + 1, advance.steps, ?_⟩
      have inside : ¬ outside start stop middle = true := by
        have above := advance.above
        simp only [outside, Bool.or_eq_true, decide_eq_true_eq]
        omega
      unfold run
      rw [if_neg inside, stepped]
      exact runs
  refine ⟨starts, ?_⟩
  rw [if_pos (by have := crossed.1; omega)]
  exact crossed.2

/-- Code without jumps is crossed by passing through it to its end. -/
theorem crosses_of_advances {program : Program} {start stop : Nat} {machine final : Machine}
    (starts : machine.counter = start) (inner : Advances program start stop machine final)
    (ends : final.counter = stop) : Crosses program start stop machine final := by
  rcases Relation.ReflTransGen.cases_tail inner with same | ⟨last, earlier, advance⟩
  · subst same
    refine ⟨starts, ?_⟩
    rw [if_neg (by omega)]
  · refine crosses_of_leaving starts earlier advance.below advance.steps ?_
    simp [outside, ends]

/-! ## Straight code -/

/-- The state after an instruction that does not jump, if symbols have the given values. -/
def pass (value : String → Word) (machine : Machine) : Instruction → Machine
  | .symbol name => { machine with address := value name, counter := machine.counter + 1 }
  | .literal word => { machine with address := word, counter := machine.counter + 1 }
  | .compute destination computation _ =>
    match Computation.ofText? computation with
    | some known =>
      machine.store (.ofText (destination.getD ""))
        (known.value machine.address machine.data (machine.memory.read machine.address)) none
    | none => machine
  | .label _ | .comment _ => machine

/-- The state after a block that does not jump. -/
def passAll (value : String → Word) (block : Block) (machine : Machine) : Machine :=
  block.foldl (pass value) machine

/-- Passing a block begins with its first instruction. -/
@[simp] theorem passAll_cons (value : String → Word) (instruction : Instruction) (rest : Block)
    (machine : Machine) :
    passAll value (instruction :: rest) machine =
      passAll value rest (pass value machine instruction) := rfl

/-- Two blocks are passed one after the other. -/
@[simp] theorem passAll_append (value : String → Word) (first second : Block)
    (machine : Machine) :
    passAll value (first ++ second) machine = passAll value second (passAll value first machine) :=
  List.foldl_append

end Machine

/-- Whether an instruction neither jumps nor traps. -/
def Instruction.isStraight : Instruction → Bool
  | .compute _ computation jump => (Computation.ofText? computation).isSome && jump.isNone
  | _ => true

namespace Machine

/-- The counter moves on by one for every executable instruction. -/
theorem counter_pass (value : String → Word) (machine : Machine) {instruction : Instruction}
    (straight : instruction.isStraight = true) :
    (pass value machine instruction).counter =
      machine.counter + if instruction.isExecutable then 1 else 0 := by
  cases instruction with
  | compute destination computation jump =>
    simp only [Instruction.isStraight, Bool.and_eq_true, Option.isSome_iff_exists] at straight
    obtain ⟨⟨known, found⟩, -⟩ := straight
    simp [pass, found, store, Instruction.isExecutable]
  | _ => simp [pass, Instruction.isExecutable]

/-- Passing straight code counts up by the addresses that it takes up. -/
theorem counter_passAll (value : String → Word) (machine : Machine) {block : Block}
    (straight : block.all Instruction.isStraight = true) :
    (passAll value block machine).counter = machine.counter + block.size := by
  induction block generalizing machine with
  | nil => rfl
  | cons instruction rest inductionHypothesis =>
    rw [List.all_cons, Bool.and_eq_true] at straight
    rw [passAll_cons, inductionHypothesis _ straight.2, counter_pass _ _ straight.1,
      Block.size_cons]
    omega

/-- An executable straight instruction of a program is carried out by a step. -/
theorem steps_pass {program : Program} {machine : Machine} {instruction : Instruction}
    {rest : Block} (straight : instruction.isStraight = true)
    (executable : instruction.isExecutable = true)
    (holds : program.Holds machine.counter (instruction :: rest)) :
    Steps program machine (pass program.value machine instruction) := by
  unfold Steps step
  cases instruction with
  | symbol name =>
    rw [holds.1]
    rfl
  | literal word =>
    rw [holds.1]
    rfl
  | compute destination computation jump =>
    simp only [Instruction.isStraight, Bool.and_eq_true, Option.isSome_iff_exists,
      Option.isNone_iff_eq_none] at straight
    obtain ⟨⟨known, found⟩, rfl⟩ := straight
    rw [holds.1]
    simp [Program.operation?, found, pass, execute]
  | label name => cases executable
  | comment text => cases executable

/-- Straight code of a program is carried out by steps inside of it. -/
theorem advances_of_straight {program : Program} {start stop : Nat} {machine : Machine}
    {block : Block} (straight : block.all Instruction.isStraight = true)
    (holds : program.Holds machine.counter block) (after : start ≤ machine.counter)
    (fits : machine.counter + block.size ≤ stop) :
    Advances program start stop machine (passAll program.value block machine) := by
  induction block generalizing machine with
  | nil => exact .refl
  | cons instruction rest inductionHypothesis =>
    rw [List.all_cons, Bool.and_eq_true] at straight
    have counted := counter_pass program.value machine straight.1
    rw [Block.size_cons] at fits
    rw [show instruction :: rest = [instruction] ++ rest from rfl, Program.holds_append] at holds
    have later : Advances program start stop (pass program.value machine instruction)
        (passAll program.value rest (pass program.value machine instruction)) :=
      inductionHypothesis straight.2 (by rw [counted]; simpa using holds.2) (by omega) (by omega)
    cases executable : instruction.isExecutable with
    | true =>
      rw [executable, if_pos rfl] at counted fits
      refine .head ⟨steps_pass straight.1 executable holds.1, by omega, by omega⟩ later
    | false =>
      -- Labels and comments leave the state as it is.
      have same : pass program.value machine instruction = machine := by
        cases instruction <;> first | rfl | cases executable
      rw [same] at later
      rw [passAll_cons, same]
      exact later

/-! ## Jumps -/

/-- A computing instruction without a destination only moves the counter. -/
theorem steps_branch {program : Program} {machine : Machine} {text : String} {jump : Jump}
    {computation : Computation} {rest : Block}
    (holds : program.Holds machine.counter (Instruction.branch text jump :: rest))
    (known : Computation.ofText? text = some computation) :
    Steps program machine
      { machine with
        counter :=
          if jump.taken
              (computation.value machine.address machine.data
                (machine.memory.read machine.address)) then machine.address.toNat
          else machine.counter + 1 } := by
  unfold Steps step
  rw [holds.1]
  simp [Instruction.branch, Program.operation?, known, execute, store, Destination.ofText]

/-! ## Crossing whole blocks -/

/-- A straight block is crossed by passing through it. -/
theorem crosses_of_straight {program : Program} {start : Nat} {machine : Machine} {block : Block}
    (straight : block.all Instruction.isStraight = true) (holds : program.Holds start block)
    (starts : machine.counter = start) :
    Crosses program start (start + block.size) machine
        (passAll program.value block machine) ∧
      (passAll program.value block machine).counter = start + block.size := by
  subst starts
  have ends := counter_passAll program.value machine straight
  exact ⟨crosses_of_advances rfl
    (advances_of_straight straight holds (Nat.le_refl _) (Nat.le_refl _)) ends, ends⟩

/-- A straight block that ends with a jump is crossed by passing up to the jump and taking it, if
that leads outside. -/
theorem crosses_of_jump {program : Program} {start stop : Nat} {machine : Machine}
    {front back : Block} {text : String} {jump : Jump} {computation : Computation}
    (straight : front.all Instruction.isStraight = true)
    (holds : program.Holds start (front ++ Instruction.branch text jump :: back))
    (known : Computation.ofText? text = some computation) (starts : machine.counter = start)
    (fits : start + front.size < stop) {last : Machine}
    (passed : passAll program.value front machine = last) {destination : Nat}
    (goes : (if jump.taken
        (computation.value last.address last.data (last.memory.read last.address)) then
      last.address.toNat else last.counter + 1) = destination)
    (left : destination ≤ start ∨ stop ≤ destination) :
    Crosses program start stop machine { last with counter := destination } := by
  subst starts passed goes
  rw [Program.holds_append] at holds
  have counted := counter_passAll program.value machine straight
  refine crosses_of_leaving rfl
    (advances_of_straight straight holds.1 (Nat.le_refl _) (Nat.le_of_lt fits))
    (by rw [counted]; exact fits) (steps_branch (by rw [counted]; exact holds.2) known) ?_
  simpa [outside] using left

end Machine

end StackLowering

import StackLowering.Proofs.Lowering.Meaning

/-!
# Installed stack programs

A stack program is installed in an assembled program if the code of its commands
stands there, one block behind the other, and the symbols of cells have kept
their meaning. `InstalledIn.crosses` is then the correctness of one step: from
the code address of a command, the machine crosses the block of the command and
arrives at the code address of a position where the command says to go on.
-/

namespace StackLowering

namespace StackProgram

/-- The code of a stack program stands in an assembled program. -/
structure InstalledIn (stack : StackProgram) (program : Program) : Prop where
  names : CellNames program.value
  code : ∀ {position : Nat} {placed : PlacedCommand}, stack.commands[position]? = some placed →
    ∃ issued block, Lowering.Lowers Target.hack placed.unit placed.line placed.command.value
        issued block ∧
      program.Holds (stack.address position) block ∧
      stack.address (position + 1) = stack.address position + block.size
  allotted : ∀ placed ∈ stack.commands, ∀ index,
    program.value (Location.staticSymbol placed.unit index) = stack.statics placed.unit index
  small : ∀ position ≤ stack.commands.length, stack.address position ≤ Word.maxLiteral

namespace InstalledIn

variable {stack : StackProgram} {program : Program}

/-- Blocks follow each other in the order of their commands. -/
theorem address_le (installed : stack.InstalledIn program) {first second : Nat}
    (ordered : first ≤ second) (bounded : second ≤ stack.commands.length) :
    stack.address first ≤ stack.address second := by
  induction second with
  | zero =>
    obtain rfl : first = 0 := by omega
    exact Nat.le_refl _
  | succ second inductionHypothesis =>
    rcases Nat.lt_or_ge second first with reached | earlier
    · obtain rfl : first = second + 1 := by omega
      exact Nat.le_refl _
    · have found : stack.commands[second]? = some _ :=
        List.getElem?_eq_getElem (Nat.lt_of_succ_le bounded)
      obtain ⟨_, _, _, _, next⟩ := installed.code found
      have before := inductionHypothesis earlier (by omega)
      omega

/-- A declared name is the label of the code of its declaration. -/
theorem labelAddress?_declared (installed : stack.InstalledIn program) {position : Nat}
    {placed : PlacedCommand} (found : stack.commands[position]? = some placed) {name : String}
    (declared : placed.command.value.declared? = some name) :
    program.labelAddress? name = some (stack.address position) := by
  obtain ⟨issued, block, lowers, holds, -⟩ := installed.code found
  generalize placed.command.value = command at lowers declared
  cases lowers with
  | label =>
    cases declared
    exact holds.1
  | function =>
    cases declared
    exact holds.1
  | _ => cases declared

/-- Where a command says to go on is the code address of the position at which the program
arrives. -/
theorem destination_of_arrives (installed : stack.InstalledIn program) {position : Nat}
    {control : Control} {destination : Nat}
    (arrives : stack.Arrives position control destination)
    (inside : position < stack.commands.length) :
    destination ≤ stack.commands.length ∧
      control.destination program.value (stack.address (position + 1)) =
        stack.address destination := by
  cases control with
  | next =>
    cases arrives
    exact ⟨inside, rfl⟩
  | declaration name =>
    obtain ⟨placed, found, declared⟩ := arrives
    obtain ⟨bounded, -⟩ := List.getElem?_eq_some_iff.mp found
    have small := installed.small destination (Nat.le_of_lt bounded)
    have label := installed.labelAddress?_declared found declared
    refine ⟨Nat.le_of_lt bounded, ?_⟩
    rw [Control.destination, Program.value_of_labelAddress? label, BitVec.toNat_ofNat]
    unfold Word.maxLiteral at small
    omega
  | resume address =>
    obtain ⟨bounded, same⟩ := arrives
    exact ⟨bounded, same.symm⟩

/-- No block starts inside another one. -/
theorem address_outside (installed : stack.InstalledIn program) {position destination : Nat}
    (inside : position < stack.commands.length) (bounded : destination ≤ stack.commands.length) :
    stack.address destination ≤ stack.address position ∨
      stack.address (position + 1) ≤ stack.address destination := by
  rcases Nat.lt_or_ge position destination with later | earlier
  · exact Or.inr (installed.address_le later bounded)
  · exact Or.inl (installed.address_le earlier (Nat.le_of_lt inside))

/-- One step: crossing the block of a guarded command does what the command means and ends where
the program arrives. -/
theorem crosses (installed : stack.InstalledIn program) {position : Nat} {placed : PlacedCommand}
    (found : stack.commands[position]? = some placed) {machine : Machine}
    (starts : machine.counter = stack.address position)
    (guarded : placed.command.value.Guarded machine.memory) {after : Memory} {control : Control}
    (performed : stack.perform ⟨position, machine.memory⟩ placed = some (after, control))
    {destination : Nat} (arrives : stack.Arrives position control destination) :
    ∃ final, Machine.Crosses program (stack.address position) (stack.address (position + 1))
        machine final ∧
      final.counter = stack.address destination ∧ final.memory.Agrees after := by
  obtain ⟨inside, -⟩ := List.getElem?_eq_some_iff.mp found
  obtain ⟨issued, block, lowers, holds, next⟩ := installed.code found
  obtain ⟨bounded, goes⟩ := installed.destination_of_arrives arrives inside
  have left := installed.address_outside inside bounded
  have small := installed.small (position + 1) inside
  unfold Word.maxLiteral at small
  unfold perform at performed
  rw [next] at performed goes left small ⊢
  exact Lowering.crosses_of_perform installed.names
    (installed.allotted placed (List.mem_of_getElem? found)) lowers holds (by omega) starts guarded
    performed goes left

end InstalledIn

end StackProgram

end StackLowering

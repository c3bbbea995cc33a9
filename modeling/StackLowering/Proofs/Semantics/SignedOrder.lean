import StackLowering.Proofs.Semantics.Placement

/-!
# Comparisons and the signed order

A comparison looks at the sign of a difference that wraps. The sign is that of the
true difference as long as a word can hold it (`toInt_sub_of_fits`), and the
opposite sign otherwise (`toInt_sub_of_overflow`). `Job.comparisons_follow_order`
says what this means for the code of every comparison: equality is always decided
as it should be, and the order exactly on the operands whose difference fits.
-/

namespace StackLowering

/-! ## Differences -/

/-- Whether a number is the signed reading of a word. -/
def FitsWord (number : Int) : Prop := -32768 ≤ number ∧ number ≤ 32767

/-- A difference that fits does not wrap. -/
theorem toInt_sub_of_fits {below top : Word} (fits : FitsWord (below.toInt - top.toInt)) :
    (below - top).toInt = below.toInt - top.toInt := by
  obtain ⟨least, most⟩ := fits
  rw [BitVec.toInt_sub, Int.bmod_eq_of_le (by omega) (by omega)]

/-- A difference that does not fit wraps once, to the other side of zero. -/
theorem toInt_sub_of_overflow {below top : Word}
    (overflows : ¬ FitsWord (below.toInt - top.toInt)) :
    (0 < (below - top).toInt ↔ below.toInt < top.toInt) ∧
      ((below - top).toInt < 0 ↔ top.toInt < below.toInt) := by
  have belowLeast := BitVec.le_toInt below
  have belowMost := BitVec.toInt_lt (x := below)
  have topLeast := BitVec.le_toInt top
  have topMost := BitVec.toInt_lt (x := top)
  unfold FitsWord at overflows
  rw [BitVec.toInt_sub, Int.bmod_def]
  omega

namespace Comparison

/-- Whether a comparison holds of two numbers. -/
def Holds (comparison : Comparison) (below top : Int) : Prop :=
  match comparison with
  | .eq => below = top
  | .gt => top < below
  | .lt => below < top

/-- The truth of a comparison is all ones exactly when the comparison holds of the wrapped
difference and zero. -/
theorem value_eq_iff (comparison : Comparison) (below top : Word) :
    comparison.value below top = -1 ↔ comparison.Holds (below - top).toInt 0 := by
  cases comparison <;> simp [value, Holds]

/-- What a comparison decides: for equality whether the operands are equal, and otherwise whether
it holds of them in the signed order, but the opposite of that where their difference does not
fit. -/
structure Decides (comparison : Comparison) (below top truth : Word) : Prop where
  boolean : truth = -1 ∨ truth = 0
  equality : comparison = .eq → (truth = -1 ↔ below = top)
  order : comparison ≠ .eq → FitsWord (below.toInt - top.toInt) →
    (truth = -1 ↔ comparison.Holds below.toInt top.toInt)
  overflow : comparison ≠ .eq → ¬ FitsWord (below.toInt - top.toInt) →
    (truth = -1 ↔ ¬ comparison.Holds below.toInt top.toInt)

/-- Every comparison decides its operands. -/
theorem decides_value (comparison : Comparison) (below top : Word) :
    comparison.Decides below top (comparison.value below top) where
  boolean := ite_eq_or_eq _ _ _
  equality := by
    rintro rfl
    rw [value_eq_iff, Holds, ← BitVec.toInt_zero (w := 16), BitVec.toInt_inj,
      BitVec.sub_eq_iff_eq_add, BitVec.zero_add]
  order := by
    intro ordering fits
    rw [value_eq_iff, toInt_sub_of_fits fits]
    cases comparison with
    | eq => exact absurd rfl ordering
    | gt => exact Int.sub_pos
    | lt =>
      show below.toInt - top.toInt < 0 ↔ below.toInt < top.toInt
      omega
  overflow := by
    intro ordering overflows
    obtain ⟨positive, negative⟩ := toInt_sub_of_overflow overflows
    have apart : below.toInt ≠ top.toInt := by
      intro same
      apply overflows
      rw [same, Int.sub_self]
      exact ⟨by decide, by decide⟩
    rw [value_eq_iff]
    cases comparison with
    | eq => exact absurd rfl ordering
    | gt =>
      show 0 < (below - top).toInt ↔ ¬ top.toInt < below.toInt
      omega
    | lt =>
      show (below - top).toInt < 0 ↔ ¬ below.toInt < top.toInt
      omega

end Comparison

/-! ## Stacks -/

/-- What replacing the two topmost values by one does to the cells of a memory. -/
structure Memory.Combined (memory : Memory) (value : Word) (after : Memory) : Prop where
  pointer : after.read 0 = memory.read 0 - 1
  exposed : after.read (after.read 0 - 1) = value
  other : ∀ cell : Word, cell ≠ 0 → cell ≠ after.read 0 - 1 → after.read cell = memory.read cell

/-- The two topmost values are replaced where the lower one was, if neither of them is in the cell
of the stack pointer. -/
theorem Memory.combined_combine {memory : Memory} (top : memory.read 0 - 1 ≠ 0)
    (below : memory.read 0 - 2 ≠ 0) (operation : Word → Word → Word) :
    memory.Combined
      (operation (memory.read (memory.read 0 - 2)) (memory.read (memory.read 0 - 1)))
      (memory.combine operation) := by
  have two : memory.read 0 - 1 - 1 = memory.read 0 - 2 := by grind
  have exposed : memory.drop.exposed = memory.read (memory.read 0 - 1) := by
    rw [Memory.exposed, read_drop_zero, read_drop_other _ top]
  have written : memory.combine operation = memory.drop.write (memory.read 0 - 2)
      (operation (memory.read (memory.read 0 - 2)) (memory.read (memory.read 0 - 1))) := by
    unfold combine mapTop
    dsimp only
    rw [exposed, read_drop_zero, two, read_drop_other _ below]
  have pointer : (memory.combine operation).read 0 = memory.read 0 - 1 := by
    rw [written, read_write_other _ _ below.symm, read_drop_zero]
  refine ⟨pointer, ?_, ?_⟩
  · rw [pointer, two, written, read_write_same]
  · intro cell nonzero apart
    rw [pointer, two] at apart
    rw [written, read_write_other _ _ apart, read_drop_other _ nonzero]

/-- The block of an installed comparison is crossed to its end. -/
theorem StackProgram.InstalledIn.crosses_compare {stack : StackProgram} {program : Program}
    (installed : stack.InstalledIn program) {position : Nat} {placed : PlacedCommand}
    (found : stack.commands[position]? = some placed) {comparison : Comparison}
    (compares : placed.command.value = .compare comparison) {machine : Machine}
    (starts : machine.counter = stack.address position) :
    ∃ final, Machine.Crosses program (stack.address position) (stack.address (position + 1))
        machine final ∧
      final.counter = stack.address (position + 1) ∧
      final.memory = machine.memory.combine comparison.value := by
  obtain ⟨inside, -⟩ := List.getElem?_eq_some_iff.mp found
  obtain ⟨issued, block, lowers, holds, next⟩ := installed.code found
  have small := installed.small (position + 1) inside
  rw [compares] at lowers
  rw [next] at small ⊢
  unfold Word.maxLiteral at small
  cases lowers with
  | compare trueSpelled doneSpelled =>
    change stack.address position + 15 ≤ 32767 at small
    exact Lowering.crosses_compare installed.names holds (by omega) starts

/-- The code of every comparison follows the order of its operands. In a job for the usual target
whose declared names are distinct and whose code fits, if the two topmost values of the stack are
behind the first sixteen cells, then the machine crosses the block of a comparison to its end, has
replaced these values by one that decides them, and has changed no other cell. -/
theorem Job.comparisons_follow_order {job : Job} {commands : List PlacedCommand}
    {blocks : List Block} (usual : job.target = Target.hack)
    (parsed : job.commands = .ok commands) (lowered : job.blocks = .ok blocks)
    (distinct : (declaredNames commands).Nodup)
    (small : Block.size blocks.flatten ≤ Word.maxLiteral) :
    ∃ program, Program.assemble blocks.flatten = .ok program ∧
      ∀ position placed comparison machine, commands[position]? = some placed →
        placed.command.value = .compare comparison →
        machine.counter = job.blockAddress blocks position →
        16 ≤ (machine.memory.read 0 - 1).toNat → 16 ≤ (machine.memory.read 0 - 2).toNat →
        ∃ final truth, Machine.Crosses program (job.blockAddress blocks position)
            (job.blockAddress blocks (position + 1)) machine final ∧
          final.counter = job.blockAddress blocks (position + 1) ∧
          machine.memory.Combined truth final.memory ∧
          comparison.Decides (machine.memory.read (machine.memory.read 0 - 2))
            (machine.memory.read (machine.memory.read 0 - 1)) truth := by
  obtain ⟨listing, rfl⟩ := Job.exists_listing lowered
  obtain rfl := listing.commands_eq parsed
  obtain ⟨program, assembled⟩ :=
    Program.exists_assemble_eq_ok_iff.mpr (listing.nodup_labels_iff.mpr distinct)
  have installed := listing.installed usual assembled small
  refine ⟨program, assembled, ?_⟩
  intro position placed comparison machine found compares starts top below
  have behind : ∀ {cell : Word}, 16 ≤ cell.toNat → cell ≠ 0 := by
    rintro _ high rfl
    exact absurd high (by decide)
  obtain ⟨final, crosses, counter, memory⟩ := installed.crosses_compare found compares starts
  refine ⟨final, _, crosses, counter, ?_, comparison.decides_value _ _⟩
  rw [memory]
  exact Memory.combined_combine (behind top) (behind below) _

/-- A job with a comparison. -/
def soleGreater : Job where
  units := [⟨"Main", "gt"⟩]

/-- The commands of that job. -/
def soleGreaterCommands : List PlacedCommand := [⟨"Main", 1, ⟨.compare .gt, ⟨0, 2⟩⟩⟩]

/-- The blocks of that job. -/
def soleGreaterBlocks : List Block :=
  [Lowering.compare Target.hack .gt "Main_1_gt_0" "Main_1_notgt_1"]

/-- The largest number is greater than the one below zero, but their difference does not fit: the
machine finds it not to be greater. -/
theorem soleGreater_follows_order :
    soleGreater.target = Target.hack ∧ soleGreater.commands = .ok soleGreaterCommands ∧
      soleGreater.blocks = .ok soleGreaterBlocks ∧ (declaredNames soleGreaterCommands).Nodup ∧
      Block.size soleGreaterBlocks.flatten ≤ Word.maxLiteral ∧
      ∃ program final, Program.assemble soleGreaterBlocks.flatten = .ok program ∧
        Machine.Reaches program
          { memory := ((Memory.zeros.write 0 258).write 256 32767).write 257 (-1) } final ∧
        final.counter = 15 ∧ final.memory.read 0 = 257 ∧ final.memory.read 256 = 0 := by
  have parsed : soleGreater.commands = .ok soleGreaterCommands := by decide +kernel
  have lowered : soleGreater.blocks = .ok soleGreaterBlocks := by decide +kernel
  have distinct : (declaredNames soleGreaterCommands).Nodup := by decide
  have small : Block.size soleGreaterBlocks.flatten ≤ Word.maxLiteral := by decide
  obtain ⟨program, assembled, follows⟩ :=
    Job.comparisons_follow_order rfl parsed lowered distinct small
  have pointer : (((Memory.zeros.write 0 258).write 256 32767).write 257 (-1)).read 0 = 258 := by
    simp [Memory.read_write]
  have below : (((Memory.zeros.write 0 258).write 256 32767).write 257 (-1)).read 256 = 32767 := by
    simp [Memory.read_write]
  have top : (((Memory.zeros.write 0 258).write 256 32767).write 257 (-1)).read 257 = -1 :=
    Memory.read_write_same ..
  generalize ((Memory.zeros.write 0 258).write 256 32767).write 257 (-1) = memory
    at pointer below top
  obtain ⟨final, truth, crosses, counter, combined, decides⟩ := follows 0 _ .gt
    { memory := memory } rfl rfl rfl (by rw [pointer]; decide) (by rw [pointer]; decide)
  have lowerCell : memory.read (memory.read 0 - 2) = 32767 := by
    rw [pointer]
    exact below
  have upperCell : memory.read (memory.read 0 - 1) = -1 := by
    rw [pointer]
    exact top
  have reduced : final.memory.read 0 = 257 := by
    rw [combined.pointer, pointer]
    rfl
  have untrue : truth ≠ -1 := by
    rw [ne_eq, decides.overflow (by decide), not_not, lowerCell, upperCell]
    · exact show (-1 : Word).toInt < (32767 : Word).toInt by decide
    · rw [lowerCell, upperCell]
      rintro ⟨-, most⟩
      exact absurd most (by decide)
  have exposed := combined.exposed
  rw [reduced] at exposed
  exact ⟨rfl, parsed, lowered, distinct, small, program, final, assembled, crosses.reaches,
    counter, reduced, exposed.trans (decides.boolean.resolve_left untrue)⟩

end StackLowering

import StackLowering.Machine.Program
import Mathlib.Data.List.Nodup

/-!
# Assembled code in place

A program holds a block at an address if the block's executable instructions
follow each other from there and its labels name their places. An assembled
program holds its own instructions at address zero (`holds_of_assemble`), and
`holds_append` finds every part of them; the two together replace any later look
at how assembling works. Assembling fails exactly on a repeated label.
-/

namespace StackLowering

/-- Whether an instruction takes up an address. -/
def Instruction.isExecutable : Instruction → Bool
  | .label _ | .comment _ => false
  | _ => true

/-- The number of addresses that a block takes up. -/
def Block.size (block : Block) : Nat := block.countP Instruction.isExecutable

namespace Block

/-- An empty block takes up no address. -/
@[simp] theorem size_nil : size [] = 0 := rfl

/-- Two blocks take up the addresses that each of them takes up. -/
@[simp] theorem size_append (first second : Block) :
    size (first ++ second) = first.size + second.size :=
  List.countP_append

/-- An instruction takes up one address more if it is executable. -/
@[simp] theorem size_cons (instruction : Instruction) (rest : Block) :
    size (instruction :: rest) = size rest + if instruction.isExecutable then 1 else 0 :=
  List.countP_cons

end Block

namespace Program

/-- The value that a program gives to a symbol. -/
def value (program : Program) (name : String) : Word :=
  (symbolValue? program.labels program.variableNames name).getD 0

/-- Whether a block stands at an address of a program. -/
def Holds (program : Program) : Nat → Block → Prop
  | _, [] => True
  | address, .label name :: rest =>
    program.labelAddress? name = some address ∧ program.Holds address rest
  | address, .comment _ :: rest => program.Holds address rest
  | address, instruction :: rest =>
    program.operations[address]? =
        operation? program.labels program.variableNames instruction ∧
      program.Holds (address + 1) rest

/-- A program holds two blocks one behind the other if it holds each of them at its address. -/
theorem holds_append {program : Program} {address : Nat} {first second : Block} :
    program.Holds address (first ++ second) ↔
      program.Holds address first ∧ program.Holds (address + first.size) second := by
  induction first generalizing address with
  | nil => simp [Holds]
  | cons instruction rest inductionHypothesis =>
    cases instruction with
    | label name => simp [Holds, Instruction.isExecutable, inductionHypothesis, and_assoc]
    | comment text => simp [Holds, Instruction.isExecutable, inductionHypothesis]
    | symbol name =>
      simp [Holds, Instruction.isExecutable, inductionHypothesis, and_assoc, Nat.add_assoc,
        Nat.add_comm 1]
    | literal value =>
      simp [Holds, Instruction.isExecutable, inductionHypothesis, and_assoc, Nat.add_assoc,
        Nat.add_comm 1]
    | compute destination computation jump =>
      simp [Holds, Instruction.isExecutable, inductionHypothesis, and_assoc, Nat.add_assoc,
        Nat.add_comm 1]

/-- The second of two labels counts the instructions in front of it. -/
theorem placeLabels_append (address : Nat) (first second : Block) :
    placeLabels address (first ++ second) =
      placeLabels address first ++ placeLabels (address + first.size) second := by
  induction first generalizing address with
  | nil => simp [placeLabels]
  | cons instruction rest inductionHypothesis =>
    cases instruction <;>
      simp [placeLabels, Instruction.isExecutable, inductionHypothesis, Nat.add_assoc,
        Nat.add_comm 1]

/-- The labels of a block are placed in the order in which it declares them. -/
theorem map_fst_placeLabels (address : Nat) (block : Block) :
    (placeLabels address block).map Prod.fst = Block.labels block := by
  induction block generalizing address with
  | nil => rfl
  | cons instruction rest inductionHypothesis =>
    cases instruction <;>
      simp [placeLabels, Block.labels, Instruction.declared?, List.filterMap_cons,
        inductionHypothesis]

/-- Every executable instruction becomes one operation. -/
theorem length_filterMap_operation? (labels : List (String × Nat)) (variableNames : List String)
    (block : Block) :
    (block.filterMap (operation? labels variableNames)).length = block.size := by
  induction block with
  | nil => rfl
  | cons instruction rest inductionHypothesis =>
    cases instruction with
    | compute destination computation jump =>
      unfold operation? at inductionHypothesis ⊢
      cases known : Computation.ofText? computation <;>
        simp_all [Instruction.isExecutable]
    | _ => simp [operation?, Instruction.isExecutable, List.filterMap_cons, inductionHypothesis]

/-- No name is repeated if all are different from each other and from those seen before. -/
theorem repeated?_eq_none_iff {seen names : List String} :
    repeated? seen names = none ↔ names.Nodup ∧ ∀ name ∈ names, name ∉ seen := by
  induction names generalizing seen with
  | nil => simp [repeated?]
  | cons name rest inductionHypothesis =>
    unfold repeated?
    split
    · rename_i present
      simp only [reduceCtorEq, false_iff]
      rintro ⟨-, apart⟩
      exact apart name List.mem_cons_self (by simpa using present)
    · rename_i absent
      have unseen : name ∉ seen := by simpa using absent
      rw [inductionHypothesis, List.nodup_cons]
      constructor
      · rintro ⟨distinct, apart⟩
        refine ⟨⟨fun member => apart name member List.mem_cons_self, distinct⟩, ?_⟩
        intro other member
        rcases List.mem_cons.mp member with rfl | later
        · exact unseen
        · exact fun early => apart other later (List.mem_cons_of_mem _ early)
      · rintro ⟨⟨fresh, distinct⟩, apart⟩
        refine ⟨distinct, fun other member early => ?_⟩
        rcases List.mem_cons.mp early with rfl | early
        · exact fresh member
        · exact apart other (List.mem_cons_of_mem _ member) early

/-- What an assembled program consists of. -/
theorem assemble_eq_ok {instructions : List Instruction} {program : Program}
    (assembled : assemble instructions = .ok program) :
    program.labels = placeLabels 0 instructions ∧
      program.operations.toList =
        instructions.filterMap (operation? program.labels program.variableNames) ∧
      (Block.labels instructions).Nodup := by
  unfold assemble at assembled
  dsimp only at assembled
  split at assembled
  · cases assembled
  · rename_i unrepeated
    cases assembled
    rw [map_fst_placeLabels, repeated?_eq_none_iff] at unrepeated
    exact ⟨rfl, rfl, unrepeated.1⟩

/-- Assembling fails exactly on instructions that declare a label twice. -/
theorem exists_assemble_eq_ok_iff {instructions : List Instruction} :
    (∃ program, assemble instructions = .ok program) ↔ (Block.labels instructions).Nodup := by
  constructor
  · rintro ⟨program, assembled⟩
    exact (assemble_eq_ok assembled).2.2
  · intro distinct
    have unrepeated : repeated? [] ((placeLabels 0 instructions).map Prod.fst) = none := by
      rw [map_fst_placeLabels, repeated?_eq_none_iff]
      exact ⟨distinct, by simp⟩
    unfold assemble
    dsimp only
    split
    · rename_i label found
      rw [unrepeated] at found
      cases found
    · exact ⟨_, rfl⟩

/-- A label of an assembled program counts the instructions in front of it. -/
theorem labelAddress?_of_assemble {before after : Block} {name : String} {program : Program}
    (assembled : assemble (before ++ .label name :: after) = .ok program) :
    program.labelAddress? name = some before.size := by
  obtain ⟨labels, -, distinct⟩ := assemble_eq_ok assembled
  have absent : (placeLabels 0 before).lookup name = none := by
    rw [List.lookup_eq_none_iff]
    intro entry member
    have declared : entry.1 ∈ Block.labels before := by
      rw [← map_fst_placeLabels 0]
      exact List.mem_map_of_mem member
    have earlier : entry.1 ≠ name := by
      rintro rfl
      rw [show Block.labels (before ++ .label entry.1 :: after) =
        Block.labels before ++ entry.1 :: Block.labels after from List.filterMap_append] at distinct
      exact (List.nodup_append.mp distinct).2.2 _ declared _ List.mem_cons_self rfl
    simpa using earlier.symm
  rw [labelAddress?, labels, placeLabels_append, List.lookup_append, absent]
  simp [placeLabels]

/-- An instruction of an assembled program stands behind all those in front of it. -/
theorem operation_of_assemble {before after : Block} {instruction : Instruction}
    {program : Program} (executable : instruction.isExecutable = true)
    (assembled : assemble (before ++ instruction :: after) = .ok program) :
    program.operations[before.size]? =
      operation? program.labels program.variableNames instruction := by
  obtain ⟨-, operations, -⟩ := assemble_eq_ok assembled
  have known : ∃ operation,
      operation? program.labels program.variableNames instruction = some operation := by
    cases instruction with
    | compute destination computation jump =>
      cases known : Computation.ofText? computation with
      | none => exact ⟨.invalid computation, by simp [operation?, known]⟩
      | some computed =>
        exact ⟨.compute (.ofText (destination.getD "")) computed jump, by simp [operation?, known]⟩
    | symbol name => exact ⟨_, rfl⟩
    | literal value => exact ⟨_, rfl⟩
    | label name => cases executable
    | comment text => cases executable
  obtain ⟨operation, found⟩ := known
  rw [← Array.getElem?_toList, operations, List.filterMap_append,
    List.getElem?_append_right (Nat.le_of_eq (length_filterMap_operation? ..)),
    length_filterMap_operation?, Nat.sub_self, List.filterMap_cons, found]
  rfl

/-- An assembled program holds its instructions from address zero on. -/
theorem holds_of_assemble {instructions : List Instruction} {program : Program}
    (assembled : assemble instructions = .ok program) : program.Holds 0 instructions := by
  -- The induction is on what is left, with everything in front of it given.
  have suffix : ∀ after before : Block, assemble (before ++ after) = .ok program →
      program.Holds before.size after := by
    intro after
    induction after with
    | nil => exact fun _ _ => trivial
    | cons instruction rest inductionHypothesis =>
      intro before assembled
      have later := inductionHypothesis (before ++ [instruction]) (by simpa using assembled)
      cases instruction with
      | label name =>
        exact ⟨labelAddress?_of_assemble assembled,
          by simpa [Instruction.isExecutable] using later⟩
      | comment text => simpa [Holds, Instruction.isExecutable] using later
      | symbol name =>
        exact ⟨operation_of_assemble rfl assembled,
          by simpa [Instruction.isExecutable] using later⟩
      | literal value =>
        exact ⟨operation_of_assemble rfl assembled,
          by simpa [Instruction.isExecutable] using later⟩
      | compute destination computation jump =>
        exact ⟨operation_of_assemble rfl assembled,
          by simpa [Instruction.isExecutable] using later⟩
  exact suffix instructions [] assembled

/-- An assembled program has as many operations as its instructions take up addresses. -/
theorem size_operations_of_assemble {instructions : List Instruction} {program : Program}
    (assembled : assemble instructions = .ok program) :
    program.operations.size = Block.size instructions := by
  rw [← Array.length_toList, (assemble_eq_ok assembled).2.1, length_filterMap_operation?]

/-- The labels of an assembled program are those that its instructions declare. -/
theorem labelAddress?_eq_none_of_assemble {instructions : List Instruction} {program : Program}
    {name : String} (assembled : assemble instructions = .ok program)
    (undeclared : name ∉ Block.labels instructions) : program.labelAddress? name = none := by
  rw [labelAddress?, (assemble_eq_ok assembled).1, List.lookup_eq_none_iff]
  intro entry member
  rw [← map_fst_placeLabels 0] at undeclared
  have other : name ≠ entry.1 := by
    rintro rfl
    exact undeclared (List.mem_map_of_mem member)
  simpa using other

/-- A label stands for its address. -/
theorem value_of_labelAddress? {program : Program} {name : String} {address : Nat}
    (placed : program.labelAddress? name = some address) :
    program.value name = BitVec.ofNat 16 address := by
  unfold labelAddress? at placed
  simp [value, symbolValue?, placed]

/-- A symbol that is no label stands for its cell. -/
theorem value_of_not_label {program : Program} {name : String}
    (unplaced : program.labelAddress? name = none) :
    program.value name = (program.cell? name).getD 0 := by
  unfold labelAddress? at unplaced
  simp only [value, symbolValue?, unplaced, cell?]

/-- The first uses of some names are uses of all of them. -/
theorem mem_firstUses {name : String} {names : List String} :
    name ∈ firstUses names ↔ name ∈ names := by
  induction names with
  | nil => rfl
  | cons first rest inductionHypothesis =>
    rw [firstUses, List.mem_cons, List.mem_filter, inductionHypothesis, List.mem_cons]
    by_cases same : name = first
    · simp [same]
    · simp [same]

/-- The variables of an assembled program are its loaded symbols that stand for nothing else. -/
theorem variableNames_of_assemble {instructions : List Instruction} {program : Program}
    (assembled : assemble instructions = .ok program) :
    program.variableNames = variablesOf program.labels instructions := by
  unfold assemble at assembled
  dsimp only at assembled
  split at assembled
  · cases assembled
  · cases assembled
    rfl

/-- A symbol that is loaded and is no label has a cell. -/
theorem exists_cell?_of_loaded {instructions : List Instruction} {program : Program}
    {name : String} (assembled : assemble instructions = .ok program)
    (loaded : name ∈ loadedSymbols instructions) (unplaced : program.labelAddress? name = none) :
    ∃ cell, program.cell? name = some cell := by
  unfold cell?
  cases known : predefined.lookup name with
  | some cell => exact ⟨cell, rfl⟩
  | none =>
    have listed : name ∈ program.variableNames := by
      unfold labelAddress? at unplaced
      rw [variableNames_of_assemble assembled, variablesOf, mem_firstUses, List.mem_filter]
      exact ⟨loaded, by simp [unplaced, known]⟩
    obtain ⟨index, found⟩ := Option.isSome_iff_exists.mp (List.isSome_idxOf?.mpr listed)
    exact ⟨_, by rw [variableCell?, found]; rfl⟩

end Program

end StackLowering

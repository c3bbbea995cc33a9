import StackLowering.Proofs.Assembly.Reader
import StackLowering.Proofs.Lowering.Shape

/-!
# Generated code can be written

Every instruction of generated code has a line in the grammar of assembly: the
names in it are symbols, whether they come from the target, from the program or
from the supply of labels, and the numbers in it are literals. `Lowers.isProper`
says so for every shape of code, and `Lowers.ne_nil` that no command is left
without code.
-/

namespace StackLowering

/-- A target whose cells and whose entry function have symbols for names. -/
structure Target.WellNamed (target : Target) : Prop where
  /-- The stack pointer, the scratch cells and the pointers of the segments. -/
  cells : ∀ cell ∈ target.cells, Symbol.isSymbol cell.toList = true
  entry : Symbol.isSymbol target.bootstrap.entry.toList = true

/-- A block whose instructions can all be written. -/
def Block.IsProper (block : Block) : Prop := ∀ instruction ∈ block, instruction.IsProper

namespace Block

/-- An empty block is proper. -/
@[simp] theorem isProper_nil : IsProper [] := fun _ member => by cases member

/-- A block is proper if its first instruction and the others are. -/
@[simp] theorem isProper_cons {instruction : Instruction} {block : Block} :
    IsProper (instruction :: block) ↔ instruction.IsProper ∧ IsProper block :=
  List.forall_mem_cons

/-- Two blocks one behind the other are proper if each of them is. -/
@[simp] theorem isProper_append {first second : Block} :
    IsProper (first ++ second) ↔ IsProper first ∧ IsProper second :=
  List.forall_mem_append

end Block

/-! ## Names -/

namespace Symbol

/-- A symbol stays one when characters of symbols are added at its end. -/
theorem isSymbol_append {front back : List Char} (symbol : isSymbol front = true)
    (continuation : back.all isContinuation = true) : isSymbol (front ++ back) = true := by
  cases front with
  | nil => cases symbol
  | cons first rest =>
    simp only [isSymbol, List.cons_append, List.all_append, Bool.and_eq_true] at symbol ⊢
    exact ⟨symbol.1, symbol.2, continuation⟩

/-- A symbol may go on with the digits of a number. -/
theorem isContinuation_repr (number : Nat) :
    number.repr.toList.all isContinuation = true := by
  rw [Nat.toList_repr, List.all_eq_true]
  intro character member
  have digit := Nat.isDigit_of_mem_toDigits (b := 10) (by decide) (by decide) member
  simp [isContinuation, digit]

end Symbol

/-- The symbols of statics are symbols if the name of their unit is one. -/
theorem Location.isSymbol_staticSymbol {unit : String} (symbol : Symbol.isSymbol unit.toList = true)
    (index : Word) : Symbol.isSymbol (staticSymbol unit index).toList = true := by
  have mark : staticMark.toList.all Symbol.isContinuation = true := by decide
  rw [staticSymbol, Word.text, String.toList_append, String.toList_append, List.append_assoc]
  apply Symbol.isSymbol_append symbol
  rw [List.all_append, mark, Symbol.isContinuation_repr, Bool.and_true]

/-- Issued labels are symbols if the name of their unit is one and their purpose has no other
characters. -/
theorem Spelled.isSymbol {unit purpose label : String} {line : Nat}
    (spelled : Spelled unit line purpose label) (symbol : Symbol.isSymbol unit.toList = true)
    (purposeful : purpose.toList.all Symbol.isContinuation = true) :
    Symbol.isSymbol label.toList = true := by
  obtain ⟨counter, rfl⟩ := spelled
  have underscore : "_".toList.all Symbol.isContinuation = true := by decide
  simp only [LabelSupply.spell, String.toList_append, List.append_assoc]
  apply Symbol.isSymbol_append symbol
  simp only [List.all_append, underscore, purposeful, Symbol.isContinuation_repr, Bool.and_true]

namespace Target.WellNamed

variable {target : Target}

/-- Reserved cells have symbols as names. -/
theorem of_isReserved (named : target.WellNamed) {cell : String}
    (reserved : target.isReserved cell = true) : Symbol.isSymbol cell.toList = true :=
  named.cells cell (Target.isReserved_iff.mp reserved)

/-- The stack pointer has a symbol as its name. -/
theorem stackPointer (named : target.WellNamed) :
    Symbol.isSymbol target.stackPointer.toList = true :=
  named.of_isReserved target.isReserved_stackPointer

/-- The cell for the base of a frame has a symbol as its name. -/
theorem frame (named : target.WellNamed) :
    Symbol.isSymbol target.scratch.frame.toList = true :=
  named.cells _ (by simp [Target.cells])

/-- The cell for return addresses has a symbol as its name. -/
theorem returnAddress (named : target.WellNamed) :
    Symbol.isSymbol target.scratch.returnAddress.toList = true :=
  named.cells _ (by simp [Target.cells])

/-- The pointers of the segments have symbols as names. -/
theorem pointer (named : target.WellNamed) {segment : MappedSegment} {pointer : String}
    (addressed : target.addressing segment = .indirect pointer) :
    Symbol.isSymbol pointer.toList = true :=
  named.of_isReserved (Target.isReserved_pointer addressed)

end Target.WellNamed

/-! ## Locations -/

/-- A location whose name is a symbol and whose number is a literal. -/
def Location.IsProper : Location → Prop
  | .literal value => value.toNat ≤ 32767
  | .indirect pointer index => Symbol.isSymbol pointer.toList = true ∧ index.toNat ≤ 32767
  | .absolute address => address.toNat ≤ 32767
  | .symbol name => Symbol.isSymbol name.toList = true

/-- Elements with literals for indices have proper locations. -/
theorem Location.Resolves.isProper {target : Target} {unit : String} {segment : Segment}
    {index : Word} {location : Location} (named : target.WellNamed)
    (unitSymbol : Symbol.isSymbol unit.toList = true) (small : index.toNat ≤ 32767)
    (resolves : Location.Resolves target unit segment index location) : location.IsProper := by
  cases resolves with
  | constant => exact small
  | static => exact Location.isSymbol_staticSymbol unitSymbol index
  | indirect addressed => exact ⟨named.pointer addressed, small⟩
  | fixed addressed reachable =>
    exact Nat.le_trans (by rw [BitVec.toNat_add]; exact Nat.mod_le _ _) reachable

namespace Lowering

variable {target : Target}

/-! ## Pieces of code -/

/-- The code of a push of the data register is proper. -/
theorem isProper_pushData (named : target.WellNamed) : Block.IsProper (pushData target) := by
  simp +decide [pushData, named.stackPointer]

/-- The code of a pop to the data register is proper. -/
theorem isProper_popData (named : target.WellNamed) : Block.IsProper (popData target) := by
  simp +decide [popData, named.stackPointer]

/-- Code that fetches from a proper location is proper. -/
theorem isProper_fetch {location : Location} (proper : location.IsProper) :
    Block.IsProper (fetch location) := by
  cases location with
  | literal value =>
    have small : value.toNat ≤ 32767 := proper
    simp +decide [fetch, small]
  | indirect pointer index =>
    obtain ⟨symbol, small⟩ := proper
    simp only [fetch]
    split
    · simp +decide [symbol]
    · simp +decide [symbol, small]
  | absolute address =>
    have small : address.toNat ≤ 32767 := proper
    simp +decide [fetch, small]
  | symbol name =>
    have symbol : Symbol.isSymbol name.toList = true := proper
    simp +decide [fetch, symbol]

/-- Code that saves a cell named by a symbol is proper. -/
theorem isProper_saveCell (named : target.WellNamed) {cell : String}
    (symbol : Symbol.isSymbol cell.toList = true) : Block.IsProper (saveCell target cell) := by
  simp +decide [saveCell, symbol, isProper_pushData named]

/-- Code that restores a cell named by a symbol is proper. -/
theorem isProper_restoreCell (named : target.WellNamed) {cell : String}
    (symbol : Symbol.isSymbol cell.toList = true) : Block.IsProper (restoreCell target cell) := by
  simp +decide [restoreCell, symbol, named.frame]

/-- A jump to a symbol is proper. -/
theorem isProper_goto {name : String} (symbol : Symbol.isSymbol name.toList = true) :
    Block.IsProper (goto name) := by
  simp +decide [goto, Instruction.jump, symbol]

/-- The code of a function named by a symbol is proper. -/
theorem isProper_function (named : target.WellNamed) {name : String}
    (symbol : Symbol.isSymbol name.toList = true) (locals : Word) :
    Block.IsProper (function target name locals) := by
  have small : (0 : Word).toNat ≤ 32767 := by decide
  have zero : Block.IsProper (pushZero target) :=
    Block.isProper_append.mpr ⟨isProper_fetch small, isProper_pushData named⟩
  refine Block.isProper_cons.mpr ⟨Instruction.isProper_label symbol, fun instruction member => ?_⟩
  obtain ⟨piece, inZeros, inPiece⟩ := List.mem_flatten.mp member
  rw [List.eq_of_mem_replicate inZeros] at inPiece
  exact zero instruction inPiece

/-- The code of a comparison needs two labels, which are symbols. -/
theorem isProper_compare (named : target.WellNamed) {comparison : Comparison}
    {whenTrue done : String} (trueSymbol : Symbol.isSymbol whenTrue.toList = true)
    (doneSymbol : Symbol.isSymbol done.toList = true) :
    Block.IsProper (compare target comparison whenTrue done) := by
  simp +decide [compare, Instruction.jump, isProper_popData named, named.stackPointer, trueSymbol,
    doneSymbol]

/-- The code of a return is proper. -/
theorem isProper_ret (named : target.WellNamed) {pointers : FramePointers}
    (restored : pointers.Address target) : Block.IsProper (ret target pointers) := by
  have locals := named.pointer restored.locals
  have argument := named.pointer restored.argument
  have this := named.pointer restored.this
  have that := named.pointer restored.that
  simp +decide [ret, Instruction.jump, isProper_popData named, isProper_restoreCell named,
    named.stackPointer, named.frame, named.returnAddress, locals, argument, this, that]

/-- The distance down to the first argument is a literal. -/
theorem toNat_le_of_argumentOffset {arguments offset : Word}
    (reach : argumentOffset arguments = .ok offset) : offset.toNat ≤ 32767 := by
  unfold argumentOffset at reach
  split at reach
  · rename_i small
    cases reach
    exact Nat.le_trans (by rw [BitVec.toNat_add]; exact Nat.mod_le _ _) small
  · cases reach

/-- The code of a call between units and functions named by symbols is proper. -/
theorem Calls.isProper {unit : String} {line : Nat} {name : String} {arguments : Word}
    {returnLabel : String} {block : Block} (named : target.WellNamed)
    (unitSymbol : Symbol.isSymbol unit.toList = true)
    (nameSymbol : Symbol.isSymbol name.toList = true)
    (calls : Calls target unit line name arguments returnLabel block) :
    Block.IsProper block := by
  obtain ⟨saved, reach, spelled⟩ := calls
  have label := spelled.isSymbol unitSymbol (by decide)
  have small := toNat_le_of_argumentOffset reach
  have locals := named.pointer saved.locals
  have argument := named.pointer saved.argument
  have this := named.pointer saved.this
  have that := named.pointer saved.that
  simp +decide [call, Instruction.jump, isProper_pushData named, isProper_saveCell named,
    named.stackPointer, nameSymbol, label, small, locals, argument, this, that]

/-! ## Commands -/

/-- The code of a command that can be written consists of instructions that can be written. -/
theorem Lowers.isProper {unit : String} {line : Nat} {command : Command} {issued : List String}
    {block : Block} (named : target.WellNamed) (unitSymbol : Symbol.isSymbol unit.toList = true)
    (writable : command.IsWritable) (lowers : Lowers target unit line command issued block) :
    Block.IsProper block := by
  obtain ⟨words, spells⟩ := writable
  have popped := isProper_popData named
  cases lowers with
  | push resolves =>
    cases spells with
    | push literal =>
      have proper := resolves.isProper named unitSymbol literal.small
      exact Block.isProper_append.mpr ⟨isProper_fetch proper, isProper_pushData named⟩
  | popFirst resolves =>
    cases spells with
    | pop literal =>
      have proper := resolves.isProper named unitSymbol literal.small
      simp +decide [popped, proper.1]
  | popLater resolves later =>
    cases spells with
    | pop literal =>
      have proper := resolves.isProper named unitSymbol literal.small
      simp +decide [popped, proper.1, proper.2, named.frame]
  | popAbsolute resolves =>
    cases spells with
    | pop literal =>
      have small : BitVec.toNat _ ≤ 32767 := resolves.isProper named unitSymbol literal.small
      simp +decide [popped, small]
  | popSymbol resolves =>
    cases spells with
    | pop literal =>
      have symbol : Symbol.isSymbol _ = true := resolves.isProper named unitSymbol literal.small
      simp +decide [popped, symbol]
  | binary =>
    rename_i operator
    cases operator <;> simp +decide [Lowering.binary, binaryComputation, popped]
  | unary =>
    rename_i operator
    cases operator <;> simp +decide [Lowering.unary, unaryComputation, named.stackPointer]
  | compare trueSpelled doneSpelled =>
    rename_i comparison whenTrue done
    exact isProper_compare named
      (trueSpelled.isSymbol unitSymbol (by cases comparison <;> decide))
      (doneSpelled.isSymbol unitSymbol (by cases comparison <;> decide))
  | label =>
    cases spells with
    | label symbol => simp [symbol]
  | goto =>
    cases spells with
    | goto symbol => exact isProper_goto symbol
  | ifGoto =>
    cases spells with
    | ifGoto symbol => simp +decide [Lowering.ifGoto, popped, symbol]
  | function =>
    cases spells with
    | function symbol literal => exact isProper_function named symbol _
  | call calls =>
    cases spells with
    | call symbol literal => exact calls.isProper named unitSymbol symbol
  | ret restored => exact isProper_ret named restored

/-- No command is left without code. -/
theorem Lowers.ne_nil {unit : String} {line : Nat} {command : Command} {issued : List String}
    {block : Block} (lowers : Lowers target unit line command issued block) : block ≠ [] := by
  cases lowers with
  | push resolves => simp [pushData]
  | call calls =>
    cases calls
    exact List.cons_ne_nil _ _
  | popFirst | popLater | popAbsolute | popSymbol => simp
  | binary | unary | compare | label | goto | ifGoto | function | ret => exact List.cons_ne_nil _ _

/-- Startup code can be written if the stack base is a literal. -/
theorem isProper_initializeStack (named : target.WellNamed)
    (small : target.bootstrap.stackBase.toNat ≤ 32767) :
    Block.IsProper (initializeStack target) := by
  simp +decide [initializeStack, small, named.stackPointer]

end Lowering

end StackLowering

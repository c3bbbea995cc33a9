import StackLowering.Assembly.Instruction
import StackLowering.Machine.Computation
import StackLowering.Proofs.Command.Canonical
import Mathlib.Data.List.Forall2

/-!
# Reading assembly

`Written` is the grammar of assembly: it lists the lines that there are, each with
the instruction that it stands for. `Instruction.read?` reads a line, and
`Instruction.read?_eq_some_iff` says that it follows the grammar, so that no line
stands for two instructions. In the other direction every instruction has at most
one line, which is its text.
-/

namespace StackLowering

/-- Whether some characters name the places to which a value is stored: letters of registers and
of the memory cell, none of them twice. -/
def isDestination (letters : List Char) : Bool :=
  !letters.isEmpty && letters.all fun letter =>
    ['A', 'D', 'M'].contains letter && letters.count letter == 1

/-- The lines of assembly and the instructions that they stand for. -/
inductive Written : List Char → Instruction → Prop where
  | symbol {name : String} (symbol : Symbol.isSymbol name.toList = true) :
      Written ('@' :: name.toList) (.symbol name)
  | literal {value : Word} (small : value.toNat ≤ 32767) :
      Written ('@' :: value.text.toList) (.literal value)
  | assign {destination : String} {computation : Computation}
      (places : isDestination destination.toList = true) :
      Written (destination.toList ++ '=' :: computation.text.toList)
        (.compute (some destination) computation.text none)
  | branch {computation : Computation} {jump : Jump} :
      Written (computation.text.toList ++ ';' :: jump.text.toList)
        (.compute none computation.text (some jump))
  | label {name : String} (symbol : Symbol.isSymbol name.toList = true) :
      Written ('(' :: name.toList ++ [')']) (.label name)
  | comment {command : Command} (writable : command.IsWritable) :
      Written ('/' :: '/' :: ' ' :: command.text.toList) (.comment command.text)

/-- A text that is read as a jump is the text of that jump. -/
theorem Jump.text_of_ofText? {text : String} {jump : Jump} (found : ofText? text = some jump) :
    jump.text = text := by
  simpa using List.find?_some found

namespace Instruction

/-! ## The reader -/

/-- Reads what follows the mark of a load. Numbers are read in their shortest form only. -/
def readLoad? (operand : List Char) : Option Instruction :=
  let value : Word := BitVec.ofNat 16 (Nat.ofDigitChars 10 operand 0)
  if Symbol.isSymbol operand then some (.symbol (String.ofList operand))
  else if value.text.toList = operand ∧ value.toNat ≤ 32767 then some (.literal value)
  else none

/-- Reads what follows the opening bracket of a label. -/
def readLabel? (rest : List Char) : Option Instruction :=
  if rest.getLast? = some ')' ∧ Symbol.isSymbol rest.dropLast then
    some (.label (String.ofList rest.dropLast))
  else none

/-- Reads what follows the marks of a comment, which has to be the canonical text of a command. -/
def readComment? (text : List Char) : Option Instruction :=
  match Command.parse text 0 with
  | .ok command =>
    if command.value.text.toList = text then some (.comment command.value.text) else none
  | .error _ => none

/-- Reads the two sides of an assignment. -/
def readAssignment? (destination computation : List Char) : Option Instruction :=
  if isDestination destination then
    (Computation.ofText? (String.ofList computation)).map fun known =>
      .compute (some (String.ofList destination)) known.text none
  else none

/-- Reads the two sides of a jump. -/
def readBranch? (computation jump : List Char) : Option Instruction := do
  let known ← Computation.ofText? (String.ofList computation)
  let condition ← Jump.ofText? (String.ofList jump)
  return .compute none known.text (some condition)

/-- Reads a line without a mark in front: an assignment or a jump. -/
def readCompute? (line : List Char) : Option Instruction :=
  match line.splitOn '=' with
  | [destination, computation] => readAssignment? destination computation
  | _ =>
    match line.splitOn ';' with
    | [computation, jump] => readBranch? computation jump
    | _ => none

/-- Reads a line of assembly. -/
def read? : List Char → Option Instruction
  | [] => none
  | '@' :: operand => readLoad? operand
  | '(' :: rest => readLabel? rest
  | '/' :: '/' :: ' ' :: text => readComment? text
  | line => readCompute? line

/-! ## Marks -/

/-- The characters that tell the parts of a line, and lines, apart. -/
def marks : List Char := ['@', '(', '/', '=', ';', '\n']

/-- Whether a part of a line has no mark in it. -/
def isUnmarked (part : List Char) : Bool := part.all fun character => !marks.contains character

/-- An unmarked part of a line has none of the marks at which lines are split. -/
theorem not_mem_of_isUnmarked {part : List Char} (unmarked : isUnmarked part = true) {mark : Char}
    (isMark : marks.contains mark = true) : mark ∉ part := by
  intro member
  have apart := List.all_eq_true.mp unmarked mark member
  rw [isMark] at apart
  cases apart

/-- No computation is written with a mark. -/
theorem isUnmarked_computation (computation : Computation) :
    isUnmarked computation.text.toList = true := by
  cases computation with
  | zero | one | minusOne => decide
  | copy operand | complement operand | negate operand | increment operand
  | decrement operand => cases operand <;> decide
  | add partner | subtract partner | subtractFrom partner | and partner
  | or partner => cases partner <;> decide

/-- No jump is written with a mark. -/
theorem isUnmarked_jump (jump : Jump) : isUnmarked jump.text.toList = true := by
  cases jump <;> decide

/-- A destination consists of register letters, none of which is a mark. -/
theorem isUnmarked_destination {letters : List Char} (places : isDestination letters = true) :
    isUnmarked letters = true := by
  simp only [isDestination, Bool.and_eq_true, List.all_eq_true, List.contains_cons,
    Bool.or_eq_true, beq_iff_eq] at places
  refine List.all_eq_true.mpr fun letter member => ?_
  obtain rfl | rfl | rfl | none := (places.2 letter member).1
  · decide
  · decide
  · decide
  · cases none

/-- Two parts that a mark separates, and which it does not occur in, are found again. -/
theorem splitOn_pair {mark : Char} {first second : List Char} (inFirst : mark ∉ first)
    (inSecond : mark ∉ second) : (first ++ mark :: second).splitOn mark = [first, second] := by
  have apart : ∀ part ∈ [first, second], mark ∉ part := by
    simpa using ⟨inFirst, inSecond⟩
  simpa using List.splitOn_intercalate mark apart (List.cons_ne_nil _ _)

/-- A line that falls into two parts at a mark consists of them and the mark. -/
theorem eq_of_splitOn_pair {mark : Char} {line first second : List Char}
    (split : line.splitOn mark = [first, second]) : line = first ++ mark :: second := by
  have joined : [mark].intercalate (line.splitOn mark) = line := List.intercalate_splitOn mark
  rw [split] at joined
  simpa using joined.symm

/-! ## The reader follows the grammar -/

/-- A line that begins with a part without marks is an assignment or a jump. -/
theorem read?_of_unmarked {front rest : List Char} (nonempty : front ≠ [])
    (unmarked : isUnmarked front = true) :
    read? (front ++ rest) = readCompute? (front ++ rest) := by
  obtain ⟨first, others, rfl⟩ := List.exists_cons_of_ne_nil nonempty
  have apart : ∀ mark, marks.contains mark = true → mark ≠ first := by
    rintro mark isMark rfl
    exact not_mem_of_isUnmarked unmarked isMark List.mem_cons_self
  generalize written : first :: others ++ rest = line
  unfold read?
  split
  · rfl
  · exact absurd (List.cons.inj written).1.symm (apart '@' (by decide))
  · exact absurd (List.cons.inj written).1.symm (apart '(' (by decide))
  · exact absurd (List.cons.inj written).1.symm (apart '/' (by decide))
  · rfl

/-- What is read behind an at sign is a load written there. -/
theorem written_of_readLoad? {operand : List Char} {instruction : Instruction}
    (read : readLoad? operand = some instruction) : Written ('@' :: operand) instruction := by
  unfold readLoad? at read
  dsimp only at read
  split at read
  · rename_i symbol
    cases read
    have name : (String.ofList operand).toList = operand := String.toList_ofList
    rw [← name] at symbol
    simpa only [name] using Written.symbol symbol
  · split at read
    · rename_i number
      cases read
      simpa only [number.1] using Written.literal number.2
    · cases read

/-- What is read behind an opening parenthesis is a label written there. -/
theorem written_of_readLabel? {rest : List Char} {instruction : Instruction}
    (read : readLabel? rest = some instruction) : Written ('(' :: rest) instruction := by
  unfold readLabel? at read
  split at read
  · rename_i closed
    cases read
    have name : (String.ofList rest.dropLast).toList = rest.dropLast := String.toList_ofList
    have whole : rest.dropLast ++ [')'] = rest :=
      List.dropLast_append_getLast? ')' (Option.mem_def.mpr closed.1)
    have symbol := closed.2
    rw [← name] at symbol
    simpa only [name, List.cons_append, whole] using Written.label symbol
  · cases read

/-- What is read behind two slashes and a blank is a comment written there. -/
theorem written_of_readComment? {text : List Char} {instruction : Instruction}
    (read : readComment? text = some instruction) :
    Written ('/' :: '/' :: ' ' :: text) instruction := by
  unfold readComment? at read
  split at read
  · rename_i command parsed
    split at read
    · rename_i canonical
      cases read
      simpa only [canonical] using Written.comment (Command.isWritable_of_parse parsed)
    · cases read
  · cases read

/-- What is read at the two sides of an equals sign is an assignment written there. -/
theorem written_of_readAssignment? {destination computation : List Char}
    {instruction : Instruction} (read : readAssignment? destination computation = some instruction) :
    Written (destination ++ '=' :: computation) instruction := by
  unfold readAssignment? at read
  split at read
  · rename_i places
    obtain ⟨known, found, rfl⟩ := Option.map_eq_some_iff.mp read
    have letters : (String.ofList destination).toList = destination := String.toList_ofList
    have text : known.text.toList = computation := by
      rw [Computation.text_of_ofText? found, String.toList_ofList]
    rw [← letters] at places
    rw [← text]
    simpa only [letters] using Written.assign places
  · cases read

/-- What is read at the two sides of a semicolon is a branch written there. -/
theorem written_of_readBranch? {computation jump : List Char} {instruction : Instruction}
    (read : readBranch? computation jump = some instruction) :
    Written (computation ++ ';' :: jump) instruction := by
  obtain ⟨known, found, read⟩ := Option.bind_eq_some_iff.mp read
  obtain ⟨condition, foundJump, read⟩ := Option.bind_eq_some_iff.mp read
  cases read
  have text : known.text.toList = computation := by
    rw [Computation.text_of_ofText? found, String.toList_ofList]
  have jumpText : condition.text.toList = jump := by
    rw [Jump.text_of_ofText? foundJump, String.toList_ofList]
  rw [← text, ← jumpText]
  exact .branch

/-- A line is only read as an instruction that it writes. -/
theorem written_of_read? {line : List Char} {instruction : Instruction}
    (read : read? line = some instruction) : Written line instruction := by
  unfold read? at read
  split at read
  · cases read
  · exact written_of_readLoad? read
  · exact written_of_readLabel? read
  · exact written_of_readComment? read
  · unfold readCompute? at read
    split at read
    · rename_i destination computation split
      rw [eq_of_splitOn_pair split]
      exact written_of_readAssignment? read
    · split at read
      · rename_i computation jump split
        rw [eq_of_splitOn_pair split]
        exact written_of_readBranch? read
      · cases read

/-- A number is no symbol, so that a load of it is read as a number. -/
theorem read?_literal {value : Word} (small : value.toNat ≤ 32767) :
    read? ('@' :: value.text.toList) = some (.literal value) := by
  have literal := Word.isLiteral_text small
  have number : BitVec.ofNat 16 (Nat.ofDigitChars 10 value.text.toList 0) = value := by
    rw [literal.value_eq, BitVec.ofNat_toNat, BitVec.setWidth_eq]
  have noSymbol : Symbol.isSymbol value.text.toList = false := by
    rw [Bool.eq_false_iff]
    intro symbol
    have numeral := literal.numeral
    rw [Token.isNumeral_eq_false_of_isName (Token.isName_of_isSymbol symbol)] at numeral
    cases numeral
  simp [read?, readLoad?, noSymbol, number, small]

/-- An assignment to some registers is read back. -/
theorem read?_assignment {destination : String} (places : isDestination destination.toList = true)
    (computation : Computation) :
    read? (destination.toList ++ '=' :: computation.text.toList) =
      some (.compute (some destination) computation.text none) := by
  have unmarked := isUnmarked_destination places
  have isMark : marks.contains '=' = true := by decide
  have split := splitOn_pair (not_mem_of_isUnmarked unmarked isMark)
    (not_mem_of_isUnmarked (isUnmarked_computation computation) isMark)
  have nonempty : destination.toList ≠ [] := by
    intro empty
    rw [empty] at places
    cases places
  rw [read?_of_unmarked nonempty unmarked]
  simp [readCompute?, split, readAssignment?, places, Computation.ofText?_text]

/-- A branch is read back. -/
theorem read?_branch (computation : Computation) (jump : Jump) :
    read? (computation.text.toList ++ ';' :: jump.text.toList) =
      some (.compute none computation.text (some jump)) := by
  have unmarked := isUnmarked_computation computation
  have jumpUnmarked := isUnmarked_jump jump
  have nonempty : computation.text.toList ≠ [] := by
    intro empty
    have known := computation.ofText?_text
    rw [String.toList_eq_nil_iff.mp empty] at known
    cases known
  -- The line has no `=` and stays whole, so it is not taken for an assignment.
  have unassigned : ∀ part ∈ [computation.text.toList ++ ';' :: jump.text.toList],
      '=' ∉ part := by
    simpa using ⟨not_mem_of_isUnmarked unmarked (by decide),
      not_mem_of_isUnmarked jumpUnmarked (by decide)⟩
  have whole := List.splitOn_intercalate '=' unassigned (List.cons_ne_nil _ _)
  rw [List.intercalate_singleton] at whole
  have isMark : marks.contains ';' = true := by decide
  have split := splitOn_pair (not_mem_of_isUnmarked unmarked isMark)
    (not_mem_of_isUnmarked jumpUnmarked isMark)
  rw [read?_of_unmarked nonempty unmarked]
  simp [readCompute?, whole, split, readBranch?, Computation.ofText?_text, Jump.ofText?_text]

/-- A line that writes an instruction is read as that instruction. -/
theorem read?_of_written {line : List Char} {instruction : Instruction}
    (written : Written line instruction) : read? line = some instruction := by
  cases written with
  | symbol symbol => simp [read?, readLoad?, symbol]
  | literal small => exact read?_literal small
  | assign places => exact read?_assignment places _
  | branch => exact read?_branch _ _
  | label symbol => simp [read?, readLabel?, symbol]
  | comment writable => simp [read?, readComment?, Command.parse_text writable]

/-- The reader reads exactly the lines of the grammar. -/
theorem read?_eq_some_iff {line : List Char} {instruction : Instruction} :
    read? line = some instruction ↔ Written line instruction :=
  ⟨written_of_read?, read?_of_written⟩

/-- Some lines are read as the instructions that they stand for, one by one. -/
theorem mapM_read?_eq_some_iff {lines : List (List Char)} {instructions : List Instruction} :
    lines.mapM read? = some instructions ↔ List.Forall₂ Written lines instructions := by
  induction lines generalizing instructions with
  | nil => simp [eq_comm]
  | cons line rest inductionHypothesis =>
    simp only [List.mapM_cons, Option.bind_eq_bind, Option.bind_eq_some_iff, Option.pure_def,
      Option.some.injEq, List.forall₂_cons_left_iff, inductionHypothesis, read?_eq_some_iff]
    constructor
    · rintro ⟨first, written, others, rests, rfl⟩
      exact ⟨first, others, written, rests, rfl⟩
    · rintro ⟨first, others, written, rests, rfl⟩
      exact ⟨first, written, others, rests, rfl⟩

/-- A load of a number that fits is read in its shortest form only. -/
example : [read? "@32767".toList, read? "@032767".toList, read? "@32768".toList] =
    [some (.literal 32767), none, none] := by
  decide +kernel

end Instruction

namespace Written

variable {line : List Char} {instruction : Instruction}

/-- The line of an instruction is its text. -/
theorem eq_text (written : Written line instruction) : line = instruction.text.toList := by
  cases written <;> simp [Instruction.text]

/-- Lines are not empty, and they do not break. -/
theorem unbroken (written : Written line instruction) : line ≠ [] ∧ '\n' ∉ line := by
  have inSymbol : ∀ {name : List Char}, Symbol.isSymbol name = true → '\n' ∉ name := fun symbol =>
    Token.lineFeed_not_mem (by rw [Token.isToken, Token.isName_of_isSymbol symbol, Bool.or_true])
  have inPart : ∀ {part : List Char}, Instruction.isUnmarked part = true → '\n' ∉ part :=
    fun unmarked => Instruction.not_mem_of_isUnmarked unmarked (by decide)
  cases written with
  | symbol symbol => simpa using inSymbol symbol
  | literal small =>
    have numeral := (Word.isLiteral_text small).numeral
    simpa using Token.lineFeed_not_mem (by rw [Token.isToken, numeral, Bool.true_or])
  | assign places =>
    simpa using ⟨inPart (Instruction.isUnmarked_destination places),
      inPart (Instruction.isUnmarked_computation _)⟩
  | branch =>
    simpa using ⟨inPart (Instruction.isUnmarked_computation _),
      inPart (Instruction.isUnmarked_jump _)⟩
  | label symbol => simpa using inSymbol symbol
  | comment writable => simpa using Command.lineFeed_not_mem_text writable

end Written

/-! ## Instructions that have a line -/

/-- An instruction that the grammar can write. -/
def Instruction.IsProper (instruction : Instruction) : Prop :=
  Written instruction.text.toList instruction

/-- Only proper instructions are written in lines. -/
theorem Written.isProper {line : List Char} {instruction : Instruction}
    (written : Written line instruction) : instruction.IsProper := by
  rw [Instruction.IsProper, ← written.eq_text]
  exact written

namespace Instruction

/-- A load of a symbol is proper. -/
@[simp] theorem isProper_symbol {name : String} (symbol : Symbol.isSymbol name.toList = true) :
    (Instruction.symbol name).IsProper :=
  (Written.symbol symbol).isProper

/-- A load of a literal of fifteen bits is proper. -/
@[simp] theorem isProper_literal {value : Word} (small : value.toNat ≤ 32767) :
    (Instruction.literal value).IsProper :=
  (Written.literal small).isProper

/-- An assignment of a known computation to registers is proper. -/
@[simp] theorem isProper_assign {destination computation : String}
    (places : isDestination destination.toList = true)
    (known : (Computation.ofText? computation).isSome = true) :
    (assign destination computation).IsProper := by
  obtain ⟨value, found⟩ := Option.isSome_iff_exists.mp known
  rw [← Computation.text_of_ofText? found]
  exact (Written.assign places).isProper

/-- A branch on a known computation is proper. -/
@[simp] theorem isProper_branch {computation : String} {jump : Jump}
    (known : (Computation.ofText? computation).isSome = true) :
    (branch computation jump).IsProper := by
  obtain ⟨value, found⟩ := Option.isSome_iff_exists.mp known
  rw [← Computation.text_of_ofText? found]
  exact Written.branch.isProper

/-- A label that is a symbol is proper. -/
@[simp] theorem isProper_label {name : String} (symbol : Symbol.isSymbol name.toList = true) :
    (Instruction.label name).IsProper :=
  (Written.label symbol).isProper

end Instruction

end StackLowering

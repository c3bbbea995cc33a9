import StackLowering.Command.Parser
import StackLowering.Proofs.Text.Tokens
import Mathlib.Data.List.Basic

/-!
# The grammar of commands

`Spells` lists the ways to write a command as words, and `Refused` the reasons for
which a line is not a command, in the order in which they are looked for, each
with the characters to blame. Between them they leave no line out
(`spells_or_refused`), and `Command.parse` follows both: `Command.parse_follows_grammar`
says which lines are read as which commands, and which fault every other line has.
-/

namespace StackLowering

open Text (PlacedWord)

/-- A word of digits that denotes a literal; zeros in front do not matter. -/
structure IsLiteral (digits : List Char) (value : Word) : Prop where
  numeral : Token.isNumeral digits = true
  value_eq : Nat.ofDigitChars 10 digits 0 = value.toNat
  small : value.toNat ≤ Word.maxLiteral

/-- How a command is written as words. -/
inductive Spells : List (List Char) → Command → Prop where
  | push {segment : Segment} {index : Word} {digits : List Char}
      (literal : IsLiteral digits index) :
      Spells ["push".toList, segment.name.toList, digits] (.push segment index)
  | pop {segment : Segment} {index : Word} {digits : List Char}
      (literal : IsLiteral digits index) :
      Spells ["pop".toList, segment.name.toList, digits] (.pop segment index)
  | binary {operator : BinaryOperator} : Spells [operator.name.toList] (.binary operator)
  | unary {operator : UnaryOperator} : Spells [operator.name.toList] (.unary operator)
  | compare {comparison : Comparison} : Spells [comparison.name.toList] (.compare comparison)
  | label {name : String} (symbol : Symbol.isSymbol name.toList = true) :
      Spells ["label".toList, name.toList] (.label name)
  | goto {name : String} (symbol : Symbol.isSymbol name.toList = true) :
      Spells ["goto".toList, name.toList] (.goto name)
  | ifGoto {name : String} (symbol : Symbol.isSymbol name.toList = true) :
      Spells ["if-goto".toList, name.toList] (.ifGoto name)
  | function {name : String} {locals : Word} {digits : List Char}
      (symbol : Symbol.isSymbol name.toList = true) (literal : IsLiteral digits locals) :
      Spells ["function".toList, name.toList, digits] (.function name locals)
  | call {name : String} {arguments : Word} {digits : List Char}
      (symbol : Symbol.isSymbol name.toList = true) (literal : IsLiteral digits arguments) :
      Spells ["call".toList, name.toList, digits] (.call name arguments)
  | ret : Spells ["return".toList] .ret

/-- What an operand has to be. -/
inductive OperandKind where
  | segment
  | symbol
  | literal
deriving DecidableEq, Repr

/-- What the operands of an operation have to be, in order. -/
def Opcode.operandKinds : Opcode → List OperandKind
  | .push | .pop => [.segment, .literal]
  | .label | .goto | .ifGoto => [.symbol]
  | .function | .call => [.symbol, .literal]
  | .binary _ | .unary _ | .compare _ | .ret => []

namespace OperandKind

/-- Whether a word can be an operand of a kind. -/
def Fits : OperandKind → List Char → Prop
  | .segment, word => ∃ segment : Segment, segment.name.toList = word
  | .symbol, word => Symbol.isSymbol word = true
  | .literal, word => ∃ value, IsLiteral word value

/-- Why a word cannot be an operand of a kind. -/
inductive Misfits : OperandKind → List Char → Fault → Prop where
  | unknownSegment {word : List Char} (unknown : ∀ segment : Segment, segment.name.toList ≠ word) :
      Misfits .segment word (.unknownSegment (Token.spelled word).text)
  | expectedSymbol {word : List Char} (numeral : Token.isNumeral word = true) :
      Misfits .symbol word (.expectedSymbol (Token.spelled word).text)
  | invalidSymbol {word : List Char} (name : Token.isName word = true)
      (dashed : Symbol.isSymbol word = false) :
      Misfits .symbol word (.invalidSymbol (Token.spelled word).text)
  | expectedInteger {word : List Char} (name : Token.isName word = true) :
      Misfits .literal word (.expectedInteger (Token.spelled word).text)
  | outOfRange {word : List Char} (numeral : Token.isNumeral word = true)
      (large : Word.maxLiteral < Nat.ofDigitChars 10 word 0) :
      Misfits .literal word (.integerOutOfRange (Nat.ofDigitChars 10 word 0) Word.maxLiteral)

end OperandKind

/-- The characters of a word in the source of a line that begins at `offset`. -/
def Text.PlacedWord.span (word : PlacedWord) (offset : Nat) : Span :=
  Span.shift ⟨word.start, word.stop⟩ offset

/-- The characters of a line in its source. -/
def lineSpan (line : List Char) (offset : Nat) : Span := ⟨offset, offset + line.length⟩

/-- Why a line is not a command, and which characters of its source are to blame. The stages come
in order: each one needs that the line passes those before it. -/
inductive Refused (line : List Char) (offset : Nat) : Located Fault → Prop where
  | character {before after : List PlacedWord} {word : PlacedWord} {front : List Char}
      {found : Char} (split : Text.words line = before ++ word :: after)
      (tokens : ∀ earlier ∈ before, Token.isToken earlier.characters = true)
      (stuck : Token.Stuck word.characters front found) :
      Refused line offset ⟨.unexpectedCharacter (some found),
        Span.shift ⟨word.start + front.length, word.start + front.length + 1⟩ offset⟩
  | empty (wordless : Text.words line = []) :
      Refused line offset ⟨.unexpectedCharacter none, lineSpan line offset⟩
  | command {name : PlacedWord} {operands : List PlacedWord}
      (split : Text.words line = name :: operands)
      (tokens : ∀ word ∈ Text.words line, Token.isToken word.characters = true)
      (unknown : ∀ opcode : Opcode, opcode.name.toList ≠ name.characters) :
      Refused line offset
        ⟨.unknownCommand (Token.spelled name.characters).text, name.span offset⟩
  | tooFew {name : PlacedWord} {operands : List PlacedWord} {opcode : Opcode}
      (split : Text.words line = name :: operands)
      (tokens : ∀ word ∈ Text.words line, Token.isToken word.characters = true)
      (named : opcode.name.toList = name.characters)
      (fewer : operands.length < opcode.arity) :
      Refused line offset
        ⟨.operandCount opcode opcode.arity operands.length, lineSpan line offset⟩
  | tooMany {name first : PlacedWord} {needed rest : List PlacedWord} {opcode : Opcode}
      (split : Text.words line = name :: (needed ++ first :: rest))
      (tokens : ∀ word ∈ Text.words line, Token.isToken word.characters = true)
      (named : opcode.name.toList = name.characters)
      (enough : needed.length = opcode.arity) :
      Refused line offset
        ⟨.operandCount opcode opcode.arity (needed ++ first :: rest).length,
          ⟨(first.span offset).start, ((rest.getLast?.getD first).span offset).stop⟩⟩
  | operand {name word : PlacedWord} {before after : List PlacedWord} {opcode : Opcode}
      {kind : OperandKind} {fault : Fault}
      (split : Text.words line = name :: (before ++ word :: after))
      (tokens : ∀ word ∈ Text.words line, Token.isToken word.characters = true)
      (named : opcode.name.toList = name.characters)
      (counted : (before ++ word :: after).length = opcode.arity)
      (fitting : ∀ entry ∈ opcode.operandKinds.zip before, entry.1.Fits entry.2.characters)
      (expected : opcode.operandKinds[before.length]? = some kind)
      (misfit : kind.Misfits word.characters fault) :
      Refused line offset ⟨fault, word.span offset⟩

/-- An operation code has as many kinds of operands as operands. -/
theorem Opcode.length_operandKinds (opcode : Opcode) :
    opcode.operandKinds.length = opcode.arity := by
  cases opcode <;> rfl

/-! ## Operands -/

namespace Token

/-- Every symbol is a name, and so one token. -/
theorem isName_of_isSymbol {word : List Char} (symbol : Symbol.isSymbol word = true) :
    isName word = true := by
  cases word with
  | nil => cases symbol
  | cons first rest =>
    simp only [Symbol.isSymbol, isName, Bool.and_eq_true, List.all_eq_true] at symbol ⊢
    refine ⟨symbol.1, fun character member => ?_⟩
    simp [Symbol.isWordContinuation, symbol.2 character member]

/-- A name is spelled as the symbol of its characters. -/
theorem spelled_of_isName {word : List Char} (name : isName word = true) :
    spelled word = .symbol (String.ofList word) := by
  rw [spelled, isNumeral_eq_false_of_isName name]
  rfl

/-- A numeral is spelled as the integer of its digits. -/
theorem spelled_of_isNumeral {word : List Char} (numeral : isNumeral word = true) :
    spelled word = .integer (Nat.ofDigitChars 10 word 0) := by
  rw [spelled, if_pos numeral]

end Token

namespace OperandKind

/-- A token either fits as an operand or has a fault. -/
theorem fits_or_misfits (kind : OperandKind) {word : List Char}
    (token : Token.isToken word = true) : kind.Fits word ∨ ∃ fault, kind.Misfits word fault := by
  rw [Token.isToken, Bool.or_eq_true] at token
  cases kind with
  | segment =>
    by_cases known : ∃ segment : Segment, segment.name.toList = word
    · exact Or.inl known
    · exact Or.inr ⟨_, .unknownSegment fun segment named => known ⟨segment, named⟩⟩
  | symbol =>
    cases symbol : Symbol.isSymbol word with
    | true => exact Or.inl symbol
    | false =>
      rcases token with numeral | name
      · exact Or.inr ⟨_, .expectedSymbol numeral⟩
      · exact Or.inr ⟨_, .invalidSymbol name symbol⟩
  | literal =>
    rcases token with numeral | name
    · by_cases small : Nat.ofDigitChars 10 word 0 ≤ Word.maxLiteral
      · have value : (BitVec.ofNat 16 (Nat.ofDigitChars 10 word 0)).toNat =
            Nat.ofDigitChars 10 word 0 := by
          rw [BitVec.toNat_ofNat, Nat.mod_eq_of_lt]
          exact Nat.lt_of_le_of_lt small (by decide)
        exact Or.inl ⟨_, numeral, value.symm, by rw [value]; exact small⟩
      · exact Or.inr ⟨_, .outOfRange numeral (Nat.lt_of_not_le small)⟩
    · exact Or.inr ⟨_, .expectedInteger name⟩

end OperandKind

namespace Command

variable {word : PlacedWord} {offset : Nat} {fault : Fault}

/-- The names of segments are names, and so no text of an integer. -/
theorem isName_segmentName (segment : Segment) : Token.isName segment.name.toList = true := by
  cases segment with
  | mapped segment => cases segment <;> decide
  | constant => decide
  | static => decide

/-- Names of operation codes are names of the language. -/
theorem isName_opcodeName (opcode : Opcode) : Token.isName opcode.name.toList = true := by
  cases opcode with
  | binary operator => cases operator <;> decide
  | unary operator => cases operator <;> decide
  | compare comparison => cases comparison <;> decide
  | _ => decide

/-- The text of a token that is a name is the word itself; integers never have one. -/
theorem spelled_text_eq_iff {name : String} (isName : Token.isName name.toList = true)
    {word : List Char} : (Token.spelled word).text = name ↔ name.toList = word := by
  constructor
  · intro text
    cases numeral : Token.isNumeral word with
    | false =>
      rw [Token.spelled, numeral] at text
      rw [← text]
      exact String.toList_ofList
    | true =>
      rw [Token.spelled_of_isNumeral numeral] at text
      have digits : Token.isNumeral name.toList = true := by
        have every : ∀ character ∈ name.toList, character.isDigit = true := by
          rw [← text, Token.text, Nat.toList_repr]
          exact fun character => Nat.isDigit_of_mem_toDigits (by decide) (by decide)
        have nonempty : name.toList ≠ [] := by
          intro empty
          rw [empty] at isName
          cases isName
        simpa [Token.isNumeral, nonempty] using every
      rw [Token.isNumeral_eq_false_of_isName isName] at digits
      cases digits
  · rintro rfl
    rw [Token.spelled_of_isName isName, Token.text, String.ofList_toList]

/-- The name of a segment is accepted as a segment. -/
theorem segmentOperand_eq_ok {segment : Segment} (named : segment.name.toList = word.characters) :
    segmentOperand (Token.ofPlaced offset word) = .ok segment := by
  have text : (Token.spelled word.characters).text = segment.name :=
    (spelled_text_eq_iff (isName_segmentName segment)).mpr named
  simp [segmentOperand, Token.ofPlaced, Located.shift, text, Segment.ofName?_name]

/-- A word that does not fit as a segment is refused at its place. -/
theorem segmentOperand_eq_error (misfit : OperandKind.segment.Misfits word.characters fault) :
    segmentOperand (Token.ofPlaced offset word) = .error ⟨fault, word.span offset⟩ := by
  cases misfit with
  | unknownSegment unknown =>
    have missing : Segment.ofName? (Token.spelled word.characters).text = none := by
      rw [Option.eq_none_iff_forall_not_mem]
      intro segment found
      have text := (Segment.name_of_ofName? found).symm
      exact unknown segment ((spelled_text_eq_iff (isName_segmentName segment)).mp text)
    simp [segmentOperand, Token.ofPlaced, Located.shift, missing, PlacedWord.span]

/-- A symbol is accepted as the name that it spells. -/
theorem symbolOperand_eq_ok {name : String} (symbol : Symbol.isSymbol name.toList = true)
    (named : name.toList = word.characters) :
    symbolOperand (Token.ofPlaced offset word) = .ok name := by
  have spelled : Token.spelled word.characters = .symbol name := by
    rw [← named, Token.spelled_of_isName (Token.isName_of_isSymbol symbol), String.ofList_toList]
  simp [symbolOperand, Token.ofPlaced, Located.shift, spelled, symbol]

/-- A word that does not fit as a symbol is refused at its place. -/
theorem symbolOperand_eq_error (misfit : OperandKind.symbol.Misfits word.characters fault) :
    symbolOperand (Token.ofPlaced offset word) = .error ⟨fault, word.span offset⟩ := by
  cases misfit with
  | expectedSymbol numeral =>
    simp [symbolOperand, Token.ofPlaced, Located.shift, Token.spelled_of_isNumeral numeral,
      Token.text, PlacedWord.span]
  | invalidSymbol name dashed =>
    simp [symbolOperand, Token.ofPlaced, Located.shift, Token.spelled_of_isName name, dashed,
      Token.text, PlacedWord.span]

/-- A literal is accepted as the word that it denotes. -/
theorem literalOperand_eq_ok {value : Word} (literal : IsLiteral word.characters value) :
    literalOperand (Token.ofPlaced offset word) = .ok value := by
  simp [literalOperand, Token.ofPlaced, Located.shift,
    Token.spelled_of_isNumeral literal.numeral, literal.value_eq, literal.small]

/-- A word that does not fit as a literal is refused at its place. -/
theorem literalOperand_eq_error (misfit : OperandKind.literal.Misfits word.characters fault) :
    literalOperand (Token.ofPlaced offset word) = .error ⟨fault, word.span offset⟩ := by
  cases misfit with
  | expectedInteger name =>
    simp [literalOperand, Token.ofPlaced, Located.shift, Token.spelled_of_isName name,
      Token.text, PlacedWord.span]
  | outOfRange numeral large =>
    simp [literalOperand, Token.ofPlaced, Located.shift, Token.spelled_of_isNumeral numeral,
      Nat.not_le_of_lt large, PlacedWord.span]

/-! ## Lines -/

variable {line : List Char}

/-- A line of tokens without words has nothing to read. -/
theorem parse_of_wordless (wordless : Text.words line = []) :
    parse line offset = .error ⟨.unexpectedCharacter none, lineSpan line offset⟩ := by
  have scanned : Token.scan line = .ok [] := by
    rw [Token.scan, wordless]
    rfl
  rw [parse, scanned]
  rfl

/-- A line of tokens is read by its first word, and then by the operands that this word needs. -/
theorem parse_of_tokens {name : PlacedWord} {operands : List PlacedWord}
    (split : Text.words line = name :: operands)
    (tokens : ∀ word ∈ Text.words line, Token.isToken word.characters = true) :
    parse line offset = (do
      let opcode ← operationOf (Token.ofPlaced offset name)
      let command ← ofOperands (lineSpan line offset) opcode
        (operands.map (Token.ofPlaced offset))
      return ⟨command, lineSpan line offset⟩) := by
  have placed : (operands.map fun word =>
      (⟨Token.spelled word.characters, ⟨word.start, word.stop⟩⟩ : Located Token)).map
        (fun token => token.shift offset) = operands.map (Token.ofPlaced offset) := by
    rw [List.map_map]
    rfl
  rw [parse, Token.scan_of_isToken tokens, split]
  dsimp only
  rw [List.map_cons, List.map_cons, placed]
  rfl

/-- The name of an operation code is accepted as that code. -/
theorem operationOf_eq_ok {opcode : Opcode} (named : opcode.name.toList = word.characters) :
    operationOf (Token.ofPlaced offset word) = .ok opcode := by
  have spelled : Token.spelled word.characters = .symbol opcode.name := by
    rw [← named, Token.spelled_of_isName (isName_opcodeName opcode), String.ofList_toList]
  simp [operationOf, Token.ofPlaced, Located.shift, spelled, Opcode.ofName?_name]

/-- A word that names no operation code is refused as an unknown command. -/
theorem operationOf_eq_error (unknown : ∀ opcode : Opcode, opcode.name.toList ≠ word.characters) :
    operationOf (Token.ofPlaced offset word) =
      .error ⟨.unknownCommand (Token.spelled word.characters).text, word.span offset⟩ := by
  have missing : Opcode.ofName? (Token.spelled word.characters).text = none := by
    rw [Option.eq_none_iff_forall_not_mem]
    intro opcode found
    have text := (Opcode.name_of_ofName? found).symm
    exact unknown opcode ((spelled_text_eq_iff (isName_opcodeName opcode)).mp text)
  unfold operationOf Token.ofPlaced Located.shift
  cases token : Token.spelled word.characters with
  | integer value => rfl
  | symbol text =>
    rw [token, Token.text] at missing
    simp [missing, Token.text, PlacedWord.span]

/-- With another number of operands than an operation needs, the number is the fault. -/
theorem ofOperands_of_length_ne {span : Span} {opcode : Opcode} {operands : List (Located Token)}
    (differs : operands.length ≠ opcode.arity) :
    ofOperands span opcode operands =
      .error ⟨.operandCount opcode opcode.arity operands.length,
        excessSpan opcode.arity operands span⟩ := by
  unfold ofOperands
  split
  case h_12 => rfl
  all_goals exact absurd rfl differs

/-- The words of a command are tokens. -/
theorem isToken_of_spells {words : List (List Char)} {command : Command}
    (spells : Spells words command) : ∀ word ∈ words, Token.isToken word = true := by
  have named : ∀ {word : List Char}, Token.isName word = true → Token.isToken word = true :=
    fun name => by rw [Token.isToken, name, Bool.or_true]
  have numeral : ∀ {digits : List Char} {value : Word}, IsLiteral digits value →
      Token.isToken digits = true := fun literal => by
    rw [Token.isToken, literal.numeral, Bool.true_or]
  have operation := fun opcode : Opcode => named (isName_opcodeName opcode)
  have segment := fun segment : Segment => named (isName_segmentName segment)
  have symbol : ∀ {name : List Char}, Symbol.isSymbol name = true → Token.isToken name = true :=
    fun symbol => named (Token.isName_of_isSymbol symbol)
  cases spells with
  | push literal => simpa using ⟨operation .push, segment _, numeral literal⟩
  | pop literal => simpa using ⟨operation .pop, segment _, numeral literal⟩
  | binary => exact List.forall_mem_singleton.mpr (operation (.binary _))
  | unary => exact List.forall_mem_singleton.mpr (operation (.unary _))
  | compare => exact List.forall_mem_singleton.mpr (operation (.compare _))
  | label isSymbol => simpa using ⟨operation .label, symbol isSymbol⟩
  | goto isSymbol => simpa using ⟨operation .goto, symbol isSymbol⟩
  | ifGoto isSymbol => simpa using ⟨operation .ifGoto, symbol isSymbol⟩
  | function isSymbol literal =>
    simpa using ⟨operation .function, symbol isSymbol, numeral literal⟩
  | call isSymbol literal => simpa using ⟨operation .call, symbol isSymbol, numeral literal⟩
  | ret => exact List.forall_mem_singleton.mpr (operation .ret)

/-- The first word of a command names its operation, which takes the other words as operands. -/
theorem ofOperands_of_spells {name : PlacedWord} {operands : List PlacedWord} {command : Command}
    (spells : Spells (name.characters :: operands.map PlacedWord.characters) command)
    (span : Span) (offset : Nat) :
    command.opcode.name.toList = name.characters ∧
      ofOperands span command.opcode (operands.map (Token.ofPlaced offset)) = .ok command := by
  generalize written : name.characters :: operands.map PlacedWord.characters = words at spells
  cases spells with
  | push literal | pop literal =>
    simp only [List.cons.injEq, List.map_eq_cons_iff, List.map_eq_nil_iff] at written
    obtain ⟨named, first, _, rfl, segment, second, _, rfl, rfl, rfl⟩ := written
    refine ⟨named.symm, ?_⟩
    simp only [List.map_cons, List.map_nil, opcode, ofOperands,
      segmentOperand_eq_ok segment.symm, literalOperand_eq_ok literal]
    rfl
  | binary | unary | compare | ret =>
    simp only [List.cons.injEq, List.map_eq_nil_iff] at written
    obtain ⟨named, rfl⟩ := written
    exact ⟨named.symm, rfl⟩
  | label symbol | goto symbol | ifGoto symbol =>
    simp only [List.cons.injEq, List.map_eq_cons_iff, List.map_eq_nil_iff] at written
    obtain ⟨named, first, _, rfl, spelled, rfl⟩ := written
    refine ⟨named.symm, ?_⟩
    simp only [List.map_cons, List.map_nil, opcode, ofOperands,
      symbolOperand_eq_ok symbol spelled.symm]
    rfl
  | function symbol literal | call symbol literal =>
    simp only [List.cons.injEq, List.map_eq_cons_iff, List.map_eq_nil_iff] at written
    obtain ⟨named, first, _, rfl, spelled, second, _, rfl, rfl, rfl⟩ := written
    refine ⟨named.symm, ?_⟩
    simp only [List.map_cons, List.map_nil, opcode, ofOperands,
      symbolOperand_eq_ok symbol spelled.symm, literalOperand_eq_ok literal]
    rfl

/-- A line whose words spell a command is read as that command. -/
theorem parse_of_spells {command : Command} (spells : Spells (Text.pieces line) command)
    (offset : Nat) : parse line offset = .ok ⟨command, lineSpan line offset⟩ := by
  have pieces := Text.characters_words line
  have tokens : ∀ word ∈ Text.words line, Token.isToken word.characters = true := by
    intro word member
    apply isToken_of_spells spells
    rw [← pieces]
    exact List.mem_map_of_mem member
  cases split : Text.words line with
  | nil =>
    rw [split] at pieces
    rw [← pieces] at spells
    cases spells
  | cons name operands =>
    rw [split, List.map_cons] at pieces
    rw [← pieces] at spells
    obtain ⟨named, read⟩ := ofOperands_of_spells spells (lineSpan line offset) offset
    rw [parse_of_tokens split tokens, operationOf_eq_ok named]
    show (ofOperands _ _ _ >>= fun command => _) = _
    rw [read]
    rfl

/-- The first operand that does not fit decides the fault. -/
theorem ofOperands_of_misfit {opcode : Opcode} {before after : List PlacedWord}
    {kind : OperandKind} (counted : (before ++ word :: after).length = opcode.arity)
    (fitting : ∀ entry ∈ opcode.operandKinds.zip before, entry.1.Fits entry.2.characters)
    (expected : opcode.operandKinds[before.length]? = some kind)
    (misfit : kind.Misfits word.characters fault) (span : Span) :
    ofOperands span opcode ((before ++ word :: after).map (Token.ofPlaced offset)) =
      .error ⟨fault, word.span offset⟩ := by
  -- An operation takes two operands at most, so the bad one is the first or the last.
  cases before with
  | nil =>
    cases opcode with
    | push | pop =>
      cases expected
      obtain ⟨second, rfl⟩ := List.length_eq_one_iff.mp (Nat.succ.inj counted)
      simp only [List.nil_append, List.map_cons, List.map_nil, ofOperands,
        segmentOperand_eq_error misfit]
      rfl
    | label | goto | ifGoto =>
      cases expected
      obtain rfl := List.length_eq_zero_iff.mp (Nat.succ.inj counted)
      simp only [List.nil_append, List.map_cons, List.map_nil, ofOperands,
        symbolOperand_eq_error misfit]
      rfl
    | function | call =>
      cases expected
      obtain ⟨second, rfl⟩ := List.length_eq_one_iff.mp (Nat.succ.inj counted)
      simp only [List.nil_append, List.map_cons, List.map_nil, ofOperands,
        symbolOperand_eq_error misfit]
      rfl
    | binary | unary | compare | ret => cases expected
  | cons first others =>
    have none : opcode.arity = 2 → others = [] ∧ after = [] := by
      intro two
      simp only [two, List.length_append, List.length_cons] at counted
      exact ⟨List.length_eq_zero_iff.mp (by omega), List.length_eq_zero_iff.mp (by omega)⟩
    cases opcode with
    | push | pop =>
      obtain ⟨rfl, rfl⟩ := none rfl
      cases expected
      obtain ⟨segment, named⟩ := fitting (.segment, first) List.mem_cons_self
      simp only [List.cons_append, List.nil_append, List.map_cons, List.map_nil, ofOperands,
        segmentOperand_eq_ok named, literalOperand_eq_error misfit]
      rfl
    | function | call =>
      obtain ⟨rfl, rfl⟩ := none rfl
      cases expected
      have symbol : Symbol.isSymbol (String.ofList first.characters).toList = true := by
        rw [String.toList_ofList]
        exact fitting (.symbol, first) List.mem_cons_self
      simp only [List.cons_append, List.nil_append, List.map_cons, List.map_nil, ofOperands,
        symbolOperand_eq_ok symbol String.toList_ofList, literalOperand_eq_error misfit]
      rfl
    | label | goto | ifGoto => simp [Opcode.arity] at counted
    | binary | unary | compare | ret => simp [Opcode.arity] at counted

/-- A line that is refused has the fault of the stage that refuses it. -/
theorem parse_of_refused {failure : Located Fault} (refused : Refused line offset failure) :
    parse line offset = .error failure := by
  cases refused with
  | character split tokens stuck =>
    rw [parse, Token.scan_of_stuck split tokens stuck]
  | empty wordless => exact parse_of_wordless wordless
  | command split tokens unknown =>
    rw [parse_of_tokens split tokens, operationOf_eq_error unknown]
    rfl
  | tooFew split tokens named fewer =>
    rename_i name operands opcode
    have excess : excessSpan opcode.arity (operands.map (Token.ofPlaced offset))
        (lineSpan line offset) = lineSpan line offset := by
      rw [excessSpan, List.drop_eq_nil_of_le (by simpa using Nat.le_of_lt fewer)]
    rw [parse_of_tokens split tokens, operationOf_eq_ok named]
    show (ofOperands _ _ _ >>= fun command => _) = _
    rw [ofOperands_of_length_ne (by simpa using Nat.ne_of_lt fewer), excess, List.length_map]
    rfl
  | tooMany split tokens named enough =>
    rename_i name first needed rest opcode
    have excess : excessSpan opcode.arity
        ((needed ++ first :: rest).map (Token.ofPlaced offset)) (lineSpan line offset) =
          ⟨(first.span offset).start, ((rest.getLast?.getD first).span offset).stop⟩ := by
      rw [List.map_append, excessSpan, List.drop_left' (by simpa using enough), List.map_cons]
      dsimp only
      rw [List.getLast?_map]
      cases rest.getLast? <;> rfl
    have more : (needed ++ first :: rest).length ≠ opcode.arity := by
      simp [← enough]
    rw [parse_of_tokens split tokens, operationOf_eq_ok named]
    show (ofOperands _ _ _ >>= fun command => _) = _
    rw [ofOperands_of_length_ne (by simpa using more), excess, List.length_map]
    rfl
  | operand split tokens named counted fitting expected misfit =>
    rw [parse_of_tokens split tokens, operationOf_eq_ok named]
    show (ofOperands _ _ _ >>= fun command => _) = _
    rw [ofOperands_of_misfit counted fitting expected misfit]
    rfl

end Command

/-! ## Every line is a command or is refused -/

section Fitting

variable {operands : List PlacedWord}

/-- A word that fits as a symbol is the text of a symbol. -/
theorem exists_name_of_fits {word : PlacedWord} (fits : OperandKind.symbol.Fits word.characters) :
    ∃ name : String, word.characters = name.toList ∧ Symbol.isSymbol name.toList = true :=
  ⟨String.ofList _, String.toList_ofList.symm, by rw [String.toList_ofList]; exact fits⟩

/-- A segment and an index. -/
theorem element_of_fits (counted : operands.length = 2)
    (fitting : ∀ entry ∈ [OperandKind.segment, .literal].zip operands,
      entry.1.Fits entry.2.characters) :
    ∃ (segment : Segment) (digits : List Char) (index : Word),
      operands.map PlacedWord.characters = [segment.name.toList, digits] ∧
        IsLiteral digits index := by
  obtain ⟨first, second, rfl⟩ := List.length_eq_two.mp counted
  obtain ⟨segment, named⟩ := fitting (.segment, first) (by simp)
  obtain ⟨index, literal⟩ := fitting (.literal, second) (by simp)
  exact ⟨segment, second.characters, index, by simp [named], literal⟩

/-- The name of a place in the program. -/
theorem place_of_fits (counted : operands.length = 1)
    (fitting : ∀ entry ∈ [OperandKind.symbol].zip operands, entry.1.Fits entry.2.characters) :
    ∃ name : String, operands.map PlacedWord.characters = [name.toList] ∧
      Symbol.isSymbol name.toList = true := by
  obtain ⟨first, rfl⟩ := List.length_eq_one_iff.mp counted
  obtain ⟨name, named, symbol⟩ := exists_name_of_fits (fitting (.symbol, first) (by simp))
  exact ⟨name, by simp [named], symbol⟩

/-- The name of a function and a count. -/
theorem entry_of_fits (counted : operands.length = 2)
    (fitting : ∀ entry ∈ [OperandKind.symbol, .literal].zip operands,
      entry.1.Fits entry.2.characters) :
    ∃ (name : String) (digits : List Char) (count : Word),
      operands.map PlacedWord.characters = [name.toList, digits] ∧
        Symbol.isSymbol name.toList = true ∧ IsLiteral digits count := by
  obtain ⟨first, second, rfl⟩ := List.length_eq_two.mp counted
  obtain ⟨name, named, symbol⟩ := exists_name_of_fits (fitting (.symbol, first) (by simp))
  obtain ⟨count, literal⟩ := fitting (.literal, second) (by simp)
  exact ⟨name, second.characters, count, by simp [named], symbol, literal⟩

/-- Operands that fit, as many as needed, make a command of their operation. -/
theorem exists_spells_of_fits {opcode : Opcode} (counted : operands.length = opcode.arity)
    (fitting : ∀ entry ∈ opcode.operandKinds.zip operands, entry.1.Fits entry.2.characters) :
    ∃ command, Spells (opcode.name.toList :: operands.map PlacedWord.characters) command := by
  cases opcode with
  | push =>
    obtain ⟨segment, digits, index, words, literal⟩ := element_of_fits counted fitting
    rw [words]
    exact ⟨_, .push literal⟩
  | pop =>
    obtain ⟨segment, digits, index, words, literal⟩ := element_of_fits counted fitting
    rw [words]
    exact ⟨_, .pop literal⟩
  | label =>
    obtain ⟨name, words, symbol⟩ := place_of_fits counted fitting
    rw [words]
    exact ⟨_, .label symbol⟩
  | goto =>
    obtain ⟨name, words, symbol⟩ := place_of_fits counted fitting
    rw [words]
    exact ⟨_, .goto symbol⟩
  | ifGoto =>
    obtain ⟨name, words, symbol⟩ := place_of_fits counted fitting
    rw [words]
    exact ⟨_, .ifGoto symbol⟩
  | function =>
    obtain ⟨name, digits, locals, words, symbol, literal⟩ := entry_of_fits counted fitting
    rw [words]
    exact ⟨_, .function symbol literal⟩
  | call =>
    obtain ⟨name, digits, arguments, words, symbol, literal⟩ := entry_of_fits counted fitting
    rw [words]
    exact ⟨_, .call symbol literal⟩
  | binary operator =>
    obtain rfl := List.length_eq_zero_iff.mp counted
    exact ⟨_, .binary⟩
  | unary operator =>
    obtain rfl := List.length_eq_zero_iff.mp counted
    exact ⟨_, .unary⟩
  | compare comparison =>
    obtain rfl := List.length_eq_zero_iff.mp counted
    exact ⟨_, .compare⟩
  | ret =>
    obtain rfl := List.length_eq_zero_iff.mp counted
    exact ⟨_, .ret⟩

end Fitting

/-- Either all operands fit, or there is a first one that does not. -/
theorem fits_or_first_misfit {kinds : List OperandKind} {operands : List PlacedWord}
    (counted : operands.length = kinds.length)
    (tokens : ∀ word ∈ operands, Token.isToken word.characters = true) :
    (∀ entry ∈ kinds.zip operands, entry.1.Fits entry.2.characters) ∨
      ∃ before word after kind fault, operands = before ++ word :: after ∧
        (∀ entry ∈ kinds.zip before, entry.1.Fits entry.2.characters) ∧
        kinds[before.length]? = some kind ∧ kind.Misfits word.characters fault := by
  induction kinds generalizing operands with
  | nil => exact Or.inl (by simp)
  | cons kind kinds inductionHypothesis =>
    obtain ⟨first, others, rfl⟩ := List.exists_cons_of_length_eq_add_one counted
    rcases kind.fits_or_misfits (tokens first List.mem_cons_self) with fits | ⟨fault, misfit⟩
    · rcases inductionHypothesis (Nat.succ.inj counted)
        fun word member => tokens word (List.mem_cons_of_mem _ member) with
        all | ⟨before, word, after, kind, fault, rfl, fitting, expected, misfit⟩
      · exact Or.inl (List.forall_mem_cons.mpr ⟨fits, all⟩)
      · exact Or.inr ⟨first :: before, word, after, kind, fault, rfl,
          List.forall_mem_cons.mpr ⟨fits, fitting⟩, expected, misfit⟩
    · exact Or.inr ⟨[], first, others, kind, fault, rfl, by simp, rfl, misfit⟩

/-- The words of a line spell a command, or the line is refused. -/
theorem spells_or_refused (line : List Char) (offset : Nat) :
    (∃ command, Spells (Text.pieces line) command) ∨
      ∃ failure, Refused line offset failure := by
  by_cases tokens : ∀ word ∈ Text.words line, Token.isToken word.characters = true
  · cases split : Text.words line with
    | nil => exact Or.inr ⟨_, .empty split⟩
    | cons name operands =>
      by_cases known : ∃ opcode : Opcode, opcode.name.toList = name.characters
      · obtain ⟨opcode, named⟩ := known
        rcases Nat.lt_trichotomy operands.length opcode.arity with fewer | counted | more
        · exact Or.inr ⟨_, .tooFew split tokens named fewer⟩
        · have operandTokens : ∀ word ∈ operands, Token.isToken word.characters = true :=
            fun word member => tokens word (by rw [split]; exact List.mem_cons_of_mem _ member)
          rcases fits_or_first_misfit (counted.trans opcode.length_operandKinds.symm)
            operandTokens with
            fitting | ⟨before, word, after, kind, fault, rfl, fitting, expected, misfit⟩
          · left
            rw [← Text.characters_words, split, List.map_cons, ← named]
            exact exists_spells_of_fits counted fitting
          · exact Or.inr ⟨_, .operand split tokens named counted fitting expected misfit⟩
        · obtain ⟨first, rest, extra⟩ : ∃ first rest, operands.drop opcode.arity = first :: rest :=
            List.exists_cons_of_length_pos (by rw [List.length_drop]; omega)
          rw [← List.take_append_drop opcode.arity operands, extra] at split
          exact Or.inr ⟨_, .tooMany split tokens named
            (by rw [List.length_take]; omega)⟩
      · exact Or.inr ⟨_, .command split tokens fun opcode named => known ⟨opcode, named⟩⟩
  · obtain ⟨before, word, after, split, earlier, unfit⟩ := exists_first_not tokens
    obtain ⟨front, found, stuck⟩ := Token.exists_stuck (List.cons_ne_nil _ _) unfit
    exact Or.inr ⟨_, .character split earlier stuck⟩

namespace Command

/-- A line is read as a command exactly if its words spell the command. -/
theorem parse_eq_ok_iff {line : List Char} {offset : Nat} {command : Located Command} :
    parse line offset = .ok command ↔
      Spells (Text.pieces line) command.value ∧ command.span = lineSpan line offset := by
  constructor
  · intro read
    rcases spells_or_refused line offset with ⟨spelled, spells⟩ | ⟨failure, refused⟩
    · rw [parse_of_spells spells] at read
      cases read
      exact ⟨spells, rfl⟩
    · rw [parse_of_refused refused] at read
      cases read
  · rintro ⟨spells, whole⟩
    rw [parse_of_spells spells, ← whole]

/-- A line is refused with a fault exactly if the grammar refuses it so. -/
theorem parse_eq_error_iff {line : List Char} {offset : Nat} {failure : Located Fault} :
    parse line offset = .error failure ↔ Refused line offset failure := by
  constructor
  · intro failed
    rcases spells_or_refused line offset with ⟨command, spells⟩ | ⟨other, refused⟩
    · rw [parse_of_spells spells] at failed
      cases failed
    · rw [parse_of_refused refused] at failed
      cases failed
      exact refused
  · exact parse_of_refused

/-- A character is unexpected exactly in the lines with a word that is no token. -/
theorem exists_unexpected_iff {line : List Char} {offset : Nat} :
    (∃ found span, Refused line offset ⟨.unexpectedCharacter (some found), span⟩) ↔
      ∃ word ∈ Text.pieces line, Token.isToken word = false := by
  rw [← Text.characters_words]
  constructor
  · rintro ⟨found, span, refused⟩
    cases refused with
    | character split tokens stuck =>
      refine ⟨_, List.mem_map_of_mem ?_, stuck.isToken_eq_false⟩
      rw [split]
      exact List.mem_append_right _ List.mem_cons_self
    | operand split tokens named counted fitting expected misfit => cases misfit
  · rintro ⟨_, member, unfit⟩
    obtain ⟨word, inLine, rfl⟩ := List.mem_map.mp member
    have some : ¬ ∀ word ∈ Text.words line, Token.isToken word.characters = true := by
      intro tokens
      rw [tokens word inLine] at unfit
      cases unfit
    obtain ⟨before, first, after, split, earlier, firstUnfit⟩ := exists_first_not some
    obtain ⟨front, found, stuck⟩ := Token.exists_stuck (List.cons_ne_nil _ _) firstUnfit
    exact ⟨found, _, .character split earlier stuck⟩

/-- The number of operands is only a fault when it is not the one needed. -/
theorem not_refused_operandCount {line : List Char} {offset : Nat} {opcode : Opcode}
    {count : Nat} {span : Span} :
    ¬ Refused line offset ⟨.operandCount opcode count count, span⟩ := by
  intro refused
  generalize failing : (⟨.operandCount opcode count count, span⟩ : Located Fault) = failure
    at refused
  cases refused with
  | tooFew split tokens named fewer =>
    simp only [Located.mk.injEq, Fault.operandCount.injEq] at failing
    omega
  | tooMany split tokens named enough =>
    simp only [Located.mk.injEq, Fault.operandCount.injEq, List.length_append,
      List.length_cons] at failing
    omega
  | operand split tokens named counted fitting expected misfit =>
    cases failing
    cases misfit
  | character | empty | command => cases failing

/-- A line is read as a command exactly when its words, which are its pieces between blanks, spell
that command, and the command then spans the whole line. It fails exactly with the fault of the
stage that refuses it: first of all for a character outside of tokens, if any word is no token;
and never for a number of operands that is the one needed. -/
theorem parse_follows_grammar (line : List Char) (offset : Nat) :
    (Text.words line).map PlacedWord.characters = Text.pieces line ∧
      (∀ command, parse line offset = .ok command ↔
        Spells (Text.pieces line) command.value ∧
          command.span = ⟨offset, offset + line.length⟩) ∧
      (∀ failure, parse line offset = .error failure ↔ Refused line offset failure) ∧
      ((∃ found span, parse line offset = .error ⟨.unexpectedCharacter (some found), span⟩) ↔
        ∃ word ∈ Text.pieces line, Token.isToken word = false) ∧
      ∀ opcode count span, parse line offset ≠ .error ⟨.operandCount opcode count count, span⟩ := by
  refine ⟨Text.characters_words line, fun command => parse_eq_ok_iff,
    fun failure => parse_eq_error_iff, ?_, fun opcode count span failed => ?_⟩
  · simp only [parse_eq_error_iff]
    exact exists_unexpected_iff
  · exact not_refused_operandCount (parse_eq_error_iff.mp failed)

/-- Blanks of any kind separate words, and zeros in front of a literal do not count. -/
example : parse "\tpush\u3000constant 007".toList 5 = .ok ⟨.push .constant 7, ⟨5, 23⟩⟩ := by
  decide +kernel

/-- A dash makes a word, but no symbol. -/
example : parse "if-goto a-b".toList 3 = .error ⟨.invalidSymbol "a-b", ⟨11, 14⟩⟩ := by
  decide +kernel

end Command

end StackLowering

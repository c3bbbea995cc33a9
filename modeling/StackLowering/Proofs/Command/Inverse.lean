import StackLowering.Proofs.Command.Canonical

/-!
# Commands and their canonical texts

Reading and writing undo each other. A command is read back from its canonical text
exactly if its names are symbols and its numbers are literals (`parse_text_iff`); and
a line that is read as a command has the words of the canonical text of that command,
but for zeros in front of its number (`words_eq_of_spells`).
-/

namespace StackLowering

/-! ## Decimal digits -/

namespace Token

/-- Digits without the zeros in front, of which one stays if there is nothing else. -/
def withoutZeros (digits : List Char) : List Char :=
  match digits.dropWhile (· == '0') with
  | [] => ['0']
  | significant => significant

/-- A numeral without the zeros in front of it, and any other word as it is. -/
def unpadded (word : List Char) : List Char := if isNumeral word then withoutZeros word else word

/-- A digit is what is written for the number below ten that it denotes. -/
theorem toDigits_of_isDigit {character : Char} (digit : character.isDigit = true) :
    character.toNat - '0'.toNat < 10 ∧
      Nat.toDigits 10 (character.toNat - '0'.toNat) = [character] := by
  obtain ⟨low, high⟩ := codes_of_isDigit digit
  have zero : '0'.toNat = 48 := rfl
  have small : character.toNat - '0'.toNat < 10 := by omega
  have written : Nat.digitChar (character.toNat - '0'.toNat) = character := by
    apply Char.toNat_inj.mp
    rw [Nat.toNat_digitChar_of_lt_ten small]
    omega
  exact ⟨small, by rw [Nat.toDigits_of_lt_base small, written]⟩

/-- Digits that are read behind a number are written behind it. -/
theorem toDigits_ofDigitChars_of_pos {digits : List Char}
    (allDigits : ∀ character ∈ digits, character.isDigit = true) {front : Nat} (pos : 0 < front) :
    Nat.toDigits 10 (Nat.ofDigitChars 10 digits front) = Nat.toDigits 10 front ++ digits := by
  induction digits generalizing front with
  | nil => rw [Nat.ofDigitChars_nil, List.append_nil]
  | cons digit rest inductionHypothesis =>
    rw [List.forall_mem_cons] at allDigits
    obtain ⟨small, written⟩ := toDigits_of_isDigit allDigits.1
    calc Nat.toDigits 10 (Nat.ofDigitChars 10 (digit :: rest) front)
      _ = Nat.toDigits 10 (10 * front + (digit.toNat - '0'.toNat)) ++ rest := by
        rw [Nat.ofDigitChars_cons, inductionHypothesis allDigits.2 (by omega)]
      _ = Nat.toDigits 10 front ++ [digit] ++ rest := by
        rw [← Nat.toDigits_append_toDigits (by decide) pos small, written]
      _ = Nat.toDigits 10 front ++ digit :: rest := by
        rw [List.append_assoc, List.singleton_append]

/-- A number is written with the digits with which it was read, without zeros in front. -/
theorem toDigits_ofDigitChars {digits : List Char}
    (allDigits : ∀ character ∈ digits, character.isDigit = true) :
    Nat.toDigits 10 (Nat.ofDigitChars 10 digits 0) = withoutZeros digits := by
  induction digits with
  | nil => rfl
  | cons digit rest inductionHypothesis =>
    rw [List.forall_mem_cons] at allDigits
    rw [Nat.ofDigitChars_cons, Nat.mul_zero, Nat.zero_add]
    by_cases zero : digit = '0'
    · subst zero
      exact inductionHypothesis allDigits.2
    · obtain ⟨small, written⟩ := toDigits_of_isDigit allDigits.1
      -- Only the digit zero is read as zero, because zero is written with that digit.
      have pos : 0 < digit.toNat - '0'.toNat := by
        rw [Nat.pos_iff_ne_zero]
        intro none
        rw [none] at written
        exact zero (List.singleton_inj.mp written).symm
      rw [toDigits_ofDigitChars_of_pos allDigits.2 pos, written, withoutZeros,
        List.dropWhile_cons_of_neg (by simpa using zero)]
      rfl

/-- There are no zeros in front of a name. -/
theorem unpadded_of_isName {word : List Char} (name : isName word = true) :
    unpadded word = word := by
  rw [unpadded, isNumeral_eq_false_of_isName name]
  rfl

/-- Without the zeros in front, a literal is the text of its value. -/
theorem unpadded_of_isLiteral {digits : List Char} {value : Word} (literal : IsLiteral digits value) :
    unpadded digits = value.text.toList := by
  have allDigits : ∀ character ∈ digits, character.isDigit = true := by
    have numeral := literal.numeral
    rw [isNumeral, Bool.and_eq_true, List.all_eq_true] at numeral
    exact numeral.2
  rw [unpadded, if_pos literal.numeral, ← toDigits_ofDigitChars allDigits, literal.value_eq,
    Word.text, Nat.toList_repr]

end Token

namespace Command

/-- The names in a command. -/
def names : Command → List String
  | .label name | .goto name | .ifGoto name | .function name _ | .call name _ => [name]
  | .push .. | .pop .. | .binary _ | .unary _ | .compare _ | .ret => []

/-- The numbers in a command. -/
def numbers : Command → List Word
  | .push _ number | .pop _ number | .function _ number | .call _ number => [number]
  | .binary _ | .unary _ | .compare _ | .label _ | .goto _ | .ifGoto _ | .ret => []

/-- A command can be written if its names are symbols and its numbers are literals. -/
theorem isWritable_iff {command : Command} :
    command.IsWritable ↔ (∀ name ∈ command.names, Symbol.isSymbol name.toList = true) ∧
      ∀ number ∈ command.numbers, number.toNat ≤ Word.maxLiteral := by
  constructor
  · rintro ⟨words, spells⟩
    cases spells with
    | push literal => simpa [names, numbers] using literal.small
    | pop literal => simpa [names, numbers] using literal.small
    | label symbol => simpa [names, numbers] using symbol
    | goto symbol => simpa [names, numbers] using symbol
    | ifGoto symbol => simpa [names, numbers] using symbol
    | function symbol literal => simpa [names, numbers] using ⟨symbol, literal.small⟩
    | call symbol literal => simpa [names, numbers] using ⟨symbol, literal.small⟩
    | binary | unary | compare | ret => simp [names, numbers]
  · rintro ⟨symbols, literals⟩
    refine ⟨command.words, ?_⟩
    cases command with
    | push segment index => exact .push (Word.isLiteral_text (literals index (by simp [numbers])))
    | pop segment index => exact .pop (Word.isLiteral_text (literals index (by simp [numbers])))
    | binary operator => exact .binary
    | unary operator => exact .unary
    | compare comparison => exact .compare
    | label name => exact .label (symbols name (by simp [names]))
    | goto name => exact .goto (symbols name (by simp [names]))
    | ifGoto name => exact .ifGoto (symbols name (by simp [names]))
    | function name locals =>
      exact .function (symbols name (by simp [names]))
        (Word.isLiteral_text (literals locals (by simp [numbers])))
    | call name arguments =>
      exact .call (symbols name (by simp [names]))
        (Word.isLiteral_text (literals arguments (by simp [numbers])))
    | ret => exact .ret

/-- The commands that are read back from their canonical texts. -/
theorem parse_text_iff {command : Command} {offset : Nat} :
    parse command.text.toList offset = .ok ⟨command, lineSpan command.text.toList offset⟩ ↔
      command.IsWritable :=
  ⟨isWritable_of_parse, fun writable => parse_text writable offset⟩

/-- The first word of a command is its operation, however the operands are written. -/
theorem words_eq_of_operands {command : Command} {operands : List (List Char)}
    (same : command.operands.map String.toList = operands.map Token.unpadded) :
    command.words = (command.opcode.name.toList :: operands).map Token.unpadded := by
  rw [words, List.map_cons, List.map_cons, Token.unpadded_of_isName (isName_opcodeName _), same]

/-- However a command is spelled, its canonical words differ only in the zeros in front of its
number. -/
theorem words_eq_of_spells {words : List (List Char)} {command : Command}
    (spells : Spells words command) : command.words = words.map Token.unpadded := by
  have segment (segment : Segment) := Token.unpadded_of_isName (isName_segmentName segment)
  have symbol {name : String} (symbol : Symbol.isSymbol name.toList = true) :=
    Token.unpadded_of_isName (Token.isName_of_isSymbol symbol)
  cases spells with
  | push literal =>
    exact words_eq_of_operands (by simp [operands, segment, Token.unpadded_of_isLiteral literal])
  | pop literal =>
    exact words_eq_of_operands (by simp [operands, segment, Token.unpadded_of_isLiteral literal])
  | label named => exact words_eq_of_operands (by simp [operands, symbol named])
  | goto named => exact words_eq_of_operands (by simp [operands, symbol named])
  | ifGoto named => exact words_eq_of_operands (by simp [operands, symbol named])
  | function named literal =>
    exact words_eq_of_operands
      (by simp [operands, symbol named, Token.unpadded_of_isLiteral literal])
  | call named literal =>
    exact words_eq_of_operands
      (by simp [operands, symbol named, Token.unpadded_of_isLiteral literal])
  | binary | unary | compare | ret => exact words_eq_of_operands rfl

/-- A command is read back from its canonical text, wherever that stands, exactly if its names are
symbols and its numbers are literals. Every command that is read from a line is one of these, and
its canonical text has the words of the line with single spaces between them, where the number
has lost the zeros in front of it. -/
theorem text_inverts_parse (offset : Nat) :
    (∀ command : Command,
      parse command.text.toList offset =
          .ok ⟨command, ⟨offset, offset + command.text.toList.length⟩⟩ ↔
        (∀ name ∈ command.names, Symbol.isSymbol name.toList = true) ∧
          ∀ number ∈ command.numbers, number.toNat ≤ Word.maxLiteral) ∧
      ∀ (line : List Char) (lineOffset : Nat) (command : Located Command),
        parse line lineOffset = .ok command →
          parse command.value.text.toList offset =
              .ok ⟨command.value, ⟨offset, offset + command.value.text.toList.length⟩⟩ ∧
            command.value.text.toList =
              [' '].intercalate ((Text.pieces line).map Token.unpadded) := by
  constructor
  · intro command
    exact parse_text_iff.trans isWritable_iff
  · intro line lineOffset command read
    refine ⟨parse_text (isWritable_of_parse read) offset, ?_⟩
    rw [toList_text, words_eq_of_spells (parse_eq_ok_iff.mp read).1]

/-- Blanks of any kind become single spaces, and zeros in front of a number are dropped. -/
theorem paddedPush_rewritten :
    parse "\tpush\u3000constant 007".toList 5 = .ok ⟨.push .constant 7, ⟨5, 23⟩⟩ ∧
      parse (Command.push .constant 7).text.toList 3 =
        .ok ⟨.push .constant 7, ⟨3, 3 + (Command.push .constant 7).text.toList.length⟩⟩ ∧
      (Command.push .constant 7).text.toList =
        [' '].intercalate
          ((Text.pieces "\tpush\u3000constant 007".toList).map Token.unpadded) := by
  have read : parse "\tpush\u3000constant 007".toList 5 = .ok ⟨.push .constant 7, ⟨5, 23⟩⟩ := by
    decide +kernel
  obtain ⟨again, words⟩ := (text_inverts_parse 3).2 _ 5 _ read
  exact ⟨read, again, words⟩

end Command

end StackLowering

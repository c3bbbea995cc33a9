import StackLowering.Proofs.Command.Grammar

/-!
# The canonical text of a command

The canonical text of a command writes its words with single blanks between them.
Such a text falls apart into its words again (`Text.pieces_intercalate`), and the
words spell the command, so the text is read back as the command it was written
for (`Command.parse_text`).
-/

namespace StackLowering

/-- What occurs in joined pieces occurs in the separator or in a piece. -/
theorem mem_of_mem_intercalate {α : Type} {value : α} {separator : List α} {parts : List (List α)}
    (member : value ∈ separator.intercalate parts) :
    value ∈ separator ∨ ∃ part ∈ parts, value ∈ part := by
  induction parts with
  | nil => cases member
  | cons part rest inductionHypothesis =>
    cases rest with
    | nil => exact Or.inr ⟨part, List.mem_cons_self, by simpa using member⟩
    | cons next others =>
      rw [List.intercalate_cons_cons, List.mem_append, List.mem_append] at member
      rcases member with (inPart | inSeparator) | later
      · exact Or.inr ⟨part, List.mem_cons_self, inPart⟩
      · exact Or.inl inSeparator
      · rcases inductionHypothesis later with inSeparator | ⟨other, inRest, inOther⟩
        · exact Or.inl inSeparator
        · exact Or.inr ⟨other, List.mem_cons_of_mem _ inRest, inOther⟩

/-- Solid words with single blanks between them are the pieces of their line. -/
theorem Text.pieces_intercalate {words : List (List Char)} (nonempty : ∀ word ∈ words, word ≠ [])
    (solid : ∀ word ∈ words, ∀ character ∈ word, isBlank character = false) :
    pieces ([' '].intercalate words) = words := by
  induction words with
  | nil => rfl
  | cons word rest inductionHypothesis =>
    have here := solid word List.mem_cons_self
    have filled := nonempty word List.mem_cons_self
    cases rest with
    | nil =>
      rw [List.intercalate_singleton, pieces, List.splitOnP_eq_singleton here]
      simp [filled]
    | cons next others =>
      have later := inductionHypothesis
        (fun word member => nonempty word (List.mem_cons_of_mem _ member))
        (fun word member => solid word (List.mem_cons_of_mem _ member))
      rw [List.intercalate_cons_cons, List.append_assoc, List.singleton_append, pieces,
        List.splitOnP_append_cons_of_forall_mem here ' ' (by decide),
        List.filter_cons_of_pos (by simpa using filled)]
      exact congrArg (word :: ·) later

namespace Token

/-- The characters of words are graphic, and so never blank. -/
theorem isBlank_eq_false_of_isWordContinuation {character : Char}
    (continuation : Symbol.isWordContinuation character = true) :
    Text.isBlank character = false := by
  simp only [Symbol.isWordContinuation, Symbol.isContinuation, Symbol.isStart, Bool.or_eq_true,
    beq_iff_eq] at continuation
  rcases continuation with (((((letter | rfl) | rfl) | rfl) | rfl) | digit) | rfl
  · have codes := codes_of_isAlpha letter
    exact Text.not_isBlank_of_graphic (by omega) (by omega)
  · decide
  · decide
  · decide
  · decide
  · have codes := codes_of_isDigit digit
    exact Text.not_isBlank_of_graphic (by omega) (by omega)
  · decide

/-- Digits may continue a word. -/
theorem isWordContinuation_of_isDigit {character : Char} (digit : character.isDigit = true) :
    Symbol.isWordContinuation character = true := by
  simp [Symbol.isWordContinuation, Symbol.isContinuation, digit]

/-- Tokens are not empty, and none of their characters is blank. -/
theorem solid_of_isToken {word : List Char} (token : isToken word = true) :
    word ≠ [] ∧ ∀ character ∈ word, Text.isBlank character = false := by
  cases word with
  | nil => cases token
  | cons first rest =>
    refine ⟨List.cons_ne_nil _ _, fun character member => ?_⟩
    apply isBlank_eq_false_of_isWordContinuation
    simp only [isToken, isNumeral, isName, Bool.or_eq_true, Bool.and_eq_true,
      List.all_eq_true] at token
    rcases token with ⟨-, digits⟩ | ⟨start, continuations⟩
    · exact isWordContinuation_of_isDigit (digits character member)
    · rcases List.mem_cons.mp member with rfl | inRest
      · simp [Symbol.isWordContinuation, Symbol.isContinuation, start]
      · exact continuations character inRest

/-- No token goes over the end of a line. -/
theorem lineFeed_not_mem {word : List Char} (token : isToken word = true) : '\n' ∉ word := by
  intro member
  have solid := (solid_of_isToken token).2 '\n' member
  rw [Text.isBlank_lineFeed] at solid
  cases solid

end Token

/-- The decimal text of a word denotes it. -/
theorem Word.isLiteral_text {value : Word} (small : value.toNat ≤ Word.maxLiteral) :
    IsLiteral value.text.toList value where
  numeral := by
    have digits : ∀ character ∈ Nat.toDigits 10 value.toNat, character.isDigit = true :=
      fun character => Nat.isDigit_of_mem_toDigits (by decide) (by decide)
    rw [Word.text, Nat.toList_repr, Token.isNumeral, List.all_eq_true.mpr digits]
    simp [Nat.toDigits_ne_nil]
  value_eq := by
    rw [Word.text, Nat.toList_repr]
    exact Nat.ofDigitChars_toDigits (by decide) (by decide)
  small := small

namespace Command

/-- A command that can be written: its names are symbols, and its numbers are literals. -/
def IsWritable (command : Command) : Prop := ∃ words, Spells words command

/-- The words of the canonical text of a command. -/
def words (command : Command) : List (List Char) :=
  (command.opcode.name :: command.operands).map String.toList

/-- The canonical text of a command has single blanks between its words. -/
theorem toList_text (command : Command) : command.text.toList = [' '].intercalate command.words :=
  String.toList_intercalate

/-- However a command is written, its canonical words spell it as well. -/
theorem spells_words {command : Command} (writable : command.IsWritable) :
    Spells command.words command := by
  obtain ⟨_, spells⟩ := writable
  cases spells with
  | push literal => exact .push (Word.isLiteral_text literal.small)
  | pop literal => exact .pop (Word.isLiteral_text literal.small)
  | binary => exact .binary
  | unary => exact .unary
  | compare => exact .compare
  | label symbol => exact .label symbol
  | goto symbol => exact .goto symbol
  | ifGoto symbol => exact .ifGoto symbol
  | function symbol literal => exact .function symbol (Word.isLiteral_text literal.small)
  | call symbol literal => exact .call symbol (Word.isLiteral_text literal.small)
  | ret => exact .ret

/-- The canonical words of a command are tokens. -/
theorem isToken_words {command : Command} (writable : command.IsWritable) :
    ∀ word ∈ command.words, Token.isToken word = true :=
  isToken_of_spells (spells_words writable)

/-- The canonical text of a command is read back as the command. -/
theorem parse_text {command : Command} (writable : command.IsWritable) (offset : Nat) :
    parse command.text.toList offset = .ok ⟨command, lineSpan command.text.toList offset⟩ := by
  have solid := fun word member => Token.solid_of_isToken (isToken_words writable word member)
  apply parse_of_spells
  rw [toList_text, Text.pieces_intercalate (fun word member => (solid word member).1)
    (fun word member => (solid word member).2)]
  exact spells_words writable

/-- A command that was read can be written. -/
theorem isWritable_of_parse {line : List Char} {offset : Nat} {command : Located Command}
    (read : parse line offset = .ok command) : command.value.IsWritable :=
  ⟨_, (parse_eq_ok_iff.mp read).1⟩

/-- The canonical text of a command is a single line. -/
theorem lineFeed_not_mem_text {command : Command} (writable : command.IsWritable) :
    '\n' ∉ command.text.toList := by
  rw [toList_text]
  intro member
  rcases mem_of_mem_intercalate member with separating | ⟨word, inWords, inWord⟩
  · simp at separating
  · exact Token.lineFeed_not_mem (isToken_words writable word inWords) inWord

end Command

end StackLowering

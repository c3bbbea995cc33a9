/-!
# Symbols

Symbols name labels, functions, units and memory cells. They consist of ASCII
letters, digits and the marks `_`, `.`, `$` and `:`, and do not start with a
digit. Command words may contain dashes as well, which symbols may not.
-/

namespace StackLowering.Symbol

/-- Whether a character can start a symbol. -/
def isStart (character : Char) : Bool :=
  character.isAlpha || character == '_' || character == '.' || character == '$' ||
    character == ':'

/-- Whether a character can follow the first one of a symbol. -/
def isContinuation (character : Char) : Bool := isStart character || character.isDigit

/-- Whether a character can follow the first one of a word, such as the dash of `if-goto`. -/
def isWordContinuation (character : Char) : Bool := isContinuation character || character == '-'

/-- Whether some characters spell a symbol. -/
def isSymbol : List Char → Bool
  | [] => false
  | first :: rest => isStart first && rest.all isContinuation

end StackLowering.Symbol

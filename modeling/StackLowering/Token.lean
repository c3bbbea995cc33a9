import StackLowering.Span
import StackLowering.Symbol
import StackLowering.Text.Words

/-!
# Tokens

Every word of a command line is one token: a word of digits is an integer of any
size, and a word that starts like a symbol is a name. A word that is neither
fails at its first character that does not fit.
-/

namespace StackLowering

/-- An integer, or a name of a command, segment, label or function. -/
inductive Token where
  | integer (value : Nat)
  | symbol (text : String)
deriving DecidableEq, Repr

namespace Token

/-- The text of a token; an integer has no leading zeros. -/
def text : Token → String
  | .integer value => value.repr
  | .symbol text => text

/-- Where a text stops being made of tokens, and the character there. -/
structure Mismatch where
  index : Nat
  found : Char
deriving DecidableEq, Repr

/-- The first character that fails a test, with its index, for characters that begin at `start`. -/
def mismatch? (accepts : Char → Bool) (start : Nat) : List Char → Option Mismatch
  | [] => none
  | character :: rest =>
    if accepts character then mismatch? accepts (start + 1) rest
    else some ⟨start, character⟩

/-- Reads a word all of whose characters past the first have to pass a test. -/
def checked (accepts : Char → Bool) (token : Token) (word : Text.PlacedWord) :
    Except Mismatch (Located Token) :=
  match mismatch? accepts (word.start + 1) word.rest with
  | none => .ok ⟨token, ⟨word.start, word.stop⟩⟩
  | some mismatch => .error mismatch

/-- The token that a word spells. -/
def ofWord (word : Text.PlacedWord) : Except Mismatch (Located Token) :=
  if word.first.isDigit then
    checked Char.isDigit (.integer (Nat.ofDigitChars 10 word.characters 0)) word
  else if Symbol.isStart word.first then
    checked Symbol.isWordContinuation (.symbol (String.ofList word.characters)) word
  else .error ⟨word.start, word.first⟩

/-- The tokens of a line, or its first character that belongs to none. -/
def scan (line : List Char) : Except Mismatch (List (Located Token)) :=
  (Text.words line).mapM ofWord

end Token

end StackLowering

import StackLowering.Text.Blank

/-!
# The words of a text

A word is a maximal run of characters that are not blank. `words` finds every
word of a text together with the index of its first character, reading the text
from its end: a character that is not blank joins the word that begins right
after it, and starts a word of its own otherwise.
-/

namespace StackLowering.Text

/-- A word, which has at least one character, and the index of its first character. -/
structure PlacedWord where
  start : Nat
  first : Char
  rest : List Char
deriving DecidableEq, Repr

namespace PlacedWord

/-- The characters of a word. -/
def characters (word : PlacedWord) : List Char := word.first :: word.rest

/-- The index right after the last character of a word. -/
def stop (word : PlacedWord) : Nat := word.start + word.characters.length

end PlacedWord

/-- Puts one character in front of the words that follow it. -/
def joinWord (placed : Char × Nat) (later : List PlacedWord) : List PlacedWord :=
  let (character, index) := placed
  if isBlank character then later
  else match later with
    | [] => [⟨index, character, []⟩]
    | word :: others =>
      if word.start = index + 1 then ⟨index, character, word.characters⟩ :: others
      else ⟨index, character, []⟩ :: word :: others

/-- The words of a text whose first character has the given index. -/
def wordsFrom (start : Nat) (text : List Char) : List PlacedWord :=
  (text.zipIdx start).foldr joinWord []

/-- The words of a text, in order. -/
def words (text : List Char) : List PlacedWord := wordsFrom 0 text

/-- Words are read from the end: a character joins the words behind it. -/
@[simp] theorem wordsFrom_cons (start : Nat) (character : Char) (rest : List Char) :
    wordsFrom start (character :: rest) =
      joinWord (character, start) (wordsFrom (start + 1) rest) := rfl

/-- A blank joins no word. -/
theorem wordsFrom_blank {character : Char} (blank : isBlank character = true) (start : Nat)
    (rest : List Char) : wordsFrom start (character :: rest) = wordsFrom (start + 1) rest := by
  simp [joinWord, blank]

end StackLowering.Text

import StackLowering.Text.CodeRange

/-!
# Blank characters

A character is blank when Unicode gives it the property White_Space. Lines are
trimmed of blanks, and blanks separate the words of a command.
-/

namespace StackLowering.Text

/-- Blank characters as closed ranges of code points, in increasing order. -/
def blankRanges : List (Nat × Nat) :=
  [(0x0009, 0x000D), (0x0020, 0x0020), (0x0085, 0x0085), (0x00A0, 0x00A0), (0x1680, 0x1680),
    (0x2000, 0x200A), (0x2028, 0x2029), (0x202F, 0x202F), (0x205F, 0x205F), (0x3000, 0x3000)]

/-- Whether a character has the Unicode property White_Space. -/
def isBlank (character : Char) : Bool := within blankRanges character

/-- The end of a line is blank, so no word goes over it. -/
theorem isBlank_lineFeed : isBlank '\n' = true := by decide

/-- No letter, digit or mark that can stand in a symbol is blank. -/
theorem not_isBlank_of_graphic {character : Char} (above : 0x20 < character.toNat)
    (below : character.toNat < 0x7F) : isBlank character = false := by
  simp only [isBlank, within, blankRanges, List.any_cons, List.any_nil, Bool.or_false,
    Bool.or_eq_false_iff, Bool.and_eq_false_iff, decide_eq_false_iff_not]
  omega

/-- The text without the blanks at its beginning. -/
def trimStart (text : List Char) : List Char := text.dropWhile isBlank

/-- The text without the blanks at its end. -/
def trimEnd (text : List Char) : List Char := (text.reverse.dropWhile isBlank).reverse

/-- The number of blanks at the beginning of the text. -/
def leadingBlanks (text : List Char) : Nat := (text.takeWhile isBlank).length

end StackLowering.Text

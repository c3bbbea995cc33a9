/-!
# Machine words

Registers, memory cells, literals and operand counts all hold sixteen bits. A
word is a bit vector, so that its unsigned reading (an address or a literal) and
its signed reading (a value on the stack) are two views of one value.
-/

namespace StackLowering

/-- Sixteen bits. -/
abbrev Word := BitVec 16

namespace Word

/-- The largest literal that one load instruction can carry. -/
def maxLiteral : Nat := 32767

/-- The decimal text of a word's unsigned reading. -/
def text (word : Word) : String := word.toNat.repr

end Word

end StackLowering

import StackLowering.Proofs.Agreement
import StackLowering.Proofs.Command.Grammar

/-!
# Lines with the same words

The grammar of commands speaks of words, and of places only to say which characters
are to blame. So two lines with the same words are read as the same command, or they
are refused for the same fault at the same stage (`Command.parse_agree`), wherever the
words stand.
-/

namespace StackLowering

open Text (PlacedWord)

section SameWords

variable {words others : List PlacedWord}

/-- Words with the same characters are split in the same way. -/
theorem exists_split_of_characters_eq {before after : List PlacedWord} {word : PlacedWord}
    (same : others.map PlacedWord.characters = words.map PlacedWord.characters)
    (split : words = before ++ word :: after) :
    ∃ front paired back, others = front ++ paired :: back ∧
      front.map PlacedWord.characters = before.map PlacedWord.characters ∧
      paired.characters = word.characters ∧
      back.map PlacedWord.characters = after.map PlacedWord.characters := by
  rw [split, List.map_append, List.map_cons] at same
  obtain ⟨front, later, rfl, frontSame, laterSame⟩ := List.map_eq_append_iff.mp same
  obtain ⟨paired, back, rfl, pairedSame, backSame⟩ := List.map_eq_cons_iff.mp laterSame
  exact ⟨front, paired, back, rfl, frontSame, pairedSame, backSame⟩

/-- Words with the same characters are tokens together. -/
theorem isToken_of_characters_eq
    (same : others.map PlacedWord.characters = words.map PlacedWord.characters)
    (tokens : ∀ word ∈ words, Token.isToken word.characters = true) :
    ∀ word ∈ others, Token.isToken word.characters = true := by
  rw [← List.forall_mem_map (P := fun word => Token.isToken word = true)] at tokens ⊢
  rwa [same]

/-- Words with the same characters fit the same operands. -/
theorem fits_of_characters_eq {kinds : List OperandKind}
    (same : others.map PlacedWord.characters = words.map PlacedWord.characters)
    (fitting : ∀ entry ∈ kinds.zip words, entry.1.Fits entry.2.characters) :
    ∀ entry ∈ kinds.zip others, entry.1.Fits entry.2.characters := by
  have paired (list : List PlacedWord) :
      (∀ entry ∈ kinds.zip list, entry.1.Fits entry.2.characters) ↔
        ∀ entry ∈ kinds.zip (list.map PlacedWord.characters), entry.1.Fits entry.2 := by
    rw [List.zip_map_right, List.forall_mem_map]
    rfl
  rw [paired] at fitting ⊢
  rwa [same]

end SameWords

/-- A line is refused for the same fault as every line with the same words, in whatever place. -/
theorem Refused.of_pieces_eq {line other : List Char} {offset : Nat} {failure : Located Fault}
    (same : Text.pieces other = Text.pieces line) (refused : Refused line offset failure)
    (otherOffset : Nat) :
    ∃ span, Refused other otherOffset ⟨failure.value, span⟩ := by
  rw [← Text.characters_words, ← Text.characters_words] at same
  cases refused with
  | character split tokens stuck =>
    obtain ⟨front, paired, back, otherSplit, frontSame, pairedSame, -⟩ :=
      exists_split_of_characters_eq same split
    exact ⟨_, .character otherSplit (isToken_of_characters_eq frontSame tokens)
      (pairedSame ▸ stuck)⟩
  | empty wordless =>
    rw [wordless, List.map_nil, List.map_eq_nil_iff] at same
    exact ⟨_, .empty same⟩
  | command split tokens unknown =>
    have otherTokens := isToken_of_characters_eq same tokens
    rw [split] at same
    obtain ⟨paired, back, otherSplit, pairedSame, -⟩ := List.map_eq_cons_iff.mp same
    rw [← pairedSame] at unknown ⊢
    exact ⟨_, .command otherSplit otherTokens unknown⟩
  | tooFew split tokens named fewer =>
    have otherTokens := isToken_of_characters_eq same tokens
    rw [split] at same
    obtain ⟨paired, back, otherSplit, pairedSame, backSame⟩ := List.map_eq_cons_iff.mp same
    have counted := congrArg List.length backSame
    rw [List.length_map, List.length_map] at counted
    rw [← counted] at fewer ⊢
    exact ⟨_, .tooFew otherSplit otherTokens (named.trans pairedSame.symm) fewer⟩
  | tooMany split tokens named enough =>
    have otherTokens := isToken_of_characters_eq same tokens
    rw [split] at same
    obtain ⟨paired, back, otherSplit, pairedSame, backSame⟩ := List.map_eq_cons_iff.mp same
    have counted := congrArg List.length backSame
    obtain ⟨front, extra, last, rfl, frontSame, -, lastSame⟩ :=
      exists_split_of_characters_eq backSame rfl
    have needed := congrArg List.length frontSame
    rw [List.length_map, List.length_map] at counted needed
    rw [← counted]
    exact ⟨_, .tooMany otherSplit otherTokens (named.trans pairedSame.symm)
      (needed.trans enough)⟩
  | operand split tokens named counted fitting expected misfit =>
    have otherTokens := isToken_of_characters_eq same tokens
    rw [split] at same
    obtain ⟨paired, back, otherSplit, pairedSame, backSame⟩ := List.map_eq_cons_iff.mp same
    have length := congrArg List.length backSame
    obtain ⟨front, operand, last, rfl, frontSame, operandSame, lastSame⟩ :=
      exists_split_of_characters_eq backSame rfl
    have needed := congrArg List.length frontSame
    rw [List.length_map, List.length_map] at length needed
    exact ⟨_, .operand otherSplit otherTokens (named.trans pairedSame.symm)
      (length.trans counted) (fits_of_characters_eq frontSame fitting) (needed ▸ expected)
      (operandSame ▸ misfit)⟩

/-- Two located things are the same but for their places. -/
def Located.SameValue {α : Type} (first second : Located α) : Prop := first.value = second.value

/-- Lines with the same words are read as the same command, or have the same fault. -/
theorem Command.parse_agree {line other : List Char}
    (same : Text.pieces line = Text.pieces other) (offset otherOffset : Nat) :
    Agree Located.SameValue Located.SameValue (Command.parse line offset)
      (Command.parse other otherOffset) := by
  cases read : Command.parse line offset with
  | ok command =>
    have spells := (Command.parse_eq_ok_iff.mp read).1
    rw [same] at spells
    rw [Command.parse_of_spells spells]
    exact .ok rfl
  | error failure =>
    obtain ⟨span, refused⟩ :=
      Refused.of_pieces_eq same.symm (Command.parse_eq_error_iff.mp read) otherOffset
    rw [Command.parse_of_refused refused]
    exact .error rfl

end StackLowering

import StackLowering.Text.Words

/-!
# The words of a text are its maximal runs

`words` reads a text from its end and works with indices. Here its answer is
compared with the text itself: the words are the pieces between blanks, in order
(`characters_words`), and every word stands at its index, with nothing but blanks
touching it (`standsIn_of_mem_words`). Both follow from what `wordsFrom` does with
a blank and with a run of other characters, by `wordInduction`. So does that a text
cut behind a blank has the words of its two parts (`wordsFrom_append`), and that
every character is blank or in a word (`covered_of_getElem?`).
-/

namespace StackLowering.Text

/-- The pieces of a text between its blanks, without the empty ones. -/
def pieces (text : List Char) : List (List Char) :=
  (text.splitOnP isBlank).filter fun piece => !piece.isEmpty

/-- A word stands in a text at its index, and only blanks touch it. -/
structure PlacedWord.StandsIn (word : PlacedWord) (text : List Char) : Prop where
  solid : ∀ character ∈ word.characters, isBlank character = false
  surrounded : ∃ before after, text = before ++ word.characters ++ after ∧
    before.length = word.start ∧ (∀ character ∈ before.getLast?, isBlank character = true) ∧
    ∀ character ∈ after.head?, isBlank character = true

/-- No word is empty. -/
theorem length_characters_pos (word : PlacedWord) : 0 < word.characters.length :=
  Nat.succ_pos _

/-- Words do not begin in front of their text. -/
theorem le_start_of_mem_wordsFrom {start : Nat} {text : List Char} {word : PlacedWord}
    (member : word ∈ wordsFrom start text) : start ≤ word.start := by
  induction text generalizing start word with
  | nil => cases member
  | cons character rest inductionHypothesis =>
    rw [wordsFrom_cons] at member
    have later : ∀ word ∈ wordsFrom (start + 1) rest, start ≤ word.start := fun word inRest =>
      Nat.le_of_succ_le (inductionHypothesis inRest)
    simp only [joinWord] at member
    split at member
    · exact later word member
    · split at member
      · rw [List.mem_singleton] at member
        exact Nat.le_of_eq (congrArg PlacedWord.start member).symm
      · rename_i next others found
        rw [found] at later
        split at member
        · rcases List.mem_cons.mp member with rfl | inOthers
          · exact Nat.le_refl _
          · exact later word (List.mem_cons_of_mem _ inOthers)
        · rcases List.mem_cons.mp member with rfl | inRest
          · exact Nat.le_refl _
          · exact later word inRest

/-- A run of characters that are not blank, up to a blank or the end, is one word. -/
theorem wordsFrom_run {start : Nat} {first : Char} {more rest : List Char}
    (solid : ∀ character ∈ first :: more, isBlank character = false)
    (bounded : ∀ character ∈ rest.head?, isBlank character = true) :
    wordsFrom start (first :: more ++ rest) =
      ⟨start, first, more⟩ :: wordsFrom (start + (first :: more).length) rest := by
  induction more generalizing start first with
  | nil =>
    have later : ∀ word ∈ wordsFrom (start + 1) rest, word.start ≠ start + 1 := by
      intro word member
      cases rest with
      | nil => cases member
      | cons blank others =>
        rw [wordsFrom_blank (bounded blank (by simp))] at member
        have := le_start_of_mem_wordsFrom member
        omega
    simp only [List.cons_append, List.nil_append, wordsFrom_cons, joinWord,
      solid first List.mem_cons_self, List.length_singleton]
    cases found : wordsFrom (start + 1) rest with
    | nil => rfl
    | cons word others =>
      rw [found] at later
      simp [later word List.mem_cons_self]
  | cons second more inductionHypothesis =>
    have one : wordsFrom (start + 1) (second :: more ++ rest) =
        ⟨start + 1, second, more⟩ :: wordsFrom (start + 1 + (second :: more).length) rest :=
      inductionHypothesis fun character member => solid character (List.mem_cons_of_mem _ member)
    rw [List.cons_append, wordsFrom_cons, one]
    simp only [joinWord, solid first List.mem_cons_self, PlacedWord.characters,
      List.length_cons, Bool.false_eq_true, if_false, if_true]
    rw [show start + 1 + (more.length + 1) = start + (more.length + 1 + 1) by omega]

/-- A text that begins with a character that is not blank has a word. -/
theorem words_ne_nil {first : Char} {rest : List Char} (solid : isBlank first = false) :
    words (first :: rest) ≠ [] := by
  simp only [words, wordsFrom_cons, joinWord, solid, Bool.false_eq_true, if_false]
  split
  · simp
  · split <;> simp

/-- A text is empty, or it begins with a blank or with a whole word. -/
theorem wordInduction {motive : List Char → Prop} (nil : motive [])
    (blank : ∀ character rest, isBlank character = true → motive rest →
      motive (character :: rest))
    (run : ∀ first more rest, (∀ character ∈ first :: more, isBlank character = false) →
      (∀ character ∈ rest.head?, isBlank character = true) → motive rest →
      motive (first :: more ++ rest))
    (text : List Char) : motive text := by
  -- Recursion on the length, because a whole word goes at once.
  induction bound : text.length using Nat.strongRecOn generalizing text with
  | ind bound inductionHypothesis =>
    cases text with
    | nil => exact nil
    | cons first others =>
      by_cases isBlankFirst : isBlank first = true
      · exact blank first others isBlankFirst
          (inductionHypothesis others.length (by simp [← bound]) others rfl)
      · have parts := List.takeWhile_append_dropWhile (p := fun c => !isBlank c) (l := others)
        rw [← parts]
        refine run first _ _ ?_ ?_ (inductionHypothesis _ ?_ _ rfl)
        · intro character member
          rcases List.mem_cons.mp member with rfl | inRun
          · simpa using isBlankFirst
          · simpa using List.all_eq_true.mp List.all_takeWhile character inRun
        · intro character atHead
          have stopped := List.head?_dropWhile_not (fun c => !isBlank c) others
          rw [Option.mem_def.mp atHead] at stopped
          simpa using stopped
        · have shorter := (List.dropWhile_sublist (l := others) fun c => !isBlank c).length_le
          rw [← bound, List.length_cons]
          omega

/-- The words of a text are its pieces between blanks. -/
theorem characters_wordsFrom (start : Nat) (text : List Char) :
    (wordsFrom start text).map PlacedWord.characters = pieces text := by
  induction text using wordInduction generalizing start with
  | nil => rfl
  | blank character rest isBlankHere inductionHypothesis =>
    rw [wordsFrom_blank isBlankHere, inductionHypothesis]
    simp [pieces, List.splitOnP_cons_eq_if_modifyHead, isBlankHere]
  | run first more rest solid bounded inductionHypothesis =>
    rw [wordsFrom_run solid bounded, List.map_cons, inductionHypothesis]
    unfold pieces
    cases rest with
    | nil =>
      rw [List.append_nil, List.splitOnP_eq_singleton solid]
      rfl
    | cons separator others =>
      have isBlankThere := bounded separator (by simp)
      rw [List.splitOnP_append_cons_of_forall_mem solid separator isBlankThere]
      simp [List.splitOnP_cons_eq_if_modifyHead, isBlankThere, PlacedWord.characters]

/-- The words of a text are its pieces between blanks, in order. -/
theorem characters_words (text : List Char) :
    (words text).map PlacedWord.characters = pieces text :=
  characters_wordsFrom 0 text

/-- Words of a text that begins at `start` stand in it, counted from there. -/
private theorem standsIn_of_mem_wordsFrom {start : Nat} {text : List Char} {word : PlacedWord}
    (member : word ∈ wordsFrom start text) :
    (∀ character ∈ word.characters, isBlank character = false) ∧
      ∃ before after, text = before ++ word.characters ++ after ∧
        start + before.length = word.start ∧
        (∀ character ∈ before.getLast?, isBlank character = true) ∧
        ∀ character ∈ after.head?, isBlank character = true := by
  induction text using wordInduction generalizing start with
  | nil => cases member
  | blank character rest isBlankHere inductionHypothesis =>
    rw [wordsFrom_blank isBlankHere] at member
    obtain ⟨solid, before, after, rfl, placed, beforeBlank, afterBlank⟩ :=
      inductionHypothesis member
    refine ⟨solid, character :: before, after, rfl, by simp; omega, ?_, afterBlank⟩
    cases before with
    | nil => simpa using isBlankHere
    | cons head tail => simpa using beforeBlank
  | run first more rest solid bounded inductionHypothesis =>
    rw [wordsFrom_run solid bounded] at member
    rcases List.mem_cons.mp member with rfl | later
    · exact ⟨solid, [], rest, rfl, rfl, by simp, bounded⟩
    · obtain ⟨wordSolid, before, after, rfl, placed, beforeBlank, afterBlank⟩ :=
        inductionHypothesis later
      refine ⟨wordSolid, first :: more ++ before, after, by simp, by simp at placed ⊢; omega,
        ?_, afterBlank⟩
      cases before with
      | nil =>
        -- Two words cannot touch: the second one would begin with a blank.
        have touching := bounded word.first (by simp [PlacedWord.characters])
        rw [wordSolid word.first (by simp [PlacedWord.characters])] at touching
        cases touching
      | cons head tail =>
        rw [List.getLast?_append, List.getLast?_cons, Option.some_or, ← List.getLast?_cons]
        exact beforeBlank

/-- Every word of a text stands in it. -/
theorem standsIn_of_mem_words {text : List Char} {word : PlacedWord}
    (member : word ∈ words text) : word.StandsIn text := by
  obtain ⟨solid, before, after, split, placed, beforeBlank, afterBlank⟩ :=
    standsIn_of_mem_wordsFrom member
  exact ⟨solid, before, after, split, by omega, beforeBlank, afterBlank⟩

/-- Words come in order, and each one ends before the next one begins. -/
theorem pairwise_wordsFrom (start : Nat) (text : List Char) :
    (wordsFrom start text).Pairwise fun earlier later => earlier.stop < later.start := by
  induction text using wordInduction generalizing start with
  | nil => exact .nil
  | blank character rest isBlankHere inductionHypothesis =>
    rw [wordsFrom_blank isBlankHere]
    exact inductionHypothesis _
  | run first more rest solid bounded inductionHypothesis =>
    rw [wordsFrom_run solid bounded]
    refine .cons (fun later member => ?_) (inductionHypothesis _)
    cases rest with
    | nil => cases member
    | cons blank others =>
      -- The run ends at a blank, which no word begins with.
      rw [wordsFrom_blank (bounded blank (by simp))] at member
      exact le_start_of_mem_wordsFrom member

/-- Blanks in front of a text only move its words. -/
theorem wordsFrom_blanks_append {blanks : List Char}
    (allBlank : ∀ character ∈ blanks, isBlank character = true) (start : Nat) (text : List Char) :
    wordsFrom start (blanks ++ text) = wordsFrom (start + blanks.length) text := by
  induction blanks generalizing start with
  | nil => rfl
  | cons blank rest inductionHypothesis =>
    rw [List.forall_mem_cons] at allBlank
    rw [List.cons_append, wordsFrom_blank allBlank.1, inductionHypothesis allBlank.2,
      List.length_cons, Nat.add_right_comm, Nat.add_assoc]

/-- A run of characters that are not blank, up to a blank or the end, is one piece. -/
theorem pieces_run {first : Char} {more rest : List Char}
    (solid : ∀ character ∈ first :: more, isBlank character = false)
    (bounded : ∀ character ∈ rest.head?, isBlank character = true) :
    pieces (first :: more ++ rest) = (first :: more) :: pieces rest := by
  rw [← characters_wordsFrom 0, wordsFrom_run solid bounded, List.map_cons, characters_wordsFrom]
  rfl

/-- A text that ends in a blank can be cut off without cutting a word. -/
theorem wordsFrom_append {front : List Char}
    (bounded : ∀ character ∈ front.getLast?, isBlank character = true) (start : Nat)
    (rest : List Char) :
    wordsFrom start (front ++ rest) =
      wordsFrom start front ++ wordsFrom (start + front.length) rest := by
  induction front using wordInduction generalizing start with
  | nil => rfl
  | blank character more isBlankHere inductionHypothesis =>
    have later : ∀ last ∈ more.getLast?, isBlank last = true := by
      intro last atEnd
      refine bounded last ?_
      rw [List.getLast?_cons, Option.mem_def.mp atEnd]
      rfl
    rw [List.cons_append, wordsFrom_blank isBlankHere, wordsFrom_blank isBlankHere,
      inductionHypothesis later, List.length_cons, Nat.add_right_comm, Nat.add_assoc]
  | run first more behind solid ends inductionHypothesis =>
    cases behind with
    | nil =>
      -- The text would end in a character of a word.
      obtain ⟨last, atEnd⟩ := List.getLast?_isSome.mpr (List.cons_ne_nil first more)
        |> Option.isSome_iff_exists.mp
      rw [List.append_nil] at bounded
      have blank := bounded last atEnd
      rw [solid last (List.mem_of_getLast? atEnd)] at blank
      cases blank
    | cons blank others =>
      have later : ∀ last ∈ (blank :: others).getLast?, isBlank last = true := by
        intro last atEnd
        refine bounded last ?_
        rw [List.getLast?_append, Option.mem_def.mp atEnd]
        rfl
      rw [List.append_assoc, wordsFrom_run solid (by simpa using ends), wordsFrom_run solid ends,
        inductionHypothesis later, List.cons_append, List.length_append, Nat.add_assoc]

/-- A text that begins with characters that are not blank begins with a word that begins with
them. -/
theorem exists_word_of_solid {piece : List Char} (nonempty : piece ≠ [])
    (solid : ∀ character ∈ piece, isBlank character = false) (start : Nat) (rest : List Char) :
    ∃ word later, wordsFrom start (piece ++ rest) = word :: later ∧ word.start = start ∧
      ∃ more, word.characters = piece ++ more := by
  obtain ⟨first, others, rfl⟩ := List.exists_cons_of_ne_nil nonempty
  have cut := List.takeWhile_append_dropWhile (p := fun c => !isBlank c) (l := rest)
  have bounded : ∀ character ∈ (rest.dropWhile fun c => !isBlank c).head?,
      isBlank character = true := by
    intro character atHead
    have stopped := List.head?_dropWhile_not (fun c => !isBlank c) rest
    rw [Option.mem_def.mp atHead] at stopped
    simpa using stopped
  have run : ∀ character ∈ first :: (others ++ rest.takeWhile fun c => !isBlank c),
      isBlank character = false := by
    intro character member
    rw [← List.cons_append] at member
    rcases List.mem_append.mp member with inPiece | inRest
    · exact solid character inPiece
    · simpa using List.all_eq_true.mp List.all_takeWhile character inRest
  have found : wordsFrom start _ = _ := wordsFrom_run run bounded
  rw [List.cons_append, List.append_assoc, cut, ← List.cons_append] at found
  exact ⟨_, _, found, rfl, _, rfl⟩

/-- Every character of a text is blank or belongs to a word. -/
theorem covered_of_getElem? (start : Nat) {index : Nat} {text : List Char} {character : Char}
    (here : text[index]? = some character) :
    isBlank character = true ∨
      ∃ word ∈ wordsFrom start text, word.start ≤ start + index ∧ start + index < word.stop := by
  induction text using wordInduction generalizing start index with
  | nil => simp at here
  | blank first rest isBlankHere inductionHypothesis =>
    cases index with
    | zero =>
      obtain rfl : first = character := by simpa using here
      exact Or.inl isBlankHere
    | succ index =>
      rw [List.getElem?_cons_succ] at here
      rw [wordsFrom_blank isBlankHere, Nat.add_comm index, ← Nat.add_assoc]
      exact inductionHypothesis _ here
  | run first more rest solid bounded inductionHypothesis =>
    rw [wordsFrom_run solid bounded]
    rcases Nat.lt_or_ge index (first :: more).length with inside | behind
    · exact Or.inr ⟨_, List.mem_cons_self, Nat.le_add_right _ _, Nat.add_lt_add_left inside _⟩
    · rw [List.getElem?_append_right behind] at here
      rcases inductionHypothesis (start + (first :: more).length) here with
        blank | ⟨word, member, covers⟩
      · exact Or.inl blank
      · rw [Nat.add_assoc, Nat.add_sub_cancel' behind] at covers
        exact Or.inr ⟨word, List.mem_cons_of_mem _ member, covers⟩

end StackLowering.Text

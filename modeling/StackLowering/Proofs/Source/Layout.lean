import StackLowering.Proofs.Source.Lines
import StackLowering.Proofs.Text.Words
import Mathlib.Data.List.DropRight
import Mathlib.Data.List.Forall2
import Mathlib.Data.List.Infix

/-!
# What the layout of a source says

Only two things count in a source: which words stand on a line, and the number of
that line. `wordsByLine` reads both off the text, with nothing but cuts at line
feeds, at the first `//` of a line and at blanks, and `words_of_lines` finds
them again in the lines that are yielded for a source. Sources of the same layout
differ in indentation, separators, comments and lines without words at their end.
-/

namespace StackLowering

/-! ## Blanks around a text -/

namespace Text

/-- An empty text has no pieces. -/
@[simp] theorem pieces_nil : pieces [] = [] := rfl

/-- A blank separates the pieces in front of it from those behind it. -/
theorem pieces_append_blank {blank : Char} (isBlankHere : isBlank blank = true)
    (first second : List Char) :
    pieces (first ++ blank :: second) = pieces first ++ pieces second := by
  unfold pieces
  rw [List.splitOnP_append_cons first second isBlankHere, List.filter_append]

/-- Blanks in front of a text are no part of its pieces. -/
theorem pieces_blanks_append {blanks : List Char}
    (allBlank : ∀ character ∈ blanks, isBlank character = true) (text : List Char) :
    pieces (blanks ++ text) = pieces text := by
  induction blanks with
  | nil => rfl
  | cons blank rest inductionHypothesis =>
    rw [List.forall_mem_cons] at allBlank
    have separated := pieces_append_blank allBlank.1 [] (rest ++ text)
    rw [List.nil_append, pieces_nil, List.nil_append] at separated
    rw [List.cons_append, separated, inductionHypothesis allBlank.2]

/-- Blanks behind a text are no part of its pieces. -/
theorem pieces_append_blanks {blanks : List Char}
    (allBlank : ∀ character ∈ blanks, isBlank character = true) (text : List Char) :
    pieces (text ++ blanks) = pieces text := by
  cases blanks with
  | nil => rw [List.append_nil]
  | cons blank rest =>
    have empty := pieces_blanks_append (fun character member =>
      allBlank character (List.mem_cons_of_mem _ member)) []
    rw [List.append_nil, pieces_nil] at empty
    rw [pieces_append_blank (allBlank blank List.mem_cons_self), empty, List.append_nil]

/-- Trimming a text takes none of its pieces away. -/
theorem pieces_trim (text : List Char) : pieces (trimEnd (trimStart text)) = pieces text := by
  have leading : text.takeWhile isBlank ++ trimStart text = text :=
    List.takeWhile_append_dropWhile
  have trailing : trimEnd (trimStart text) ++ (trimStart text).rtakeWhile isBlank =
      trimStart text :=
    List.rdropWhile_append_rtakeWhile
  calc pieces (trimEnd (trimStart text))
    _ = pieces (trimStart text) := by
      rw [← pieces_append_blanks (fun _ => List.mem_rtakeWhile_imp) (trimEnd (trimStart text)),
        trailing]
    _ = pieces text := by
      rw [← pieces_blanks_append (fun _ => List.mem_takeWhile_imp) (trimStart text), leading]

/-- A text that begins with a character that is not blank has a piece. -/
theorem pieces_ne_nil {text : List Char} (nonempty : text ≠ [])
    (solid : ∀ character ∈ text.head?, isBlank character = false) : pieces text ≠ [] := by
  obtain ⟨first, rest, rfl⟩ := List.exists_cons_of_ne_nil nonempty
  rw [← characters_words, ne_eq, List.map_eq_nil_iff]
  exact words_ne_nil (solid first rfl)

end Text

namespace Source

/-! ## Words line by line -/

/-- The part of a line in front of its first `//`, or the whole line if there is none. -/
def uncommented (line : List Char) : List Char :=
  line.take (line.tails.findIdx fun rest => "//".toList.isPrefixOf rest)

/-- The words of each line of a source, for lines that end at line feeds. -/
def wordsByLine (source : List Char) : List (List (List Char)) :=
  (source.splitOn '\n').map fun line => Text.pieces (uncommented line)

/-- Two sources have the same words on the same lines, not counting the lines without words at the
end. -/
def SameLayout (source other : List Char) : Prop :=
  (wordsByLine source).rdropWhile List.isEmpty = (wordsByLine other).rdropWhile List.isEmpty

instance (source other : List Char) : Decidable (SameLayout source other) :=
  inferInstanceAs (Decidable (_ = _))

/-- The lines that have words, with their numbers. -/
def numberedWords (number : Nat) (lines : List (List (List Char))) :
    List (List (List Char) × Nat) :=
  (lines.zipIdx number).filter fun entry => !entry.1.isEmpty

/-- A line without words is counted and left out. -/
@[simp] theorem numberedWords_cons (number : Nat) (words : List (List Char))
    (rest : List (List (List Char))) :
    numberedWords number (words :: rest) =
      if words.isEmpty then numberedWords (number + 1) rest
      else (words, number) :: numberedWords (number + 1) rest := by
  unfold numberedWords
  rw [List.zipIdx_cons, List.filter_cons]
  cases words <;> rfl

/-- Lines without words at the end have no numbers to give. -/
theorem numberedWords_append_of_isEmpty {lines others : List (List (List Char))}
    (wordless : ∀ words ∈ others, words.isEmpty = true) (number : Nat) :
    numberedWords number (lines ++ others) = numberedWords number lines := by
  unfold numberedWords
  rw [List.zipIdx_append, List.filter_append]
  have none : (others.zipIdx (number + lines.length)).filter (fun entry => !entry.1.isEmpty) =
      [] := by
    rw [List.filter_eq_nil_iff]
    intro entry member
    simp [List.isEmpty_iff.mp (wordless entry.1 (List.fst_mem_of_mem_zipIdx member))]
  rw [none, List.append_nil]

/-- Lines without words at the end make no difference. -/
theorem numberedWords_rdropWhile (number : Nat) (lines : List (List (List Char))) :
    numberedWords number (lines.rdropWhile List.isEmpty) = numberedWords number lines := by
  have split : lines.rdropWhile List.isEmpty ++ lines.rtakeWhile List.isEmpty = lines :=
    List.rdropWhile_append_rtakeWhile
  conv_rhs => rw [← split]
  exact (numberedWords_append_of_isEmpty (fun _ => List.mem_rtakeWhile_imp) number).symm

/-! ## The same words in the lines of a source -/

/-- A line goes on in front of its first comment marker. -/
theorem beforeComment_cons {character : Char} {rest : List Char}
    (noComment : "//".toList.isPrefixOf (character :: rest) = false) :
    beforeComment (character :: rest) = character :: beforeComment rest := by
  rw [beforeComment]
  rintro more rfl rfl
  cases noComment

/-- The two ways to find the comment of a line agree. -/
theorem uncommented_eq_beforeComment (line : List Char) :
    uncommented line = beforeComment line := by
  unfold uncommented
  induction line with
  | nil => rfl
  | cons character rest inductionHypothesis =>
    rw [List.tails_cons, List.findIdx_cons]
    cases begins : "//".toList.isPrefixOf (character :: rest) with
    | true =>
      obtain ⟨more, split⟩ := List.isPrefixOf_iff_prefix.mp begins
      rw [← split]
      rfl
    | false =>
      rw [beforeComment_cons begins, ← inductionHypothesis]
      rfl

/-- A line feed at the end of a line is cut with the comment, or else it stays. -/
theorem beforeComment_append_lineFeed (line : List Char) :
    beforeComment (line ++ ['\n']) = beforeComment line ∨
      beforeComment (line ++ ['\n']) = beforeComment line ++ ['\n'] := by
  induction line with
  | nil => exact Or.inr rfl
  | cons character rest inductionHypothesis =>
    cases begins : "//".toList.isPrefixOf (character :: rest) with
    | true =>
      obtain ⟨more, split⟩ := List.isPrefixOf_iff_prefix.mp begins
      rw [← split]
      exact Or.inl rfl
    | false =>
      have beginsNot : "//".toList.isPrefixOf (character :: (rest ++ ['\n'])) = false := by
        cases rest with
        | nil => simp [List.isPrefixOf]
        | cons second more => simpa [List.isPrefixOf] using begins
      rw [List.cons_append, beforeComment_cons begins, beforeComment_cons beginsNot]
      rcases inductionHypothesis with same | longer
      · exact Or.inl (by rw [same])
      · exact Or.inr (by rw [longer, List.cons_append])

/-- A raw line is a line with or without the line feed that ends it. -/
def EndsLine (raw line : List Char) : Prop := raw = line ∨ raw = line ++ ['\n']

/-- The end of a line is no part of its pieces. -/
theorem pieces_of_endsLine {raw line : List Char} (ends : EndsLine raw line) :
    Text.pieces (beforeComment raw) = Text.pieces (uncommented line) := by
  rw [uncommented_eq_beforeComment]
  rcases ends with rfl | rfl
  · rfl
  · rcases beforeComment_append_lineFeed line with same | longer
    · rw [same]
    · rw [longer]
      refine Text.pieces_append_blanks (fun character member => ?_) _
      rw [List.mem_singleton.mp member]
      exact Text.isBlank_lineFeed

/-- A source is cut into the same lines at its line feeds, but for an empty one at its end. -/
theorem exists_splitOn_eq (source : List Char) :
    ∃ lines last, source.splitOn '\n' = lines ++ last ∧
      List.Forall₂ EndsLine (rawLines source) lines ∧ ∀ line ∈ last, line = [] := by
  induction source with
  | nil => exact ⟨[], [[]], rfl, .nil, by simp⟩
  | cons character rest inductionHypothesis =>
    obtain ⟨lines, last, split, ends, empty⟩ := inductionHypothesis
    have unfolded : rawLines (character :: rest) = joinLine character (rawLines rest) := rfl
    rw [List.splitOn_cons_eq_if_modifyHead, split, unfolded]
    unfold joinLine
    generalize rawLines rest = raws at ends
    by_cases feed : character = '\n'
    · subst feed
      exact ⟨[] :: lines, last, rfl, .cons (Or.inr rfl) ends, empty⟩
    · rw [if_neg (by simpa using feed), if_neg feed]
      cases ends with
      | nil =>
        -- The rest has no lines, so that its only cut piece is the empty one.
        have nonempty := List.splitOn_ne_nil '\n' rest
        rw [split, List.nil_append] at nonempty
        obtain ⟨piece, others, rfl⟩ := List.exists_cons_of_ne_nil nonempty
        rw [List.forall_mem_cons] at empty
        obtain ⟨rfl, empty⟩ := empty
        exact ⟨[[character]], others, rfl, .cons (Or.inl rfl) .nil, empty⟩
      | cons head tail =>
        refine ⟨_ :: _, last, rfl, .cons ?_ tail, empty⟩
        rcases head with rfl | rfl
        · exact Or.inl rfl
        · exact Or.inr rfl

/-- The command of a raw line has the words of that line; a line without words has none. -/
theorem words_of_line? (number offset : Nat) (raw : List Char) :
    (line? number offset raw).map (fun line => (Text.pieces line.text, line.number)) =
      if (Text.pieces (beforeComment raw)).isEmpty then none
      else some (Text.pieces (beforeComment raw), number) := by
  obtain ⟨-, -, -, -, solid, -⟩ := trim_spec (beforeComment raw)
  rw [← Text.pieces_trim (beforeComment raw)]
  unfold line?
  dsimp only
  split
  · rename_i empty
    rw [empty]
    rfl
  · rename_i text nonempty
    rw [if_neg (by simpa using Text.pieces_ne_nil nonempty solid)]
    rfl

/-- Placed lines have the words in front of the comments of their raw lines, with the same
numbers. -/
theorem words_of_placeLines (number offset : Nat) (raws : List (List Char)) :
    (placeLines number offset raws).map (fun line => (Text.pieces line.text, line.number)) =
      numberedWords number (raws.map fun raw => Text.pieces (beforeComment raw)) := by
  induction raws generalizing number offset with
  | nil => rfl
  | cons raw rest inductionHypothesis =>
    have here := words_of_line? number offset raw
    rw [List.map_cons, numberedWords_cons, ← inductionHypothesis (number + 1)
      (offset + raw.length), placeLines]
    cases found : line? number offset raw with
    | none =>
      rw [found] at here
      split at here
      · rename_i wordless
        rw [if_pos wordless]
      · cases here
    | some line =>
      rw [found] at here
      split at here
      · cases here
      · rename_i worded
        rw [if_neg worded]
        exact congrArg (· :: _) (Option.some.inj here)

/-- The lines of a source are its lines with words, each with its number. -/
theorem words_of_lines (source : List Char) :
    (lines source).map (fun line => (Text.pieces line.text, line.number)) =
      numberedWords 1 (wordsByLine source) := by
  obtain ⟨cut, last, split, ends, empty⟩ := exists_splitOn_eq source
  have same : (rawLines source).map (fun raw => Text.pieces (beforeComment raw)) =
      cut.map fun line => Text.pieces (uncommented line) := by
    rw [← List.forall₂_eq_eq_eq, List.forall₂_map_left_iff, List.forall₂_map_right_iff]
    exact ends.imp fun _ _ => pieces_of_endsLine
  rw [lines, words_of_placeLines, same, wordsByLine, split, List.map_append,
    numberedWords_append_of_isEmpty]
  intro words member
  obtain ⟨line, inLast, rfl⟩ := List.mem_map.mp member
  rw [empty line inLast]
  rfl

/-- Sources of the same layout yield the same words under the same line numbers. -/
theorem forall₂_lines {source other : List Char} (same : SameLayout source other) :
    List.Forall₂ (fun line paired => line.number = paired.number ∧
      Text.pieces line.text = Text.pieces paired.text) (lines source) (lines other) := by
  have equal : (lines source).map (fun line => (Text.pieces line.text, line.number)) =
      (lines other).map fun line => (Text.pieces line.text, line.number) := by
    rw [words_of_lines, words_of_lines, ← numberedWords_rdropWhile, same,
      numberedWords_rdropWhile]
  rw [← List.forall₂_eq_eq_eq, List.forall₂_map_left_iff, List.forall₂_map_right_iff] at equal
  refine equal.imp fun line paired entries => ?_
  exact ⟨congrArg Prod.snd entries, congrArg Prod.fst entries⟩

/-- Indentation, separators, carriage returns and comments are of no importance. -/
example : SameLayout "push constant 7\nadd // sum\n".toList
    "\tpush\u3000constant\u00A07//!\r\n \u2028add\r\n\n// end".toList := by
  decide +kernel

/-- A line without words in front of others moves them. -/
example : ¬ SameLayout "add".toList "\nadd".toList := by decide +kernel

end Source

end StackLowering

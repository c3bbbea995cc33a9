import StackLowering.Source

/-!
# Where the lines of a source stand

`lines` counts characters while it cuts a source, and takes comments and blanks
away. `standsIn_of_mem_lines` says that every line it yields is found in the source
at its offset, that it begins and ends with a character that is not blank, and that
there is no line feed in it.
-/

namespace StackLowering.Source

/-- A line stands in a source at its offset, on one line of it and without blanks around it. -/
structure Line.StandsIn (line : Line) (source : List Char) : Prop where
  numbered : 1 ≤ line.number
  nonempty : line.text ≠ []
  placed : ∃ before after, source = before ++ line.text ++ after ∧ before.length = line.offset
  unbroken : '\n' ∉ line.text
  trimmedStart : ∀ character ∈ line.text.head?, Text.isBlank character = false
  trimmedEnd : ∀ character ∈ line.text.getLast?, Text.isBlank character = false

/-- A line feed ends the raw line in which it is. -/
theorem not_mem_dropLast_of_mem_rawLines {source raw : List Char} (member : raw ∈ rawLines source) :
    '\n' ∉ raw.dropLast := by
  induction source generalizing raw with
  | nil => cases member
  | cons character rest inductionHypothesis =>
    have unfolded : rawLines (character :: rest) = joinLine character (rawLines rest) := rfl
    rw [unfolded] at member
    unfold joinLine at member
    split at member
    · rcases List.mem_cons.mp member with rfl | later
      · simp
      · exact inductionHypothesis later
    · rename_i other
      split at member
      · rw [List.mem_singleton] at member
        simp [member]
      · rename_i line others found
        rcases List.mem_cons.mp member with rfl | later
        · cases line with
          | nil => simp
          | cons second more =>
            have before := inductionHypothesis (found ▸ List.mem_cons_self)
            rw [List.dropLast_cons_cons, List.mem_cons, not_or]
            exact ⟨fun same => other same.symm, before⟩
        · exact inductionHypothesis (found ▸ List.mem_cons_of_mem _ later)

/-- What is in front of a comment begins the line. -/
theorem exists_append_beforeComment (raw : List Char) :
    ∃ comment, raw = beforeComment raw ++ comment := by
  fun_induction beforeComment raw with
  | case1 => exact ⟨[], rfl⟩
  | case2 rest => exact ⟨_, rfl⟩
  | case3 character rest _ inductionHypothesis =>
    obtain ⟨comment, split⟩ := inductionHypothesis
    exact ⟨comment, by rw [List.cons_append, ← split]⟩

/-- Trimming takes blanks away, as many in front as there are, and leaves none at the ends. -/
theorem trim_spec (code : List Char) :
    ∃ leading trailing,
      code = leading ++ Text.trimEnd (Text.trimStart code) ++ trailing ∧
        leading.length = Text.leadingBlanks code ∧
        (∀ character ∈ (Text.trimEnd (Text.trimStart code)).head?,
          Text.isBlank character = false) ∧
        (∀ character ∈ (Text.trimEnd (Text.trimStart code)).getLast?,
          Text.isBlank character = false) ∧
        (∀ character ∈ leading, Text.isBlank character = true) ∧
        ∀ character ∈ trailing, Text.isBlank character = true := by
  have start : code = code.takeWhile Text.isBlank ++ Text.trimStart code :=
    List.takeWhile_append_dropWhile.symm
  have stop : Text.trimStart code = Text.trimEnd (Text.trimStart code) ++
      ((Text.trimStart code).reverse.takeWhile Text.isBlank).reverse := by
    rw [Text.trimEnd, ← List.reverse_append, List.takeWhile_append_dropWhile,
      List.reverse_reverse]
  refine ⟨code.takeWhile Text.isBlank,
    ((Text.trimStart code).reverse.takeWhile Text.isBlank).reverse, ?_, rfl, ?_, ?_, ?_, ?_⟩
  · rw [List.append_assoc, ← stop]
    exact start
  · intro character atHead
    -- The first character is also the first one after the blanks in front.
    have first : (Text.trimStart code).head? = some character := by
      rw [stop, List.head?_append, Option.mem_def.mp atHead]
      rfl
    have stopped := List.head?_dropWhile_not Text.isBlank code
    rw [Text.trimStart] at first
    rw [first] at stopped
    simpa using stopped
  · intro character atEnd
    have stopped := List.head?_dropWhile_not Text.isBlank (Text.trimStart code).reverse
    rw [Text.trimEnd, List.getLast?_reverse] at atEnd
    rw [Option.mem_def.mp atEnd] at stopped
    simpa using stopped
  · exact List.all_eq_true.mp List.all_takeWhile
  · intro character member
    rw [List.mem_reverse] at member
    exact List.all_eq_true.mp List.all_takeWhile character member

/-- The command of a raw line is a part of it, without blanks around it. -/
theorem exists_split_of_line? {number offset : Nat} {raw : List Char} {line : Line}
    (found : line? number offset raw = some line) :
    line.number = number ∧ line.text ≠ [] ∧
      (∃ leading trailing, raw = leading ++ line.text ++ trailing ∧
        line.offset = offset + leading.length) ∧
      (∀ character ∈ line.text.head?, Text.isBlank character = false) ∧
      ∀ character ∈ line.text.getLast?, Text.isBlank character = false := by
  obtain ⟨leading, trailing, split, count, first, last, -, -⟩ := trim_spec (beforeComment raw)
  obtain ⟨comment, cut⟩ := exists_append_beforeComment raw
  unfold line? at found
  dsimp only at found
  split at found
  · cases found
  · rename_i text nonempty
    cases found
    refine ⟨rfl, nonempty, ⟨leading, trailing ++ comment, ?_, by rw [count]⟩, first, last⟩
    rw [← List.append_assoc, ← split]
    exact cut

/-- A command that is found among raw lines comes from one of them. -/
theorem exists_raw_of_mem_placeLines {number offset : Nat} {raws : List (List Char)} {line : Line}
    (member : line ∈ placeLines number offset raws) :
    ∃ before raw after, raws = before ++ raw :: after ∧
      line? (number + before.length) (offset + before.flatten.length) raw = some line := by
  induction raws generalizing number offset with
  | nil => cases member
  | cons raw rest inductionHypothesis =>
    have later : line ∈ placeLines (number + 1) (offset + raw.length) rest →
        ∃ before other after, raw :: rest = before ++ other :: after ∧
          line? (number + before.length) (offset + before.flatten.length) other = some line := by
      intro inRest
      obtain ⟨before, other, after, split, found⟩ := inductionHypothesis inRest
      refine ⟨raw :: before, other, after, by rw [split]; rfl, ?_⟩
      rw [List.length_cons, List.flatten_cons, List.length_append, ← found]
      congr 1 <;> omega
    unfold placeLines at member
    dsimp only at member
    split at member
    · exact later member
    · rename_i found
      rcases List.mem_cons.mp member with rfl | inRest
      · exact ⟨[], raw, rest, rfl, found⟩
      · exact later inRest

/-- Every line stands in its source. -/
theorem standsIn_of_mem_lines {source : List Char} {line : Line} (member : line ∈ lines source) :
    line.StandsIn source := by
  obtain ⟨earlier, raw, later, raws, found⟩ := exists_raw_of_mem_placeLines member
  obtain ⟨number, nonempty, ⟨leading, trailing, split, offset⟩, first, last⟩ :=
    exists_split_of_line? found
  refine ⟨by omega, nonempty, ?_, ?_, first, last⟩
  · refine ⟨earlier.flatten ++ leading, trailing ++ later.flatten, ?_, ?_⟩
    · have whole := flatten_rawLines source
      rw [raws, List.flatten_append, List.flatten_cons, split] at whole
      rw [← whole]
      simp [List.append_assoc]
    · rw [List.length_append, offset]
      omega
  · -- A line feed in the text could only be its last character, which is not blank.
    intro broken
    obtain ⟨front, back, text⟩ := List.append_of_mem broken
    have member : raw ∈ rawLines source := by simp [raws]
    have lineFeedLast := not_mem_dropLast_of_mem_rawLines member
    cases back with
    | nil =>
      have blankLast := last '\n' (by rw [text]; simp)
      rw [Text.isBlank_lineFeed] at blankLast
      cases blankLast
    | cons next more =>
      apply lineFeedLast
      rw [split, text]
      have moved : leading ++ (front ++ '\n' :: next :: more) ++ trailing =
          (leading ++ front ++ ['\n']) ++ (next :: more ++ trailing) := by
        simp [List.append_assoc]
      rw [moved, List.dropLast_append_of_ne_nil (by simp)]
      simp

end StackLowering.Source

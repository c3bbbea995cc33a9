import StackLowering.Proofs.Source.Lines
import Mathlib.Data.List.Basic

/-!
# What the lines of a source leave out

Each line of a source that holds a command is yielded once, in order and in its place,
and what is left out of the yielded texts are blanks and comments only. The argument
is about one raw line first: `covered_of_line?` goes through its blanks, its text and
its comment. `Surrounded.inComment_iff` then says of a raw line in its source that its
comment is what stands at or behind a `//` on the same line, and `lines_locate_commands`
puts the raw lines together.
-/

namespace StackLowering.Source

/-- Whether the character at an index belongs to the text of a line. -/
def Line.Covers (line : Line) (index : Nat) : Prop :=
  line.offset ≤ index ∧ index < line.offset + line.text.length

/-- One line comes before another one, and ends before it begins. -/
structure Line.Precedes (earlier later : Line) : Prop where
  number_lt : earlier.number < later.number
  offset_lt : earlier.offset < later.offset
  stop_le : earlier.offset + earlier.text.length ≤ later.offset

/-- The character at an index stands at or behind a `//` of its own line. -/
def InComment (source : List Char) (index : Nat) : Prop :=
  ∃ start ≤ index, "//".toList <+: source.drop start ∧
    '\n' ∉ (source.drop start).take (index + 1 - start)

/-- A line stands in a source under its number, and nothing of it is a comment. -/
structure Line.LocatedIn (line : Line) (source : List Char) : Prop extends
    line.StandsIn source where
  number_eq : line.number = 1 + (source.take line.offset).count '\n'
  unmarked : ¬ "//".toList <:+: line.text
  outside : ∀ index, line.Covers index → ¬ InComment source index

/-! ## One raw line -/

section Comments

variable {raw : List Char}

/-- A comment begins with its marker. -/
theorem marker_prefix_drop (commented : (beforeComment raw).length < raw.length) :
    "//".toList <+: raw.drop (beforeComment raw).length := by
  fun_induction beforeComment raw with
  | case1 => simp at commented
  | case2 rest => exact ⟨rest, rfl⟩
  | case3 character rest _ inductionHypothesis =>
    simp only [List.length_cons, Nat.add_lt_add_iff_right] at commented
    exact inductionHypothesis commented

/-- There is no marker in front of a comment. -/
theorem length_beforeComment_le {start : Nat} (marked : "//".toList <+: raw.drop start) :
    (beforeComment raw).length ≤ start := by
  fun_induction beforeComment raw generalizing start with
  | case1 => exact Nat.zero_le _
  | case2 rest => exact Nat.zero_le _
  | case3 character rest unmarked inductionHypothesis =>
    cases start with
    | zero =>
      obtain ⟨more, split⟩ := marked
      obtain ⟨rfl, rfl⟩ := List.cons.inj split
      exact absurd rfl (unmarked more rfl)
    | succ start =>
      exact Nat.succ_le_succ (inductionHypothesis marked)

end Comments

/-- A character of a raw line is in the text of its command, is blank, or is in the comment. -/
theorem covered_of_line? (number offset : Nat) {raw : List Char} {index : Nat} {character : Char}
    (here : raw[index]? = some character) :
    (∃ line, line? number offset raw = some line ∧ line.Covers (offset + index)) ∨
      Text.isBlank character = true ∨ (beforeComment raw).length ≤ index := by
  obtain ⟨comment, cut⟩ := exists_append_beforeComment raw
  obtain ⟨leading, trailing, split, count, -, -, leadingBlank, trailingBlank⟩ :=
    trim_spec (beforeComment raw)
  unfold line?
  dsimp only
  rw [← count]
  generalize Text.trimEnd (Text.trimStart (beforeComment raw)) = text at split ⊢
  -- The four parts of the raw line, from left to right.
  rcases Nat.lt_or_ge index leading.length with inLeading | behindLeading
  · rw [cut, split, List.append_assoc, List.append_assoc, List.getElem?_append_left inLeading]
      at here
    exact Or.inr (Or.inl (leadingBlank character (List.mem_of_getElem? here)))
  rcases Nat.lt_or_ge index (leading ++ text).length with inText | behindText
  · rw [List.length_append] at inText
    left
    split
    · rw [List.length_nil] at inText
      omega
    · exact ⟨_, rfl, Nat.add_le_add_left behindLeading _, by dsimp only; omega⟩
  rcases Nat.lt_or_ge index (beforeComment raw).length with inCode | behindCode
  · rw [cut, List.getElem?_append_left inCode, split, List.getElem?_append_right behindText] at here
    exact Or.inr (Or.inl (trailingBlank character (List.mem_of_getElem? here)))
  · exact Or.inr (Or.inr behindCode)

/-! ## A raw line in its source -/

/-- A raw line with what stands around it: it begins the source or follows a line feed, and it goes
on to the next line feed or to the end of the source. -/
structure Surrounded (before raw after : List Char) : Prop where
  begins : ∀ character ∈ before.getLast?, character = '\n'
  unbroken : '\n' ∉ raw.dropLast
  ends : after ≠ [] → raw.getLast? = some '\n'

section Surrounded

variable {before raw after : List Char} {index : Nat} {character : Char}

/-- A raw line has no line feed up to a character that is none. -/
theorem Surrounded.not_mem_take (surrounded : Surrounded before raw after)
    (here : raw[index]? = some character) (other : character ≠ '\n') :
    '\n' ∉ raw.take (index + 1) := by
  have bound : index < raw.length := (List.getElem?_eq_some_iff.mp here).1
  rw [List.take_add_one, here, List.mem_append]
  rintro (earlier | last)
  · apply surrounded.unbroken
    rw [List.dropLast_eq_take]
    exact List.take_subset_take_left raw (by omega) earlier
  · have same : '\n' = character := by simpa using last
    exact other same.symm

/-- A marker on the line of a character cannot stand in an earlier line. -/
theorem Surrounded.length_le (surrounded : Surrounded before raw after) {start : Nat}
    (sameLine : '\n' ∉ ((before ++ raw ++ after).drop start).take
      (before.length + index + 1 - start)) : before.length ≤ start := by
  by_contra early
  rw [Nat.not_le] at early
  apply sameLine
  rw [List.append_assoc, List.drop_append_of_le_length (Nat.le_of_lt early), List.take_append]
  apply List.mem_append_left
  rw [List.take_of_length_le (by rw [List.length_drop]; omega)]
  -- What is left of the lines in front ends with the line feed of the last one.
  have nonempty : before ≠ [] := List.ne_nil_of_length_pos (Nat.zero_lt_of_lt early)
  have last := List.getLast?_eq_some_getLast nonempty
  apply List.mem_of_getLast?
  rw [List.getLast?_drop, if_neg (Nat.not_le.mpr early), last, surrounded.begins _ last]

/-- A marker that begins in a raw line ends in it. -/
theorem Surrounded.marker_prefix (surrounded : Surrounded before raw after) {start : Nat}
    (within : start < raw.length) (marked : "//".toList <+: raw.drop start ++ after) :
    "//".toList <+: raw.drop start := by
  have last : (raw.drop start).getLast? = raw.getLast? := by
    rw [List.getLast?_drop, if_neg (Nat.not_le.mpr within)]
  rw [List.drop_eq_getElem_cons within] at marked last ⊢
  obtain ⟨more, split⟩ := marked
  cases rest : raw.drop (start + 1) with
  | cons second others =>
    rw [rest] at split
    obtain ⟨first, split⟩ := List.cons.inj split
    obtain ⟨rfl, -⟩ := List.cons.inj split
    exact ⟨others, by rw [← first]; rfl⟩
  | nil =>
    -- The raw line would end with half a marker instead of a line feed.
    rw [rest] at split last
    obtain ⟨first, split⟩ := List.cons.inj split
    have feed := surrounded.ends (by rintro rfl; cases split)
    rw [← last, List.getLast?_singleton, ← first] at feed
    cases feed

/-- The comment of a raw line is what stands at or behind a marker of the same line. -/
theorem Surrounded.inComment_iff (surrounded : Surrounded before raw after)
    (here : raw[index]? = some character) (other : character ≠ '\n') :
    InComment (before ++ raw ++ after) (before.length + index) ↔
      (beforeComment raw).length ≤ index := by
  have bound : index < raw.length := (List.getElem?_eq_some_iff.mp here).1
  have dropped : ∀ start ≤ raw.length, (before ++ raw ++ after).drop (before.length + start) =
      raw.drop start ++ after := by
    intro start within
    rw [List.append_assoc, List.drop_length_add_append, List.drop_append_of_le_length within]
  constructor
  · rintro ⟨start, le, marked, sameLine⟩
    obtain ⟨start, rfl⟩ := Nat.exists_eq_add_of_le (surrounded.length_le sameLine)
    rw [dropped start (by omega)] at marked
    have inRaw := length_beforeComment_le (surrounded.marker_prefix (by omega) marked)
    omega
  · intro commented
    refine ⟨before.length + (beforeComment raw).length, by omega, ?_, ?_⟩
    · rw [dropped _ (by omega)]
      exact (marker_prefix_drop (by omega)).trans (List.prefix_append _ _)
    · rw [dropped _ (by omega), Nat.add_assoc, Nat.add_sub_add_left,
        List.take_append_of_le_length (by rw [List.length_drop]; omega), ← List.drop_take]
      intro broken
      exact surrounded.not_mem_take here other (List.mem_of_mem_drop broken)

end Surrounded

section RawLines

variable {source : List Char} {earlier later : List (List Char)} {raw : List Char}

/-- Every raw line but the last one ends with a line feed. -/
theorem getLast?_of_rawLines (split : rawLines source = earlier ++ raw :: later) :
    ∀ line ∈ earlier, line.getLast? = some '\n' := by
  induction source generalizing earlier raw later with
  | nil => simp [rawLines] at split
  | cons character rest inductionHypothesis =>
    have unfolded : rawLines (character :: rest) = joinLine character (rawLines rest) := rfl
    rw [unfolded] at split
    cases earlier with
    | nil => simp
    | cons first others =>
      unfold joinLine at split
      split at split
      · rename_i feed
        obtain ⟨rfl, restSplit⟩ := List.cons.inj split
        exact List.forall_mem_cons.mpr ⟨by simp [feed], inductionHypothesis restSplit⟩
      · split at split
        · simp at split
        · rename_i line more found
          obtain ⟨rfl, rfl⟩ := List.cons.inj split
          -- The character only makes the first line of the rest longer.
          have ended := inductionHypothesis (found.trans (List.cons_append ..).symm)
          rw [List.forall_mem_cons] at ended ⊢
          refine ⟨?_, ended.2⟩
          rw [List.getLast?_cons, ended.1]
          rfl

/-- A raw line stands between line feeds, as many of them in front as there are earlier lines. -/
theorem surrounded_of_rawLines (split : rawLines source = earlier ++ raw :: later) :
    source = earlier.flatten ++ raw ++ later.flatten ∧
      Surrounded earlier.flatten raw later.flatten ∧
      earlier.flatten.count '\n' = earlier.length := by
  have ended := getLast?_of_rawLines split
  have unbroken : ∀ line ∈ rawLines source, '\n' ∉ line.dropLast := fun line =>
    not_mem_dropLast_of_mem_rawLines
  refine ⟨?_, ⟨?_, ?_, ?_⟩, ?_⟩
  · rw [← flatten_rawLines source, split]
    simp
  · intro character atEnd
    rcases List.eq_nil_or_concat earlier with rfl | ⟨front, last, rfl⟩
    · cases atEnd
    · rw [List.concat_eq_append, List.flatten_append, List.flatten_singleton,
        List.getLast?_append, ended last (by simp), Option.some_or] at atEnd
      exact (Option.mem_some.mp atEnd).symm
  · exact unbroken raw (by simp [split])
  · intro more
    cases later with
    | nil => simp at more
    | cons next others =>
      have moved : rawLines source = (earlier ++ [raw]) ++ next :: others := by simp [split]
      exact getLast?_of_rawLines moved raw (by simp)
  · have single : ∀ line ∈ earlier, line.count '\n' = 1 := by
      intro line member
      obtain ⟨content, rfl⟩ := List.getLast?_eq_some_iff.mp (ended line member)
      have clean := unbroken _ (split ▸ List.mem_append_left _ member)
      rw [List.dropLast_concat] at clean
      rw [List.count_append, List.count_eq_zero_of_not_mem clean]
      rfl
    rw [List.count_flatten, List.map_congr_left single]
    simp

end RawLines

/-! ## All lines -/

/-- A line comes from a raw line, of which it is the code without the blanks around it. -/
theorem exists_place_of_mem_lines {source : List Char} {line : Line} (member : line ∈ lines source) :
    ∃ earlier raw later leading trailing, rawLines source = earlier ++ raw :: later ∧
      beforeComment raw = leading ++ line.text ++ trailing ∧
      line.number = 1 + earlier.length ∧
      line.offset = earlier.flatten.length + leading.length := by
  obtain ⟨earlier, raw, later, split, found⟩ := exists_raw_of_mem_placeLines member
  obtain ⟨leading, trailing, code, count, -⟩ := trim_spec (beforeComment raw)
  unfold line? at found
  dsimp only at found
  split at found
  · cases found
  · cases found
    exact ⟨earlier, raw, later, leading, trailing, split, code, rfl, by rw [count, Nat.zero_add]⟩

/-- The command of a raw line is found among the commands of all of them. -/
theorem mem_placeLines {number offset : Nat} {before after : List (List Char)} {raw : List Char}
    {line : Line}
    (found : line? (number + before.length) (offset + before.flatten.length) raw = some line) :
    line ∈ placeLines number offset (before ++ raw :: after) := by
  induction before generalizing number offset with
  | nil =>
    rw [List.nil_append, placeLines]
    simp only [List.length_nil, List.flatten_nil, Nat.add_zero] at found
    rw [found]
    exact List.mem_cons_self
  | cons first rest inductionHypothesis =>
    have later : line ∈ placeLines (number + 1) (offset + first.length) (rest ++ raw :: after) := by
      apply inductionHypothesis
      rw [List.length_cons, List.flatten_cons, List.length_append] at found
      rw [← found]
      congr 1 <;> omega
    rw [List.cons_append, placeLines]
    split
    · exact later
    · exact List.mem_cons_of_mem _ later

/-- Lines come in the order of the raw lines from which they are taken. -/
theorem pairwise_placeLines (number offset : Nat) (raws : List (List Char)) :
    (placeLines number offset raws).Pairwise Line.Precedes := by
  induction raws generalizing number offset with
  | nil => exact .nil
  | cons raw rest inductionHypothesis =>
    rw [placeLines]
    cases found : line? number offset raw with
    | none => exact inductionHypothesis _ _
    | some line =>
      refine .cons (fun other member => ?_) (inductionHypothesis _ _)
      obtain ⟨number_eq, nonempty, ⟨leading, trailing, split, offset_eq⟩, -, -⟩ :=
        exists_split_of_line? found
      obtain ⟨before, otherRaw, after, -, otherFound⟩ := exists_raw_of_mem_placeLines member
      obtain ⟨otherNumber, -, ⟨otherLeading, -, -, otherOffset⟩, -, -⟩ :=
        exists_split_of_line? otherFound
      have length := congrArg List.length split
      have filled := List.length_pos_iff.mpr nonempty
      rw [List.length_append, List.length_append] at length
      constructor <;> omega

/-- Every line is located in its source. -/
theorem locatedIn_of_mem_lines {source : List Char} {line : Line} (member : line ∈ lines source) :
    line.LocatedIn source := by
  have stands := standsIn_of_mem_lines member
  obtain ⟨earlier, raw, later, leading, trailing, split, code, number_eq, offset_eq⟩ :=
    exists_place_of_mem_lines member
  obtain ⟨comment, cut⟩ := exists_append_beforeComment raw
  obtain ⟨source_eq, surrounded, count⟩ := surrounded_of_rawLines split
  have raw_eq : raw = leading ++ (line.text ++ (trailing ++ comment)) := by
    rw [cut, code]
    simp only [List.append_assoc]
  have length := congrArg List.length code
  rw [List.length_append, List.length_append] at length
  refine ⟨stands, ?_, ?_, fun index covers => ?_⟩
  · have unbroken : '\n' ∉ leading := by
      intro broken
      apply surrounded.unbroken
      rw [raw_eq, List.dropLast_append_of_ne_nil (by simp [stands.nonempty])]
      exact List.mem_append_left _ broken
    have front : source.take line.offset = earlier.flatten ++ leading := by
      rw [source_eq, raw_eq, offset_eq, ← List.length_append, ← List.append_assoc earlier.flatten,
        List.append_assoc _ _ later.flatten, List.take_left]
    rw [front, List.count_append, List.count_eq_zero_of_not_mem unbroken, count, number_eq,
      Nat.add_zero]
  · rintro ⟨front, back, text⟩
    have marked : "//".toList <+: raw.drop (leading ++ front).length := by
      have split : raw = (leading ++ front) ++ ("//".toList ++ (back ++ (trailing ++ comment))) := by
        rw [raw_eq, ← text]
        simp only [List.append_assoc]
      rw [split, List.drop_left]
      exact List.prefix_append _ _
    have inside := length_beforeComment_le marked
    have total := congrArg List.length text
    have two : "//".toList.length = 2 := rfl
    simp only [List.length_append] at total inside
    omega
  · obtain ⟨low, high⟩ := covers
    obtain ⟨place, rfl⟩ := Nat.exists_eq_add_of_le low
    have here : raw[leading.length + place]? = some line.text[place] := by
      rw [raw_eq, List.getElem?_append_right (Nat.le_add_right _ _), Nat.add_sub_cancel_left,
        List.getElem?_append_left (by omega), List.getElem?_eq_getElem (by omega)]
    have other : line.text[place] ≠ '\n' := fun feed =>
      stands.unbroken (feed ▸ List.getElem_mem _)
    rw [source_eq, offset_eq, Nat.add_assoc, surrounded.inComment_iff here other]
    omega

/-- A character of some lines is in one of them. -/
theorem exists_raw_of_getElem? {raws : List (List Char)} {index : Nat} {character : Char}
    (here : raws.flatten[index]? = some character) :
    ∃ earlier raw later place, raws = earlier ++ raw :: later ∧
      index = earlier.flatten.length + place ∧ raw[place]? = some character := by
  induction raws generalizing index with
  | nil => simp at here
  | cons first rest inductionHypothesis =>
    rw [List.flatten_cons] at here
    rcases Nat.lt_or_ge index first.length with inside | behind
    · rw [List.getElem?_append_left inside] at here
      exact ⟨[], first, rest, index, rfl, (Nat.zero_add _).symm, here⟩
    · rw [List.getElem?_append_right behind] at here
      obtain ⟨earlier, raw, later, place, rfl, index_eq, found⟩ := inductionHypothesis here
      refine ⟨first :: earlier, raw, later, place, rfl, ?_, found⟩
      rw [List.flatten_cons, List.length_append]
      omega

/-- No command is lost: a character in none of the lines is blank or in a comment. -/
theorem covered_of_getElem? {source : List Char} {index : Nat} {character : Char}
    (here : source[index]? = some character) :
    (∃ line ∈ lines source, line.Covers index) ∨ Text.isBlank character = true ∨
      InComment source index := by
  rw [← flatten_rawLines source] at here
  obtain ⟨earlier, raw, later, place, split, rfl, found⟩ := exists_raw_of_getElem? here
  obtain ⟨source_eq, surrounded, -⟩ := surrounded_of_rawLines split
  rcases covered_of_line? (1 + earlier.length) (0 + earlier.flatten.length) found with
    ⟨line, taken, covers⟩ | blank | commented
  · refine Or.inl ⟨line, ?_, by rwa [Nat.zero_add] at covers⟩
    rw [lines, split]
    exact mem_placeLines taken
  · exact Or.inr (Or.inl blank)
  · by_cases feed : character = '\n'
    · exact Or.inr (Or.inl (feed ▸ Text.isBlank_lineFeed))
    · rw [source_eq]
      exact Or.inr (Or.inr ((surrounded.inComment_iff found feed).mpr commented))

/-- The lines of a source come in order and do not overlap. Each one is found in the source at its
offset, on the line of its number, trimmed, without line feed and without `//`, and outside of
comments; and every character of the source that is in none of them is blank, or it stands at or
behind a `//` of its own line. -/
theorem lines_locate_commands (source : List Char) :
    (lines source).Pairwise Line.Precedes ∧
      (∀ line ∈ lines source, line.LocatedIn source) ∧
      ∀ index character, source[index]? = some character →
        (¬ ∃ line ∈ lines source, line.Covers index) →
          Text.isBlank character = true ∨ InComment source index := by
  refine ⟨pairwise_placeLines 1 0 _, fun line => locatedIn_of_mem_lines, ?_⟩
  intro index character here uncovered
  exact (covered_of_getElem? here).resolve_left uncovered

/-- A comment of wide characters, a carriage return and an ideographic space do not move a command,
and the slash of a comment is left out. -/
theorem shiftedSum_located :
    let source := "// añadir\r\n\u3000add//x".toList
    lines source = [⟨2, "add".toList, 12⟩] ∧
      Line.LocatedIn ⟨2, "add".toList, 12⟩ source ∧
      (Text.isBlank '/' = true ∨ InComment source 15) := by
  obtain ⟨-, located, leftOut⟩ := lines_locate_commands "// añadir\r\n\u3000add//x".toList
  have found : lines "// añadir\r\n\u3000add//x".toList = [⟨2, "add".toList, 12⟩] := by
    decide +kernel
  rw [found] at located leftOut
  refine ⟨found, located _ List.mem_cons_self, leftOut 15 '/' (by decide +kernel) ?_⟩
  rintro ⟨line, member, covers⟩
  cases List.mem_singleton.mp member
  exact absurd covers.2 (by decide +kernel)

end StackLowering.Source

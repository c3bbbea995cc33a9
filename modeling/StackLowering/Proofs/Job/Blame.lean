import StackLowering.Proofs.Job.Admission
import StackLowering.Proofs.Source.Lines

/-!
# Mishaps point at the text to blame

A job that fails names a unit, a line and a span of characters. `Blames` says what
stands at that span for each kind of fault: one unexpected character, one whole
token, or the whole command. `Job.mishap_points_at_text` says that the named unit
has such a line and that the span covers what it should. Only faults of unit names
and of startup code, which no line causes, point nowhere.
-/

namespace StackLowering

open Text (PlacedWord)

/-- The characters of a line in its source. -/
def Source.Line.span (line : Source.Line) : Span := lineSpan line.text line.offset

/-- A span of a source covers one whole token of a line: nothing but blanks touches it there. -/
structure TokenAt (source : List Char) (line : Source.Line) (span : Span) (token : Token) :
    Prop where
  isToken : Token.isToken (span.characters source) = true
  spelled : Token.spelled (span.characters source) = token
  whole : ∃ before after, line.text = before ++ span.characters source ++ after ∧
    span.start = line.offset + before.length ∧
    (∀ character ∈ before.getLast?, Text.isBlank character = true) ∧
    ∀ character ∈ after.head?, Text.isBlank character = true

/-- A span of a source covers the whole text of a line. -/
structure CommandAt (source : List Char) (line : Source.Line) (span : Span) : Prop where
  span_eq : span = line.span
  characters_eq : span.characters source = line.text

/-- What a span of a source has to cover for each fault that a line can cause. A number can be too
large as a literal, or as the number of arguments of a call. -/
def Blames (source : List Char) (line : Source.Line) (span : Span) : Fault → Prop
  | .unexpectedCharacter found =>
    ∃ character, found = some character ∧ span.characters source = [character]
  | .unknownCommand name | .unknownSegment name | .expectedInteger name | .expectedSymbol name
  | .invalidSymbol name => ∃ token, TokenAt source line span token ∧ token.text = name
  | .integerOutOfRange value limit =>
    (limit = 32767 ∧ TokenAt source line span (.integer value)) ∨
      (limit = 32762 ∧ CommandAt source line span)
  | .operandCount .. => True
  | .popConstant | .addressOutOfRange .. | .notAPointer _ | .reservedSymbol _
  | .labelsExhausted => CommandAt source line span
  | .invalidUnitName _ => False

/-- A fault points at characters of a line, none of which is a line feed. -/
structure PointsAt (source : List Char) (line : Source.Line) (failure : Located Fault) :
    Prop where
  nonempty : failure.span.start < failure.span.stop
  within : line.offset ≤ failure.span.start ∧
    failure.span.stop ≤ line.offset + line.text.length
  inside : failure.span.stop ≤ source.length
  unbroken : '\n' ∉ failure.span.characters source
  blames : Blames source line failure.span failure.value

/-! ## Spans of lines and words -/

section Spans

variable {source : List Char} {line : Source.Line}

/-- A part of a line is found in the source, as far behind the offset as in the line. -/
theorem characters_of_part (stands : line.StandsIn source) {before part after : List Char}
    {span : Span} (split : line.text = before ++ part ++ after)
    (start : span.start = line.offset + before.length)
    (stop : span.stop = line.offset + before.length + part.length) :
    span.characters source = part := by
  obtain ⟨front, back, rfl, offset⟩ := stands.placed
  have moved : front ++ line.text ++ back = (front ++ before) ++ part ++ (after ++ back) := by
    rw [split]
    simp only [List.append_assoc]
  rw [moved]
  apply Span.characters_append
  · rw [start, List.length_append, offset]
  · rw [stop, List.length_append, offset]

/-- The span of a line covers its command. -/
theorem commandAt_span (stands : line.StandsIn source) : CommandAt source line line.span := by
  have split : line.text = [] ++ line.text ++ [] := by simp
  exact ⟨rfl, characters_of_part stands split rfl rfl⟩

/-- A span within a line is inside of the source and covers characters of the line. -/
theorem pointsAt_of_within (stands : line.StandsIn source) {failure : Located Fault}
    (nonempty : failure.span.start < failure.span.stop)
    (low : line.offset ≤ failure.span.start)
    (high : failure.span.stop ≤ line.offset + line.text.length)
    (blames : Blames source line failure.span failure.value) :
    PointsAt source line failure := by
  -- The line is cut in three at the ends of the span.
  have split : line.text = line.text.take (failure.span.start - line.offset) ++
      (line.text.drop (failure.span.start - line.offset)).take
        (failure.span.stop - failure.span.start) ++
      (line.text.drop (failure.span.start - line.offset)).drop
        (failure.span.stop - failure.span.start) := by
    rw [List.append_assoc, List.take_append_drop, List.take_append_drop]
  have covered : failure.span.characters source = _ :=
    characters_of_part stands split (by simp; omega) (by simp; omega)
  refine ⟨nonempty, ⟨low, high⟩, ?_, ?_, blames⟩
  · obtain ⟨before, after, rfl, offset⟩ := stands.placed
    simp only [List.length_append]
    omega
  · rw [covered]
    intro broken
    exact stands.unbroken (List.mem_of_mem_drop (List.mem_of_mem_take broken))

/-- A fault of the whole line points at it. -/
theorem pointsAt_line (stands : line.StandsIn source) {fault : Fault}
    (blames : Blames source line line.span fault) :
    PointsAt source line ⟨fault, line.span⟩ := by
  have long : 0 < line.text.length := List.length_pos_of_ne_nil stands.nonempty
  refine pointsAt_of_within stands ?_ (Nat.le_refl _) (Nat.le_refl _) blames
  show line.offset < line.offset + line.text.length
  omega

/-- Words end where their text ends, or before. -/
theorem stop_le_length {word : PlacedWord} {text : List Char} (stands : word.StandsIn text) :
    word.stop ≤ text.length := by
  obtain ⟨before, after, rfl, placed, -, -⟩ := stands.surrounded
  simp only [PlacedWord.stop, List.length_append]
  omega

/-- A token of a line is one whole token at its span. -/
theorem tokenAt_word (stands : line.StandsIn source) {word : PlacedWord}
    (member : word ∈ Text.words line.text) (token : Token.isToken word.characters = true) :
    TokenAt source line (word.span line.offset) (Token.spelled word.characters) := by
  obtain ⟨before, after, split, placed, beforeBlank, afterBlank⟩ :=
    (Text.standsIn_of_mem_words member).surrounded
  have start : (word.span line.offset).start = line.offset + before.length := by
    rw [placed, Nat.add_comm]
    rfl
  have covered : (word.span line.offset).characters source = word.characters := by
    refine characters_of_part stands split start ?_
    simp only [PlacedWord.span, Span.stop_shift, PlacedWord.stop, ← placed]
    omega
  refine ⟨by rwa [covered], by rw [covered], before, after, ?_, start, beforeBlank, afterBlank⟩
  rw [covered]
  exact split

/-- A fault of one word points at it. -/
theorem pointsAt_word (stands : line.StandsIn source) {word : PlacedWord} {fault : Fault}
    (member : word ∈ Text.words line.text)
    (blames : Blames source line (word.span line.offset) fault) :
    PointsAt source line ⟨fault, word.span line.offset⟩ := by
  have bounded := stop_le_length (Text.standsIn_of_mem_words member)
  have long := Text.length_characters_pos word
  refine pointsAt_of_within stands ?_ ?_ ?_ blames
  all_goals
    simp only [PlacedWord.span, Span.start_shift, Span.stop_shift, PlacedWord.stop] at *
    omega

/-- A misfit names the token that does not fit. -/
theorem blames_of_misfits {span : Span} {word : List Char} {kind : OperandKind} {fault : Fault}
    (token : TokenAt source line span (Token.spelled word)) (misfit : kind.Misfits word fault) :
    Blames source line span fault := by
  cases misfit with
  | outOfRange numeral large =>
    rw [Token.spelled_of_isNumeral numeral] at token
    exact Or.inl ⟨rfl, token⟩
  | _ => exact ⟨_, token, rfl⟩

/-- A line that is refused is refused for characters of its own. -/
theorem pointsAt_of_refused (stands : line.StandsIn source) {failure : Located Fault}
    (refused : Refused line.text line.offset failure) : PointsAt source line failure := by
  cases refused with
  | character split tokens stuck =>
    rename_i before after word front found
    have member : word ∈ Text.words line.text := by simp [split]
    obtain ⟨⟨rest, characters⟩, -, -⟩ := stuck
    obtain ⟨leading, trailing, text, placed, -, -⟩ :=
      (Text.standsIn_of_mem_words member).surrounded
    have cut : line.text = (leading ++ front) ++ [found] ++ (rest ++ trailing) := by
      rw [text, characters]
      simp [List.append_assoc]
    have length := congrArg List.length cut
    simp only [List.length_append, List.length_singleton] at length
    refine pointsAt_of_within stands ?_ ?_ ?_ ⟨found, rfl, ?_⟩
    · simp
    · simp
    · simp only [Span.stop_shift]
      omega
    · refine characters_of_part stands cut ?_ ?_
      · simp only [Span.start_shift, List.length_append]
        omega
      · simp only [Span.stop_shift, List.length_append, List.length_singleton]
        omega
  | empty wordless =>
    obtain ⟨first, rest, text⟩ := List.exists_cons_of_ne_nil stands.nonempty
    rw [text] at wordless
    exact absurd wordless (Text.words_ne_nil (stands.trimmedStart first (by simp [text])))
  | command split tokens unknown =>
    rename_i name operands
    have member : name ∈ Text.words line.text := by simp [split]
    exact pointsAt_word stands member ⟨_, tokenAt_word stands member (tokens name member), rfl⟩
  | tooFew split tokens named fewer => exact pointsAt_line stands trivial
  | tooMany split tokens named enough =>
    rename_i name first needed rest opcode
    have firstMember : first ∈ Text.words line.text := by simp [split]
    have lastMember : rest.getLast?.getD first ∈ Text.words line.text := by
      rw [split]
      cases last : rest.getLast? with
      | none => simp
      | some word => simp [List.mem_of_getLast? last]
    have ordered : first.start < (rest.getLast?.getD first).stop := by
      have long := fun word : PlacedWord => Text.length_characters_pos word
      cases last : rest.getLast? with
      | none => simpa [PlacedWord.stop] using long first
      | some word =>
        have pairs := Text.pairwise_wordsFrom 0 line.text
        rw [← Text.words, split, List.pairwise_cons, List.pairwise_append,
          List.pairwise_cons] at pairs
        have apart := pairs.2.2.1.1 word (List.mem_of_getLast? last)
        have firstLong := long first
        have wordLong := long word
        simp only [PlacedWord.stop, Option.getD_some] at apart ⊢
        omega
    have bounded := stop_le_length (Text.standsIn_of_mem_words lastMember)
    refine pointsAt_of_within stands ?_ ?_ ?_ trivial
    all_goals
      simp only [PlacedWord.span, Span.start_shift, Span.stop_shift]
      omega
  | operand split tokens named counted fitting expected misfit =>
    rename_i name word before after opcode kind fault
    have member : word ∈ Text.words line.text := by simp [split]
    exact pointsAt_word stands member
      (blames_of_misfits (tokenAt_word stands member (tokens word member)) misfit)

end Spans

/-! ## The mishaps of a job -/

/-- A sequence fails in its first part, or in its second part after the first one. -/
theorem cases_of_bind_eq_error {ε α β : Type} {first : Except ε α} {rest : α → Except ε β}
    {failure : ε} (fails : first >>= rest = .error failure) :
    first = .error failure ∨ ∃ value, first = .ok value ∧ rest value = .error failure := by
  cases first with
  | error other =>
    cases fails
    exact Or.inl rfl
  | ok value => exact Or.inr ⟨value, rfl, fails⟩

/-- A fault that is decided by some violations is one of them. -/
theorem DecidedBy.mem_of_eq_error {ε α : Type} {outcome : Except ε α} {violations : List ε}
    {failure : ε} (decided : DecidedBy outcome violations) (fails : outcome = .error failure) :
    failure ∈ violations :=
  List.mem_of_head? ((decided.eq_error_iff failure).mp fails)

/-- The faults for which a command that was read can be refused. -/
def Command.CanFail (target : Target) (units : List String) (command : Command) (fault : Fault) :
    Prop :=
  fault ∈ command.clashes target units ∨ fault ∈ command.faults target ∨
    fault = .labelsExhausted

/-- A command that was read is refused as a whole. -/
theorem blames_of_canFail {source : List Char} {line : Source.Line} {target : Target}
    {units : List String} {command : Command} {fault : Fault}
    (whole : CommandAt source line line.span) (fails : command.CanFail target units fault) :
    Blames source line line.span fault := by
  have pointers : ∀ {segments : List MappedSegment}, fault ∈ target.pointerFaults segments →
      Blames source line line.span fault := by
    intro segments member
    obtain ⟨segment, -, found⟩ := List.mem_filterMap.mp member
    split at found
    · cases found
    · cases found
      exact whole
  have addresses : ∀ {segment : MappedSegment} {index : Word},
      fault ∈ target.addressFaults segment index → Blames source line line.span fault := by
    intro segment index member
    unfold Target.addressFaults at member
    split at member
    · cases member
    · split at member
      · cases member
      · obtain rfl := List.mem_singleton.mp member
        exact whole
  rcases fails with clash | fault | rfl
  · unfold Command.clashes at clash
    split at clash
    · cases clash
    · split at clash
      · obtain rfl := List.mem_singleton.mp clash
        exact whole
      · cases clash
  · cases command with
    | push segment index =>
      cases segment with
      | mapped segment => exact addresses fault
      | constant | static => cases fault
    | pop segment index =>
      cases segment with
      | mapped segment => exact addresses fault
      | constant =>
        obtain rfl := List.mem_singleton.mp fault
        exact whole
      | static => cases fault
    | call name arguments =>
      rcases List.mem_append.mp fault with pointer | count
      · exact pointers pointer
      · split at count
        · cases count
        · obtain rfl := List.mem_singleton.mp count
          exact Or.inr ⟨rfl, whole⟩
    | ret => exact pointers fault
    | binary | unary | compare | label | goto | ifGoto | function => cases fault
  · exact whole

/-- A command that fails in its place fails as such, and the mishap is its own. -/
theorem PlacedCommand.lower_eq_error {placed : PlacedCommand} {target : Target} {annotate : Bool}
    {context : Context} {mishap : Mishap}
    (failed : placed.lower target annotate context = .error mishap) :
    ∃ fault, (Lowering.lower target placed.command.value
        ((context.beginUnit placed.unit).atLine placed.line)).1 = .error fault ∧
      mishap = placed.mishap fault := by
  unfold PlacedCommand.lower at failed
  dsimp only at failed
  split at failed
  · cases failed
  · rename_i fault after lowered
    cases failed
    exact ⟨fault, by rw [lowered], rfl⟩

namespace Job

variable {job : Job}

/-- A failed lowering of commands is the mishap of one of them. -/
theorem exists_command_of_lowerCommands {commands : List PlacedCommand} {context : Context}
    {mishap : Mishap} (failed : job.lowerCommands commands context = .error mishap) :
    ∃ placed ∈ commands, ∃ units fault,
      placed.command.value.CanFail job.target units fault ∧ mishap = placed.mishap fault := by
  induction commands generalizing context with
  | nil => cases failed
  | cons placed rest inductionHypothesis =>
    rcases cases_of_bind_eq_error failed with failedHere | ⟨⟨block, after⟩, lowered, failedLater⟩
    · obtain ⟨lack, only, -, decided⟩ := Lowering.lower_decided job.target
        placed.command.value ((context.beginUnit placed.unit).atLine placed.line)
      obtain ⟨fault, refused, rfl⟩ := PlacedCommand.lower_eq_error failedHere
      refine ⟨placed, List.mem_cons_self, [placed.unit], fault, ?_, rfl⟩
      rcases List.mem_append.mp (decided.mem_of_eq_error refused) with wrong | lacking
      · rcases List.mem_append.mp wrong with clash | fault
        · exact Or.inl clash
        · exact Or.inr (Or.inl fault)
      · exact Or.inr (Or.inr (only fault lacking))
    · rcases cases_of_bind_eq_error failedLater with failedRest | ⟨blocks, -, impossible⟩
      · obtain ⟨other, member, units, fault, fails, same⟩ := inductionHypothesis failedRest
        exact ⟨other, List.mem_cons_of_mem _ member, units, fault, fails, same⟩
      · cases impossible

/-- Mishaps of startup code are placed in no source: in the unit for startup code, at line zero. -/
theorem startup_eq_error {context : Context} {mishap : Mishap}
    (failed : job.startup context = .error mishap) :
    mishap.unit = startupUnit ∧ mishap.line = 0 := by
  unfold startup at failed
  split at failed
  · split at failed
    · cases failed
    · cases failed
      exact ⟨rfl, rfl⟩
  · cases failed

/-- A job fails while it is read, for a command that was read, or for its startup code. -/
theorem cases_of_blocks_eq_error {mishap : Mishap} (failed : job.blocks = .error mishap) :
    mishap ∈ job.misreadings ∨
      (mishap.unit = startupUnit ∧ mishap.line = 0) ∨
      ∃ placed ∈ job.readable, ∃ units fault,
        placed.command.value.CanFail job.target units fault ∧ mishap = placed.mishap fault := by
  rcases cases_of_bind_eq_error failed with unread | ⟨commands, read, failed⟩
  · exact Or.inl (job.commands_decided.mem_of_eq_error unread)
  obtain rfl := commands_eq_ok read
  rcases cases_of_bind_eq_error failed with unregistered | ⟨registered, -, failed⟩
  · have clash := (job.register_decided job.readable .initial).mem_of_eq_error unregistered
    obtain ⟨placed, member, wrong⟩ := List.mem_flatMap.mp clash
    obtain ⟨fault, clashing, rfl⟩ := List.mem_map.mp wrong
    exact Or.inr (Or.inr ⟨placed, member, _, fault, Or.inl clashing, rfl⟩)
  rcases cases_of_bind_eq_error failed with unstarted | ⟨⟨startup, started⟩, -, failed⟩
  · exact Or.inr (Or.inl (startup_eq_error unstarted))
  rcases cases_of_bind_eq_error failed with unlowered | ⟨bodies, -, impossible⟩
  · exact Or.inr (Or.inr (exists_command_of_lowerCommands unlowered))
  · cases impossible

/-- Every mishap of a job, other than one of a unit's name or of startup code, names a unit of the
job and a line of it, and points at the characters of that line that are to blame. -/
theorem mishap_points_at_text {mishap : Mishap} (failed : job.assembly = .error mishap)
    (named : ∀ name, mishap.fault.value ≠ .invalidUnitName name)
    (unstarted : ¬ (mishap.unit = startupUnit ∧ mishap.line = 0)) :
    ∃ unit ∈ job.units, unit.name = mishap.unit ∧
      ∃ line ∈ Source.lines unit.source.toList, line.number = mishap.line ∧
        line.StandsIn unit.source.toList ∧ PointsAt unit.source.toList line mishap.fault := by
  have blocksFailed : job.blocks = .error mishap := by
    unfold assembly at failed
    cases lowered : job.blocks with
    | ok blocks =>
      rw [lowered] at failed
      cases failed
    | error other =>
      rw [lowered] at failed
      cases failed
      rfl
  rcases cases_of_blocks_eq_error blocksFailed with
    unread | startupFailed | ⟨placed, member, units, fault, fails, rfl⟩
  · obtain ⟨unit, inJob, wrong⟩ := List.mem_flatMap.mp unread
    rcases List.mem_append.mp wrong with misnamed | misread
    · split at misnamed
      · cases misnamed
      · obtain rfl := List.mem_singleton.mp misnamed
        exact absurd rfl (named _)
    · obtain ⟨line, inUnit, refused⟩ := List.mem_filterMap.mp misread
      unfold SourceUnit.parseLine at refused
      split at refused
      · cases refused
      · rename_i failure parsed
        cases refused
        have stands := Source.standsIn_of_mem_lines inUnit
        exact ⟨unit, inJob, rfl, line, inUnit, rfl, stands,
          pointsAt_of_refused stands (Command.parse_eq_error_iff.mp parsed)⟩
  · exact absurd startupFailed unstarted
  · obtain ⟨unit, inJob, inUnit⟩ := List.mem_flatMap.mp member
    obtain ⟨line, inSource, sameUnit, sameLine, parsed⟩ :=
      SourceUnit.exists_line_of_mem_readable inUnit
    have whole : placed.command.span = line.span := (Command.parse_eq_ok_iff.mp parsed).2
    have stands := Source.standsIn_of_mem_lines inSource
    have points := pointsAt_line stands (blames_of_canFail (commandAt_span stands) fails)
    rw [← whole] at points
    exact ⟨unit, inJob, sameUnit.symm, line, inSource, sameLine.symm, stands, points⟩

end Job

/-- A job with a bad operand in its second unit, behind blanks of two kinds and characters of
several bytes. -/
def misspelledOperand : Job where
  units := [⟨"Main", "add"⟩, ⟨"Other", "// é\n\t push\u3000lokal 007//ü"⟩]

/-- The mishap of that job. -/
def misspelledOperandMishap : Mishap := ⟨"Other", 2, ⟨.unknownSegment "lokal", ⟨12, 17⟩⟩⟩

/-- That mishap points at the bad operand. -/
theorem misspelledOperand_points_at_operand :
    misspelledOperand.assembly = .error misspelledOperandMishap ∧
      ∃ unit ∈ misspelledOperand.units, unit.name = "Other" ∧
        ∃ line ∈ Source.lines unit.source.toList, line.number = 2 ∧
          line.StandsIn unit.source.toList ∧
          PointsAt unit.source.toList line ⟨.unknownSegment "lokal", ⟨12, 17⟩⟩ := by
  have failed : misspelledOperand.assembly = .error misspelledOperandMishap := by decide +kernel
  refine ⟨failed, Job.mishap_points_at_text failed ?_ ?_⟩
  · intro name same
    cases same
  · decide

end StackLowering

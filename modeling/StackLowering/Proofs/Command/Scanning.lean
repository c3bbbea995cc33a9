import StackLowering.Proofs.Command.Canonical
import StackLowering.Proofs.Source.Layout
import Mathlib.Data.Nat.Digits.Defs

/-!
# Scanning loses nothing and stops where it has to

`Lossless` says of some tokens that they make up a line: they stand apart from each
other, each one denotes the characters of its span, and all other characters are
blank. A line is scanned into tokens exactly if they make it up, so there is one way
at most. A line without such tokens gets stuck (`StuckAt`), and what is in front of
the character at which it does is the longest beginning of the line that can be
scanned.
-/

namespace StackLowering

namespace Token

open Text (PlacedWord isBlank pieces words wordsFrom)

/-! ## What tokens denote -/

/-- The number that decimal digits denote, the last of which counts ones. -/
def decimalValue (digits : List Char) : Nat :=
  Nat.ofDigits 10 (digits.map fun digit => digit.toNat - '0'.toNat).reverse

/-- The characters that a token can be read from: those of its name, or digits for its value. -/
inductive Denotes : Token → List Char → Prop where
  | integer {digits : List Char} (numeral : isNumeral digits = true) :
      Denotes (.integer (decimalValue digits)) digits
  | symbol {name : String} (isName : isName name.toList = true) :
      Denotes (.symbol name) name.toList

/-- Digits that are read behind a number add their value to it. -/
theorem ofDigitChars_eq (digits : List Char) (front : Nat) :
    Nat.ofDigitChars 10 digits front = decimalValue digits + 10 ^ digits.length * front := by
  induction digits generalizing front with
  | nil => simp [decimalValue]
  | cons digit rest inductionHypothesis =>
    rw [Nat.ofDigitChars_cons, inductionHypothesis, decimalValue, decimalValue, List.map_cons,
      Nat.ofDigits_reverse_cons, List.length_cons, List.length_map]
    ring

/-- A token denotes the characters that spell it. -/
theorem denotes_iff {token : Token} {characters : List Char} :
    Denotes token characters ↔ isToken characters = true ∧ spelled characters = token := by
  constructor
  · rintro (numeral | name)
    · rw [isToken, numeral, spelled, if_pos numeral, ofDigitChars_eq]
      simp
    · rw [isToken, name, spelled, isNumeral_eq_false_of_isName name, Bool.or_true]
      simp
  · rintro ⟨token, rfl⟩
    rw [isToken, Bool.or_eq_true] at token
    rcases token with numeral | name
    · have value := ofDigitChars_eq characters 0
      rw [Nat.mul_zero, Nat.add_zero] at value
      rw [spelled, if_pos numeral, value]
      exact .integer numeral
    · have denotes : Denotes (.symbol (String.ofList characters))
          (String.ofList characters).toList := .symbol (by rwa [String.toList_ofList])
      rw [String.toList_ofList] at denotes
      rw [spelled, isNumeral_eq_false_of_isName name]
      exact denotes

/-- Tokens make up a line: their spans come in order with characters between them, each one denotes
the characters of its span, and what is in no span is blank. -/
structure Lossless (line : List Char) (tokens : List (Located Token)) : Prop where
  nonempty : ∀ token ∈ tokens, token.span.start < token.span.stop
  inside : ∀ token ∈ tokens, token.span.stop ≤ line.length
  separated : tokens.Pairwise fun earlier later => earlier.span.stop < later.span.start
  blank : ∀ index character, getElem? line index = some character →
    (∀ token ∈ tokens, token.span.covers index = false) → isBlank character = true
  denotes : ∀ token ∈ tokens, Denotes token.value (token.span.characters line)

/-- A line can be scanned. -/
def Scannable (line : List Char) : Prop := ∃ tokens, scan line = .ok tokens

/-- What is in front of a character of a line is the longest beginning of it that can be scanned. -/
structure StopsAt (line : List Char) (mismatch : Mismatch) : Prop where
  found : getElem? line mismatch.index = some mismatch.found
  scannable : Scannable (line.take mismatch.index)
  longest : ∀ front, front <+: line → Scannable front → front.length ≤ mismatch.index

/-! ## Lines that can be scanned -/

section Tokens

variable {line : List Char} {tokens : List (Located Token)}

/-- A line is scanned exactly if each of its words is a token; the tokens then are its words. -/
theorem scan_eq_ok_iff :
    scan line = .ok tokens ↔
      (∀ word ∈ words line, isToken word.characters = true) ∧
        tokens = (words line).map fun word =>
          ⟨spelled word.characters, ⟨word.start, word.stop⟩⟩ := by
  constructor
  · intro scanned
    have all : ∀ word ∈ words line, isToken word.characters = true := by
      by_contra some
      obtain ⟨before, word, after, split, earlier, unfit⟩ :=
        exists_first_not some
      obtain ⟨front, found, stuck⟩ := exists_stuck (List.cons_ne_nil _ _) unfit
      rw [scan_of_stuck split earlier stuck] at scanned
      cases scanned
    refine ⟨all, ?_⟩
    rw [scan_of_isToken all] at scanned
    exact (Except.ok.inj scanned).symm
  · rintro ⟨all, rfl⟩
    exact scan_of_isToken all

/-- Whether all words are tokens does not depend on where the words stand. -/
theorem forall_words_iff (start : Nat) :
    (∀ word ∈ wordsFrom start line, isToken word.characters = true) ↔
      ∀ piece ∈ pieces line, isToken piece = true := by
  rw [← Text.characters_wordsFrom start, List.forall_mem_map]

/-- A line can be scanned if every piece between its blanks is a token. -/
theorem scannable_iff : Scannable line ↔ ∀ piece ∈ pieces line, isToken piece = true := by
  rw [← forall_words_iff 0]
  constructor
  · rintro ⟨tokens, scanned⟩
    exact (scan_eq_ok_iff.mp scanned).1
  · intro all
    exact ⟨_, scan_eq_ok_iff.mpr ⟨all, rfl⟩⟩

/-- The tokens of a line make it up. -/
theorem lossless_of_scan (scanned : scan line = .ok tokens) : Lossless line tokens := by
  obtain ⟨all, rfl⟩ := scan_eq_ok_iff.mp scanned
  -- Every token is that of a word, which stands in the line at the same span.
  have ofWord : ∀ {property : Located Token → Prop},
      (∀ word ∈ words line, property ⟨spelled word.characters, ⟨word.start, word.stop⟩⟩) →
        ∀ token ∈ (words line).map fun word =>
          (⟨spelled word.characters, ⟨word.start, word.stop⟩⟩ : Located Token),
          property token := by
    intro property holds token member
    obtain ⟨word, inLine, rfl⟩ := List.mem_map.mp member
    exact holds word inLine
  have split : ∀ word ∈ words line, ∃ before after,
      line = before ++ word.characters ++ after ∧ before.length = word.start := by
    intro word member
    obtain ⟨before, after, split, placed, -, -⟩ := (Text.standsIn_of_mem_words member).surrounded
    exact ⟨before, after, split, placed⟩
  refine ⟨ofWord ?_, ofWord ?_, ?_, ?_, ofWord ?_⟩
  · intro word _
    exact Nat.lt_add_of_pos_right (Text.length_characters_pos word)
  · intro word member
    obtain ⟨before, after, rfl, placed⟩ := split word member
    simp only [PlacedWord.stop, List.length_append]
    omega
  · rw [List.pairwise_map]
    exact Text.pairwise_wordsFrom 0 line
  · intro index character here uncovered
    refine (Text.covered_of_getElem? 0 here).resolve_right ?_
    rintro ⟨word, member, low, high⟩
    have apart := uncovered _ (List.mem_map_of_mem member)
    rw [Nat.zero_add] at low high
    simp [Span.covers, low, high] at apart
  · intro word member
    obtain ⟨before, after, split, placed⟩ := split word member
    have covered : Span.characters ⟨word.start, word.stop⟩ line = word.characters := by
      rw [split]
      exact Span.characters_append placed.symm (by rw [placed]; rfl)
    rw [covered]
    exact denotes_iff.mpr ⟨all word member, rfl⟩

/-- Where a character is in no token that makes up a line, it is blank. -/
theorem Lossless.isBlank_of_between (lossless : Lossless line tokens)
    {earlier later : List (Located Token)} (split : tokens = earlier ++ later) {index : Nat}
    {character : Char} (here : getElem? line index = some character)
    (passed : ∀ token ∈ earlier, token.span.stop ≤ index)
    (ahead : ∀ token ∈ later, index < token.span.start) : isBlank character = true := by
  refine lossless.blank index character here fun token member => ?_
  rw [split, List.mem_append] at member
  rw [Span.covers, Bool.and_eq_false_iff, decide_eq_false_iff_not, decide_eq_false_iff_not]
  rcases member with inEarlier | inLater
  · exact Or.inr (Nat.not_lt.mpr (passed token inEarlier))
  · exact Or.inl (Nat.not_le.mpr (ahead token inLater))

/-- The characters between two tokens that make up a line are blank. -/
theorem Lossless.isBlank_of_mem_gap (lossless : Lossless line tokens)
    {earlier later : List (Located Token)} (split : tokens = earlier ++ later)
    {start finish : Nat} (passed : ∀ token ∈ earlier, token.span.stop ≤ start)
    (ahead : ∀ token ∈ later, finish ≤ token.span.start) :
    ∀ character ∈ (line.drop start).take (finish - start), isBlank character = true := by
  intro character inGap
  obtain ⟨index, here⟩ := List.mem_iff_getElem?.mp inGap
  rw [List.getElem?_take] at here
  split at here
  · rw [List.getElem?_drop] at here
    refine lossless.isBlank_of_between split here
      (fun token inEarlier => Nat.le_add_right_of_le (passed token inEarlier))
      fun token inLater => ?_
    have := ahead token inLater
    omega
  · cases here

/-- Tokens that make up a line stand where its words do, from every index between two tokens on. -/
theorem Lossless.map_wordsFrom (lossless : Lossless line tokens)
    {earlier later : List (Located Token)} (split : tokens = earlier ++ later) {start : Nat}
    (passed : ∀ token ∈ earlier, token.span.stop ≤ start)
    (ahead : ∀ token ∈ later, start ≤ token.span.start) :
    (wordsFrom start (line.drop start)).map (fun word => (word.characters, word.start)) =
      later.map fun token => (token.span.characters line, token.span.start) := by
  induction later generalizing earlier start with
  | nil =>
    have blanks : ∀ character ∈ (line.drop start).take (line.length - start),
        isBlank character = true := lossless.isBlank_of_mem_gap split passed (by simp)
    rw [List.take_of_length_le (by rw [List.length_drop])] at blanks
    have none := Text.wordsFrom_blanks_append blanks start []
    rw [List.append_nil] at none
    rw [none]
    rfl
  | cons token rest inductionHypothesis =>
    have member : token ∈ tokens := by simp [split]
    have long := lossless.nonempty token member
    have within := lossless.inside token member
    have first := ahead token List.mem_cons_self
    have apart : ∀ other ∈ rest, token.span.stop < other.span.start := by
      have ordered := lossless.separated
      rw [split, List.pairwise_append, List.pairwise_cons] at ordered
      exact ordered.2.1.1
    have passedNow : ∀ other ∈ earlier ++ [token], other.span.stop ≤ token.span.stop := by
      intro other inEarlier
      rcases List.mem_append.mp inEarlier with before | same
      · have := passed other before
        omega
      · rw [List.mem_singleton.mp same]
    have splitNow : tokens = (earlier ++ [token]) ++ rest := by simp [split]
    have gap : ∀ character ∈ (line.drop start).take (token.span.start - start),
        isBlank character = true := by
      refine lossless.isBlank_of_mem_gap split passed
        (List.forall_mem_cons.mpr ⟨Nat.le_refl _, fun other inRest => ?_⟩)
      have := apart other inRest
      omega
    have bounded : ∀ character ∈ (line.drop token.span.stop).head?, isBlank character = true := by
      intro character atHead
      rw [List.head?_drop] at atHead
      exact lossless.isBlank_of_between splitNow atHead passedNow apart
    have solid := solid_of_isToken (denotes_iff.mp (lossless.denotes token member)).1
    obtain ⟨head, more, characters⟩ := List.exists_cons_of_ne_nil solid.1
    have gapLength : start + ((line.drop start).take (token.span.start - start)).length =
        token.span.start := by
      rw [List.length_take, List.length_drop]
      omega
    have tokenLength : token.span.start + (head :: more).length = token.span.stop := by
      rw [← characters, Span.length_characters within]
      omega
    -- The rest of the line is a gap, the token, and what is behind the token.
    rw [Span.drop_eq first (Nat.le_of_lt long), Text.wordsFrom_blanks_append gap, gapLength,
      characters, Text.wordsFrom_run (characters ▸ solid.2) bounded, tokenLength, List.map_cons,
      inductionHypothesis splitNow passedNow fun other inRest => Nat.le_of_lt (apart other inRest),
      List.map_cons, characters]
    rfl

/-- Tokens that make up a line are those into which it is scanned. -/
theorem Lossless.scan_eq_ok (lossless : Lossless line tokens) : scan line = .ok tokens := by
  have same : (words line).map (fun word => (word.characters, word.start)) =
      tokens.map fun token => (token.span.characters line, token.span.start) :=
    lossless.map_wordsFrom (List.nil_append tokens).symm (by simp) (by simp)
  rw [scan_eq_ok_iff]
  constructor
  · intro word member
    have paired := List.mem_map_of_mem (f := fun word => (word.characters, word.start)) member
    rw [same] at paired
    obtain ⟨token, inTokens, pair⟩ := List.mem_map.mp paired
    rw [← (Prod.mk.inj pair).1]
    exact (denotes_iff.mp (lossless.denotes token inTokens)).1
  · -- A token is known by its characters and its place.
    let rebuild : List Char × Nat → Located Token := fun pair =>
      ⟨spelled pair.1, ⟨pair.2, pair.2 + pair.1.length⟩⟩
    have rebuilt := congrArg (List.map rebuild) same
    rw [List.map_map, List.map_map] at rebuilt
    refine Eq.trans ?_ rebuilt.symm
    refine (List.map_id' tokens).symm.trans (List.map_congr_left fun token member => ?_)
    have long := lossless.nonempty token member
    have within := lossless.inside token member
    have stop : token.span.start + (token.span.characters line).length = token.span.stop := by
      rw [Span.length_characters within]
      omega
    show token = ⟨spelled _, ⟨token.span.start, _⟩⟩
    rw [stop, (denotes_iff.mp (lossless.denotes token member)).2]

end Tokens

/-! ## Lines that get stuck -/

/-- A line gets stuck at a character: all words in front of it are tokens, and so is its own word up
to it, but no longer with it. -/
structure StuckAt (line lead front : List Char) (found : Char) (rest : List Char) : Prop where
  split : line = lead ++ (front ++ found :: rest)
  bounded : ∀ character ∈ lead.getLast?, isBlank character = true
  tokens : ∀ piece ∈ pieces lead, isToken piece = true
  fits : front = [] ∨ isToken front = true
  unfit : isToken (front ++ [found]) = false
  solid : ∀ character ∈ front ++ [found], isBlank character = false

/-- A line consists of tokens or gets stuck. -/
theorem tokens_or_stuckAt (line : List Char) :
    (∀ piece ∈ pieces line, isToken piece = true) ∨
      ∃ lead front found rest, StuckAt line lead front found rest := by
  induction line using Text.wordInduction with
  | nil => exact Or.inl (by simp [pieces])
  | blank character rest isBlankHere inductionHypothesis =>
    have skip : ∀ text, pieces (character :: text) = pieces text :=
      Text.pieces_blanks_append (List.forall_mem_singleton.mpr isBlankHere)
    rw [skip]
    rcases inductionHypothesis with tokens | ⟨lead, front, found, behind, stuck⟩
    · exact Or.inl tokens
    · refine Or.inr ⟨character :: lead, front, found, behind, by rw [stuck.split]; rfl, ?_, ?_,
        stuck.fits, stuck.unfit, stuck.solid⟩
      · cases lead with
        | nil => simpa using isBlankHere
        | cons => simpa using stuck.bounded
      · rw [skip]
        exact stuck.tokens
  | run first more rest solid bounded inductionHypothesis =>
    rw [Text.pieces_run solid bounded, List.forall_mem_cons]
    cases token : isToken (first :: more) with
    | false =>
      obtain ⟨front, found, ⟨behind, split⟩, fits, unfit⟩ :=
        exists_stuck (List.cons_ne_nil first more) token
      refine Or.inr ⟨[], front, found, behind ++ rest, ?_, by simp, by simp [pieces], fits, unfit,
        fun character member => solid character ?_⟩
      · rw [split]
        simp
      · rw [split]
        exact List.mem_append.mpr ((List.mem_append.mp member).imp_right (by simp_all))
    | true =>
      rcases inductionHypothesis with tokens | ⟨lead, front, found, behind, stuck⟩
      · exact Or.inl ⟨rfl, tokens⟩
      · cases lead with
        | nil =>
          -- The word that gets stuck would touch the one in front of it.
          have head : rest = (front ++ [found]) ++ behind := by simp [stuck.split]
          obtain ⟨touching, more, filled⟩ :=
            List.exists_cons_of_ne_nil (show front ++ [found] ≠ [] by simp)
          have blank := bounded touching (by rw [head, filled]; rfl)
          rw [stuck.solid touching (by simp [filled])] at blank
          cases blank
        | cons blank others =>
          refine Or.inr ⟨first :: more ++ blank :: others, front, found, behind, ?_, ?_, ?_,
            stuck.fits, stuck.unfit, stuck.solid⟩
          · rw [stuck.split, List.append_assoc]
          · rw [List.getLast?_append_of_ne_nil _ (List.cons_ne_nil _ _)]
            exact stuck.bounded
          · rw [Text.pieces_run solid (by simpa [stuck.split] using bounded),
              List.forall_mem_cons]
            exact ⟨token, stuck.tokens⟩

/-- A token is the only piece of its own characters. -/
theorem pieces_of_isToken {word : List Char} (token : isToken word = true) :
    pieces word = [word] := by
  obtain ⟨nonempty, solid⟩ := solid_of_isToken token
  obtain ⟨first, more, rfl⟩ := List.exists_cons_of_ne_nil nonempty
  have whole : pieces (first :: more ++ []) = _ := Text.pieces_run solid (by simp)
  rwa [List.append_nil] at whole

section Stuck

variable {line lead front rest : List Char} {found : Char}

/-- A line in which scanning gets stuck is refused at the character where that happens. -/
theorem StuckAt.scan_eq_error (stuck : StuckAt line lead front found rest) :
    scan line = .error ⟨(lead ++ front).length, found⟩ := by
  obtain ⟨word, later, cut, placed, more, characters⟩ :=
    Text.exists_word_of_solid (show front ++ [found] ≠ [] by simp) stuck.solid
      (0 + lead.length) rest
  have split : words line = words lead ++ word :: later := by
    rw [stuck.split, words, Text.wordsFrom_append stuck.bounded, ← List.singleton_append,
      ← List.append_assoc front, cut]
    rfl
  have inWord : Stuck word.characters front found :=
    ⟨⟨more, by rw [characters]; simp⟩, stuck.fits, stuck.unfit⟩
  rw [scan_of_stuck split ((forall_words_iff 0).mpr stuck.tokens) inWord, placed,
    List.length_append, Nat.zero_add]

/-- What is in front of the character at which a line gets stuck is the longest beginning of the
line that can be scanned. -/
theorem StuckAt.stopsAt (stuck : StuckAt line lead front found rest) :
    StopsAt line ⟨(lead ++ front).length, found⟩ := by
  refine ⟨?_, ?_, fun shorter begins scannable => ?_⟩
  · rw [stuck.split, ← List.append_assoc, List.getElem?_append_right (Nat.le_refl _)]
    simp
  · rw [stuck.split, ← List.append_assoc, List.take_left, scannable_iff,
      ← forall_words_iff 0, Text.wordsFrom_append stuck.bounded, List.forall_mem_append,
      forall_words_iff, forall_words_iff]
    refine ⟨stuck.tokens, ?_⟩
    rcases stuck.fits with rfl | token
    · simp [pieces]
    · rw [pieces_of_isToken token, List.forall_mem_singleton]
      exact token
  · by_contra longer
    -- A longer beginning has a word that begins with the misfit.
    have both : lead ++ (front ++ [found]) <+: shorter := by
      refine List.prefix_of_prefix_length_le ⟨rest, ?_⟩ begins ?_
      · rw [stuck.split]
        simp
      · simp only [List.length_append, List.length_singleton] at longer ⊢
        omega
    obtain ⟨more, rfl⟩ := both
    obtain ⟨word, later, cut, -, others, characters⟩ :=
      Text.exists_word_of_solid (show front ++ [found] ≠ [] by simp) stuck.solid
        (0 + lead.length) more
    rw [scannable_iff, ← forall_words_iff 0, List.append_assoc,
      Text.wordsFrom_append stuck.bounded, cut] at scannable
    have token := scannable word (by simp)
    rw [characters] at token
    have fit := isToken_of_append (by simp) token
    rw [stuck.unfit] at fit
    cases fit

end Stuck

/-- What stops a scan is determined by the line. -/
theorem StopsAt.unique {line : List Char} {one other : Mismatch} (first : StopsAt line one)
    (second : StopsAt line other) : one = other := by
  have bound : ∀ {mismatch : Mismatch}, StopsAt line mismatch →
      (line.take mismatch.index).length = mismatch.index := by
    intro mismatch stops
    obtain ⟨inside, -⟩ := List.getElem?_eq_some_iff.mp stops.found
    rw [List.length_take]
    omega
  have low := second.longest _ (List.take_prefix _ _) first.scannable
  have high := first.longest _ (List.take_prefix _ _) second.scannable
  rw [bound first] at low
  rw [bound second] at high
  have index : one.index = other.index := Nat.le_antisymm low high
  have found := first.found
  rw [index, second.found] at found
  cases one
  cases other
  cases index
  cases found
  rfl

/-- A line is scanned into the tokens that make it up, if there are any; otherwise scanning stops at
the character behind the longest beginning of the line that can be scanned. -/
theorem scan_loses_nothing (line : List Char) :
    (∀ tokens, scan line = .ok tokens ↔ Lossless line tokens) ∧
      ∀ mismatch, scan line = .error mismatch ↔ StopsAt line mismatch := by
  refine ⟨fun tokens => ⟨lossless_of_scan, Lossless.scan_eq_ok⟩, fun mismatch => ?_⟩
  rcases tokens_or_stuckAt line with tokens | ⟨lead, front, found, rest, stuck⟩
  · obtain ⟨result, scanned⟩ := scannable_iff.mpr tokens
    constructor
    · intro failed
      rw [scanned] at failed
      cases failed
    · intro stops
      have short := stops.longest line (List.prefix_refl line) ⟨result, scanned⟩
      obtain ⟨inside, -⟩ := List.getElem?_eq_some_iff.mp stops.found
      omega
  · rw [stuck.scan_eq_error, Except.error.injEq]
    constructor
    · rintro rfl
      exact stuck.stopsAt
    · exact stuck.stopsAt.unique

/-- A number that runs into a letter fails at the letter, not where its word begins. -/
example : scan "push local 12a".toList = .error ⟨13, 'a'⟩ := by decide +kernel

end Token

end StackLowering

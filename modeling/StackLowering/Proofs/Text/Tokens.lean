import StackLowering.Proofs.Sequencing
import StackLowering.Proofs.Text.Words
import StackLowering.Token

/-!
# The tokens of a line

A word is a token when it consists of digits, or when it starts like a symbol and
goes on with characters of words. `ofWord_of_isToken` and `ofWord_of_stuck` say
what becomes of the one and of the other kind of word, and `scan_of_isToken` and
`scan_of_stuck` carry both over to a line, whose first bad word decides.
-/

namespace StackLowering

/-- The characters of a source that a span covers. -/
def Span.characters (span : Span) (source : List Char) : List Char :=
  source.extract span.start span.stop

/-- A span that is known by what precedes it covers what stands there. -/
theorem Span.characters_append {span : Span} {before middle after : List Char}
    (start : span.start = before.length) (stop : span.stop = before.length + middle.length) :
    span.characters (before ++ middle ++ after) = middle := by
  rw [Span.characters, List.extract_eq_take_drop, start, stop, List.append_assoc,
    List.drop_left, Nat.add_sub_cancel_left, List.take_left]

/-- A span inside of a source covers as many characters as it is long. -/
theorem Span.length_characters {span : Span} {source : List Char}
    (inside : span.stop ≤ source.length) :
    (span.characters source).length = span.stop - span.start := by
  rw [Span.characters, List.extract_eq_take_drop, List.length_take, List.length_drop]
  omega

/-- A source goes on from an index with what is in front of a span, the span, and what is behind. -/
theorem Span.drop_eq {span : Span} {source : List Char} {start : Nat} (ahead : start ≤ span.start)
    (ordered : span.start ≤ span.stop) :
    source.drop start = (source.drop start).take (span.start - start) ++
      (span.characters source ++ source.drop span.stop) := by
  have inner : source.drop span.stop =
      (source.drop span.start).drop (span.stop - span.start) := by
    rw [List.drop_drop, Nat.add_sub_cancel' ordered]
  have outer : source.drop span.start = (source.drop start).drop (span.start - start) := by
    rw [List.drop_drop, Nat.add_sub_cancel' ahead]
  rw [Span.characters, List.extract_eq_take_drop, inner, List.take_append_drop, outer,
    List.take_append_drop]

/-- A list without a property everywhere has a first member without it. -/
theorem exists_first_not {α : Type} {holds : α → Bool} {values : List α}
    (fails : ¬ ∀ value ∈ values, holds value = true) :
    ∃ before value after, values = before ++ value :: after ∧
      (∀ earlier ∈ before, holds earlier = true) ∧ holds value = false := by
  induction values with
  | nil => simp at fails
  | cons first rest inductionHypothesis =>
    by_cases here : holds first = true
    · obtain ⟨before, value, after, rfl, earlier, fails⟩ := inductionHypothesis fun all =>
        fails (List.forall_mem_cons.mpr ⟨here, all⟩)
      exact ⟨first :: before, value, after, rfl, List.forall_mem_cons.mpr ⟨here, earlier⟩, fails⟩
    · exact ⟨[], first, rest, rfl, by simp, by simpa using here⟩

namespace Token

open Text (PlacedWord)

/-- Whether a word is made of digits. -/
def isNumeral (word : List Char) : Bool := !word.isEmpty && word.all Char.isDigit

/-- Whether a word starts like a symbol and goes on with characters of words. -/
def isName : List Char → Bool
  | [] => false
  | first :: rest => Symbol.isStart first && rest.all Symbol.isWordContinuation

/-- Whether a word is a token. -/
def isToken (word : List Char) : Bool := isNumeral word || isName word

/-- The token that a word spells, if it is one. -/
def spelled (word : List Char) : Token :=
  if isNumeral word then .integer (Nat.ofDigitChars 10 word 0) else .symbol (String.ofList word)

/-- The token of a word, with its place in the source of a line that begins at `offset`. -/
def ofPlaced (offset : Nat) (word : PlacedWord) : Located Token :=
  Located.shift ⟨spelled word.characters, ⟨word.start, word.stop⟩⟩ offset

/-- A word is a token up to some character, and no longer with it. -/
structure Stuck (word : List Char) (front : List Char) (found : Char) : Prop where
  split : ∃ rest, word = front ++ found :: rest
  fits : front = [] ∨ isToken front = true
  unfit : isToken (front ++ [found]) = false

/-- Letters have the codes of upper case or of lower case. -/
theorem codes_of_isAlpha {character : Char} (letter : character.isAlpha = true) :
    (65 ≤ character.toNat ∧ character.toNat ≤ 90) ∨
      (97 ≤ character.toNat ∧ character.toNat ≤ 122) := by
  have ranges : character.isAlpha =
      (decide ('A'.val ≤ character.val ∧ character.val ≤ 'Z'.val) ||
        decide ('a'.val ≤ character.val) && decide (character.val ≤ 'z'.val)) := rfl
  simp only [ranges, Bool.or_eq_true, Bool.and_eq_true, decide_eq_true_eq,
    UInt32.le_iff_toNat_le] at letter
  exact letter

/-- The codes of the digits follow one another. -/
theorem codes_of_isDigit {character : Char} (digit : character.isDigit = true) :
    48 ≤ character.toNat ∧ character.toNat ≤ 57 :=
  Char.isDigit_iff_toNat.mp digit

/-- No name starts with a digit. -/
theorem isDigit_eq_false_of_isStart {character : Char} (start : Symbol.isStart character = true) :
    character.isDigit = false := by
  simp only [Symbol.isStart, Bool.or_eq_true, beq_iff_eq] at start
  rcases start with (((letter | rfl) | rfl) | rfl) | rfl
  · rw [Bool.eq_false_iff]
    intro digit
    have codes := codes_of_isAlpha letter
    have digits := codes_of_isDigit digit
    omega
  all_goals rfl

/-- Names are not numerals. -/
theorem isNumeral_eq_false_of_isName {word : List Char} (name : isName word = true) :
    isNumeral word = false := by
  cases word with
  | nil => cases name
  | cons first rest =>
    simp only [isName, Bool.and_eq_true] at name
    simp [isNumeral, isDigit_eq_false_of_isStart name.1]

/-- Every beginning of a token is a token. -/
theorem isToken_of_append {front rest : List Char} (nonempty : front ≠ [])
    (token : isToken (front ++ rest) = true) : isToken front = true := by
  obtain ⟨first, more, rfl⟩ := List.exists_cons_of_ne_nil nonempty
  simp only [isToken, isNumeral, isName, List.cons_append, Bool.or_eq_true, Bool.and_eq_true,
    List.all_cons, List.all_append] at token ⊢
  rcases token with ⟨-, digit, digits, -⟩ | ⟨start, continuations, -⟩
  · exact Or.inl ⟨rfl, digit, digits⟩
  · exact Or.inr ⟨start, continuations⟩

/-- A word that gets stuck is no token. -/
theorem Stuck.isToken_eq_false {word front : List Char} {found : Char}
    (stuck : Stuck word front found) : isToken word = false := by
  obtain ⟨⟨rest, rfl⟩, -, unfit⟩ := stuck
  rw [Bool.eq_false_iff]
  intro token
  rw [← List.singleton_append, ← List.append_assoc] at token
  rw [isToken_of_append (by simp) token] at unfit
  cases unfit

/-- A word that is no token gets stuck somewhere. -/
theorem exists_stuck {word : List Char} (nonempty : word ≠ []) (unfit : isToken word = false) :
    ∃ front found, Stuck word front found := by
  -- The front grows by one character as long as it stays a token.
  have search : ∀ (tail front : List Char), word = front ++ tail →
      (front = [] ∨ isToken front = true) → ∃ front found, Stuck word front found := by
    intro tail
    induction tail with
    | nil =>
      rintro front split (rfl | token)
      · exact absurd split nonempty
      · rw [split, List.append_nil, token] at unfit
        cases unfit
    | cons found tail inductionHypothesis =>
      intro front split fits
      cases next : isToken (front ++ [found]) with
      | false => exact ⟨front, found, ⟨tail, split⟩, fits, next⟩
      | true => exact inductionHypothesis (front ++ [found]) (by simp [split]) (Or.inr next)
  exact search word [] rfl (Or.inl rfl)

/-- There is no mismatch if all characters are accepted. -/
theorem mismatch?_eq_none {accepts : Char → Bool} {characters : List Char}
    (accepted : characters.all accepts = true) (start : Nat) :
    mismatch? accepts start characters = none := by
  induction characters generalizing start with
  | nil => rfl
  | cons character rest inductionHypothesis =>
    rw [List.all_cons, Bool.and_eq_true] at accepted
    rw [mismatch?, if_pos accepted.1, inductionHypothesis accepted.2]

/-- The mismatch is the first character that is refused. -/
theorem mismatch?_eq_some {accepts : Char → Bool} {front rest : List Char} {found : Char}
    (accepted : front.all accepts = true) (refused : accepts found = false) (start : Nat) :
    mismatch? accepts start (front ++ found :: rest) = some ⟨start + front.length, found⟩ := by
  induction front generalizing start with
  | nil => simp [mismatch?, refused]
  | cons character more inductionHypothesis =>
    rw [List.all_cons, Bool.and_eq_true] at accepted
    rw [List.cons_append, mismatch?, if_pos accepted.1, inductionHypothesis accepted.2,
      List.length_cons, Nat.add_right_comm, Nat.add_assoc]

/-- A word that is a token becomes the token that it spells. -/
theorem ofWord_of_isToken {word : PlacedWord} (token : isToken word.characters = true) :
    ofWord word = .ok ⟨spelled word.characters, ⟨word.start, word.stop⟩⟩ := by
  rw [isToken, Bool.or_eq_true] at token
  rcases token with numeral | name
  · have digits := numeral
    simp only [isNumeral, PlacedWord.characters, List.all_cons, Bool.and_eq_true] at digits
    rw [spelled, if_pos numeral, ofWord, if_pos digits.2.1, checked,
      mismatch?_eq_none digits.2.2]
  · have parts := name
    simp only [isName, PlacedWord.characters, Bool.and_eq_true] at parts
    rw [spelled, isNumeral_eq_false_of_isName name, ofWord, isDigit_eq_false_of_isStart parts.1]
    simp [parts.1, checked, mismatch?_eq_none parts.2]

/-- A word that is no token fails where it gets stuck. -/
theorem ofWord_of_stuck {word : PlacedWord} {front : List Char} {found : Char}
    (stuck : Stuck word.characters front found) :
    ofWord word = .error ⟨word.start + front.length, found⟩ := by
  obtain ⟨⟨rest, split⟩, fits, unfit⟩ := stuck
  cases front with
  | nil =>
    obtain ⟨rfl, rfl⟩ := List.cons.inj split
    simp [isToken, isNumeral, isName] at unfit
    simp [ofWord, unfit]
  | cons first more =>
    obtain ⟨rfl, tail⟩ := List.cons.inj (split.trans List.cons_append)
    have token := fits.resolve_left (by simp)
    have place : word.start + (word.first :: more).length = word.start + 1 + more.length := by
      simp only [List.length_cons]
      omega
    simp only [isToken, isNumeral, isName, List.cons_append, List.isEmpty_cons, List.all_cons,
      List.all_append, List.all_nil, Bool.not_false, Bool.true_and, Bool.and_true,
      Bool.or_eq_true, Bool.and_eq_true, Bool.or_eq_false_iff] at token unfit
    rw [ofWord, place]
    rcases token with ⟨digit, digits⟩ | ⟨start, continuations⟩
    · rw [digit, digits] at unfit
      have refused : found.isDigit = false := by simpa using unfit.1
      rw [if_pos digit, checked, tail, mismatch?_eq_some digits refused]
    · rw [start, continuations] at unfit
      have refused : Symbol.isWordContinuation found = false := by simpa using unfit.2
      rw [isDigit_eq_false_of_isStart start, if_neg Bool.false_ne_true, if_pos start, checked,
        tail, mismatch?_eq_some continuations refused]

/-- A line of tokens is scanned into the tokens of its words. -/
theorem scan_of_isToken {line : List Char}
    (tokens : ∀ word ∈ Text.words line, isToken word.characters = true) :
    scan line = .ok ((Text.words line).map fun word =>
      ⟨spelled word.characters, ⟨word.start, word.stop⟩⟩) :=
  mapM_eq_ok fun word member => ofWord_of_isToken (tokens word member)

/-- The first word that is no token decides where scanning fails. -/
theorem scan_of_stuck {line : List Char} {before after : List PlacedWord} {word : PlacedWord}
    {front : List Char} {found : Char} (split : Text.words line = before ++ word :: after)
    (tokens : ∀ earlier ∈ before, isToken earlier.characters = true)
    (stuck : Stuck word.characters front found) :
    scan line = .error ⟨word.start + front.length, found⟩ := by
  rw [scan, split]
  exact mapM_eq_error (fun earlier member => ⟨_, ofWord_of_isToken (tokens earlier member)⟩)
    (ofWord_of_stuck stuck)

end Token

end StackLowering

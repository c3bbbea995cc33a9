import StackLowering.Proofs.Json.Layout

/-!
# Strings and numbers in a text

A string that is written as it is ends at the next quote, and a number at the
first character that is no digit. Integers keep their value up to sixty-four bits;
longer ones are floating point numbers, which are no words either.
-/

namespace StackLowering.Json.Reader

variable {α β : Type}

/-! ## Strings -/

/-- A plain character is taken into the string as it is. -/
theorem stringTurn_of_plain {code : Reader Char} {control : Reader (Turn Quoted Quoted)}
    {read : Quoted} {character : Char} {rest : List Char} (noQuote : character ≠ '"')
    (noBackslash : character ≠ '\\') (graphic : 0x20 ≤ character.toNat) :
    stringTurn code control read (character :: rest) =
      .done (.again ⟨character :: read.content, read.escaped⟩) rest := by
  have peeked : peek (character :: rest) = .done (some character) (character :: rest) := rfl
  rw [stringTurn, bind_of_done peeked]
  simp only
  rw [if_neg (Nat.not_lt.mpr graphic)]
  rfl

/-- A string that is written as it is ends at the next quote. -/
theorem string_of_plain {content : List Char} (plain : IsPlain content) (rest : List Char) :
    string (content ++ '"' :: rest) = .done ⟨content, false⟩ rest := by
  have run : ∀ (content read : List Char) (more : Nat), IsPlain content →
      turns (stringTurn codePoint (failNext .controlCharacter)) (content.length + 1 + more)
          ⟨read, false⟩ (content ++ '"' :: rest) =
        .done ⟨read.reverse ++ content, false⟩ rest := by
    intro content
    induction content with
    | nil =>
      intro read more _
      rw [List.length_nil, Nat.zero_add, Nat.add_comm, List.append_nil]
      exact turns_finish rfl
    | cons character later inductionHypothesis =>
      intro read more plain
      obtain ⟨noQuote, noBackslash, graphic⟩ := plain character List.mem_cons_self
      have count : (character :: later).length + 1 + more = later.length + 1 + more + 1 := by
        rw [List.length_cons]
        omega
      rw [count, List.cons_append, turns_again (stringTurn_of_plain noQuote noBackslash graphic),
        inductionHypothesis _ _ fun other member => plain other (List.mem_cons_of_mem _ member)]
      simp
  have length : (content ++ '"' :: rest).length + 1 = content.length + 1 + (rest.length + 1) := by
    simp only [List.length_append, List.length_cons]
    omega
  rw [string, loop, length, run content [] _ plain]
  rfl

/-- A string in quotes begins and ends with a quote. -/
theorem toList_inQuotes (content : String) :
    (Value.inQuotes content).toList = '"' :: (content.toList ++ ['"']) := by
  simp [Value.inQuotes]

/-- A plain string is read as its content. -/
theorem text_discerns {content : String} (plain : IsPlain content.toList) :
    text.Discerns (.string content) content where
  reads := by
    intro following input delimited spaced
    rw [Value.lexemes, toList_inQuotes] at spaced
    obtain ⟨rest, read, later⟩ := next_of_spaced (by decide) spaced
    refine ⟨rest, ?_, later⟩
    rw [List.append_assoc] at read
    rw [text, bind_of_done read]
    show (string >>= _) (content.toList ++ '"' :: rest) = _
    rw [bind_of_done (string_of_plain plain rest)]
    show Outcome.done (String.ofList content.toList) rest = _
    rw [String.ofList_toList]
  fails := by
    intro spoiled damage
    cases damage

/-! ## Numbers -/

/-- A text splits behind its characters that pass a test. -/
theorem takeWhile_split {test : Char → Bool} {front rest : List Char}
    (passes : ∀ character ∈ front, test character = true)
    (bounded : ∀ character ∈ rest.head?, test character = false) :
    (front ++ rest).takeWhile test = front ∧ (front ++ rest).dropWhile test = rest := by
  have stops : rest.takeWhile test = [] ∧ rest.dropWhile test = rest := by
    cases rest with
    | nil => exact ⟨rfl, rfl⟩
    | cons character more => simp [bounded character rfl]
  rw [List.takeWhile_append_of_pos passes, List.dropWhile_append_of_pos passes, stops.1, stops.2,
    List.append_nil]
  exact ⟨rfl, rfl⟩

/-- All digits of a number are absorbed, up to the first character that is no digit. -/
theorem number_of_digits {first : Char} {more rest : List Char}
    (digits : ∀ character ∈ first :: more, character.isDigit = true)
    (unpadded : first = '0' → more = [])
    (bounded : ∀ character ∈ rest.head?, character.isDigit = false) :
    number false (first :: more ++ rest) =
      afterInteger false (absorb maxSignificand 0 (first :: more)).1
        (absorb maxSignificand 0 (first :: more)).2 rest := by
  rw [number, peek_bind]
  by_cases zero : first = '0'
  · subst zero
    obtain rfl := unpadded rfl
    simp only [List.cons_append, List.nil_append, List.head?_cons]
    rw [skip_bind, peek_bind, List.tail_cons]
    cases rest with
    | nil => rfl
    | cons other behind =>
      simp only [List.head?_cons, bounded other rfl]
      rfl
  · obtain ⟨front, behind⟩ := takeWhile_split digits bounded
    simp only [List.cons_append, List.head?_cons, digits first List.mem_cons_self, if_true]
    rw [takeWhile_bind, ← List.cons_append, front, behind]

/-- Behind an integer stands no fraction and no exponent. -/
theorem afterInteger_read {rest : List Char} (value : Nat)
    (bounded : ∀ character ∈ rest.head?, character ∉ ['.', 'e', 'E']) :
    afterInteger false value [] rest = .done (.integer value) rest := by
  have other : ∀ character ∈ ['.', 'e', 'E'], rest.head? ≠ some character :=
    fun character member first => bounded character first member
  rw [afterInteger, peek_bind, if_neg (other '.' (by decide)), if_neg]
  · rfl
  · simp [other 'e' (by decide), other 'E' (by decide)]

/-- A floating point number keeps the sign that it was read with. -/
theorem exists_of_float_eq_done {negative : Bool} {significand : Nat} {exponent : Int}
    {text rest : List Char} {result : Number}
    (read : float negative significand exponent text = .done result rest) :
    ∃ magnitude, result = .float negative magnitude := by
  unfold float at read
  cases found : Binary64.ofDecimal? significand exponent with
  | some magnitude =>
    simp only [found] at read
    cases read
    exact ⟨magnitude, rfl⟩
  | none =>
    simp only [found] at read
    cases read

/-- Digits that were left over make the number a floating point number. -/
theorem afterInteger_float {rest behind : List Char} {value : Nat} {unread : List Char}
    {result : Number} (left : unread ≠ [])
    (bounded : ∀ character ∈ rest.head?, character ∉ ['.', 'e', 'E'])
    (read : afterInteger false value unread rest = .done result behind) :
    ∃ magnitude, result = .float false magnitude := by
  have other : ∀ character ∈ ['.', 'e', 'E'], rest.head? ≠ some character :=
    fun character member first => bounded character first member
  rw [afterInteger, peek_bind, if_neg (other '.' (by decide)), if_pos (by simp [left]),
    afterDigits, peek_bind, if_neg (by simp [other 'e' (by decide), other 'E' (by decide)])] at read
  exact exists_of_float_eq_done read

/-- Further digits do not make a number smaller. -/
theorem le_ofDigitChars (digits : List Char) (value : Nat) :
    value ≤ Nat.ofDigitChars 10 digits value := by
  induction digits generalizing value with
  | nil => exact Nat.le_refl value
  | cons digit rest inductionHypothesis =>
    rw [Nat.ofDigitChars_cons]
    exact Nat.le_trans (by omega) (inductionHypothesis _)

/-- Digits are absorbed as long as their number stays within the limit. -/
theorem absorb_cases {limit value : Nat} (digits : List Char) (low : value ≤ limit) :
    (Nat.ofDigitChars 10 digits value ≤ limit ∧
        absorb limit value digits = (Nat.ofDigitChars 10 digits value, [])) ∨
      (limit < Nat.ofDigitChars 10 digits value ∧ (absorb limit value digits).2 ≠ []) := by
  induction digits generalizing value with
  | nil => exact Or.inl ⟨low, rfl⟩
  | cons digit rest inductionHypothesis =>
    rw [Nat.ofDigitChars_cons, absorb]
    split
    · rename_i within
      exact inductionHypothesis within
    · rename_i beyond
      refine Or.inr ⟨?_, List.cons_ne_nil _ _⟩
      exact Nat.lt_of_lt_of_le (Nat.not_le.mp beyond) (le_ofDigitChars rest _)

/-- A positive number is not written with a leading zero. -/
theorem head_toDigits_ne_zero {number : Nat} (pos : 0 < number) :
    ∀ digit ∈ (Nat.toDigits 10 number).head?, digit ≠ '0' := by
  induction number using Nat.strongRecOn with
  | ind number inductionHypothesis =>
    by_cases small : number < 10
    · rw [Nat.toDigits_of_lt_base small]
      rintro digit first rfl
      have zero := Nat.digitChar_eq_zero.mp (Option.some.inj first)
      omega
    · have earlier := inductionHypothesis (number / 10) (by omega) (by omega)
      obtain ⟨first, more, split⟩ :=
        List.exists_cons_of_ne_nil (@Nat.toDigits_ne_nil (number / 10) 10)
      rw [split] at earlier
      rw [Nat.toDigits_of_base_le (by decide) (Nat.not_lt.mp small), split]
      exact earlier

/-- A number is written with digits, of which the first one is zero only for zero itself. -/
theorem exists_toDigits_eq (value : Nat) :
    ∃ first more, Nat.toDigits 10 value = first :: more ∧
      (∀ character ∈ first :: more, character.isDigit = true) ∧ (first = '0' → more = []) := by
  have digits : ∀ character ∈ Nat.toDigits 10 value, character.isDigit = true := by
    intro character member
    exact Nat.isDigit_of_mem_toDigits (by decide) (by decide) member
  rcases Nat.eq_zero_or_pos value with rfl | pos
  · exact ⟨'0', [], rfl, digits, fun _ => rfl⟩
  · obtain ⟨first, more, split⟩ := List.exists_cons_of_ne_nil (@Nat.toDigits_ne_nil value 10)
    have nonzero := head_toDigits_ne_zero pos
    rw [split] at digits nonzero
    exact ⟨first, more, split, digits, fun zero => absurd zero (nonzero first rfl)⟩

/-- A number is read as an integer unless it needs more than sixty-four bits. -/
theorem number_of_spaced (value : Nat) {following : List (List Char)} {rest : List Char}
    (delimited : Delimited following) (spaced : Spaced following rest) :
    number false (Nat.toDigits 10 value ++ rest) = .done (.integer value) rest ∨
      (maxSignificand < value ∧ ∀ result behind,
        number false (Nat.toDigits 10 value ++ rest) = .done result behind →
          ∃ magnitude, result = .float false magnitude) := by
  have behindValue : ∀ character ∈ [' ', '\t', '\n', '\r', ',', '\x7d'],
      character.isDigit = false ∧ character ∉ ['.', 'e', 'E'] :=
    List.forall_iff_forall_mem.mp (by decide)
  have bounded := fun character first =>
    behindValue character (head_of_spaced delimited spaced character first)
  have unmarked := fun character first => (bounded character first).2
  obtain ⟨first, more, written, digits, unpadded⟩ := exists_toDigits_eq value
  have number := number_of_digits digits unpadded fun character first => (bounded character first).1
  have meaning : Nat.ofDigitChars 10 (first :: more) 0 = value := by
    rw [← written]
    exact Nat.ofDigitChars_toDigits (by decide) (by decide)
  rw [written, number]
  rcases absorb_cases (first :: more) (Nat.zero_le maxSignificand) with
    ⟨-, absorbed⟩ | ⟨large, left⟩
  · rw [absorbed, meaning]
    exact Or.inl (afterInteger_read value unmarked)
  · rw [meaning] at large
    exact Or.inr ⟨large, fun result behind read => afterInteger_float left unmarked read⟩

/-- Digits are not skipped as space. -/
theorem isSpace_of_isDigit {character : Char} (digit : character.isDigit = true) :
    isSpace character = false := by
  cases space : isSpace character with
  | false => rfl
  | true =>
    simp only [isSpace, Bool.or_eq_true, beq_iff_eq] at space
    obtain ((rfl | rfl) | rfl) | rfl := space <;> cases digit

/-- A number is read as a word exactly if it does not need more than sixteen bits. -/
theorem word_of_spaced (value : Nat) {following : List (List Char)} {text : List Char}
    (delimited : Delimited following) (spaced : Spaced ([value.repr.toList] ++ following) text) :
    (value ≤ 65535 → ∃ rest, word text = .done (BitVec.ofNat 16 value) rest ∧
        Spaced following rest) ∧
      (65535 < value → ∀ result rest, word text ≠ .done result rest) := by
  obtain ⟨first, more, written, digits, -⟩ := exists_toDigits_eq value
  have digit := digits first List.mem_cons_self
  have solid : isSpace first = false := isSpace_of_isDigit digit
  rw [Nat.toList_repr, written] at spaced
  obtain ⟨rest, read, later⟩ := next_of_spaced solid spaced
  have number := number_of_spaced value delimited later
  rw [word, bind_of_done read, ← List.cons_append, ← written]
  have notMinus : first ≠ '-' := by
    rintro rfl
    cases digit
  simp only [digit, if_true]
  constructor
  · intro small
    refine ⟨rest, ?_, later⟩
    rcases number with number | ⟨large, -⟩
    · rw [bind_of_done number]
      simp only
      rw [if_pos (by simp; omega), BitVec.ofInt_natCast]
      rfl
    · exact absurd large (by rw [maxSignificand]; omega)
  · intro large result behind
    rw [Ne, bind_eq_done_iff]
    rintro ⟨found, middle, read, fit⟩
    rcases number with number | ⟨-, float⟩
    · rw [number] at read
      cases read
      simp only at fit
      rw [if_neg (by simp; omega)] at fit
      cases fit
    · obtain ⟨magnitude, rfl⟩ := float found middle read
      cases fit

/-- A word is read from its number, and not from a number that needs more than sixteen bits. -/
theorem word_discerns (base : BitVec 16) :
    word.Discerns (.number base.toNat.repr) base where
  reads := by
    intro following text delimited spaced
    have small := base.isLt
    have read := (word_of_spaced base.toNat delimited spaced).1 (by omega)
    rwa [BitVec.ofNat_toNat, BitVec.setWidth_eq] at read
  fails := by
    intro spoiled damage
    cases damage with
    | exceeded _ large =>
      intro following text delimited spaced
      exact (word_of_spaced _ delimited spaced).2 large

end StackLowering.Json.Reader

import StackLowering.Json.Record
import StackLowering.Json.Value
import Mathlib.Data.List.Basic
import Mathlib.Data.List.TakeWhile

/-!
# Values laid out in a text

A value is written as lexemes, and a text is laid out by blanks around them. The
layout is in no way part of the value, so readers are described by lexemes:
`Reads` says that a reader finds a result in every layout, whatever follows, and
`Discerns` says in addition that it fails on every value that was spoiled by
taking a member away or by a number that does not fit into a word.
-/

namespace StackLowering.Json

namespace Value

/-- The comma in front of every part of a value but the first one. -/
def separator (later : Bool) : List (List Char) := if later then [[',']] else []

mutual

/-- The lexemes of a value. -/
def lexemes : Value → List (List Char)
  | .string content => [(inQuotes content).toList]
  | .number text => [text.toList]
  | .boolean value => [(if value then "true" else "false").toList]
  | .list elements => ['['] :: elementLexemes false elements ++ [[']']]
  | .object members => ['\x7b'] :: memberLexemes false members ++ [['\x7d']]

/-- The lexemes of some elements. -/
def elementLexemes (later : Bool) : List Value → List (List Char)
  | [] => []
  | value :: rest => separator later ++ (value.lexemes ++ elementLexemes true rest)

/-- The lexemes of some members. -/
def memberLexemes (later : Bool) : List (String × Value) → List (List Char)
  | [] => []
  | (key, value) :: rest =>
    separator later ++
      (inQuotes key).toList :: [':'] :: (value.lexemes ++ memberLexemes true rest)

end

/-- A value is spoiled: somewhere in it a member is gone, or a number is replaced by one that needs
more than sixteen bits. -/
inductive Spoiled : Value → Value → Prop where
  | removed (front : List (String × Value)) (member : String × Value)
      (back : List (String × Value)) :
      Spoiled (.object (front ++ member :: back)) (.object (front ++ back))
  | exceeded (text : String) {number : Nat} (large : 65535 < number) :
      Spoiled (.number text) (.number number.repr)
  | inside (front : List (String × Value)) (key : String) {value spoiled : Value}
      (back : List (String × Value)) (within : Spoiled value spoiled) :
      Spoiled (.object (front ++ (key, value) :: back)) (.object (front ++ (key, spoiled) :: back))

end Value

/-- A text consists of lexemes with blanks around them. -/
inductive Spaced : List (List Char) → List Char → Prop where
  | finish {blanks : List Char}
      (blank : ∀ character ∈ blanks, character ∈ [' ', '\t', '\n', '\r']) : Spaced [] blanks
  | lexeme {blanks : List Char}
      (blank : ∀ character ∈ blanks, character ∈ [' ', '\t', '\n', '\r']) (lexeme : List Char)
      {lexemes : List (List Char)} {rest : List Char} (later : Spaced lexemes rest) :
      Spaced (lexeme :: lexemes) (blanks ++ (lexeme ++ rest))

/-- A string is written as it is: it has no quote, no backslash and no control character. -/
def IsPlain (content : List Char) : Prop :=
  ∀ character ∈ content, character ≠ '"' ∧ character ≠ '\\' ∧ 0x20 ≤ character.toNat

instance (content : List Char) : Decidable (IsPlain content) :=
  List.decidableBAll _ content

/-- What may stand behind a value: a comma, a closing brace, or nothing. -/
def Delimited (following : List (List Char)) : Prop :=
  ∀ lexeme ∈ following.head?, lexeme = [','] ∨ lexeme = ['\x7d']

namespace Reader

variable {α β : Type}

/-- A reader finds a value in some lexemes, however they are laid out, and leaves what follows. -/
def Reads (reader : Reader α) (lexemes : List (List Char)) (value : α) : Prop :=
  ∀ following text, Delimited following → Spaced (lexemes ++ following) text →
    ∃ rest, reader text = .done value rest ∧ Spaced following rest

/-- A reader finds nothing in some lexemes, however they are laid out and whatever follows. -/
def Fails (reader : Reader α) (lexemes : List (List Char)) : Prop :=
  ∀ following text, Delimited following → Spaced (lexemes ++ following) text →
    ∀ value rest, reader text ≠ .done value rest

/-- A reader finds a result in a value and nothing in a spoiled one. -/
structure Discerns (reader : Reader α) (value : Value) (result : α) : Prop where
  reads : reader.Reads value.lexemes result
  fails : ∀ spoiled, value.Spoiled spoiled → reader.Fails spoiled.lexemes

/-! ## Sequences -/

/-- A sequence goes on where its first reader is done. -/
theorem bind_of_done {reader : Reader α} {continuation : α → Reader β} {text rest : List Char}
    {value : α} (read : reader text = .done value rest) :
    (reader >>= continuation) text = continuation value rest := by
  show reader.andThen continuation text = _
  rw [andThen, read]

/-- A sequence is done exactly if both of its readers are, one behind the other. -/
theorem bind_eq_done_iff {reader : Reader α} {continuation : α → Reader β}
    {text rest : List Char} {result : β} :
    (reader >>= continuation) text = .done result rest ↔
      ∃ value middle, reader text = .done value middle ∧
        continuation value middle = .done result rest := by
  show reader.andThen continuation text = _ ↔ _
  rw [andThen]
  constructor
  · intro read
    split at read
    · rename_i value middle found
      exact ⟨value, middle, found, read⟩
    · cases read
    · cases read
  · rintro ⟨value, middle, found, read⟩
    rw [found]
    exact read

/-- Looking at the next character takes nothing. -/
theorem peek_bind (continuation : Option Char → Reader β) (text : List Char) :
    (peek >>= continuation) text = continuation text.head? text :=
  rfl

/-- Skipping takes one character. -/
theorem skip_bind (continuation : Unit → Reader β) (text : List Char) :
    (skip >>= continuation) text = continuation () text.tail :=
  rfl

/-- Taking characters while they pass a test splits the text in front of the first that fails. -/
theorem takeWhile_bind (test : Char → Bool) (continuation : List Char → Reader β)
    (text : List Char) :
    (takeWhile test >>= continuation) text =
      continuation (text.takeWhile test) (text.dropWhile test) :=
  rfl

/-! ## Layouts -/

/-- The four blanks are skipped as space. -/
theorem isSpace_of_mem {character : Char} (blank : character ∈ [' ', '\t', '\n', '\r']) :
    isSpace character = true := by
  have listed : ∀ blank ∈ [' ', '\t', '\n', '\r'], isSpace blank = true :=
    List.forall_iff_forall_mem.mp (by decide)
  exact listed character blank

/-- The next character that is no space is the first one of the next lexeme. -/
theorem next_of_spaced {character : Char} {more : List Char} {lexemes : List (List Char)}
    {text : List Char} (solid : isSpace character = false)
    (spaced : Spaced ((character :: more) :: lexemes) text) :
    ∃ rest, next text = .done (some character) (character :: (more ++ rest)) ∧
      Spaced lexemes rest := by
  obtain - | ⟨blank, -, later⟩ := spaced
  refine ⟨_, ?_, later⟩
  rw [next, List.dropWhile_append_of_pos fun character member =>
    isSpace_of_mem (blank character member), List.cons_append,
    List.dropWhile_cons_of_neg (by rw [solid]; decide)]
  rfl

/-- Behind the last lexeme there is no further character. -/
theorem next_of_spaced_nil {text : List Char} (spaced : Spaced [] text) :
    next text = .done none [] := by
  obtain ⟨blank⟩ := spaced
  have nothing : text.dropWhile isSpace = [] := by
    rw [List.dropWhile_eq_nil_iff]
    exact fun character member => isSpace_of_mem (blank character member)
  rw [next, nothing]
  rfl

/-- The character behind a value. -/
theorem head_of_spaced {following : List (List Char)} {text : List Char}
    (delimited : Delimited following) (spaced : Spaced following text) :
    ∀ character ∈ text.head?, character ∈ [' ', '\t', '\n', '\r', ',', '\x7d'] := by
  have widen : ∀ {character}, character ∈ [' ', '\t', '\n', '\r'] →
      character ∈ [' ', '\t', '\n', '\r', ',', '\x7d'] := fun member =>
    List.mem_append_left [',', '\x7d'] member
  intro character first
  cases spaced with
  | finish blank => exact widen (blank character (List.mem_of_mem_head? first))
  | @lexeme blanks blank lexeme lexemes rest later =>
    cases blanks with
    | nil =>
      rcases delimited lexeme rfl with rfl | rfl
      · obtain rfl : ',' = character := Option.some.inj first
        decide
      · obtain rfl : '\x7d' = character := Option.some.inj first
        decide
    | cons blank' more =>
      obtain rfl : blank' = character := Option.some.inj first
      exact widen (blank _ List.mem_cons_self)

/-- Nothing need stand behind a value. -/
theorem delimited_nil : Delimited [] := by
  intro lexeme first
  cases first

/-- The layout with the same blanks in front of every lexeme. -/
theorem spaced_flatMap {blanks : List Char}
    (blank : ∀ character ∈ blanks, character ∈ [' ', '\t', '\n', '\r'])
    (lexemes : List (List Char)) :
    Spaced lexemes (lexemes.flatMap fun lexeme => blanks ++ lexeme) := by
  induction lexemes with
  | nil => exact .finish (List.forall_mem_nil _)
  | cons lexeme rest inductionHypothesis =>
    rw [List.flatMap_cons, List.append_assoc]
    exact .lexeme blank lexeme inductionHypothesis

/-! ## Whole texts -/

/-- What a reader finds in the lexemes of a text is the value of the whole text. -/
theorem readAll_of_reads {reader : Reader α} {lexemes : List (List Char)} {value : α}
    {text : List Char} (reads : reader.Reads lexemes value) (spaced : Spaced lexemes text) :
    readAll reader text = .ok value := by
  rw [← List.append_nil lexemes] at spaced
  obtain ⟨rest, read, later⟩ := reads [] text delimited_nil spaced
  rw [readAll]
  simp only [bind_of_done read, bind_of_done (next_of_spaced_nil later)]
  rfl

/-- A text is refused if a reader finds nothing in its lexemes. -/
theorem exists_failure_of_fails {reader : Reader α} {lexemes : List (List Char)}
    {text : List Char} (fails : reader.Fails lexemes) (spaced : Spaced lexemes text) :
    ∃ failure, readAll reader text = .error failure := by
  rw [← List.append_nil lexemes] at spaced
  have unread := fails [] text delimited_nil spaced
  rw [readAll]
  dsimp only
  split
  · rename_i value rest whole
    obtain ⟨found, middle, read, -⟩ := bind_eq_done_iff.mp whole
    exact absurd read (unread found middle)
  · exact ⟨_, rfl⟩
  · exact ⟨_, rfl⟩

/-- What is made of a result is made of it wherever the result is found. -/
theorem Discerns.map {reader : Reader α} {value : Value} {result : α}
    (discerns : reader.Discerns value result) (make : α → β) :
    (reader >>= fun found => pure (make found)).Discerns value (make result) where
  reads := by
    intro following text delimited spaced
    obtain ⟨rest, read, later⟩ := discerns.reads following text delimited spaced
    exact ⟨rest, by rw [bind_of_done read]; rfl, later⟩
  fails := by
    intro spoiled damage following text delimited spaced made rest finished
    obtain ⟨found, middle, read, -⟩ := bind_eq_done_iff.mp finished
    exact discerns.fails spoiled damage following text delimited spaced found middle read

/-! ## Loops -/

/-- A turn that asks for another one is followed by it. -/
theorem turns_again {σ : Type} {body : σ → Reader (Turn σ α)} {count : Nat} {state after : σ}
    {text rest : List Char} (turn : body state text = .done (.again after) rest) :
    turns body (count + 1) state text = turns body count after rest := by
  rw [turns, bind_of_done turn]

/-- A turn that finishes ends the loop with its value. -/
theorem turns_finish {σ : Type} {body : σ → Reader (Turn σ α)} {count : Nat} {state : σ}
    {value : α} {text rest : List Char} (turn : body state text = .done (.finish value) rest) :
    turns body (count + 1) state text = .done value rest := by
  rw [turns, bind_of_done turn]
  rfl

end Reader

end StackLowering.Json

/-!
# Signals of terminal text

Terminal text consists of characters to be shown and of control sequences, which
start with an escape character. Sequences that select styles carry numbers; all
others have no effect on how the text looks. An escape character that starts no
sequence counts as a character to be shown.
-/

namespace StackLowering.Terminal

/-- A character to be shown, or a selection of styles by numbers. -/
inductive Signal where
  | shown (character : Char)
  | styles (codes : List (List Char))
deriving DecidableEq, Repr

/-- The character that starts a control sequence. -/
def escapeCharacter : Char := '\x1b'

/-- The character that ends a title. -/
def bell : Char := '\x07'

/-- The characters that end a control sequence other than a selection of styles. -/
def finalCharacters : List Char := "ABCDEFGHJKSTfhilnsu".toList

/-- The texts between the semicolons of a text. -/
def splitAtSemicolons : List Char → List (List Char)
  | [] => [[]]
  | character :: rest =>
    if character = ';' then [] :: splitAtSemicolons rest
    else match splitAtSemicolons rest with
      | [] => [[character]]
      | part :: parts => (character :: part) :: parts

/-- The numbers of a control sequence: none, or some between semicolons. -/
def numbers? (parameters : List Char) : Option (List (List Char)) :=
  if parameters = [] then some []
  else
    let numbers := splitAtSemicolons parameters
    if numbers.all fun number => !number.isEmpty && number.all Char.isDigit then some numbers
    else none

/-- A control sequence without its escape character: its length, and the numbers of a selection of
styles, which is a reset if there are none. -/
def sequence? : List Char → Option (Nat × Option (List (List Char)))
  | '(' :: 'B' :: _ => some (2, none)
  | '[' :: '?' :: rest => do
    let parameters := rest.takeWhile fun character => character.isDigit || character = ';'
    let _ ← numbers? parameters
    let final ← rest[parameters.length]?
    if final ∈ finalCharacters then some (parameters.length + 3, none) else none
  | '[' :: rest => do
    let parameters := rest.takeWhile fun character => character.isDigit || character = ';'
    let numbers ← numbers? parameters
    let final ← rest[parameters.length]?
    if final = 'm' then
      some (parameters.length + 2, some (if numbers = [] then [['0']] else numbers))
    else if final ∈ finalCharacters then some (parameters.length + 2, none)
    else none
  | ']' :: rest =>
    let title := rest.takeWhile fun character => character ≠ bell && character ≠ escapeCharacter
    match rest.drop title.length with
    | [] => none
    | final :: rest =>
      if final = bell then some (title.length + 2, none)
      else if rest.head? = some '\\' then some (title.length + 3, none)
      else none
  | _ => none

/-- The signals of a text, of which some characters at the beginning are left out. -/
def signalsAfter : (omitted : Nat) → List Char → List Signal
  | _, [] => []
  | omitted + 1, _ :: rest => signalsAfter omitted rest
  | 0, character :: rest =>
    match (if character = escapeCharacter then sequence? rest else none) with
    | none => .shown character :: signalsAfter 0 rest
    | some (length, none) => signalsAfter length rest
    | some (length, some codes) => .styles codes :: signalsAfter length rest

/-- The signals of a text. -/
def signals (text : List Char) : List Signal := signalsAfter 0 text

end StackLowering.Terminal

import StackLowering.Json.Cause

/-!
# Reading JSON texts

A reader takes a text from its front and leaves the rest. A failure is placed by
the rest of the text at that moment and a number of bytes past its beginning, or
is left for the enclosing value to place. Positions count bytes, although texts
are lists of characters.
-/

namespace StackLowering.Json

/-- What became of a reading. -/
inductive Outcome (α : Type) where
  | done (value : α) (rest : List Char)
  /-- A failure `ahead` bytes after the beginning of `rest`, or at its end if that is nearer. -/
  | failed (cause : Cause) (rest : List Char) (ahead : Nat)
  /-- A failure whose place is decided by the enclosing value. -/
  | unplaced (cause : Cause) (rest : List Char)
deriving DecidableEq, Repr

/-- A reader of values. -/
def Reader (α : Type) : Type := List Char → Outcome α

namespace Reader

/-- Reads nothing. -/
def done {α : Type} (value : α) : Reader α := fun text => .done value text

/-- Reads with what was read before. -/
def andThen {α β : Type} (reader : Reader α) (continuation : α → Reader β) : Reader β :=
  fun text =>
    match reader text with
    | .done value rest => continuation value rest
    | .failed cause rest ahead => .failed cause rest ahead
    | .unplaced cause rest => .unplaced cause rest

instance : Monad Reader where
  pure := done
  bind := andThen

/-- Fails at the next byte to be read. -/
def failHere {α : Type} (cause : Cause) : Reader α := fun text => .failed cause text 0

/-- Fails right after the next byte to be read. -/
def failNext {α : Type} (cause : Cause) : Reader α := fun text => .failed cause text 1

/-- Fails at a place that the enclosing value decides. -/
def failUnplaced {α : Type} (cause : Cause) : Reader α := fun text => .unplaced cause text

/-- The next character. -/
def peek : Reader (Option Char) := fun text => .done text.head? text

/-- Takes one character. -/
def skip : Reader Unit := fun text => .done () text.tail

/-- Takes the characters that pass a test, up to the first one that does not. -/
def takeWhile (test : Char → Bool) : Reader (List Char) :=
  fun text => .done (text.takeWhile test) (text.dropWhile test)

/-- Whether a character may stand between the parts of a text. -/
def isSpace (character : Char) : Bool :=
  character == ' ' || character == '\t' || character == '\n' || character == '\r'

/-- Skips blanks and looks at the next character. -/
def next : Reader (Option Char) :=
  fun text => let rest := text.dropWhile isSpace; .done rest.head? rest

/-- Whether a loop goes round again, or ends with a value. -/
inductive Turn (σ α : Type) where
  | again (state : σ)
  | finish (value : α)

/-- Repeats a reader for at most the given number of turns. -/
def turns {σ α : Type} (body : σ → Reader (Turn σ α)) : (count : Nat) → σ → Reader α
  | 0, _ => failHere .endInValue
  | count + 1, state => do
    match ← body state with
    | .again state => turns body count state
    | .finish value => return value

/-- Repeats a reader that takes at least one character in every turn but the last. -/
def loop {σ α : Type} (body : σ → Reader (Turn σ α)) (state : σ) : Reader α :=
  fun text => turns body (text.length + 1) state text

end Reader

/-- A place in a text: lines count from one, columns are the bytes before it in its line. -/
structure Position where
  line : Nat
  column : Nat
deriving DecidableEq, Repr

namespace Position

/-- The place that lies some bytes further on in a text, or at its end if that is nearer. -/
def advance (position : Position) : List Char → Nat → Position
  | [], _ => position
  | character :: rest, bytes =>
    if bytes < character.utf8Size then ⟨position.line, position.column + bytes⟩
    else if character = '\n' then advance ⟨position.line + 1, 0⟩ rest (bytes - 1)
    else
      advance ⟨position.line, position.column + character.utf8Size⟩ rest
        (bytes - character.utf8Size)

/-- The place of a number of bytes from the beginning of a text. -/
def ofBytes (text : List Char) (bytes : Nat) : Position := advance ⟨1, 0⟩ text bytes

end Position

/-- The number of bytes of a text. -/
def byteLength (text : List Char) : Nat :=
  text.foldr (fun character length => character.utf8Size + length) 0

/-- A failure with its place. -/
structure Failure where
  cause : Cause
  position : Position
deriving DecidableEq, Repr

/-- A failure in words. -/
def Failure.text (failure : Failure) : String :=
  failure.cause.text ++ " at line " ++ failure.position.line.repr ++ " column " ++
    failure.position.column.repr

/-- Reads a whole text, after which only blanks may follow. -/
def readAll {α : Type} (reader : Reader α) (text : List Char) : Except Failure α :=
  let whole : Reader α := do
    let value ← reader
    match ← Reader.next with
    | none => return value
    | some _ => Reader.failNext .trailingCharacters
  let placed (cause : Cause) (rest : List Char) (ahead : Nat) : Failure :=
    ⟨cause, Position.ofBytes text (byteLength text - byteLength rest + ahead)⟩
  match whole text with
  | .done value _ => .ok value
  | .failed cause rest ahead => .error (placed cause rest ahead)
  | .unplaced cause rest => .error (placed cause rest 0)

end StackLowering.Json

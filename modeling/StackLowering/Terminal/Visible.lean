/-!
# Visible text

What is left of terminal text when the control sequences and the control
characters are taken out of it, as is done where the output is not a terminal.
Tabs, line breaks and form feeds stay, and end a sequence that they interrupt.
-/

namespace StackLowering.Terminal

/-- Where a text is: outside of control sequences, or in one of some kind. -/
inductive Position where
  | outside
  | escape
  | intermediate
  | parameters
  | title
  | payload
deriving DecidableEq, Repr

/-- Whether a control character stays in visible text. -/
def staysVisible (character : Char) : Bool :=
  character = '\t' || character = '\n' || character = '\x0c' || character = '\r'

/-- Where the character right behind an escape character leads to. -/
def Position.afterEscape (character : Char) : Position :=
  if character.toNat < 0x30 then .intermediate
  else if character = '[' then .parameters
  else if character = ']' then .title
  else if character ∈ ['P', 'X', '^', '_'] then .payload
  else .outside

/-- Where one character leads to inside a control sequence, and whether it is visible. The
sequence goes on up to its final character, whatever stands in between. -/
def Position.inside (position : Position) (character : Char) : Position × Bool :=
  if staysVisible character then (.outside, true)
  else if character.toNat < 0x20 ∨ 0x7F ≤ character.toNat then (position, false)
  else
    match position with
    | .escape => (.afterEscape character, false)
    | .intermediate => (if character.toNat < 0x30 then .intermediate else .outside, false)
    | _ => (if character.toNat < 0x40 then .parameters else .outside, false)

/-- Where one character leads to, and whether it is visible. -/
def Position.take (position : Position) (character : Char) : Position × Bool :=
  if character = '\x18' ∨ character = '\x1a' then (.outside, false)
  else if character = '\x1b' then (.escape, false)
  else
    match position with
    | .outside =>
      (.outside, staysVisible character || 0x20 ≤ character.toNat && character.toNat ≠ 0x7F)
    | .title => (if character = '\x07' then .outside else .title, false)
    | .payload => (.payload, false)
    | .escape | .intermediate | .parameters => position.inside character

/-- The visible characters of a text that follows after a position. -/
def visibleAfter : Position → List Char → List Char
  | _, [] => []
  | position, character :: rest =>
    match position.take character with
    | (next, true) => character :: visibleAfter next rest
    | (next, false) => visibleAfter next rest

/-- The visible part of a text. -/
def visible (text : String) : String := String.ofList (visibleAfter .outside text.toList)

end StackLowering.Terminal

import StackLowering.Terminal.Signal
import StackLowering.Terminal.Style

/-!
# Markup of terminal text

Terminal text as HTML. Every style in effect becomes an element around the
characters that are shown in it, and elements are nested in the order of the
styles. The changes of style between two characters are carried out one by one if
the second character looks different from the first one, and left out otherwise.
In the end elements without content are taken out, but not those that are empty
only then, nor those with a decoration of their own.
-/

namespace StackLowering.Terminal

/-- A character of HTML text. -/
def escapedCharacter : Char → String
  | '&' => "&amp;"
  | '<' => "&lt;"
  | '>' => "&gt;"
  | '\'' => "&#39;"
  | '"' => "&quot;"
  | character => character.toString

namespace Shade

/-- The names of the named colours, and their values where a style sheet does not set them. -/
def palette : List (String × String) :=
  [("black", "#000"), ("red", "#a00"), ("green", "#0a0"), ("yellow", "#a60"), ("blue", "#00a"),
    ("magenta", "#a0a"), ("cyan", "#0aa"), ("white", "#aaa"), ("bright-black", "#555"),
    ("bright-red", "#f55"), ("bright-green", "#5f5"), ("bright-yellow", "#ff5"),
    ("bright-blue", "#55f"), ("bright-magenta", "#f5f"), ("bright-cyan", "#5ff"),
    ("bright-white", "#fff")]

/-- The share of a primary colour on one of the six levels of the colour cube. -/
def level (step : Nat) : Nat := if step = 0 then 0 else 55 + 40 * step

/-- The shares of red, green and blue of a colour with a number from 16 to 255: first a cube of six
levels for every primary colour, then greys. -/
def shares (index : Nat) : List Nat :=
  if index < 232 then
    let place := index - 16
    [level (place / 36), level (place / 6 % 6), level (place % 6)]
  else List.replicate 3 (8 + 10 * (index - 232))

/-- Shares of primary colours in two hexadecimal digits each. -/
def longHexadecimal (shares : List Nat) : String :=
  "#" ++ String.ofList (shares.flatMap fun share =>
    [Nat.digitChar (share / 16), Nat.digitChar (share % 16)])

/-- Shares of primary colours in one hexadecimal digit each, if it stands for two equal ones. -/
def shortHexadecimal (shares : List Nat) : String :=
  if shares.all fun share => share / 16 = share % 16 then
    "#" ++ String.ofList (shares.map fun share => Nat.digitChar (share % 16))
  else longHexadecimal shares

/-- The value of a colour in a style sheet. Colours with a number are written as short as possible,
and mixtures in full. -/
def value : Shade → String
  | .named index =>
    let (name, value) := palette.getD index ("", "")
    "var(--" ++ name ++ "," ++ value ++ ")"
  | .numbered index => shortHexadecimal (shares index)
  | .mixed red green blue => longHexadecimal [red, green, blue]

end Shade

namespace Style

/-- The tag that opens an element with properties of its own. -/
def spanTag (properties : String) : String := "<span style='" ++ properties ++ "'>"

/-- The tag that opens the element of a style inside those of others. Where colours are inverted,
the colour of the text is behind it, and the other way round. -/
def openingTag (outer : List Style) : Style → String
  | .bold => "<b>"
  | .faint => spanTag "opacity:0.67"
  | .italic => "<i>"
  | .underlined => "<u>"
  | .doublyUnderlined => "<u style='text-decoration-style:double'>"
  | .overlined => "<u style='text-decoration:overline'>"
  | .struck => "<s>"
  | .inverted =>
    spanTag ("color:" ++ ((background? outer).getD .black).value ++
      ";background:" ++ ((foreground? outer).getD .brightWhite).value)
  | .foreground shade =>
    spanTag ((if .inverted ∈ outer then "background:" else "color:") ++ shade.value)
  | .background shade =>
    spanTag ((if .inverted ∈ outer then "color:" else "background:") ++ shade.value)

/-- The tag that closes the element of a style. -/
def closingTag : Style → String
  | .bold => "</b>"
  | .italic => "</i>"
  | .underlined | .doublyUnderlined | .overlined => "</u>"
  | .struck => "</s>"
  | .faint | .inverted | .foreground _ | .background _ => "</span>"

/-- Whether the element of a style is kept even if it has no content. -/
def isKeptEmpty : Style → Bool
  | .doublyUnderlined | .overlined => true
  | _ => false

end Style

/-- A piece of markup: a character, or the beginning or end of the element of a style. -/
inductive Piece where
  | content (character : Char)
  | opening (style : Style) (outer : List Style)
  | closing (style : Style)
deriving DecidableEq, Repr

namespace Piece

/-- A piece of markup as text. -/
def text : Piece → String
  | .content character => escapedCharacter character
  | .opening style outer => style.openingTag outer
  | .closing style => style.closingTag

/-- The beginnings of the elements of some styles inside those of others. -/
def openings (outer : List Style) : List Style → List Piece
  | [] => []
  | style :: inner => .opening style outer :: openings (outer ++ [style]) inner

/-- The ends of the elements of some styles. -/
def closings (styles : List Style) : List Piece := styles.reverse.map .closing

/-- The pieces that carry out a change where the elements of some styles are open. To take back a
style, its element is closed with all those inside, and the others are opened again. -/
def ofChange (opened : List Style) : Change → List Piece
  | .reset => closings opened
  | .select style => [.opening style opened]
  | .drop trait =>
    let kept := opened.takeWhile fun style => style.trait ≠ trait
    let affected := opened.dropWhile fun style => style.trait ≠ trait
    closings affected ++ openings kept (affected.filter fun style => style.trait ≠ trait)

/-- The pieces that carry out some changes where the elements of some styles are open. -/
def ofChanges (opened : List Style) : List Change → List Piece
  | [] => []
  | change :: later => ofChange opened change ++ ofChanges (change.apply opened) later

/-- Takes elements without content out of some pieces. -/
def dropEmpty : List Piece → List Piece
  | .opening style outer :: .closing other :: rest =>
    if style.isKeptEmpty then .opening style outer :: .closing other :: dropEmpty rest
    else dropEmpty rest
  | piece :: rest => piece :: dropEmpty rest
  | [] => []

end Piece

/-- Markup in the making: its pieces from the last one to the first, the styles whose elements are
open, and the changes since the last character. -/
structure Draft where
  written : List Piece := []
  opened : List Style := []
  pending : List Change := []
deriving DecidableEq, Repr

namespace Draft

/-- The styles in effect after the pending changes. -/
def selected (draft : Draft) : List Style := draft.pending.foldl Change.apply draft.opened

/-- Takes a character. -/
def takeCharacter (draft : Draft) (character : Char) : Draft :=
  if Style.looksLike draft.opened draft.selected then
    { draft with written := .content character :: draft.written, pending := [] }
  else
    { written := .content character ::
        ((Piece.ofChanges draft.opened draft.pending).reverse ++ draft.written)
      opened := draft.selected }

/-- The numbers that select styles, each of which is below 256. -/
def styleNumbers? (codes : List (List Char)) : Option (List Nat) :=
  codes.mapM fun code => do
    let number := code.foldl (fun value digit => value * 10 + (digit.toNat - '0'.toNat)) 0
    if number < 256 then some number else none

/-- Takes one signal. There is no markup for numbers without a meaning. -/
def take (draft : Draft) : Signal → Option Draft
  | .shown character => some (draft.takeCharacter character)
  | .styles codes => do
    let numbers ← styleNumbers? codes
    let changes ← Change.ofCodes? numbers
    return { draft with pending := draft.pending ++ changes }

/-- The finished markup. -/
def finish (draft : Draft) : String :=
  let pieces := draft.written.reverse ++ Piece.closings draft.opened
  String.join ((Piece.dropEmpty pieces).map Piece.text)

end Draft

/-- Terminal text as HTML, if all its selections of styles have a meaning. -/
def markup? (text : List Char) : Option String := do
  let draft ← (signals text).foldlM Draft.take ({} : Draft)
  return draft.finish

end StackLowering.Terminal

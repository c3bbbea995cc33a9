/-!
# Styles of terminal text

Text on a terminal can be bold, faint, in italics, underlined, overlined, struck
out, inverted and coloured. Styles are selected by numbers, and those in effect
form a list in the order in which they were selected. A style does not replace an
earlier one of its kind in this list: of colours, the last one counts.
-/

namespace StackLowering.Terminal

/-- A colour: one of the sixteen that have a name, another one of the 256 that have a number, or a
mixture of red, green and blue. -/
inductive Shade where
  | named (index : Nat)
  | numbered (index : Nat)
  | mixed (red green blue : Nat)
deriving DecidableEq, Repr

namespace Shade

/-- The colour with a number below 256. -/
def ofIndex (index : Nat) : Shade := if index < 16 then .named index else .numbered index

/-- The darkest of the named colours. -/
def black : Shade := .named 0

/-- The lightest of the named colours. -/
def brightWhite : Shade := .named 15

end Shade

/-- A style of text. -/
inductive Style where
  | bold
  | faint
  | italic
  | underlined
  | doublyUnderlined
  | overlined
  | struck
  | inverted
  | foreground (shade : Shade)
  | background (shade : Shade)
deriving DecidableEq, Repr

/-- What a style affects. Styles that affect the same are taken back together. -/
inductive Trait where
  | intensity
  | slant
  | underline
  | overline
  | strike
  | inversion
  | foreground
  | background
deriving DecidableEq, Repr

namespace Style

/-- What a style affects. -/
def trait : Style → Trait
  | .bold | .faint => .intensity
  | .italic => .slant
  | .underlined | .doublyUnderlined => .underline
  | .overlined => .overline
  | .struck => .strike
  | .inverted => .inversion
  | .foreground _ => .foreground
  | .background _ => .background

/-- The colour of text under some styles. -/
def foreground? (styles : List Style) : Option Shade :=
  styles.reverse.findSome? fun style => match style with
    | .foreground shade => some shade
    | _ => none

/-- The colour behind text under some styles. -/
def background? (styles : List Style) : Option Shade :=
  styles.reverse.findSome? fun style => match style with
    | .background shade => some shade
    | _ => none

/-- The styles that are either in effect or not. -/
def switches : List Style :=
  [.bold, .faint, .italic, .underlined, .doublyUnderlined, .overlined, .struck, .inverted]

/-- Whether text looks the same under two lists of styles: in the same colours, and with the same
switches on. -/
def looksLike (first second : List Style) : Bool :=
  foreground? first = foreground? second && background? first = background? second &&
    switches.all fun style => decide (style ∈ first) == decide (style ∈ second)

end Style

/-- A change of the styles in effect. -/
inductive Change where
  | reset
  | select (style : Style)
  | drop (trait : Trait)
deriving DecidableEq, Repr

namespace Change

/-- The styles in effect after a change. -/
def apply (styles : List Style) : Change → List Style
  | .reset => []
  | .select style => styles ++ [style]
  | .drop trait => styles.filter fun style => style.trait ≠ trait

/-- Whether a number has a meaning that does not show: blinking, hiding, fonts, spacing, frames, the
colour of underlining, side lines, raised and lowered text. -/
def isSilent (code : Nat) : Bool :=
  code ∈ [5, 6, 8, 25, 26, 28, 54] || 10 ≤ code && code ≤ 20 || 50 ≤ code && code ≤ 52 ||
    58 ≤ code && code ≤ 65 || 73 ≤ code && code ≤ 75

/-- The colour that a number stands for, if it is one of a row of eight. -/
def inRow? (first shift code : Nat) : Option Shade :=
  if first ≤ code ∧ code < first + 8 then some (.named (code - first + shift)) else none

/-- The change of colour by a number that names one. -/
def ofColorCode? (code : Nat) : Option Change :=
  let foreground := (inRow? 30 0 code).or (inRow? 90 8 code)
  let background := (inRow? 40 0 code).or (inRow? 100 8 code)
  (foreground.map fun shade => .select (.foreground shade)).or
    (background.map fun shade => .select (.background shade))

/-- The changes that a number other than those that introduce a colour stands for, if it has a
meaning. -/
def ofCode? : Nat → Option (List Change)
  | 0 => some [.reset]
  | 1 => some [.select .bold]
  | 2 => some [.select .faint]
  | 3 => some [.select .italic]
  | 4 => some [.select .underlined]
  | 7 => some [.select .inverted]
  | 9 => some [.select .struck]
  | 21 => some [.select .doublyUnderlined]
  | 22 => some [.drop .intensity]
  | 23 => some [.drop .slant]
  | 24 => some [.drop .underline]
  | 27 => some [.drop .inversion]
  | 29 => some [.drop .strike]
  | 39 => some [.drop .foreground]
  | 49 => some [.drop .background]
  | 53 => some [.select .overlined]
  | 55 => some [.drop .overline]
  | code => if isSilent code then some [] else (ofColorCode? code).map ([·])

/-- The changes that the numbers of one sequence stand for. Behind 38 and 48 stands a colour, as 5
and its number or as 2 and its shares of red, green and blue. If a number has no meaning, the
sequence has none. -/
def ofCodes? : List Nat → Option (List Change)
  | [] => some []
  | code :: rest =>
    if code = 38 ∨ code = 48 then
      let colored (shade : Shade) : Change :=
        .select (if code = 38 then .foreground shade else .background shade)
      match rest with
      | 5 :: index :: rest => (ofCodes? rest).map (colored (.ofIndex index) :: ·)
      | 2 :: red :: green :: blue :: rest =>
        (ofCodes? rest).map (colored (.mixed red green blue) :: ·)
      | _ => none
    else do
      let changes ← ofCode? code
      let later ← ofCodes? rest
      return changes ++ later

end Change

end StackLowering.Terminal

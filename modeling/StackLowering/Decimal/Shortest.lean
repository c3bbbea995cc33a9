import StackLowering.Decimal.Binary64

/-!
# Shortest decimal text

A binary number is written with the fewest decimal digits that read back as it,
and the nearest such digits if there are several. The digits are found grid by
grid: the two neighbours of the number among the decimals with a given number of
digits are tried, for one digit, two digits, and so on.
-/

namespace StackLowering

/-- The number `digits * 10 ^ exponent`. -/
structure Decimal where
  digits : Nat
  exponent : Int
deriving DecidableEq, Repr

namespace Decimal

/-- The value of a decimal as a fraction. -/
def toFraction (decimal : Decimal) : Fraction :=
  Fraction.mul ⟨decimal.digits, 1⟩ (Fraction.power 10 decimal.exponent)

/-- Whether a decimal reads back as a number. -/
def readsAs (decimal : Decimal) (number : Binary64) : Bool :=
  Binary64.round? decimal.toFraction == Binary64.round? number.toFraction

/-- The exponent of the first digit of a fraction that is not zero. -/
def leadingExponent (fraction : Fraction) : Int :=
  let whole := fraction.numerator / fraction.denominator
  if whole ≠ 0 then (whole.repr.length : Int) - 1
  else
    let zeros := (fraction.denominator / fraction.numerator).repr.length - 1
    if fraction.denominator ≤ fraction.numerator * Nat.pow 10 zeros then -zeros else -zeros - 1

/-- A decimal without zeros at the end of its digits, of which there are at most `count`. -/
def trimZeros : (count : Nat) → Decimal → Decimal
  | 0, decimal => decimal
  | count + 1, decimal =>
    if decimal.digits ≠ 0 && decimal.digits % 10 = 0 then
      trimZeros count ⟨decimal.digits / 10, decimal.exponent + 1⟩
    else decimal

/-- The decimal on the grid of an exponent that reads back as a number: the nearer one of the two
neighbours of the number, if both do. -/
def onGrid? (number : Binary64) (exponent : Int) : Option Decimal :=
  let scaled := number.toFraction.div (Fraction.power 10 exponent)
  let lower := scaled.numerator / scaled.denominator
  let below : Decimal := ⟨lower, exponent⟩
  let above : Decimal := ⟨lower + 1, exponent⟩
  let nearer := if scaled.roundHalfEven = lower then below else above
  let farther := if scaled.roundHalfEven = lower then above else below
  if nearer.readsAs number then some nearer
  else if farther.readsAs number then some farther
  else none

/-- The first grid, from the given one towards finer ones, on which a decimal reads back. -/
def search (number : Binary64) (exponent : Int) : (grids : Nat) → Decimal
  | 0 => ⟨0, 0⟩
  | grids + 1 => (onGrid? number exponent).getD (search number (exponent - 1) grids)

/-- The shortest decimal that reads back as a number. Seventeen digits are always enough. -/
def shortest (number : Binary64) : Decimal :=
  if number.significand = 0 then ⟨0, 0⟩
  else trimZeros 20 (search number (leadingExponent number.toFraction) 17)

/-- A text of zeros. -/
def zeros (count : Nat) : String := String.ofList (List.replicate count '0')

/-- The text of an exponent: its sign, also if it is positive, and its digits. -/
def exponentText (exponent : Int) : String :=
  "e" ++ (if exponent < 0 then "-" else "+") ++ exponent.natAbs.repr

/-- The text of a decimal. It is positional, with at least one digit after the point, when the
exponent of its first digit is from -5 to 15, and has an exponent otherwise. -/
def text (decimal : Decimal) : String :=
  let digits := decimal.digits.repr.toList
  let leading : Int := decimal.exponent + digits.length - 1
  if -5 ≤ leading && leading ≤ 15 then
    if leading < 0 then
      "0." ++ zeros (leading.natAbs - 1) ++ String.ofList digits
    else
      let whole := leading.natAbs + 1
      if digits.length ≤ whole then String.ofList digits ++ zeros (whole - digits.length) ++ ".0"
      else String.ofList (digits.take whole) ++ "." ++ String.ofList (digits.drop whole)
  else
    match digits with
    | [] => "0.0"
    | [digit] => digit.toString ++ exponentText leading
    | digit :: rest => digit.toString ++ "." ++ String.ofList rest ++ exponentText leading

end Decimal

/-- The shortest text of a number. -/
def Binary64.text (number : Binary64) : String := (Decimal.shortest number).text

end StackLowering

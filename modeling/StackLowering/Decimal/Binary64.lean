import StackLowering.Fraction

/-!
# Binary floating point numbers

The non-negative finite numbers with a significand of fifty-three bits and an
exponent of at least -1074, as exact fractions of natural numbers. Every
operation computes its exact result and rounds it to the nearest such number, ties
going to an even significand.
-/

namespace StackLowering

/-- The number `significand * 2 ^ exponent`. -/
structure Binary64 where
  significand : Nat
  exponent : Int
deriving DecidableEq, Repr

namespace Binary64

/-- The first significand that needs more than fifty-three bits. -/
def significandLimit : Nat := 9007199254740992

/-- Zero. -/
def zero : Binary64 := ⟨0, 0⟩

/-- The value of a number as a fraction. -/
def toFraction (number : Binary64) : Fraction :=
  Fraction.mul ⟨number.significand, 1⟩ (Fraction.power 2 number.exponent)

/-- The exponent for which the significand of a fraction that is not zero has fifty-three bits,
or the least exponent if it is larger. -/
def exponentFor (fraction : Fraction) : Int :=
  let estimate : Int := (Nat.log2 fraction.numerator : Int) - Nat.log2 fraction.denominator - 53
  let scaled := fraction.div (Fraction.power 2 estimate)
  let exponent :=
    if scaled.numerator < significandLimit * scaled.denominator then estimate else estimate + 1
  max exponent (-1074)

/-- The number next to a fraction, or none if it is too large. -/
def round? (fraction : Fraction) : Option Binary64 :=
  if fraction.numerator = 0 then some zero
  else
    let exponent := exponentFor fraction
    let significand := (fraction.div (Fraction.power 2 exponent)).roundHalfEven
    let rounded : Binary64 :=
      if significand = significandLimit then ⟨significandLimit / 2, exponent + 1⟩
      else ⟨significand, exponent⟩
    if 971 < rounded.exponent then none else some rounded

/-- The largest power of ten that is at most the largest number. -/
def maxPower : Nat := 308

/-- Multiplies a number by a power of ten with a rounded value, or divides it by one, and rounds
the result. The exponent may not be larger than `maxPower` in size. -/
def scaleOnce (number : Binary64) (exponent : Int) : Option Binary64 := do
  let power ← round? ⟨Nat.pow 10 exponent.natAbs, 1⟩
  if exponent < 0 then round? (number.toFraction.div power.toFraction)
  else round? (number.toFraction.mul power.toFraction)

/-- Scales a number by a power of ten, in several divisions if the power is too small for one.
Three of them make any significand of sixty-four bits vanish. -/
def scale (number : Binary64) : (divisions : Nat) → (exponent : Int) → Option Binary64
  | 0, _ => some zero
  | divisions + 1, exponent =>
    if exponent.natAbs ≤ maxPower then number.scaleOnce exponent
    else if number.significand = 0 then some zero
    else if 0 < exponent then none
    else do
      let smaller ← number.scaleOnce (-maxPower)
      smaller.scale divisions (exponent + maxPower)

/-- The value of `significand * 10 ^ exponent`, each factor and the product rounded. -/
def ofDecimal? (significand : Nat) (exponent : Int) : Option Binary64 := do
  let number ← round? ⟨significand, 1⟩
  number.scale 4 exponent

end Binary64

/-- The value of the binary number next to a fraction, and zero if the fraction is too large. -/
def Fraction.nearest (fraction : Fraction) : Fraction :=
  ((Binary64.round? fraction).getD .zero).toFraction

end StackLowering

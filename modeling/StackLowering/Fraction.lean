/-!
# Fractions

Non-negative fractions of natural numbers, not reduced to lowest terms.
-/

namespace StackLowering

/-- A non-negative fraction. -/
structure Fraction where
  numerator : Nat
  denominator : Nat
deriving DecidableEq, Repr

namespace Fraction

/-- The sum of two fractions. -/
def add (first second : Fraction) : Fraction :=
  ⟨first.numerator * second.denominator + second.numerator * first.denominator,
    first.denominator * second.denominator⟩

/-- The product of two fractions. -/
def mul (first second : Fraction) : Fraction :=
  ⟨first.numerator * second.numerator, first.denominator * second.denominator⟩

/-- The quotient of two fractions, the second of which is not zero. -/
def div (first second : Fraction) : Fraction :=
  ⟨first.numerator * second.denominator, first.denominator * second.numerator⟩

/-- A power of a base, which may have a negative exponent. -/
def power (base : Nat) (exponent : Int) : Fraction :=
  if exponent < 0 then ⟨1, Nat.pow base exponent.natAbs⟩ else ⟨Nat.pow base exponent.natAbs, 1⟩

/-- The integer next to a fraction; of two equally near ones the even one. -/
def roundHalfEven (fraction : Fraction) : Nat :=
  let whole := fraction.numerator / fraction.denominator
  let twice := 2 * (fraction.numerator % fraction.denominator)
  if twice < fraction.denominator then whole
  else if fraction.denominator < twice then whole + 1
  else if whole % 2 = 0 then whole
  else whole + 1

/-- Whether one fraction is greater than another one. -/
def exceeds (first second : Fraction) : Bool :=
  second.numerator * first.denominator < first.numerator * second.denominator

end Fraction

end StackLowering

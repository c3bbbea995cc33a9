import StackLowering.Word

/-!
# Computations

The machine computes with a data register, an address register, and the memory
cell at the loaded address. These are all the computations that it has; each is
written in one way only.
-/

namespace StackLowering

/-- What a computation with one operand reads: the data register, the address register, or the
cell at the loaded address. -/
inductive Operand where
  | data
  | address
  | memory
deriving DecidableEq, Repr

/-- What a computation combines with the data register: the address register, or the cell at the
loaded address. -/
inductive Partner where
  | address
  | memory
deriving DecidableEq, Repr

/-- A computation of the machine. -/
inductive Computation where
  | zero
  | one
  | minusOne
  | copy (operand : Operand)
  | complement (operand : Operand)
  | negate (operand : Operand)
  | increment (operand : Operand)
  | decrement (operand : Operand)
  | add (partner : Partner)
  /-- The data register less its partner. -/
  | subtract (partner : Partner)
  /-- The partner less the data register. -/
  | subtractFrom (partner : Partner)
  | and (partner : Partner)
  | or (partner : Partner)
deriving DecidableEq, Repr

/-- The letter of an operand. -/
def Operand.text : Operand → String
  | .data => "D"
  | .address => "A"
  | .memory => "M"

/-- The letter of a partner. -/
def Partner.text : Partner → String
  | .address => "A"
  | .memory => "M"

namespace Computation

/-- How a computation is written. -/
def text : Computation → String
  | .zero => "0"
  | .one => "1"
  | .minusOne => "-1"
  | .copy operand => operand.text
  | .complement operand => "!" ++ operand.text
  | .negate operand => "-" ++ operand.text
  | .increment operand => operand.text ++ "+1"
  | .decrement operand => operand.text ++ "-1"
  | .add partner => "D+" ++ partner.text
  | .subtract partner => "D-" ++ partner.text
  | .subtractFrom partner => partner.text ++ "-D"
  | .and partner => "D&" ++ partner.text
  | .or partner => "D|" ++ partner.text

/-- Every computation. -/
def all : List Computation :=
  [.zero, .one, .minusOne] ++
    [Operand.data, .address, .memory].flatMap (fun operand =>
      [.copy operand, .complement operand, .negate operand, .increment operand,
        .decrement operand]) ++
    [Partner.address, .memory].flatMap fun partner =>
      [.add partner, .subtract partner, .subtractFrom partner, .and partner, .or partner]

/-- The computation with a given text. -/
def ofText? (text : String) : Option Computation :=
  all.find? fun computation => computation.text == text

/-- Every computation is read back from its text. -/
theorem ofText?_text (computation : Computation) :
    ofText? computation.text = some computation := by
  cases computation with
  | zero | one | minusOne => decide
  | copy operand | complement operand | negate operand | increment operand
  | decrement operand => cases operand <;> decide
  | add partner | subtract partner | subtractFrom partner | and partner
  | or partner => cases partner <;> decide

/-- A text that is read as a computation is the text of that computation. -/
theorem text_of_ofText? {text : String} {computation : Computation}
    (found : ofText? text = some computation) : computation.text = text := by
  simpa using List.find?_some found

/-- The value of a computation, from the registers and the cell at the loaded address. -/
def value (computation : Computation) (address data memory : Word) : Word :=
  let operandValue : Operand → Word
    | .data => data
    | .address => address
    | .memory => memory
  let partnerValue : Partner → Word
    | .address => address
    | .memory => memory
  match computation with
  | .zero => 0
  | .one => 1
  | .minusOne => -1
  | .copy operand => operandValue operand
  | .complement operand => ~~~operandValue operand
  | .negate operand => -operandValue operand
  | .increment operand => operandValue operand + 1
  | .decrement operand => operandValue operand - 1
  | .add partner => data + partnerValue partner
  | .subtract partner => data - partnerValue partner
  | .subtractFrom partner => partnerValue partner - data
  | .and partner => data &&& partnerValue partner
  | .or partner => data ||| partnerValue partner

end Computation

end StackLowering

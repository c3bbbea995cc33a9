import StackLowering.Opcode
import StackLowering.Segment
import StackLowering.Span
import StackLowering.Word

/-!
# Faults

A fault is the cause for which a program is refused. Every cause has a number and
falls into one of three categories; the wording is a separate matter.
-/

namespace StackLowering

/-- The causes for which a program is refused. -/
inductive Fault where
  | unexpectedCharacter (found : Option Char)
  | unknownCommand (name : String)
  | operandCount (opcode : Opcode) (expected found : Nat)
  | expectedInteger (found : String)
  | expectedSymbol (found : String)
  | integerOutOfRange (value limit : Nat)
  | invalidSymbol (name : String)
  | unknownSegment (name : String)
  | popConstant
  | addressOutOfRange (segment : Segment) (index : Word)
  | notAPointer (segment : Segment)
  | labelsExhausted
  | reservedSymbol (name : String)
  | invalidUnitName (name : String)
deriving DecidableEq, Repr

/-- Broad classes of faults: malformed text, well-formed commands without code, and a lack of
labels. -/
inductive Fault.Category where
  | parse
  | semantic
  | exhaustion
deriving DecidableEq, Repr

namespace Fault

/-- The category of a fault. -/
def category : Fault → Category
  | .unexpectedCharacter _ | .unknownCommand _ | .operandCount .. | .expectedInteger _
  | .expectedSymbol _ | .integerOutOfRange .. | .invalidSymbol _ | .invalidUnitName _ => .parse
  | .unknownSegment _ | .popConstant | .addressOutOfRange .. | .notAPointer _
  | .reservedSymbol _ => .semantic
  | .labelsExhausted => .exhaustion

/-- The number under which a fault is reported. -/
def code : Fault → Nat
  | .unexpectedCharacter _ => 1
  | .unknownCommand _ => 2
  | .operandCount .. => 3
  | .expectedInteger _ => 4
  | .expectedSymbol _ => 5
  | .integerOutOfRange .. => 6
  | .invalidSymbol _ => 7
  | .unknownSegment _ => 8
  | .popConstant => 9
  | .addressOutOfRange .. => 10
  | .labelsExhausted => 11
  | .notAPointer _ => 12
  | .reservedSymbol _ => 13
  | .invalidUnitName _ => 14

/-- The number of a fault as it is written, with two digits. -/
def codeText (fault : Fault) : String :=
  if fault.code < 10 then "E0" ++ fault.code.repr else "E" ++ fault.code.repr

end Fault

/-- A fault at a place: the unit, the line of the command, and the characters at fault. -/
structure Mishap where
  unit : String
  line : Nat
  fault : Located Fault
deriving DecidableEq, Repr

/-- The mishap of a fault found in a unit's line. -/
def Located.inUnit (fault : Located Fault) (unit : String) (line : Nat) : Mishap :=
  ⟨unit, line, fault⟩

end StackLowering

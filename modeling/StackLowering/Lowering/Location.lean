import StackLowering.Fault
import StackLowering.Target

/-!
# Locations of segment elements

Every element of a segment resolves to a literal, a place relative to a pointer,
a constant address, or the cell of a symbol. Statics are cells named after their
unit, so that units do not share them.
-/

namespace StackLowering

/-- Where an element of a segment is. -/
inductive Location where
  /-- Nowhere in memory: the element is its own value. -/
  | literal (value : Word)
  /-- The given number of cells after the address that a pointer holds. -/
  | indirect (pointer : String) (index : Word)
  /-- At a constant address. -/
  | absolute (address : Word)
  /-- In the cell of a symbol. -/
  | symbol (name : String)
deriving DecidableEq, Repr

namespace Location

/-- The text between the unit and the index in the symbol of a static. -/
def staticMark : String := "_static_"

/-- The symbol of a static variable. -/
def staticSymbol (unit : String) (index : Word) : String := unit ++ staticMark ++ index.text

/-- Whether a symbol has the form of a static variable of a unit, whatever its index. -/
def isStaticSymbol (symbol unit : String) : Bool :=
  match (unit ++ staticMark).toList.isPrefixOf? symbol.toList with
  | none => false
  | some index => !index.isEmpty && index.all Char.isDigit

/-- The location of an element of a segment, for a command of a unit. -/
def resolve (target : Target) (unit : String) (segment : Segment) (index : Word) :
    Except Fault Location :=
  match segment with
  | .constant => .ok (.literal index)
  | .static => .ok (.symbol (staticSymbol unit index))
  | .mapped mapped =>
    match target.addressing mapped with
    | .indirect pointer => .ok (.indirect pointer index)
    | .fixed base =>
      if base.toNat + index.toNat ≤ Word.maxLiteral then .ok (.absolute (base + index))
      else .error (.addressOutOfRange segment index)

end Location

end StackLowering

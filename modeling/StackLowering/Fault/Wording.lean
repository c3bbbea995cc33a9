import StackLowering.Fault
import StackLowering.Report.Phrase
import StackLowering.Text.Nearest

/-!
# The wording of faults

What a report says about a fault: a message, a label for the characters at fault,
and, for some faults, a note on the rule that was broken and a hint at a remedy.
-/

namespace StackLowering.Fault

open Report

/-- An amount of operands. -/
def operandAmount (count : Nat) (color : Color) : Phrase :=
  [.value color count.repr, .words (if count = 1 then " operand" else " operands")]

/-- The message of a fault. -/
def message : Fault → Phrase
  | .unexpectedCharacter (some found) =>
    [.words "Unexpected character ", .value .red found.toString]
  | .unexpectedCharacter none => [.words "Unexpected end of line"]
  | .unknownCommand name => [.words "Command ", .value .red name, .words " isn't defined"]
  | .operandCount opcode expected found =>
    [.words "Incorrect amount of operands for ", .value .brightBlue opcode.name,
      .words ", expected ", .value .brightBlue expected.repr,
      .words " but found ", .value .red found.repr]
  | .expectedInteger found =>
    [.words "Expected a non-negative integer but found ", .value .red found]
  | .expectedSymbol found => [.words "Expected a symbol but found ", .value .red found]
  | .integerOutOfRange value _ =>
    [.words "Value ", .value .red value.repr, .words " is outside of the valid range"]
  | .invalidSymbol name => [.words "Symbol ", .value .red name, .words " isn't valid"]
  | .unknownSegment name => [.words "Segment ", .value .red name, .words " isn't defined"]
  | .popConstant =>
    [.words "Can't pop into the ", .value .red Segment.constant.name, .words " segment"]
  | .addressOutOfRange segment index =>
    [.words "Element ", .value .red index.text, .words " of segment ",
      .value .brightBlue segment.name, .words " is outside of the addressable memory"]
  | .notAPointer segment =>
    [.words "Segment ", .value .red segment.name,
      .words " must be addressed through a pointer in the target"]
  | .labelsExhausted => [.words "Ran out of unique labels"]
  | .reservedSymbol name =>
    [.words "Symbol ", .value .red name, .words " is reserved and can't be declared"]
  | .invalidUnitName name =>
    [.words "Unit name ", .value .red name, .words " isn't a valid symbol"]

/-- The label of the characters at fault. -/
def label : Fault → Phrase
  | .unexpectedCharacter _ => [.words "Unexpected character"]
  | .unknownCommand _ => [.words "Unknown command"]
  | .operandCount _ _ found => .words "This command has " :: operandAmount found .red
  | .expectedInteger _ => [.words "Expected an integer"]
  | .expectedSymbol _ => [.words "Expected a symbol"]
  | .integerOutOfRange value _ =>
    [.words "This integer has value ", .value .red value.repr]
  | .invalidSymbol _ => [.words "Invalid symbol"]
  | .unknownSegment _ => [.words "Unknown segment"]
  | .popConstant => [.words "Can't pop into this segment"]
  | .addressOutOfRange .. => [.words "This element isn't addressable"]
  | .notAPointer _ => [.words "While translating this command"]
  | .labelsExhausted => [.words "While generating labels for this command"]
  | .reservedSymbol _ => [.words "This symbol is already in use"]
  | .invalidUnitName _ => [.words "In this unit"]

/-- A note on the rule that was broken. -/
def note? : Fault → Option String
  | .integerOutOfRange _ limit => some ("Allowed range is [0, " ++ limit.repr ++ "]")
  | .invalidSymbol _ | .invalidUnitName _ =>
    some ("Symbols can contain letters, digits, `_`, `.`, `$` and `:`, " ++
      "and can't start with a digit")
  | .reservedSymbol _ =>
    some ("The stack pointer, segment pointers, scratch cells and static variables " ++
      "can't be used as labels")
  | .popConstant => some "The constant segment is read-only"
  | .notAPointer _ =>
    some ("Function calls save and restore the base addresses of the argument, local, " ++
      "this and that segments")
  | _ => none

/-- Names to choose from: separated by commas when there are more than two, the last one after
the word "or". -/
def alternatives (names : List String) : Phrase :=
  let separator := if names.length > 2 then ", " else " "
  let earlier := names.dropLast.flatMap fun name => [Piece.value .green name, .words separator]
  let last := names.getLast?.toList.map (Piece.value .green)
  if earlier.isEmpty then last else earlier ++ .words "or " :: last

/-- A question after the names that a misspelt one may stand for. -/
def suggestion? (misspelt : String) (names : List String) : Option Phrase :=
  match Text.nearest misspelt names with
  | [] => none
  | near => some (.words "Did you mean " :: alternatives near ++ [.words "?"])

/-- A hint at a remedy. -/
def hint? : Fault → Option Phrase
  | .unknownCommand name => suggestion? name (Opcode.all.map Opcode.name)
  | .unknownSegment name => suggestion? name (Segment.all.map Segment.name)
  | .operandCount _ expected found =>
    if expected > found then
      some (.words "Consider adding the missing " :: operandAmount (expected - found) .green)
    else some (.words "Consider removing the extra " :: operandAmount (found - expected) .green)
  | _ => none

end StackLowering.Fault

/-- The one-line text of a mishap. -/
def StackLowering.Mishap.text (mishap : StackLowering.Mishap) : String :=
  mishap.unit ++ ":" ++ mishap.line.repr ++ ": error[" ++ mishap.fault.value.codeText ++ "]: " ++
    mishap.fault.value.message.text

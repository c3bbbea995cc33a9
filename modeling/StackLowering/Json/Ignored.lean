import StackLowering.Json.Scalar

/-!
# Ignored values

The values of unknown keys are checked to be well formed and then forgotten. The
lists and objects that are open at a moment are kept in a stack, so that values
may be nested without limit.
-/

namespace StackLowering.Json.Reader

/-- A list or an object that has not been closed yet. -/
inductive Frame where
  | list
  | object
deriving DecidableEq, Repr

namespace Frame

/-- The bracket that closes a frame. -/
def closing : Frame → Char
  | .list => ']'
  | .object => '\x7d'

/-- The failure of a text that ends inside a frame. -/
def endCause : Frame → Cause
  | .list => .endInList
  | .object => .endInObject

/-- The failure of an element that is followed by neither a comma nor the closing bracket. -/
def separatorCause : Frame → Cause
  | .list => .expectedListEnd
  | .object => .expectedObjectEnd

end Frame

/-- Checks an exponent after its mark. -/
def anyExponent : Reader Unit := do
  let sign ← peek
  if sign = some '+' || sign = some '-' then skip
  match ← peek with
  | none => failHere .invalidNumber
  | some digit =>
    if digit.isDigit then
      let _ ← takeWhile Char.isDigit
      return ()
    else failNext .invalidNumber

/-- Checks an exponent if there is one. -/
def anyExponent? : Reader Unit := do
  let mark ← peek
  if mark = some 'e' || mark = some 'E' then
    skip
    anyExponent

/-- Checks a number after its sign. -/
def anyNumber : Reader Unit := do
  match ← peek with
  | none => failHere .invalidNumber
  | some first =>
    if !first.isDigit then failNext .invalidNumber
    else
      skip
      let more ← takeWhile fun character => first != '0' && character.isDigit
      let following ← peek
      if more.isEmpty && first == '0' && following.any Char.isDigit then failNext .invalidNumber
      else if following = some '.' then
        skip
        let digits ← takeWhile Char.isDigit
        if digits.isEmpty then failNext .invalidNumber else anyExponent?
      else anyExponent?

/-- Checks a colon between a key and its value. -/
def colon : Reader Unit := do
  match ← next with
  | some ':' => skip
  | some _ => failNext .expectedColon
  | none => failNext .endInObject

/-- Checks the key of an object's member and the colon after it. -/
def anyKey : Reader Unit := do
  match ← next with
  | some '"' =>
    skip
    anyString
    colon
  | some _ => failNext .keyNotString
  | none => failNext .endInObject

/-- Checks the key of the next element of a frame, if it has one. -/
def beginElement (frame : Frame) : Reader Unit :=
  match frame with
  | .list => return ()
  | .object => anyKey

/-- Where the checking of a value stands: whether a value or the rest of the innermost frame comes
next, and whether that rest may begin with a comma. -/
inductive Expectation where
  | value
  | rest (afterElement : Bool)

/-- One step of checking a value: a scalar, an opening bracket, or what follows an element. -/
def ignoreTurn (state : Expectation × List Frame) :
    Reader (Turn (Expectation × List Frame) Unit) := do
  match state with
  | (.value, frames) =>
    let closed : Turn (Expectation × List Frame) Unit := .again (.rest true, frames)
    match ← next with
    | none => failNext .endInValue
    | some 'n' =>
      skip
      literal "ull".toList
      return closed
    | some 't' =>
      skip
      literal "rue".toList
      return closed
    | some 'f' =>
      skip
      literal "alse".toList
      return closed
    | some '-' =>
      skip
      anyNumber
      return closed
    | some '"' =>
      skip
      anyString
      return closed
    | some '[' =>
      skip
      return .again (.rest false, .list :: frames)
    | some '\x7b' =>
      skip
      return .again (.rest false, .object :: frames)
    | some character =>
      if character.isDigit then
        anyNumber
        return closed
      else failNext .expectedValue
  | (.rest _, []) => return .finish ()
  | (.rest afterElement, frame :: frames) =>
    match ← next with
    | none => failNext frame.endCause
    | some character =>
      if character = ',' && afterElement then
        skip
        beginElement frame
        return .again (.value, frame :: frames)
      else if character = frame.closing then
        skip
        return .again (.rest true, frames)
      else if afterElement then failNext frame.separatorCause
      else
        beginElement frame
        return .again (.value, frame :: frames)

/-- Checks a value and forgets it. Every step takes a character, except those that begin the first
element of a frame and the last one. -/
def ignored : Reader Unit := fun text =>
  turns ignoreTurn (2 * text.length + 2) (.value, []) text

end StackLowering.Json.Reader

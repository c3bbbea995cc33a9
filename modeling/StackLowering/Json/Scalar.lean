import StackLowering.Decimal.Shortest
import StackLowering.Json.Reading

/-!
# Strings, numbers and literals

Readers for the values that have no parts. Integers with more than sixty-four bits
and numbers with a fraction or an exponent are floating point numbers.
-/

namespace StackLowering.Json

/-- The content of a string, and whether it was written with escapes. -/
structure Quoted where
  content : List Char
  escaped : Bool
deriving DecidableEq, Repr

/-- A number. -/
inductive Number where
  | integer (value : Int)
  | float (negative : Bool) (magnitude : Binary64)
deriving DecidableEq, Repr

/-- What a number is called in a failure. -/
def Number.found : Number → Found
  | .integer value => .integer value
  | .float negative magnitude => .float ((if negative then "-" else "") ++ magnitude.text)

namespace Reader

/-- The value of a hexadecimal digit. -/
def hexDigit? (character : Char) : Option Nat :=
  if character.isDigit then some (character.toNat - '0'.toNat)
  else if 'a' ≤ character && character ≤ 'f' then some (character.toNat - 'a'.toNat + 10)
  else if 'A' ≤ character && character ≤ 'F' then some (character.toNat - 'A'.toNat + 10)
  else none

/-- The value of four hexadecimal digits. -/
def hexUnit? (characters : List Char) : Option Nat := do
  let digits ← characters.mapM hexDigit?
  guard (digits.length = 4)
  return digits.foldl (fun value digit => 16 * value + digit) 0

/-- Reads the four digits of an escape. They take four bytes even if they are no digits. -/
def hexUnit : Reader Nat := fun text =>
  match hexUnit? (text.take 4) with
  | some unit => .done unit (text.drop 4)
  | none =>
    if 4 ≤ byteLength text then .failed .invalidEscape text 4
    else .failed .endInString [] 0

/-- Takes a character of the second half of a surrogate pair. -/
def expectSurrogate (expected : Char) : Reader Unit := do
  match ← peek with
  | none => failHere .endInString
  | some character => if character = expected then skip else failNext .brokenSurrogate

/-- Reads the escape of a code point, which takes two units if it does not fit into one. -/
def codePoint : Reader Char := do
  let unit ← hexUnit
  if 0xDC00 ≤ unit && unit ≤ 0xDFFF then failHere .loneSurrogate
  else if 0xD800 ≤ unit && unit ≤ 0xDBFF then
    expectSurrogate '\\'
    expectSurrogate 'u'
    let low ← hexUnit
    if 0xDC00 ≤ low && low ≤ 0xDFFF then
      return Char.ofNat (0x10000 + (unit - 0xD800) * 0x400 + (low - 0xDC00))
    else failHere .loneSurrogate
  else return Char.ofNat unit

/-- The character of an escape with a letter. -/
def shortEscape? : Char → Option Char
  | '"' => some '"'
  | '\\' => some '\\'
  | '/' => some '/'
  | 'b' => some '\x08'
  | 'f' => some '\x0c'
  | 'n' => some '\n'
  | 'r' => some '\r'
  | 't' => some '\t'
  | _ => none

/-- Reads an escape after its backslash, with a reader for escapes of code points. -/
def escape (code : Reader Char) : Reader Char := do
  match ← peek with
  | none => failHere .endInString
  | some letter =>
    if letter = 'u' then
      skip
      code
    else match shortEscape? letter with
      | some character =>
        skip
        return character
      | none => failNext .invalidEscape

/-- One character of a string; the content so far is kept in reverse. -/
def stringTurn (code : Reader Char) (control : Reader (Turn Quoted Quoted)) (read : Quoted) :
    Reader (Turn Quoted Quoted) := do
  match ← peek with
  | none => failHere .endInString
  | some '"' =>
    skip
    return .finish ⟨read.content.reverse, read.escaped⟩
  | some '\\' =>
    skip
    let character ← escape code
    return .again ⟨character :: read.content, true⟩
  | some character =>
    if character.toNat < 0x20 then control
    else
      skip
      return .again ⟨character :: read.content, read.escaped⟩

/-- Reads a string after its opening quote. -/
def string : Reader Quoted :=
  loop (stringTurn codePoint (failNext .controlCharacter)) ⟨[], false⟩

/-- Reads a string whose content does not matter, so that surrogates need not be paired. -/
def anyString : Reader Unit := do
  let code : Reader Char := do
    let _ ← hexUnit
    return ' '
  let _ ← loop (stringTurn code (failHere .controlCharacter)) ⟨[], false⟩
  return ()

/-- Reads the rest of a literal after its first letter. -/
def literal : List Char → Reader Unit
  | [] => return ()
  | letter :: letters => do
    match ← peek with
    | none => failHere .endInValue
    | some character =>
      if character = letter then
        skip
        literal letters
      else failNext .expectedLiteral

/-- The largest significand of a number that is not an integer, and the largest integer. -/
def maxSignificand : Nat := 18446744073709551615

/-- The largest exponent that is read digit by digit. -/
def maxExponent : Nat := 2147483647

/-- Appends digits to a value while it stays within a limit; gives the value and the digits that
are left over. -/
def absorb (limit : Nat) (value : Nat) : List Char → Nat × List Char
  | [] => (value, [])
  | digit :: digits =>
    let longer := 10 * value + (digit.toNat - '0'.toNat)
    if longer ≤ limit then absorb limit longer digits else (value, digit :: digits)

/-- The floating point number of a significand and a power of ten. -/
def float (negative : Bool) (significand : Nat) (exponent : Int) : Reader Number :=
  match Binary64.ofDecimal? significand exponent with
  | some magnitude => return .float negative magnitude
  | none => failHere .numberOutOfRange

/-- Reads the digits of an exponent. Digits past the largest exponent end the number, unless they
make it vanish. -/
def exponentDigits (negative : Bool) (significand : Nat) (start : Int) (down : Bool) :
    Reader Number := fun text =>
  let digits := text.takeWhile Char.isDigit
  let rest := text.dropWhile Char.isDigit
  let (exponent, unread) := absorb maxExponent 0 digits
  match unread with
  | [] => float negative significand (if down then start - exponent else start + exponent) rest
  | _ :: later =>
    if significand = 0 || down then .done (.float negative .zero) rest
    else .failed .numberOutOfRange (later ++ rest) 0

/-- Reads an exponent after its mark. -/
def exponent (negative : Bool) (significand : Nat) (start : Int) : Reader Number := do
  let sign ← peek
  if sign = some '+' || sign = some '-' then skip
  match ← peek with
  | none => failHere .endInValue
  | some digit =>
    if digit.isDigit then exponentDigits negative significand start (sign = some '-')
    else failNext .invalidNumber

/-- Reads an exponent if there is one. -/
def afterDigits (negative : Bool) (significand : Nat) (power : Int) : Reader Number := do
  let mark ← peek
  if mark = some 'e' || mark = some 'E' then
    skip
    exponent negative significand power
  else float negative significand power

/-- Reads a fraction after its point. -/
def fraction (negative : Bool) (significand : Nat) (power : Int) : Reader Number := do
  let digits ← takeWhile Char.isDigit
  if digits.isEmpty then
    match ← peek with
    | none => failNext .endInValue
    | some _ => failNext .invalidNumber
  else
    let (significand, unread) := absorb maxSignificand significand digits
    afterDigits negative significand (power - (digits.length - unread.length : Nat))

/-- The size of the least integer. -/
def minimumSize : Nat := 9223372036854775808

/-- Reads what follows the digits of an integer. -/
def afterInteger (negative : Bool) (significand : Nat) (unread : List Char) : Reader Number := do
  let mark ← peek
  if mark = some '.' then
    skip
    fraction negative significand unread.length
  else if mark = some 'e' || mark = some 'E' || !unread.isEmpty then
    afterDigits negative significand unread.length
  else if !negative then return .integer significand
  else if significand = 0 || minimumSize < significand then float true significand 0
  else return .integer (-significand)

/-- Reads a number after its sign. -/
def number (negative : Bool) : Reader Number := do
  match ← peek with
  | none => failHere .endInValue
  | some '0' =>
    skip
    match ← peek with
    | some digit =>
      if digit.isDigit then failNext .invalidNumber else afterInteger negative 0 []
    | none => afterInteger negative 0 []
  | some digit =>
    if digit.isDigit then
      let digits ← takeWhile Char.isDigit
      let (significand, unread) := absorb maxSignificand 0 digits
      afterInteger negative significand unread
    else failNext .invalidNumber

/-- Fails because a value is not of the expected type. The value is read first, unless it is a
list or an object. -/
def misfit {α : Type} (expected : String) : Reader α := do
  let fail (found : Found) : Reader α := failHere (.invalidType found expected)
  match ← peek with
  | some 'n' =>
    skip
    literal "ull".toList
    fail .null
  | some 't' =>
    skip
    literal "rue".toList
    fail (.boolean true)
  | some 'f' =>
    skip
    literal "alse".toList
    fail (.boolean false)
  | some '-' =>
    skip
    fail (← number true).found
  | some '"' =>
    skip
    fail (.string (← string).content)
  | some '[' => fail .sequence
  | some '\x7b' => fail .map
  | some character => if character.isDigit then fail (← number false).found else failNext .expectedValue
  | none => failNext .expectedValue

/-- Reads a text that is written without escapes. -/
def text : Reader String := do
  let expected := "a borrowed string"
  match ← next with
  | none => failNext .endInValue
  | some '"' =>
    skip
    let quoted ← string
    if quoted.escaped then failHere (.invalidType (.string quoted.content) expected)
    else return String.ofList quoted.content
  | some _ => misfit expected

/-- Reads a word of sixteen bits. -/
def word : Reader (BitVec 16) := do
  let expected := "u16"
  let fit (number : Number) : Reader (BitVec 16) :=
    match number with
    | .integer value =>
      if 0 ≤ value && value < 65536 then return BitVec.ofInt 16 value
      else failHere (.invalidValue number.found expected)
    | .float .. => failHere (.invalidType number.found expected)
  match ← next with
  | none => failNext .endInValue
  | some '-' =>
    skip
    fit (← number true)
  | some character => if character.isDigit then fit (← number false) else misfit expected

end Reader

end StackLowering.Json

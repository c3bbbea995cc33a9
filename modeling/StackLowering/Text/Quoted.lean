import StackLowering.Text.Extender
import StackLowering.Text.Printable

/-!
# Quoted text

Text in double quotes, with an escape for every character that could not be told
from the quotes or could not be seen.
-/

namespace StackLowering.Text

/-- The code point of a character in hexadecimal digits. -/
def hexadecimal (character : Char) : String := String.ofList (Nat.toDigits 16 character.toNat)

/-- The escape that names a character by its code point. -/
def codePointEscape (character : Char) : String :=
  "\\u\x7b" ++ hexadecimal character ++ "\x7d"

/-- How a character is written between quotes. -/
def quotedCharacter (character : Char) : String :=
  match character with
  | '\x00' => "\\0"
  | '\t' => "\\t"
  | '\r' => "\\r"
  | '\n' => "\\n"
  | '"' => "\\\""
  | '\\' => "\\\\"
  | _ =>
    if isExtender character || !isPrintable character then codePointEscape character
    else character.toString

/-- A text in quotes. -/
def quoted (text : List Char) : String := "\"" ++ String.join (text.map quotedCharacter) ++ "\""

end StackLowering.Text

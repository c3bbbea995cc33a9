/-!
# JSON values

Values to be written as indented JSON text, with one member or element a line.
Strings in them are free of characters that would need an escape, and numbers are
given as they are written.
-/

namespace StackLowering.Json

/-- A JSON value. -/
inductive Value where
  | string (content : String)
  | number (text : String)
  | boolean (value : Bool)
  | list (elements : List Value)
  | object (members : List (String × Value))

namespace Value

/-- A string in quotes. -/
def inQuotes (content : String) : String := "\"" ++ content ++ "\""

/-- The beginning of a line at a depth. -/
def indent (depth : Nat) : String := String.ofList (List.replicate (2 * depth) ' ')

/-- Lines between an opening and a closing bracket. -/
def bracketed (opening closing : String) (depth : Nat) (lines : List String) : String :=
  opening ++ "\n" ++ ",\n".intercalate (lines.map (indent (depth + 1) ++ ·)) ++ "\n" ++
    indent depth ++ closing

mutual

/-- The text of a value at a depth. -/
def render (depth : Nat) : Value → String
  | .string content => inQuotes content
  | .number text => text
  | .boolean value => if value then "true" else "false"
  | .list elements => bracketed "[" "]" depth (renderElements (depth + 1) elements)
  | .object members => bracketed "\x7b" "\x7d" depth (renderMembers (depth + 1) members)

/-- The texts of some elements at a depth. -/
def renderElements (depth : Nat) : List Value → List String
  | [] => []
  | value :: rest => value.render depth :: renderElements depth rest

/-- The texts of some members at a depth. -/
def renderMembers (depth : Nat) : List (String × Value) → List String
  | [] => []
  | (key, value) :: rest =>
    (inQuotes key ++ ": " ++ value.render depth) :: renderMembers depth rest

end

end Value

end StackLowering.Json

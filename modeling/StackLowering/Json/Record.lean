import StackLowering.Json.Ignored

/-!
# Records

A record is written as an object with a member for each field, in any order and
among others that are ignored, or as a list of its fields in order. While it is
being read, a draft holds the fields found so far.
-/

namespace StackLowering.Json

/-- A field of a record: its key, whether a draft has it, and the reader that adds it to one. -/
structure Field (draft : Type) where
  name : String
  isSet : draft → Bool
  read : Reader (draft → draft)

/-- A record: its name in failures, the draft without fields, the fields in their order, and what
a draft amounts to, or the first field that it lacks. -/
structure Shape (draft α : Type) where
  title : String
  empty : draft
  fields : List (Field draft)
  build : draft → Except String α

/-- The field that a draft keeps in one of its places. -/
def field {draft α : Type} (name : String) (get : draft → Option α)
    (set : Option α → draft → draft) (reader : Reader α) : Field draft where
  name := name
  isSet current := (get current).isSome
  read := do
    let value ← reader
    return set (some value)

/-- A field of a draft that must not be missing. -/
def required {α : Type} (name : String) : Option α → Except String α
  | some value => .ok value
  | none => .error name

namespace Reader

/-- Completes a draft. -/
def complete {draft α : Type} (shape : Shape draft α) (current : draft) : Reader α :=
  match shape.build current with
  | .ok value => return value
  | .error name => failUnplaced (.missingField name)

/-- Reads a member after the quote of its key. -/
def member {draft α : Type} (shape : Shape draft α) (current : draft) : Reader draft := do
  skip
  let key := String.ofList (← string).content
  match shape.fields.find? fun field => field.name == key with
  | none =>
    colon
    ignored
    return current
  | some field =>
    if field.isSet current then failUnplaced (.duplicateField key)
    else
      colon
      let set ← field.read
      return set current

/-- Reads a member, or finds that there is none left. The state is whether a comma has to come
first, and the draft. -/
def memberTurn {draft α : Type} (shape : Shape draft α) (state : Bool × draft) :
    Reader (Turn (Bool × draft) α) := do
  let (later, current) := state
  match ← next with
  | none => failNext .endInObject
  | some '\x7d' => return .finish (← complete shape current)
  | some character =>
    if later then
      if character = ',' then
        skip
        match ← next with
        | some '"' => return .again (true, ← member shape current)
        | some '\x7d' => failNext .trailingComma
        | some _ => failNext .keyNotString
        | none => failNext .endInValue
      else failNext .expectedObjectEnd
    else if character = '"' then return .again (true, ← member shape current)
    else failNext .keyNotString

/-- Reads the members of a record after its opening brace, up to the closing one. -/
def members {draft α : Type} (shape : Shape draft α) : Reader α :=
  loop (memberTurn shape) (false, shape.empty)

/-- Reads what has to stand before the element with the given index. -/
def beforeElement {draft α : Type} (shape : Shape draft α) (index : Nat) : Reader Unit := do
  match ← next with
  | none => failNext .endInList
  | some ']' => failUnplaced (.invalidLength index shape.title shape.fields.length)
  | some character =>
    if index = 0 then return ()
    else if character = ',' then
      skip
      match ← next with
      | some ']' => failNext .trailingComma
      | some _ => return ()
      | none => failNext .endInValue
    else failNext .expectedListEnd

/-- Reads some of the fields of a record as elements, the first of which has the given index. -/
def elements {draft α : Type} (shape : Shape draft α) (index : Nat) (current : draft) :
    List (Field draft) → Reader α
  | [] => complete shape current
  | field :: fields => do
    beforeElement shape index
    let set ← field.read
    elements shape (index + 1) (set current) fields

/-- Takes the brace that closes an object. -/
def endObject : Reader Unit := do
  match ← next with
  | some '\x7d' => skip
  | some ',' => failNext .trailingComma
  | some _ => failNext .trailingCharacters
  | none => failNext .endInObject

/-- Takes the bracket that closes a list. -/
def endList : Reader Unit := do
  match ← next with
  | some ']' => skip
  | some ',' =>
    skip
    match ← next with
    | some ']' => failNext .trailingComma
    | _ => failNext .trailingCharacters
  | some _ => failNext .trailingCharacters
  | none => failNext .endInList

/-- Reads to the end of a value with parts. A failure without a place gets the one that is left
after trying to close the value. -/
def closed {α : Type} (content : Reader α) (close : Reader Unit) : Reader α := fun text =>
  match content text with
  | .done value rest => (close.andThen fun _ => done value) rest
  | .failed cause rest ahead => .failed cause rest ahead
  | .unplaced cause rest =>
    match close rest with
    | .done _ rest | .failed _ rest _ | .unplaced _ rest => .failed cause rest 0

/-- Reads a record. -/
def record {draft α : Type} (shape : Shape draft α) : Reader α := do
  match ← next with
  | none => failNext .endInValue
  | some '\x7b' =>
    skip
    closed (members shape) endObject
  | some '[' =>
    skip
    closed (elements shape 0 shape.empty shape.fields) endList
  | some _ => misfit ("struct " ++ shape.title)

end Reader

end StackLowering.Json

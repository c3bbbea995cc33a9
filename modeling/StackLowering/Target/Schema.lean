import StackLowering.Json.Value

/-!
# Schema of target descriptions

The JSON schema that target descriptions follow, with a sentence about each part.
-/

namespace StackLowering.Target.Schema

open Json (Value)

/-- A type by its name. -/
def ofType (name : String) : String × Value := ("type", .string name)

/-- A sentence about a part. -/
def described (sentence : String) : String × Value := ("description", .string sentence)

/-- The keys that must not be missing. -/
def requires (keys : List String) : String × Value := ("required", .list (keys.map .string))

/-- The schema of a text. -/
def text (sentence : String) : Value := .object [described sentence, ofType "string"]

/-- The members that describe a word of sixteen bits. -/
def word : List (String × Value) :=
  [ofType "integer", ("format", .string "uint16"), ("minimum", .number "0.0")]

/-- The schema of a part that is defined elsewhere. -/
def reference (name : String) : Value := .object [("$ref", .string ("#/definitions/" ++ name))]

/-- The schema of a part that is defined elsewhere, with a sentence about it. -/
def describedReference (sentence name : String) : Value :=
  .object [described sentence, ("allOf", .list [reference name])]

/-- The schema of a record. -/
def record (sentence : String) (fields : List (String × Value)) : Value :=
  .object [described sentence, ofType "object", requires (fields.map Prod.fst),
    ("properties", .object fields)]

/-- The schema of one way of addressing. -/
def variant (sentence name : String) (content : List (String × Value)) : Value :=
  .object [described sentence, ofType "object", requires [name],
    ("properties", .object [(name, .object content)]),
    ("additionalProperties", .boolean false)]

/-- The schema of addressing. -/
def addressing : Value :=
  .object
    [described "Way of computing the effective address of a segment element",
      ("oneOf", .list
        [variant ("The base address is stored in the memory cell with the given symbol: " ++
            "`address = *pointer + index`") "indirect" [ofType "string"],
          variant "The base address is a constant: `address = base + index`" "fixed" word])]

/-- The schema of the start of a program. -/
def bootstrap : Value :=
  record "Startup code configuration"
    [("entry", text "Function called at startup"),
      ("stack_base", .object (described "Initial value of the stack pointer" :: word))]

/-- The schema of the scratch cells. -/
def scratch : Value :=
  record "Temporary memory cells"
    [("frame", text ("Cell holding the frame base during a function return, " ++
        "and the target address of indirect pops")),
      ("return_address", text "Cell holding the return address during a function return")]

/-- The schema of the segment table. -/
def segments : Value :=
  record "Segment addressing table"
    (["argument", "local", "pointer", "temp", "that", "this"].map fun name =>
      (name, reference "Addressing"))

/-- The parts of a target description. -/
def properties : List (String × Value) :=
  [("bootstrap", describedReference "Program startup configuration" "Bootstrap"),
    ("name", text "Name of the target machine"),
    ("scratch", describedReference
      "Memory cells free to be used as temporary storage by the generated code" "Scratch"),
    ("segments", describedReference "Addressing mode of each addressable memory segment"
      "Segments"),
    ("stack_pointer", text "Symbol of the memory cell holding the stack pointer")]

/-- The schema of target descriptions. -/
def value : Value :=
  .object
    [("$schema", .string "http://json-schema.org/draft-07/schema#"),
      ("title", .string "Target"),
      described "Target machine description",
      ofType "object",
      requires (properties.map Prod.fst),
      ("properties", .object properties),
      ("definitions", .object
        [("Addressing", addressing), ("Bootstrap", bootstrap), ("Scratch", scratch),
          ("Segments", segments)])]

/-- The text of the schema. -/
def schemaText : String := value.render 0

end StackLowering.Target.Schema

import StackLowering.Json.Record
import StackLowering.Target

/-!
# Reading target descriptions

A target is described by a JSON record. The reader makes one pass over the text,
and its first failure is the outcome.
-/

namespace StackLowering

open Json

/-- The fields of a segment table found so far. -/
structure SegmentTable.Draft where
  argument : Option Addressing := none
  locals : Option Addressing := none
  this : Option Addressing := none
  that : Option Addressing := none
  pointer : Option Addressing := none
  temp : Option Addressing := none

/-- The fields of the scratch cells found so far. -/
structure Scratch.Draft where
  frame : Option String := none
  returnAddress : Option String := none

/-- The fields of a start found so far. -/
structure Bootstrap.Draft where
  stackBase : Option Word := none
  entry : Option String := none

/-- The fields of a target found so far. -/
structure Target.Draft where
  name : Option String := none
  stackPointer : Option String := none
  segments : Option SegmentTable := none
  scratch : Option Scratch := none
  bootstrap : Option Bootstrap := none

namespace Addressing

/-- The ways of addressing, by name. -/
def variants : List (String × Reader Addressing) :=
  [("indirect", do return .indirect (← Reader.text)), ("fixed", do return .fixed (← Reader.word))]

/-- Reads the name of a way of addressing after its opening quote. -/
def variant : Reader (Reader Addressing) := do
  Reader.skip
  let name := String.ofList (← Reader.string).content
  match variants.lookup name with
  | some reader => return reader
  | none => Reader.failHere (.unknownVariant name (variants.map Prod.fst))

/-- Reads the one member of an object: a way of addressing and its value. -/
def variantObject : Reader Addressing := do
  match ← Reader.next with
  | none => Reader.failNext .endInObject
  | some '\x7d' => Reader.failNext .expectedValue
  | some '"' =>
    let reader ← variant
    Reader.colon
    let addressing ← reader
    match ← Reader.next with
    | some '\x7d' =>
      Reader.skip
      return addressing
    | some _ => Reader.failHere .expectedValue
    | none => Reader.failHere .endInObject
  | some _ => Reader.failNext .keyNotString

/-- Reads a way of addressing. -/
def reader : Reader Addressing := do
  match ← Reader.next with
  | none => Reader.failNext .endInValue
  | some '\x7b' =>
    Reader.skip
    variantObject
  | some '"' =>
    let _ ← variant
    Reader.failUnplaced (.invalidType .unitVariant "newtype variant")
  | some _ => Reader.failNext .expectedValue

end Addressing

/-- How segment tables are described. -/
def SegmentTable.shape : Shape SegmentTable.Draft SegmentTable where
  title := "Segments"
  empty := {}
  fields :=
    [field "argument" (·.argument) (fun value draft => { draft with argument := value })
        Addressing.reader,
      field "local" (·.locals) (fun value draft => { draft with locals := value })
        Addressing.reader,
      field "this" (·.this) (fun value draft => { draft with this := value })
        Addressing.reader,
      field "that" (·.that) (fun value draft => { draft with that := value })
        Addressing.reader,
      field "pointer" (·.pointer) (fun value draft => { draft with pointer := value })
        Addressing.reader,
      field "temp" (·.temp) (fun value draft => { draft with temp := value })
        Addressing.reader]
  build draft := do
    let argument ← required "argument" draft.argument
    let locals ← required "local" draft.locals
    let this ← required "this" draft.this
    let that ← required "that" draft.that
    let pointer ← required "pointer" draft.pointer
    let temp ← required "temp" draft.temp
    return ⟨argument, locals, this, that, pointer, temp⟩

/-- How scratch cells are described. -/
def Scratch.shape : Shape Scratch.Draft Scratch where
  title := "Scratch"
  empty := {}
  fields :=
    [field "frame" (·.frame) (fun value draft => { draft with frame := value }) Reader.text,
      field "return_address" (·.returnAddress)
        (fun value draft => { draft with returnAddress := value }) Reader.text]
  build draft := do
    let frame ← required "frame" draft.frame
    let returnAddress ← required "return_address" draft.returnAddress
    return ⟨frame, returnAddress⟩

/-- How the start of a program is described. -/
def Bootstrap.shape : Shape Bootstrap.Draft Bootstrap where
  title := "Bootstrap"
  empty := {}
  fields :=
    [field "stack_base" (·.stackBase) (fun value draft => { draft with stackBase := value })
        Reader.word,
      field "entry" (·.entry) (fun value draft => { draft with entry := value }) Reader.text]
  build draft := do
    let stackBase ← required "stack_base" draft.stackBase
    let entry ← required "entry" draft.entry
    return ⟨stackBase, entry⟩

/-- How targets are described. -/
def Target.shape : Shape Target.Draft Target where
  title := "Target"
  empty := {}
  fields :=
    [field "name" (·.name) (fun value draft => { draft with name := value }) Reader.text,
      field "stack_pointer" (·.stackPointer)
        (fun value draft => { draft with stackPointer := value }) Reader.text,
      field "segments" (·.segments) (fun value draft => { draft with segments := value })
        (Reader.record SegmentTable.shape),
      field "scratch" (·.scratch) (fun value draft => { draft with scratch := value })
        (Reader.record Scratch.shape),
      field "bootstrap" (·.bootstrap) (fun value draft => { draft with bootstrap := value })
        (Reader.record Bootstrap.shape)]
  build draft := do
    let name ← required "name" draft.name
    let stackPointer ← required "stack_pointer" draft.stackPointer
    let segments ← required "segments" draft.segments
    let scratch ← required "scratch" draft.scratch
    let bootstrap ← required "bootstrap" draft.bootstrap
    return ⟨name, stackPointer, segments, scratch, bootstrap⟩

/-- Reads the description of a target. -/
def Target.read (description : String) : Except Json.Failure Target :=
  Json.readAll (Reader.record Target.shape) description.toList

end StackLowering

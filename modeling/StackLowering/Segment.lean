/-!
# Memory segments

Commands address memory through segments. Six of them are mapped to memory by the
target's table; the constant segment holds literals and the static segment holds
variables named after their unit.
-/

namespace StackLowering

/-- The segments whose place in memory the target describes. -/
inductive MappedSegment where
  | argument
  | locals
  | this
  | that
  | pointer
  | temp
deriving DecidableEq, Repr

/-- The segments that `push` and `pop` can name. -/
inductive Segment where
  | mapped (segment : MappedSegment)
  | constant
  | static
deriving DecidableEq, Repr

namespace MappedSegment

/-- The name of a mapped segment in source code. -/
def name : MappedSegment → String
  | .argument => "argument"
  | .locals => "local"
  | .this => "this"
  | .that => "that"
  | .pointer => "pointer"
  | .temp => "temp"

/-- Every mapped segment. -/
def all : List MappedSegment := [.argument, .locals, .this, .that, .pointer, .temp]

/-- The list of mapped segments is complete. -/
theorem mem_all (segment : MappedSegment) : segment ∈ all := by
  cases segment <;> decide

end MappedSegment

namespace Segment

/-- The name of a segment in source code. -/
def name : Segment → String
  | .mapped segment => segment.name
  | .constant => "constant"
  | .static => "static"

/-- Every segment. -/
def all : List Segment := MappedSegment.all.map .mapped ++ [.constant, .static]

/-- The segment with a given name. -/
def ofName? (name : String) : Option Segment := all.find? fun segment => segment.name == name

/-- Every segment is found by its name. -/
theorem ofName?_name (segment : Segment) : ofName? segment.name = some segment := by
  cases segment with
  | mapped segment => cases segment <;> decide
  | constant => decide
  | static => decide

/-- A segment that is found by a name has that name. -/
theorem name_of_ofName? {name : String} {segment : Segment} (found : ofName? name = some segment) :
    segment.name = name := by
  simpa using List.find?_some found

end Segment

end StackLowering

import StackLowering.Target
import StackLowering.Text.Quoted

/-!
# Outlines of targets

An outline shows every part of a target on a line of its own, indented by its
depth.
-/

namespace StackLowering

/-- A value with named parts. -/
inductive Outline where
  | leaf (text : String)
  /-- A constructor with one argument. -/
  | wrapped (name : String) (content : String)
  | record (name : String) (fields : List (String × Outline))

namespace Outline

/-- The beginning of a line at a depth. -/
def indent (depth : Nat) : String := String.ofList (List.replicate (4 * depth) ' ')

mutual

/-- The text of an outline at a depth. -/
def render (depth : Nat) : Outline → String
  | .leaf text => text
  | .wrapped name content =>
    name ++ "(\n" ++ indent (depth + 1) ++ content ++ ",\n" ++ indent depth ++ ")"
  | .record name fields =>
    name ++ " \x7b\n" ++ renderFields (depth + 1) fields ++ indent depth ++ "\x7d"

/-- The lines of some fields at a depth. -/
def renderFields (depth : Nat) : List (String × Outline) → String
  | [] => ""
  | (name, outline) :: rest =>
    indent depth ++ name ++ ": " ++ outline.render depth ++ ",\n" ++ renderFields depth rest

end

/-- The outline of a text. -/
def quoted (text : String) : Outline := .leaf (Text.quoted text.toList)

/-- The outline of a way of addressing. -/
def ofAddressing : Addressing → Outline
  | .indirect pointer => .wrapped "Indirect" (Text.quoted pointer.toList)
  | .fixed base => .wrapped "Fixed" base.text

/-- The outline of a segment table. -/
def ofSegments (table : SegmentTable) : Outline :=
  .record "Segments"
    [("argument", ofAddressing table.argument), ("local", ofAddressing table.locals),
      ("this", ofAddressing table.this), ("that", ofAddressing table.that),
      ("pointer", ofAddressing table.pointer), ("temp", ofAddressing table.temp)]

/-- The outline of a target. -/
def ofTarget (target : Target) : Outline :=
  .record "Target"
    [("name", quoted target.name), ("stack_pointer", quoted target.stackPointer),
      ("segments", ofSegments target.segments),
      ("scratch", .record "Scratch"
        [("frame", quoted target.scratch.frame),
          ("return_address", quoted target.scratch.returnAddress)]),
      ("bootstrap", .record "Bootstrap"
        [("stack_base", .leaf target.bootstrap.stackBase.text),
          ("entry", quoted target.bootstrap.entry)])]

end Outline

/-- The outline of a target. -/
def Target.outline (target : Target) : String := (Outline.ofTarget target).render 0

end StackLowering

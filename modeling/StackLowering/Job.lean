import StackLowering.Command.Parser
import StackLowering.Lowering.Code
import StackLowering.Source

/-!
# Jobs

A job lowers one or more units into one program for a target. All units are read
first; then every declared name is checked and registered, so that no label made
later can collide with it; then the startup code, if wanted, and the commands are
lowered in order. The first failure is the outcome of the job.
-/

namespace StackLowering

/-- A source text under the name that scopes its static variables. -/
structure SourceUnit where
  name : String
  source : String
deriving DecidableEq, Repr

/-- A command with its unit, its line, and the characters it was read from. -/
structure PlacedCommand where
  unit : String
  line : Nat
  command : Located Command
deriving DecidableEq, Repr

/-- What to lower, for which target, and how: with or without startup code, and with or without
each command written above its code. -/
structure Job where
  target : Target := Target.hack
  units : List SourceUnit := []
  bootstrap : Bool := false
  annotate : Bool := false
deriving DecidableEq, Repr

namespace SourceUnit

/-- Reads the command of one line. -/
def parseLine (unit : SourceUnit) (line : Source.Line) : Except Mishap PlacedCommand :=
  match Command.parse line.text line.offset with
  | .ok command => .ok ⟨unit.name, line.number, command⟩
  | .error fault => .error (fault.inUnit unit.name line.number)

/-- Reads the commands of a unit, whose name has to be a symbol. -/
def parse (unit : SourceUnit) : Except Mishap (List PlacedCommand) :=
  if Symbol.isSymbol unit.name.toList then
    (Source.lines unit.source.toList).mapM unit.parseLine
  else .error ⟨unit.name, 0, ⟨.invalidUnitName unit.name, .origin⟩⟩

end SourceUnit

namespace PlacedCommand

/-- The mishap of a fault of the whole command. -/
def mishap (placed : PlacedCommand) (fault : Fault) : Mishap :=
  ⟨placed.unit, placed.line, ⟨fault, placed.command.span⟩⟩

/-- Checks the name that a command declares, if any, and registers it. -/
def register (placed : PlacedCommand) (target : Target) (units : List String)
    (context : Context) : Except Mishap Context :=
  match placed.command.value.declared? with
  | none => .ok context
  | some symbol =>
    match Lowering.checkDeclaration target symbol units with
    | .ok () => .ok (context.declare symbol)
    | .error fault => .error (placed.mishap fault)

/-- The comment that precedes the code of a command in an annotated program. -/
def annotation (placed : PlacedCommand) : Block := [.comment placed.command.value.text]

/-- Lowers one command in its unit and line. -/
def lower (placed : PlacedCommand) (target : Target) (annotate : Bool) (context : Context) :
    Except Mishap (Block × Context) :=
  let context := (context.beginUnit placed.unit).atLine placed.line
  match Lowering.lower target placed.command.value context with
  | (.ok block, context) =>
    .ok (if annotate then placed.annotation ++ block else block, context)
  | (.error fault, _) => .error (placed.mishap fault)

end PlacedCommand

namespace Job

/-- The unit to which startup code belongs. -/
def startupUnit : String := "Bootstrap"

/-- The commands of all units, in order. -/
def commands (job : Job) : Except Mishap (List PlacedCommand) :=
  (job.units.mapM SourceUnit.parse).map List.flatten

/-- Registers the declared names of some commands. -/
def register (job : Job) : List PlacedCommand → Context → Except Mishap Context
  | [], context => .ok context
  | placed :: rest, context => do
    let context ← placed.register job.target (job.units.map SourceUnit.name) context
    job.register rest context

/-- The startup block, if the job wants one. -/
def startup (job : Job) (context : Context) : Except Mishap (List Block × Context) :=
  if job.bootstrap then
    match Lowering.lowerBootstrap job.target (context.beginUnit startupUnit) with
    | (.ok block, context) => .ok ([block], context)
    | (.error fault, _) => .error ⟨startupUnit, 0, ⟨fault, .origin⟩⟩
  else .ok ([], context)

/-- The blocks of some commands, one each. -/
def lowerCommands (job : Job) : List PlacedCommand → Context → Except Mishap (List Block)
  | [], _ => .ok []
  | placed :: rest, context => do
    let (block, context) ← placed.lower job.target job.annotate context
    let blocks ← job.lowerCommands rest context
    return block :: blocks

/-- The blocks of the program: the startup block, if wanted, and one for each command. -/
def blocks (job : Job) : Except Mishap (List Block) := do
  let commands ← job.commands
  let context ← job.register commands .initial
  let (startup, context) ← job.startup context
  let bodies ← job.lowerCommands commands context
  return startup ++ bodies

/-- The text of a program: the lines of each block, each block ended by a line feed. -/
def programText (blocks : List Block) : String :=
  String.join (blocks.map fun block => block.text ++ "\n")

/-- The assembly text of the program. -/
def assembly (job : Job) : Except Mishap String := job.blocks.map programText

end Job

end StackLowering

import StackLowering.Job

/-!
# The journal of a job

What happens while a job is lowered, in order: the startup code, the start of each
unit, and each command that is attempted. Nothing is recorded before every unit
has been read and every declared name has been checked, and nothing after the
first failure.
-/

namespace StackLowering.Job

/-- What can be recorded of a job. -/
inductive Event where
  | startup (bootstrap : Bootstrap)
  | unit (name : String) (commands : Nat)
  | command (placed : PlacedCommand)
deriving DecidableEq, Repr

/-- The attempts at some commands, and the context after them if none failed. -/
def attempts (job : Job) : List PlacedCommand → Context → List Event × Option Context
  | [], context => ([], some context)
  | placed :: rest, context =>
    match placed.lower job.target job.annotate context with
    | .error _ => ([.command placed], none)
    | .ok (_, context) =>
      let (events, final) := job.attempts rest context
      (.command placed :: events, final)

/-- The events of some units with their commands. -/
def unitEvents (job : Job) : List (SourceUnit × List PlacedCommand) → Context → List Event
  | [], _ => []
  | (unit, commands) :: rest, context =>
    .unit unit.name commands.length ::
      match job.attempts commands context with
      | (events, none) => events
      | (events, some context) => events ++ job.unitEvents rest context

/-- The startup event, if the job wants startup code. -/
def startupEvents (job : Job) : List Event :=
  if job.bootstrap then [.startup job.target.bootstrap] else []

/-- Everything that is recorded of a job. -/
def journal (job : Job) : List Event :=
  match job.units.mapM SourceUnit.parse with
  | .error _ => []
  | .ok commands =>
    match job.register commands.flatten .initial with
    | .error _ => []
    | .ok context =>
      job.startupEvents ++
        match job.startup context with
        | .error _ => []
        | .ok (_, context) => job.unitEvents (job.units.zip commands) context

/-- An event in words. -/
def Event.text : Event → String
  | .startup bootstrap =>
    "Generating bootstrap code (SP = " ++ bootstrap.stackBase.text ++ ", entry = " ++
      bootstrap.entry ++ ")"
  | .unit name commands =>
    "Translating unit `" ++ name ++ "` (" ++ commands.repr ++ " commands)"
  | .command placed =>
    placed.unit ++ ":" ++ placed.line.repr ++ ": " ++ placed.command.value.text

end StackLowering.Job

import StackLowering.CommandLine.Run

/-!
# The program

Looks at the files that the arguments name, lets the library decide, and then
writes, prints and exits.
-/

namespace StackLowering.CommandLine

/-- What the system says when it refuses something. -/
def troubleOf : IO.Error → Trouble
  | .noFileOrDirectory _ code _ => if code = 20 then .notDirectory else .missing
  | .invalidArgument _ code details =>
    if code = 36 then .tooLong else .refused s!"{details} (os error {code})"
  | .inappropriateType _ code details => .refused s!"{details} (os error {code})"
  | .permissionDenied _ code details => .refused s!"{details} (os error {code})"
  | error => .refused error.toString

/-- The result of an action, with the reason if the system refuses it. -/
def attempt {result : Type} (action : IO result) : IO (Except Trouble result) := do
  match ← action.toBaseIO with
  | .ok value => return .ok value
  | .error error => return .error (troubleOf error)

/-- Everything that can be seen of one path. -/
structure Sight where
  path : Path
  isDirectory : Bool := false
  isFile : Bool := false
  names : Except Trouble (List String) := .error .missing
  content : Except Trouble ByteArray := .error .missing

/-- Looks at a directory. -/
def lookInside (path : Path) : IO Sight := do
  let names ← attempt do
    return (← (← IO.FS.realPath path.text).readDir).toList.map (·.fileName)
  return { path := path, isDirectory := true, names := names, content := .error .isDirectory }

/-- Looks at one path. -/
def look (path : Path) : IO Sight := do
  match ← attempt (do (← IO.FS.realPath path.text).isDir) with
  | .error trouble => return { path := path, content := .error trouble }
  | .ok true => lookInside path
  | .ok false =>
    let content ← attempt (IO.FS.readBinFile path.text)
    return { path := path, isFile := true, content := content }

/-- The surroundings of which some paths have been looked at. -/
def seen (terminal : Bool) (sights : List Sight) : Surroundings :=
  let sight (path : Path) : Sight :=
    (sights.find? fun sight => sight.path = path).getD { path }
  { isDirectory := fun path => (sight path).isDirectory
    isFile := fun path => (sight path).isFile
    list := fun path => (sight path).names
    read := fun path => (sight path).content
    terminal := terminal }

/-- Looks at all paths that matter to a request. -/
def survey (request : Request) : IO Surroundings := do
  let terminal ← (← IO.getStderr).isTty
  let first ← (request.path :: request.target.toList).mapM look
  let entries := first.flatMap fun sight =>
    if sight.isDirectory then (sight.names.toOption.getD []).map sight.path.child else []
  return seen terminal (first ++ (← entries.mapM look))

/-- Carries out a request. -/
def carryOut (request : Request) (surroundings : Surroundings) : IO (Except Failure Unit) := do
  match request.assembly surroundings with
  | .error failure => return .error failure
  | .ok text =>
    let path := request.outputPath surroundings
    match ← attempt (IO.FS.writeFile path.text text) with
    | .ok () => return .ok ()
    | .error trouble => return .error (.unwritable path trouble)

/-- The outcome of the program. -/
def outcome (arguments : List String) : IO Outcome := do
  match readArguments arguments with
  | .error interruption => return interruption.outcome
  | .ok ⟨.schema, _⟩ => return schemaOutcome
  | .ok ⟨.lower request, verbosity⟩ =>
    let surroundings ← survey request
    return request.outcome verbosity surroundings (← carryOut request surroundings)

end StackLowering.CommandLine

def main (arguments : List String) : IO UInt32 := do
  let outcome ← StackLowering.CommandLine.outcome arguments
  (← IO.getStdout).putStr outcome.output
  (← IO.getStderr).putStr outcome.messages
  return outcome.status.toUInt32

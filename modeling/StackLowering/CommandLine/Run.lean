import StackLowering.CommandLine.Arguments
import StackLowering.CommandLine.Failure
import StackLowering.CommandLine.Journal
import StackLowering.Target.Reader
import StackLowering.Target.Schema

/-!
# Runs of the program

A request is carried out in three steps: the target description and the sources
are read, the program is lowered, and its text is written. The first failure ends
the run, so nothing is written unless everything before it succeeded. All that a
run sees of the world is given as a value; `run` takes it from a file system and
gives the file system after the run.
-/

namespace StackLowering.CommandLine

/-- What a run can see around it. -/
structure Surroundings where
  isDirectory : Path → Bool
  isFile : Path → Bool
  list : Path → Except Trouble (List String)
  read : Path → Except Trouble ByteArray
  terminal : Bool := false

namespace Surroundings

/-- What a run can see of a file system. -/
def ofFiles (files : FileSystem) : Surroundings where
  isDirectory := files.isDirectory
  isFile := files.isFile
  list := files.list
  read := files.read

/-- The text of a file. -/
def readText (surroundings : Surroundings) (path : Path) : Except Trouble String := do
  let content ← surroundings.read path
  match String.fromUTF8? content with
  | some text => .ok text
  | none => .error .notText

end Surroundings

/-- The extension of source files. -/
def sourceExtension : String := "vm"

/-- The extension of the files that are written. -/
def outputExtension : String := "asm"

namespace Request

/-- The target of a request. -/
def readTarget (request : Request) (surroundings : Surroundings) : Except Failure Target :=
  match request.target with
  | none => .ok Target.hack
  | some path =>
    match surroundings.readText path with
    | .error trouble => .error (.unreadable path trouble)
    | .ok description =>
      match Target.read description with
      | .ok target => .ok target
      | .error failure => .error (.badTarget path failure)

/-- The source files among the entries of a directory, in the order of their names. -/
def sourceEntries (surroundings : Surroundings) (directory : Path) (names : List String) :
    List Path :=
  let sources := names.filter fun name =>
    let path := directory.child name
    surroundings.isFile path && path.extension? == some sourceExtension
  (sources.mergeSort fun one other => decide (one ≤ other)).map directory.child

/-- The paths of the sources: the path itself, or the source files of the directory it leads to. -/
def sourcePaths (request : Request) (surroundings : Surroundings) : Except Failure (List Path) :=
  if surroundings.isDirectory request.path then
    match surroundings.list request.path with
    | .error trouble => .error (.unlistable request.path trouble)
    | .ok names =>
      let paths := sourceEntries surroundings request.path names
      if paths = [] then .error (.noSources request.path) else .ok paths
  else .ok [request.path]

/-- Reads one source file. -/
def readSource (surroundings : Surroundings) (path : Path) : Except Failure SourceFile :=
  match surroundings.readText path with
  | .ok source => .ok ⟨path, source⟩
  | .error trouble => .error (.unreadable path trouble)

/-- Reads the source files of a request. -/
def readSources (request : Request) (surroundings : Surroundings) :
    Except Failure (List SourceFile) := do
  let paths ← request.sourcePaths surroundings
  paths.mapM (readSource surroundings)

/-- The job of a request. -/
def job (request : Request) (target : Target) (sources : List SourceFile) : Job where
  target := target
  units := sources.map SourceFile.unit
  bootstrap := request.bootstrap
  annotate := request.annotate

/-- The file to which a mishap is attributed: the first one whose unit has the name of the unit at
fault. -/
def fileOf (sources : List SourceFile) (mishap : Mishap) : Option SourceFile :=
  sources.find? fun file => file.unit.name = mishap.unit

/-- The text that a request is to write. -/
def assembly (request : Request) (surroundings : Surroundings) : Except Failure String := do
  let target ← request.readTarget surroundings
  let sources ← request.readSources surroundings
  match (request.job target sources).assembly with
  | .ok text => .ok text
  | .error mishap => .error (.unlowerable mishap (fileOf sources mishap))

/-- Where a request writes if it does not say so: beside the source file, or, for a directory, to
the path with an extension behind it. -/
def defaultOutput (surroundings : Surroundings) (path : Path) : Path :=
  if surroundings.isDirectory path then path.appendExtension outputExtension
  else path.withExtension outputExtension

/-- Where a request writes. -/
def outputPath (request : Request) (surroundings : Surroundings) : Path :=
  request.output.getD (defaultOutput surroundings request.path)

/-- The files that are read before the first one that cannot be read. -/
def loaded (surroundings : Surroundings) : List Path → List SourceFile
  | [] => []
  | path :: rest =>
    match readSource surroundings path with
    | .ok file => file :: loaded surroundings rest
    | .error _ => []

/-- What is recorded until the text is ready to be written, or the request has failed. -/
def journal (request : Request) (surroundings : Surroundings) : List Event :=
  match request.readTarget surroundings with
  | .error _ => []
  | .ok target =>
    .target target.name ::
      match request.sourcePaths surroundings with
      | .error _ => []
      | .ok paths =>
        (loaded surroundings paths).map (fun file => .loaded file.unit.name file.path) ++
          match paths.mapM (readSource surroundings) with
          | .error _ => []
          | .ok sources => (request.job target sources).journal.map .job

/-- Whether reports are coloured. -/
def colored (request : Request) (surroundings : Surroundings) : Bool :=
  match request.color with
  | .auto => surroundings.terminal
  | .always => true
  | .never => false

end Request

/-- What a run leaves behind beside files: its exit status and what it printed. -/
structure Outcome where
  status : Nat
  output : String := ""
  messages : String := ""
deriving DecidableEq, Repr

/-- The outcome of a request of which is known whether its text was written. -/
def Request.outcome (request : Request) (verbosity : Nat) (surroundings : Surroundings)
    (result : Except Failure Unit) : Outcome :=
  let told := tell verbosity (request.journal surroundings)
  match result with
  | .ok () =>
    { status := 0
      messages := told ++ tell verbosity [.wrote (request.outputPath surroundings)] }
  | .error failure =>
    { status := failure.status
      messages := told ++ failure.text (request.colored surroundings) ++ "\n" }

/-- The outcome of arguments that ask for no request. -/
def Interruption.outcome : Interruption → Outcome
  | .version => { status := 0, output := programName ++ " " ++ programVersion ++ "\n" }
  | .help scope => { status := 0, output := scope.usage .any ++ "\n" }
  | .noArguments => { status := 2, messages := Scope.program.usage .any ++ "\n" }
  | .misuse cause => { status := 2, messages := cause.text }

/-- The outcome of asking for the schema of target descriptions. -/
def schemaOutcome : Outcome := { status := 0, output := Target.Schema.schemaText ++ "\n" }

/-- The result of a request, and the files after it. -/
def Request.perform (request : Request) (files : FileSystem) :
    Except Failure Unit × FileSystem :=
  let surroundings := Surroundings.ofFiles files
  match request.assembly surroundings with
  | .error failure => (.error failure, files)
  | .ok text =>
    let path := request.outputPath surroundings
    match files.write path text.toUTF8 with
    | .ok changed => (.ok (), changed)
    | .error trouble => (.error (.unwritable path trouble), files)

/-- The outcome of a request, and the files after it. -/
def Request.carryOut (request : Request) (verbosity : Nat) (files : FileSystem) :
    Outcome × FileSystem :=
  let (result, changed) := request.perform files
  (request.outcome verbosity (Surroundings.ofFiles files) result, changed)

/-- Runs the program with some arguments. -/
def run (arguments : List String) (files : FileSystem) : Outcome × FileSystem :=
  match readArguments arguments with
  | .error interruption => (interruption.outcome, files)
  | .ok ⟨.schema, _⟩ => (schemaOutcome, files)
  | .ok ⟨.lower request, verbosity⟩ => request.carryOut verbosity files

end StackLowering.CommandLine

import StackLowering.Fault.Wording
import StackLowering.Job
import StackLowering.Json.Reading
import StackLowering.Report.Rendering
import StackLowering.Storage.FileSystem

/-!
# Failures of a request

A request fails because of the program to be lowered, or because of the files
around it. The two have different exit statuses, and the first kind is reported
against the file in which the mishap happened, if there is one.
-/

namespace StackLowering.CommandLine

/-- A source file that was read. -/
structure SourceFile where
  path : Path
  source : String
deriving DecidableEq, Repr

namespace SourceFile

/-- The unit in a source file: the stem of the file name is its name. -/
def unit (file : SourceFile) : SourceUnit := ⟨file.path.stem, file.source⟩

end SourceFile

/-- Why a request fails. -/
inductive Failure where
  | unreadable (path : Path) (trouble : Trouble)
  | unlistable (path : Path) (trouble : Trouble)
  | badTarget (path : Path) (failure : Json.Failure)
  | noSources (directory : Path)
  | unlowerable (mishap : Mishap) (file : Option SourceFile)
  | unwritable (path : Path) (trouble : Trouble)
deriving DecidableEq, Repr

namespace Failure

/-- The exit status of a failure. -/
def status : Failure → Nat
  | .unlowerable .. => 1
  | _ => 2

/-- A failure in words. -/
def text (colored : Bool) : Failure → String
  | .unreadable path trouble => "error: Can't read `" ++ path.text ++ "`: " ++ trouble.text
  | .unlistable path trouble =>
    "error: Can't read directory `" ++ path.text ++ "`: " ++ trouble.text
  | .badTarget path failure =>
    "error: Invalid target description `" ++ path.text ++ "`: " ++ failure.text
  | .noSources directory =>
    "error: Directory `" ++ directory.text ++ "` doesn't contain any `.vm` file"
  | .unlowerable mishap (some file) => mishap.report file.path.text file.source.toList colored
  | .unlowerable mishap none => mishap.text
  | .unwritable path trouble => "error: Can't write `" ++ path.text ++ "`: " ++ trouble.text

end Failure

end StackLowering.CommandLine

/-!
# Scopes and settings

The command line has a scope for the program itself and one for each subcommand.
Each scope admits some settings, which have a long name and possibly a letter, and
some of which take a value.
-/

namespace StackLowering.CommandLine

/-- What can be set on the command line. -/
inductive Setting where
  | output
  | target
  | bootstrap
  | annotate
  | color
  | verbose
  | help
  | version
deriving DecidableEq, Repr

namespace Setting

/-- The long name of a setting. -/
def name : Setting → String
  | .output => "output"
  | .target => "target"
  | .bootstrap => "bootstrap"
  | .annotate => "annotate"
  | .color => "color"
  | .verbose => "verbose"
  | .help => "help"
  | .version => "version"

/-- The letter of a setting. -/
def letter? : Setting → Option Char
  | .output => some 'o'
  | .verbose => some 'v'
  | .help => some 'h'
  | .version => some 'V'
  | _ => none

/-- What stands for the value of a setting in usage texts, if it takes a value. -/
def placeholder? : Setting → Option String
  | .output | .target => some "FILE"
  | .color => some "COLOR"
  | _ => none

/-- Whether a setting takes a value. -/
def takesValue (setting : Setting) : Bool := setting.placeholder?.isSome

/-- Whether a setting may be given more than once. -/
def repeatable : Setting → Bool
  | .verbose => true
  | _ => false

/-- The values among which a setting chooses; none if any text is a value. -/
def choices : Setting → List String
  | .color => ["auto", "always", "never"]
  | _ => []

/-- A setting as usage texts show it. -/
def spelling (setting : Setting) : String :=
  "--" ++ setting.name ++
    match setting.placeholder? with
    | some placeholder => " <" ++ placeholder ++ ">"
    | none => if setting.repeatable then "..." else ""

end Setting

/-- Where on the command line an argument stands: before a subcommand, or after one. -/
inductive Scope where
  | program
  | lower
  | schema
  | help
deriving DecidableEq, Repr

/-- The name under which the program is called. -/
def programName : String := "hack-vm-translator"

/-- The version of the program. -/
def programVersion : String := "0.1.0"

/-- What a usage text shows of a scope: that there are settings, those in use with the path, or
those in use that are not the scope's own beside all that are, as alternatives to the path. -/
inductive Shown where
  | any
  | inUse (settings : List Setting)
  | alternatives (settings : List Setting)
deriving DecidableEq, Repr

namespace Scope

/-- The scopes of the subcommands, by their names. -/
def subcommands : List (String × Scope) :=
  [("translate", .lower), ("schema", .schema), ("help", .help)]

/-- The names of the subcommands. -/
def subcommandNames : List String := subcommands.map Prod.fst

/-- The scope behind the name of a subcommand, which only the program itself has. -/
def subcommand? : Scope → String → Option Scope
  | .program, name => subcommands.lookup name
  | _, _ => none

/-- The settings that a scope admits. -/
def settings : Scope → List Setting
  | .program => [.verbose, .help, .version]
  | .lower => [.output, .target, .bootstrap, .annotate, .color, .verbose, .help]
  | .schema => [.verbose, .help]
  | .help => []

/-- The settings that are a scope's own. The others are those of every scope, and those that a
subcommand takes over from the program. -/
def ownSettings : Scope → List Setting
  | .program => [.verbose]
  | .lower => [.output, .target, .bootstrap, .annotate, .color]
  | .schema | .help => []

/-- Whether a scope takes a path. -/
def takesPath : Scope → Bool
  | .lower => true
  | _ => false

/-- How a scope is called. -/
def call : Scope → String
  | .program => programName
  | .lower => programName ++ " translate"
  | .schema => programName ++ " schema"
  | .help => programName ++ " help"

/-- What stands for the path in usage texts. -/
def pathPlaceholder : String := "PATH"

/-- What a scope has beside its settings and the path. -/
def remainder : Scope → String
  | .program => " <COMMAND>"
  | .lower | .schema => ""
  | .help => " [COMMAND]..."

/-- The path as the usage texts of a scope show it. -/
def pathSpelling (scope : Scope) : String :=
  if scope.takesPath then " <" ++ pathPlaceholder ++ ">" else ""

/-- The path and the settings of a scope's own, as alternatives. -/
def alternatives (scope : Scope) : String :=
  let path := if scope.takesPath then [pathPlaceholder] else []
  " <" ++ "|".intercalate (path ++ scope.ownSettings.map Setting.spelling) ++ ">"

/-- Settings as usage texts list them. -/
def listed (settings : List Setting) : String :=
  String.join (settings.map fun setting => " " ++ setting.spelling)

/-- How a scope is used. -/
def usage (scope : Scope) (shown : Shown) : String :=
  "Usage: " ++ scope.call ++
    (match shown with
    | .any => (if scope.settings = [] then "" else " [OPTIONS]") ++ scope.pathSpelling
    | .inUse settings => listed settings ++ scope.pathSpelling
    | .alternatives settings =>
      listed (settings.filter (· ∉ scope.ownSettings)) ++ scope.alternatives) ++
    scope.remainder

/-- The setting with a long name. -/
def named? (scope : Scope) (name : String) : Option Setting :=
  scope.settings.find? fun setting => setting.name = name

/-- The setting with a letter. -/
def lettered? (scope : Scope) (letter : Char) : Option Setting :=
  scope.settings.find? fun setting => setting.letter? = some letter

end Scope

end StackLowering.CommandLine

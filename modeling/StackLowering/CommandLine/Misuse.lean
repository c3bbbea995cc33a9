import StackLowering.CommandLine.Setting
import StackLowering.Terminal.Visible

/-!
# Misuse of the command line

The causes for which arguments are refused, and their wording: what is wrong, what
may have been meant, how the program is used, and where to learn more. Control
sequences in the arguments are not repeated.
-/

namespace StackLowering.CommandLine

/-- What may have been meant by an argument that is not known. -/
inductive Tip where
  | similarSetting (setting : Setting)
  | settingOfSubcommand (subcommand : String) (name : String)
  | asValue
  | none
deriving DecidableEq, Repr

/-- Why arguments are refused. -/
inductive Misuse where
  | unknownSubcommand (scope : Scope) (name : String) (similar : List String)
  | missingSubcommand
  | subcommandAfterEscape (name : String)
  | missingPath (used : List Setting)
  | emptyPath
  | unexpectedArgument (scope : Scope) (argument : String) (tip : Tip) (shown : Shown)
  | unexpectedValue (scope : Scope) (setting : Setting) (value : String) (shown : Shown)
  | missingValue (setting : Setting)
  | invalidValue (setting : Setting) (value : String) (similar : Option String)
  | repeated (scope : Scope) (setting : Setting)
deriving DecidableEq, Repr

/-- The visible part of a text in single quotation marks. -/
def inQuotes (text : String) : String := "'" ++ Terminal.visible text ++ "'"

/-- A tip under a message. -/
def tipLine (text : String) : String := "\n\n  tip: " ++ text

/-- The tip on an argument that is not known. -/
def Tip.text (argument : String) : Tip → String
  | .similarSetting setting =>
    tipLine ("a similar argument exists: " ++ inQuotes ("--" ++ setting.name))
  | .settingOfSubcommand subcommand name =>
    tipLine (inQuotes (subcommand ++ " --" ++ name) ++ " exists")
  | .asValue =>
    tipLine ("to pass " ++ inQuotes argument ++ " as a value, use " ++ inQuotes ("-- " ++ argument))
  | .none => ""

/-- The tip on names that are similar to a given one. -/
def similarNames (kind : String) : List String → String
  | [] => ""
  | [name] => tipLine ("a similar " ++ kind ++ " exists: " ++ inQuotes name)
  | names =>
    tipLine ("some similar " ++ kind ++ "s exist: " ++ ", ".intercalate (names.map inQuotes))

/-- A list of what is possible, in brackets on a line of its own. -/
def bracketed (title : String) (names : List String) : String :=
  if names = [] then "" else "\n  [" ++ title ++ ": " ++ ", ".intercalate names ++ "]"

namespace Misuse

/-- What is wrong, with tips and the usage where they apply. -/
def explanation : Misuse → String
  | .unknownSubcommand scope name similar =>
    "unrecognized subcommand " ++ inQuotes name ++ similarNames "subcommand" similar ++
      "\n\n" ++ scope.usage .any
  | .missingSubcommand =>
    inQuotes programName ++ " requires a subcommand but one was not provided" ++
      bracketed "subcommands" Scope.subcommandNames ++ "\n\n" ++ Scope.program.usage .any
  | .subcommandAfterEscape name =>
    "unexpected argument " ++ inQuotes name ++ " found" ++
      tipLine ("subcommand " ++ inQuotes name ++ " exists; to use it, remove the '--' before it") ++
      "\n\n" ++ Scope.program.usage .any
  | .missingPath used =>
    "the following required arguments were not provided:\n  <PATH>\n\n" ++
      Scope.lower.usage (.inUse used)
  | .emptyPath => "a value is required for '<PATH>' but none was supplied"
  | .unexpectedArgument scope argument tip shown =>
    "unexpected argument " ++ inQuotes argument ++ " found" ++ tip.text argument ++
      "\n\n" ++ scope.usage shown
  | .unexpectedValue scope setting value shown =>
    "unexpected value " ++ inQuotes value ++ " for " ++ inQuotes setting.spelling ++
      " found; no more were expected\n\n" ++ scope.usage shown
  | .missingValue setting =>
    "a value is required for " ++ inQuotes setting.spelling ++ " but none was supplied" ++
      bracketed "possible values" setting.choices
  | .invalidValue setting value similar =>
    "invalid value " ++ inQuotes value ++ " for " ++ inQuotes setting.spelling ++
      bracketed "possible values" setting.choices ++ similarNames "value" similar.toList
  | .repeated scope setting =>
    "the argument " ++ inQuotes setting.spelling ++ " cannot be used multiple times\n\n" ++
      scope.usage .any

/-- The scope in which arguments are refused. -/
def scope : Misuse → Scope
  | .unknownSubcommand scope .. => scope
  | .missingSubcommand | .subcommandAfterEscape _ => .program
  | .missingPath _ | .emptyPath | .missingValue _ | .invalidValue .. => .lower
  | .unexpectedArgument scope .. | .unexpectedValue scope .. | .repeated scope _ => scope

/-- A misuse in words. Where help can be asked for, the last line says so. -/
def text (misuse : Misuse) : String :=
  "error: " ++ misuse.explanation ++
    (if .help ∈ misuse.scope.settings then
      "\n\nFor more information, try " ++ inQuotes ("--" ++ Setting.help.name) ++ "."
    else "") ++ "\n"

end Misuse

end StackLowering.CommandLine

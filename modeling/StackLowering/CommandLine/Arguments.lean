import StackLowering.CommandLine.Misuse
import StackLowering.Storage.Path
import StackLowering.Text.Similarity

/-!
# Arguments

Arguments are read from left to right. A setting that takes a value, and the path,
stay pending until the next argument that is understood; only then are they
checked. So an argument that is not understood is reported before a bad value
right in front of it.
-/

namespace StackLowering.CommandLine

/-- When reports are coloured. -/
inductive ColorChoice where
  | auto
  | always
  | never
deriving DecidableEq, Repr

/-- What is to be lowered, and how. -/
structure Request where
  path : Path
  output : Option Path := none
  target : Option Path := none
  bootstrap : Bool := false
  annotate : Bool := false
  color : ColorChoice := .auto
deriving DecidableEq, Repr

/-- What the program is asked to do. -/
inductive Order where
  | lower (request : Request)
  | schema
deriving DecidableEq, Repr

/-- An order, and how much is to be told about its execution. -/
structure Invocation where
  order : Order
  verbosity : Nat
deriving DecidableEq, Repr

/-- Why reading the arguments ends without an invocation. -/
inductive Interruption where
  | version
  | help (scope : Scope)
  | noArguments
  | misuse (misuse : Misuse)
deriving DecidableEq, Repr

/-- What has been read last and is not checked yet. -/
inductive Pending where
  | nothing
  | value (setting : Setting) (text : Option String)
  | path (text : String)
deriving DecidableEq, Repr

/-- The arguments of a scope read so far: settings in order, the path, and what is pending. -/
structure Progress where
  given : List (Setting × String) := []
  path : Option String := none
  pending : Pending := .nothing
deriving DecidableEq, Repr

namespace Progress

/-- The settings in use, each once, in the order in which they were last given. -/
def used (progress : Progress) : List Setting :=
  (progress.given.map Prod.fst).reverse.eraseDups.reverse

/-- The settings in use if what is pending counts as well. A setting that waits for its value does
not count, and one that is given again, but may not be, counts no longer. -/
def usedWithPending (progress : Progress) : List Setting :=
  match progress.pending with
  | .value setting (some _) =>
    if setting ∈ progress.used then progress.used.erase setting else progress.used ++ [setting]
  | _ => progress.used

/-- How often a setting was given. -/
def occurrences (progress : Progress) (setting : Setting) : Nat :=
  (progress.given.map Prod.fst).count setting

/-- The value of a setting. -/
def value? (progress : Progress) (setting : Setting) : Option String :=
  progress.given.lookup setting

/-- Whether a setting was given. -/
def has (progress : Progress) (setting : Setting) : Bool := (progress.value? setting).isSome

/-- Whether the path was given. -/
def hasPath (progress : Progress) : Bool :=
  progress.path.isSome ||
    match progress.pending with
    | .path _ => true
    | _ => false

/-- Checks the value of a setting: it is not empty, and one of the choices if there are any. -/
def checkValue (setting : Setting) (value : String) : Except Interruption Unit :=
  if value.isEmpty then .error (.misuse (.missingValue setting))
  else if setting.choices = [] ∨ value ∈ setting.choices then .ok ()
  else .error (.misuse
    (.invalidValue setting value (Text.mostSimilar? value setting.choices)))

/-- Records a setting with its value; settings without value have an empty one. -/
def record (progress : Progress) (scope : Scope) (setting : Setting) (value : String) :
    Except Interruption Progress := do
  if setting = .version then throw .version
  if setting = .help then throw (.help scope)
  if progress.has setting ∧ ¬setting.repeatable then throw (.misuse (.repeated scope setting))
  if setting.takesValue then checkValue setting value
  return { progress with given := progress.given ++ [(setting, value)] }

/-- Checks and records what is pending. -/
def settle (progress : Progress) (scope : Scope) : Except Interruption Progress :=
  let settled := { progress with pending := .nothing }
  match progress.pending with
  | .nothing => .ok progress
  | .value setting none => .error (.misuse (.missingValue setting))
  | .value setting (some text) => settled.record scope setting text
  | .path text =>
    if text.isEmpty then .error (.misuse .emptyPath) else .ok { settled with path := some text }

/-- Takes a setting that stands without an attached value. -/
def takeBare (progress : Progress) (scope : Scope) (setting : Setting) :
    Except Interruption Progress := do
  let settled ← progress.settle scope
  if setting.takesValue then return { settled with pending := .value setting none }
  else settled.record scope setting ""

/-- Takes a setting with the value attached to it. -/
def takeAttached (progress : Progress) (scope : Scope) (setting : Setting) (value : String) :
    Except Interruption Progress := do
  let settled ← progress.settle scope
  settled.record scope setting value

end Progress

/-- What may have been meant by an unknown long name: a similar one of the same scope, else one of
a subcommand that follows, else a value where there can be one. -/
def tipFor (scope : Scope) (name : String) (later : List String) : Tip :=
  let similar? (scope : Scope) := Text.mostSimilar? name (scope.settings.map Setting.name)
  match (similar? scope).bind scope.named? with
  | some setting => .similarSetting setting
  | none =>
    let others := if scope = .program then Scope.subcommands else []
    let candidates := others.filterMap fun (subcommand, scope) => do
      let similar ← similar? scope
      if subcommand ∈ later then some (subcommand, similar) else none
    match candidates with
    | (subcommand, similar) :: _ => .settingOfSubcommand subcommand similar
    | [] => if scope.takesPath then .asValue else .none

/-- The refusal of an unknown long name. What is pending counts as in use, and so does the setting
that may have been meant. -/
def unknownLong (scope : Scope) (name : String) (later : List String) (progress : Progress) :
    Interruption :=
  let tip := tipFor scope name later
  let meant := match tip with
    | .similarSetting setting => [setting]
    | _ => []
  let used := (progress.usedWithPending ++ meant).eraseDups
  .misuse (.unexpectedArgument scope ("--" ++ name) tip
    (if used = [] ∧ ¬progress.hasPath then .any else .inUse used))

/-- The refusal of a value attached to a setting that takes none. What is pending does not count
as in use. -/
def unexpectedValue (scope : Scope) (setting : Setting) (value : String) (progress : Progress) :
    Interruption :=
  let used := (progress.used ++ [setting]).eraseDups
  .misuse (.unexpectedValue scope setting value
    (if progress.path.isSome ∨ progress.used.any (· ∈ scope.ownSettings) then .alternatives used
    else .inUse used))

/-- Reads a long setting, without the two dashes in front. -/
def readLong (scope : Scope) (text : List Char) (later : List String) (progress : Progress) :
    Except Interruption Progress :=
  let name := String.ofList (text.takeWhile (· ≠ '='))
  match scope.named? name, text.dropWhile (· ≠ '=') with
  | none, _ => .error (unknownLong scope name later progress)
  | some setting, [] => progress.takeBare scope setting
  | some setting, _ :: value =>
    if setting.takesValue then progress.takeAttached scope setting (String.ofList value)
    else .error (unexpectedValue scope setting (String.ofList value) progress)

/-- Reads settings given by letters, without the dash in front. What follows the letter of a
setting that takes a value is its value, behind an equals sign or not. -/
def readLetters (scope : Scope) : List Char → Progress → Except Interruption Progress
  | [], progress => .ok progress
  | letter :: rest, progress =>
    match scope.lettered? letter with
    | none =>
      .error (.misuse (.unexpectedArgument scope ("-" ++ letter.toString)
        (if scope.takesPath then .asValue else .none) .any))
    | some setting =>
      if setting.takesValue then
        match rest with
        | [] => progress.takeBare scope setting
        | '=' :: value => progress.takeAttached scope setting (String.ofList value)
        | value => progress.takeAttached scope setting (String.ofList value)
      else do
        let progress ← progress.takeBare scope setting
        readLetters scope rest progress

/-- What an argument looks like. -/
inductive Shape where
  | escape
  | long (text : List Char)
  | letters (text : List Char)
  | plain
deriving DecidableEq, Repr

/-- The look of an argument. -/
def Shape.of (argument : String) : Shape :=
  match argument.toList with
  | ['-', '-'] => .escape
  | '-' :: '-' :: text => .long text
  | ['-'] => .plain
  | '-' :: text => .letters text
  | _ => .plain

/-- Takes an argument as the path, where there can be one. -/
def takePath (scope : Scope) (argument : String) (progress : Progress) :
    Except Interruption Progress := do
  if scope.takesPath ∧ ¬progress.hasPath then
    let settled ← progress.settle scope
    return { settled with pending := .path argument }
  else throw (.misuse (.unexpectedArgument scope argument .none .any))

/-- Takes a plain argument: as the value of the setting in front of it, if that one waits for a
value, and as the path otherwise. -/
def takePlain (scope : Scope) (argument : String) (progress : Progress) :
    Except Interruption Progress :=
  match progress.pending with
  | .value setting none => .ok { progress with pending := .value setting (some argument) }
  | _ => takePath scope argument progress

/-- Reads the arguments of a subcommand. Behind two lone dashes every argument is plain, and none
is a value. -/
def readSubcommand (scope : Scope) : List String → Progress → Except Interruption Progress
  | [], progress => progress.settle scope
  | argument :: rest, progress =>
    match Shape.of argument with
    | .escape => do
      let progress ← rest.foldlM (fun progress argument => takePath scope argument progress) progress
      progress.settle scope
    | .long text => do readSubcommand scope rest (← readLong scope text rest progress)
    | .letters text => do readSubcommand scope rest (← readLetters scope text progress)
    | .plain => do readSubcommand scope rest (← takePlain scope argument progress)

/-- The choice of colours with a name; the first one if there is none. -/
def ColorChoice.ofName : Option String → ColorChoice
  | some "always" => .always
  | some "never" => .never
  | _ => .auto

/-- The order of the lowering subcommand. -/
def lowerOrder (progress : Progress) : Except Interruption Order :=
  match progress.path with
  | none => .error (.misuse (.missingPath progress.used))
  | some path =>
    .ok (.lower
      { path := ⟨path⟩
        output := (progress.value? .output).map Path.mk
        target := (progress.value? .target).map Path.mk
        bootstrap := progress.has .bootstrap
        annotate := progress.has .annotate
        color := .ofName (progress.value? .color) })

/-- How much is to be told: as asked behind the subcommand, or else as asked in front of it. -/
def verbosity (before after : Progress) : Nat :=
  if after.occurrences .verbose = 0 then before.occurrences .verbose
  else after.occurrences .verbose

/-- The refusal of an argument that should be the name of a subcommand. -/
def unknownSubcommand (name : String) : Interruption :=
  .misuse (.unknownSubcommand .program name (Text.similarTo name Scope.subcommandNames))

/-- Follows the names behind which help is asked for to the scope that it is about. -/
def readTopic (scope : Scope) : List String → Interruption
  | [] => .help scope
  | name :: rest =>
    match scope.subcommand? name with
    | some scope => readTopic scope rest
    | none => .misuse (.unknownSubcommand scope name [])

/-- The refusal of arguments that end before the subcommand. -/
def endOfProgram (progress : Progress) : Interruption :=
  if progress.given = [] then .noArguments else .misuse .missingSubcommand

/-- Reads the arguments in front of the subcommand, and then those of the subcommand. -/
def readProgram : List String → Progress → Except Interruption Invocation
  | [], progress => .error (endOfProgram progress)
  | argument :: rest, progress =>
    match Scope.program.subcommand? argument with
    | some .lower => do
      let after ← readSubcommand .lower rest {}
      return ⟨← lowerOrder after, verbosity progress after⟩
    | some .schema => do
      let after ← readSubcommand .schema rest {}
      return ⟨.schema, verbosity progress after⟩
    | some _ => .error (readTopic .program rest)
    | none =>
      match Shape.of argument with
      | .escape =>
        match rest with
        | [] => .error (endOfProgram progress)
        | name :: _ =>
          if name ∈ Scope.subcommandNames then .error (.misuse (.subcommandAfterEscape name))
          else .error (unknownSubcommand name)
      | .long text => do readProgram rest (← readLong .program text rest progress)
      | .letters text => do readProgram rest (← readLetters .program text progress)
      | .plain => .error (unknownSubcommand argument)

/-- Reads the arguments of the program. -/
def readArguments (arguments : List String) : Except Interruption Invocation :=
  readProgram arguments {}

end StackLowering.CommandLine

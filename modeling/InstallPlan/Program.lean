import InstallPlan.CommandLine.Arguments
import InstallPlan.CommandLine.Help
import InstallPlan.Job
import InstallPlan.Manual
import InstallPlan.Terminal.Plain

/-!
# Program

The whole program: from an argument list, an environment and a machine to what
appears on the two output streams, and the exit code. Log records go to the
standard error, so that a script on the standard output stays clean.
-/

namespace InstallPlan

namespace Log

/-- The name of a level, five characters wide. -/
def Level.column (level : Level) : String :=
  level.name ++ String.ofList (List.replicate (5 - level.name.length) ' ')

/-- The colour of a level. -/
def Level.code : Level → String
  | .debug => "\x1B[34m"
  | .info => "\x1B[32m"
  | .warning => "\x1B[33m"

/-- A text between the code of its colour and a reset. -/
def painted (color : Bool) (code text : String) : String :=
  if color then code ++ text ++ "\x1B[0m" else text

/-- The line of a record; further lines of its message are indented. -/
def Record.line (color : Bool) (record : Record) : String :=
  painted color "\x1B[90m" "[" ++ painted color record.level.code record.level.column ++ " "
    ++ record.target ++ painted color "\x1B[90m" "]" ++ " "
    ++ indentAfterBreaks "    " record.message ++ "\n"

end Log

/-- The environment of a run of the program. -/
structure Environment where
  surroundings : Surroundings := {}
  /-- Whether messages are coloured. -/
  color : Bool := false
  /-- Whether log records are coloured. -/
  logColor : Bool := false
  /-- Whether help texts are coloured. -/
  helpColor : Bool := false
  deriving DecidableEq, Repr

namespace Environment

/-- Whether a variable is set to anything but zero. -/
def isOn (value : Option String) : Bool := value.any (· ≠ "0")

/-- The environment that variables and the kinds of the two output streams
amount to. Colours can be forced; else they can be refused; else they are for
terminals. For log records and help texts a refusal wins over force, and neither
holds if it is empty. For messages a variable that is not UTF-8 counts as absent. -/
def ofVariables (look : String → Option Octets) (outputIsTerminal errorsAreTerminal : Bool) :
    Environment :=
  let text? (name : String) : Option String := (look name).bind Utf8.decode?
  let isFilled (name : String) : Bool := (look name).any (· ≠ [])
  let wanted := (text? "CLICOLOR").isNone || isOn (text? "CLICOLOR")
  let styled (isTerminal : Bool) : Bool :=
    !isFilled "NO_COLOR" && (isFilled "CLICOLOR_FORCE" || (wanted && isTerminal))
  { surroundings := .ofVariables look
    color :=
      isOn (text? "CLICOLOR_FORCE")
        || ((text? "NO_COLOR").isNone && wanted && outputIsTerminal)
    logColor := styled errorsAreTerminal
    helpColor := styled outputIsTerminal }

end Environment

/-- What a run of the program leaves behind. -/
structure Ending (η : Type) where
  code : Nat
  stdout : Octets
  stderr : Octets
  state : η

namespace Program

/-- Octets that may contain control sequences only if they may be coloured. -/
def shown (color : Bool) (octets : Octets) : Octets :=
  if color then octets else Terminal.plain octets

/-- What an output shows on the standard error. -/
def errorOctets (threshold : Log.Level) (color : Bool) : Output → Octets
  | .log record =>
    if record.passes threshold then shown color (Utf8.encode (record.line color)) else []
  | .stdout _ => []
  | .stderr octets => octets

/-- The job that options ask for. -/
def jobOf (options : Options) (environment : Environment) : Job where
  source := options.specification
  root := options.installRoot
  mode := options.mode
  quiet := options.quiet
  color := environment.color

/-- Runs the program with options. A request for completions is granted without
a word. -/
def runOptions {η : Type} (options : Options) (environment : Environment) (machine : Machine η)
    (state : η) : Ending η :=
  if options.doc then ⟨0, Utf8.encode manual, [], state⟩
  else if options.completions.isSome then ⟨0, [], [], state⟩
  else
    let outcome := (jobOf options environment).run machine state
    let report := (outcome.failure.map fun failure => Utf8.encode failure.report).getD []
    { code := if outcome.failure.isSome then 1 else 0
      stdout := Output.standardOutput outcome.output
      stderr :=
        outcome.output.flatMap (errorOctets options.logLevel environment.logColor) ++ report
      state := outcome.state }

/-- Runs the program. -/
def run {η : Type} (arguments : List Octets) (environment : Environment) (machine : Machine η)
    (state : η) : Ending η :=
  match Options.ofArguments arguments environment.surroundings with
  | .ok options => runOptions options environment machine state
  | .error (.help long) =>
    let lines :=
      if long then Help.long environment.surroundings else Help.short environment.surroundings
    ⟨0, shown environment.helpColor (Utf8.encode (Help.page lines)), [], state⟩
  | .error .version => ⟨0, Utf8.encode Help.version, [], state⟩
  | .error (.misuse reason) => ⟨2, [], Utf8.encode (reason.message ++ "\n"), state⟩

end Program

end InstallPlan

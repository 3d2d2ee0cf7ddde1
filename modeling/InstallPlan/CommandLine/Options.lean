import InstallPlan.Log
import InstallPlan.Mode
import InstallPlan.Path

/-!
# Command line — Options

What the person who runs the program asks for: the options of a run, or one of
the ways in which an argument list asks for something else or cannot be
understood.

Arguments and the values of variables are octets, which need not be UTF-8. A
list of texts, and variables whose values are texts, stand for their octets.
-/

namespace InstallPlan

instance : Coe (List String) (List Octets) := ⟨List.map Utf8.encode⟩

instance : Coe (String → Option String) (String → Option Octets) :=
  ⟨fun look name => (look name).map Utf8.encode⟩

/-- A shell that completions can be printed for. -/
inductive CompletionShell where
  | bash
  | elvish
  | fish
  | powershell
  | zsh
  deriving DecidableEq, Repr

namespace CompletionShell

/-- All shells. -/
def all : List CompletionShell := [.bash, .elvish, .fish, .powershell, .zsh]

/-- The name of a shell. -/
def name : CompletionShell → String
  | .bash => "bash"
  | .elvish => "elvish"
  | .fish => "fish"
  | .powershell => "powershell"
  | .zsh => "zsh"

/-- The shell whose name octets are. -/
def ofOctets? (octets : Octets) : Option CompletionShell :=
  all.find? fun shell => Utf8.encode shell.name = octets

end CompletionShell

/-- The options of a run. -/
structure Options where
  specification : Option Path
  installRoot : Path
  mode : Mode
  debug : Bool
  quiet : Bool
  doc : Bool
  completions : Option CompletionShell
  deriving DecidableEq, Repr

namespace Options

/-- The root when none is chosen. -/
def standardRoot : String := "/mnt"

/-- The least level of the log records that are shown. -/
def logLevel (options : Options) : Log.Level :=
  if options.debug then .debug
  else if options.quiet then .warning
  else .info

end Options

/-- Why an argument list is not understood. -/
inductive Misuse where
  | unknownArgument
  | invalidValue
  | argumentConflict
  | tooManyValues
  deriving DecidableEq, Repr

/-- The wording of a misuse. -/
def Misuse.message : Misuse → String
  | .unknownArgument => "error: unexpected argument found"
  | .invalidValue => "error: invalid value for an argument"
  | .argumentConflict => "error: an argument cannot be used with another, or twice"
  | .tooManyValues => "error: unexpected value for an argument"

/-- What else than options an argument list can amount to. -/
inductive Interruption where
  | help (long : Bool)
  | version
  | misuse (reason : Misuse)
  deriving DecidableEq, Repr

/-- The variables of the environment that stand in for options. -/
structure Surroundings where
  installRoot : Option Octets := none
  mode : Option Octets := none
  deriving DecidableEq, Repr

/-- The variables that stand in for options, among all variables. -/
def Surroundings.ofVariables (look : String → Option Octets) : Surroundings where
  installRoot := look "ARCHSTRAP_INSTALL_ROOT"
  mode := look "ARCHSTRAP_MODE"

end InstallPlan

import InstallPlan.Specification.Basic

/-!
# Fault

What can go wrong, as causes: with files and streams (`IoFault`), and while a
specification is read or carried out (`Fault`). The wording of each is one
function, `message`. A command fails with the status that its shell ended with
(`ExitStatus`).
-/

namespace InstallPlan

/-- What can go wrong with a file, a stream or the start of a program. -/
inductive IoFault where
  | notFound
  | permissionDenied
  | notADirectory
  | isADirectory
  | nameTooLong
  | tooManyLinks
  | nulInPath
  | nulInArgument
  | notUtf8
  /-- The file is no program in a form that is known. -/
  | unknownFormat
  | argumentTooLong
  | other (message : String)
  deriving DecidableEq, Repr

/-- The wording of a fault without its number. -/
def IoFault.reason : IoFault → String
  | .notFound => "No such file or directory"
  | .permissionDenied => "Permission denied"
  | .notADirectory => "Not a directory"
  | .isADirectory => "Is a directory"
  | .nameTooLong => "File name too long"
  | .tooManyLinks => "Too many levels of symbolic links"
  | .nulInPath => "file name contained an unexpected NUL byte"
  | .nulInArgument => "nul byte found in provided data"
  | .notUtf8 => "stream did not contain valid UTF-8"
  | .unknownFormat => "Exec format error"
  | .argumentTooLong => "Argument list too long"
  | .other message => message

/-- The number of a fault that the operating system reports. -/
def IoFault.number? : IoFault → Option Nat
  | .notFound => some 2
  | .permissionDenied => some 13
  | .notADirectory => some 20
  | .isADirectory => some 21
  | .nameTooLong => some 36
  | .tooManyLinks => some 40
  | .unknownFormat => some 8
  | .argumentTooLong => some 7
  | _ => none

/-- The wording of a fault. -/
def IoFault.message (fault : IoFault) : String :=
  match fault.number? with
  | some number => s!"{fault.reason} (os error {number})"
  | none => fault.reason

/-- How a program ends: by itself, with a code, or by a signal, which may leave a
dump of its memory. -/
inductive ExitStatus where
  | exited (code : Nat)
  | signalled (number : Nat) (dumped : Bool)
  deriving DecidableEq, Repr

namespace ExitStatus

/-- The names of the signals, in the order of their numbers from one on. -/
def signalNames : List String :=
  ["HUP", "INT", "QUIT", "ILL", "TRAP", "ABRT", "BUS", "FPE", "KILL", "USR1", "SEGV", "USR2",
    "PIPE", "ALRM", "TERM", "STKFLT", "CHLD", "CONT", "STOP", "TSTP", "TTIN", "TTOU", "URG",
    "XCPU", "XFSZ", "VTALRM", "PROF", "WINCH", "IO", "PWR", "SYS"]

/-- The name of a signal. Not every signal has one. -/
def signalName? : Nat → Option String
  | 0 => none
  | number + 1 => signalNames[number]?

/-- The wording of a status. -/
def message : ExitStatus → String
  | .exited code => s!"exit status: {code}"
  | .signalled number dumped =>
    let name := ((signalName? number).map fun name => " (SIG" ++ name ++ ")").getD ""
    s!"signal: {number}" ++ name ++ if dumped then " (core dumped)" else ""

/-- The number that a shell tells of a status. -/
def number : ExitStatus → Nat
  | .exited code => code
  | .signalled number _ => 128 + number

instance : Coe ExitStatus Nat := ⟨number⟩

end ExitStatus

/-- What can go wrong with a specification. -/
inductive Fault where
  | invalidSpecification (reason : InvalidSpecification)
  | unknownMode (name : String)
  /-- The shell for a command could not be started. -/
  | spawnFailed (command : String) (reason : IoFault)
  /-- The shell for a command did not end with the code zero. -/
  | commandFailed (command : String) (status : ExitStatus)
  | io (reason : IoFault)
  deriving DecidableEq, Repr

namespace Fault

/-- The wording of a fault. -/
def message : Fault → String
  | .invalidSpecification reason => "invalid specification: " ++ reason.message
  | .unknownMode name => "unknown mode '" ++ name ++ "' (expected exec, dryrun or shell)"
  | .spawnFailed command _ => "failed to execute: " ++ command
  | .commandFailed command status => "command failed (" ++ status.message ++ "): " ++ command
  | .io reason => "IO error: " ++ reason.message

/-- What a fault comes from, when that is known. -/
def reason? : Fault → Option String
  | .invalidSpecification reason => some reason.message
  | .spawnFailed _ reason => some reason.message
  | .io reason => some reason.message
  | .unknownMode _ | .commandFailed _ _ => none

/-- Whether a fault arose from carrying out a command. -/
def isExecution : Fault → Bool
  | .spawnFailed _ _ | .commandFailed _ _ => true
  | _ => false

end Fault

end InstallPlan

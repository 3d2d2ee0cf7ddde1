import InstallPlan.Rehearsal.Process

/-!
# Rehearsal — Errands

What a program does that comes with the system, step by step: it reads and
writes by its channels, looks at files and changes them, and ends with a status.
What is said is kept back until the end, or until something must not wait for
it; complaints go out at once.
-/

namespace InstallPlan

namespace Rehearsal

/-- How a program ends. -/
inductive Halt where
  | ended (status : Nat)
  | killed (signal : Nat)
  /-- It took too many steps. -/
  | exhausted
  deriving DecidableEq

/-- The status of an ending. -/
def Halt.exitStatus : Halt → ExitStatus
  | .ended status => .exited status
  | .killed signal => .signalled signal false
  | .exhausted => .exited 1

/-- The number that is told of an ending. -/
def Halt.status (halt : Halt) : Nat := halt.exitStatus.number

/-- A program at work. -/
structure Desk where
  process : Process
  /-- The name that the program was called by. -/
  name : Raw
  /-- What is to be written, the last part first. -/
  pending : List Raw := []
  status : Nat := 0

/-- A step of a program. -/
abbrev Errand := EStateM Halt Desk

/-- The raw text of a constant. -/
abbrev raw (text : String) : Raw := text.toList

namespace Errand

/-- What a program works with. -/
def process : Errand Process := return (← get).process

/-- Changes what a program works with. -/
def setProcess (process : Process) : Errand Unit := modify fun desk => { desk with process }

/-- The files. -/
def tree : Errand Tree := return (← get).process.tree

/-- The directory that the program is in. -/
def here : Errand Nat := return (← get).process.here

/-- Sets the status. -/
def setStatus (status : Nat) : Errand Unit := modify fun desk => { desk with status }

/-- Ends the program. -/
def stop {α : Type} (status : Nat) : Errand α := throw (.ended status)

/-- Says something, in time. -/
def say (text : Raw) : Errand Unit :=
  modify fun desk => { desk with pending := text :: desk.pending }

/-- Says a line. -/
def sayLine (text : Raw) : Errand Unit := say (text ++ ['\n'])

/-- Writes to a channel at once. -/
def write (channel : Nat) (text : Raw) : Errand (Except IoFault Unit) := do
  let process ← process
  match process.stream? channel with
  | none => return if text = [] then .ok () else .error .badChannel
  | some stream =>
    match process.system.write stream text with
    | .error fault => return .error fault
    | .ok system =>
      setProcess { process with system }
      return .ok ()

/-- Writes to the channel for complaints. -/
def shout (text : Raw) : Errand Unit := do
  let _ ← write 2 text

/-- Complains in the program's name. -/
def warn (message : Raw) : Errand Unit := do
  shout ((← get).name ++ raw ": " ++ message ++ ['\n'])

/-- Complains, and remembers a status. -/
def faultWith (status : Nat) (message : Raw) : Errand Unit := do
  warn message
  setStatus status

/-- Complains, and remembers that something failed. -/
def fault (message : Raw) : Errand Unit := faultWith 1 message

/-- Complains and ends the program. -/
def die {α : Type} (status : Nat) (message : Raw) : Errand α := do
  warn message
  stop status

/-- Ends the program for a use that makes no sense. -/
def misuse {α : Type} (status : Nat) (message : Raw) : Errand α := do
  warn message
  shout (raw "Try '" ++ (← get).name ++ raw " --help' for more information.\n")
  stop status

/-- Writes what has been said. -/
def flush : Errand Unit := do
  let text := (← get).pending.reverse.flatten
  modify fun desk => { desk with pending := [] }
  match ← write 1 text with
  | .ok _ => pure ()
  | .error reason => fault (raw "write error: " ++ raw reason.reason)

/-- A text between quotes. -/
def quote (text : Raw) : Raw := '\x27' :: text ++ ['\x27']

/-- What is wrong with a path. -/
def about (path : Raw) (reason : IoFault) : Raw := path ++ raw ": " ++ raw reason.reason

/-- All that can be read from a channel. -/
def drain (channel : Nat) : Errand (Except IoFault Raw) := do
  let process ← process
  match process.stream? channel with
  | none => return .error .badChannel
  | some stream =>
    match process.system.waiting stream none with
    | .error fault => return .error fault
    | .ok text =>
      setProcess { process with system := process.system.consume stream text.length }
      return .ok text

/-- The content that a path stands for; a dash stands for the input. -/
def content (path : Raw) : Errand (Except IoFault Raw) := do
  if path = ['-'] then drain 0
  else
    let (result, process) := (← process).contentAt path
    setProcess process
    return result

/-- The contents of some paths, or the input for want of any, each with its path.
What cannot be read is complained about. -/
def contents (paths : List Raw) : Errand (List (Raw × Raw)) := do
  let paths := if paths = [] then [['-']] else paths
  let found ← paths.mapM fun path => do
    match ← content path with
    | .ok text => return [(path, text)]
    | .error reason =>
      fault (about path reason)
      return []
  return found.flatten

/-- Says what becomes of the contents of some paths together. -/
def filter (paths : List Raw) (f : Raw → Raw) : Errand Unit := do
  let found ← contents paths
  say (f (found.flatMap (·.2)))

/-- Changes the files, or says why not. -/
def change (f : Tree → Except IoFault Tree) : Errand (Except IoFault Unit) := do
  let process ← process
  match f process.tree with
  | .ok tree =>
    setProcess (process.withTree tree)
    return .ok ()
  | .error reason => return .error reason

/-- Writes a whole file. -/
def store (path content : Raw) (access : Access) : Errand (Except IoFault Unit) := do
  let process ← process
  match process.openPath path access with
  | .error reason => return .error reason
  | .ok (stream, process) =>
    match process.system.write stream content with
    | .error reason =>
      setProcess process
      return .error reason
    | .ok system =>
      setProcess { process with system }
      return .ok ()

/-- Carries out an errand in a process, and tells how it ends. -/
def carryOut (errand : Errand Unit) (name : Raw) (process : Process) : Halt × Process :=
  match errand { process, name } with
  | .ok _ desk =>
    match flush desk with
    | .ok _ desk => (.ended desk.status, desk.process)
    | .error halt desk => (halt, desk.process)
  | .error halt desk =>
    match flush desk with
    | .ok _ after =>
      match halt with
      | .ended status => (.ended (max status (min after.status 1)), after.process)
      | halt => (halt, after.process)
    | .error halt after => (halt, after.process)

end Errand

/-- How a program starts another one and waits for it: by its name and arguments,
with the channels and the environment that it has itself. Nothing comes back if the
other one takes too many steps. -/
abbrev Caller := List Raw → Errand (Except IoFault Halt)

/-- The number that decimal digits stand for. -/
def ofDecimal (digits : Raw) : Nat := digits.foldl (fun n c => n * 10 + (c.toNat - 48)) 0

/-- The number that a text of decimal digits stands for. -/
def decimal? (text : Raw) : Option Nat :=
  if text = [] ∨ !text.all Char.isDigit then none else some (ofDecimal text)

end Rehearsal

end InstallPlan

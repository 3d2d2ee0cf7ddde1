import InstallPlan.Rehearsal.Editor.Work
import InstallPlan.Rehearsal.Errand.Copying
import InstallPlan.Rehearsal.Errand.Finding
import InstallPlan.Rehearsal.Errand.Listing
import InstallPlan.Rehearsal.Errand.Order
import InstallPlan.Rehearsal.Errand.Parts
import InstallPlan.Rehearsal.Errand.Saying
import InstallPlan.Rehearsal.Errand.Searching
import InstallPlan.Rehearsal.Errand.Words
import InstallPlan.Rehearsal.Records.Work
import InstallPlan.Rehearsal.Shell.Starting

/-!
# Rehearsal — Programs

The programs that come with the system, by their names: the shells, and what they
call most. A shell carries out programs, and programs carry out each other; each
such level takes one of a fixed number of levels (`interpreter`).
-/

namespace InstallPlan

namespace Rehearsal

namespace Programs

/-- The names of the shells, and whether they know the richer dialect. -/
def shells : List (String × Bool) := [("bash", true), ("dash", false), ("sh", false)]

/-- The programs that call others. -/
def calling : List (String × (Caller → List Raw → Errand Unit)) := [
  ("awk", Errand.processRecords), ("env", Errand.environment), ("find", Errand.find),
  ("flock", Errand.locked), ("mawk", Errand.processRecords),
  ("nice", Errand.nice), ("nohup", Errand.immune), ("sed", Errand.edit), ("setsid", Errand.session),
  ("stdbuf", Errand.buffered), ("timeout", Errand.limited), ("xargs", Errand.gather)]

/-- The programs that work alone. -/
def alone : List (String × (List Raw → Errand Unit)) := [
  ("[", Errand.bracket), ("arch", Errand.constant "x86_64"), ("basename", Errand.basename),
  ("cat", Errand.cat), ("chgrp", Errand.changeOwner), ("chmod", Errand.changeMode),
  ("chown", Errand.changeOwner), ("comm", Errand.common), ("cp", Errand.copy),
  ("cut", Errand.cut), ("date", Errand.date), ("dd", Errand.copyBlocks), ("dir", Errand.list),
  ("dirname", Errand.dirname), ("echo", Errand.echo), ("egrep", Errand.searchAs "-E"), ("expand", Errand.expanded),
  ("expr", Errand.expression), ("false", Errand.ending 1), ("fgrep", Errand.searchAs "-F"),
  ("fold", Errand.folded), ("grep", Errand.search),
  ("head", Errand.head), ("hostname", Errand.constant "localhost"), ("id", Errand.identity),
  ("install", Errand.install), ("link", Errand.link), ("ln", Errand.link),
  ("ls", Errand.list), ("mkdir", Errand.makeDirectories), ("mkfifo", Errand.makeQueues),
  ("mktemp", Errand.makeTemporary), ("mv", Errand.move), ("nl", Errand.numbered),
  ("nproc", Errand.constant "1"), ("paste", Errand.paste), ("printenv", Errand.printEnvironment),
  ("printf", Errand.printFormat), ("pwd", Errand.workingDirectory),
  ("readlink", Errand.readLink), ("realpath", Errand.realPath), ("rev", Errand.turned),
  ("rm", Errand.removeFiles), ("rmdir", Errand.removeDirectories), ("seq", Errand.sequence),
  ("sleep", Errand.sleep), ("sort", Errand.sort), ("stat", Errand.tellStatus),
  ("sync", Errand.ending 0), ("tac", Errand.reversedLines), ("tail", Errand.tail),
  ("tee", Errand.tee), ("test", Errand.test), ("touch", Errand.touch), ("tr", Errand.translate),
  ("true", Errand.ending 0), ("truncate", Errand.truncate), ("tty", Errand.terminal),
  ("uname", Errand.systemName), ("uniq", Errand.unique), ("unlink", Errand.removeOne),
  ("wc", Errand.wordCount), ("which", Errand.which), ("whoami", Errand.constant "root"),
  ("yes", Errand.endless)]

/-- The names of all programs. -/
def names : List String := shells.map (·.1) ++ calling.map (·.1) ++ alone.map (·.1)

/-- The search path of programs that have none in their environment. -/
def fallbackPath : Raw := raw "/bin:/usr/bin"

/-- How a program calls another one that is started in some way. -/
def caller (start : String → List Raw → Process → Halt × Process) : Caller := fun words => do
  let process ← Errand.process
  let path := (process.value? (raw "PATH")).getD fallbackPath
  let call := Lookup.callOrScript process.tree process.here
  match Lookup.search call path (words.headD []) words with
  | .error fault => return .error fault
  | .ok (program, words) =>
    let id := process.system.lastId + 1
    let (halt, after) :=
      start program words { process with id, system := { process.system with lastId := id } }
    Errand.setProcess (process.after after)
    if halt = .exhausted then throw .exhausted
    return .ok halt

/-- Carries out a program. What programs it starts are carried out by an
interpreter. -/
def start (interpreter : Interpreter) (program : String) (words : List Raw) (process : Process) :
    Halt × Process :=
  let name := words.headD []
  let arguments := words.drop 1
  match shells.lookup program, calling.lookup program, alone.lookup program with
  | some rich, _, _ => Starting.shell interpreter rich words process
  | _, some errand, _ =>
    Errand.carryOut (errand (caller interpreter.start) arguments) name process
  | _, _, some errand => Errand.carryOut (errand arguments) name process
  | none, none, none => (.ended 127, process)

/-- Carries out what scripts and programs hold, at most so many levels deep. -/
def interpreter : Nat → Interpreter
  | 0 =>
    { expand := fun _ _ => throw .exhausted
      command := fun _ _ => throw .exhausted
      start := fun _ _ process => (.exhausted, process) }
  | levels + 1 =>
    { expand := fun manner word shell =>
        Expansion.pieces (interpreter levels) manner true word shell
      command := fun tested command shell =>
        Evaluation.carryOut (interpreter levels) tested command shell
      start := fun program words process => start (interpreter levels) program words process }

/-- The number of levels that are enough for all but endless scripts. -/
def maxLevels : Nat := 1000000

/-- Carries out a program with all that it starts. -/
def carryOut (program : String) (words : List Raw) (process : Process) : Halt × Process :=
  (interpreter maxLevels).start program words process

end Programs

end Rehearsal

end InstallPlan

import InstallPlan.Rehearsal.Shell.Interpreter
import InstallPlan.Rehearsal.Shell.Waiting

/-!
# Rehearsal — Running scripts

Carries out the text of a script line by line, in the shell itself or in one of
its own, and takes up what a script prints.
-/

namespace InstallPlan

namespace Rehearsal

namespace Act

/-- Reads the next complete line of a script, and gives what is left. -/
def readPortion (text : Raw) (line : Nat) : Act (Script.Portion × Raw × Nat) := do
  let shell ← get
  let cursor : Script.Cursor :=
    { dialect := shell.dialect
      patternGroups := shell.style.groups
      rest := text
      line
      next := shell.nextDocument
      aliases := if shell.isRich && !shell.has "expand_aliases" then [] else shell.aliases }
  match Script.portion cursor with
  | .ok portion after =>
    modify fun shell =>
      { shell with
        nextDocument := after.next
        documents := after.documents ++ shell.documents }
    return (portion, after.rest, after.line)
  | .error complaint _ =>
    modify fun shell => { shell with line := complaint.line }
    failWith 2 (complaint.flaw.message shell.dialect)

/-- Carries out what is left of a script, in at most so many lines. -/
def runLines (interpreter : Interpreter) (tested : Bool) : Nat → Raw → Nat → Act Unit
  | 0, _, _ => throw .exhausted
  | steps + 1, text, line => do
    match ← readPortion text line with
    | (.finish, _, _) => pure ()
    | (.line none, rest, line) => runLines interpreter tested steps rest line
    | (.line (some command), rest, line) =>
      if !(← get).has "noexec" then
        match ← attempt (interpreter.command tested command) with
        | .error .abandoned => setStatus 1
        | result => resume result
      runLines interpreter tested steps rest line

/-- Carries out the text of a script. -/
def runText (interpreter : Interpreter) (tested : Bool) (text : Raw) : Act Unit := do
  runLines interpreter tested (text.length + 2) text 1

/-- Does what is to be done when the shell ends. The status stays as it is. -/
def farewell (interpreter : Interpreter) : Act Unit := do
  let shell ← get
  match shell.traps.find? (·.1 == "EXIT") with
  | none => pure ()
  | some (_, script) =>
    modify fun shell =>
      { shell with traps := shell.traps.filter (·.1 != "EXIT"), context := none }
    match ← attempt (runText interpreter false script) with
    | .error .exhausted => throw .exhausted
    | .error (.killed signal) => throw (.killed signal)
    | .error (.ended status) => setStatus status
    | _ => setStatus shell.status

/-- Carries out a step to the end of the shell, whatever interrupts it. -/
def toTheEnd (interpreter : Interpreter) (act : Act Unit) : Act Unit := do
  match ← attempt act with
  | .ok _ => pure ()
  | .error (.ended status) | .error (.failed status) | .error (.back status) => setStatus status
  | .error .abandoned => setStatus 1
  | .error (.out _) | .error (.next _) => pure ()
  | .error (.killed signal) => throw (.killed signal)
  | .error .exhausted => throw .exhausted
  farewell interpreter
  runJobs

/-- Carries out a command in a shell of its own. -/
def runApart (interpreter : Interpreter) (tested : Bool) (command : Command) : Act Nat :=
  apart (toTheEnd interpreter (interpreter.command tested command))

/-- What a command prints in a shell of its own, and its status. -/
def outputOf (interpreter : Interpreter) (command : Command) : Act (Raw × Nat) := do
  let (stream, process) := (← get).process.adding { origin := .pipe [], reads := false }
  setProcess process
  let status ← apart do
    modify fun shell =>
      { shell with
        process := shell.process.lead 1 (some stream)
        options := if shell.isRich then shell.options.filter (· != "errexit") else shell.options }
    toTheEnd interpreter (interpreter.command false command)
  match (← get).process.system.origin? stream with
  | some (.pipe content) => return (content, status)
  | _ => return ([], status)

end Act

end Rehearsal

end InstallPlan

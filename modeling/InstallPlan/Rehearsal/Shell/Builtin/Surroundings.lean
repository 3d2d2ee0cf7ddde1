import InstallPlan.Rehearsal.Errand.Files
import InstallPlan.Rehearsal.Shell.Builtin.Basic
import InstallPlan.Rehearsal.Signal

/-!
# Rehearsal — Commands of the shell about its surroundings

The directory that the shell is in, what new files may be used for, and the
signals and jobs that it deals with.
-/

namespace InstallPlan

namespace Rehearsal

namespace Builtin

/-! ## Directories -/

/-- The path that a path leads to by its names alone, seen from a directory. -/
def logical (place path : Raw) : Raw :=
  let start := if path.head? = some '/' then [] else Tree.stepsOf place
  let steps := (Raw.split '/' path).foldl
    (fun steps step =>
      if step = [] ∨ step = ['.'] then steps
      else if step = ['.', '.'] then steps.dropLast
      else steps ++ [step])
    start
  if steps = [] then ['/'] else steps.flatMap ('/' :: ·)

/-- Enters a directory. -/
def enter (physical : Bool) (path : Raw) : Act (Option IoFault) := do
  let shell ← get
  let target := if physical then path else logical shell.place path
  let target := if path = [] then shell.place else target
  match shell.tree.find shell.here target with
  | .error fault => return some fault
  | .ok number =>
    match shell.tree.node? number with
    | some node =>
      if !node.entry.isDirectory then return some .notADirectory
      else
        let place := if physical then shell.tree.pathOf number else target
        let exports (name value : Raw) : Act Unit := do
          Act.assign name value
          if !shell.isRich then Act.change name fun setting => { setting with exported := true }
        exports (raw "OLDPWD") shell.place
        exports (raw "PWD") place
        modify fun shell => { shell with place, process := { shell.process with here := number } }
        return none
    | none => return some .notFound

/-- Whether a path begins with a dot or two that stand for a directory. -/
def isDotted (path : Raw) : Bool :=
  let first := path.takeWhile (· ≠ '/')
  first = ['.'] || first = ['.', '.']

/-- Changes the directory. -/
def changeDirectory (arguments : List Raw) : Act Unit := do
  let (found, operands) ← options "LP" arguments
  let shell ← get
  let rich := shell.isRich
  let physical := (found.getLast?).any (·.1 = 'P')
  let home := shell.value? (raw "HOME")
  let old := shell.value? (raw "OLDPWD")
  if rich then
    if 1 < operands.length then deny (raw "too many arguments")
    if operands = [] ∧ home = none then deny (raw "HOME not set")
    if operands = [['-']] ∧ old = none then deny (raw "OLDPWD not set")
  let (path, tells) : Raw × Bool :=
    match operands with
    | [] => (home.getD [], false)
    | ['-'] :: _ => (old.getD [], true)
    | path :: _ => (path, false)
  let searched : Option (Raw × Bool) :=
    if path.head? = some '/' ∨ isDotted path then none
    else
      match shell.value? (raw "CDPATH") with
      | none => none
      | some directories =>
        (Raw.split ':' directories).findSome? fun directory =>
          let whole := if directory = [] then path else directory ++ ['/'] ++ path
          if shell.tree.leadsToDirectory shell.here whole then some (whole, directory ≠ [])
          else none
  let (target, tells) :=
    match searched with
    | some (target, more) => (target, tells || more)
    | none => (if path = [] then ['.'] else path, tells)
  match ← enter physical target with
  | none =>
    if tells then Act.sayLine (← get).place
    Act.setStatus 0
  | some fault =>
    if rich then deny (path ++ raw ": " ++ raw fault.reason)
    else deny (raw "can't cd to " ++ path)

/-- Says what directory the shell is in. -/
def sayPlace (arguments : List Raw) : Act Unit := do
  let (found, _) ← options "LP" arguments
  let shell ← get
  Act.sayLine
    (if (found.getLast?).any (·.1 = 'P') then shell.tree.pathOf shell.here else shell.place)
  Act.setStatus 0

/-- Enters a directory and remembers the one that is left, or comes back. -/
def visit (comesBack : Bool) (arguments : List Raw) : Act Unit := do
  let shell ← get
  let target? : Option (Raw × List Raw) :=
    if comesBack then
      match shell.stack with
      | top :: rest => some (top, rest)
      | [] => none
    else
      match arguments, shell.stack with
      | [], top :: rest => some (top, shell.place :: rest)
      | path :: _, stack => some (path, shell.place :: stack)
      | [], [] => none
  match target? with
  | none => deny (raw (if comesBack then "directory stack empty" else "no other directory"))
  | some (path, stack) =>
    match ← enter false path with
    | some fault => deny (path ++ raw ": " ++ raw fault.reason)
    | none =>
      modify fun shell => { shell with stack }
      Act.sayLine (Raw.joined [' '] ((← get).place :: stack))
      Act.setStatus 0

/-! ## Modes -/

/-- The letters of three bits. -/
def letterBits (bits : Nat) : Raw :=
  (if bits &&& 4 ≠ 0 then ['r'] else []) ++ (if bits &&& 2 ≠ 0 then ['w'] else [])
    ++ (if bits &&& 1 ≠ 0 then ['x'] else [])

/-- Shows or sets what new files may not be used for. -/
def umask (arguments : List Raw) : Act Unit := do
  let (found, operands) ← options "Sp" arguments
  let process := (← get).process
  let mask := process.mask
  Act.setStatus 0
  match operands with
  | [] =>
    let allowed := 0o777 ^^^ mask
    Act.sayLine
      (if has found 'S' then
        raw "u=" ++ letterBits (allowed / 64) ++ raw ",g=" ++ letterBits (allowed / 8)
          ++ raw ",o=" ++ letterBits allowed
      else
        let digits := Nat.toDigits 8 mask
        List.replicate (4 - digits.length) '0' ++ digits)
  | text :: _ =>
    if text.all Char.isDigit then
      if text.all Escapes.isOctal then
        Act.setProcess { process with mask := Escapes.ofDigits 8 text % 512 }
      else misuse (raw "Illegal number: " ++ text)
    else
      match Errand.newMode? 0 false (0o777 ^^^ mask) text with
      | some mode => Act.setProcess { process with mask := 0o777 ^^^ (mode % 512) }
      | none => misuse (raw "Illegal mode: " ++ text)

/-- Says how much of a resource there is. -/
def limit (arguments : List Raw) : Act Unit := do
  let (found, operands) ← options "HSatfdscmlpnvwr" arguments
  if operands = [] then
    Act.sayLine (if has found 'n' then raw "1024" else raw "unlimited")
  Act.setStatus 0

/-! ## Signals -/

/-- Says what is to be done for signals and at the end, or shows it. -/
def trap (arguments : List Raw) : Act Unit := do
  let (found, operands) ← options (if (← get).isRich then "lp" else "") arguments
  let rich := (← get).isRich
  let tell (names : List String) : Act Unit := do
    let traps := (← get).traps
    names.forM fun name => do
      match traps.find? (·.1 == name) with
      | some (_, action) =>
        let shownName := if rich && name != "EXIT" && name != "ERR" then "SIG" ++ name else name
        Act.sayLine (raw "trap -- "
          ++ (if rich then Expansion.singleQuoted action
            else '\x27' :: (action.flatMap fun c => if c = '\x27' then raw "'\"'\"'" else [c])
              ++ ['\x27'])
          ++ [' '] ++ raw shownName)
      | none => pure ()
  Act.setStatus 0
  let nameOf? (text : Raw) : Option String :=
    if rich && (text = raw "ERR" || text = raw "DEBUG" || text = raw "RETURN") then
      some (String.ofList text)
    else (Signal.ofText? rich text).map Signal.name
  match operands with
  | [] => tell (Signal.names ++ ["ERR", "DEBUG", "RETURN"])
  | first :: rest =>
    let isAction := rest ≠ [] && (decimal? first).isNone
    let conditions := if isAction then rest else operands
    let action : Option Raw := if isAction ∧ first ≠ ['-'] then some first else none
    if has found 'p' then tell (operands.filterMap nameOf?)
    else
      conditions.forM fun condition => do
        match nameOf? condition with
        | some name =>
          modify fun shell =>
            { shell with
              traps := (action.map fun a => (name, a)).toList
                ++ shell.traps.filter (·.1 != name) }
        | none =>
          if rich then Act.complain (condition ++ raw ": invalid signal specification")
          else
            let _ ← Act.emit 2 (raw "trap: " ++ condition ++ raw ": bad trap\n")
          Act.setStatus 1

/-- The number of the process that an operand of a command about jobs means. -/
def processOf? (shell : Shell) (text : Raw) : Option Nat :=
  match text with
  | '%' :: digits =>
    if digits = [] ∨ digits = ['%'] ∨ digits = ['+'] then shell.jobs.getLast?.map (·.id)
    else (decimal? digits).bind fun n => (shell.jobs[n - 1]?).map (·.id)
  | digits => decimal? digits

/-- Sends a signal to a process. One that ends the shell itself ends it at once,
unless there is something to be done for it, which is told. -/
def kill (runTrap : Raw → Act Unit) (arguments : List Raw) : Act Unit := do
  let shell ← get
  let usage {α : Type} : Act α :=
    if shell.isRich then
      misuse (raw "usage: kill [-s sigspec | -n signum | -sigspec] pid | jobspec ... or "
        ++ raw "kill -l [sigspec]")
    else misuse (raw "Usage: kill [-s sigspec | -signum | -sigspec] [pid | job]... or\n"
      ++ raw "kill -l [exitstatus]")
  let send (signal : Nat) (operands : List Raw) : Act Unit := do
    if operands = [] then usage
    operands.forM fun operand => do
      let shell ← get
      match processOf? shell operand with
      | some id =>
        if id = shell.process.id then
          if signal = 0 then pure ()
          else
            match shell.traps.find? (·.1 == Signal.name signal) with
            | some (_, []) => pure ()
            | some (_, script) => runTrap script
            | none => if signal = 17 ∨ signal = 18 then pure () else throw (.killed signal)
        else if shell.jobs.any (·.id = id) then
          if signal ≠ 0 ∧ signal ≠ 17 ∧ signal ≠ 18 then Act.stopJob id signal
        else
          if shell.isRich then Act.complain (raw "(" ++ operand ++ raw ") - No such process")
          else Act.complain (raw "No such process\n")
          Act.setStatus 1
      | none =>
        Act.complain (if shell.isRich then
          operand ++ raw ": arguments must be process or job IDs" else raw "Illegal number: " ++ operand)
        Act.setStatus (if shell.isRich then 1 else 2)
  Act.setStatus 0
  match arguments with
  | [] => usage
  | first :: operands =>
    if first = raw "-l" then
      if operands = [] then (['0'] :: (Signal.names.drop 1).map raw).forM Act.sayLine
      else
        operands.forM fun operand => do
          match decimal? operand with
          | some n => Act.sayLine (raw (Signal.name (if 128 < n then n - 128 else n)))
          | none => Act.sayLine (Raw.ofNat ((Signal.ofText? shell.isRich operand).getD 0))
    else if first = raw "--" then send 15 operands
    else if first = raw "-s" then
      match operands with
      | name :: operands =>
        match Signal.ofText? true name with
        | some signal => send signal operands
        | none => misuse (raw "invalid signal number or name: " ++ name)
      | [] => usage
    else if first.head? = some '-' then
      match Signal.ofText? true (first.drop 1) with
      | some signal => send signal operands
      | none =>
        if shell.isRich then misuse (first.drop 1 ++ raw ": invalid signal specification")
        else misuse (raw "Illegal option " ++ first.take 2)
    else send 15 arguments

/-! ## Jobs -/

/-- Waits for jobs: for all, for some, or for the one that comes to its end first. -/
def wait (arguments : List Raw) : Act Unit := do
  let (found, operands) ← options (if (← get).isRich then "fn" else "") arguments
  let stopped := ((← get).jobs.filter (·.status.isSome)).map (·.id)
  Act.setStatus 0
  if has found 'n' then
    match ← Act.advance none false with
    | some id => Act.setStatus (((← get).jobs.find? (·.id = id)).bind (·.status) |>.getD 0)
    | none => Act.setStatus 127
  else if operands = [] then
    Act.runJobs
    modify fun shell => { shell with jobs := [] }
  else
    operands.forM fun operand => do
      let shell ← get
      match processOf? shell operand with
      | none =>
        if operand.head? = some '%' then deny (raw "No such job: " ++ operand)
        else deny (raw "Illegal number: " ++ operand)
      | some id =>
        Act.runUntil id shell.jobs.length
        match (← get).jobs.find? (·.id = id) with
        | some job =>
          let status := job.status.getD 0
          if stopped.contains id then Act.announce (status - 128)
          Act.setStatus status
        | none => Act.setStatus 127
  Act.checkTime

end Builtin

end Rehearsal

end InstallPlan

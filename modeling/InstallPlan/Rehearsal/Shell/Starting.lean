import InstallPlan.Rehearsal.Shell.Evaluation

/-!
# Rehearsal — Starting a shell

A shell is a program: its words say which options are set and where the script
is, and its environment gives it its first variables. `Starting.shell` carries
out a whole script and tells how the shell ends.
-/

namespace InstallPlan

namespace Rehearsal

namespace Starting

/-- How a shell is called. -/
structure Request where
  /-- Whether the first operand is the script itself. -/
  isScript : Bool := false
  /-- Whether the script is read from the input. -/
  isInput : Bool := false
  operands : List Raw := []

/-- Sets options by letters that stand together, and gives the arguments that are
left, and whether the script is to be an operand, or the input. -/
def cluster (isOn : Bool) : Raw → List Raw → Request → Act Request
  | [], rest, request => return { request with operands := rest }
  | c :: more, rest, request => do
    let rich := (← get).isRich
    if c = 'c' then
      if rich then modify (Shell.withOption "command" true)
      cluster isOn more rest { request with isScript := true }
    else if c = 'o' then
      match rest with
      | name :: rest =>
        Builtin.setNamed isOn name
        cluster isOn more rest request
      | [] => cluster isOn more [] request
    else if rich ∧ c = 'O' then
      match rest with
      | name :: rest =>
        modify (Shell.withOption (String.ofList name) isOn)
        cluster isOn more rest request
      | [] => cluster isOn more [] request
    else if c = 'l' ∨ (rich ∧ (c = 'i' ∨ c = 'r' ∨ c = 'D')) then cluster isOn more rest request
    else
      Builtin.setLetter isOn c
      cluster isOn more rest { request with isInput := request.isInput || (c = 's' && isOn) }

/-- Reads the words that a shell is called with. -/
def read : Nat → List Raw → Request → Act Request
  | 0, rest, request => return { request with operands := rest }
  | _, [], request => return { request with operands := [] }
  | steps + 1, word :: rest, request => do
    let rich := (← get).isRich
    match word with
    | ['-'] | ['-', '-'] => return { request with operands := rest }
    | '-' :: '-' :: name =>
      if rich then
        let text := String.ofList name
        if text == "version" || text == "help" then throw (.ended 0)
        else if text == "posix" then
          modify (Shell.withOption "posix" true)
          read steps rest request
        else if ["norc", "noprofile", "login", "noediting", "restricted", "verbose"].contains text
        then read steps rest request
        else if text == "rcfile" || text == "init-file" then read steps (rest.drop 1) request
        else
          Act.complain (word ++ raw ": invalid option")
          throw (.failed 2)
      else
        Builtin.misuse (raw "Illegal option --")
    | '-' :: letters =>
      let request ← cluster true letters rest request
      read steps request.operands request
    | '+' :: letters =>
      let request ← cluster false letters rest request
      read steps request.operands request
    | _ => return { request with operands := word :: rest }

/-- The variables that a shell has by itself. -/
def standardSettings (rich : Bool) : List (Raw × Setting) :=
  let plain (name value : String) : Raw × Setting := (raw name, { value := some (.text (raw value)) })
  let list (name : String) (items : List String) : Raw × Setting :=
    (raw name, { value := some (.list (items.mapIdx fun i t => (i, raw t))) })
  let common := [
    (raw "IFS", { value := some (.text Shell.standardSeparators) }),
    (raw "OPTIND", { value := some (.text ['1']) }),
    (raw "PATH", { value := some (.text Meaning.standardPath) }),
    plain "PPID" "1", plain "PS4" "+ "]
  if rich then
    common ++ [
      plain "BASH" "/bin/bash", plain "BASH_VERSION" "5.2.15(1)-release",
      list "BASH_VERSINFO" ["5", "2", "15", "1", "release", "x86_64-pc-linux-gnu"],
      plain "HOSTTYPE" "x86_64", plain "MACHTYPE" "x86_64-pc-linux-gnu", plain "OSTYPE" "linux-gnu",
      plain "HOSTNAME" "localhost", plain "UID" "0", plain "EUID" "0", plain "OPTERR" "1",
      list "GROUPS" ["0"], plain "SHELL" "/bin/bash"]
  else common ++ [plain "PS1" "# ", plain "PS2" "> "]

/-- The variables of a shell with one that comes from its environment. A few of its own
keep their values. -/
def inherit (settings : List (Raw × Setting)) (name value : Raw) : List (Raw × Setting) :=
  if !isName name then settings
  else
    let isFixed := name = raw "IFS" || name = raw "OPTIND" || name = raw "PPID"
    match settings.find? (·.1 = name) with
    | some (_, old) =>
      let value := if isFixed then old.value else some (.text value)
      settings.map fun s => if s.1 = name then (name, { old with value, exported := true }) else s
    | none => settings ++ [(name, { value := some (.text value), exported := true })]

/-- The variables of a shell that gets an environment. -/
def settingsFrom (rich : Bool) (environment : List (Raw × Raw)) : List (Raw × Setting) :=
  environment.foldl (fun settings v => inherit settings v.1 v.2) (standardSettings rich)

/-- A shell that is called by a name in a process. -/
def fresh (rich : Bool) (name : Raw) (process : Process) : Shell :=
  let settings := settingsFrom rich process.environment
  let isHere (path : Raw) : Bool :=
    path.head? = some '/' && (process.tree.find process.here path).toOption = some process.here
  let place :=
    match process.value? (raw "PWD") with
    | some path => if isHere path then path else process.tree.pathOf process.here
    | none => process.tree.pathOf process.here
  let level := ((process.value? (raw "SHLVL")).bind decimal?).getD 0 + 1
  let own : List (Raw × Setting) :=
    [(raw "PWD", { value := some (.text place), exported := true })]
      ++ (if rich then [(raw "SHLVL", { value := some (.text (Raw.ofNat level)), exported := true })]
        else [])
  let settings := own.foldl
    (fun settings (name, setting) => settings.filter (·.1 ≠ name) ++ [(name, setting)]) settings
  { process
    dialect := if rich then .rich else .plain
    settings
    name
    line := 0
    options := if rich then ["braceexpand", "hashall", "interactive-comments"] else []
    place }

/-- Carries out a script that is read line by line, so that the commands in it can
read what follows them. -/
def fromInput (interpreter : Interpreter) : Nat → Nat → Act Unit
  | 0, _ => throw .exhausted
  | steps + 1, line => do
    let shell ← get
    match shell.process.stream? 0 with
    | none => pure ()
    | some stream =>
      let text := (shell.process.system.waiting stream none).toOption.getD []
      let (portion, rest, line) ← Act.readPortion text line
      modify fun shell =>
        { shell with
          process := { shell.process with
            system := shell.process.system.consume stream (text.length - rest.length) } }
      match portion with
      | .finish => pure ()
      | .line none => fromInput interpreter steps line
      | .line (some command) =>
        match ← Act.attempt (interpreter.command false command) with
        | .error .abandoned => Act.setStatus 1
        | result => Act.resume result
        fromInput interpreter steps line

/-- Carries out the script that a shell is called with. -/
def script (interpreter : Interpreter) (words : List Raw) : Act Unit := do
  let request ← read (words.length + 1) words {}
  let rich := (← get).isRich
  modify fun shell => { shell with line := 1 }
  match request.isScript, request.operands with
  | true, [] =>
    modify fun shell => { shell with line := 0 }
    if rich then Builtin.misuse (raw "-c: option requires an argument")
    else Builtin.misuse (raw "-c requires an argument")
  | true, text :: rest =>
    modify fun shell =>
      { shell with name := rest.headD shell.name, arguments := rest.drop 1 }
    Act.runText interpreter false text
  | false, operands =>
    if request.isInput || operands.isEmpty then
      modify fun shell =>
        { shell.withOption "stdin" true with arguments := operands }
      if rich then fromInput interpreter Evaluation.maxTurns 1
      else
        let shell ← get
        match shell.process.stream? 0 with
        | none => pure ()
        | some stream =>
          let text := (shell.process.system.waiting stream none).toOption.getD []
          Act.setProcess
            { shell.process with system := shell.process.system.consume stream text.length }
          Act.runText interpreter false text
    else
      let path := operands.headD []
      let (content, process) := (← get).process.contentAt path
      Act.setProcess process
      match content with
      | .ok text =>
        modify fun shell => { shell with name := path, arguments := operands.drop 1 }
        Act.runText interpreter false text
      | .error fault =>
        modify fun shell => { shell with line := 0 }
        if rich then
          let _ ← Act.emit 2 ((← get).name ++ raw ": " ++ path ++ raw ": " ++ raw fault.reason ++ ['\n'])
          throw (.failed (if fault = .notFound then 127 else 126))
        else if fault = .isADirectory then pure ()
        else
          Act.failWith 2
            (raw "cannot open " ++ path ++ raw ": " ++ Redirecting.faultText false fault)

/-- Carries out a shell, and tells how it ends. -/
def shell (interpreter : Interpreter) (rich : Bool) (words : List Raw) (process : Process) :
    Halt × Process :=
  let start := fresh rich (words.headD (raw "sh")) process
  match Act.toTheEnd interpreter (script interpreter (words.drop 1)) start with
  | .ok _ after => (.ended (after.status % 256), after.process)
  | .error (.killed signal) after => (.killed signal, after.process)
  | .error .exhausted after => (.exhausted, after.process)
  | .error _ after => (.ended (after.status % 256), after.process)

end Starting

end Rehearsal

end InstallPlan

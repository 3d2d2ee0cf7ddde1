import InstallPlan.Rehearsal.Shell.Builtin.Input
import InstallPlan.Rehearsal.Shell.Builtin.Saying
import InstallPlan.Rehearsal.Shell.Builtin.Surroundings
import InstallPlan.Rehearsal.Shell.Naming
import InstallPlan.Rehearsal.Shell.Redirecting

/-!
# Rehearsal — Calling commands

Carries out what the words of a command call: a builtin, a function, or a
program, which gets the channels of the shell and the variables it may see.
-/

namespace InstallPlan

namespace Rehearsal

namespace Calling

/-! ## Programs -/

/-- Starts a call in a process of its own. -/
def start (interpreter : Interpreter) (call : Lookup.Call) : Act (Halt × Process) := do
  let shell ← get
  let id := shell.process.system.lastId + 1
  return interpreter.start call.1 call.2
    { shell.process with
      environment := shell.environment
      id
      system := { shell.process.system with lastId := id } }

/-- Carries out a call in a process of its own. Jobs that come to their ends meanwhile
do so before it does. -/
def carryOut (interpreter : Interpreter) (call : Lookup.Call) : Act Unit := do
  let now := (← get).process.system.clock
  if call.2.any (Redirecting.isQueue (← get)) then Act.runJobs else Act.settle now true
  let (halt, after) ← start interpreter call
  let (halt, after) ←
    if now < after.system.clock && !(← get).jobs.isEmpty then do
      Act.settle after.system.clock false
      start interpreter call
    else pure (halt, after)
  Act.setProcess ((← get).process.after after)
  Act.settle now false
  if halt = .exhausted then throw .exhausted
  Act.setStatus (halt.status % 256)
  Act.checkTime
  match halt with
  | .killed signal => Act.announce signal
  | _ => pure ()

/-- The status of a program that cannot be started. -/
def faultStatus (fault : IoFault) : Nat :=
  if fault = .notFound ∨ fault = .notADirectory ∨ fault = .tooManyLinks ∨ fault = .nameTooLong then
    127
  else 126

/-- What is said of a program that cannot be started. -/
def faultText (rich : Bool) (name : Raw) (fault : IoFault) : Raw :=
  if rich then
    if fault = .notFound ∧ !name.contains '/' then raw "command not found" else raw fault.reason
  else if fault = .notFound ∨ fault = .notADirectory then raw "not found"
  else raw fault.reason

/-- What is carried out for the words of a command that are found at one of some
paths. -/
def callOf (shell : Shell) (paths : List Raw) (words : List Raw) : Except IoFault Lookup.Call :=
  if shell.isRich then
    match paths with
    | [] => .error .notFound
    | path :: _ =>
      match Lookup.call shell.tree shell.here path words with
      | .ok found => .ok found
      | .error fault =>
        if fault = .unknownFormat then .ok ("bash", raw "bash" :: path :: words.drop 1)
        else if shell.tree.leadsToDirectory shell.here path then .error .isADirectory
        else .error fault
  else Lookup.firstCandidate shell.tree shell.here words .notFound paths

/-- Carries out the program that the words of a command call. -/
def runProgram (interpreter : Interpreter) (paths words : List Raw) : Act Unit := do
  let shell ← get
  let name := words.headD []
  match callOf shell paths words with
  | .ok call => carryOut interpreter call
  | .error fault =>
    Act.complain (name ++ raw ": " ++ faultText shell.isRich name fault)
    Act.setStatus (faultStatus fault)

/-- Complains that there is no command of a name. -/
def unknown (name : Raw) (fault : IoFault) : Act Unit := do
  let rich := (← get).isRich
  Act.complain (name ++ raw ": " ++ faultText rich name (if rich then .notFound else fault))
  Act.setStatus 127

/-! ## Functions -/

/-- Carries out a function. -/
def runFunction (interpreter : Interpreter) (tested : Bool) (name : Raw) (body : Command)
    (arguments : List Raw) : Act Unit := do
  let outer ← get
  let result ← Act.withOwn do
    modify fun shell =>
      { shell with
        arguments
        optionPlace := 0
        loops := 0
        calls := shell.calls + 1
        callers := name :: shell.callers }
    Act.attempt (interpreter.command tested body)
  modify fun shell =>
    { shell with
      arguments := outer.arguments
      optionPlace := outer.optionPlace
      loops := outer.loops
      calls := outer.calls
      callers := outer.callers }
  match result with
  | .error (.back status) => Act.setStatus status
  | result => Act.resume result

/-! ## Builtins that carry out others -/

/-- Ends the shell. -/
def exit (arguments : List Raw) : Act Unit := do
  throw (.ended ((← Builtin.numberOr (← get).status arguments) % 256))

/-- Ends a function. -/
def giveBack (arguments : List Raw) : Act Unit := do
  let shell ← get
  let status ← Builtin.numberOr shell.status arguments
  if shell.isRich && shell.calls = 0 then
    Act.complain (raw "can only \x60return' from a function or sourced script")
    Act.setStatus 2
  else throw (.back (if shell.isRich then status % 256 else status))

/-- Ends loops, or begins their next turn. -/
def leaveLoops (interrupt : Nat → Interrupt) (arguments : List Raw) : Act Unit := do
  let count ← Builtin.numberOr 1 arguments
  let shell ← get
  if count = 0 then
    if shell.isRich then Builtin.deny (raw "0: loop count out of range")
    else Builtin.deny (raw "Illegal number: 0")
  Act.setStatus 0
  if shell.loops = 0 then
    if shell.isRich then
      Act.complain (raw "only meaningful in a \x60for', \x60while', or \x60until' loop")
  else throw (interrupt (min count shell.loops))

/-- The script that a name without a slash stands for. -/
def scriptNamed? (shell : Shell) (name : Raw) : Option Raw :=
  let isFile (path : Raw) : Bool :=
    match shell.tree.locate shell.here path with
    | .ok node => node.entry.isRegular
    | .error _ => false
  let paths := (Lookup.directories (Meaning.pathOf shell)).map fun directory =>
    Lookup.inDirectory directory name
  paths.find? isFile

/-- Carries out a script in the shell itself. -/
def source (interpreter : Interpreter) (arguments : List Raw) : Act Unit := do
  let (_, operands) ← Builtin.options "" arguments
  let shell ← get
  match operands with
  | [] =>
    if shell.isRich then Builtin.misuse (raw "filename argument required") else Act.setStatus 0
  | name :: more =>
    let path ←
      if name.contains '/' then pure name
      else
        match scriptNamed? shell name with
        | some path => pure path
        | none =>
          if shell.isRich then pure name else Builtin.deny (name ++ raw ": not found")
    let (content, process) := shell.process.contentAt path
    Act.setProcess process
    let text ←
      match (content : Except IoFault Raw) with
      | .ok text => pure text
      | .error fault =>
        if shell.isRich then
          modify fun shell => { shell with context := none }
          Builtin.deny (name ++ raw ": " ++ raw fault.reason)
        else if fault = .isADirectory then pure []
        else
          Builtin.deny
            (raw "cannot open " ++ name ++ raw ": " ++ Redirecting.faultText false fault)
    let sets := shell.isRich && !more.isEmpty
    modify fun shell =>
      { shell with
        context := if shell.isRich then none else some path
        status := 0
        calls := shell.calls + 1
        arguments := if sets then more else shell.arguments }
    let result ← Act.attempt (Act.runText interpreter false text)
    modify fun inner =>
      { inner with
        calls := shell.calls
        arguments := if sets then shell.arguments else inner.arguments }
    match result with
    | .error (.back status) => Act.setStatus status
    | result => Act.resume result

/-- Carries out its arguments as a script. -/
def evaluate (interpreter : Interpreter) (tested : Bool) (arguments : List Raw) : Act Unit := do
  Act.setStatus 0
  Act.runText interpreter tested (Raw.joined [' '] arguments)

/-- Carries out a program in the place of the shell. -/
def exec (interpreter : Interpreter) (arguments : List Raw) : Act Unit := do
  let (found, words) ← Builtin.options (if (← get).isRich then "cla:" else "") arguments
  let shell ← get
  match words with
  | [] => Act.setStatus 0
  | name :: rest =>
    let words := ((found.find? (·.1 = 'a')).map (·.2)).getD name :: rest
    let paths : Except IoFault (List Raw) :=
      if name.contains '/' then .ok [name]
      else Lookup.candidates shell.tree shell.here (Meaning.pathOf shell) name
    match paths.bind fun paths => callOf shell paths words with
    | .ok call =>
      modify fun shell => { shell with traps := [] }
      carryOut interpreter call
      throw (.ended (← get).status)
    | .error fault =>
      Act.complain (name ++ raw ": "
        ++ (if shell.isRich ∧ fault = .notFound ∧ !name.contains '/' then raw "not found"
          else faultText shell.isRich name fault))
      throw (.ended (faultStatus fault))

/-- Carries out what is to be done for a signal. The status stays as it is. -/
def runTrap (interpreter : Interpreter) (script : Raw) : Act Unit := do
  let status := (← get).status
  Act.runText interpreter false script
  Act.setStatus status

/-- Computes expressions. -/
def compute (arguments : List Raw) : Act Unit := do
  if arguments.isEmpty then Builtin.misuse (raw "expression expected")
  let values ← arguments.mapM Act.compute
  Act.setStatus (if values.getLast? = some 0 then 1 else 0)

/-- Declares variables of the richer dialect. -/
def declare (isLocal : Bool) (arguments : List Raw) : Act Unit := do
  let removed := (arguments.filter fun a => a.head? = some '+').flatMap (·.drop 1)
  let arguments := arguments.filter fun a => a.head? ≠ some '+'
  let (found, operands) ← Builtin.options "aAirxulgpfFn" arguments
  let shell ← get
  Act.setStatus 0
  if operands.isEmpty then
    if !isLocal then Builtin.showSettings [] fun _ => true
  else if Builtin.has found 'f' || Builtin.has found 'F' then
    operands.forM fun name => do
      if shell.functions.any (·.1 = name) then
        if Builtin.has found 'F' then Act.sayLine name
      else Act.setStatus 1
  else if Builtin.has found 'p' then
    operands.forM fun name => do
      match shell.setting? name with
      | some setting => Act.sayLine (Builtin.declaration name setting)
      | none =>
        Act.complain (name ++ raw ": not found")
        Act.setStatus 1
  else
    operands.forM fun operand => do
      let (written, value) := Builtin.nameAndValue operand
      let appends := value.isSome && written.getLast? = some '+'
      let name := if appends then written.dropLast else written
      let base := name.takeWhile (· ≠ '[')
      Builtin.checkName base operand
      if (isLocal || !shell.locals.isEmpty) && !Builtin.has found 'g' then
        let isNew := !((shell.locals.headD []).any (·.1 = base))
        Act.keep base
        if isNew then
          Act.restore base (some { exported := (shell.setting? base).any (·.exported) })
      let kinds := found.map (·.1)
      Act.change base fun setting =>
        (kinds.filter (· ≠ 'r')).foldl (fun setting kind => Builtin.asKind kind setting) setting
      match value with
      | none => pure ()
      | some value =>
        let counts := ((← get).setting? base).any (·.isInteger)
        let value ← if counts then Raw.ofInt <$> Act.compute value else pure value
        if base.length < name.length then Act.assignIndexed name value
        else
          let old := ((← get).value? name).getD []
          Act.assign name (if appends then old ++ value else value)
      Act.change base fun setting =>
        { setting with
          readOnly := setting.readOnly || kinds.contains 'r'
          exported := setting.exported && !removed.contains 'x'
          isInteger := setting.isInteger && !removed.contains 'i' }

/-! ## Calls -/

/-- What a builtin does. -/
def builtin (interpreter : Interpreter) (tested : Bool) (rich : Bool) (name : Raw) :
    List Raw → Act Unit :=
  match String.ofList name with
  | ":" | "true" | "bg" | "fg" | "jobs" | "times" | "disown" | "enable" | "caller" | "logout" =>
    fun _ => Act.setStatus 0
  | "false" => fun _ => Act.setStatus 1
  | "echo" => Builtin.echo
  | "printf" => Builtin.printf
  | "test" => Builtin.testOf
  | "[" => Builtin.bracket
  | "exit" => exit
  | "return" => giveBack
  | "break" => leaveLoops .out
  | "continue" => leaveLoops .next
  | "shift" => Builtin.shift
  | "export" => Builtin.exportNames
  | "readonly" => if rich then fun arguments => declare false (raw "-r" :: arguments)
    else Builtin.fixNames
  | "local" => if rich then fun arguments => do
      if (← get).locals.isEmpty then Builtin.deny (raw "can only be used in a function")
      declare true arguments
    else Builtin.makeLocal
  | "declare" | "typeset" => declare false
  | "unset" => Builtin.unset
  | "set" => Builtin.setAll
  | "shopt" => Builtin.shopt
  | "alias" => Builtin.makeAliases
  | "unalias" => Builtin.forgetAliases
  | "trap" => Builtin.trap
  | "kill" => Builtin.kill (runTrap interpreter)
  | "wait" => Builtin.wait
  | "umask" => Builtin.umask
  | "ulimit" => Builtin.limit
  | "read" => Builtin.read
  | "mapfile" | "readarray" => Builtin.readLines
  | "getopts" => Builtin.getopts
  | "cd" | "chdir" => Builtin.changeDirectory
  | "pwd" => Builtin.sayPlace
  | "pushd" => Builtin.visit false
  | "popd" => Builtin.visit true
  | "dirs" => fun _ => do
    let shell ← get
    Act.sayLine (Raw.joined [' '] (shell.place :: shell.stack))
    Act.setStatus 0
  | "type" => Builtin.type
  | "hash" => Builtin.hash
  | "let" => compute
  | "eval" => evaluate interpreter tested
  | "." | "source" => source interpreter
  | "exec" => exec interpreter
  | "command" => fun arguments => do
    let (found, names) ← Builtin.options "pvV" arguments
    Act.setStatus 0
    if !names.isEmpty then
      let verbose := (found.reverse.find? fun o => o.1 ≠ 'p').any (·.1 = 'V')
      Builtin.whereIs (if rich then verbose else Builtin.has found 'V') (Builtin.has found 'p') names
  | _ => fun _ => Act.setStatus 0

/-- Carries out a builtin. What it prints goes out at its end. An error in a
special one ends a plain shell. -/
def runBuiltin (name : Raw) (isSpecial : Bool) (act : Act Unit) : Act Unit := do
  let outer := (← get).context
  modify fun shell => { shell with context := some name }
  let result ← Act.attempt do
    act
    match ← Act.flush with
    | none => pure ()
    | some fault =>
      let shell ← get
      if shell.isRich then Act.complain (raw "write error: " ++ raw fault.reason)
      else Act.complain (name ++ raw ": I/O error")
      Act.setStatus (shell.status ||| 1)
  if (← get).isRich then
    let _ ← Act.flush
  modify fun shell => { shell with context := outer, pending := [] }
  match result with
  | .error (.failed status) =>
    if isSpecial && !(← get).isRich then throw (.failed status) else Act.setStatus status
  | result => Act.resume result

/-- The words of a command without those in front that say how it is to be looked
for. -/
structure Unwrapped where
  words : List Raw
  /-- Whether functions are passed over. -/
  isBare : Bool := false
  /-- Whether the standard directories are searched. -/
  isStandard : Bool := false

/-- Takes away what is in front of a command to say how it is to be looked for, in
at most so many steps. -/
def unwrap (rich : Bool) : Nat → Unwrapped → Unwrapped
  | 0, unwrapped => unwrapped
  | steps + 1, unwrapped =>
    match unwrapped.words with
    | [] | [_] => unwrapped
    | first :: option :: more =>
      if first = raw "command" then
        if option = raw "-p" then
          let asks := (more.head?.any fun next => next = raw "-v" ∨ next = raw "-V")
          if asks ∨ more = [] then unwrapped
          else unwrap rich steps { words := more, isBare := true, isStandard := true }
        else if option = raw "--" then
          if more = [] then unwrapped
          else unwrap rich steps { unwrapped with words := more, isBare := true }
        else if option.head? = some '-' ∧ 1 < option.length then unwrapped
        else unwrap rich steps { unwrapped with words := option :: more, isBare := true }
      else if rich ∧ first = raw "builtin" then
        unwrap rich steps { unwrapped with words := option :: more, isBare := true }
      else unwrapped

/-- Carries out what the words of a command call. -/
def run (interpreter : Interpreter) (tested : Bool) (unwrapped : Unwrapped) : Act Unit := do
  let shell ← get
  let path := if unwrapped.isStandard then Meaning.standardPath else Meaning.pathOf shell
  match unwrapped.words with
  | [] => pure ()
  | name :: arguments =>
    match Meaning.find shell (!unwrapped.isBare) path name with
    | .function body => runFunction interpreter tested name body arguments
    | .builtin isSpecial =>
      runBuiltin name (isSpecial && !unwrapped.isBare)
        (builtin interpreter tested shell.isRich name arguments)
    | .program paths => runProgram interpreter paths unwrapped.words
    | .unknown fault => unknown name fault

end Calling

end Rehearsal

end InstallPlan

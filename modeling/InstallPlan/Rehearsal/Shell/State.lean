import InstallPlan.Rehearsal.Errand.Basic
import InstallPlan.Rehearsal.Pattern
import InstallPlan.Rehearsal.Process
import InstallPlan.Rehearsal.Script.Grammar
import InstallPlan.Rehearsal.Signal

/-!
# Rehearsal — The state of a shell

What a shell knows while it carries out a script, and the steps that change it
(`Act`). A step either comes to its end or is interrupted: by the end of the
shell, by an error, or by a command that leaves a loop or a function.
-/

namespace InstallPlan

namespace Rehearsal

/-- The value of a variable. -/
inductive Value where
  | text (text : Raw)
  /-- An array: its members by their numbers, in rising order. -/
  | list (items : List (Nat × Raw))
  /-- An array whose members go by names. -/
  | table (items : List (Raw × Raw))

/-- A variable of a shell. -/
structure Setting where
  value : Option Value := none
  exported : Bool := false
  readOnly : Bool := false
  /-- Whether values are taken as arithmetic expressions. -/
  isInteger : Bool := false
  /-- Whether letters of values become large or small. -/
  letters : Option Bool := none

/-- A command that goes on by itself. -/
structure Job where
  id : Nat
  /-- The time at which the job begins. -/
  start : Int
  /-- What becomes of the system, and the status, once the job is carried out, or once
  a signal is sent to it at a given time. -/
  carryOut : Option (Int × Nat) → System → Nat × System
  status : Option Nat := none

/-- The state of a shell. -/
structure Shell where
  process : Process
  dialect : Dialect := .plain
  settings : List (Raw × Setting) := []
  functions : List (Raw × Command) := []
  aliases : List (Raw × Raw) := []
  documents : List (Nat × Word) := []
  nextDocument : Nat := 0
  /-- The name that the script was called by. -/
  name : Raw
  arguments : List Raw := []
  /-- The number of the line that is carried out. -/
  line : Nat := 1
  /-- The builtin that is carried out. -/
  context : Option Raw := none
  /-- What a builtin is about to print, the last part first. -/
  pending : List Raw := []
  /-- The status of the last command. -/
  status : Nat := 0
  /-- The status of the last script whose output was taken. -/
  captured : Nat := 0
  /-- The options that are set, by their names. -/
  options : List String := []
  /-- The number of loops around the command. -/
  loops : Nat := 0
  /-- The number of functions and sourced files around the command. -/
  calls : Nat := 0
  /-- The names of the functions around the command. -/
  callers : List Raw := []
  /-- For each function around the command, what its own variables were before. -/
  locals : List (List (Raw × Option Setting)) := []
  /-- What is to be done at the end, and for signals. -/
  traps : List (String × Raw) := []
  jobs : List Job := []
  lastJob : Option Nat := none
  /-- The directory as it was named. -/
  place : Raw := []
  /-- The position in an argument at which the next option stands. -/
  optionPlace : Nat := 0
  /-- The directories that were left for others, to come back to. -/
  stack : List Raw := []
  /-- Whether the shell was split off from another one. -/
  isInner : Bool := false

/-- What keeps a shell from going on to the next command. -/
inductive Interrupt where
  /-- The shell is at its end. -/
  | ended (status : Nat)
  /-- An error, after which a shell without a user cannot go on. -/
  | failed (status : Nat)
  /-- The rest of the line is given up. -/
  | abandoned
  /-- A signal has ended the shell. -/
  | killed (signal : Nat)
  | back (status : Nat)
  | out (loops : Nat)
  | next (loops : Nat)
  /-- The script took too long. -/
  | exhausted

/-- A step of a shell. -/
abbrev Act := EStateM Interrupt Shell

namespace Value

/-- The value as one text: of an array, its first member. -/
def text? : Value → Option Raw
  | text t => some t
  | list items => (items.find? (·.1 = 0)).map (·.2)
  | table items => (items.find? (·.1 = ['0'])).map (·.2)

/-- The members of a value. -/
def members : Value → List Raw
  | text t => [t]
  | list items => items.map (·.2)
  | table items => items.map (·.2)

/-- The names of the members of a value. -/
def indices : Value → List Raw
  | text _ => [['0']]
  | list items => items.map fun i => Raw.ofNat i.1
  | table items => items.map (·.1)

end Value

namespace Shell

/-- The standard separators of fields. -/
def standardSeparators : Raw := [' ', '\t', '\n']

/-- Whether the dialect is the richer one. -/
def isRich (shell : Shell) : Bool := shell.dialect = .rich

/-- Whether an option is set. -/
def has (shell : Shell) (option : String) : Bool := shell.options.contains option

/-- What a variable is. -/
def setting? (shell : Shell) (name : Raw) : Option Setting :=
  (shell.settings.find? (·.1 = name)).map (·.2)

/-- The value of a variable as one text. -/
def value? (shell : Shell) (name : Raw) : Option Raw :=
  (shell.setting? name).bind fun setting => setting.value.bind Value.text?

/-- The separators of fields. -/
def separators (shell : Shell) : Raw := (shell.value? (raw "IFS")).getD standardSeparators

/-- The place of a variable in the environment is that of its name among so many. -/
def bucket (name : Raw) : Nat :=
  ((name.headD '\x00').toNat * 16 + name.foldl (fun code c => code + c.toNat) 0) % 39

/-- The variables that programs see. -/
def environment (shell : Shell) : List (Raw × Raw) :=
  let exported := shell.settings.filterMap fun (name, setting) =>
    if setting.exported then (setting.value.bind Value.text?).map fun value => (name, value)
    else none
  if shell.isRich then exported
  else exported.mergeSort fun a b => decide (bucket a.1 ≤ bucket b.1)

/-- The shell with a variable set to what it is now, or taken away. -/
def withSetting (name : Raw) (setting : Option Setting) (shell : Shell) : Shell :=
  let settings :=
    match setting with
    | none => shell.settings.filter (·.1 ≠ name)
    | some setting =>
      if shell.settings.any (·.1 = name) then
        shell.settings.map fun v => if v.1 = name then (name, setting) else v
      else shell.settings ++ [(name, setting)]
  { shell with settings }

/-- The options that have letters, in the order in which they are told. -/
def letters : List (Char × String) := [
  ('p', "privileged"), ('u', "nounset"), ('b', "notify"), ('a', "allexport"), ('C', "noclobber"), ('E', "emacs"),
  ('V', "vi"), ('v', "verbose"), ('x', "xtrace"), ('s', "stdin"), ('n', "noexec"),
  ('m', "monitor"), ('i', "interactive"), ('I', "ignoreeof"), ('f', "noglob"), ('e', "errexit")]

/-- The letters of the richer dialect, in the order in which they are told. -/
def richLetters : List (Char × String) := [
  ('a', "allexport"), ('b', "notify"), ('e', "errexit"), ('f', "noglob"), ('h', "hashall"),
  ('m', "monitor"), ('n', "noexec"), ('p', "privileged"), ('t', "onecmd"), ('u', "nounset"),
  ('v', "verbose"), ('x', "xtrace"), ('B', "braceexpand"), ('C', "noclobber"), ('E', "errtrace"),
  ('H', "histexpand"), ('P', "physical"), ('T', "functrace"), ('c', "command"), ('s', "stdin")]

/-- The letters of a shell's options. -/
def lettersOf (shell : Shell) : List (Char × String) := if shell.isRich then richLetters else letters

/-- The letters of the options that are set. -/
def flags (shell : Shell) : Raw := (shell.lettersOf.filter fun o => shell.has o.2).map (·.1)

/-- The shell with an option set or not. -/
def withOption (option : String) (isOn : Bool) (shell : Shell) : Shell :=
  let others := shell.options.filter (· != option)
  { shell with options := if isOn then others ++ [option] else others }

/-- The files. -/
def tree (shell : Shell) : Tree := shell.process.tree

/-- The directory that the shell is in. -/
def here (shell : Shell) : Nat := shell.process.here

/-- The shell with what another one, which it has started, has changed. -/
def after (outer inner : Shell) : Shell :=
  { outer with
    process := outer.process.after inner.process
    nextDocument := inner.nextDocument }

/-- How patterns are written. -/
def style (shell : Shell) : PatternStyle :=
  { caret := shell.isRich, groups := shell.isRich && shell.has "extglob" }

/-- What complaints begin with. -/
def label (shell : Shell) : Raw :=
  let line := if shell.isRich then raw "line " ++ Raw.ofNat shell.line else Raw.ofNat shell.line
  shell.name ++ raw ": " ++ line ++ raw ": "
    ++ ((shell.context.map fun name => name ++ raw ": ").getD [])

end Shell

namespace Act

/-- Goes on whatever interrupts a step, and tells what did. -/
def attempt {α : Type} (act : Act α) : Act (Except Interrupt α) := fun shell =>
  match act shell with
  | .ok a shell => .ok (.ok a) shell
  | .error e shell => .ok (.error e) shell

/-- Takes up what has interrupted a step. -/
def resume {α : Type} : Except Interrupt α → Act α
  | .ok a => pure a
  | .error e => throw e

/-- Carries out a step, and then changes the shell, whatever interrupts the step. -/
def finally' {α : Type} (act : Act α) (f : Shell → Shell) : Act α := do
  let result ← attempt act
  modify f
  resume result

/-- Sets the process. -/
def setProcess (process : Process) : Act Unit := modify fun shell => { shell with process }

/-- Writes to a channel, and tells whether it could. -/
def emit (channel : Nat) (content : Raw) : Act (Option IoFault) := do
  let process := (← get).process
  match process.stream? channel with
  | none => return if content = [] then none else some .badChannel
  | some stream =>
    match process.system.write stream content with
    | .ok system =>
      setProcess { process with system }
      return none
    | .error fault => return some fault

/-- Prints a text, once the builtin is at its end. -/
def say (text : Raw) : Act Unit := modify fun shell => { shell with pending := text :: shell.pending }

/-- Prints a line. -/
def sayLine (text : Raw) : Act Unit := say (text ++ ['\n'])

/-- Complains on behalf of the shell, which names the line. -/
def complain (message : Raw) : Act Unit := do
  let _ ← emit 2 ((← get).label ++ message ++ ['\n'])

/-- Says that a signal has ended something that the shell waits for. The richer dialect
keeps silent. -/
def announce (signal : Nat) : Act Unit := do
  match Signal.description? signal, (← get).isRich with
  | some description, false =>
    let _ ← emit 2 (raw description ++ ['\n'])
  | _, _ => pure ()

/-- Writes what a builtin has printed, and tells whether it could. -/
def flush : Act (Option IoFault) := do
  let text := (← get).pending.reverse.flatten
  modify fun shell => { shell with pending := [] }
  emit 1 text

/-- Sets the status. -/
def setStatus (status : Nat) : Act Unit := modify fun shell => { shell with status }

/-- Ends the shell, or the builtin, for an error. -/
def failWith {α : Type} (status : Nat) (message : Raw) : Act α := do
  complain message
  let _ ← flush
  setStatus status
  throw (.failed status)

/-- Ends the shell, or the builtin, for an error. In the richer dialect the rest
of the line is given up. -/
def fail {α : Type} (message : Raw) : Act α := do
  if (← get).isRich then
    complain message
    setStatus 1
    throw .abandoned
  else failWith 2 message

/-- Ends the shell for an error in the value of a parameter. -/
def failHard {α : Type} (message : Raw) : Act α := do
  let shell ← get
  if shell.isRich then
    complain message
    throw (.ended (if shell.has "command" && !shell.isInner && !shell.has "errexit" then 127 else 1))
  else failWith 2 message

/-- A text with its letters as a variable wants them. -/
def lettered (setting : Setting) (text : Raw) : Raw :=
  match setting.letters with
  | some true => text.map Char.toUpper
  | some false => text.map Char.toLower
  | none => text

/-- Changes what a variable is, unless it must not be changed. -/
def alter (name : Raw) (f : Setting → Setting) : Act Unit := do
  let shell ← get
  let old := shell.setting? name
  let setting := old.getD {}
  if setting.readOnly then
    if shell.isRich then fail (name ++ raw ": readonly variable")
    else fail (name ++ raw ": is read only")
  else
    let setting := f setting
    let exported := setting.exported || shell.has "allexport"
    modify (Shell.withSetting name (some { setting with exported }))
    if name = raw "OPTIND" then modify fun shell => { shell with optionPlace := 0 }

/-- Sets a variable to a text. -/
def assign (name value : Raw) : Act Unit := do
  alter name fun setting =>
    let value := lettered setting value
    match setting.value with
    | some (.list items) =>
      { setting with value := some (.list ((0, value) :: items.filter (·.1 ≠ 0))) }
    | some (.table items) =>
      { setting with value := some (.table (items.filter (·.1 ≠ ['0']) ++ [(['0'], value)])) }
    | _ => { setting with value := some (.text value) }

/-- Changes something about a variable apart from its value. -/
def change (name : Raw) (f : Setting → Setting) : Act Unit := do
  let shell ← get
  set (shell.withSetting name (some (f ((shell.setting? name).getD {}))))

/-- Sets a variable back to what it was. -/
def restore (name : Raw) (setting : Option Setting) : Act Unit :=
  modify (Shell.withSetting name setting)

/-- Makes a variable one of the innermost function. -/
def keep (name : Raw) : Act Unit := do
  let shell ← get
  match shell.locals with
  | [] => pure ()
  | own :: outer =>
    if own.any (·.1 = name) then pure ()
    else set { shell with locals := ((name, shell.setting? name) :: own) :: outer }

/-- Carries out a step with variables of its own, which are forgotten behind it. -/
def withOwn {α : Type} (act : Act α) : Act α := do
  modify fun shell => { shell with locals := [] :: shell.locals }
  finally' act fun shell =>
    match shell.locals with
    | [] => shell
    | own :: outer =>
      own.foldl (fun shell (name, setting) => shell.withSetting name setting)
        { shell with locals := outer }

end Act

end Rehearsal

end InstallPlan

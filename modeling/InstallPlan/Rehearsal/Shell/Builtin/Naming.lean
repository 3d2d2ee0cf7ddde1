import InstallPlan.Rehearsal.Shell.Builtin.Basic

/-!
# Rehearsal — Commands of the shell about its variables

Setting, showing and forgetting variables, aliases, options and arguments.
-/

namespace InstallPlan

namespace Rehearsal

namespace Builtin

/-- A value as it is shown. -/
def shown (value : Raw) : Raw :=
  if value.contains '\x27' then
    ((Raw.split '\x27' value).map fun piece => '\x27' :: piece ++ ['\x27']).intersperse
      (raw "\"'\"") |>.flatten
  else '\x27' :: value ++ ['\x27']

/-- A value between double quotes. -/
def doubleQuoted (value : Raw) : Raw :=
  '"' :: value.flatMap (fun c =>
    if c = '"' ∨ c = '\\' ∨ c = '$' ∨ c = '\x60' then ['\\', c] else [c]) ++ ['"']

/-- A value as it is shown in the richer dialect: between quotes if need be. -/
def richShown (value : Raw) : Raw :=
  if value ≠ [] ∧ value.all fun c => isNamePart c || "/.:,+@%-=".toList.contains c then value
  else Expansion.singleQuoted value

/-- The variables, in the order of their names. -/
def sortedSettings (shell : Shell) : List (Raw × Setting) :=
  shell.settings.mergeSort fun a b => Raw.atMost a.1 b.1

/-- The letters that say what a variable is. -/
def attributes (setting : Setting) : Raw :=
  let letters := Expansion.shown 'a' (some setting) []
  if letters = [] then ['-'] else letters

/-- A variable as a declaration of it. -/
def declaration (name : Raw) (setting : Setting) : Raw :=
  let members (items : List (Raw × Raw)) : Raw :=
    raw "=(" ++ Raw.joined [' '] (items.map fun (i, v) =>
      ['['] ++ i ++ raw "]=" ++ doubleQuoted v) ++ [')']
  let value : Raw :=
    match setting.value with
    | none => []
    | some (.text value) => '=' :: doubleQuoted value
    | some (.list items) => members (items.map fun (n, v) => (Raw.ofNat n, v))
    | some (.table items) => members items
  raw "declare -" ++ attributes setting ++ [' '] ++ name ++ value

/-- Shows the variables that are so, behind a word. -/
def showSettings (word : Raw) (isSo : Setting → Bool) : Act Unit := do
  let shell ← get
  ((sortedSettings shell).filter fun v => isSo v.2).forM fun (name, setting) => do
    if shell.isRich then Act.sayLine (declaration name setting)
    else
      match setting.value.bind Value.text? with
      | some value => Act.sayLine (word ++ [' '] ++ name ++ ['='] ++ shown value)
      | none => Act.sayLine (word ++ [' '] ++ name)

/-- Sets variables, and something about them. -/
def declare (word : String) (isSo : Setting → Bool) (f : Bool → Setting → Setting)
    (arguments : List Raw) : Act Unit := do
  let rich := (← get).isRich
  let (found, operands) ← options (if rich then "pnfaA" else "p") arguments
  if operands = [] || (has found 'p' && !rich) then showSettings (raw word) isSo
  else
    operands.forM fun argument => do
      let (name, value) := nameAndValue argument
      checkName name argument
      match value with
      | some value => Act.assign name value
      | none => pure ()
      Act.change name (f (!has found 'n'))
  Act.setStatus 0

/-- Makes variables visible to programs. -/
def exportNames : List Raw → Act Unit :=
  declare "export" (·.exported) fun isOn setting => { setting with exported := isOn }

/-- Makes variables that cannot be changed. -/
def fixNames : List Raw → Act Unit :=
  declare "readonly" (·.readOnly) fun _ setting => { setting with readOnly := true }

/-- Makes variables of a function its own. -/
def makeLocal (arguments : List Raw) : Act Unit := do
  if (← get).locals.isEmpty then
    if (← get).isRich then deny (raw "can only be used in a function")
    else deny (raw "not in a function")
  arguments.forM fun argument => do
    let (name, value) := nameAndValue argument
    if argument ≠ ['-'] then
      checkName name argument
      Act.keep name
      if (← get).isRich then
        let exported := ((← get).setting? name).any (·.exported)
        Act.restore name (some { exported })
      match value with
      | some value => Act.assign name value
      | none => pure ()
  Act.setStatus 0

/-- Forgets a member of an array. -/
def unsetMember (name index : Raw) : Act Unit := do
  Act.alter name fun setting =>
    match setting.value with
    | some (.list items) =>
      { setting with value := some (.list (items.filter fun i => Raw.ofNat i.1 ≠ index)) }
    | some (.table items) =>
      { setting with value := some (.table (items.filter fun i => i.1 ≠ index)) }
    | value => { setting with value }

/-- Forgets variables or functions. -/
def unset (arguments : List Raw) : Act Unit := do
  let (found, names) ← options "fvn" arguments
  let rich := (← get).isRich
  Act.setStatus 0
  names.forM fun name => do
    let base := name.takeWhile (· ≠ '[')
    if (found.getLast?).any (·.1 = 'f') then
      modify fun shell => { shell with functions := shell.functions.filter (·.1 ≠ name) }
    else if rich && base.length < name.length then
      unsetMember base ((name.drop (base.length + 1)).dropLast)
    else
      checkName name name
      match (← get).setting? name with
      | none =>
        if rich && !has found 'v' then
          modify fun shell => { shell with functions := shell.functions.filter (·.1 ≠ name) }
      | some setting =>
        if setting.readOnly then
          if rich then
            Act.complain (name ++ raw ": cannot unset: readonly variable")
            Act.setStatus 1
          else deny (name ++ raw ": is read only")
        else Act.restore name none

/-- Shows or makes aliases. -/
def makeAliases (arguments : List Raw) : Act Unit := do
  let rich := (← get).isRich
  let line (entry : Raw × Raw) : Raw :=
    (if rich then raw "alias " else []) ++ entry.1 ++ ['='] ++ shown entry.2
  Act.setStatus 0
  let arguments := arguments.filter (· ≠ ['-', 'p'])
  if arguments = [] then
    ((← get).aliases.mergeSort fun a b => Raw.atMost a.1 b.1).forM fun entry =>
      Act.sayLine (line entry)
  arguments.forM fun argument => do
    match nameAndValue argument with
    | (name, some value) =>
      modify fun shell =>
        { shell with aliases := (name, value) :: shell.aliases.filter (·.1 ≠ name) }
    | (name, none) =>
      match (← get).aliases.find? (·.1 = name) with
      | some entry => Act.sayLine (line entry)
      | none =>
        if rich then Act.complain (name ++ raw ": not found")
        else
          let _ ← Act.emit 2 (raw "alias: " ++ name ++ raw " not found\n")
        Act.setStatus 1

/-- Forgets aliases. -/
def forgetAliases (arguments : List Raw) : Act Unit := do
  let (found, names) ← options "a" arguments
  Act.setStatus 0
  if has found 'a' then modify fun shell => { shell with aliases := [] }
  names.forM fun name => do
    if (← get).aliases.any (·.1 = name) then
      modify fun shell => { shell with aliases := shell.aliases.filter (·.1 ≠ name) }
    else
      if (← get).isRich then Act.complain (name ++ raw ": not found")
      else
        let _ ← Act.emit 2 (raw "unalias: " ++ name ++ raw " not found\n")
      Act.setStatus 1

/-! ## Options -/

/-- The options of a plain shell, in the order in which they are shown. -/
def plainOptions : List String :=
  ["errexit", "noglob", "ignoreeof", "interactive", "monitor", "noexec", "stdin", "xtrace",
    "verbose", "vi", "emacs", "noclobber", "allexport", "notify", "nounset", "privileged",
    "nolog", "debug"]

/-- The options of the richer dialect. -/
def richOptions : List String :=
  ["allexport", "braceexpand", "emacs", "errexit", "errtrace", "functrace", "hashall",
    "histexpand", "history", "ignoreeof", "interactive-comments", "keyword", "monitor",
    "noclobber", "noexec", "noglob", "nolog", "notify", "nounset", "onecmd", "physical",
    "pipefail", "posix", "privileged", "verbose", "vi", "xtrace"]

/-- The options of a shell. -/
def knownOptions (shell : Shell) : List String := if shell.isRich then richOptions else plainOptions

/-- Shows the options. -/
def showOptions (asCommands : Bool) : Act Unit := do
  let shell ← get
  if !asCommands && !shell.isRich then Act.say (raw "Current option settings\n")
  (knownOptions shell).forM fun option => do
    let isOn := shell.has option
    if asCommands then
      Act.sayLine (raw "set " ++ raw (if isOn then "-o " else "+o ") ++ raw option)
    else
      let gap := List.replicate ((if shell.isRich then 15 else 16) - option.length) ' '
      let mark : Raw := if shell.isRich then ['\t'] else []
      Act.sayLine (raw option ++ gap ++ mark ++ raw (if isOn then "on" else "off"))

/-- Sets an option by its name. -/
def setNamed (isOn : Bool) (name : Raw) : Act Unit := do
  let option := String.ofList name
  let shell ← get
  if (knownOptions shell).contains option then set (shell.withOption option isOn)
  else if shell.isRich then misuse (name ++ raw ": invalid option name")
  else misuse (raw "Illegal option " ++ (if isOn then raw "-o " else raw "+o ") ++ name)

/-- Sets an option by its letter. -/
def setLetter (isOn : Bool) (letter : Char) : Act Unit := do
  let shell ← get
  match shell.lettersOf.find? (·.1 = letter) with
  | some (_, option) => set (shell.withOption option isOn)
  | none =>
    if shell.isRich then misuse ((if isOn then ['-'] else ['+']) ++ [letter] ++ raw ": invalid option")
    else misuse (raw "Illegal option " ++ (if isOn then ['-'] else ['+']) ++ [letter])

/-- Sets options by letters that stand together, and gives the arguments that are
left. An `o` takes a name. -/
def setCluster (isOn : Bool) : Raw → List Raw → Act (List Raw)
  | [], rest => return rest
  | 'o' :: more, rest => do
    match rest with
    | name :: rest =>
      setNamed isOn name
      setCluster isOn more rest
    | [] =>
      showOptions (!isOn)
      setCluster isOn more []
  | c :: more, rest => do
    setLetter isOn c
    setCluster isOn more rest

/-- Sets options, and gives the operands that follow, if any are given. -/
def setOptions : Nat → List Raw → Act (Option (List Raw))
  | 0, _ => throw .exhausted
  | _, [] => return none
  | steps + 1, argument :: rest => do
    match argument with
    | ['-', '-'] => return some rest
    | ['-'] =>
      modify fun shell => (shell.withOption "xtrace" false).withOption "verbose" false
      return if rest = [] then none else some rest
    | '-' :: letters => setOptions steps (← setCluster true letters rest)
    | '+' :: letters => setOptions steps (← setCluster false letters rest)
    | _ => return some (argument :: rest)

/-- Sets options and the arguments of the script, or shows all variables. -/
def setAll (arguments : List Raw) : Act Unit := do
  let shell ← get
  if arguments = [] then
    (sortedSettings shell).forM fun (name, setting) => do
      match setting.value with
      | some (.text value) =>
        Act.sayLine (name ++ ['='] ++ (if shell.isRich then richShown value else shown value))
      | some _ => Act.sayLine ((declaration name setting).drop 11)
      | none => pure ()
  else
    match ← setOptions (arguments.length + 1) arguments with
    | some arguments => modify fun shell => { shell with arguments, optionPlace := 0 }
    | none => pure ()
  Act.setStatus 0

/-- Leaves out arguments of the script. -/
def shift (arguments : List Raw) : Act Unit := do
  let count ← numberOr 1 arguments
  if (← get).arguments.length < count then
    if (← get).isRich then Act.setStatus 1 else deny (raw "can't shift that many")
  else
    modify fun shell => { shell with arguments := shell.arguments.drop count, optionPlace := 0 }
    Act.setStatus 0

/-! ## The richer dialect -/

/-- Sets or shows options that have no letters. -/
def shopt (arguments : List Raw) : Act Unit := do
  let (found, names) ← options "supqo" arguments
  Act.setStatus 0
  names.forM fun name => do
    let option := String.ofList name
    if has found 's' then modify (Shell.withOption option true)
    else if has found 'u' then modify (Shell.withOption option false)
    else
      let isOn := (← get).has option
      if !isOn then Act.setStatus 1
      if !has found 'q' then
        Act.sayLine (name ++ List.replicate (15 - name.length) ' ' ++ ['\t']
          ++ raw (if isOn then "on" else "off"))

/-- Whether a name has a value of a kind; an empty one is made otherwise. -/
def asKind (kind : Char) (setting : Setting) : Setting :=
  match kind, setting.value with
  | 'a', none => { setting with value := some (.list []) }
  | 'a', some (.text text) => { setting with value := some (.list [(0, text)]) }
  | 'A', none => { setting with value := some (.table []) }
  | 'A', some (.text text) => { setting with value := some (.table [(['0'], text)]) }
  | 'i', _ => { setting with isInteger := true }
  | 'x', _ => { setting with exported := true }
  | 'r', _ => { setting with readOnly := true }
  | 'u', _ => { setting with letters := some true }
  | 'l', _ => { setting with letters := some false }
  | _, _ => setting

end Builtin

end Rehearsal

end InstallPlan

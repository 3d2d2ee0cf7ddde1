import InstallPlan.Rehearsal.Lookup
import InstallPlan.Rehearsal.Shell.Builtin.Naming

/-!
# Rehearsal — What names of commands stand for

A name at the beginning of a command is that of a builtin, a function or a
program. Functions hide builtins, apart from the special ones of a plain shell.
-/

namespace InstallPlan

namespace Rehearsal

/-- What a name stands for. -/
inductive Meaning where
  | function (body : Command)
  | builtin (isSpecial : Bool)
  | program (paths : List Raw)
  | unknown (fault : IoFault)

namespace Meaning

/-- The builtins of every shell that are not special. -/
def commonBuiltins : List String :=
  ["alias", "bg", "cd", "command", "echo", "false", "fg", "getopts", "hash", "jobs", "kill",
    "printf", "pwd", "read", "test", "[", "true", "type", "ulimit", "umask", "unalias", "wait"]

/-- The builtins of the richer dialect alone. -/
def richBuiltins : List String :=
  ["builtin", "caller", "declare", "dirs", "disown", "enable", "let", "local", "logout",
    "mapfile", "popd", "pushd", "readarray", "shopt", "source", "typeset"]

/-- Whether a name is that of a builtin, and whether that is special. -/
def builtin? (rich : Bool) (name : Raw) : Option Bool :=
  let text := String.ofList name
  if Script.specialNames.contains name then some true
  else if commonBuiltins.contains text then some false
  else if rich then (if richBuiltins.contains text then some false else none)
  else if text == "chdir" then some false
  else if text == "local" then some true
  else none

/-- The search path of a system. -/
def standardPath : Raw := raw "/usr/local/sbin:/usr/local/bin:/usr/sbin:/usr/bin:/sbin:/bin"

/-- What a name stands for in a shell, with a search path. -/
def find (shell : Shell) (findsFunctions : Bool) (path name : Raw) : Meaning :=
  let special := builtin? shell.isRich name
  let function :=
    if findsFunctions && (shell.isRich || special ≠ some true || name = raw "local") then
      shell.functions.find? (·.1 = name)
    else none
  match function, special with
  | some (_, body), _ => .function body
  | none, some isSpecial => .builtin isSpecial
  | none, none =>
    if name.contains '/' then .program [name]
    else
      match Lookup.candidates shell.tree shell.here path name with
      | .ok paths => .program paths
      | .error fault => .unknown fault

/-- The search path of a shell. -/
def pathOf (shell : Shell) : Raw := (shell.value? (raw "PATH")).getD []

/-- Whether something is at a path. -/
def isThere (shell : Shell) (path : Raw) : Bool := (shell.tree.find shell.here path).isOk

/-- Says what a name stands for, or only how it is called. -/
def describe (verbose : Bool) (path name : Raw) : Act Bool := do
  let shell ← get
  let rich := shell.isRich
  let say (long : String) (short : Raw) : Act Bool := do
    Act.sayLine (if verbose then name ++ raw long else short)
    return true
  if (Script.keywords shell.dialect).contains (String.ofList name) then
    say " is a shell keyword" name
  else
    match shell.aliases.find? (·.1 = name) with
    | some (_, value) =>
      if verbose then
        Act.sayLine (name ++ raw (if rich then " is aliased to \x60" else " is an alias for ") ++ value
          ++ (if rich then ['\x27'] else []))
      else Act.sayLine (raw "alias " ++ name ++ ['='] ++ Builtin.shown value)
      return true
    | none =>
      match find shell true path name with
      | .function _ => say (if rich then " is a function" else " is a shell function") name
      | .builtin isSpecial =>
        say (if isSpecial && !rich then " is a special shell builtin" else " is a shell builtin") name
      | .program paths =>
        let found := paths.headD name
        let isFound := if rich then Lookup.isProgram shell.tree shell.here found
          else isThere shell found
        if isFound then
          Act.sayLine (if verbose then name ++ raw " is " ++ found else found)
          return true
        else
          if verbose then
            if rich then Act.complain (name ++ raw ": not found")
            else Act.sayLine (name ++ raw ": not found")
          return false
      | .unknown _ =>
        if verbose then
          if rich then Act.complain (name ++ raw ": not found")
          else Act.sayLine (name ++ raw ": not found")
        return false

end Meaning

namespace Builtin

/-- Says what names stand for. -/
def type (arguments : List Raw) : Act Unit := do
  let shell ← get
  let (found, names) ← if shell.isRich then options "afpPt" arguments else pure ([], arguments)
  Act.setStatus 0
  names.forM fun name => do
    let path := Meaning.pathOf shell
    if has found 't' then
      let isAlias := shell.aliases.any (·.1 = name)
      let kind : String :=
        if isAlias then "alias"
        else if (Script.keywords .rich).contains (String.ofList name) then "keyword"
        else
          match Meaning.find shell true path name with
          | .function _ => "function"
          | .builtin _ => "builtin"
          | .program paths =>
            if Lookup.isProgram shell.tree shell.here (paths.headD []) then "file" else ""
          | .unknown _ => ""
      if kind == "" then Act.setStatus 1 else Act.sayLine (raw kind)
    else if has found 'p' || has found 'P' then
      match Meaning.find shell false path name with
      | .program paths => Act.sayLine (paths.headD [])
      | .builtin _ => if has found 'P' then
          match Lookup.candidates shell.tree shell.here path name with
          | .ok (first :: _) => Act.sayLine first
          | _ => Act.setStatus 1
      | _ => Act.setStatus 1
    else if !(← Meaning.describe true path name) then
      Act.setStatus (if shell.isRich then 1 else 127)

/-- Says how a name is called, or what it stands for. -/
def whereIs (verbose standard : Bool) (names : List Raw) : Act Unit := do
  let shell ← get
  let path := if standard then Meaning.standardPath else Meaning.pathOf shell
  let names := if shell.isRich then names else names.take 1
  let found ← names.mapM (Meaning.describe verbose path)
  Act.setStatus
    (if shell.isRich then (if found.contains true then 0 else 1)
      else if found.all id then 0 else 127)

/-- Remembers where programs are, which shows only where there are none. -/
def hash (arguments : List Raw) : Act Unit := do
  let (_, names) ← options "rvlpdt" arguments
  let shell ← get
  Act.setStatus 0
  names.forM fun name => do
    match Meaning.find shell true (Meaning.pathOf shell) name with
    | .unknown _ =>
      Act.complain (name ++ raw ": not found")
      Act.setStatus 1
    | _ => pure ()

end Builtin

end Rehearsal

end InstallPlan

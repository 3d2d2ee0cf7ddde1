import InstallPlan.Rehearsal.Errand.Options

/-!
# Rehearsal — Errands about names

The programs that take paths apart, follow links, or tell something about the
program's surroundings.
-/

namespace InstallPlan

namespace Rehearsal

namespace Errand

/-- Ends the program if operands are too few. -/
def atLeast (count : Nat) (operands : List Raw) : Errand Unit := do
  if operands.length < count then
    match operands.getLast? with
    | none => misuse 1 (raw "missing operand")
    | some last => misuse 1 (raw "missing operand after " ++ quote last)

/-- Ends the program if operands are too many. -/
def atMost (count : Nat) (operands : List Raw) : Errand Unit :=
  match operands.drop count with
  | [] => pure ()
  | extra :: _ => misuse 1 (raw "extra operand " ++ quote extra)

/-! ## Parts of paths -/

/-- A path without slashes at its end; of nothing but slashes one is left. -/
def withoutSlashes (path : Raw) : Raw :=
  let short := Raw.dropEnd (· = '/') path
  if short = [] ∧ path ≠ [] then ['/'] else short

/-- The last name of a path. -/
def lastName (path : Raw) : Raw :=
  let path := withoutSlashes path
  if path = ['/'] then path else (path.reverse.takeWhile (· ≠ '/')).reverse

/-- The path of the directory that a path lies in. -/
def parentPath (path : Raw) : Raw :=
  let above := (withoutSlashes path).reverse.dropWhile (· ≠ '/')
  if above = [] then (if path.head? = some '/' then ['/'] else ['.'])
  else withoutSlashes above.reverse

/-- A name without an ending; a name that is nothing else keeps it. -/
def withoutEnding (ending name : Raw) : Raw :=
  if ending.isSuffixOf name ∧ ending ≠ name then name.take (name.length - ending.length) else name

/-- Says texts, each with its end. -/
def sayAll (ending : Char) (texts : List Raw) : Errand Unit :=
  texts.forM fun text => say (text ++ [ending])

/-- Prints the last name of paths. -/
def basename (arguments : List Raw) : Errand Unit := do
  let given ← given
    { letters := "as:z", inOrder := true,
      words := [("multiple", .none, "a"), ("suffix", .value, "s"), ("zero", .none, "z")] } arguments
  atLeast 1 given.operands
  let ending := if given.has "z" then '\x00' else '\n'
  if given.has "a" || given.has "s" then
    let suffix := (given.last? "s").getD []
    sayAll ending (given.operands.map fun p => withoutEnding suffix (lastName p))
  else
    atMost 2 given.operands
    match given.operands with
    | [path, suffix] => sayAll ending [withoutEnding suffix (lastName path)]
    | paths => sayAll ending (paths.map lastName)

/-- Prints the directories that paths lie in. -/
def dirname (arguments : List Raw) : Errand Unit := do
  let given ← given
    { letters := "z",
      words := [("zero", .none, "z")] }
    arguments
  atLeast 1 given.operands
  sayAll (if given.has "z" then '\x00' else '\n') (given.operands.map parentPath)

/-! ## Following paths -/

/-- How much of a path must be there to be followed. -/
inductive Existing where
  | all
  | allButLast
  | none
  deriving DecidableEq

/-- The path from the root that steps lead to behind a directory that is known,
links being followed; what is not there is kept as it stands. -/
def canonicalFrom (tree : Tree) (existing : Existing) :
    Nat → Nat → Option Nat → Raw → List Raw → Except IoFault Raw
  | 0, _, _, _, _ => .error .tooManyLinks
  | _, _, _, path, [] => .ok (if path = [] then ['/'] else path)
  | steps + 1, links, directory, path, step :: rest =>
    if step = [] ∨ step = ['.'] then
      if step = [] ∧ rest ≠ [] ∨ step = ['.'] ∨ directory.any tree.isDirectory
          ∨ existing ≠ .all then
        canonicalFrom tree existing steps links directory path rest
      else .error .notADirectory
    else if step = ['.', '.'] then
      let above := if path.contains '/' then (path.reverse.dropWhile (· ≠ '/')).drop 1 else []
      canonicalFrom tree existing steps links (directory.map tree.parent) above.reverse rest
    else
      let next := path ++ '/' :: step
      let missing : Except IoFault Raw :=
        if existing = .none ∨ (existing = .allButLast ∧ Tree.isEnd rest ∧ directory.isSome) then
          canonicalFrom tree existing steps links none next rest
        else .error .notFound
      match directory with
      | none => missing
      | some directory =>
        if !tree.isDirectory directory then
          if existing = .none then canonicalFrom tree existing steps links none next rest
          else .error .notADirectory
        else
          match tree.member? directory step with
          | none => missing
          | some number =>
            match tree.entry? number with
            | some (.link target) =>
              if links = 0 then .error .tooManyLinks
              else
                let absolute := target.head? = some '/'
                canonicalFrom tree existing steps (links - 1)
                  (if absolute then some Tree.root else some directory)
                  (if absolute then [] else path) (Raw.split '/' target ++ rest)
            | _ => canonicalFrom tree existing steps links (some number) next rest

/-- The path from the root to what a path leads to. -/
def canonical (existing : Existing) (path : Raw) : Errand (Except IoFault Raw) := do
  let process ← process
  if path = [] then return .error .notFound
  else
    let start := Tree.startOf process.here path
    let front := process.tree.pathOf start
    return canonicalFrom process.tree existing 4096 Tree.maxLinks (some start)
      (if front = ['/'] then [] else front) (Raw.split '/' path)

/-- How much must be there, by the options that were given. -/
def existingOf (given : Given) (standard : Existing) : Existing :=
  match given.latest? ["e", "f", "m"] with
  | some "e" => .all
  | some "m" => .none
  | some "f" => .allButLast
  | _ => standard

/-- Prints where links lead. -/
def readLink (arguments : List Raw) : Errand Unit := do
  let given ← given
    { letters := "efmnqsvz",
      words := [("canonicalize", .none, "f"), ("canonicalize-existing", .none, "e"),
        ("canonicalize-missing", .none, "m"), ("no-newline", .none, "n"), ("quiet", .none, "q"),
        ("silent", .none, "q"), ("verbose", .none, "v"), ("zero", .none, "z")] } arguments
  atLeast 1 given.operands
  let ending : Raw :=
    if given.has "n" && given.operands.length = 1 then []
    else if given.has "z" then ['\x00'] else ['\n']
  given.operands.forM fun path => do
    let result : Except IoFault Raw ←
      if (given.latest? ["e", "f", "m"]).isSome then canonical (existingOf given .all) path
      else
        let process ← process
        pure (match process.tree.findUnfollowed process.here path with
          | .error reason => .error reason
          | .ok number =>
            match process.tree.entry? number with
            | some (.link target) => .ok target
            | _ => .error .invalid)
    match result with
    | .ok text => say (text ++ ending)
    | .error reason =>
      if given.has "v" then fault (about path reason) else setStatus 1

/-- Prints the paths from the root to what paths lead to. -/
def realPath (arguments : List Raw) : Errand Unit := do
  let given ← given
    { letters := "eLmPqsz",
      words := [("canonicalize-existing", .none, "e"), ("canonicalize-missing", .none, "m"),
        ("quiet", .none, "q"), ("strip", .none, "s"), ("no-symlinks", .none, "s"),
        ("zero", .none, "z")] } arguments
  atLeast 1 given.operands
  given.operands.forM fun path => do
    match ← canonical (existingOf given .allButLast) path with
    | .ok text => say (text ++ (if given.has "z" then ['\x00'] else ['\n']))
    | .error reason => if given.has "q" then setStatus 1 else fault (about path reason)

/-- Prints the directory that the program is in. -/
def workingDirectory (arguments : List Raw) : Errand Unit := do
  let _ ← given
    { letters := "LP",
      words := [("logical", .none, "L"), ("physical", .none, "P")] } arguments
  sayLine ((← tree).pathOf (← here))

/-- Prints the path that a name is found at in the search path. -/
def which (arguments : List Raw) : Errand Unit := do
  let given ← givenOr 2 { letters := "as" } arguments
  let process ← process
  let isProgram (path : Raw) : Bool :=
    match process.tree.locate process.here path with
    | .ok node => node.entry.isRegular && node.isExecutable
    | .error _ => false
  if given.operands = [] then setStatus 1
  given.operands.forM fun name => do
    let directories := Raw.split ':' ((process.value? (raw "PATH")).getD [])
    let candidates :=
      if name.contains '/' then [name]
      else directories.map fun d => if d = [] then raw "./" ++ name else d ++ '/' :: name
    let found := candidates.filter isProgram
    match found with
    | [] => setStatus 1
    | first :: _ =>
      if given.has "s" then pure ()
      else if given.has "a" then sayAll '\n' found
      else sayLine first

/-! ## Surroundings -/

/-- Prints the environment, or variables of it. -/
def printEnvironment (arguments : List Raw) : Errand Unit := do
  let given ← givenOr 2
    { letters := "0", inOrder := true,
      words := [("null", .none, "0")] }
    arguments
  let ending := if given.has "0" then '\x00' else '\n'
  let process ← process
  if given.operands = [] then
    sayAll ending (process.environment.map fun (n, v) => n ++ '=' :: v)
  else
    given.operands.forM fun name => do
      match process.value? name with
      | some value => say (value ++ [ending])
      | none => setStatus 1

/-- Prints what system this is. -/
def systemName (arguments : List Raw) : Errand Unit := do
  let given ← given { letters := "asnrvmpio" } arguments
  atMost 0 given.operands
  let parts : List (String × String) := [
    ("s", "Linux"), ("n", "localhost"), ("r", "6.1.0"), ("v", "#1 SMP"), ("m", "x86_64"),
    ("o", "GNU/Linux")]
  let chosen := parts.filter fun p =>
    given.has "a" || given.has p.1 || (given.options = [] && p.1 = "s")
  sayLine (Raw.joined [' '] (chosen.map fun p => raw p.2))

/-- Prints who the user is. -/
def identity (arguments : List Raw) : Errand Unit := do
  let given ← given
    { letters := "agGnruz",
      words := [("user", .none, "u"), ("group", .none, "g"), ("name", .none, "n"),
        ("real", .none, "r"), ("groups", .none, "G")] } arguments
  if given.has "n" && (given.has "u" || given.has "g" || given.has "G") then sayLine (raw "root")
  else if given.has "u" || given.has "g" || given.has "G" then sayLine (raw "0")
  else sayLine (raw "uid=0(root) gid=0(root) groups=0(root)")

/-- Prints a word that is always the same. -/
def constant (word : String) (_ : List Raw) : Errand Unit := sayLine (raw word)

/-- Says that there is no terminal. -/
def terminal (arguments : List Raw) : Errand Unit := do
  let given ← givenOr 2 { letters := "s" } arguments
  if !given.has "s" then sayLine (raw "not a tty")
  setStatus 1

/-- Does nothing but end with a status. -/
def ending (status : Nat) (_ : List Raw) : Errand Unit := setStatus status

end Errand

end Rehearsal

end InstallPlan

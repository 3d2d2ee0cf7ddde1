import InstallPlan.Rehearsal.Errand.Calendar
import InstallPlan.Rehearsal.Errand.Parts

/-!
# Rehearsal — Errands about files

The programs that make, take away, mark and join files and directories.
-/

namespace InstallPlan

namespace Rehearsal

namespace Errand

/-- Complains about what could not be done with a path. -/
def refuse (what : String) (path : Raw) (reason : IoFault) : Errand Unit :=
  fault (raw what ++ [' '] ++ quote path ++ raw ": " ++ raw reason.reason)

/-- Ends the program if there is no file among the operands. -/
def needFile (operands : List Raw) : Errand Unit := do
  if operands = [] then misuse 1 (raw "missing file operand")

/-! ## Modes -/

/-- The bits that letters of a mode stand for. -/
def modeBits (current : Nat) (isDirectory : Bool) (letters : Raw) : Nat :=
  letters.foldl
    (fun bits c =>
      bits ||| match c with
        | 'r' => 0o444
        | 'w' => 0o222
        | 'x' => 0o111
        | 'X' => if isDirectory || current &&& 0o111 != 0 then 0o111 else 0
        | 's' => 0o6000
        | 't' => 0o1000
        | _ => 0)
    0

/-- The bits that belong to some users. -/
def userBits (users : Raw) : Nat :=
  users.foldl
    (fun bits c =>
      bits ||| match c with
        | 'u' => 0o4700
        | 'g' => 0o2070
        | 'o' => 0o1007
        | _ => 0o7777)
    0

/-- A mode after one clause, such as `u+x`. -/
def modeClause? (mask : Nat) (isDirectory : Bool) (mode : Nat) (clause : Raw) : Option Nat :=
  let users := clause.takeWhile "ugoa".toList.contains
  let who := if users = [] then masked mask 0o7777 else userBits users
  let rec actions : Nat → Nat → Raw → Option Nat
    | 0, _, _ => none
    | _, mode, [] => some mode
    | steps + 1, mode, sign :: rest =>
      let letters := rest.takeWhile fun c => c.isAlpha
      let copied : Option Nat :=
        match letters with
        | ['u'] => some (mode >>> 6 &&& 7)
        | ['g'] => some (mode >>> 3 &&& 7)
        | ['o'] => some (mode &&& 7)
        | _ => none
      let bits :=
        match copied with
        | some three => three * 0o111
        | none => modeBits mode isDirectory letters
      if copied.isNone && !letters.all "rwxXst".toList.contains then none
      else
        let chosen := bits &&& who
        let after := rest.drop letters.length
        match sign with
        | '+' => actions steps (mode ||| chosen) after
        | '-' => actions steps (mode &&& (0o7777 ^^^ chosen)) after
        | '=' => actions steps ((mode &&& (0o7777 ^^^ (who &&& 0o777))) ||| chosen) after
        | _ => none
  match clause.drop users.length with
  | [] => none
  | rest => actions (rest.length + 1) mode rest

/-- The mode that a text asks for. -/
def newMode? (mask : Nat) (isDirectory : Bool) (mode : Nat) (text : Raw) : Option Nat :=
  if text ≠ [] ∧ text.all Escapes.isOctal then
    let n := Escapes.ofDigits 8 text
    if n < 0o10000 then some n else none
  else (Raw.split ',' text).foldlM (modeClause? mask isDirectory) mode

/-- The nodes below a directory with their paths, in at most so many levels. -/
def nodesBelow (tree : Tree) : Nat → Raw → Nat → List (Raw × Nat)
  | 0, _, _ => []
  | levels + 1, path, number =>
    (tree.members number).flatMap fun (name, inner) =>
      let path := if path.getLast? = some '/' then path ++ name else path ++ '/' :: name
      (path, inner) :: (if tree.isDirectory inner then nodesBelow tree levels path inner else [])

/-- Changes the modes of files. -/
def changeMode (arguments : List Raw) : Errand Unit := do
  let isMode (a : Raw) : Bool :=
    match a with
    | '-' :: c :: _ => "rwxXst".toList.contains c
    | _ => false
  let options := arguments.takeWhile fun a => a.head? = some '-' && !isMode a
  let given ← given
    { letters := "Rcfv", inOrder := true,
      words := [("recursive", .none, "R"), ("verbose", .none, "v"), ("quiet", .none, "f"),
        ("silent", .none, "f"), ("reference", .value, "reference")] } options
  let operands := given.operands ++ arguments.drop options.length
  match operands with
  | [] => misuse 1 (raw "missing operand")
  | [mode] => misuse 1 (raw "missing operand after " ++ quote mode)
  | mode :: paths =>
    if (newMode? 0 false 0 mode).isNone then misuse 1 (raw "invalid mode: " ++ quote mode)
    paths.forM fun path => do
      let process ← process
      match process.tree.find process.here path with
      | .error reason => if !given.has "f" then refuse "cannot access" path reason else setStatus 1
      | .ok number =>
        let targets :=
          if given.has "R" then
            number :: (nodesBelow process.tree process.tree.nodes.size path number).map (·.2)
          else [number]
        targets.forM fun target => do
          let process ← Errand.process
          setProcess (process.withTree (process.tree.update target fun node =>
            { node with
              mode := (newMode? process.mask node.entry.isDirectory node.mode mode).getD
                node.mode }))

/-- Pretends to change the owner of files, who is the only user. -/
def changeOwner (arguments : List Raw) : Errand Unit := do
  let given ← given
    { letters := "RhfvcHLP", words := [("recursive", .none, "R"), ("verbose", .none, "v")] }
    arguments
  match given.operands with
  | [] => misuse 1 (raw "missing operand")
  | [owner] => misuse 1 (raw "missing operand after " ++ quote owner)
  | _ :: paths =>
    paths.forM fun path => do
      let process ← process
      match process.tree.find process.here path with
      | .error reason => refuse "cannot access" path reason
      | .ok _ => pure ()

/-! ## Making and taking away -/

/-- Makes the directories on the way to a path, and the last of them. -/
def makeWay (path : Raw) (verbose : Bool) : Errand Bool := do
  let steps := (path.mapIdx fun i c => (i, c)).filterMap fun (i, c) =>
    if c = '/' ∧ i ≠ 0 then some (path.take i) else none
  let ways := (steps ++ [path]).filter fun way => (Raw.trim (· = '/') way) ≠ []
  let rec go : List Raw → Errand Bool
    | [] => return true
    | way :: more => do
      let process ← process
      if process.tree.leadsToDirectory process.here way then go more
      else
        match ← change (Tree.makeDirectory process.here way (masked process.mask 0o777)
            process.system.clock) with
        | .ok _ =>
          if verbose then sayLine (raw "mkdir: created directory " ++ quote way)
          go more
        | .error reason =>
          refuse "cannot create directory" way reason
          return false
  go ways

/-- Makes directories. -/
def makeDirectories (arguments : List Raw) : Errand Unit := do
  let given ← given
    { letters := "m:pvZ",
      words := [("mode", .value, "m"), ("parents", .none, "p"), ("verbose", .none, "v")] } arguments
  atLeast 1 given.operands
  let mode := (given.last? "m").map fun text => (text, newMode? 0 true 0o777 text)
  match mode with
  | some (text, none) => die 1 (raw "invalid mode " ++ quote text)
  | _ => pure ()
  given.operands.forM fun path => do
    let process ← process
    let existed := process.tree.leadsToDirectory process.here path
    let made ←
      if given.has "p" then makeWay path (given.has "v")
      else
        match ← change (Tree.makeDirectory process.here path (masked process.mask 0o777)
            process.system.clock) with
        | .ok _ =>
          if given.has "v" then sayLine (raw "mkdir: created directory " ++ quote path)
          pure true
        | .error reason =>
          refuse "cannot create directory" path reason
          pure false
    match mode, made && !existed with
    | some (_, some mode), true =>
      let process ← Errand.process
      match process.tree.find process.here path with
      | .ok number =>
        setProcess (process.withTree (process.tree.update number fun node => { node with mode }))
      | .error _ => pure ()
    | _, _ => pure ()

/-- Takes away directories that are empty. -/
def removeDirectories (arguments : List Raw) : Errand Unit := do
  let given ← given
    { letters := "pv",
      words := [("parents", .none, "p"), ("verbose", .none, "v"),
        ("ignore-fail-on-non-empty", .none, "ignore")] } arguments
  atLeast 1 given.operands
  let rec above : Nat → Raw → List Raw
    | 0, _ => []
    | steps + 1, path =>
      if path.contains '/' then
        let outer := withoutSlashes ((path.reverse.dropWhile (· ≠ '/')).reverse)
        if outer = ['/'] then [] else outer :: above steps outer
      else []
  let rec go : List Raw → Errand Unit
    | [] => pure ()
    | path :: more => do
      if given.has "v" then sayLine (raw "rmdir: removing directory, " ++ quote path)
      match ← change (Tree.removeDirectory (← here) path) with
      | .ok _ => go more
      | .error reason =>
        if !(given.has "ignore" && reason = .notEmpty) then refuse "failed to remove" path reason
  given.operands.forM fun path =>
    go (if given.has "p" then
      path :: above path.length (withoutSlashes path) else [path])

/-- Takes a path away with all that is below it, in at most so many levels. -/
def removeAll (verbose : Bool) : Nat → Raw → Errand Unit
  | 0, _ => pure ()
  | levels + 1, path => do
    let process ← process
    match process.tree.findUnfollowed process.here path with
    | .error reason => refuse "cannot remove" path reason
    | .ok number =>
      if process.tree.isDirectory number then
        (process.tree.members number).forM fun (name, _) =>
          removeAll verbose levels
            (if path.getLast? = some '/' then path ++ name else path ++ '/' :: name)
        match ← change (Tree.removeDirectory process.here path) with
        | .ok _ => if verbose then sayLine (raw "removed directory " ++ quote path)
        | .error reason => refuse "cannot remove" path reason
      else
        match ← change (Tree.removeName process.here path) with
        | .ok _ => if verbose then sayLine (raw "removed " ++ quote path)
        | .error reason => refuse "cannot remove" path reason

/-- Takes away files, and directories with all that is in them if asked to. -/
def removeFiles (arguments : List Raw) : Errand Unit := do
  let given ← given
    { letters := "dfiIrRv",
      words := [("force", .none, "f"), ("recursive", .none, "r"), ("verbose", .none, "v"),
        ("dir", .none, "d"), ("interactive", .attached, "i"), ("one-file-system", .none, "one"),
        ("preserve-root", .attached, "root"), ("no-preserve-root", .none, "noroot")] } arguments
  let forced := given.latest? ["f", "i", "I"] = some "f"
  if given.operands = [] && !given.has "f" then atLeast 1 given.operands
  let deep := given.has "r" || given.has "R"
  given.operands.forM fun path => do
    let process ← process
    let last := lastName path
    if deep && (last = ['.'] || last = ['.', '.']) then
      fault (raw "refusing to remove '.' or '..' directory: skipping " ++ quote path)
    else if deep && last = ['/'] then
      fault (raw "it is dangerous to operate recursively on '/'")
    else
      match process.tree.findUnfollowed process.here path with
      | .error reason =>
        if !(forced && (reason = .notFound || reason = .notADirectory)) then
          refuse "cannot remove" path reason
      | .ok number =>
        if process.tree.isDirectory number && !deep then
          if given.has "d" then
            match ← change (Tree.removeDirectory process.here path) with
            | .ok _ => if given.has "v" then sayLine (raw "removed directory " ++ quote path)
            | .error reason => refuse "cannot remove" path reason
          else refuse "cannot remove" path .isADirectory
        else removeAll (given.has "v") (process.tree.nodes.size + 1) path

/-- Takes one name away. -/
def removeOne (arguments : List Raw) : Errand Unit := do
  let given ← given { letters := "" } arguments
  atLeast 1 given.operands
  atMost 1 given.operands
  given.operands.forM fun path => do
    match ← change (Tree.removeName (← here) path) with
    | .ok _ => pure ()
    | .error reason => refuse "cannot unlink" path reason

/-- Makes files that are not there, and marks all as changed. -/
def touch (arguments : List Raw) : Errand Unit := do
  let given ← given
    { letters := "acd:fhmr:t:",
      words := [("no-create", .none, "c"), ("date", .value, "d"), ("reference", .value, "r"),
        ("no-dereference", .none, "h"), ("time", .value, "time")] } arguments
  needFile given.operands
  let now := (← process).system.clock
  let stamp ←
    match given.last? "d", given.last? "t", given.last? "r" with
    | some text, _, _ =>
      match time? now text with
      | some time => pure time
      | none => die 1 (raw "invalid date format " ++ quote text)
    | none, some text, _ =>
      match stampTime? text with
      | some time => pure time
      | none => die 1 (raw "invalid date format " ++ quote text)
    | none, none, some path =>
      match (← process).status? path with
      | .ok (_, node) => pure node.stamp
      | .error reason =>
        die 1 (raw "failed to get attributes of " ++ quote path ++ raw ": " ++ raw reason.reason)
    | none, none, none => pure now
  given.operands.forM fun path => do
    let process ← process
    let mark (number : Nat) : Errand Unit := do
      let process ← Errand.process
      if !(given.has "a" && !given.has "m") then
        setProcess (process.withTree (process.tree.update number fun node => { node with stamp }))
    if path = ['-'] then pure ()
    else
      match process.status? path with
      | .ok (number, _) => mark number
      | .error .notFound =>
        if !given.has "c" then
          match process.openPath path { writes := true, creates := true } with
          | .error reason => refuse "cannot touch" path reason
          | .ok (_, opened) =>
            setProcess opened
            match opened.tree.find opened.here path with
            | .ok number => mark number
            | .error _ => pure ()
      | .error reason => refuse "cannot touch" path reason

/-- Makes files shorter or longer. -/
def truncate (arguments : List Raw) : Errand Unit := do
  let given ← given
    { letters := "cor:s:", words := [("size", .value, "s"), ("no-create", .none, "c")] } arguments
  match given.last? "s" with
  | none => misuse 1 (raw "you must specify either '--size' or '--reference'")
  | some text =>
    needFile given.operands
    let sign := text.headD ' '
    let digits := if "+-".toList.contains sign then text.drop 1 else text
    match multiplied? digits with
    | none => die 1 (raw "Invalid number: " ++ quote text)
    | some count =>
      given.operands.forM fun path => do
        let process ← process
        if given.has "c" && !(process.tree.find process.here path matches .ok _) then pure ()
        else
          match process.openPath path { writes := true, creates := true } with
          | .error reason =>
            fault (raw "cannot open " ++ quote path ++ raw " for writing: " ++ raw reason.reason)
          | .ok (_, opened) =>
            setProcess opened
            match opened.tree.find opened.here path with
            | .error _ => pure ()
            | .ok number =>
              match opened.tree.entry? number with
              | some (.file old) =>
                let size :=
                  if sign = '+' then old.length + count
                  else if sign = '-' then old.length - count else count
                let new := old.take size ++ List.replicate (size - old.length) '\x00'
                setProcess (opened.withTree (opened.tree.setEntry number (.file new)))
              | _ => pure ()

/-- Makes queues. -/
def makeQueues (arguments : List Raw) : Errand Unit := do
  let given ← given { letters := "m:Z", words := [("mode", .value, "m")] } arguments
  atLeast 1 given.operands
  given.operands.forM fun path => do
    let process ← process
    match ← change (Tree.makeNode process.here path
        { entry := .queue [], mode := masked process.mask 0o666 }) with
    | .ok _ => pure ()
    | .error reason => refuse "cannot create fifo" path reason

/-- Makes a new file or directory with a name that nothing has. -/
def makeTemporary (arguments : List Raw) : Errand Unit := do
  let given ← given
    { letters := "dqup:tV",
      words := [("directory", .none, "d"), ("quiet", .none, "q"), ("dry-run", .none, "u"),
        ("tmpdir", .attached, "p"), ("suffix", .value, "suffix")] } arguments
  atMost 1 given.operands
  let process ← process
  let temporary := (process.value? (raw "TMPDIR")).getD (raw "/tmp")
  let template := given.operands.headD (raw "tmp.XXXXXXXXXX")
  let count := ((template.reverse.dropWhile (· ≠ 'X')).takeWhile (· = 'X')).length
  let after := template.reverse.takeWhile (· ≠ 'X') |>.reverse
  if count < 3 then die 1 (raw "too few X's in template " ++ quote template)
  let front := template.take (template.length - after.length - count)
  let serial := Raw.ofNat (process.tree.nodes.size + process.system.lastId)
  let name := front ++ (List.replicate (count - serial.length) 'x' ++ serial).take count ++ after
    ++ (given.last? "suffix").getD []
  let inDirectory := given.operands = [] || given.has "p" || given.has "t"
  let directory :=
    match given.last? "p" with
    | some [] | none => temporary
    | some path => path
  let path := if inDirectory then directory ++ '/' :: name else name
  let made ←
    if given.has "u" then pure (.ok ())
    else if given.has "d" then
      change (Tree.makeDirectory process.here path 0o700 process.system.clock)
    else
      change (Tree.makeNode process.here path
        { entry := .file [], mode := 0o600, stamp := process.system.clock })
  match made with
  | .ok _ => sayLine path
  | .error reason =>
    die 1 (raw "failed to create " ++ raw (if given.has "d" then "directory" else "file")
      ++ raw " via template " ++ quote template ++ raw ": " ++ raw reason.reason)

/-! ## Links -/

/-- Whether the last operand of a program for several files is a directory to put
them into. -/
def goalIsDirectory (path : Raw) (follows : Bool) : Errand Bool := do
  let process ← process
  if follows then return process.tree.leadsToDirectory process.here path
  else
    match process.tree.findUnfollowed process.here path with
    | .ok number => return process.tree.isDirectory number
    | .error _ => return false

/-- A path in a directory. -/
def inside (directory name : Raw) : Raw :=
  if directory.getLast? = some '/' then directory ++ name else directory ++ '/' :: name

/-- Pairs of sources and goals, of a program whose last operand is a goal or a
directory for all. -/
def pairs (given : Given) (follows : Bool) (verb : String) : Errand (List (Raw × Raw)) := do
  match given.last? "t" with
  | some directory =>
    if !(← goalIsDirectory directory true) then
      let reason : IoFault :=
        match (← process).status? directory with
        | .error reason => reason
        | .ok _ => .notADirectory
      die 1 (raw verb ++ raw "target directory " ++ quote directory ++ raw ": "
        ++ raw reason.reason)
    return given.operands.map fun s => (s, inside directory (lastName s))
  | none =>
    match given.operands.getLast?, given.operands.dropLast with
    | none, _ => misuse 1 (raw "missing file operand")
    | some only, [] => misuse 1 (raw "missing destination file operand after " ++ quote only)
    | some goal, sources =>
      if given.has "T" then
        match sources with
        | _ :: extra :: _ => misuse 1 (raw "extra operand " ++ quote extra)
        | _ => return sources.map fun s => (s, goal)
      else if ← goalIsDirectory goal follows then
        return sources.map fun s => (s, inside goal (lastName s))
      else
        match sources with
        | [source] => return [(source, goal)]
        | _ =>
          let reason : IoFault :=
            match (← process).status? goal with
            | .error reason => reason
            | .ok _ => .notADirectory
          die 1 (raw "target " ++ quote goal ++ raw ": " ++ raw reason.reason)

/-- The path from one directory to what another path leads to. -/
def relativePath (directory target : List Raw) : Raw :=
  let rec shared : List Raw → List Raw → Nat
    | a :: as, b :: bs => if a = b then shared as bs + 1 else 0
    | _, _ => 0
  let n := shared directory target
  let steps := List.replicate (directory.length - n) (raw "..") ++ target.drop n
  if steps = [] then ['.'] else Raw.joined ['/'] steps

/-- Makes links. -/
def link (arguments : List Raw) : Errand Unit := do
  let given ← given
    { letters := "bdFfiLnPrsS:t:Tv",
      words := [("symbolic", .none, "s"), ("force", .none, "f"), ("no-dereference", .none, "n"),
        ("no-target-directory", .none, "T"), ("target-directory", .value, "t"),
        ("verbose", .none, "v"), ("relative", .none, "r"), ("logical", .none, "L"),
        ("physical", .none, "P")] } arguments
  needFile given.operands
  let symbolic := given.has "s"
  let pairs ←
    match given.operands with
    | [source] =>
      if (given.last? "t").isSome then pairs given true ""
      else pure [(source, inside ['.'] (lastName source))]
    | _ => pairs given (!given.has "n") ""
  pairs.forM fun (source, goal) => do
    let kind := if symbolic then "symbolic" else "hard"
    let process ← process
    let target ←
      if symbolic && given.has "r" then
        match ← canonical .none source, ← canonical .none (parentPath goal) with
        | .ok source, .ok directory =>
          pure (relativePath (Tree.stepsOf directory) (Tree.stepsOf source))
        | _, _ => pure source
      else pure source
    let attempt (path : Raw) : Errand (Except IoFault Unit) := do
      if symbolic then
        change (Tree.makeNode process.here path
          { entry := .link target, mode := 0o777, stamp := process.system.clock })
      else
        match process.tree.findUnfollowed process.here source with
        | .error reason => return .error reason
        | .ok number => change (Tree.linkTo process.here number path)
    let isDirectory :=
      match process.tree.findUnfollowed process.here source with
      | .ok number => process.tree.isDirectory number
      | .error _ => false
    let missing : Option IoFault :=
      match process.tree.findUnfollowed process.here source with
      | .ok _ => none
      | .error reason => some reason
    match symbolic, missing, isDirectory with
    | false, some reason, _ => refuse "failed to access" source reason
    | false, none, true => fault (source ++ raw ": hard link not allowed for directory")
    | _, _, _ =>
      let same : Bool :=
        match process.tree.findUnfollowed process.here source,
            process.tree.findUnfollowed process.here goal with
        | .ok a, .ok b => a = b
        | _, _ => false
      if given.has "f" && same then
        fault (quote source ++ raw " and " ++ quote goal ++ raw " are the same file")
      else
        if given.has "f" then let _ ← change (Tree.removeName process.here goal)
        let shown := if goal.take 2 = ['.', '/'] ∧ given.operands.length = 1 then goal else goal
        match ← attempt goal with
        | .ok _ =>
          if given.has "v" then
            sayLine (quote shown ++ raw (if symbolic then " -> " else " => ") ++ quote target)
        | .error reason =>
          let from_ := if symbolic ∨ reason = .alreadyThere then [] else raw " => " ++ quote source
          fault (raw "failed to create " ++ raw kind ++ raw " link " ++ quote shown ++ from_
            ++ raw ": " ++ raw reason.reason)

end Errand

end Rehearsal

end InstallPlan

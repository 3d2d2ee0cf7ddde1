import InstallPlan.Rehearsal.Errand.Files

/-!
# Rehearsal — Errands that copy

The programs that copy and move files and directories, and those that copy what
they read.
-/

namespace InstallPlan

namespace Rehearsal

namespace Errand

/-- What is asked of a copy. -/
structure Copying where
  deep : Bool := false
  /-- Whether modes and times are kept. -/
  keeps : Bool := false
  /-- Whether links in the source are followed. -/
  follows : Bool := true
  forced : Bool := false
  /-- Whether what is there already is left alone. -/
  spares : Bool := false
  /-- Whether only what is older is replaced. -/
  updates : Bool := false
  links : Bool := false
  symbolic : Bool := false
  verbose : Bool := false

/-- The number of what a path leads to. -/
def numberOf (follows : Bool) (path : Raw) : Errand (Except IoFault Nat) := do
  let process ← process
  return if follows then process.tree.find process.here path
    else process.tree.findUnfollowed process.here path

/-- Marks a new file or directory with the mode and time of another. -/
def markLike (source : Node) (keeps : Bool) (path : Raw) : Errand Unit := do
  let process ← process
  match process.tree.findUnfollowed process.here path with
  | .ok number =>
    setProcess (process.withTree (process.tree.update number fun node =>
      if keeps then { node with mode := source.mode, stamp := source.stamp }
      else { node with mode := masked process.mask source.mode }))
  | .error _ => pure ()

/-- Copies one path to another, in at most so many levels. -/
def copyTo (copying : Copying) : Nat → Bool → Raw → Raw → Errand Unit
  | 0, _, _, _ => pure ()
  | levels + 1, isOperand, source, goal => do
    let process ← process
    let follows := copying.follows && isOperand || copying.follows && !copying.deep
    let say? : Errand Unit :=
      if copying.verbose then sayLine (quote source ++ raw " -> " ++ quote goal) else pure ()
    match ← numberOf follows source with
    | .error reason => refuse "cannot stat" source reason
    | .ok number =>
      match process.tree.node? number with
      | none => pure ()
      | some node =>
        let other := (process.tree.find process.here goal).toOption
        let isSame := other = some number
          && !(copying.forced && copying.links && !node.entry.isDirectory)
        match node.entry with
        | .directory _ members =>
          if !copying.deep then
            fault (raw "-r not specified; omitting directory " ++ quote source)
          else
            let goalParent := (process.tree.find process.here (parentPath goal)).toOption
            let within := (goalParent.map fun p =>
              process.tree.isWithin number process.tree.nodes.size p).getD false
            match other with
            | some target =>
              if process.tree.isDirectory target then
                if isSame then
                  fault (quote source ++ raw " and " ++ quote goal ++ raw " are the same file")
                else
                  members.forM fun (name, _) =>
                    copyTo copying levels false (inside source name) (inside goal name)
                  if copying.keeps then markLike node true goal
              else
                fault (raw "cannot overwrite non-directory " ++ quote goal
                  ++ raw " with directory " ++ quote source)
            | none =>
              if within then
                fault (raw "cannot copy a directory, " ++ quote source ++ raw ", into itself, "
                  ++ quote goal)
              else
                match ← change (Tree.makeDirectory process.here goal
                    (masked process.mask node.mode) process.system.clock) with
                | .error reason => refuse "cannot create directory" goal reason
                | .ok _ =>
                  say?
                  members.forM fun (name, _) =>
                    copyTo copying levels false (inside source name) (inside goal name)
                  if copying.keeps then markLike node true goal
        | entry =>
          match other with
          | some target =>
            if process.tree.isDirectory target then
              fault (raw "cannot overwrite directory " ++ quote goal
                ++ raw " with non-directory" ++ (if copying.deep then [' '] ++ quote source else []))
              return
            if copying.spares then return
            if copying.updates
                && (process.tree.node? target).any (fun n => node.stamp ≤ n.stamp) then return
          | none => pure ()
          if isSame then
            fault (quote source ++ raw " and " ++ quote goal ++ raw " are the same file")
          else if copying.links || copying.symbolic then
            if copying.forced then let _ ← change (Tree.removeName process.here goal)
            let made ←
              if copying.symbolic then
                change (Tree.makeNode process.here goal { entry := .link source, mode := 0o777 })
              else change (Tree.linkTo process.here number goal)
            match made with
            | .ok _ => say?
            | .error reason => refuse "cannot create link" goal reason
          else
            match entry with
            | .link target =>
              if (process.tree.findUnfollowed process.here goal).toOption.isSome then
                let _ ← change (Tree.removeName process.here goal)
              match ← change (Tree.makeNode process.here goal
                  { entry := .link target, mode := 0o777, stamp := process.system.clock }) with
              | .ok _ => say?
              | .error reason => refuse "cannot create symbolic link" goal reason
            | .queue _ =>
              match ← change (Tree.makeNode process.here goal
                  { entry := .queue [], mode := node.mode }) with
              | .ok _ => say?
              | .error reason => refuse "cannot create fifo" goal reason
            | .program name =>
              match ← change (Tree.makeNode process.here goal
                  { entry := .program name, mode := node.mode }) with
              | .ok _ => say?
              | .error reason => refuse "cannot create regular file" goal reason
            | _ =>
              let (read, after) := process.contentAt source
              match read with
              | .error reason => fault (raw "error reading " ++ quote source ++ raw ": "
                  ++ raw reason.reason)
              | .ok content =>
                setProcess after
                let written ← store goal content .writing
                let written ←
                  match written, copying.forced, other with
                  | .error _, true, some _ =>
                    let _ ← change (Tree.removeName process.here goal)
                    store goal content .writing
                  | _, _, _ => pure written
                match written with
                | .error reason => refuse "cannot create regular file" goal reason
                | .ok _ =>
                  say?
                  if other.isNone || copying.keeps then markLike node copying.keeps goal

/-- Copies files. -/
def copy (arguments : List Raw) : Errand Unit := do
  let given ← given
    { letters := "abdfHilLnprst:uvxPRS:T",
      words := [("archive", .none, "a"), ("force", .none, "f"), ("no-clobber", .none, "n"),
        ("recursive", .none, "r"), ("preserve", .attached, "p"), ("update", .attached, "u"),
        ("verbose", .none, "v"), ("link", .none, "l"), ("symbolic-link", .none, "s"),
        ("target-directory", .value, "t"), ("no-target-directory", .none, "T"),
        ("no-dereference", .none, "P"), ("dereference", .none, "L"), ("parents", .none, "parents"),
        ("interactive", .none, "i"), ("reflink", .attached, "reflink"),
        ("sparse", .value, "sparse"), ("remove-destination", .none, "f")] } arguments
  let deep := given.has "r" || given.has "R" || given.has "a"
  let follows :=
    match given.latest? ["P", "L", "d", "a", "H"] with
    | some "L" | some "H" => true
    | some _ => false
    | none => !deep
  let copying : Copying :=
    { deep, follows
      keeps := given.has "p" || given.has "a"
      forced := given.has "f"
      spares := given.latest? ["n", "f", "i"] = some "n"
      updates := given.has "u"
      links := given.has "l"
      symbolic := given.has "s"
      verbose := given.has "v" }
  let levels := 4096
  if given.has "parents" then
    match given.operands.getLast? with
    | some goal =>
      given.operands.dropLast.forM fun source => do
        let target := inside goal source
        if ← makeWay (parentPath target) false then copyTo copying levels true source target
    | none => misuse 1 (raw "missing file operand")
  else
    let pairs ← pairs given true ""
    pairs.forM fun (source, goal) => copyTo copying levels true source goal

/-- Moves files. -/
def move (arguments : List Raw) : Errand Unit := do
  let given ← given
    { letters := "bfint:uvS:T",
      words := [("force", .none, "f"), ("no-clobber", .none, "n"), ("interactive", .none, "i"),
        ("update", .attached, "u"), ("verbose", .none, "v"), ("target-directory", .value, "t"),
        ("no-target-directory", .none, "T")] } arguments
  let pairs ← pairs given true ""
  pairs.forM fun (source, goal) => do
    let process ← process
    match process.tree.findUnfollowed process.here source with
    | .error reason => refuse "cannot stat" source reason
    | .ok number =>
      let other := (process.tree.findUnfollowed process.here goal).toOption
      let isDirectory := process.tree.isDirectory number
      let newer : Bool :=
        match process.tree.node? number, other.bind process.tree.node? with
        | some a, some b => b.stamp < a.stamp
        | _, _ => true
      if other.isSome && (given.latest? ["n", "f", "i"] = some "n" || (given.has "u" && !newer)) then
        pure ()
      else if other = some number then
        fault (quote source ++ raw " and " ++ quote goal ++ raw " are the same file")
      else
        match ← change (Tree.rename process.here source goal) with
        | .ok _ =>
          if given.has "v" then
            sayLine (raw "renamed " ++ quote source ++ raw " -> " ++ quote goal)
        | .error reason =>
          let otherIsDirectory := other.any process.tree.isDirectory
          if isDirectory && reason = .invalid then
            fault (raw "cannot move " ++ quote source ++ raw " to a subdirectory of itself, "
              ++ quote goal)
          else if isDirectory && other.isSome && !otherIsDirectory then
            fault (raw "cannot overwrite non-directory " ++ quote goal ++ raw " with directory "
              ++ quote source)
          else if !isDirectory && otherIsDirectory then
            fault (raw "cannot overwrite directory " ++ quote goal ++ raw " with non-directory")
          else
            fault (raw "cannot move " ++ quote source ++ raw " to " ++ quote goal ++ raw ": "
              ++ raw reason.reason)

/-- Copies files to where they are to be used, and sets their modes. -/
def install (arguments : List Raw) : Errand Unit := do
  let given ← given
    { letters := "bcCdDg:m:o:pst:TvS:",
      words := [("directory", .none, "d"), ("mode", .value, "m"), ("target-directory", .value, "t"),
        ("verbose", .none, "v"), ("owner", .value, "o"), ("group", .value, "g"),
        ("no-target-directory", .none, "T"), ("compare", .none, "C"),
        ("preserve-timestamps", .none, "p")] } arguments
  needFile given.operands
  let mode ←
    match given.last? "m" with
    | none => pure 0o755
    | some text =>
      match newMode? 0 (given.has "d") 0 text with
      | some mode => pure mode
      | none => die 1 (raw "invalid mode " ++ quote text)
  let mark (path : Raw) : Errand Unit := do
    let process ← process
    match process.tree.find process.here path with
    | .ok number =>
      setProcess (process.withTree (process.tree.update number fun node => { node with mode }))
    | .error _ => pure ()
  if given.has "d" then
    given.operands.forM fun path => do
      if ← makeWay path false then
        mark path
        if given.has "v" then sayLine (raw "install: creating directory " ++ quote path)
  else
    if given.has "D" then
      match given.last? "t", given.operands.getLast? with
      | some directory, _ => let _ ← makeWay directory false
      | none, some goal => let _ ← makeWay (parentPath goal) false
      | none, none => pure ()
    let pairs ← pairs given true ""
    pairs.forM fun (source, goal) => do
      let process ← process
      if process.tree.leadsToDirectory process.here source then
        fault (raw "omitting directory " ++ quote source)
      else
        match process.tree.find process.here source with
        | .error reason => refuse "cannot stat" source reason
        | .ok _ =>
          let _ ← change (Tree.removeName process.here goal)
          copyTo { forced := true, verbose := given.has "v" } 1 true source goal
          mark goal

/-- Copies what it reads to its output and to files. -/
def tee (arguments : List Raw) : Errand Unit := do
  let given ← given
    { letters := "aip", words := [("append", .none, "a"), ("ignore-interrupts", .none, "i"),
        ("output-error", .attached, "p")] } arguments
  let streams ← given.operands.mapM fun path => do
    if path = ['-'] then return []
    else
      match (← process).openPath path (if given.has "a" then .appending else .writing) with
      | .ok (stream, process) =>
        setProcess process
        return [(path, stream)]
      | .error reason =>
        fault (about path reason)
        return []
  let text ←
    match ← drain 0 with
    | .ok text => pure text
    | .error reason =>
      fault (raw "read error: " ++ raw reason.reason)
      pure []
  match ← write 1 text with
  | .ok _ => pure ()
  | .error reason => fault (raw "'standard output': " ++ raw reason.reason)
  streams.flatten.forM fun (path, stream) => do
    let process ← process
    match process.system.write stream text with
    | .ok system => setProcess { process with system }
    | .error reason => fault (about path reason)

/-- Copies blocks of octets. -/
def copyBlocks (arguments : List Raw) : Errand Unit := do
  let value? (name : String) : Option Raw :=
    (arguments.reverse.find? fun a => (name ++ "=").toList.isPrefixOf a).map
      (·.drop (name.length + 1))
  let known := ["if", "of", "bs", "ibs", "obs", "count", "skip", "seek", "conv", "status",
    "iflag", "oflag"]
  arguments.forM fun a => do
    let name := String.ofList (a.takeWhile (· ≠ '='))
    if !known.contains name || !a.contains '=' then
      misuse 1 (raw "unrecognized operand " ++ quote a)
  let number (name : String) (standard : Nat) : Errand Nat := do
    match value? name with
    | none => return standard
    | some text =>
      match multiplied? text with
      | some n => return n
      | none => die 1 (raw "invalid number: " ++ quote text)
  let size ← number "bs" (← number "ibs" 512)
  let skip ← number "skip" 0
  let seek ← number "seek" 0
  let count ← (value? "count").mapM fun _ => number "count" 0
  let conversions := Raw.split ',' ((value? "conv").getD [])
  let limit := count.map fun n => (n + skip) * size
  let input ←
    match value? "if" with
    | none => pure 0
    | some path =>
      match (← process).openPath path .reading with
      | .error reason =>
        die 1 (raw "failed to open " ++ quote path ++ raw ": " ++ raw reason.reason)
      | .ok (stream, process) =>
        setProcess (process.lead 0 (some stream))
        pure 0
  let text ←
    match (← process).stream? input with
    | none => die 1 (raw "'standard input': Bad file descriptor")
    | some stream =>
      match (← process).system.waiting stream limit with
      | .error reason => die 1 (raw "error reading: " ++ raw reason.reason)
      | .ok text =>
        let process ← process
        setProcess { process with system := process.system.consume stream text.length }
        pure (text.drop (skip * size))
  let text := if conversions.contains (raw "ucase") then text.map Char.toUpper
    else if conversions.contains (raw "lcase") then text.map Char.toLower else text
  match value? "of" with
  | none => say text
  | some path =>
    let truncates := !(conversions.contains (raw "notrunc"))
    match (← process).openPath path { writes := true, creates := true, truncates := truncates && seek = 0 } with
    | .error reason =>
      die 1 (raw "failed to open " ++ quote path ++ raw ": " ++ raw reason.reason)
    | .ok (stream, process) =>
      let system :=
        match process.system.streams[stream]? with
        | some s => process.system.setStream stream { s with offset := seek * size }
        | none => process.system
      match system.write stream text with
      | .ok system => setProcess { process with system }
      | .error reason => die 1 (raw "error writing " ++ quote path ++ raw ": " ++ raw reason.reason)
  if value? "status" ≠ some (raw "none") then
    flush
    let whole := text.length / size
    let part := if text.length % size = 0 then raw "+0" else raw "+1"
    shout (Raw.ofNat whole ++ part ++ raw " records in\n" ++ Raw.ofNat whole ++ part
      ++ raw " records out\n")
    if value? "status" ≠ some (raw "noxfer") then
      shout (Raw.ofNat text.length ++ raw (if text.length = 1 then " byte" else " bytes")
        ++ raw " copied, 0.0001 s, 1.0 MB/s\n")

end Errand

end Rehearsal

end InstallPlan

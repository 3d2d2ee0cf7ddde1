import InstallPlan.Job
import InstallPlan.Rehearsal.Programs

/-!
# Rehearsal — World

A whole machine in memory, seen by the process in which the program runs: its
files, the directory that the process is in, what it can read, and its
environment. `World.machine` carries out in it what the program asks of a
machine.
-/

namespace InstallPlan

namespace Rehearsal

/-- A machine in memory, as a process sees it. -/
structure World where
  process : Process

namespace World

/-- The directories of a new machine. -/
def standardDirectories : List String :=
  ["/boot", "/dev/fd", "/dev/shm", "/etc", "/home", "/media", "/mnt", "/opt", "/proc", "/root",
    "/run", "/srv", "/sys", "/tmp", "/usr/bin", "/usr/include", "/usr/lib", "/usr/local/bin",
    "/usr/local/lib", "/usr/local/sbin", "/usr/sbin", "/usr/share", "/usr/src", "/var/cache",
    "/var/lib", "/var/log", "/var/tmp"]

/-- The links of a new machine. -/
def standardLinks : List (String × String) :=
  [("/bin", "usr/bin"), ("/lib", "usr/lib"), ("/sbin", "usr/sbin"), ("/var/run", "/run")]

/-- The devices of a new machine. -/
def standardDevices : List (String × Device) :=
  [("/dev/null", .null), ("/dev/zero", .zero), ("/dev/full", .full),
    ("/dev/stdin", .channel 0), ("/dev/stdout", .channel 1), ("/dev/stderr", .channel 2)]
    ++ (List.range 64).map fun n => ("/dev/fd/" ++ toString n, .channel n)

/-- The files of a new machine apart from its programs. -/
def standardFiles : List (String × String) := [
  ("/etc/passwd", "root:x:0:0:root:/root:/bin/bash\n"), ("/etc/group", "root:x:0:\n"),
  ("/etc/hostname", "localhost\n"), ("/etc/hosts", "127.0.0.1\tlocalhost\n")]

/-- The directories of a new machine to which anybody can add files. -/
def sharedDirectories : List String := ["/tmp", "/var/tmp"]

/-- The files of a new machine. -/
def standardTree : Tree :=
  let place (path : String) : List Raw := Tree.stepsOf (raw path)
  let directories := standardDirectories.map fun path tree =>
    (Tree.withDirectories (place path) tree).2
  let shared := sharedDirectories.map fun path tree =>
    let (number, tree) := Tree.withDirectories (place path) tree
    tree.update number fun node => { node with mode := 0o1777 }
  let links := standardLinks.map fun (path, target) =>
    Tree.withNode (place path) { entry := .link (raw target), mode := 0o777 }
  let devices := standardDevices.map fun (path, device) =>
    Tree.withNode (place path) { entry := .device device, mode := 0o666 }
  let files := standardFiles.map fun (path, content) =>
    Tree.withNode (place path) { entry := .file (raw content), mode := 0o644 }
  let programs := Programs.names.map fun name =>
    Tree.withNode (place ("/usr/bin/" ++ name)) { entry := .program name, mode := 0o755 }
  (directories ++ shared ++ links ++ devices ++ files ++ programs).foldl (fun tree f => f tree) {}

/-- The environment of a new machine. -/
def standardEnvironment : List (Raw × Raw) :=
  [(raw "PATH", Meaning.standardPath), (raw "HOME", raw "/root")]

/-- A new machine. Nothing can be read, and nobody sees what is written. -/
def standard : World where
  process :=
    { system :=
        { tree := standardTree
          streams := #[{ origin := .device .null }] }
      channels := [(0, 0), (1, 0), (2, 0)]
      environment := standardEnvironment }

/-- The world with a variable in its environment. -/
def withVariable (name value : Raw) (world : World) : World :=
  { world with
    process := { world.process with
      environment := Errand.withVariable world.process.environment name value } }

/-- The world with something that can be read from the standard input. -/
def withInput (text : Raw) (world : World) : World :=
  let (stream, process) := world.process.adding { origin := .pipe text, writes := false }
  { world with process := process.lead 0 (some stream) }

/-- The world with a directory that the process is in. -/
def within (place : List Raw) (world : World) : World :=
  let (here, tree) := world.process.tree.withDirectories place
  { world with process := { world.process.withTree tree with here } }

/-- The content of a file. -/
def contentAt (world : World) (path : Raw) : Except IoFault Raw × World :=
  let (content, process) := world.process.contentAt path
  (content, { world with process })

/-- Reads a source. The standard input can be read only once. -/
def read (source : Source) (world : World) : Except IoFault Octets × World :=
  match source with
  | .standardInput =>
    match world.process.stream? 0 with
    | none => (.error .badChannel, world)
    | some stream =>
      match world.process.system.waiting stream none with
      | .error fault => (.error fault, world)
      | .ok text =>
        let system := world.process.system.consume stream text.length
        (.ok (Raw.toOctets text), { world with process := { world.process with system } })
  | .file path =>
    if path.octets.contains 0 then (.error .nulInPath, world)
    else
      let (content, world) := world.contentAt (Raw.ofOctets path.octets)
      (content.map Raw.toOctets, world)

/-- The greatest length of an argument. -/
def maxArgument : Nat := 131071

/-- Why a text cannot be handed to a program. -/
def argumentFault? (text : String) : Option IoFault :=
  if text.toList.contains '\x00' then some .nulInArgument
  else if maxArgument < text.utf8ByteSize then some .argumentTooLong
  else none

/-- What waits in a stream. -/
def written (process : Process) (stream : Nat) : Octets :=
  match process.system.origin? stream with
  | some (.pipe content) => Raw.toOctets content
  | _ => []

/-- The call of the shell of a request. The shell is looked for with the search path
that the request adds to the environment, if any, and only then may it be a script
that names no program. -/
def callOf (request : Request) (process : Process) : Except IoFault Lookup.Call :=
  let name := Raw.ofText request.shell
  let words := [name, raw "-c", Raw.ofText request.script]
  let isSearched := request.environment.any fun v => v.1 = "PATH"
  let path := (process.value? (raw "PATH")).getD Programs.fallbackPath
  let call :=
    if isSearched && !name.contains '/' then Lookup.callOrScript process.tree process.here
    else Lookup.call process.tree process.here
  Lookup.search call path name words

/-- An environment with variables added to it. -/
def withVariables (added : List Variable) (environment : List (Raw × Raw)) : List (Raw × Raw) :=
  added.foldl
    (fun environment v => Errand.withVariable environment (Raw.ofText v.1) (Raw.ofText v.2))
    environment

/-- The process that a shell is asked for in: the variables of the request are added to
the environment. -/
def asking (request : Request) (world : World) : Process :=
  { world.process with
    environment := withVariables request.environment world.process.environment }

/-- A process of its own for a shell, with the two streams that it writes to. -/
def forShell (process : Process) : Process × Nat × Nat :=
  let (output, process) := process.adding { origin := .pipe [], reads := false }
  let (errors, process) := process.adding { origin := .pipe [], reads := false }
  let id := process.system.lastId + 1
  let process :=
    { (process.lead 1 (some output)).lead 2 (some errors) with
      id, system := { process.system with lastId := id } }
  (process, output, errors)

/-- Carries out a script with a shell, in a process of its own that leaves the world's one
the system. -/
def host : Host World := fun request world =>
  let texts := request.shell :: request.script :: request.environment.map (·.2)
  match texts.findSome? argumentFault? with
  | some fault => (.refused fault, world)
  | none =>
    let process := world.asking request
    match callOf request process with
    | .error fault => (.refused fault, world)
    | .ok (program, words) =>
      let (process, output, errors) := forShell process
      let (halt, after) := Programs.carryOut program words process
      (.ended halt.exitStatus (written after output) (written after errors),
        { world with process := world.process.after after })

/-- A world as a machine. -/
def machine : Machine World := ⟨read, host⟩

/-- A world as a machine to which a source has been read beforehand. -/
def machineGiven (input : Except IoFault Octets) : Machine World :=
  ⟨fun _ world => (input, world), host⟩

end World

end Rehearsal

end InstallPlan

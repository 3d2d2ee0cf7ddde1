import InstallPlan.Rehearsal.Stream

/-!
# Rehearsal — Processes

A program that runs: the directory that it is in, the channels by which it
reads and writes, its environment, and the system around it. A process that
another one starts begins with all that the other has, and leaves it the system.
-/

namespace InstallPlan

namespace Rehearsal

/-- A program that runs. -/
structure Process where
  system : System := {}
  /-- The directory that the program is in. -/
  here : Nat := Tree.root
  /-- The streams that channels lead to. -/
  channels : List (Nat × Nat) := []
  environment : List (Raw × Raw) := []
  /-- What new files may not be used for. -/
  mask : Nat := 0o022
  id : Nat := 1000
  /-- The signals that cannot reach the program. -/
  deaf : List Nat := []
  /-- The time at which the program is sent a signal, and the signal. -/
  deadline : Option (Int × Nat) := none

namespace Process

/-- The files. -/
def tree (process : Process) : Tree := process.system.tree

/-- The process with other files. -/
def withTree (tree : Tree) (process : Process) : Process :=
  { process with system := { process.system with tree } }

/-- The process with what another one, which it has started, has changed. -/
def after (outer inner : Process) : Process := { outer with system := inner.system }

/-- The signal that ends the process because its time is over. -/
def overdue? (process : Process) : Option Nat :=
  process.deadline.bind fun (time, signal) =>
    if time ≤ process.system.clock then some signal else none

/-- The stream that a channel leads to. -/
def stream? (process : Process) (channel : Nat) : Option Nat :=
  (process.channels.find? (·.1 = channel)).map (·.2)

/-- The process with a channel that leads to a stream, or is closed. -/
def lead (channel : Nat) (stream : Option Nat) (process : Process) : Process :=
  { process with
    channels := (stream.map fun s => (channel, s)).toList
      ++ process.channels.filter (·.1 ≠ channel) }

/-- The value of a variable of the environment. -/
def value? (process : Process) (name : Raw) : Option Raw :=
  (process.environment.find? (·.1 = name)).map (·.2)

/-- The process with a new stream, and its number. -/
def adding (stream : Stream) (process : Process) : Nat × Process :=
  let (number, system) := process.system.add stream
  (number, { process with system })

/-- Opens a node. -/
def openNode (number : Nat) (access : Access) (process : Process) :
    Except IoFault (Nat × Process) :=
  let opened (origin : Origin) : Nat × Process :=
    process.adding
      { origin, reads := access.reads, writes := access.writes, appends := access.appends }
  match process.tree.entry? number with
  | none | some (.link _) => .error .notFound
  | some (.directory _ _) =>
    if access.writes then .error .isADirectory else .ok (opened (.directory number))
  | some (.program _) =>
    if access.writes then .error .permissionDenied else .ok (opened (.file number))
  | some (.queue _) => .ok (opened (.queue number))
  | some (.device (.channel channel)) =>
    match process.stream? channel with
    | none => .error .notFound
    | some stream =>
      match process.system.origin? stream with
      | some (.file node) =>
        if access.truncates then
          .ok ({ process with
            system := { process.system with
              tree := process.tree.setEntry node (.file []) } }.adding
            { origin := .file node, reads := access.reads, writes := access.writes,
              appends := access.appends })
        else .ok (opened (.file node))
      | some (.directory node) =>
        if access.writes then .error .isADirectory else .ok (opened (.directory node))
      | _ => .ok (stream, process)
  | some (.device device) => .ok (opened (.device device))
  | some (.file _) =>
    if access.truncates then
      let tree := process.tree.update number fun node =>
        { node with entry := .file [], stamp := process.system.clock }
      .ok ((process.withTree tree).adding
        { origin := .file number, reads := access.reads, writes := access.writes,
          appends := access.appends })
    else .ok (opened (.file number))

/-- Opens what a path leads to, and gives the number of the stream. -/
def openPath (path : Raw) (access : Access) (process : Process) :
    Except IoFault (Nat × Process) :=
  match process.tree.spot process.here path (!access.exclusive) with
  | .error fault => .error fault
  | .ok ⟨_, _, some number, _⟩ =>
    if access.exclusive then .error .alreadyThere else process.openNode number access
  | .ok ⟨directory, name, none, slash⟩ =>
    if !access.creates then .error .notFound
    else if slash then .error .isADirectory
    else
      let (number, tree) := process.tree.create directory name
        { entry := .file [], mode := masked process.mask 0o666, stamp := process.system.clock }
      (process.withTree tree).openNode number access

/-- The content of what a path leads to, from its beginning. -/
def contentAt (path : Raw) (process : Process) : Except IoFault Raw × Process :=
  match process.openPath path .reading with
  | .error fault => (.error fault, process)
  | .ok (stream, opened) =>
    match opened.system.waiting stream none with
    | .error fault => (.error fault, process)
    | .ok text => (.ok text, { opened with system := opened.system.consume stream text.length })

/-- What a path leads to, seen through a channel to what that leads to. -/
def status? (path : Raw) (process : Process) : Except IoFault (Nat × Node) :=
  match process.tree.find process.here path with
  | .error fault => .error fault
  | .ok number =>
    match process.tree.node? number with
    | none => .error .notFound
    | some node =>
      match node.entry with
      | .device (.channel channel) =>
        match process.stream? channel with
        | none => .error .notFound
        | some stream =>
          match process.system.origin? stream with
          | some (.file inner) | some (.directory inner) | some (.queue inner) =>
            match process.tree.node? inner with
            | some node => .ok (inner, node)
            | none => .error .notFound
          | some (.device device) => .ok (number, { node with entry := .device device })
          | _ => .ok (number, { node with entry := .queue [] })
      | _ => .ok (number, node)

end Process

end Rehearsal

end InstallPlan

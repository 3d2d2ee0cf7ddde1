import InstallPlan.Rehearsal.Tree.Change

/-!
# Rehearsal — Streams

What is open: files with a position in them, pipes with what waits in them, and
devices. Programs that one of them has handed on to another share a stream, so
each goes on where the other has stopped.
-/

namespace InstallPlan

namespace Rehearsal

/-- What a stream leads to. -/
inductive Origin where
  | file (node : Nat)
  | directory (node : Nat)
  /-- A queue that has a name. -/
  | queue (node : Nat)
  /-- A queue without a name, and what waits in it. -/
  | pipe (content : Raw)
  | device (device : Device)

/-- Something open. -/
structure Stream where
  origin : Origin
  offset : Nat := 0
  reads : Bool := true
  writes : Bool := true
  /-- Whether all that is written goes to the end. -/
  appends : Bool := false

/-- What is wanted of a path that is opened. -/
structure Access where
  reads : Bool := false
  writes : Bool := false
  appends : Bool := false
  creates : Bool := false
  truncates : Bool := false
  /-- Whether the file must be new. -/
  exclusive : Bool := false

namespace Access

/-- To read a file. -/
def reading : Access := { reads := true }

/-- To write a file anew. -/
def writing : Access := { writes := true, creates := true, truncates := true }

/-- To write at the end of a file. -/
def appending : Access := { writes := true, creates := true, appends := true }

/-- To read and write a file from its beginning. -/
def updating : Access := { reads := true, writes := true, creates := true }

end Access

/-- What all programs share. -/
structure System where
  tree : Tree := {}
  streams : Array Stream := #[]
  /-- The time in nanoseconds. -/
  clock : Int := 1700000000000000000
  /-- The number of the program that was started last. -/
  lastId : Nat := 1000
  /-- Whether somebody has found nothing in a queue. -/
  starved : Bool := false

namespace System

/-- The system with a stream more, and its number. -/
def add (stream : Stream) (system : System) : Nat × System :=
  (system.streams.size, { system with streams := system.streams.push stream })

/-- The system with a stream changed. -/
def setStream (number : Nat) (stream : Stream) (system : System) : System :=
  { system with streams := system.streams.modify number fun _ => stream }

/-- What a stream leads to. -/
def origin? (system : System) (number : Nat) : Option Origin :=
  (system.streams[number]?).map Stream.origin

/-- The octets that a device gives, if so many are asked for. -/
def deviceOctets (count : Option Nat) : Device → Raw
  | .null | .channel _ => []
  | .zero | .full => List.replicate (count.getD 65536) '\x00'

/-- What can be read from a stream, at most so many octets. -/
def waiting (system : System) (number : Nat) (count : Option Nat) : Except IoFault Raw :=
  match system.streams[number]? with
  | none => .error .badChannel
  | some stream =>
    let cut (text : Raw) : Raw :=
      match count with
      | some n => text.take n
      | none => text
    if !stream.reads then .error .badChannel
    else
      match stream.origin with
      | .directory _ => .error .isADirectory
      | .pipe content => .ok (cut content)
      | .device device => .ok (deviceOctets count device)
      | .queue node =>
        match system.tree.entry? node with
        | some (.queue content) => .ok (cut content)
        | _ => .ok []
      | .file node =>
        match system.tree.entry? node with
        | some (.file content) => .ok (cut (content.drop stream.offset))
        | _ => .ok []

/-- Takes so many octets out of a stream. -/
def consume (system : System) (number count : Nat) : System :=
  match system.streams[number]? with
  | none => system
  | some stream =>
    match stream.origin with
    | .pipe content =>
      system.setStream number { stream with origin := .pipe (content.drop count) }
    | .file _ => system.setStream number { stream with offset := stream.offset + count }
    | .queue node =>
      match system.tree.entry? node with
      | some (.queue []) => { system with starved := true }
      | some (.queue content) =>
        { system with tree := system.tree.setEntry node (.queue (content.drop count)) }
      | _ => system
    | .device _ | .directory _ => system

/-- A content with a text written at an offset; a gap is filled with zeros. -/
def overwritten (content : Raw) (offset : Nat) (text : Raw) : Raw :=
  if offset = content.length then content ++ text
  else
    content.take offset ++ List.replicate (offset - content.length) '\x00' ++ text
      ++ content.drop (offset + text.length)

/-- Writes to a stream. -/
def write (system : System) (number : Nat) (text : Raw) : Except IoFault System :=
  match system.streams[number]? with
  | none => .error .badChannel
  | some stream =>
    if !stream.writes then .error .badChannel
    else
      match stream.origin with
      | .directory _ => .error .badChannel
      | .pipe content =>
        .ok (system.setStream number { stream with origin := .pipe (content ++ text) })
      | .device .full => if text = [] then .ok system else .error .noRoom
      | .device _ => .ok system
      | .queue node =>
        match system.tree.entry? node with
        | some (.queue content) =>
          .ok { system with tree := system.tree.setEntry node (.queue (content ++ text)) }
        | _ => .ok system
      | .file node =>
        match system.tree.entry? node with
        | some (.file content) =>
          if text = [] then .ok system
          else
            let offset := if stream.appends then content.length else stream.offset
            let tree := system.tree.update node fun node =>
              { node with entry := .file (overwritten content offset text), stamp := system.clock }
            .ok ({ system with tree }.setStream number
              { stream with offset := offset + text.length })
        | _ => .ok system

end System

end Rehearsal

end InstallPlan
